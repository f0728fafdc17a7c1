import OperationStubs.Proofs.Split
import OperationStubs.Run

/-!
# Printed failures

A failure is printed with some of its parts further in: the cause of a run that came to nothing by
four blanks (`RunError.printed_text`), and a note of a diagnostic, behind its first line, by three
(`Diagnostic.noteText_eq`). These texts are made line by line. Here they are told without lines, as
the text itself with a margin behind each of its newlines.
-/

namespace OperationStubs

namespace Text

/-- A text with a margin behind each of its newlines. -/
def inset (margin text : String) : String :=
  String.ofList (text.toList.flatMap fun c => if c = '\n' then c :: margin.toList else [c])

theorem intercalate_pieces (margin text : List Char) :
    ('\n' :: margin).intercalate (pieces '\n' text) =
      text.flatMap fun c => if c = '\n' then c :: margin else [c] := by
  induction text with
  | nil => rfl
  | cons c text ih =>
    obtain ⟨piece, rest, cut⟩ := List.exists_cons_of_ne_nil (pieces_ne_nil (c := '\n') text)
    rw [List.flatMap_cons, ← ih, cut]
    by_cases newline : c = '\n'
    · simp [pieces, cut, newline]
    · cases rest <;> simp [pieces, cut, newline]

theorem inset_eq (margin text : String) :
    inset margin text =
      ("\n" ++ margin).intercalate ((pieces '\n' text.toList).map String.ofList) := by
  apply String.toList_inj.1
  rw [inset, String.toList_ofList, ← intercalate_pieces, String.toList_intercalate, List.map_map]
  simp [Function.comp_def]

/-- A text without the carriage returns before its newlines, and without a newline at its end. -/
def settled : List Char → List Char
  | [] => []
  | ['\n'] => []
  | '\r' :: '\n' :: rest => settled ('\n' :: rest)
  | c :: rest => c :: settled rest

theorem lineList_newline (text : List Char) : lineList ('\n' :: text) = [] :: lineList text := by
  obtain ⟨piece, rest, cut⟩ := List.exists_cons_of_ne_nil (pieces_ne_nil (c := '\n') text)
  simp [lineList, pieces, cut, lineList.go, lineList.dropReturn]

theorem lineList_return (text : List Char) :
    lineList ('\r' :: '\n' :: text) = lineList ('\n' :: text) := by
  obtain ⟨piece, rest, cut⟩ := List.exists_cons_of_ne_nil (pieces_ne_nil (c := '\n') text)
  simp [lineList, pieces, cut, lineList.go, lineList.dropReturn]

/-- A first piece that is empty is one before a newline. -/
theorem eq_newline_of_pieces {text next : List Char} {more : List (List Char)}
    (cut : pieces '\n' text = [] :: next :: more) : ∃ rest, text = '\n' :: rest := by
  cases text with
  | nil => simp [pieces] at cut
  | cons c text =>
    by_cases newline : c = '\n'
    · exact ⟨text, by rw [newline]⟩
    · obtain ⟨piece, rest, cut'⟩ := List.exists_cons_of_ne_nil (pieces_ne_nil (c := '\n') text)
      simp [pieces, newline, cut'] at cut

theorem dropReturn_cons {c : Char} {line : List Char} (stays : c = '\r' → line ≠ []) :
    lineList.dropReturn (c :: line) = c :: lineList.dropReturn line := by
  cases line with
  | nil => simp [lineList.dropReturn, show c ≠ '\r' from fun same => stays same rfl]
  | cons d line =>
    simp only [lineList.dropReturn, List.getLast?_cons_cons, List.dropLast_cons_cons]
    split <;> rfl

theorem lineList_cons {c : Char} {text : List Char} (newline : c ≠ '\n')
    (stays : ∀ rest, c = '\r' → text ≠ '\n' :: rest) {line : List Char} {lines : List (List Char)}
    (own : lineList text = line :: lines) : lineList (c :: text) = (c :: line) :: lines := by
  obtain ⟨piece, rest, cut⟩ := List.exists_cons_of_ne_nil (pieces_ne_nil (c := '\n') text)
  have longer : lineList (c :: text) = lineList.go (c :: piece) rest := by
    simp [lineList, pieces, newline, cut]
  simp only [lineList, cut] at own
  rw [longer]
  cases rest with
  | nil =>
    unfold lineList.go at own ⊢
    split at own
    · cases own
    · cases own
      simp
  | cons next more =>
    have kept : c = '\r' → piece ≠ [] := by
      rintro same rfl
      obtain ⟨rest, eq⟩ := eq_newline_of_pieces cut
      exact stays rest same eq
    unfold lineList.go at own ⊢
    cases own
    rw [dropReturn_cons kept]

/-- The lines of a text are the pieces of the settled text. -/
theorem pieces_settled {text : List Char} (some : text ≠ []) :
    pieces '\n' (settled text) = lineList text := by
  induction text using settled.induct with
  | case1 => exact absurd rfl some
  | case2 => rfl
  | case3 rest ih => rw [settled, ih (by simp), lineList_return]
  | case4 c rest last stays ih =>
    have inside : settled (c :: rest) = c :: settled rest := by
      rw [settled]
      · exact last
      · exact stays
    rw [inside]
    by_cases newline : c = '\n'
    · have more : rest ≠ [] := fun none => last newline none
      rw [newline, lineList_newline, ← ih more]
      simp [pieces]
    · by_cases none : rest = []
      · simp [none, settled, pieces, newline, lineList, lineList.go]
      · obtain ⟨piece, others, cut⟩ :=
          List.exists_cons_of_ne_nil (pieces_ne_nil (c := '\n') (settled rest))
        rw [lineList_cons newline (fun r same eq => stays r same eq) ((ih none).symm.trans cut)]
        simp [pieces, newline, cut]

/-- Lines with a margin between them, or each behind the first with its own. -/
theorem intercalate_lines (margin line : String) (more : List String) :
    ("\n" ++ margin).intercalate (line :: more) ++ "\n" =
      line ++ "\n" ++ String.join (more.map fun l => margin ++ l ++ "\n") := by
  induction more generalizing line with
  | nil => simp
  | cons next more ih =>
    rw [String.intercalate_cons_cons, String.append_assoc, ih, List.map_cons, String.join_cons]
    simp only [String.append_assoc]

/-- A note as it is printed. It goes on below its own first line. -/
def note (text : String) : String :=
  " = " ++ inset "   " (String.ofList (settled text.toList)) ++ "\n"

end Text

namespace Diagnostic

theorem noteText_eq {note : String} (some : note ≠ "") : noteText note = Text.note note := by
  have inside : note.toList ≠ [] := by simpa using some
  have rows : Text.lines note =
      (Text.pieces '\n' (Text.settled note.toList)).map String.ofList := by
    rw [Text.lines, Text.pieces_settled inside]
  obtain ⟨piece, rest, cut⟩ := List.exists_cons_of_ne_nil
    (Text.pieces_ne_nil (c := '\n') (Text.settled note.toList))
  rw [noteText, rows, Text.note, Text.inset_eq, String.toList_ofList, cut, List.map_cons,
    String.append_assoc, Text.intercalate_lines]
  simp only [String.append_assoc]

/-- A diagnostic is printed with its origin, and with the place of that if it is known. -/
theorem text_about (message : String) (origin : Origin) :
    (about message origin).text = "error: " ++ message ++ "\n" ++
      Text.note ("in " ++ origin.name) ++
      (match origin.location with
        | none => ""
        | some location => Text.note ("at " ++ location)) ++ "\n" := by
  have inNote : noteText ("in " ++ origin.name) = Text.note ("in " ++ origin.name) :=
    noteText_eq (by simp)
  have atNote (location : String) :
      noteText ("at " ++ location) = Text.note ("at " ++ location) :=
    noteText_eq (by simp)
  rw [text, about]
  cases origin.location <;> simp [inNote, atNote, String.append_assoc]

end Diagnostic

/-- What is told of a document that could not be read: of one that is none, whatever its reader
says; of any other the problem, behind its line and column and what stands there, if these are
known. -/
inductive Toml.ReadError.Told : ReadError → String → Prop
  | notWellFormed (details : String) :
    Told .notWellFormed ("TOML parse error" ++ details ++ "\n")
  | unplaced (problem : Problem) :
    Told (.unexpected ⟨problem, none⟩) (problem.message ++ "\n")
  | placed (problem : Problem) (span : Span) (line column : Nat) (shown : String) :
    Told (.unexpected ⟨problem, some span⟩) ("TOML parse error at line " ++ toString line ++
      ", column " ++ toString column ++ "\n" ++ shown ++ problem.message ++ "\n")

theorem Toml.ReadError.told_text (document : String) (error : ReadError) :
    error.Told (error.text document) := by
  cases error with
  | notWellFormed => exact .notWellFormed ""
  | unexpected error =>
    obtain ⟨problem, _ | span⟩ := error
    · exact .unplaced problem
    · rw [text]
      dsimp only [excerpt]
      generalize placeIn 1 span.start (Text.pieces '\n' document.toList) = place
      have placed (shown : String) :=
        Told.placed problem span place.line (place.before.length + 1) shown
      generalize "TOML parse error at line " ++ toString place.line ++ ", column " ++
        toString (place.before.length + 1) ++ "\n" = start at placed ⊢
      -- All between the start and the message is what stands there.
      have assoc (a b : String) : start ++ a ++ b = start ++ (a ++ b) := String.append_assoc
      simp only [assoc] at placed ⊢
      exact placed _

namespace RunError

/-- What is printed of a run that came to nothing: the document, what could not be done with it, and
why. -/
inductive Printed : RunError → String → Prop
  | cannotRead (role path : String) (fault : Fault) :
    Printed (.cannotRead role path fault)
      ("Failed to read " ++ role ++ " " ++ path ++ "\n\nCaused by:\n    " ++
        Text.inset "    " fault.message ++ "\n")
  | cannotParse (role path document : String) {error : Toml.ReadError} {cause : String}
    (told : error.Told cause) :
    Printed (.cannotParse role path document error)
      ("Failed to parse " ++ role ++ " " ++ path ++ "\n\nCaused by:\n    " ++
        Text.inset "    " cause ++ "\n")

/-- The cause stands four blanks in, also in its first line. -/
theorem append_cause (start text : String) :
    start ++ "\n\nCaused by:\n" ++ cause text =
      start ++ "\n\nCaused by:\n    " ++ Text.inset "    " text := by
  rw [cause, Text.inset_eq, ← String.append_assoc]
  congr 1
  rw [String.append_assoc]
  rfl

theorem printed_text (error : RunError) : error.Printed (error.text ++ "\n") := by
  cases error with
  | cannotRead role path fault =>
    have printed := Printed.cannotRead role path fault
    rwa [← append_cause] at printed
  | cannotParse role path document error =>
    have printed := Printed.cannotParse role path document (error.told_text document)
    rwa [← append_cause] at printed

end RunError
end OperationStubs
