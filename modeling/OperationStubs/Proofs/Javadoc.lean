import OperationStubs.Proofs.ByteOrder
import OperationStubs.Proofs.Lines

/-!
# The text a comment carries

A comment is read back row by row: the margin goes off first, then a row goes on to its newline, and
behind ` * ` stands a line of the text. Rows hold no newline, so it is the margin of the next row
that follows one, whatever the unit of indentation is made of (`nextRow?_append`). No row of a text
looks like the one that closes a comment, so a reader stops where the comment does
(`readRows_append`), and what it has read are the lines of the text (`javadoc_carries`).
-/

namespace OperationStubs

open Text

namespace Page

theorem toList_ended_cons (line : String) (lines : List String) :
    (ended (line :: lines)).toList = line.toList ++ '\n' :: (ended lines).toList := by
  have newline : "\n".toList = ['\n'] := by decide
  simp [ended, newline]

/-- Lines that were ended are cut again where they end. -/
theorem pieces_ended {lines : List String} (oneLine : ∀ line ∈ lines, OneLine line) :
    pieces '\n' (ended lines).toList = lines.map String.toList ++ [[]] := by
  induction lines with
  | nil => rfl
  | cons line lines ih =>
    obtain ⟨first, others⟩ := List.forall_mem_cons.1 oneLine
    rw [toList_ended_cons, pieces_append, pieces_of_notMem first, ih others]
    rfl

end Page

namespace Javadoc

/-- A comment behind a margin. -/
def block (margin : String) (lines : List String) : String :=
  Page.ended ((rows lines).map (margin ++ ·))

/-- The next row of a text without its margin, and what follows the newline that ends it. -/
def nextRow? (margin text : List Char) : Option (List Char × List Char) :=
  match after? margin text with
  | none => none
  | some behind =>
    match behind.dropWhile (· != '\n') with
    | [] => none
    | _ :: rest => some (behind.takeWhile (· != '\n'), rest)

/-- The line that a row carries: what follows ` * `, or an empty one for ` *`. -/
def carried? (row : List Char) : Option (List Char) :=
  match after? " * ".toList row with
  | some line => some line
  | none => if row = " *".toList then some [] else none

theorem length_of_nextRow? {margin text row rest : List Char}
    (next : nextRow? margin text = some (row, rest)) : rest.length < text.length := by
  unfold nextRow? at next
  split at next
  · cases next
  · rename_i behind cut
    split at next
    · cases next
    · rename_i c left dropped
      obtain ⟨-, rfl⟩ := Prod.mk.inj (Option.some.inj next)
      have shorter := (List.dropWhile_suffix (l := behind) (· != '\n')).length_le
      rw [dropped, List.length_cons] at shorter
      rw [eq_append_of_after? cut, List.length_append]
      omega

/-- Reads rows up to the one that closes a comment. -/
def readRows (margin text : List Char) : Option (List String × List Char) :=
  match h : nextRow? margin text with
  | none => none
  | some (row, rest) =>
    have := length_of_nextRow? h
    if row = " */".toList then some ([], rest)
    else
      match carried? row, readRows margin rest with
      | some line, some (lines, behind) => some (String.ofList line :: lines, behind)
      | _, _ => none
termination_by text.length

/-- Reads a comment: the lines it carries, and what follows it. -/
def read? (margin text : List Char) : Option (List String × List Char) :=
  match nextRow? margin text with
  | some (row, rest) => if row = "/**".toList then readRows margin rest else none
  | none => none

theorem nextRow?_append (margin : List Char) {row : List Char} (inside : '\n' ∉ row)
    (rest : List Char) : nextRow? margin (margin ++ (row ++ '\n' :: rest)) = some (row, rest) := by
  have other : ∀ c ∈ row, (c != '\n') = true := by
    intro c mem
    rw [bne_iff_ne]
    rintro rfl
    exact inside mem
  unfold nextRow?
  rw [after?_append]
  simp only [List.takeWhile_append_of_pos other, List.dropWhile_append_of_pos other]
  simp

/-- Of ` * ` and ` *` only one can be meant: nothing stands behind the one, and a blank behind the
other. -/
theorem carried?_javadocLine (line : String) :
    carried? (Writing.javadocLine line).toList = some line.toList := by
  unfold carried? Writing.javadocLine
  by_cases none : line = ""
  · rw [if_pos none, none]
    decide
  · rw [if_neg none, String.toList_append, after?_append]

theorem javadocLine_ne_closing (line : String) :
    (Writing.javadocLine line).toList ≠ " */".toList := by
  intro same
  have none : carried? " */".toList = none := by decide
  rw [← same, carried?_javadocLine] at none
  cases none

/-- A row is read at its margin, and the rest after it. -/
theorem readRows_row (margin : List Char) {row : List Char} (inside : '\n' ∉ row)
    (rest : List Char) : readRows margin (margin ++ (row ++ '\n' :: rest)) =
      if row = " */".toList then some ([], rest)
      else
        match carried? row, readRows margin rest with
        | some line, some (lines, behind) => some (String.ofList line :: lines, behind)
        | _, _ => none := by
  have next := nextRow?_append margin inside rest
  rw [readRows]
  split
  · rename_i none
    rw [next] at none
    cases none
  · rename_i found
    rw [next] at found
    obtain ⟨rfl, rfl⟩ := Prod.mk.inj (Option.some.inj found)
    rfl

/-- Whatever follows a comment, its lines are read and no more. -/
theorem readRows_append (margin : String) {lines : List String}
    (oneLine : ∀ line ∈ lines, OneLine line) (rest : List Char) :
    readRows margin.toList ((Page.ended
      ((lines.map Writing.javadocLine ++ [" */"]).map (margin ++ ·))).toList ++ rest) =
        some (lines, rest) := by
  -- Row by row. The margin of a row goes off with it, so what is left is again such a text.
  induction lines with
  | nil =>
    have closing : OneLine " */" := by decide
    rw [List.map_nil, List.nil_append, List.map_singleton, Page.toList_ended_cons,
      String.toList_append, List.append_assoc, List.append_assoc]
    exact readRows_row margin.toList closing rest
  | cons line lines ih =>
    obtain ⟨first, others⟩ := List.forall_mem_cons.1 oneLine
    have own := Writing.oneLine_javadocLine first
    rw [List.map_cons, List.cons_append, List.map_cons, Page.toList_ended_cons,
      String.toList_append, List.append_assoc, List.append_assoc, List.cons_append,
      readRows_row margin.toList own, if_neg (javadocLine_ne_closing line),
      carried?_javadocLine, ih others]
    exact congrArg (fun line => some (line :: lines, rest)) String.ofList_toList

theorem read?_block (margin : String) {lines : List String}
    (oneLine : ∀ line ∈ lines, OneLine line) (rest : List Char) :
    read? margin.toList ((block margin lines).toList ++ rest) = some (lines, rest) := by
  have opening : OneLine "/**" := by decide
  rw [block, rows, List.map_cons, Page.toList_ended_cons, String.toList_append, List.append_assoc,
    List.append_assoc, List.cons_append, read?, nextRow?_append margin.toList opening]
  exact readRows_append margin oneLine rest

/-- Comments that carry different lines are different. -/
theorem block_inj (margin : String) {lines lines' : List String}
    (oneLine : ∀ line ∈ lines, OneLine line) (oneLine' : ∀ line ∈ lines', OneLine line) :
    block margin lines = block margin lines' ↔ lines = lines' := by
  refine ⟨fun same => ?_, congrArg (block margin)⟩
  have own := read?_block margin oneLine []
  rw [same, read?_block margin oneLine' []] at own
  exact (Prod.mk.inj (Option.some.inj own)).1.symm

/-- A text that is a comment behind a margin and carries some lines. -/
structure Carries (margin : String) (lines : List String) (text : String) : Prop where
  written : text = Page.ended ((rows lines).map (margin ++ ·))
  /-- With no newline in the margin, the rows are what the text is cut into at its newlines. -/
  cut : OneLine margin →
    pieces '\n' text.toList = (rows lines).map (fun row => (margin ++ row).toList) ++ [[]]
  /-- Whatever follows the text, it is read back. -/
  read : ∀ rest, read? margin.toList (text.toList ++ rest) = some (lines, rest)

theorem carries_block (margin : String) {lines : List String}
    (oneLine : ∀ line ∈ lines, OneLine line) : Carries margin lines (block margin lines) := by
  constructor
  · rfl
  · intro inside
    have all : ∀ row ∈ (rows lines).map (margin ++ ·), OneLine row := by
      intro row mem
      obtain ⟨own, among, rfl⟩ := List.mem_map.1 mem
      exact oneLine_append.2 ⟨inside, oneLine_rows oneLine own among⟩
    rw [block, Page.pieces_ended all, List.map_map]
    rfl
  · exact read?_block margin oneLine

end Javadoc

namespace Layout

variable {l : Layout}

theorem stepBytes_javadoc (start : l.atLineStart = true) (text : String) :
    l.stepBytes (.javadoc text) =
      utf8 (Javadoc.block (String.join (List.replicate l.depth l.indent)) (Text.lines text)) := by
  have laid := bytes_append_laid l (Step.text l.scope (.javadoc text)).toList []
  have margins : ((Step.javadoc text).rows l.scope).map (Page.indented l.indent l.depth) =
      ((Step.javadoc text).rows l.scope).map
        (String.join (List.replicate l.depth l.indent) ++ ·) := by
    refine List.map_congr_left fun row mem => ?_
    have full : (Step.javadoc text).Full := trivial
    rw [Page.indented, if_neg (full.visible l.scope row mem).ne_empty]
  rw [Page.laid, List.append_nil, start, Page.laid_start, Step.text_javadoc,
    Page.ofMarks_rows l.indent l.depth (Step.oneLine_javadoc text l.scope), margins] at laid
  rw [stepBytes_eq rfl, Step.text_javadoc, laid]
  exact congrArg utf8 String.append_empty

theorem pastStep_javadoc (start : l.atLineStart = true) (text : String) :
    l.pastStep (.javadoc text) = l := by
  have last : " */\n" = " */" ++ "\n" := by decide
  change l.past (Step.text l.scope (.javadoc text)).toList = l
  rw [Step.text, last, ← String.append_assoc, past_line, ← start]

end Layout

namespace Writing

variable {σ : Type} {out : Sink (StateM σ)} {content : σ → List UInt8}

/-- On an output that never fails a comment is written whole, and leaves the writer as it was. -/
theorem exec_javadoc (steady : Steady out) (appends : Appends out content) {l : Layout}
    (start : l.atLineStart = true) (text : String) (s : Session) (o : σ) :
    let ended := exec (javadoc out.lift text) l s o
    ended = ⟨.ok (), l, s, ended.output⟩ ∧ content ended.output = content o ++
      utf8 (Javadoc.block (String.join (List.replicate l.depth l.indent)) (Text.lines text)) := by
  intro ended
  have result : ended.result = .ok () := ((sends_step (.javadoc text) l).ok steady s o).1
  have left : ended.layout = l.pastStep (.javadoc text) :=
    ((sends_step (.javadoc text) l).ok steady s o).2
  obtain ⟨session, took, -⟩ : ended.session = s ∧
      Took content o ended.output (l.stepBytes (.javadoc text)) ended.result ∧ _ :=
    writes_step appends (.javadoc text) l s o
  rw [Layout.pastStep_javadoc start] at left
  rw [result, Layout.stepBytes_javadoc start] at took
  refine ⟨?_, took⟩
  calc ended
    _ = ⟨ended.result, ended.layout, ended.session, ended.output⟩ := rfl
    _ = ⟨.ok (), l, s, ended.output⟩ := by rw [result, left, session]

/-- At the start of a line, on an output that never fails, a comment is written that carries the
lines of its text. Comments are the same just if their texts have the same lines. -/
theorem javadoc_carries (steady : Steady out) (appends : Appends out content) {l : Layout}
    (start : l.atLineStart = true) (text : String) (s : Session) (o : σ) :
    let run (text : String) := exec (javadoc out.lift text) l s o
    run text = ⟨.ok (), l, s, (run text).output⟩ ∧
      (∃ block, content (run text).output = content o ++ utf8 block ∧
        Javadoc.Carries (String.join (List.replicate l.depth l.indent)) (Text.lines text) block) ∧
      ∀ other, content (run other).output = content (run text).output ↔
        Text.lines other = Text.lines text := by
  intro run
  have oneLine (text : String) : ∀ line ∈ Text.lines text, OneLine line :=
    fun _ mem => oneLine_of_mem_lines mem
  have written (text : String) : content (run text).output = _ :=
    (exec_javadoc steady appends start text s o).2
  refine ⟨(exec_javadoc steady appends start text s o).1,
    ⟨_, written text, Javadoc.carries_block _ (oneLine text)⟩, fun other => ?_⟩
  rw [written, written, List.append_cancel_left_eq, utf8_inj]
  exact Javadoc.block_inj _ (oneLine other) (oneLine text)

/-- A text with blanks and stars of its own, a carriage return that stays and one that goes, in a
margin of two units. -/
theorem javadoc_carries_stars :
    let out : Sink (StateM (List UInt8)) := fun bytes held => (.ok (), held ++ bytes)
    let l : Layout := ⟨"\t", 2, true, .empty⟩
    let text := "a\r\n\n \n * b\n*/\nc\r"
    let ended := exec (javadoc out.lift text) l .empty []
    Steady out ∧ Appends out id ∧ l.atLineStart = true ∧
      (∃ block, ended.output = utf8 block ∧
        Javadoc.Carries "\t\t" ["a", "", " ", " * b", "*/", "c\r"] block) ∧
      ended.output = utf8 ("\t\t/**\n\t\t * a\n\t\t *\n\t\t *  \n\t\t *  * b\n" ++
        "\t\t * */\n\t\t * c\r\n\t\t */\n") := by
  intro out l text ended
  have steady : Steady out := fun _ _ => rfl
  have appends : Appends out id := fun _ _ => rfl
  have start : l.atLineStart = true := rfl
  obtain ⟨-, ⟨block, written, carries⟩, -⟩ :=
    javadoc_carries steady appends start text .empty []
  have lines : Text.lines text = ["a", "", " ", " * b", "*/", "c\r"] := by decide +kernel
  have margin : String.join (List.replicate l.depth l.indent) = "\t\t" := by decide +kernel
  rw [lines, margin] at carries
  exact ⟨steady, appends, start, ⟨block, written, carries⟩, by decide +kernel⟩

end Writing
end OperationStubs
