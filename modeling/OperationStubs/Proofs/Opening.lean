import OperationStubs.Proofs.CompilationUnit
import OperationStubs.Proofs.OneLine

/-!
# What opens a file

Whatever the parts of a class do, and however they end, a file is opened as `Generator.opening` says
and goes on with what the class does behind that (`render_opening`). The header comment is the only
place where the marker and the time show, so behind it all files of a class are the same
(`render_behind_header`). A marker is written as it is: one with a newline goes on in the next line,
where nothing says that it is a comment (`render_behind_header_newline`).
-/

namespace OperationStubs.Generator

open Text

/-- The class behind what opens its file. -/
def members (g : Generator) : Hook Unit := do
  g.doc
  Hook.emitAll [.beginType g.model.className "class" g.model.source.modifiers.forClass
    g.model.superclass, .emptyLine]
  g.body
  Hook.emitAll [.endType]

/-- What the class does behind what opens its file. -/
def behind (g : Generator) (s : Session) : Transcript Unit := g.members.transcript g.declared s

/-- The first line of a file. -/
def headerComment (marker : String) (time : Timestamp) : String :=
  "// " ++ marker ++ " " ++ time.text

/-- The lines between the header comment and the class. -/
def declarations (g : Generator) : String :=
  (if g.model.package = "" then "" else "package " ++ g.model.package ++ ";" ++ "\n" ++ "\n") ++
    (if g.model.imports.isEmpty then ""
      else String.join (g.model.imports.toList.map importText) ++ "\n")

theorem opening_eq (g : Generator) (options : Options) (time : Timestamp) :
    g.opening options time =
      headerComment options.headerMarker time ++ "\n" ++ g.declarations := by
  simp only [opening, headerComment, declarations, String.append_assoc]

variable {σ : Type} {out : Sink (StateM σ)} {content : σ → List UInt8} {g : Generator}

theorem transcript_program_behind (options : Options) (time : Timestamp) (s : Session) :
    (g.program options time).transcript .empty s =
      ⟨g.lead options time ++ (g.behind s).steps, (g.behind s).result, (g.behind s).session⟩ := by
  have lead : g.program options time =
      (Hook.emitAll (g.lead options time) >>= fun _ => g.members) :=
    program_eq
  rw [lead]
  apply Hook.transcript_then (Hook.transcript_emitAll _)
  rw [scopeBehind_lead]
  rfl

/-- A file is opened before the parts of its class do anything. -/
theorem render_opening (steady : Writing.Steady out) (appends : Writing.Appends out content)
    (options : Options) (time : Timestamp) (s : Session) (o : σ) :
    let run := g.render out options time s o
    run.1 = ((g.behind s).result, (g.behind s).session) ∧
      content run.2 = content o ++
        utf8 (g.opening options time ++ (g.behind s).page options.indent 0 g.declared) := by
  have ran : Hook.Ran content (.start options.indent) o
      ((g.program options time).transcript .empty s)
      (Writing.exec ((g.program options time).run out) (.start options.indent) s o) :=
    Hook.exec_run_steady steady appends _ _ s o
  have opened : (Layout.start options.indent).Yields (g.lead options time) _ _ := yields_lead
  have page : (Layout.lineAt options.indent 0 g.declared).draft (g.behind s).steps =
      utf8 ((g.behind s).page options.indent 0 g.declared) := by
    rw [Layout.draft_eq_laid]
    exact Page.laid_start _ _
  rw [render_eq]
  generalize Writing.exec ((g.program options time).run out) (.start options.indent) s o = ended
    at *
  rw [transcript_program_behind] at ran
  constructor
  · exact Prod.ext ran.result ran.session
  · change content ended.output = _
    rw [ran.output, Layout.draft_append, opened.draft, opened.past, page, utf8_append]

/-- A rendering with some marker and time, by what it shares with every other: how it ends, and
`rest`, which stands behind the header comment. -/
structure Headed {σ : Type} (content : σ → List UInt8) (o : σ) (marker : String) (time : Timestamp)
    (ended : Except Fault Unit × Session) (rest : String)
    (run : (Except Fault Unit × Session) × σ) : Prop where
  ended : run.1 = ended
  output : content run.2 = content o ++ utf8 (headerComment marker time ++ "\n" ++ rest)
  /-- The comment is one line, and the lines behind it are the shared ones, just if the marker is
  one line. -/
  lines : pieces '\n' (headerComment marker time ++ "\n" ++ rest).toList =
      (headerComment marker time).toList :: pieces '\n' rest.toList ↔ OneLine marker

theorem oneLine_headerComment {marker : String} {time : Timestamp} :
    OneLine (headerComment marker time) ↔ OneLine marker := by
  have slashes : OneLine "// " := by decide
  have blank : OneLine " " := by decide
  have stamp : OneLine time.text := time.oneLine_text
  simp [headerComment, slashes, blank, stamp]

/-- A text is the first line of what it begins just if it is one line. -/
theorem pieces_line_iff {first rest : String} :
    pieces '\n' (first ++ "\n" ++ rest).toList = first.toList :: pieces '\n' rest.toList ↔
      OneLine first := by
  have newline : "\n".toList = ['\n'] := by decide
  have split : pieces '\n' (first ++ "\n" ++ rest).toList =
      pieces '\n' first.toList ++ pieces '\n' rest.toList := by
    rw [← pieces_append, String.toList_append, String.toList_append, newline, List.append_assoc]
    rfl
  rw [split]
  constructor
  · intro lines
    have single : pieces '\n' first.toList = [first.toList] := List.append_cancel_right lines
    exact notMem_of_mem_pieces (single ▸ List.mem_singleton_self _)
  · intro one
    rw [pieces_of_notMem one]
    rfl

/-- Neither the marker nor the time shows behind the header comment. -/
theorem render_behind_header (steady : Writing.Steady out)
    (appends : Writing.Appends out content) (g : Generator) (options : Options) (s : Session) :
    ∃ ended rest, ∀ marker time o, Headed content o marker time ended rest
      (g.render out { options with headerMarker := marker } time s o) := by
  refine ⟨((g.behind s).result, (g.behind s).session),
    g.declarations ++ (g.behind s).page options.indent 0 g.declared, fun marker time o => ?_⟩
  obtain ⟨ended, output⟩ :=
    render_opening steady appends (g := g) { options with headerMarker := marker } time s o
  rw [opening_eq, String.append_assoc] at output
  constructor
  · exact ended
  · exact output
  · exact pieces_line_iff.trans oneLine_headerComment

/-- A class whose hook fails half way, with and without a newline in the marker. -/
theorem render_behind_header_failing :
    let out : Sink (StateM (List UInt8)) := fun bytes held => (.ok (), held ++ bytes)
    let load : Method := ⟨⟨"p.Ops", "load", []⟩, [], "void"⟩
    let body : Hook Unit := do
      let id ← Hook.loaderId load
      Hook.emit (.line ("// " ++ toString id.toNat))
      Hook.fail .diskFull
    let g : Generator :=
      ⟨⟨⟨"p.Ops", "p", ∅, none⟩, [load], "X", .ofList ["java.util.List"], none⟩,
        Hook.emit (.javadoc "Loads."), body⟩
    let run (marker : String) :=
      g.render out { headerMarker := marker } ⟨2024, 1, 1, 0, 0, 0⟩ .empty []
    let rest := "package p;\n\nimport java.util.List;\n\n/**\n * Loads.\n */\n" ++
      "class OpsX \x7b\n\n  // 1\n"
    Writing.Steady out ∧ Writing.Appends out id ∧
      (∃ ended rest, ∀ marker time o, Headed id o marker time ended rest
        (g.render out { headerMarker := marker } time .empty o)) ∧
      (run "opgen").2 = utf8 ("// opgen 2024-01-01 00:00:00\n" ++ rest) ∧
      (run "op\ngen").2 = utf8 ("// op\ngen 2024-01-01 00:00:00\n" ++ rest) := by
  intro out load body g run rest
  have steady : Writing.Steady out := fun _ _ => rfl
  have appends : Writing.Appends out id := fun _ _ => rfl
  exact ⟨steady, appends, render_behind_header steady appends g {} .empty, by decide +kernel,
    by decide +kernel⟩

/-- With a newline in its marker the header is two lines, and the second is no comment. -/
theorem render_behind_header_newline :
    let out : Sink (StateM (List UInt8)) := fun bytes held => (.ok (), held ++ bytes)
    let g : Generator :=
      ⟨⟨⟨"Ops", "", ∅, none⟩, [], "X", ∅, none⟩, pure (), pure ()⟩
    let run (marker : String) :=
      (g.render out { headerMarker := marker } ⟨2024, 1, 1, 0, 0, 0⟩ .empty []).2
    let lines (text : String) := pieces '\n' text.toList
    let class_ := "class OpsX \x7b\n\n\x7d\n"
    let text := "// opgen 2024-01-01 00:00:00\n" ++ class_
    let broken := "// opgen\nclass Extra \x7b\x7d 2024-01-01 00:00:00\n" ++ class_
    run "opgen" = utf8 text ∧ run "opgen\nclass Extra \x7b\x7d" = utf8 broken ∧
      (lines text).tail ≠ (lines broken).tail := by
  decide +kernel

end OperationStubs.Generator
