import OperationStubs.Proofs.ByteOrder
import OperationStubs.Proofs.Transcript

/-!
# The text of a compilation unit

The frame of a class stands at depth zero, where text is written as it is, so whatever its names
hold it comes out as spelled in `Generator.unit`. Between its parts stand the pages of what the
generator supplies, one at depth zero and one at depth one. With nothing before, between or behind
them a class is rendered to exactly that (`render_eq_unit`).
-/

namespace OperationStubs

namespace Layout

/-- At depth zero text is written as it is, newlines included. -/
theorem bytes_top {l : Layout} (top : l.depth = 0) (text : List Char) :
    l.bytes text = text.flatMap String.utf8EncodeChar := by
  induction text generalizing l with
  | nil => rfl
  | cons c text ih =>
    have rest := ih (l := l.pastChar c) top
    rw [bytes, rest, List.flatMap_cons]
    by_cases newline : c = '\n'
    · subst newline
      rfl
    · simp [charBytes, newline, margin, top]

/-- Behind a text that ends with a newline stands the start of a line. -/
theorem pastStep_eq_lineAt {l : Layout} {step : Step} (start : l.atLineStart = true)
    (ended : ∀ last ∈ (step.text l.scope).toList.getLast?, last = '\n') :
    l.pastStep step =
      lineAt l.indent (step.depthBehind l.depth) (step.scopeBehind l.scope) := by
  have line : (l.pastStep step).atLineStart = true := by
    have same : (step.before l).atLineStart = l.atLineStart := by cases step <;> rfl
    rw [atLineStart_pastStep, atLineStart_past, Step.text_before, same, start]
    cases last : (step.text l.scope).toList.getLast? with
    | none => rfl
    | some c => simp [ended c last]
  have behind := eq_lineAt (l.depth_pastStep step) line (l.scope_pastStep step)
  rw [l.indent_pastStep] at behind
  exact behind

/-- A call whose text stands at depth zero and ends with a newline. -/
theorem yields_top {l : Layout} {step : Step} (top : step.depthWithin l.depth = 0)
    (start : l.atLineStart = true)
    (ended : ∀ last ∈ (step.text l.scope).toList.getLast?, last = '\n') :
    l.Yields [step] (step.text l.scope)
      (lineAt l.indent (step.depthBehind l.depth) (step.scopeBehind l.scope)) := by
  constructor
  · rw [draft_cons, draft_nil, List.append_nil, stepBytes, Step.text_before, bytes_top]
    · rfl
    · rw [Step.depth_before]
      exact top
  · exact pastStep_eq_lineAt start ended

theorem yields_emptyLine {l : Layout} (start : l.atLineStart = true) :
    l.Yields [.emptyLine] "\n" l := by
  constructor
  · have newline : "\n".toList = ['\n'] := by decide
    rw [draft_cons, draft_nil, List.append_nil, stepBytes_eq rfl, Step.text, newline]
    exact List.append_nil _
  · rw [pastSteps_cons, pastStep_emptyLine, ← start]
    rfl

end Layout

namespace Generator

variable (g : Generator) (options : Options) (time : Timestamp) (s : Session)

/-- What the frame declares before the class. -/
def declared : Scope := ⟨g.model.package, g.model.imports⟩

/-- What the generator does before the header of the class. -/
def docPart : Transcript Unit := g.doc.transcript g.declared s

/-- What is in scope from the header on. -/
def inside : Scope := (g.docPart s).scopeBehind g.declared

/-- What the generator does between the braces of the class. -/
def bodyPart : Transcript Unit := g.body.transcript (g.inside s) (g.docPart s).session

/-- The text that opens a file. -/
def opening : String :=
  "// " ++ options.headerMarker ++ " " ++ time.text ++ "\n" ++
    (if g.model.package = "" then "" else "package " ++ g.model.package ++ ";" ++ "\n" ++ "\n") ++
    (if g.model.imports.isEmpty then ""
      else String.join (g.model.imports.toList.map importText) ++ "\n")

/-- The header of the class, with its base class as short as `scope` allows. -/
def header (scope : Scope) : String :=
  let modifiers := Modifier.all.filter fun m => m != .static && g.model.source.modifiers.has m
  let base := match g.model.superclass with
    | some type => " extends " ++ scope.shorten type
    | none => ""
  String.join (modifiers.map fun m => m.word ++ " ") ++ "class " ++ g.model.className ++ base ++
    " \x7b\n"

/-- The text of the whole file. -/
def unit : String :=
  g.opening options time ++ (g.docPart s).page options.indent 0 g.declared ++
    g.header (g.inside s) ++ "\n" ++ (g.bodyPart s).page options.indent 1 (g.inside s) ++ "\x7d\n"

variable {g s}

/-- The calls that open a file. -/
def lead : List Step :=
  [.comment (options.headerMarker ++ " " ++ time.text), .package g.model.package] ++
    if g.model.imports.isEmpty then [] else [.imports g.model.imports.toList, .emptyLine]

end Generator

/-- A line ends with a newline. -/
theorem getLast?_line (text : String) : ∀ last ∈ (text ++ "\n").toList.getLast?, last = '\n' := by
  intro last mem
  have newline : "\n".toList = ['\n'] := by decide
  rw [String.toList_append, newline, List.getLast?_concat] at mem
  exact (Option.some.inj mem).symm

/-- The lines of some imports end with a newline, if there are any. -/
theorem getLast?_imports (names : List String) :
    ∀ last ∈ (String.join (names.map importText)).toList.getLast?, last = '\n' := by
  rcases List.eq_nil_or_concat names with rfl | ⟨before, name, rfl⟩
  · intro last mem
    cases mem
  · have split : String.join ((before.concat name).map importText) =
        String.join (before.map importText) ++ ("import " ++ name ++ ";") ++ "\n" := by
      simp [importText, String.append_assoc]
    rw [split]
    exact getLast?_line _

namespace Generator

variable {g : Generator} {options : Options} {time : Timestamp} {s : Session}

theorem yields_comment (indent text : String) :
    (Layout.lineAt indent 0 .empty).Yields [.comment text] ("// " ++ text ++ "\n")
      (.lineAt indent 0 .empty) := by
  have call : (Layout.lineAt indent 0 .empty).Yields [.comment text] _ _ :=
    Layout.yields_top rfl rfl (getLast?_line _)
  exact call

theorem yields_package (indent name : String) :
    (Layout.lineAt indent 0 .empty).Yields [.package name]
      (if name = "" then "" else "package " ++ name ++ ";" ++ "\n" ++ "\n")
      (.lineAt indent 0 ⟨name, ∅⟩) := by
  have ended : ∀ last ∈ (Step.text .empty (.package name)).toList.getLast?, last = '\n' := by
    by_cases default : name = ""
    · subst default
      intro last mem
      cases mem
    · simp only [Step.text, default, if_false]
      exact getLast?_line _
  have call : (Layout.lineAt indent 0 .empty).Yields [.package name] _ _ :=
    Layout.yields_top rfl rfl ended
  exact call

theorem yields_imports (indent package : String) (names : NameSet) :
    (Layout.lineAt indent 0 ⟨package, ∅⟩).Yields
      (if names.isEmpty then [] else [.imports names.toList, .emptyLine])
      (if names.isEmpty then "" else String.join (names.toList.map importText) ++ "\n")
      (.lineAt indent 0 ⟨package, names⟩) := by
  have imported : NameSet.insertAll ∅ names.toList = names := names.ofList_toList
  cases none : names.isEmpty with
  | true =>
    have empty : names.toList = [] := List.isEmpty_iff.1 none
    rw [empty] at imported
    rw [← imported]
    exact ⟨rfl, rfl⟩
  | false =>
    have call : (Layout.lineAt indent 0 ⟨package, ∅⟩).Yields [.imports names.toList] _ _ :=
      Layout.yields_top rfl rfl (getLast?_imports _)
    simp only [Step.text, Step.scopeBehind, names.ofList_toList] at call
    rw [show (Layout.lineAt indent 0 ⟨package, ∅⟩).scope.imported = ∅ from rfl, imported] at call
    exact call.append (Layout.yields_emptyLine rfl)

/-- What opens a file is written as it is. -/
theorem yields_lead :
    (Layout.start options.indent).Yields (g.lead options time) (g.opening options time)
      (.lineAt options.indent 0 g.declared) :=
  ((yields_comment options.indent (options.headerMarker ++ " " ++ time.text)).append
    (yields_package options.indent g.model.package)).append (yields_imports _ _ _)

/-- The header is written as it is, and what follows stands one level deeper. -/
theorem yields_header (indent : String) (scope : Scope) :
    (Layout.lineAt indent 0 scope).Yields
      [.beginType g.model.className "class" g.model.source.modifiers.forClass g.model.superclass,
        .emptyLine]
      (g.header scope ++ "\n") (.lineAt indent 1 scope) := by
  have call : (Layout.lineAt indent 0 scope).Yields [.beginType g.model.className "class"
      g.model.source.modifiers.forClass g.model.superclass] _ _ :=
    Layout.yields_top rfl rfl (getLast?_line _)
  have text : Step.text scope (.beginType g.model.className "class"
      g.model.source.modifiers.forClass g.model.superclass) = g.header scope := by
    have word : "class " = "class" ++ " " := by decide
    have brace : " \x7b\n" = " \x7b" ++ "\n" := by decide
    simp only [Step.text, header, Writing.typeHeader, word, brace, ← String.append_assoc]
    rfl
  rw [← text]
  exact call.append (Layout.yields_emptyLine rfl)

/-- The brace that closes the class stands in the first column. -/
theorem yields_close (indent : String) (scope : Scope) :
    (Layout.lineAt indent 1 scope).Yields [.endType] "\x7d\n" (.lineAt indent 0 scope) := by
  have call : (Layout.lineAt indent 1 scope).Yields [.endType] _ _ :=
    Layout.yields_top rfl rfl (getLast?_line "\x7d")
  exact call

theorem scopeBehind_lead : (g.lead options time).foldl Step.scopeBehind .empty = g.declared := by
  have opened : (Layout.start options.indent).Yields (g.lead options time) _ _ := yields_lead
  exact (Layout.scope_pastSteps _ _).symm.trans (congrArg Layout.scope opened.past)

theorem program_eq :
    g.program options time =
      (Hook.emitAll (g.lead options time) >>= fun _ => g.doc >>= fun _ =>
        Hook.emitAll [.beginType g.model.className "class" g.model.source.modifiers.forClass
          g.model.superclass, .emptyLine] >>= fun _ => g.body >>= fun _ =>
            Hook.emitAll [.endType]) := by
  unfold program lead
  cases none : g.model.imports.isEmpty <;> simp [Hook.emitAll_cons, Hook.emitAll_nil]

/-- Where its parts go well, a class is its frame around their calls. -/
theorem transcript_program (doc : (g.docPart s).result = .ok ())
    (body : (g.bodyPart s).result = .ok ()) :
    (g.program options time).transcript .empty s =
      ⟨g.lead options time ++ ((g.docPart s).steps ++ ([.beginType g.model.className "class"
        g.model.source.modifiers.forClass g.model.superclass, .emptyLine] ++
          ((g.bodyPart s).steps ++ [.endType]))), .ok (), (g.bodyPart s).session⟩ := by
  have docs : g.doc.transcript g.declared s =
      ⟨(g.docPart s).steps, .ok (), (g.docPart s).session⟩ := by
    rw [← doc]
    rfl
  have bodies : g.body.transcript (g.inside s) (g.docPart s).session =
      ⟨(g.bodyPart s).steps, .ok (), (g.bodyPart s).session⟩ := by
    rw [← body]
    rfl
  rw [program_eq]
  apply Hook.transcript_then (Hook.transcript_emitAll _)
  rw [scopeBehind_lead]
  apply Hook.transcript_then docs
  apply Hook.transcript_then (Hook.transcript_emitAll _)
  apply Hook.transcript_then bodies
  exact Hook.transcript_emitAll _

/-- What the calls of a class write, and where they leave the writer. -/
theorem yields_program (doc : (g.docPart s).Tidy 0 g.declared)
    (body : (g.bodyPart s).Tidy 1 (g.inside s)) :
    (Layout.start options.indent).Yields
      ((g.program options time).transcript .empty s).steps (g.unit options time s)
      (.lineAt options.indent 0 ((g.bodyPart s).scopeBehind (g.inside s))) := by
  have before : (Layout.start options.indent).Yields (g.lead options time) (g.opening options time)
      (.lineAt options.indent 0 g.declared) := yields_lead
  have header : (Layout.lineAt options.indent 0 (g.inside s)).Yields
      [.beginType g.model.className "class" g.model.source.modifiers.forClass g.model.superclass,
        .emptyLine]
      (g.header (g.inside s) ++ "\n") (.lineAt options.indent 1 (g.inside s)) :=
    yields_header _ _
  have all := before.append ((doc.yields _).append
    (header.append ((body.yields _).append (yields_close _ _))))
  rw [transcript_program doc.ok body.ok]
  simp only [← String.append_assoc] at all
  exact all

/-- How rendering ends where everything goes well: the session is what the two parts left, and
`text` has been added to the output. -/
structure Rendered {σ : Type} (content : σ → List UInt8) (o : σ) (text : String) (after : Session)
    (ended : (Except Fault Unit × Session) × σ) : Prop where
  ok : ended.1.1 = .ok ()
  session : ended.1.2 = after
  output : content ended.2 = content o ++ utf8 text

/-- Every class is its frame around its two parts. -/
theorem render_eq_unit {σ : Type} {out : Sink (StateM σ)} {content : σ → List UInt8}
    (steady : Writing.Steady out) (appends : Writing.Appends out content)
    (doc : (g.docPart s).Tidy 0 g.declared) (body : (g.bodyPart s).Tidy 1 (g.inside s)) (o : σ) :
    Rendered content o (g.unit options time s) (g.bodyPart s).session
        (g.render out options time s o) ∧
      g.model.imports.toList.Pairwise fun a b => utf8 a < utf8 b := by
  have ran : Hook.Ran content (.start options.indent) o
      ((g.program options time).transcript .empty s)
      (Writing.exec ((g.program options time).run out) (.start options.indent) s o) :=
    Hook.exec_run_steady steady appends _ _ s o
  have text : (Layout.start options.indent).Yields
      ((g.program options time).transcript .empty s).steps _ _ := yields_program doc body
  have program : (g.program options time).transcript .empty s = _ :=
    transcript_program doc.ok body.ok
  rw [render_eq]
  generalize Writing.exec ((g.program options time).run out) (.start options.indent) s o = ended
    at *
  constructor
  · constructor
    · change ended.result = _
      rw [ran.result, program]
    · change ended.session = _
      rw [ran.session, program]
    · change content ended.output = _
      rw [ran.output, text.draft]
  · exact g.model.imports.ascending.imp utf8_lt_utf8

/-- A static class with newlines in its names, whose base class is imported. -/
theorem render_eq_unit_newlines :
    let out : Sink (StateM (List UInt8)) := fun bytes held => (.ok (), held ++ bytes)
    let load : Method := ⟨⟨"p.Ops", "load", []⟩, [], "void"⟩
    let body : Hook Unit := do
      let id ← Hook.loaderId load
      Hook.emit (.beginMethod none "Ops" ∅ [("java.util.List", "list")])
      Hook.emit (.statement ("load\n" ++ toString id.toNat))
      Hook.emit .endMethod
    let g : Generator :=
      { model :=
          { source := ⟨"a\nb.Out.In", "a\nb", .ofList [.final, .static, .public], none⟩
            methods := [load]
            suffix := "\nS"
            imports := .ofList ["java.util.List", "b.Base", "java.util.List"]
            superclass := some "b.Base" }
        doc := Hook.emit (.javadoc "Loads.\n")
        body }
    let options : Options := { headerMarker := "opgen" }
    let time : Timestamp := ⟨2024, 1, 1, 0, 0, 0⟩
    let text := "// opgen 2024-01-01 00:00:00\npackage a\nb;\n\n" ++
      "import b.Base;\nimport java.util.List;\n\n/**\n * Loads.\n */\n" ++
      "public final class Out$In\nS extends Base \x7b\n\n" ++
      "  Ops(final List list) \x7b\n    load\n    1;\n  \x7d\n\x7d\n"
    Writing.Steady out ∧ Writing.Appends out id ∧ (g.docPart .empty).Tidy 0 g.declared ∧
      (g.bodyPart .empty).Tidy 1 (g.inside .empty) ∧
      Rendered id [] text (g.bodyPart .empty).session (g.render out options time .empty []) ∧
      (g.bodyPart .empty).session.registry.keys = [load.key] := by
  intro out load body g options time text
  have steady : Writing.Steady out := fun _ _ => rfl
  have appends : Writing.Appends out id := fun _ _ => rfl
  have before : (g.docPart .empty).Tidy 0 g.declared := ⟨rfl, rfl, by decide +kernel⟩
  have within : (g.bodyPart .empty).Tidy 1 (g.inside .empty) := ⟨rfl, rfl, by decide +kernel⟩
  have rendered : Rendered id [] (g.unit options time .empty) _ _ ∧ _ :=
    render_eq_unit steady appends before within []
  have unit : g.unit options time .empty = text := by decide +kernel
  rw [unit] at rendered
  exact ⟨steady, appends, before, within, rendered.1, by decide +kernel⟩

end Generator

end OperationStubs
