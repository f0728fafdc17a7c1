import OperationStubs.Proofs.Agreement
import OperationStubs.Proofs.CompilationUnit
import OperationStubs.Proofs.Lines

/-!
# The layout of a class

Where no text of a type has a newline, loader and operator are made of whole lines. Between the
braces of the class every line is indented, and a statement twice. No line is left blank but empty
ones, and no two empty lines follow each other, since each comes behind a full block of lines.
-/

namespace OperationStubs

open Text

namespace Page

/-- No two of the lines that follow each other are empty. -/
def Spaced (lines : List String) : Prop := lines.IsChain fun a b => a ≠ "" ∨ b ≠ ""

/-- Lines that may stand behind any others. -/
structure Led (lines : List String) : Prop where
  spaced : Spaced lines
  opens : ∀ line ∈ lines.head?, line ≠ ""

theorem Led.append {a b : List String} (ha : Led a) (hb : Led b) : Led (a ++ b) := by
  constructor
  · apply ha.spaced.append hb.spaced
    intro last _ first mem
    exact .inr (hb.opens first mem)
  · cases a with
    | nil => exact hb.opens
    | cons line a => exact ha.opens

/-- Calls whose lines may stand behind any others, wherever they are made. -/
def Stands (steps : List Step) : Prop :=
  ∀ indent depth scope, Led (lines indent (calls depth scope steps))

theorem stands_nil : Stands [] := fun _ _ _ => ⟨.nil, by simp [lines, calls]⟩

theorem Stands.append {a b : List Step} (ha : Stands a) (hb : Stands b) : Stands (a ++ b) := by
  intro indent depth scope
  rw [calls_append, lines_append]
  exact (ha indent depth scope).append (hb indent _ _)

/-- Some calls, all of them full. -/
structure Block (steps : List Step) : Prop where
  some : steps ≠ []
  full : ∀ step ∈ steps, step.Full

namespace Block

variable {steps : List Step} (block : Block steps)

include block

theorem lines_ne_nil (indent : String) (depth : Nat) (scope : Scope) :
    lines indent (calls depth scope steps) ≠ [] := by
  obtain ⟨step, steps, rfl⟩ := List.exists_cons_of_ne_nil block.some
  have own := (block.full step List.mem_cons_self).rows_ne_nil scope
  obtain ⟨row, rows, eq⟩ := List.exists_cons_of_ne_nil own
  simp [lines, calls, Call.lines, eq]

theorem line_ne_empty (indent : String) (depth : Nat) (scope : Scope) :
    ∀ line ∈ lines indent (calls depth scope steps), line ≠ "" := by
  intro line mem
  obtain ⟨call, among, row, inside, rfl⟩ := exists_row mem
  have visible := (block.full call.step (mem_of_mem_calls among)).visible call.scope row inside
  exact indented_ne_empty indent call.depth visible.ne_empty

theorem stands : Stands steps := by
  intro indent depth scope
  have full := block.line_ne_empty indent depth scope
  constructor
  · exact (List.pairwise_of_forall_mem_list fun a mem _ _ => .inl (full a mem)).isChain
  · intro line mem
    exact full line (List.mem_of_mem_head? mem)

/-- A block with an empty line behind it. -/
theorem stands_break : Stands (steps ++ [.emptyLine]) := by
  intro indent depth scope
  have full := block.line_ne_empty indent depth scope
  rw [calls_append, lines_append]
  constructor
  · apply (block.stands indent depth scope).spaced.append (List.isChain_singleton _)
    intro last mem _ _
    exact .inl (full last (List.mem_of_getLast? mem))
  · obtain ⟨first, more, eq⟩ := List.exists_cons_of_ne_nil (block.lines_ne_nil indent depth scope)
    rw [eq] at full ⊢
    intro line mem
    obtain rfl := Option.some.inj mem
    exact full first List.mem_cons_self

/-- Blocks with an empty line before each but the first, and a block right behind the last. -/
theorem stands_blocks {last : List Step} (hlast : Block last) {blocks : List (List Step)}
    (all : ∀ block ∈ blocks, Block block) :
    Stands (steps ++ (blocks.flatMap (.emptyLine :: ·) ++ last)) := by
  induction blocks generalizing steps with
  | nil => exact block.stands.append hlast.stands
  | cons next blocks ih =>
    obtain ⟨own, others⟩ := List.forall_mem_cons.1 all
    have rest := block.stands_break.append (ih own others)
    simpa using rest

end Block

theorem stands_package (name : String) : Stands [.package name] := by
  intro indent depth scope
  by_cases default : name = ""
  · have none : lines indent (calls depth scope [.package name]) = [] := by
      simp [lines, calls, Call.lines, Step.rows, default]
    rw [none]
    exact ⟨.nil, by simp⟩
  · have some : indented indent depth ("package " ++ name ++ ";") ≠ "" :=
      indented_ne_empty indent depth (Visible.append_right (by decide) _).ne_empty
    have two : lines indent (calls depth scope [.package name]) =
        [indented indent depth ("package " ++ name ++ ";"), ""] := by
      simp [lines, calls, Call.lines, Step.rows, Step.depthWithin, default, indented]
    rw [two]
    exact ⟨List.isChain_pair.2 (.inl some), by simpa using some⟩

/-- Calls that come back to their depth, never go above it, and make statements one level deeper. -/
structure Nested (depth : Nat) (steps : List Step) : Prop where
  back : steps.foldl Step.depthBehind depth = depth
  within : ∀ scope, ∀ call ∈ calls depth scope steps, depth ≤ call.depth
  statement : ∀ scope, ∀ call ∈ calls depth scope steps, ∀ text, call.step = .statement text →
    call.depth = depth + 1

namespace Nested

variable {depth : Nat}

theorem nil : Nested depth [] := ⟨rfl, by simp [calls], by simp [calls]⟩

theorem append {a b : List Step} (ha : Nested depth a) (hb : Nested depth b) :
    Nested depth (a ++ b) := by
  constructor
  · rw [List.foldl_append, ha.back, hb.back]
  · intro scope call mem
    rw [calls_append, ha.back, List.mem_append] at mem
    rcases mem with own | other
    · exact ha.within scope call own
    · exact hb.within _ call other
  · intro scope call mem
    rw [calls_append, ha.back, List.mem_append] at mem
    rcases mem with own | other
    · exact ha.statement scope call own
    · exact hb.statement _ call other

theorem flatMap {α : Type} {f : α → List Step} (xs : List α) (h : ∀ x, Nested depth (f x)) :
    Nested depth (xs.flatMap f) := by
  induction xs with
  | nil => exact nil
  | cons x xs ih => exact (h x).append ih

theorem emptyLine : Nested depth [.emptyLine] :=
  ⟨rfl, by simp [calls, Step.depthWithin], by simp [calls]⟩

theorem field (type name : String) (modifiers : ModifierSet) (value : Option String) :
    Nested depth [.field type name modifiers value] :=
  ⟨rfl, by simp [calls, Step.depthWithin], by simp [calls]⟩

theorem method (returnType : Option String) (name : String) (modifiers : ModifierSet)
    (parameters : List (String × String)) (text : String) :
    Nested depth [.beginMethod returnType name modifiers parameters, .statement text,
      .endMethod] := by
  constructor
  · rfl
  · simp [calls, Step.depthWithin, Step.depthBehind]
  · simp [calls, Step.depthWithin, Step.depthBehind]

end Nested
end Page

/-- No text of the type that shows in its classes has a newline. -/
structure OperationType.Unbroken (type : OperationType) : Prop where
  name : OneLine type.name
  package : ∀ package ∈ type.package, OneLine package
  base : ∀ base ∈ type.operatorBase, OneLine base
  methods : ∀ method ∈ type.methods, OneLine method.name ∧
    ∀ parameter ∈ method.parameters, OneLine parameter.name ∧ OneLine parameter.type

/-- Neither the marker nor the unit of indentation has a newline. -/
structure Options.Unbroken (options : Options) : Prop where
  marker : OneLine options.headerMarker
  indent : OneLine options.indent

/-- Neither has a newline in a method. -/
structure Method.Unbroken (method : Method) : Prop where
  name : OneLine method.name
  names : ∀ name ∈ method.parameterNames, OneLine name
  types : ∀ type ∈ method.key.parameterTypes, OneLine type

namespace OperationType.Unbroken

variable {type : OperationType} (unbroken : type.Unbroken)

include unbroken

theorem packageName : OneLine type.packageName := by
  unfold OperationType.packageName
  cases given : type.package with
  | none => exact (Name.notMem_parts unbroken.name).1
  | some package => exact unbroken.package package given

theorem method {method : Method} (mem : method ∈ type.methodData) : method.Unbroken := by
  obtain ⟨source, among, rfl⟩ := List.mem_map.1 mem
  obtain ⟨name, parameters⟩ := unbroken.methods source among
  constructor
  · exact name
  · intro text mem
    obtain ⟨parameter, inside, rfl⟩ := List.mem_map.1 mem
    exact (parameters parameter inside).1
  · intro text mem
    obtain ⟨parameter, inside, rfl⟩ := List.mem_map.1 mem
    exact (parameters parameter inside).2

theorem className (role : Role) : OneLine (role.generator type).model.className := by
  have suffix : OneLine (role.generator type).model.suffix := by
    cases role
    · exact (by decide : OneLine Loader.suffix)
    · exact (by decide : OneLine Operator.suffix)
  have name : (role.generator type).model.source.qualifiedName = type.name := by cases role <;> rfl
  exact Name.oneLine_generated _ (name ▸ unbroken.name) suffix

end OperationType.Unbroken

namespace Role

variable (role : Role) (type : OperationType) (ids : MethodKey → UInt32)

/-- The calls between the frame's opening and the header of the class. -/
def doc : List Step :=
  match role with
  | .loader => [.javadoc ("Loader ids of \x7b@link " ++ type.name ++ "\x7d.")]
  | .operator => []

/-- The calls above the header. -/
def top (options : Options) (time : Timestamp) : List Step :=
  (role.generator type).lead options time ++ role.doc type

/-- The call that writes the header. -/
def head : Step :=
  let model := (role.generator type).model
  .beginType model.className "class" model.source.modifiers.forClass model.superclass

/-- The calls between the braces of the class. -/
def members : List Step :=
  match role with
  | .loader => .emptyLine :: (lines .loader type ids type.methodData ++
      Loader.rest (Loader.model type))
  | .operator => .emptyLine :: (Operator.opening (Operator.model type) ++
      lines .operator type ids type.methodData)

theorem script_eq (options : Options) (time : Timestamp) :
    role.script type ids options time =
      role.top type options time ++ role.head type :: (role.members type ids ++ [.endType]) := by
  cases role
  · simp only [script, lead, tail, top, head, members, doc, Generator.frame, Generator.lead,
      generator, List.append_assoc, List.cons_append, List.nil_append]
    rfl
  · simp only [script, lead, tail, top, head, members, doc, Generator.frame, Generator.lead,
      generator, List.append_assoc, List.cons_append, List.nil_append]
    rfl

theorem level_top (options : Options) (time : Timestamp) :
    (role.top type options time).foldl Step.depthBehind 0 = 0 := by
  cases role <;> rfl

/-- The members of a class stand one level deep, and their statements two. -/
theorem nested_members : Page.Nested 1 (role.members type ids) := by
  cases role with
  | loader =>
    have constants : Page.Nested 1 (lines .loader type ids type.methodData) :=
      .flatMap _ fun method => .field _ _ _ _
    have parting : Page.Nested 1 (if type.methodData.isEmpty then [] else [.emptyLine]) := by
      split
      · exact .nil
      · exact .emptyLine
    have operations : Page.Nested 1 [.field type.name "operations" _ none, .emptyLine] :=
      (Page.Nested.field _ _ (.ofList [.private, .final]) _).append .emptyLine
    have constructor_ : Page.Nested 1 _ := (Page.Nested.method none
      (Loader.model type).className type.source.modifiers.forConstructor
      [(type.name, "operations")] "this.operations = operations").append .emptyLine
    have getter : Page.Nested 1 _ :=
      .method (some type.name) "getOperations" (.ofList [.public]) [] "return operations"
    exact Page.Nested.emptyLine.append
      (constants.append (parting.append (operations.append (constructor_.append getter))))
  | operator =>
    have methods : Page.Nested 1 (lines .operator type ids type.methodData) :=
      .flatMap _ fun method => Page.Nested.emptyLine.append (.method _ _ _ _ _)
    have dispatcher : Page.Nested 1 [.field Operator.dispatcher "dispatcher" _ none, .emptyLine] :=
      (Page.Nested.field _ _ (.ofList [.private, .final]) _).append .emptyLine
    have constructor_ : Page.Nested 1 _ := .method none (Operator.model type).className
      type.source.modifiers.forConstructor [(Operator.dispatcher, "dispatcher")]
      "this.dispatcher = dispatcher"
    exact Page.Nested.emptyLine.append ((dispatcher.append constructor_).append methods)

theorem top_loader (options : Options) (time : Timestamp) :
    top .loader type options time =
      [.comment (options.headerMarker ++ " " ++ time.text), .package type.packageName,
        .javadoc ("Loader ids of \x7b@link " ++ type.name ++ "\x7d.")] := rfl

theorem top_operator (options : Options) (time : Timestamp) :
    top .operator type options time =
      [.comment (options.headerMarker ++ " " ++ time.text), .package type.packageName,
        .imports [Operator.dispatcher], .emptyLine] := rfl

theorem statement_notMem_top (options : Options) (time : Timestamp) (text : String) :
    .statement text ∉ role.top type options time := by
  cases role
  · simp [top_loader]
  · simp [top_operator]

section Formed

variable {type}

theorem formed_constant {method : Method} (own : method.Unbroken) :
    (Loader.constantStep ids (Loader.model type) method).Formed := by
  have id := oneLine_number (ids method.key).toNat
  have name : OneLine (String.ofList (Loader.upperSnake method.name.toList)) := by
    rw [OneLine, String.toList_ofList]
    exact Loader.newline_notMem_upperSnake own.name
  refine ⟨by decide, ?_, by simpa using id⟩
  unfold Loader.numbered
  split
  · exact oneLine_append.2 ⟨oneLine_append.2 ⟨name, by decide⟩, id⟩
  · exact name

theorem formed_dispatch {method : Method} (own : method.Unbroken) :
    ∀ step ∈ Operator.dispatchSteps ids method, step.Formed := by
  have parameters : ∀ parameter ∈ method.parameters, OneLine parameter.1 ∧ OneLine parameter.2 := by
    intro parameter mem
    obtain ⟨type, name⟩ := List.of_mem_zip mem
    exact ⟨own.types _ type, own.names _ name⟩
  have arguments : OneLine (Operator.arguments ids method) := by
    refine oneLine_intercalate (by decide) (List.forall_mem_cons.2 ⟨?_, own.names⟩)
    exact oneLine_number (ids method.key).toNat
  have dispatch : OneLine ("dispatcher.dispatch(" ++ Operator.arguments ids method ++ ")") :=
    oneLine_append.2 ⟨oneLine_append.2 ⟨by decide, arguments⟩, by decide⟩
  have void : ∀ type ∈ some "void", OneLine type := by decide
  simp only [Operator.dispatchSteps, List.forall_mem_cons]
  exact ⟨trivial, ⟨void, own.name, parameters⟩, dispatch, by simp⟩

variable (unbroken : type.Unbroken)

include unbroken

theorem formed_top {options : Options} (plain : options.Unbroken) (time : Timestamp) :
    ∀ step ∈ role.top type options time, step.Formed := by
  have marker : OneLine (options.headerMarker ++ " " ++ time.text) :=
    oneLine_append.2 ⟨oneLine_append.2 ⟨plain.marker, by decide⟩, time.oneLine_text⟩
  cases role with
  | loader =>
    have doc : OneLine ("Loader ids of \x7b@link " ++ type.name ++ "\x7d.") :=
      oneLine_append.2 ⟨oneLine_append.2 ⟨by decide, unbroken.name⟩, by decide⟩
    rw [top_loader]
    simp only [List.forall_mem_cons]
    exact ⟨marker, unbroken.packageName, doc, by simp⟩
  | operator =>
    have dispatcher : OneLine Operator.dispatcher := by decide
    rw [top_operator]
    simp only [List.forall_mem_cons]
    exact ⟨marker, unbroken.packageName, by simpa [Step.Formed] using dispatcher, trivial, by simp⟩

theorem formed_head : (role.head type).Formed := by
  refine ⟨unbroken.className role, by decide, ?_⟩
  cases role
  · simp [generator, Loader.generator, Loader.model]
  · exact unbroken.base

theorem formed_rest : ∀ step ∈ Loader.rest (Loader.model type), step.Formed := by
  have parting : ∀ step ∈ (if (Loader.model type).methods.isEmpty then [] else [.emptyLine]),
      Step.Formed step := by
    split <;> simp [Step.Formed]
  have operations : OneLine type.name ∧ OneLine "operations" := ⟨unbroken.name, by decide⟩
  have nothing : ∀ text ∈ (none : Option String), OneLine text := by simp
  have own : ∀ text ∈ some type.name, OneLine text := by simpa using unbroken.name
  have constructor_ : Step.Formed (.beginMethod none (Loader.model type).className
      type.source.modifiers.forConstructor [(type.name, "operations")]) :=
    ⟨nothing, unbroken.className .loader, by simpa using operations⟩
  have assign : OneLine "this.operations = operations" := by decide
  have getter : Step.Formed
      (.beginMethod (some type.name) "getOperations" (.ofList [.public]) []) :=
    ⟨own, by decide, by simp⟩
  have give : OneLine "return operations" := by decide
  simp only [Loader.rest, List.forall_mem_append, List.forall_mem_cons]
  exact ⟨parting, ⟨operations.1, operations.2, nothing⟩, trivial, constructor_, assign, trivial,
    trivial, getter, give, trivial, by simp⟩

theorem formed_opening : ∀ step ∈ Operator.opening (Operator.model type), step.Formed := by
  have dispatcher : OneLine Operator.dispatcher ∧ OneLine "dispatcher" := by decide
  have nothing : ∀ text ∈ (none : Option String), OneLine text := by simp
  have constructor_ : Step.Formed (.beginMethod none (Operator.model type).className
      type.source.modifiers.forConstructor [(Operator.dispatcher, "dispatcher")]) :=
    ⟨nothing, unbroken.className .operator, by simpa using dispatcher⟩
  have assign : OneLine "this.dispatcher = dispatcher" := by decide
  simp only [Operator.opening, List.forall_mem_cons]
  exact ⟨⟨dispatcher.1, dispatcher.2, nothing⟩, trivial, constructor_, assign, trivial, by simp⟩

theorem formed_members : ∀ step ∈ role.members type ids, step.Formed := by
  cases role with
  | loader =>
    have constants : ∀ step ∈ lines .loader type ids type.methodData, step.Formed := by
      intro step mem
      obtain ⟨method, among, own⟩ := List.mem_flatMap.1 mem
      obtain rfl := List.mem_singleton.1 own
      exact formed_constant ids (unbroken.method among)
    exact List.forall_mem_cons.2
      ⟨trivial, List.forall_mem_append.2 ⟨constants, formed_rest unbroken⟩⟩
  | operator =>
    have methods : ∀ step ∈ lines .operator type ids type.methodData, step.Formed := by
      intro step mem
      obtain ⟨method, among, own⟩ := List.mem_flatMap.1 mem
      rcases List.mem_append.1 own with dispatch | close
      · exact formed_dispatch ids (unbroken.method among) step dispatch
      · obtain rfl := List.mem_singleton.1 close
        trivial
    exact List.forall_mem_cons.2
      ⟨trivial, List.forall_mem_append.2 ⟨formed_opening unbroken, methods⟩⟩

theorem formed_script {options : Options} (plain : options.Unbroken) (time : Timestamp) :
    ∀ step ∈ role.script type ids options time, step.Formed := by
  rw [script_eq]
  refine List.forall_mem_append.2 ⟨role.formed_top unbroken plain time, ?_⟩
  refine List.forall_mem_cons.2 ⟨role.formed_head unbroken, ?_⟩
  exact List.forall_mem_append.2 ⟨role.formed_members ids unbroken, by simp [Step.Formed]⟩

end Formed

section Spacing

variable (options : Options) (time : Timestamp)

theorem stands_top : Page.Stands (role.top type options time) := by
  have comment : Page.Block [.comment (options.headerMarker ++ " " ++ time.text)] :=
    ⟨by simp, by simp [Step.Full]⟩
  have opening := comment.stands.append (Page.stands_package type.packageName)
  cases role with
  | loader =>
    have doc : Page.Block [.javadoc ("Loader ids of \x7b@link " ++ type.name ++ "\x7d.")] :=
      ⟨by simp, by simp [Step.Full]⟩
    exact opening.append doc.stands
  | operator =>
    have imports : Page.Block [.imports [Operator.dispatcher]] := ⟨by simp, by simp [Step.Full]⟩
    exact opening.append imports.stands_break

/-- The constants of a loader with the empty line behind them, if there are any. -/
theorem stands_constants : Page.Stands (lines .loader type ids type.methodData ++
    if type.methodData.isEmpty then [] else [.emptyLine]) := by
  cases eq : type.methodData with
  | nil => exact Page.stands_nil
  | cons method methods =>
    have constants : Page.Block (lines .loader type ids (method :: methods)) := by
      refine ⟨List.cons_ne_nil _ _, fun step mem => ?_⟩
      obtain ⟨other, -, own⟩ := List.mem_flatMap.1 mem
      obtain rfl := List.mem_singleton.1 own
      trivial
    exact constants.stands_break

theorem stands_members :
    Page.Stands (role.head type :: (role.members type ids ++ [.endType])) := by
  have head : Page.Block [role.head type] := ⟨by simp, by simp [head, Step.Full]⟩
  cases role with
  | loader =>
    have operations : Page.Block
        [.field type.name "operations" (.ofList [.private, .final]) none] :=
      ⟨by simp, by simp [Step.Full]⟩
    have constructor_ : Page.Block [.beginMethod none (Loader.model type).className
        type.source.modifiers.forConstructor [(type.name, "operations")],
        .statement "this.operations = operations", .endMethod] :=
      ⟨by simp, by simp [Step.Full]⟩
    have getter : Page.Block [.beginMethod (some type.name) "getOperations" (.ofList [.public]) [],
        .statement "return operations", .endMethod, .endType] :=
      ⟨by simp, by simp [Step.Full]⟩
    have all := head.stands_break.append ((stands_constants type ids).append
      (operations.stands_break.append (constructor_.stands_break.append getter.stands)))
    simp only [members, Loader.rest, List.append_assoc, List.cons_append, List.nil_append] at all ⊢
    exact all
  | operator =>
    have dispatcher : Page.Block
        [.field Operator.dispatcher "dispatcher" (.ofList [.private, .final]) none] :=
      ⟨by simp, by simp [Step.Full]⟩
    have constructor_ : Page.Block [.beginMethod none (Operator.model type).className
        type.source.modifiers.forConstructor [(Operator.dispatcher, "dispatcher")],
        .statement "this.dispatcher = dispatcher", .endMethod] :=
      ⟨by simp, by simp [Step.Full]⟩
    have close : Page.Block [.endType] := ⟨by simp, by simp [Step.Full]⟩
    let forward (method : Method) : List Step :=
      (Operator.dispatchSteps ids method).tail ++ [.endMethod]
    have methods : ∀ block ∈ type.methodData.map forward, Page.Block block := by
      intro block mem
      obtain ⟨method, -, rfl⟩ := List.mem_map.1 mem
      exact ⟨by simp [forward], by simp [forward, Operator.dispatchSteps, Step.Full]⟩
    have rows : (type.methodData.map forward).flatMap (.emptyLine :: ·) =
        lines .operator type ids type.methodData := by
      rw [List.flatMap_map]
      rfl
    have all := head.stands_break.append (dispatcher.stands_break.append
      (constructor_.stands_blocks close methods))
    rw [rows] at all
    simp only [members, Operator.opening, List.cons_append, List.nil_append] at all ⊢
    exact all

theorem stands_script : Page.Stands (role.script type ids options time) := by
  rw [script_eq]
  exact (role.stands_top type options time).append (role.stands_members type ids)

end Spacing

end Role

/-- The lines of a class but for the last: those above its header, the header, and those between
the braces. -/
structure ClassPage where
  above : List String
  header : String
  inner : List String

/-- The last line of a class is a brace in the first column. -/
def ClassPage.lines (page : ClassPage) : List String :=
  page.above ++ page.header :: (page.inner ++ ["\x7d"])

/-- How the lines of a class are laid out that certain calls write. -/
structure ClassPage.LaidOut (page : ClassPage) (indent : String) (script : List Step) : Prop where
  oneLine : ∀ line ∈ page.lines, OneLine line
  /-- Between the braces a line that is not empty is indented. -/
  indented : ∀ line ∈ page.inner, line = "" ∨ ∃ rest, line = indent ++ rest
  /-- A statement is indented twice, in the line behind those of the calls before it. -/
  statements : ∀ before text after, script = before ++ .statement text :: after →
    ∃ behind, page.lines =
      Page.lines indent (Page.calls 0 .empty before) ++ (indent ++ indent ++ text ++ ";") :: behind
  /-- There is something to see on a line that is not empty. -/
  visible : ∀ line ∈ page.lines, line ≠ "" → Visible line
  /-- No line is indentation alone. -/
  margin : (∀ c ∈ indent.toList, isWhite c = true) → ∀ line ∈ page.lines, ∀ n,
    line = String.join (List.replicate n indent) → line = ""
  /-- Of two lines that follow each other one is not empty. -/
  spaced : page.lines.IsChain fun a b => a ≠ "" ∨ b ≠ ""

namespace Role

variable (role : Role) (type : OperationType) (ids : MethodKey → UInt32)
variable (options : Options) (time : Timestamp)

/-- The lines of a class. -/
def page : ClassPage where
  above := Page.lines options.indent (Page.calls 0 .empty (role.top type options time))
  header :=
    let model := (role.generator type).model
    Writing.typeHeader ⟨model.package, model.imports⟩ model.className "class"
      model.source.modifiers.forClass model.superclass
  inner := Page.lines options.indent (Page.calls 1 (role.generator type).declared
    (role.members type ids))

theorem scopeBehind_top :
    (role.top type options time).foldl Step.scopeBehind .empty =
      (role.generator type).declared := by
  rw [top, List.foldl_append, Generator.scopeBehind_lead]
  cases role <;> rfl

/-- The lines of a class are its page. -/
theorem lines_script :
    Page.lines options.indent (Page.calls 0 .empty (role.script type ids options time)) =
      (role.page type ids options time).lines := by
  have head : Page.Call.lines options.indent ⟨0, (role.generator type).declared, role.head type⟩ =
      [(role.page type ids options time).header] := by
    simp only [Page.Call.lines, head, Step.rows, List.map_cons, List.map_nil, Page.indented_zero]
    rfl
  have close (scope : Scope) : Page.lines options.indent (Page.calls 1 scope [.endType]) =
      ["\x7d"] := by
    simp [Page.lines, Page.calls, Page.Call.lines, Step.rows, Step.depthWithin, Page.indented_zero]
  have inner : Page.calls 0 (role.generator type).declared
      (role.head type :: (role.members type ids ++ [.endType])) =
      ⟨0, (role.generator type).declared, role.head type⟩ ::
        Page.calls 1 (role.generator type).declared (role.members type ids ++ [.endType]) := rfl
  rw [script_eq, Page.calls_append, level_top, scopeBehind_top, Page.lines_append, inner,
    Page.calls_append, (role.nested_members type ids).back, ← List.singleton_append,
    Page.lines_append, Page.lines_append, close]
  simp only [Page.lines, List.flatMap_cons, List.flatMap_nil, head, List.append_nil]
  rfl

/-- In a class every statement is made two levels deep. -/
theorem depth_statement {before after : List Step} {text : String}
    (split : role.script type ids options time = before ++ .statement text :: after) :
    before.foldl Step.depthBehind 0 = 2 := by
  have mem : (⟨before.foldl Step.depthBehind 0, before.foldl Step.scopeBehind .empty,
      .statement text⟩ : Page.Call) ∈
      Page.calls 0 .empty (role.script type ids options time) := by
    rw [split, Page.calls_append]
    exact List.mem_append_right _ List.mem_cons_self
  rw [script_eq, Page.calls_append, level_top, List.mem_append] at mem
  rcases mem with top | rest
  · exact absurd (Page.mem_of_mem_calls top) (role.statement_notMem_top type options time text)
  · have inside : (⟨before.foldl Step.depthBehind 0, before.foldl Step.scopeBehind .empty,
        .statement text⟩ : Page.Call) ∈ Page.calls 1 _ (role.members type ids ++ [.endType]) :=
      List.mem_of_ne_of_mem (by simp [head]) rest
    rw [Page.calls_append, List.mem_append] at inside
    rcases inside with member | close
    · exact (role.nested_members type ids).statement _ _ member text rfl
    · simp [Page.calls] at close

theorem laidOut_page {type : OperationType} (unbroken : type.Unbroken) {options : Options}
    (plain : options.Unbroken) :
    (role.page type ids options time).LaidOut options.indent
      (role.script type ids options time) := by
  have formed := role.formed_script ids unbroken plain time
  have lines := role.lines_script type ids options time
  have visible : ∀ line ∈ (role.page type ids options time).lines, line ≠ "" → Visible line := by
    rw [← lines]
    exact Page.visible_lines formed
  constructor
  case oneLine =>
    rw [← lines]
    exact Page.oneLine_lines plain.indent formed
  case indented =>
    intro line mem
    obtain ⟨call, among, row, -, rfl⟩ := Page.exists_row mem
    have deep := (role.nested_members type ids).within _ call among
    by_cases none : row = ""
    · exact .inl (by simp [Page.indented, none])
    · obtain ⟨depth, eq⟩ := Nat.exists_eq_add_of_le' deep
      rw [eq]
      exact .inr ⟨_, Page.indented_succ _ depth none⟩
  case statements =>
    intro before text after split
    have depth := role.depth_statement type ids options time split
    have some : text ++ ";" ≠ "" := (Visible.append_right (by decide) text).ne_empty
    have line : Page.indented options.indent 2 (text ++ ";") =
        options.indent ++ options.indent ++ text ++ ";" := by
      rw [Page.indented_succ _ _ some, Page.indented_succ _ _ some, Page.indented_zero]
      simp only [String.append_assoc]
    rw [← lines, split, Page.calls_append, Page.lines_append, depth, ← line]
    exact ⟨_, rfl⟩
  case visible => exact visible
  case margin =>
    intro white line mem n same
    by_contra some
    exact not_visible_replicate white n (same ▸ visible line mem some)
  case spaced =>
    rw [← lines]
    exact (role.stands_script type ids options time _ _ _).spaced

end Role

namespace Rendering

/-- On an output that never fails, loader and operator are whole lines that are laid out well. -/
theorem laid_out (r : Rendering) (steady : Writing.Steady r.device.out)
    (unbroken : r.type.Unbroken) (plain : r.options.Unbroken) (s : Session) :
    let performed := r.perform s
    let ids := performed.2.registry.number
    let page := r.role.page r.type ids r.options r.time
    performed.1.result = .ok () ∧ performed.1.text = utf8 (Page.ended page.lines) ∧
      page.LaidOut r.options.indent (r.role.script r.type ids r.options r.time) := by
  intro performed ids page
  obtain ⟨result, text⟩ := r.perform_steady steady s
  have agrees : performed.2.registry.Agrees ids := Registry.agrees_number _
  have formed := r.role.formed_script ids unbroken plain r.time
  refine ⟨result, ?_, r.role.laidOut_page ids r.time unbroken plain⟩
  rw [← r.role.lines_script, ← Page.ofSteps_eq_lines _ formed]
  calc performed.1.text
    _ = r.text ids := text ids agrees
    _ = Page.laid r.options.indent true (Page.marks 0 .empty _) := Layout.draft_eq_laid _ _
    _ = utf8 (Page.ofSteps r.options.indent _) := Page.laid_start _ _

/-- The operator of a type with a package, a superclass, and methods with and without parameters. -/
theorem laid_out_operator :
    let type : OperationType :=
      ⟨"p.Ops", none, [.public], none, some "p.Base",
        [⟨"load", [⟨"id", "java.util.UUID"⟩, ⟨"n", "int"⟩], "void"⟩, ⟨"load", [], "void"⟩]⟩
    let options : Options := { headerMarker := "opgen", indent := "\t" }
    let r : Rendering := ⟨.operator, type, options, ⟨2024, 1, 1, 0, 0, 0⟩, .endless⟩
    let page := r.role.page type (r.perform .empty).2.registry.number options r.time
    Writing.Steady r.device.out ∧ type.Unbroken ∧ options.Unbroken ∧
      page.LaidOut "\t" (r.role.script type (r.perform .empty).2.registry.number options r.time) ∧
      page.lines =
        ["// opgen 2024-01-01 00:00:00", "package p;", "", "import opgen.runtime.Dispatcher;", "",
          "public class Ops$$Operator extends Base \x7b", "",
          "\tprivate final Dispatcher dispatcher;", "",
          "\tpublic Ops$$Operator(final Dispatcher dispatcher) \x7b",
          "\t\tthis.dispatcher = dispatcher;", "\t\x7d", "",
          "\tpublic void load(final java.util.UUID id, final int n) \x7b",
          "\t\tdispatcher.dispatch(1, id, n);", "\t\x7d", "",
          "\tpublic void load() \x7b", "\t\tdispatcher.dispatch(2);", "\t\x7d", "\x7d"] := by
  intro type options r page
  have steady : Writing.Steady r.device.out := Device.steady_endless
  have unbroken : type.Unbroken := ⟨by decide, by decide, by decide, by decide⟩
  have plain : options.Unbroken := ⟨by decide, by decide⟩
  obtain ⟨_, _, laid⟩ := laid_out r steady unbroken plain .empty
  exact ⟨steady, unbroken, plain, laid, by decide +kernel⟩

end Rendering
end OperationStubs
