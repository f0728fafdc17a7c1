import OperationStubs.Proofs.Ambiguity
import OperationStubs.Proofs.ClassLayout
import OperationStubs.Proofs.ConstantName

/-!
# What an operator forwards

A method keeps the types of its parameters in its key and their names beside it. An operator writes
the header from both lists and the call from one. Both come from one list of parameters, so nothing
is lost where they are put together again (`OperationType.parameters_data`). A call of the writer
yields its text line by line, whatever the names in it hold (`Layout.yields_block`), and the methods
of a type yield theirs one after the other. The number in a call is that of the method's key
(`Operator.forwards`).
-/

namespace OperationStubs

open Text

namespace Page

/-- The lines of a text at a depth, each with its margin and the newline that ends it. -/
def block (indent : String) (depth : Nat) (text : String) : String :=
  ended (((pieces '\n' text.toList).map String.ofList).map (indented indent depth))

/-- A header, one statement a level deeper, and the brace that ends them. -/
def method (indent : String) (depth : Nat) (header statement : String) : String :=
  block indent depth header ++ (block indent (depth + 1) statement ++ block indent depth "\x7d")

theorem join_pieces (text : String) :
    String.join (((pieces '\n' text.toList).map String.ofList).map (· ++ "\n")) = text ++ "\n" := by
  have newline : "\n".toList = ['\n'] := by decide
  apply String.toList_inj.1
  rw [String.toList_append, newline, ← flatMap_pieces text.toList]
  simp [String.toList_join, List.flatMap_map, newline]

/-- A text of one or more lines comes before the rest of the page. -/
theorem ofMarks_block (indent : String) (depth : Nat) (text : String) (rest : List Mark) :
    ofMarks indent ((text ++ "\n").toList.map (⟨depth, ·⟩) ++ rest) =
      block indent depth text ++ ofMarks indent rest := by
  have oneLine : ∀ row ∈ (pieces '\n' text.toList).map String.ofList, OneLine row := by
    intro row mem
    obtain ⟨piece, among, rfl⟩ := List.mem_map.1 mem
    rw [OneLine, String.toList_ofList]
    exact notMem_of_mem_pieces among
  rw [← join_pieces]
  exact ofMarks_rows indent depth oneLine rest

end Page

namespace Layout

/-- A call at the start of a line yields the lines of its text. -/
theorem yields_block {l : Layout} {step : Step} {text : String} (start : l.atLineStart = true)
    (shape : step.text l.scope = text ++ "\n") :
    l.Yields [step] (Page.block l.indent (step.depthWithin l.depth) text)
      (lineAt l.indent (step.depthBehind l.depth) (step.scopeBehind l.scope)) := by
  constructor
  · have marks : Page.marks l.depth l.scope [step] =
        (text ++ "\n").toList.map (⟨step.depthWithin l.depth, ·⟩) ++ [] := by
      rw [← shape]
      rfl
    rw [draft_eq_laid, start, Page.laid_start, marks, Page.ofMarks_block]
    exact congrArg utf8 String.append_empty
  · refine pastStep_eq_lineAt start ?_
    rw [shape]
    exact getLast?_line text

section LineAt

variable (indent : String) (depth : Nat) (scope : Scope)

theorem yields_field (type name : String) (modifiers : ModifierSet) (value : Option String) :
    (lineAt indent depth scope).Yields [.field type name modifiers value]
      (Page.block indent depth (Writing.fieldText scope type name modifiers value))
      (lineAt indent depth scope) :=
  yields_block rfl rfl

/-- A method or constructor with one statement. -/
theorem yields_method (returnType : Option String) (name : String) (modifiers : ModifierSet)
    (parameters : List (String × String)) (text : String) :
    (lineAt indent depth scope).Yields
      [.beginMethod returnType name modifiers parameters, .statement text, .endMethod]
      (Page.method indent depth
        (Writing.methodHeader scope returnType name modifiers parameters) (text ++ ";"))
      (lineAt indent depth scope) := by
  have begins : (lineAt indent depth scope).Yields
      [.beginMethod returnType name modifiers parameters] _ (lineAt indent (depth + 1) scope) :=
    yields_block rfl rfl
  have statement : (lineAt indent (depth + 1) scope).Yields [.statement text]
      (Page.block indent (depth + 1) (text ++ ";")) (lineAt indent (depth + 1) scope) :=
    yields_block rfl rfl
  have brace : Step.text scope .endMethod = "\x7d" ++ "\n" := by rw [Step.text]; decide
  have close : (lineAt indent (depth + 1) scope).Yields [.endMethod]
      (Page.block indent depth "\x7d") (lineAt indent depth scope) :=
    yields_block rfl brace
  exact begins.append (statement.append close)

end LineAt

/-- Where each row of calls comes back to where it began, they yield their texts one after the
other. -/
theorem Yields.flatMap {α : Type} {l : Layout} {f : α → List Step} {text : α → String}
    {xs : List α} (each : ∀ x ∈ xs, l.Yields (f x) (text x) l) :
    l.Yields (xs.flatMap f) (String.join (xs.map text)) l := by
  induction xs with
  | nil => exact ⟨rfl, rfl⟩
  | cons x xs ih =>
    obtain ⟨first, others⟩ := List.forall_mem_cons.1 each
    rw [List.flatMap_cons, List.map_cons, String.join_cons]
    exact first.append (ih others)

end Layout

namespace OperationType

variable (type : OperationType)

/-- The key of a method: where it is declared, its name, and the types of its parameters as they
are declared. -/
def key (method : OperationMethod) : MethodKey :=
  ⟨type.name, method.name, method.parameters.map (·.type)⟩

/-- A method as a generator sees it. -/
def data (method : OperationMethod) : Method :=
  ⟨type.key method, method.parameters.map (·.name), method.returns⟩

theorem methodData_eq : type.methodData = type.methods.map type.data := rfl

/-- Type and name of every parameter are found together again. -/
theorem parameters_data (method : OperationMethod) :
    (type.data method).parameters = method.parameters.map fun p => (p.type, p.name) :=
  List.zip_map'

end OperationType

namespace Operator

variable (type : OperationType) (method : OperationMethod)

/-- What the members of an operator may name in short. -/
def scope : Scope := ⟨type.packageName, .ofList [dispatcher]⟩

/-- A parameter in the header of a method. -/
def parameterText (parameter : Parameter) : String :=
  "final " ++ (scope type).shorten parameter.type ++ " " ++ parameter.name

/-- The header of a method, with every parameter in order. -/
def signature : String :=
  "public void " ++ method.name ++ "(" ++
    ", ".intercalate (method.parameters.map (parameterText type)) ++ ") \x7b"

/-- The call that a method makes: its number, and behind it the names in its header. -/
def dispatch (ids : MethodKey → UInt32) : String :=
  "dispatcher.dispatch(" ++
    ", ".intercalate (toString (ids (type.key method)).toNat :: method.parameters.map (·.name)) ++
    ")" ++ ";"

/-- An empty line, and a method that does nothing but make its call. -/
def methodText (indent : String) (ids : MethodKey → UInt32) : String :=
  "\n" ++ Page.method indent 1 (signature type method) (dispatch type method ids)

/-- The field and the constructor of an operator. -/
def dispatcherText (indent : String) : String :=
  Page.block indent 1 "private final Dispatcher dispatcher;" ++ ("\n" ++
    Page.method indent 1 (type.source.modifiers.forConstructor.text ++ (model type).className ++
      "(final Dispatcher dispatcher) \x7b") "this.dispatcher = dispatcher;")

/-- The text of an operator: what opens its file, the header of its class, its dispatcher, and a
method for each method of the type, in their order. -/
def classText (options : Options) (time : Timestamp) (ids : MethodKey → UInt32) : String :=
  (generator type).opening options time ++ ((generator type).header (scope type) ++ "\n" ++
    (dispatcherText type options.indent ++
      (String.join (type.methods.map fun method => methodText type method options.indent ids) ++
        "\x7d\n")))

theorem shorten_dispatcher : (scope type).shorten dispatcher = "Dispatcher" := by
  have qualified : Piece.qualified? dispatcher.toList = some (dispatcher.toList, []) := by
    decide +kernel
  have imported : dispatcher ∈ (scope type).imported := NameSet.mem_ofList.2 List.mem_cons_self
  have known : (scope type).knows dispatcher = true := (Scope.knows_iff _).2 (.inl imported)
  rw [Scope.shorten_of_isQualified _ (Piece.isQualified_of_qualified? qualified),
    Scope.shortenName, if_pos known]
  decide +kernel

theorem shorten_void : (scope type).shorten "void" = "void" := by
  have plain : Piece.ofText "void".toList = "void".toList.map .plain := by decide +kernel
  rw [Scope.shorten, plain]
  rfl

theorem methodHeader_eq :
    Writing.methodHeader (scope type) (some "void") method.name (.ofList [.public])
      (type.data method).parameters = signature type method := by
  have modifiers : (ModifierSet.ofList [.public]).text = "public " := by decide
  have words : "public void " = "public " ++ ("void" ++ " ") := by decide
  rw [Writing.methodHeader, type.parameters_data, List.map_map, modifiers]
  simp only [shorten_void]
  rw [← words]
  rfl

theorem fieldText_eq :
    Writing.fieldText (scope type) dispatcher "dispatcher" (.ofList [.private, .final]) none =
      "private final Dispatcher dispatcher;" := by
  rw [Writing.fieldText, shorten_dispatcher]
  decide

theorem constructorHeader_eq :
    Writing.methodHeader (scope type) none (model type).className
      type.source.modifiers.forConstructor [(dispatcher, "dispatcher")] =
      type.source.modifiers.forConstructor.text ++ (model type).className ++
        "(final Dispatcher dispatcher) \x7b" := by
  have parameter : "(final Dispatcher dispatcher) \x7b" =
      "(" ++ ("final " ++ "Dispatcher" ++ " " ++ "dispatcher" ++ ") \x7b") := by decide
  rw [parameter]
  simp [Writing.methodHeader, Writing.parameterText, shorten_dispatcher, String.append_assoc]

/-- The calls before the methods yield the dispatcher. -/
theorem yields_opening (indent : String) :
    (Layout.lineAt indent 1 (scope type)).Yields (opening (model type))
      (dispatcherText type indent) (.lineAt indent 1 (scope type)) := by
  have field : (Layout.lineAt indent 1 (scope type)).Yields [.field dispatcher _ _ none] _ _ :=
    Layout.yields_field indent 1 (scope type) dispatcher "dispatcher" (.ofList [.private, .final])
      none
  have constructor_ : (Layout.lineAt indent 1 (scope type)).Yields
      [.beginMethod none _ _ [(dispatcher, _)], .statement _, .endMethod] _ _ :=
    Layout.yields_method indent 1 (scope type) none (model type).className
      type.source.modifiers.forConstructor [(dispatcher, "dispatcher")]
      "this.dispatcher = dispatcher"
  have assign : "this.dispatcher = dispatcher" ++ ";" = "this.dispatcher = dispatcher;" := by
    decide
  rw [fieldText_eq] at field
  rw [constructorHeader_eq, assign] at constructor_
  exact field.append ((Layout.yields_emptyLine rfl).append constructor_)

/-- The calls of a method yield its header, its call and its brace. -/
theorem yields_forward (indent : String) (ids : MethodKey → UInt32) :
    (Layout.lineAt indent 1 (scope type)).Yields
      (dispatchSteps ids (type.data method) ++ [.endMethod]) (methodText type method indent ids)
      (.lineAt indent 1 (scope type)) := by
  have calls : (Layout.lineAt indent 1 (scope type)).Yields
      [.beginMethod (some "void") _ _ _, .statement _, .endMethod] _ _ :=
    Layout.yields_method indent 1 (scope type) (some "void") method.name (.ofList [.public])
      (type.data method).parameters
      ("dispatcher.dispatch(" ++ arguments ids (type.data method) ++ ")")
  rw [methodHeader_eq] at calls
  exact (Layout.yields_emptyLine rfl).append calls

/-- All calls of an operator yield its text. -/
theorem yields_script (options : Options) (time : Timestamp) (ids : MethodKey → UInt32) :
    (Layout.start options.indent).Yields (Role.operator.script type ids options time)
      (classText type options time ids) (.lineAt options.indent 0 (scope type)) := by
  have lead : (Layout.start options.indent).Yields ((generator type).lead options time)
      ((generator type).opening options time) (.lineAt options.indent 0 (scope type)) :=
    Generator.yields_lead
  have header : (Layout.lineAt options.indent 0 (scope type)).Yields
      [Role.operator.head type, .emptyLine] ((generator type).header (scope type) ++ "\n")
      (.lineAt options.indent 1 (scope type)) :=
    Generator.yields_header _ _
  have methods : (Layout.lineAt options.indent 1 (scope type)).Yields
      (Role.operator.lines type ids type.methodData)
      (String.join (type.methods.map fun method => methodText type method options.indent ids))
      (.lineAt options.indent 1 (scope type)) := by
    rw [Role.lines, type.methodData_eq, List.flatMap_map]
    exact .flatMap fun method _ => yields_forward type method options.indent ids
  have all := lead.append (header.append ((yields_opening type options.indent).append
    (methods.append (Generator.yields_close _ _))))
  have script : Role.operator.script type ids options time =
      (generator type).lead options time ++ ([Role.operator.head type, .emptyLine] ++
        (opening (model type) ++
          (Role.operator.lines type ids type.methodData ++ [.endType]))) := by
    rw [Role.script_eq, Role.top, Role.members]
    simp [Role.doc, Role.generator]
  rw [script]
  exact all

end Operator

namespace Rendering

/-- On an output that never fails an operator has a method for each method of the type, in their
order, that takes all parameters of the method and does nothing but pass them on behind the number
of the method's key. -/
theorem forwards (r : Rendering) (operator : r.role = .operator)
    (steady : Writing.Steady r.device.out) (s : Session) :
    let performed := r.perform s
    let ids := performed.2.registry.number
    performed.1.result = .ok () ∧
      performed.1.text = utf8 (Operator.classText r.type r.options r.time ids) ∧
      s.registry ≤ performed.2.registry ∧
      ∀ method ∈ r.type.methods,
        performed.2.registry.id? (r.type.key method) = some (ids (r.type.key method)) := by
  obtain ⟨result, text⟩ := r.perform_steady steady s
  have grows := (r.perform_writes s).1
  have known (method : OperationMethod) (mem : method ∈ r.type.methods) :
      r.type.key method ∈ (r.perform s).2.registry.keys := by
    have among : r.type.data method ∈ r.type.methodData := List.mem_map_of_mem mem
    exact r.keys_subset_perform steady s among
  generalize r.perform s = printed at result text grows known ⊢
  intro performed ids
  refine ⟨result, ?_, grows, fun method mem => Registry.id?_eq_number (known method mem)⟩
  rw [text ids (Registry.agrees_number _), Rendering.text, operator]
  exact (Operator.yields_script r.type r.options r.time ids).draft

/-- Overloads with and without parameters, where a type can be named in short. -/
theorem forwards_overloads :
    let load : OperationMethod :=
      ⟨"load", [⟨"id", "p.Id"⟩, ⟨"by", "opgen.runtime.Dispatcher"⟩], "p.User"⟩
    let type : OperationType :=
      ⟨"p.Ops", none, [.public], none, none, [load, ⟨"load", [], "void"⟩]⟩
    let options : Options := { headerMarker := "opgen" }
    let r : Rendering := ⟨.operator, type, options, ⟨2024, 1, 1, 0, 0, 0⟩, .endless⟩
    r.role = .operator ∧ Writing.Steady r.device.out ∧ (r.perform .empty).1.result = .ok () ∧
      (r.perform .empty).1.text = utf8
        ("// opgen 2024-01-01 00:00:00\npackage p;\n\nimport opgen.runtime.Dispatcher;\n\n" ++
          "public class Ops$$Operator \x7b\n\n  private final Dispatcher dispatcher;\n\n" ++
          "  public Ops$$Operator(final Dispatcher dispatcher) \x7b\n" ++
          "    this.dispatcher = dispatcher;\n  \x7d\n\n" ++
          "  public void load(final Id id, final Dispatcher by) \x7b\n" ++
          "    dispatcher.dispatch(1, id, by);\n  \x7d\n\n" ++
          "  public void load() \x7b\n    dispatcher.dispatch(2);\n  \x7d\n\x7d\n") ∧
      type.key load = ⟨"p.Ops", "load", ["p.Id", "opgen.runtime.Dispatcher"]⟩ ∧
      (r.perform .empty).2.registry.id? (type.key load) = some 1 := by
  intro load type options r
  have steady : Writing.Steady r.device.out := Device.steady_endless
  obtain ⟨result, text, -, numbers⟩ := forwards r rfl steady .empty
  have first := numbers load List.mem_cons_self
  refine ⟨rfl, steady, result, text.trans (congrArg utf8 ?_), rfl, first.trans ?_⟩
  · decide +kernel
  · decide +kernel

end Rendering
end OperationStubs
