import OperationStubs.Proofs.Numeral
import OperationStubs.Proofs.Program
import OperationStubs.Stub

/-!
# Loader and operator as scripts

Both classes of a type are a lead, a row of lines for each method and an end, where only the lines
know the numbers of the methods (`Role.lists_program`). A loader's line is the constant of a method,
an operator's line ends with the call that dispatches it. The number in a line can be read off
(`Role.number_of_prefix`).
-/

namespace OperationStubs

/-- The two classes made for a type. -/
inductive Role where
  | loader | operator
  deriving DecidableEq, Repr

namespace Loader

variable (ids : MethodKey → UInt32) (model : ClassModel)

def numbered (method : Method) : String :=
  let name := String.ofList (upperSnake method.name.toList)
  if isOverloaded model method then name ++ "_" ++ toString (ids method.key).toNat else name

def constantStep (method : Method) : Step :=
  .field "int" (numbered ids model method) (.ofList [.public, .static, .final])
    (some (toString (ids method.key).toNat))

/-- The calls behind the constants. -/
def rest : List Step :=
  let type := model.source.qualifiedName
  (if model.methods.isEmpty then [] else [.emptyLine]) ++
    [.field type "operations" (.ofList [.private, .final]) none, .emptyLine,
      .beginMethod none model.className model.source.modifiers.forConstructor
        [(type, "operations")],
      .statement "this.operations = operations", .endMethod, .emptyLine,
      .beginMethod (some type) "getOperations" (.ofList [.public]) [],
      .statement "return operations", .endMethod]

variable {ids model}

theorem lists_constant (method : Method) :
    Hook.Lists ids (constant model method) [constantStep ids model method] () := by
  intro l
  unfold constant constantStep numbered constantName
  by_cases h : isOverloaded model method <;> simp [h] <;> rfl

theorem strict_constant (method : Method) : (constant model method).Strict := by
  refine (Hook.strict_loaderId method).bind fun _ => Hook.Strict.bind ?_ fun _ => Hook.strict_emit _
  unfold constantName
  split
  · exact (Hook.strict_loaderId method).bind fun _ => Hook.strict_pure _
  · exact Hook.strict_pure _

theorem asks_constant {asked : MethodKey → Prop} {method : Method} (h : asked method.key) :
    (constant model method).Asks asked := by
  refine (Hook.asks_loaderId h).bind fun _ => Hook.Asks.bind ?_ fun _ => Hook.asks_emit _
  unfold constantName
  split
  · exact (Hook.asks_loaderId h).bind fun _ => Hook.asks_pure _
  · exact Hook.asks_pure _

theorem body_eq (model : ClassModel) :
    body model = model.methods.forM (constant model) >>= fun _ => Hook.emitAll (rest model) := by
  unfold body rest
  cases model.methods.isEmpty <;> simp [Hook.emitAll_cons, Hook.emitAll_nil]

/-- The text of a constant before the number that tells it from its overloads or is its value. -/
def declaration (scope : Scope) (method : Method) : String :=
  (ModifierSet.ofList [.public, .static, .final]).text ++ scope.shorten "int" ++ " " ++
    String.ofList (upperSnake method.name.toList)

theorem number_of_prefix {ids ids' : MethodKey → UInt32} {l : Layout} {method : Method}
    {xs ys : List UInt8}
    (h : l.draft [constantStep ids model method] ++ xs <+:
      l.draft [constantStep ids' model method] ++ ys) : ids method.key = ids' method.key := by
  have own (ids : MethodKey → UInt32) : l.draft [constantStep ids model method] =
      l.bytes (Step.text l.scope (constantStep ids model method)).toList := by
    rw [Layout.draft_cons, Layout.draft_nil, List.append_nil, Layout.stepBytes_eq rfl]
  rw [own, own] at h
  by_cases overloaded : isOverloaded model method
  · have shape (ids : MethodKey → UInt32) :
        (Step.text l.scope (constantStep ids model method)).toList =
          (declaration l.scope method).toList ++ ['_'] ++
            (toString (ids method.key).toNat).toList ++
            ' ' :: ("= " ++ toString (ids method.key).toNat ++ ";\n").toList := by
      simp [Step.text, constantStep, numbered, overloaded, Writing.fieldText, declaration]
    rw [shape ids, shape ids'] at h
    exact UInt32.toNat_inj.1 (Layout.number_eq_of_prefix (by decide) (by decide) (by decide) h)
  · have shape (ids : MethodKey → UInt32) :
        (Step.text l.scope (constantStep ids model method)).toList =
          (declaration l.scope method ++ " =").toList ++ [' '] ++
            (toString (ids method.key).toNat).toList ++ ';' :: ['\n'] := by
      simp [Step.text, constantStep, numbered, overloaded, Writing.fieldText, declaration]
    rw [shape ids, shape ids'] at h
    exact UInt32.toNat_inj.1 (Layout.number_eq_of_prefix (by decide) (by decide) (by decide) h)

end Loader

namespace Operator

variable (ids : MethodKey → UInt32) (model : ClassModel)

/-- The calls before the methods. -/
def opening : List Step :=
  [.field dispatcher "dispatcher" (.ofList [.private, .final]) none, .emptyLine,
    .beginMethod none model.className model.source.modifiers.forConstructor
      [(dispatcher, "dispatcher")],
    .statement "this.dispatcher = dispatcher", .endMethod]

def arguments (method : Method) : String :=
  ", ".intercalate (toString (ids method.key).toNat :: method.parameterNames)

/-- A method down to its call of the dispatcher. -/
def dispatchSteps (method : Method) : List Step :=
  [.emptyLine, .beginMethod (some "void") method.name (.ofList [.public]) method.parameters,
    .statement ("dispatcher.dispatch(" ++ arguments ids method ++ ")")]

variable {ids model}

theorem lists_forward (method : Method) :
    Hook.Lists ids (forward method) (dispatchSteps ids method ++ [.endMethod]) () :=
  fun _ => rfl

theorem strict_forward (method : Method) : (forward method).Strict :=
  (Hook.strict_emit _).bind fun _ => (Hook.strict_emit _).bind fun _ =>
    (Hook.strict_loaderId method).bind fun _ => (Hook.strict_emit _).bind fun _ =>
      Hook.strict_emit _

theorem asks_forward {asked : MethodKey → Prop} {method : Method} (h : asked method.key) :
    (forward method).Asks asked :=
  (Hook.asks_emit _).bind fun _ => (Hook.asks_emit _).bind fun _ =>
    (Hook.asks_loaderId h).bind fun _ => (Hook.asks_emit _).bind fun _ => Hook.asks_emit _

theorem body_eq (model : ClassModel) :
    body model = Hook.emitAll (opening model) >>= fun _ => model.methods.forM forward := by
  unfold body opening
  simp [Hook.emitAll_cons, Hook.emitAll_nil]

theorem statement_eq (ids : MethodKey → UInt32) (method : Method) (scope : Scope) :
    ∃ d after, Layout.Closes d ∧
      (Step.text scope
          (.statement ("dispatcher.dispatch(" ++ arguments ids method ++ ")"))).toList =
        "dispatcher.dispatch".toList ++ ['('] ++ (toString (ids method.key).toNat).toList ++
          d :: after := by
  rcases eq : method.parameterNames with _ | ⟨name, names⟩
  · exact ⟨')', [';', '\n'], by decide, by simp [Step.text, arguments, eq]⟩
  · refine ⟨',', (" " ++ ", ".intercalate (name :: names) ++ ");\n").toList, by decide, ?_⟩
    simp [Step.text, arguments, eq, String.intercalate_cons_cons]

theorem number_of_prefix {ids ids' : MethodKey → UInt32} {l : Layout} {method : Method}
    {xs ys : List UInt8}
    (h : l.draft (dispatchSteps ids method) ++ xs <+:
      l.draft (dispatchSteps ids' method) ++ ys) : ids method.key = ids' method.key := by
  simp only [dispatchSteps, Layout.draft_cons, Layout.draft_nil, List.append_assoc,
    List.append_nil] at h
  have rest := (List.prefix_append_right_inj _).1 ((List.prefix_append_right_inj _).1 h)
  rw [Layout.stepBytes_eq rfl, Layout.stepBytes_eq rfl] at rest
  obtain ⟨d, after, closes, eq⟩ := statement_eq ids method
    ((l.pastStep .emptyLine).pastStep (.beginMethod (some "void") method.name
      (.ofList [.public]) method.parameters)).scope
  obtain ⟨d', after', closes', eq'⟩ := statement_eq ids' method
    ((l.pastStep .emptyLine).pastStep (.beginMethod (some "void") method.name
      (.ofList [.public]) method.parameters)).scope
  rw [eq, eq'] at rest
  exact UInt32.toNat_inj.1 (Layout.number_eq_of_prefix (by decide) closes closes' rest)

end Operator

namespace Role

variable (role : Role) (type : OperationType)

def generator : Role → OperationType → Generator
  | .loader => Loader.generator
  | .operator => Operator.generator

/-- The calls before the lines of the methods. -/
def lead (options : Options) (time : Timestamp) : List Step :=
  match role with
  | .loader => (Loader.generator type).frame options time
      [.javadoc ("Loader ids of \x7b@link " ++ type.name ++ "\x7d.")]
  | .operator => (Operator.generator type).frame options time [] ++
      Operator.opening (Operator.model type)

/-- The calls for a method down to the line with its number. -/
def line (ids : MethodKey → UInt32) (method : Method) : List Step :=
  match role with
  | .loader => [Loader.constantStep ids (Loader.model type) method]
  | .operator => Operator.dispatchSteps ids method

/-- The calls for a method behind that line. -/
def close : Role → List Step
  | .loader => []
  | .operator => [.endMethod]

/-- The calls behind the methods. -/
def tail : List Step :=
  match role with
  | .loader => Loader.rest (Loader.model type) ++ [.endType]
  | .operator => [.endType]

/-- All calls for some methods. -/
def lines (ids : MethodKey → UInt32) (methods : List Method) : List Step :=
  methods.flatMap fun method => role.line type ids method ++ role.close

/-- A whole class, with `ids` for the numbers. -/
def script (ids : MethodKey → UInt32) (options : Options) (time : Timestamp) : List Step :=
  role.lead type options time ++ role.lines type ids type.methodData ++ role.tail type

theorem lists_program (ids : MethodKey → UInt32) (options : Options) (time : Timestamp) :
    Hook.Lists ids ((role.generator type).program options time)
      (role.script type ids options time) () := by
  cases role with
  | loader =>
    have body : Hook.Lists ids (Loader.generator type).body
        (lines .loader type ids type.methodData ++ Loader.rest (Loader.model type)) () := by
      change Hook.Lists ids (Loader.body (Loader.model type)) _ ()
      rw [Loader.body_eq]
      exact (Hook.lists_forM _ Loader.lists_constant).next (Hook.lists_emitAll _)
    have all := Hook.lists_program options time (Hook.lists_emit _) body
    simp only [script, lead, tail, List.append_assoc] at all ⊢
    exact all
  | operator =>
    have body : Hook.Lists ids (Operator.generator type).body
        (Operator.opening (Operator.model type) ++ lines .operator type ids type.methodData)
        () := by
      change Hook.Lists ids (Operator.body (Operator.model type)) _ ()
      rw [Operator.body_eq]
      exact (Hook.lists_emitAll _).next (Hook.lists_forM _ Operator.lists_forward)
    have all := Hook.lists_program options time (Hook.lists_pure ()) body
    simp only [script, lead, tail, List.append_assoc] at all ⊢
    exact all

theorem strict_program (options : Options) (time : Timestamp) :
    ((role.generator type).program options time).Strict := by
  refine Generator.program_of options time Hook.strict_emit (fun _ _ h h' => h.bind fun _ => h') ?_
    ?_
  · cases role
    · exact Hook.strict_emit _
    · exact Hook.strict_pure ()
  · cases role
    · change (Loader.body (Loader.model type)).Strict
      rw [Loader.body_eq]
      exact (Hook.strict_forM _ Loader.strict_constant).bind fun _ => Hook.strict_emitAll _
    · change (Operator.body (Operator.model type)).Strict
      rw [Operator.body_eq]
      exact (Hook.strict_emitAll _).bind fun _ => Hook.strict_forM _ Operator.strict_forward

/-- A class asks for the numbers of its type's methods only. -/
theorem asks_program (options : Options) (time : Timestamp) :
    ((role.generator type).program options time).Asks
      fun key => ∃ method ∈ type.methodData, method.key = key := by
  refine Generator.program_of options time Hook.asks_emit (fun _ _ h h' => h.bind fun _ => h') ?_
    ?_
  · cases role
    · exact Hook.asks_emit _
    · exact Hook.asks_pure ()
  · cases role
    · change (Loader.body (Loader.model type)).Asks _
      rw [Loader.body_eq]
      exact (Hook.asks_forM fun method h => Loader.asks_constant ⟨method, h, rfl⟩).bind
        fun _ => Hook.asks_emitAll _
    · change (Operator.body (Operator.model type)).Asks _
      rw [Operator.body_eq]
      exact (Hook.asks_emitAll _).bind
        fun _ => Hook.asks_forM fun method h => Operator.asks_forward ⟨method, h, rfl⟩

/-- The number of a method can be read off its line. -/
theorem number_of_prefix {ids ids' : MethodKey → UInt32} {l : Layout} {method : Method}
    {xs ys : List UInt8}
    (h : l.draft (role.line type ids method) ++ xs <+: l.draft (role.line type ids' method) ++ ys) :
    ids method.key = ids' method.key := by
  cases role
  · exact Loader.number_of_prefix h
  · exact Operator.number_of_prefix h

/-- A line depends on the number of its own method only. -/
theorem line_congr {ids ids' : MethodKey → UInt32} {method : Method}
    (h : ids method.key = ids' method.key) :
    role.line type ids method = role.line type ids' method := by
  cases role
  · simp only [line, Loader.constantStep, Loader.numbered, h]
  · simp only [line, Operator.dispatchSteps, Operator.arguments, h]

/-- The calls for a method end where they began. -/
theorem past_method {l : Layout} (start : l.atLineStart = true) (ids : MethodKey → UInt32)
    (method : Method) : l.pastSteps (role.line type ids method ++ role.close) = l := by
  cases role
  · simp [line, close, Loader.constantStep, Layout.pastSteps, Layout.pastStep_field, ← start]
  · simp [line, close, Operator.dispatchSteps, Layout.pastSteps, Layout.pastStep_emptyLine,
      Layout.pastStep_beginMethod, Layout.pastStep_statement, Layout.pastStep_endMethod, ← start]

end Role
end OperationStubs
