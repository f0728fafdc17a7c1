import OperationStubs.Generator
import OperationStubs.Manifest
/-! The operator of an operation type: it has the type's methods and dispatches their calls by id. -/
namespace OperationStubs.Operator

def suffix : String := "$$Operator"

def dispatcher : String := "opgen.runtime.Dispatcher"

/-- A method that passes its id and its arguments on. -/
def forward (method : Method) : Hook Unit := do
  Hook.emit .emptyLine
  Hook.emit (.beginMethod (some "void") method.name (.ofList [.public]) method.parameters)
  let id ← Hook.loaderId method
  let arguments := ", ".intercalate (toString id.toNat :: method.parameterNames)
  Hook.emit (.statement ("dispatcher.dispatch(" ++ arguments ++ ")"))
  Hook.emit .endMethod

def body (model : ClassModel) : Hook Unit := do
  Hook.emit (.field dispatcher "dispatcher" (.ofList [.private, .final]) none)
  Hook.emit .emptyLine
  Hook.emit (.beginMethod none model.className model.source.modifiers.forConstructor
    [(dispatcher, "dispatcher")])
  Hook.emit (.statement "this.dispatcher = dispatcher")
  Hook.emit .endMethod
  model.methods.forM forward

def model (type : OperationType) : ClassModel :=
  { source := type.source
    methods := type.methodData
    suffix
    imports := .ofList [dispatcher]
    superclass := type.operatorBase }

def generator (type : OperationType) : Generator :=
  ⟨model type, pure (), body (model type)⟩

end OperationStubs.Operator
