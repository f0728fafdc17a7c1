import OperationStubs.Generator
import OperationStubs.Manifest
import OperationStubs.Text.Upper
/-! The loader of an operation type: it holds the operations and publishes their ids. -/
namespace OperationStubs.Loader

def suffix : String := "$$Loader"

/-- Turns `loadUser` into `LOAD_USER`. -/
def upperSnake : List Char → List Char
  | [] => []
  | c :: rest =>
    Text.upper c ++ rest.flatMap fun c =>
      if Text.isUpper c then '_' :: Text.upper c else Text.upper c

def isOverloaded (model : ClassModel) (method : Method) : Bool :=
  1 < model.methods.countP fun other => other.name == method.name

/-- The name of a method's constant. Overloaded methods get their id appended. -/
def constantName (model : ClassModel) (method : Method) : Hook String := do
  let name := String.ofList (upperSnake method.name.toList)
  if isOverloaded model method then
    let id ← Hook.loaderId method
    return name ++ "_" ++ toString id.toNat
  else return name

def constant (model : ClassModel) (method : Method) : Hook Unit := do
  let id ← Hook.loaderId method
  let name ← constantName model method
  Hook.emit (.field "int" name (.ofList [.public, .static, .final]) (some (toString id.toNat)))

def doc (model : ClassModel) : Hook Unit :=
  Hook.emit (.javadoc ("Loader ids of \x7b@link " ++ model.source.qualifiedName ++ "\x7d."))

def body (model : ClassModel) : Hook Unit := do
  let type := model.source.qualifiedName
  model.methods.forM (constant model)
  if !model.methods.isEmpty then Hook.emit .emptyLine
  Hook.emit (.field type "operations" (.ofList [.private, .final]) none)
  Hook.emit .emptyLine
  Hook.emit (.beginMethod none model.className model.source.modifiers.forConstructor
    [(type, "operations")])
  Hook.emit (.statement "this.operations = operations")
  Hook.emit .endMethod
  Hook.emit .emptyLine
  Hook.emit (.beginMethod (some type) "getOperations" (.ofList [.public]) [])
  Hook.emit (.statement "return operations")
  Hook.emit .endMethod

def model (type : OperationType) : ClassModel :=
  { source := type.source, methods := type.methodData, suffix }

def generator (type : OperationType) : Generator :=
  ⟨model type, doc (model type), body (model type)⟩

end OperationStubs.Loader
