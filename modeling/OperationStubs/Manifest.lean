import OperationStubs.ClassModel
/-! Manifests: the operation types that classes are generated for. -/
namespace OperationStubs

structure Parameter where
  name : String
  type : String
  deriving DecidableEq, Repr

structure OperationMethod where
  name : String
  parameters : List Parameter
  returns : String
  deriving DecidableEq, Repr

/-- A type whose methods are operations. -/
structure OperationType where
  /-- Fully qualified, with dots between nested types as well. -/
  name : String
  package : Option String
  modifiers : List Modifier
  location : Option String
  /-- The superclass of the generated operator. -/
  operatorBase : Option String
  methods : List OperationMethod
  deriving DecidableEq, Repr

structure Manifest where
  types : List OperationType
  deriving DecidableEq, Repr

namespace OperationType

/-- The package given, or else everything before the last dot of the name. -/
def packageName (type : OperationType) : String :=
  type.package.getD (Name.qualifier type.name)

def source (type : OperationType) : SourceType where
  qualifiedName := type.name
  package := type.packageName
  modifiers := .ofList type.modifiers
  location := type.location

def methodData (type : OperationType) : List Method :=
  type.methods.map fun m =>
    { key := ⟨type.name, m.name, m.parameters.map (·.type)⟩
      parameterNames := m.parameters.map (·.name)
      returnType := m.returns }

end OperationType
end OperationStubs
