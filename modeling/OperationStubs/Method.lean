/-! Methods of a source type. -/
namespace OperationStubs

/-- What tells a method from every other: where it is declared, its name and its parameter types. -/
structure MethodKey where
  declaringType : String
  name : String
  parameterTypes : List String
  deriving DecidableEq, Repr

namespace MethodKey

def text (key : MethodKey) : String :=
  key.declaringType ++ "#" ++ key.name ++ "(" ++ ", ".intercalate key.parameterTypes ++ ")"

/-- By declaring type, then name, then parameter types from the left. -/
instance : Ord MethodKey where
  compare a b :=
    (compare a.declaringType b.declaringType).then <|
      (compare a.name b.name).then (compare a.parameterTypes b.parameterTypes)

end MethodKey

/-- A method as a generator sees it. -/
structure Method where
  key : MethodKey
  parameterNames : List String
  returnType : String
  deriving DecidableEq, Repr

namespace Method

def name (m : Method) : String := m.key.name

/-- Type and name of each parameter. A type without a name, or a name without a type, is left out. -/
def parameters (m : Method) : List (String × String) :=
  m.key.parameterTypes.zip m.parameterNames

end Method
end OperationStubs
