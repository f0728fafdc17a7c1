import OperationStubs.Java.Modifier
import OperationStubs.Java.Name
import OperationStubs.Method
import OperationStubs.Text.NameSet
/-! What is generated: one class for one source type. -/
namespace OperationStubs

/-- The type a class is made for. -/
structure SourceType where
  qualifiedName : String
  package : String
  modifiers : ModifierSet
  /-- Where the type stands, for diagnostics. -/
  location : Option String

/-- A class to generate. Its names follow from the source type and the suffix. -/
structure ClassModel where
  source : SourceType
  methods : List Method
  suffix : String
  imports : NameSet := ∅
  superclass : Option String := none

namespace ClassModel

def package (model : ClassModel) : String := model.source.package

def className (model : ClassModel) : String :=
  Name.generated model.package model.source.qualifiedName model.suffix

def fqcn (model : ClassModel) : String :=
  Name.fqcn model.package model.className

def addImports (model : ClassModel) (names : List String) : ClassModel :=
  { model with imports := model.imports.insertAll names }

/-- The last superclass set is the one that counts. -/
def extend (model : ClassModel) (superclass : String) : ClassModel :=
  { model with superclass := some superclass }

end ClassModel
end OperationStubs
