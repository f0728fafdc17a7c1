import OperationStubs.Text.Split
/-! Names of generated classes. Malformed names are not refused: they give malformed names. -/
namespace OperationStubs.Name

/-- The name of a type within its package: what follows the package and a dot. A name outside the
package stays whole. -/
def inPackage (package qualified : String) : String :=
  if package = "" then qualified
  else
    match Text.after? (package.toList ++ ['.']) qualified.toList with
    | some rest => String.ofList rest
    | none => qualified

/-- The class made for the type `qualified`: its nesting is flattened, then the suffix follows. -/
def generated (package qualified suffix : String) : String :=
  (inPackage package qualified).map (fun c => if c = '.' then '$' else c) ++ suffix

/-- The fully qualified name of a class in a package. The default package has no name. -/
def fqcn (package className : String) : String :=
  if package = "" then className else package ++ "." ++ className

/-- Everything before the last dot, empty without a dot. -/
def qualifier (name : String) : String :=
  match Text.cutLast '.' name.toList with
  | some (before, _) => String.ofList before
  | none => ""

/-- Everything after the last dot, or the whole name without a dot. -/
def simple (name : String) : String :=
  match Text.cutLast '.' name.toList with
  | some (_, after) => String.ofList after
  | none => name

end OperationStubs.Name
