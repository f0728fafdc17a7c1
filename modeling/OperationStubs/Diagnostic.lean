import OperationStubs.Environment
import OperationStubs.Text.Split
/-! Reported errors. -/
namespace OperationStubs

structure Diagnostic where
  message : String
  notes : List String
  deriving DecidableEq, Repr

namespace Diagnostic

/-- An error in what a file was to be generated from. -/
def about (message : String) (origin : Origin) : Diagnostic where
  message := message
  notes := ("in " ++ origin.name) :: (origin.location.map ("at " ++ ·)).toList

def noteText (note : String) : String :=
  match Text.lines note with
  | [] => ""
  | line :: more => " = " ++ line ++ "\n" ++ String.join (more.map fun l => "   " ++ l ++ "\n")

/-- The report to the user, an empty line at its end. -/
def text (d : Diagnostic) : String :=
  "error: " ++ d.message ++ "\n" ++ String.join (d.notes.map noteText) ++ "\n"

end Diagnostic
end OperationStubs
