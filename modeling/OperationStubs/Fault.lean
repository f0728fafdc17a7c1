/-! Failures of the outside world: outputs, files and directories. -/
namespace OperationStubs

inductive FaultKind where
  | other | notFound | permissionDenied | alreadyExists | invalidInput | invalidData
  | isADirectory | notADirectory | invalidFilename
  deriving DecidableEq, Repr

/-- A failed access, with the text shown to the user. -/
structure Fault where
  kind : FaultKind
  message : String
  deriving DecidableEq, Repr

namespace Fault

def diskFull : Fault := ⟨.other, "disk full"⟩

def alreadyClosed : Fault := ⟨.other, "output file already closed"⟩

def alreadyGenerated (fqcn : String) : Fault :=
  ⟨.alreadyExists, "attempt to recreate a file for type " ++ fqcn⟩

def nulInPath : Fault := ⟨.invalidInput, "file name contained an unexpected NUL byte"⟩

def notText : Fault := ⟨.invalidData, "stream did not contain valid UTF-8"⟩

/-- A refusal by the operating system: its text and number. -/
def system (kind : FaultKind) (text : String) (number : Nat) : Fault :=
  ⟨kind, text ++ " (os error " ++ toString number ++ ")"⟩

def notFound : Fault := system .notFound "No such file or directory" 2

def fileExists : Fault := system .alreadyExists "File exists" 17

def notADirectory : Fault := system .notADirectory "Not a directory" 20

def isADirectory : Fault := system .isADirectory "Is a directory" 21

def nameTooLong : Fault := system .invalidFilename "File name too long" 36

end Fault
end OperationStubs
