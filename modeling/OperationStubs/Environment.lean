import OperationStubs.ClassModel
import OperationStubs.Output
import OperationStubs.Timestamp
/-! What a run needs from its surroundings. -/
namespace OperationStubs

/-- What a generated file comes from, as diagnostics name it. -/
structure Origin where
  name : String
  location : Option String
  deriving DecidableEq, Repr

def SourceType.origin (source : SourceType) : Origin :=
  ⟨source.qualifiedName, source.location⟩

/-- The surroundings of a run. `φ` stands for the files they have opened. -/
structure Environment (m : Type → Type) (φ : Type) where
  /-- Opens a new source file for a class. -/
  create : (fqcn : String) → Origin → m (Except Fault φ)
  write : φ → Sink m
  flush : φ → m (Except Fault Unit)
  close : φ → m (Except Fault Unit)
  /-- Releases a file and removes what was written to it. -/
  discard : φ → m (Except Fault Unit)
  report : (message : String) → Origin → m Unit
  now : m Timestamp

end OperationStubs
