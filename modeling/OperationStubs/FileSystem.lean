import OperationStubs.Output
/-! Access to files and directories. -/
namespace OperationStubs

/-- What files and directories can be asked for. `h` stands for open files. -/
structure FileSystem (m : Type → Type) (h : Type) where
  /-- Makes a directory and the directories above it, as far as they are missing. -/
  makeDirs : (path : String) → m (Except Fault Unit)
  /-- Opens a file for writing from its start, emptied if it was there. -/
  create : (path : String) → m (Except Fault h)
  write : h → Sink m
  remove : (path : String) → m (Except Fault Unit)
  read : (path : String) → m (Except Fault (List UInt8))

end OperationStubs
