import OperationStubs.FileSystem
/-! Files that are written in large pieces. -/
namespace OperationStubs

/-- A file, and the bytes written to it that it has not received yet. -/
structure Buffered (h : Type) where
  handle : h
  waiting : List UInt8

namespace Buffered

/-- How many bytes may wait. -/
def capacity : Nat := 8192

variable {m : Type → Type} [Monad m] {h : Type}

/-- Hands the waiting bytes on. They keep waiting if the file does not take them. -/
def drain (fs : FileSystem m h) (b : Buffered h) : m (Except Fault Unit × Buffered h) := do
  if b.waiting.isEmpty then return (.ok (), b)
  match ← fs.write b.handle b.waiting with
  | .ok () => return (.ok (), { b with waiting := [] })
  | .error fault => return (.error fault, b)

/-- Small writes wait. What would not fit sends the waiting bytes on first, and a write as large as
the whole buffer does not wait. -/
def write (fs : FileSystem m h) (b : Buffered h) (bytes : List UInt8) :
    m (Except Fault Unit × Buffered h) := do
  let room := capacity - b.waiting.length
  if bytes.length < room then return (.ok (), { b with waiting := b.waiting ++ bytes })
  let (result, b) ← if room < bytes.length then b.drain fs else pure (.ok (), b)
  match result with
  | .error fault => return (.error fault, b)
  | .ok () =>
    if capacity ≤ bytes.length then return (← fs.write b.handle bytes, b)
    else return (.ok (), { b with waiting := b.waiting ++ bytes })

end Buffered
end OperationStubs
