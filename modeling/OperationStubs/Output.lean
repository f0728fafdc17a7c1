import OperationStubs.Fault
/-! Places that take bytes. -/
namespace OperationStubs

/-- A place to write to. It takes all bytes of a write or says why it did not. -/
abbrev Sink (m : Type → Type) := List UInt8 → m (Except Fault Unit)

/-- A sink of `m` from where more state is at hand. -/
def Sink.lift {m : Type → Type} [Monad m] {σ : Type} (out : Sink m) : Sink (StateT σ m) :=
  fun bytes s => do return (← out bytes, s)

/-- An output in memory, with room for a limited number of bytes or for any. -/
structure Output where
  accepted : Array UInt8
  room : Option Nat
  deriving DecidableEq

namespace Output

def empty (room : Option Nat) : Output := ⟨#[], room⟩

/-- Takes what fits. Bytes that do not fit are a full disk. -/
def write : Sink (StateM Output) := fun bytes o =>
  match o.room with
  | none => (.ok (), { o with accepted := o.accepted ++ bytes })
  | some room =>
    let o := ⟨o.accepted ++ bytes.take room, some (room - bytes.length)⟩
    if bytes.length ≤ room then (.ok (), o) else (.error Fault.diskFull, o)

end Output
end OperationStubs
