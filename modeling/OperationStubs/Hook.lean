import OperationStubs.Java.Writer
import OperationStubs.Registry
/-! The parts of a class that its generator supplies, as data. -/
namespace OperationStubs

/-- What a generator does for its part of a class: calls of the writer, whose outcome it sees, and
requests for loader ids. It can give up at any point. -/
inductive Hook (α : Type) where
  | pure (value : α)
  | fail (fault : Fault)
  | call (step : Step) (next : Except Fault Unit → Hook α)
  | shorten (type : String) (next : String → Hook α)
  | request (key : MethodKey) (next : UInt32 → Hook α)

namespace Hook

variable {α β : Type}

protected def bind : Hook α → (α → Hook β) → Hook β
  | .pure value, f => f value
  | .fail fault, _ => .fail fault
  | .call step next, f => .call step fun result => (next result).bind f
  | .shorten type next, f => .shorten type fun text => (next text).bind f
  | .request key next, f => .request key fun id => (next id).bind f

instance : Monad Hook where
  pure := .pure
  bind := Hook.bind

/-- A call that gives up where the writer does. -/
def emit (step : Step) : Hook Unit :=
  .call step fun
    | .ok () => .pure ()
    | .error fault => .fail fault

/-- The loader id of a method. -/
def loaderId (method : Method) : Hook UInt32 :=
  .request method.key .pure

/-- Carries a hook out on an output. -/
def run {m : Type → Type} [Monad m] (out : Sink m) : Hook α → Writing (StateT Session m) α
  | .pure value => Pure.pure value
  | .fail fault => throw fault
  | .call step next => do
    let result ← ExceptT.lift (step.run out.lift).run
    (next result).run out
  | .shorten type next => do
    let layout ← getThe Layout
    (next (layout.scope.shorten type)).run out
  | .request key next => do
    let id ← modifyGetThe Session fun s => s.request key
    (next id).run out

end Hook
end OperationStubs
