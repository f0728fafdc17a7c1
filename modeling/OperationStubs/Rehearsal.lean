import OperationStubs.Environment
import OperationStubs.Text.Utf8
/-! An environment whose behaviour is fixed beforehand and that keeps a record of its calls. -/
namespace OperationStubs

/-- How one file behaves. -/
structure Behaviour where
  refuse : Option Fault := none
  room : Option Nat := none
  onFlush : Option Fault := none
  onClose : Option Fault := none
  onDiscard : Option Fault := none

/-- A call, with what the file held at the time. -/
inductive Event where
  | create (fqcn : String) (origin : Origin)
  | flush (held : Array UInt8)
  | close (held : Array UInt8)
  | discard (held : Array UInt8)
  | report (message : String) (origin : Origin)

structure Rehearsal where
  /-- Behaviours of the files still to be opened. Files beyond them behave well. -/
  coming : List Behaviour
  files : Array (Behaviour × Output) := #[]
  events : Array Event := #[]

namespace Rehearsal

def answer : Option Fault → Except Fault Unit
  | none => .ok ()
  | some fault => .error fault

def held (r : Rehearsal) (file : Nat) : Array UInt8 :=
  match r.files[file]? with
  | some (_, output) => output.accepted
  | none => #[]

def note (r : Rehearsal) (event : Event) : Rehearsal :=
  { r with events := r.events.push event }

def behaviour (r : Rehearsal) (file : Nat) : Behaviour :=
  match r.files[file]? with
  | some (behaviour, _) => behaviour
  | none => { }

def create (fqcn : String) (origin : Origin) : StateM Rehearsal (Except Fault Nat) := fun r =>
  let behaviour := r.coming.headD { }
  let r := { r with coming := r.coming.tail }.note (.create fqcn origin)
  match behaviour.refuse with
  | some fault => (.error fault, r)
  | none =>
    (.ok r.files.size, { r with files := r.files.push (behaviour, .empty behaviour.room) })

def write (file : Nat) : Sink (StateM Rehearsal) := fun bytes r =>
  match r.files[file]? with
  | none => (.ok (), r)
  | some (behaviour, output) =>
    let (result, output) := Output.write bytes output
    (result, { r with files := r.files.setIfInBounds file (behaviour, output) })

def flush (file : Nat) : StateM Rehearsal (Except Fault Unit) := fun r =>
  (answer (r.behaviour file).onFlush, r.note (.flush (r.held file)))

def close (file : Nat) : StateM Rehearsal (Except Fault Unit) := fun r =>
  (answer (r.behaviour file).onClose, r.note (.close (r.held file)))

/-- A discarded file holds nothing any more. -/
def discard (file : Nat) : StateM Rehearsal (Except Fault Unit) := fun r =>
  let emptied := match r.files[file]? with
    | some (behaviour, output) =>
      r.files.setIfInBounds file (behaviour, { output with accepted := #[] })
    | none => r.files
  (answer (r.behaviour file).onDiscard,
    { r with files := emptied }.note (.discard (r.held file)))

def environment (time : Timestamp) : Environment (StateM Rehearsal) Nat where
  create := create
  write := write
  flush := flush
  close := close
  discard := discard
  report message origin := modify fun r => r.note (.report message origin)
  now := pure time

end Rehearsal
end OperationStubs
