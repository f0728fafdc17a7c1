import OperationStubs.Log
import OperationStubs.Method
/-! Loader ids: every method gets a small number on its first request and keeps it. Classes made
separately for one source type agree on the numbers because they ask the same registry. -/
namespace OperationStubs

/-- The methods numbered so far, in order of first request. The first has number one. -/
structure Registry where
  keys : List MethodKey
  distinct : keys.Nodup
  deriving DecidableEq

namespace Registry

def empty : Registry := ⟨[], .nil⟩

instance : EmptyCollection Registry := ⟨empty⟩

instance : Inhabited Registry := ⟨empty⟩

def size (r : Registry) : Nat := r.keys.length

def isEmpty (r : Registry) : Bool := r.size == 0

/-- The number of the method at a position. Numbers are 32-bit words: they begin again at zero when
there are no more. -/
def idAt (position : Nat) : UInt32 := .ofNat (position + 1)

/-- The number a method has, if it was requested before. -/
def id? (r : Registry) (key : MethodKey) : Option UInt32 :=
  (r.keys.idxOf? key).map idAt

/-- The number of a method. A method without one is numbered next. -/
def request (r : Registry) (key : MethodKey) : UInt32 × Registry :=
  match h : r.id? key with
  | some id => (id, r)
  | none =>
    have fresh : key ∉ r.keys := by simpa [id?, List.idxOf?_eq_none_iff] using h
    (idAt r.size, ⟨r.keys ++ [key], by
      refine List.nodup_append.2 ⟨r.distinct, by simp, fun a ha b hb => ?_⟩
      exact fun e => fresh (List.mem_singleton.1 hb ▸ e ▸ ha)⟩)

end Registry

/-- What generations share: the registry and the log, earliest record first. -/
structure Session where
  registry : Registry
  log : List LogRecord

namespace Session

def empty : Session := ⟨∅, []⟩

def record (s : Session) (level : LogLevel) (message : String) : Session :=
  { s with log := s.log ++ [⟨level, message⟩] }

/-- Requests a number. Only a first request is logged. -/
def request (s : Session) (key : MethodKey) : UInt32 × Session :=
  let (id, registry) := s.registry.request key
  let s := if (s.registry.id? key).isSome then s
    else s.record .trace ("assigned loader id " ++ toString id.toNat ++ " to " ++ key.text)
  (id, { s with registry })

end Session

/-- Separate registries with a common log. -/
structure Bank (ι : Type) where
  registry : ι → Registry
  log : List LogRecord

namespace Bank

variable {ι : Type} [DecidableEq ι]

def empty : Bank ι := ⟨fun _ => ∅, []⟩

def request (b : Bank ι) (i : ι) (key : MethodKey) : UInt32 × Bank ι :=
  let (id, s) := Session.request ⟨b.registry i, b.log⟩ key
  (id, ⟨fun j => if j = i then s.registry else b.registry j, s.log⟩)

end Bank
end OperationStubs
