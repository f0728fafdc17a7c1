import Mathlib.Data.List.Nodup
import OperationStubs.Registry

/-!
# Loader ids

A registry only grows, and by what it is asked for:

* `keys_request`: a request adds its key to the end, unless it is there;
* `id?_of_le`: a key keeps its number while the registry grows;
* `id?_request_self`: the number handed out is the one the key has from then on;
* `id?_injective`: while the numbers have not begun again, two keys never share one.
-/

namespace OperationStubs

namespace Registry

/-- `r'` is `r` after some further requests. -/
instance : LE Registry := ⟨fun r r' => r.keys <+: r'.keys⟩

theorem le_def {r r' : Registry} : r ≤ r' ↔ r.keys <+: r'.keys := Iff.rfl

theorem le_refl (r : Registry) : r ≤ r := List.prefix_refl r.keys

theorem le_trans {a b c : Registry} (h : a ≤ b) (h' : b ≤ c) : a ≤ c := List.IsPrefix.trans h h'

/-- How many keys a registry is meant for. Their numbers are all counted from one. -/
def maxKeys : Nat := UInt32.size - 2

theorem idAt_toNat {p : Nat} (h : p < maxKeys) : (idAt p).toNat = p + 1 := by
  simp only [maxKeys, UInt32.size] at h
  exact UInt32.toNat_ofNat_of_lt (by simp only [UInt32.size]; omega)

theorem id?_eq_some_iff {r : Registry} {key : MethodKey} {id : UInt32} :
    r.id? key = some id ↔ ∃ p, r.keys[p]? = some key ∧ idAt p = id := by
  simp only [id?, Option.map_eq_some_iff]
  constructor
  · rintro ⟨p, hp, rfl⟩
    obtain ⟨lt, eq, _⟩ := List.idxOf?_eq_some_iff.1 hp
    exact ⟨p, List.getElem?_eq_some_iff.2 ⟨lt, by simpa using eq⟩, rfl⟩
  · rintro ⟨p, hp, rfl⟩
    obtain ⟨lt, rfl⟩ := List.getElem?_eq_some_iff.1 hp
    refine ⟨p, List.idxOf?_eq_some_iff.2 ⟨lt, by simp, fun q hq => ?_⟩, rfl⟩
    intro eq
    exact absurd ((r.distinct.getElem_inj_iff).1 eq) (by omega)

theorem id?_eq_none_iff {r : Registry} {key : MethodKey} : r.id? key = none ↔ key ∉ r.keys := by
  simp [id?]

theorem keys_request (r : Registry) (key : MethodKey) :
    (r.request key).2.keys = if key ∈ r.keys then r.keys else r.keys ++ [key] := by
  unfold request
  split
  · rename_i id h
    have known : key ∈ r.keys := by
      by_contra fresh
      simp [id?_eq_none_iff.2 fresh] at h
    simp [known]
  · rename_i h
    simp [id?_eq_none_iff.1 h]

theorem le_request (r : Registry) (key : MethodKey) : r ≤ (r.request key).2 := by
  rw [le_def, keys_request]
  split
  · exact List.prefix_refl _
  · exact List.prefix_append _ _

/-- Numbers are never taken back or changed. -/
theorem id?_of_le {r r' : Registry} (h : r ≤ r') {key : MethodKey} {id : UInt32}
    (hid : r.id? key = some id) : r'.id? key = some id := by
  obtain ⟨p, hp, rfl⟩ := id?_eq_some_iff.1 hid
  refine id?_eq_some_iff.2 ⟨p, ?_, rfl⟩
  obtain ⟨lt, _⟩ := List.getElem?_eq_some_iff.1 hp
  obtain ⟨more, eq⟩ := le_def.1 h
  rw [← eq, List.getElem?_append_left lt]
  exact hp

theorem id?_request_self (r : Registry) (key : MethodKey) :
    (r.request key).2.id? key = some (r.request key).1 := by
  unfold request
  split
  · assumption
  · rename_i h
    exact id?_eq_some_iff.2 ⟨r.size, by simp [size], rfl⟩

theorem request_of_notMem {r : Registry} {key : MethodKey} (h : key ∉ r.keys) :
    (r.request key).1 = idAt r.size := by
  have none := id?_eq_none_iff.2 h
  unfold request
  split
  · simp_all
  · rfl

theorem id?_injective {r : Registry} (few : r.size ≤ maxKeys) {a b : MethodKey} {id : UInt32}
    (ha : r.id? a = some id) (hb : r.id? b = some id) : a = b := by
  obtain ⟨p, hp, rfl⟩ := id?_eq_some_iff.1 ha
  obtain ⟨q, hq, eq⟩ := id?_eq_some_iff.1 hb
  obtain ⟨ltp, rfl⟩ := List.getElem?_eq_some_iff.1 hp
  obtain ⟨ltq, rfl⟩ := List.getElem?_eq_some_iff.1 hq
  simp only [size] at few
  have same : (idAt q).toNat = (idAt p).toNat := congrArg _ eq
  rw [idAt_toNat (by omega), idAt_toNat (by omega)] at same
  have : p = q := by omega
  subst this
  rfl

end Registry

namespace Session

theorem request_fst (s : Session) (key : MethodKey) :
    (s.request key).1 = (s.registry.request key).1 := rfl

theorem registry_request (s : Session) (key : MethodKey) :
    (s.request key).2.registry = (s.registry.request key).2 := rfl

/-- What is logged when a key gets its number. -/
def assigned (number : Nat) (key : MethodKey) : LogRecord :=
  ⟨.trace, "assigned loader id " ++ toString number ++ " to " ++ key.text⟩

theorem log_request (s : Session) (key : MethodKey) :
    (s.request key).2.log =
      if key ∈ s.registry.keys then s.log
      else s.log ++ [assigned (s.registry.request key).1.toNat key] := by
  simp only [request]
  by_cases known : key ∈ s.registry.keys
  · have : s.registry.id? key ≠ none := fun h => Registry.id?_eq_none_iff.1 h known
    simp [known, Option.isSome_iff_ne_none.2 this]
  · simp [known, Registry.id?_eq_none_iff.2 known, record, assigned]

end Session
end OperationStubs
