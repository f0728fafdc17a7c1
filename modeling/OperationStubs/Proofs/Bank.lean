import Mathlib.Data.Finset.Card
import Mathlib.Data.List.Induction
import OperationStubs.Proofs.Registry

/-!
# Several registries side by side

A run of requests to registries that share nothing but the log. Each registry
numbers the keys it is asked for in the order in which it first sees them
(`registry_run`), and answers as if it were alone (`run_alone`). The log has
one record for each of these first requests (`log_run`).
-/

namespace OperationStubs

namespace Bank

theorem eraseDups_concat {α : Type} [BEq α] [LawfulBEq α] (as : List α) (a : α) :
    (as ++ [a]).eraseDups = if a ∈ as then as.eraseDups else as.eraseDups ++ [a] := by
  rw [List.eraseDups_append, List.removeAll]
  by_cases h : a ∈ as <;> simp [h, List.eraseDups_cons]

variable {ι : Type} [DecidableEq ι]

/-- A run with one more request. Answers are kept in the order of the requests. -/
def next (run : List UInt32 × Bank ι) (request : ι × MethodKey) : List UInt32 × Bank ι :=
  let (id, b) := run.2.request request.1 request.2
  (run.1 ++ [id], b)

/-- The answers to some requests, and the registries after them. -/
def run (requests : List (ι × MethodKey)) : List UInt32 × Bank ι :=
  requests.foldl next ([], empty)

/-- What one registry is asked for. -/
def keysOf (i : ι) (requests : List (ι × MethodKey)) : List MethodKey :=
  (requests.filter fun r => r.1 = i).map (·.2)

/-- What one registry answers. -/
def answersOf (i : ι) (requests : List (ι × MethodKey)) (answers : List UInt32) : List UInt32 :=
  ((requests.zip answers).filter fun r => r.1.1 = i).map (·.2)

theorem run_concat (requests : List (ι × MethodKey)) (r : ι × MethodKey) :
    run (requests ++ [r]) = next (run requests) r := by
  simp [run, List.foldl_append]

theorem keysOf_concat (i : ι) (requests : List (ι × MethodKey)) (r : ι × MethodKey) :
    keysOf i (requests ++ [r]) = keysOf i requests ++ if r.1 = i then [r.2] else [] := by
  by_cases h : r.1 = i <;> simp [keysOf, List.filter_append, h]

theorem mem_keysOf {i : ι} {requests : List (ι × MethodKey)} {key : MethodKey} :
    key ∈ keysOf i requests ↔ (i, key) ∈ requests := by
  simp [keysOf]

theorem length_run (requests : List (ι × MethodKey)) :
    (run requests).1.length = requests.length := by
  induction requests using List.reverseRecOn with
  | nil => rfl
  | append_singleton requests r ih => simp [run_concat, next, ih]

theorem registry_next (b : Bank ι) (answers : List UInt32) (r : ι × MethodKey) (i : ι) :
    (next (answers, b) r).2.registry i =
      if r.1 = i then ((b.registry i).request r.2).2 else b.registry i := by
  simp only [next, request, Session.registry_request]
  by_cases h : r.1 = i
  · simp [h]
  · simp [h, Ne.symm h]

/-- A registry holds the keys it was asked for, in the order of their first requests. -/
theorem registry_run (requests : List (ι × MethodKey)) (i : ι) :
    ((run requests).2.registry i).keys = (keysOf i requests).eraseDups := by
  induction requests using List.reverseRecOn with
  | nil => rfl
  | append_singleton requests r ih =>
    rw [run_concat, registry_next, keysOf_concat]
    by_cases h : r.1 = i
    · simp only [h, if_true]
      rw [Registry.keys_request, ih, eraseDups_concat]
      simp [List.mem_eraseDups]
    · simp [h, ih]

theorem size_run (requests : List (ι × MethodKey)) (i : ι) :
    ((run requests).2.registry i).size = (keysOf i requests).toFinset.card := by
  have nodup := ((run requests).2.registry i).distinct
  rw [Registry.size, ← List.toFinset_card_of_nodup nodup, registry_run]
  congr 1
  ext key
  simp [List.mem_eraseDups]

theorem registry_le_next (b : Bank ι) (answers : List UInt32) (r : ι × MethodKey) (i : ι) :
    b.registry i ≤ (next (answers, b) r).2.registry i := by
  rw [registry_next]
  split
  · exact Registry.le_request _ _
  · exact Registry.le_refl _

/-- Every answer is the number that the key still has at the end. -/
theorem answer_run {requests : List (ι × MethodKey)} {n : Nat} {i : ι} {key : MethodKey}
    (h : requests[n]? = some (i, key)) :
    ∃ id, (run requests).1[n]? = some id ∧ ((run requests).2.registry i).id? key = some id := by
  induction requests using List.reverseRecOn with
  | nil => simp at h
  | append_singleton requests r ih =>
    rw [run_concat]
    by_cases earlier : n < requests.length
    · rw [List.getElem?_append_left earlier] at h
      obtain ⟨id, answer, number⟩ := ih h
      refine ⟨id, ?_, Registry.id?_of_le (registry_le_next _ _ r i) number⟩
      simpa [next, List.getElem?_append_left (length_run requests ▸ earlier)] using answer
    · have last : n = requests.length := by
        have := (List.getElem?_eq_some_iff.1 h).1
        simp only [List.length_append, List.length_singleton] at this
        omega
      subst last
      obtain rfl : r = (i, key) := by simpa using h
      refine ⟨(((run requests).2.registry i).request key).1, ?_, ?_⟩
      · simp [next, request, Session.request_fst, ← length_run requests]
      · rw [registry_next]
        simpa using Registry.id?_request_self _ key

/-- A registry does not notice the requests to the others. -/
theorem run_alone (requests : List (ι × MethodKey)) (i : ι) :
    (run requests).2.registry i = (run (requests.filter fun r => r.1 = i)).2.registry i ∧
      answersOf i requests (run requests).1 = (run (requests.filter fun r => r.1 = i)).1 := by
  induction requests using List.reverseRecOn with
  | nil => exact ⟨rfl, rfl⟩
  | append_singleton requests r ih =>
    obtain ⟨registry, answers⟩ := ih
    have zip (id : UInt32) : answersOf i (requests ++ [r]) ((run requests).1 ++ [id]) =
        answersOf i requests (run requests).1 ++ if r.1 = i then [id] else [] := by
      rw [answersOf, List.zip_append (length_run requests).symm]
      by_cases h : r.1 = i <;> simp [answersOf, h]
    have step : (run (requests ++ [r])).1 =
        (run requests).1 ++ [(((run requests).2.registry r.1).request r.2).1] := by
      rw [run_concat]
      rfl
    rw [step, zip, run_concat, registry_next, List.filter_append]
    by_cases h : r.1 = i
    · simp only [h, if_true, List.filter_cons, List.filter_nil, decide_true]
      rw [run_concat, registry_next]
      refine ⟨by simp [h, registry], ?_⟩
      simp only [next, request, Session.request_fst, h, registry, answers]
    · simp [h, registry, answers]

/-- The place of a key among the distinct keys of its registry. -/
def place (requests : List (ι × MethodKey)) (r : ι × MethodKey) : Nat :=
  (keysOf r.1 requests).eraseDups.idxOf r.2

theorem getElem?_place {requests : List (ι × MethodKey)} {r : ι × MethodKey} (h : r ∈ requests) :
    (keysOf r.1 requests).eraseDups[place requests r]? = some r.2 := by
  have mem : r.2 ∈ (keysOf r.1 requests).eraseDups := List.mem_eraseDups.2 (mem_keysOf.2 h)
  exact List.getElem?_eq_some_iff.2 ⟨List.idxOf_lt_length_iff.2 mem, List.getElem_idxOf _⟩

/-- Later requests do not move a key that was requested. -/
theorem place_concat {requests : List (ι × MethodKey)} {r : ι × MethodKey} (h : r ∈ requests)
    (later : ι × MethodKey) : place (requests ++ [later]) r = place requests r := by
  have mem : r.2 ∈ (keysOf r.1 requests).eraseDups := List.mem_eraseDups.2 (mem_keysOf.2 h)
  rw [place, keysOf_concat]
  by_cases same : later.1 = r.1
  · simp only [same, if_true]
    rw [eraseDups_concat]
    split
    · rfl
    · rw [List.idxOf_append_of_mem mem, place]
  · simp [same, place]

/-- Each first request of a key is logged once, and nothing else is. -/
theorem log_run (requests : List (ι × MethodKey)) :
    (run requests).2.log = requests.eraseDups.map fun r =>
      Session.assigned (Registry.idAt (place requests r)).toNat r.2 := by
  induction requests using List.reverseRecOn with
  | nil => rfl
  | append_singleton requests r ih =>
    have step : (run (requests ++ [r])).2.log =
        (Session.request ⟨(run requests).2.registry r.1, (run requests).2.log⟩ r.2).2.log := by
      rw [run_concat]
      rfl
    have known : r.2 ∈ ((run requests).2.registry r.1).keys ↔ r ∈ requests := by
      rw [registry_run, List.mem_eraseDups, mem_keysOf]
    have same : (requests.eraseDups.map fun r' =>
        Session.assigned (Registry.idAt (place (requests ++ [r]) r')).toNat r'.2) =
        (run requests).2.log := by
      rw [ih]
      refine List.map_congr_left fun r' h => ?_
      rw [place_concat (List.mem_eraseDups.1 h)]
    rw [step, Session.log_request, eraseDups_concat]
    by_cases again : r ∈ requests
    · simp only [known, again, if_true, same]
    · have last : place (requests ++ [r]) r = ((run requests).2.registry r.1).size := by
        have fresh : r.2 ∉ keysOf r.1 requests := fun h => again (mem_keysOf.1 h)
        rw [Registry.size, registry_run, place, keysOf_concat]
        simp only [if_true, eraseDups_concat, fresh, if_false]
        rw [List.idxOf_append_of_notMem (by simpa [List.mem_eraseDups] using fresh)]
        simp
      have new : (((run requests).2.registry r.1).request r.2).1 =
          Registry.idAt ((run requests).2.registry r.1).size :=
        Registry.request_of_notMem (fun h => again (known.1 h))
      simp only [known, again, if_false, List.map_append, same, List.map_cons, List.map_nil, last,
        new]

theorem place_lt {requests : List (ι × MethodKey)} {r : ι × MethodKey} (h : r ∈ requests) :
    place requests r < (keysOf r.1 requests).toFinset.card := by
  rw [← size_run, Registry.size, registry_run]
  exact (List.getElem?_eq_some_iff.1 (getElem?_place h)).1

theorem place_injective {requests : List (ι × MethodKey)} {i : ι} {key key' : MethodKey}
    (h : (i, key) ∈ requests) (h' : (i, key') ∈ requests)
    (same : place requests (i, key) = place requests (i, key')) : key = key' := by
  have at_place := getElem?_place h
  rw [same, getElem?_place h'] at at_place
  exact (Option.some.inj at_place).symm

/-- No place is left out. -/
theorem exists_place {requests : List (ι × MethodKey)} {i : ι} {k : Nat}
    (h : k < (keysOf i requests).toFinset.card) :
    ∃ key, (i, key) ∈ requests ∧ place requests (i, key) = k := by
  rw [← size_run, Registry.size, registry_run] at h
  have nodup : (keysOf i requests).eraseDups.Nodup :=
    registry_run requests i ▸ ((run requests).2.registry i).distinct
  have mem : (keysOf i requests).eraseDups[k] ∈ keysOf i requests :=
    List.mem_eraseDups.1 (List.getElem_mem h)
  exact ⟨_, mem_keysOf.1 mem, nodup.idxOf_getElem k h⟩

/-- A request is answered with the place of its key, whenever it is made. -/
theorem answer_place {requests : List (ι × MethodKey)} {n : Nat} {i : ι} {key : MethodKey}
    (h : requests[n]? = some (i, key)) :
    (run requests).1[n]? = some (Registry.idAt (place requests (i, key))) := by
  obtain ⟨id, answer, number⟩ := answer_run h
  have mem : (i, key) ∈ requests := List.mem_of_getElem? h
  have at_end : ((run requests).2.registry i).id? key =
      some (Registry.idAt (place requests (i, key))) :=
    Registry.id?_eq_some_iff.2 ⟨_, by rw [registry_run]; exact getElem?_place mem, rfl⟩
  rw [answer, ← number, at_end]

theorem mem_answersOf {i : ι} {requests : List (ι × MethodKey)} {answers : List UInt32}
    {id : UInt32} : id ∈ answersOf i requests answers ↔
      ∃ (n : Nat) (key : MethodKey), requests[n]? = some (i, key) ∧ answers[n]? = some id := by
  simp only [answersOf, List.mem_map, List.mem_filter, decide_eq_true_eq]
  constructor
  · rintro ⟨⟨⟨j, key⟩, id'⟩, ⟨mem, rfl⟩, rfl⟩
    obtain ⟨n, hn⟩ := List.mem_iff_getElem?.1 mem
    exact ⟨n, key, List.getElem?_zip_eq_some.1 hn⟩
  · rintro ⟨n, key, request, answer⟩
    refine ⟨((i, key), id), ⟨?_, rfl⟩, rfl⟩
    exact List.mem_of_getElem? (List.getElem?_zip_eq_some.2 ⟨request, answer⟩)

/-- What a run of requests owes to each registry. -/
structure Numbered (requests : List (ι × MethodKey)) : Prop where
  /-- The first key gets number one, the next new key number two, and so on, whenever they are
  requested again. -/
  answer : ∀ (n : Nat) (i : ι) (key : MethodKey), requests[n]? = some (i, key) →
    ∃ (k : Nat) (id : UInt32), (keysOf i requests).eraseDups[k]? = some key ∧
      (run requests).1[n]? = some id ∧ id.toNat = k + 1
  /-- Requests to one registry are answered alike exactly if they are for one key. -/
  injective : ∀ (n n' : Nat) (i : ι) (key key' : MethodKey), requests[n]? = some (i, key) →
    requests[n']? = some (i, key') →
      ((run requests).1[n]? = (run requests).1[n']? ↔ key = key')
  /-- No number from one to the size is left out, and no other is handed out. -/
  range : ∀ i number, (∃ id ∈ answersOf i requests (run requests).1, id.toNat = number) ↔
    1 ≤ number ∧ number ≤ ((run requests).2.registry i).size
  /-- After every step the size counts the distinct keys so far. -/
  size : ∀ n i, ((run (requests.take n)).2.registry i).size =
    (keysOf i (requests.take n)).toFinset.card
  isEmpty : ∀ n i, ((run (requests.take n)).2.registry i).isEmpty ↔
    keysOf i (requests.take n) = []
  /-- A registry answers as if it were alone. -/
  alone : ∀ i, answersOf i requests (run requests).1 =
    (run (requests.filter fun r => r.1 = i)).1
  /-- Each first request of a key leaves one record. -/
  log : (run requests).2.log = requests.eraseDups.map fun r =>
    Session.assigned (place requests r + 1) r.2

/-- Registries that are asked in any order each number their own keys 1, 2, 3, … as they first see
them. Only first requests are logged, and no registry notices the others. -/
theorem numbered_in_order_of_first_request (requests : List (ι × MethodKey))
    (few : ∀ i, (keysOf i requests).toFinset.card ≤ Registry.maxKeys) : Numbered requests := by
  have toNat {r : ι × MethodKey} (h : r ∈ requests) :
      (Registry.idAt (place requests r)).toNat = place requests r + 1 :=
    Registry.idAt_toNat (Nat.lt_of_lt_of_le (place_lt h) (few r.1))
  constructor
  case answer =>
    intro n i key h
    have mem := List.mem_of_getElem? h
    exact ⟨_, _, getElem?_place mem, answer_place h, toNat mem⟩
  case injective =>
    intro n n' i key key' h h'
    have mem := List.mem_of_getElem? h
    have mem' := List.mem_of_getElem? h'
    rw [answer_place h, answer_place h']
    constructor
    · intro same
      have numbers := congrArg UInt32.toNat (Option.some.inj same)
      rw [toNat mem, toNat mem'] at numbers
      exact place_injective mem mem' (by omega)
    · rintro rfl
      rfl
  case range =>
    intro i number
    rw [size_run]
    constructor
    · rintro ⟨id, handed, rfl⟩
      obtain ⟨n, key, request, answer⟩ := mem_answersOf.1 handed
      have mem := List.mem_of_getElem? request
      have lt := place_lt mem
      rw [answer_place request] at answer
      rw [← Option.some.inj answer, toNat mem]
      simp only at lt
      omega
    · rintro ⟨pos, le⟩
      obtain ⟨key, mem, same⟩ : ∃ key, (i, key) ∈ requests ∧ place requests (i, key) = number - 1 :=
        exists_place (Nat.sub_one_lt_of_le pos le)
      obtain ⟨n, request⟩ := List.mem_iff_getElem?.1 mem
      refine ⟨_, mem_answersOf.2 ⟨n, key, request, answer_place request⟩, ?_⟩
      rw [toNat mem, same]
      omega
  case size => exact fun n i => size_run _ i
  case isEmpty =>
    intro n i
    simp [Registry.isEmpty, size_run]
  case alone => exact fun i => (run_alone requests i).2
  case log =>
    rw [log_run]
    refine List.map_congr_left fun r h => ?_
    rw [toNat (List.mem_eraseDups.1 h)]

/-- One registry is asked for a key again and then for a new one, while another one numbers the same
keys the other way round. -/
theorem numbered_two_registries :
    let load : MethodKey := ⟨"p.Ops", "load", ["int"]⟩
    let save : MethodKey := ⟨"p.Ops", "save", []⟩
    let requests := [(true, load), (false, save), (true, load), (true, save), (false, load)]
    (∀ i, (keysOf i requests).toFinset.card ≤ Registry.maxKeys) ∧ Numbered requests ∧
      (run requests).1 = [1, 1, 1, 2, 2] :=
  ⟨by decide, numbered_in_order_of_first_request _ (by decide), by decide⟩

end Bank
end OperationStubs
