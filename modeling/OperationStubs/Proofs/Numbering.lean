import OperationStubs.Proofs.Bank
import OperationStubs.Proofs.Sequence
import OperationStubs.Proofs.WholeRun

/-!
# Numbering a manifest

Loader and operator of a type ask for the numbers of the same methods, and the loader comes first.
So an operator never numbers anything, and the methods of a manifest are numbered in the order in
which they first stand in it (`numbered_in_document_order`).
-/

namespace OperationStubs

/-- The distinct keys that stand before the first occurrence of a key. -/
def ahead (keys : List MethodKey) (key : MethodKey) : Finset MethodKey :=
  (keys.takeWhile (· ≠ key)).toFinset

theorem length_eraseDups (keys : List MethodKey) : keys.eraseDups.length = keys.toFinset.card := by
  induction keys using List.reverseRecOn with
  | nil => rfl
  | append_singleton keys key ih =>
    rw [Bank.eraseDups_concat, List.toFinset_append]
    by_cases known : key ∈ keys
    · have same : keys.toFinset ∪ [key].toFinset = keys.toFinset := by simpa using known
      rw [if_pos known, same, ih]
    · have apart : Disjoint keys.toFinset [key].toFinset := by simpa using known
      rw [if_neg known, List.length_append, Finset.card_union_of_disjoint apart, ih]
      rfl

/-- The place of a key among the distinct keys is the number of those ahead of it. -/
theorem idxOf_eraseDups {keys : List MethodKey} {key : MethodKey} (mem : key ∈ keys) :
    keys.eraseDups.idxOf key = (ahead keys key).card := by
  obtain ⟨before, after, rfl, new⟩ := List.eq_append_cons_of_mem mem
  have ahead_eq : ahead (before ++ key :: after) key = before.toFinset := by
    have others : ∀ other ∈ before, decide (other ≠ key) = true := by
      intro other among
      exact decide_eq_true fun same => new (same ▸ among)
    rw [ahead, List.takeWhile_append_of_pos others, List.takeWhile_cons_of_neg (by simp),
      List.append_nil]
  have behind : (key :: after).removeAll before = key :: after.removeAll before := by
    simp [List.removeAll, new]
  have apart : key ∉ before.eraseDups := fun among => new (List.mem_eraseDups.1 among)
  rw [ahead_eq, List.eraseDups_append, behind, List.eraseDups_cons,
    List.idxOf_append_of_notMem apart, List.idxOf_cons_self, length_eraseDups, Nat.add_zero]

namespace Session

variable {s : Session} (vacant : s.registry = ∅)

include vacant

/-- From an empty registry the keys are numbered in the order of their first requests. -/
theorem keys_requestAll (keys : List MethodKey) :
    (s.requestAll keys).registry.keys = keys.eraseDups := by
  induction keys using List.reverseRecOn with
  | nil => exact congrArg Registry.keys vacant
  | append_singleton keys key ih =>
    rw [requestAll_concat, Bank.eraseDups_concat, registry_request,
      Registry.keys_request, ih]
    simp only [List.mem_eraseDups]

/-- Only the first request of a key is logged. -/
theorem log_requestAll {keys : List MethodKey} (few : keys.toFinset.card ≤ Registry.maxKeys) :
    (s.requestAll keys).log =
      s.log ++ (keys.eraseDups.zipIdx 1).map fun entry => assigned entry.2 entry.1 := by
  induction keys using List.reverseRecOn with
  | nil => exact (List.append_nil _).symm
  | append_singleton keys key ih =>
    have fewer : keys.toFinset.card ≤ (keys ++ [key]).toFinset.card := by
      apply Finset.card_le_card
      simp
    have logged := ih (Nat.le_trans fewer few)
    have known : key ∈ (s.requestAll keys).registry.keys ↔ key ∈ keys := by
      rw [keys_requestAll vacant, List.mem_eraseDups]
    rw [requestAll_concat, log_request, Bank.eraseDups_concat]
    by_cases again : key ∈ keys
    · rw [if_pos (known.2 again), if_pos again, logged]
    · have place : (s.requestAll keys).registry.size = keys.eraseDups.length := by
        rw [Registry.size, keys_requestAll vacant]
      have room : keys.eraseDups.length < Registry.maxKeys := by
        have longer := length_eraseDups (keys ++ [key])
        rw [Bank.eraseDups_concat, if_neg again, List.length_append,
          List.length_singleton] at longer
        omega
      rw [if_neg (mt known.1 again), if_neg again,
        Registry.request_of_notMem (mt known.1 again), place, Registry.idAt_toNat room, logged,
        List.zipIdx_append, List.map_append, List.append_assoc, Nat.add_comm 1]
      rfl

/-- The number of a key counts the distinct keys ahead of it. -/
theorem id?_requestAll {keys : List MethodKey} {key : MethodKey} (mem : key ∈ keys) :
    (s.requestAll keys).registry.id? key = some (Registry.idAt (ahead keys key).card) := by
  have among : key ∈ keys.eraseDups := List.mem_eraseDups.2 mem
  refine Registry.id?_eq_some_iff.2 ⟨(ahead keys key).card, ?_, rfl⟩
  rw [keys_requestAll vacant, ← idxOf_eraseDups mem]
  exact List.getElem?_eq_some_iff.2 ⟨List.idxOf_lt_length_iff.2 among, List.getElem_idxOf _⟩

end Session

namespace Loader

/-- What is asked for on behalf of a method. The constant of an overloaded one has its number in its
name as well. -/
def asked (model : ClassModel) (method : Method) : List MethodKey :=
  if isOverloaded model method then [method.key, method.key] else [method.key]

theorem sequence_constant (model : ClassModel) (method : Method) :
    (constant model method).Sequence (asked model method) none := by
  have id := Hook.sequence_loaderId method
  unfold constant constantName asked
  split
  · have name : Hook.Sequence [method.key] none
        (do let id ← Hook.loaderId method
            return String.ofList (upperSnake method.name.toList) ++ "_" ++ toString id.toNat) :=
      id.bind fun _ => Hook.sequence_pure _
    exact id.bind fun _ => name.bind fun _ => Hook.sequence_emit _
  · exact id.bind fun _ => (Hook.sequence_pure _).bind fun _ => Hook.sequence_emit _

/-- To ask twice for an overloaded method is to ask for it once. -/
theorem requestAll_asked (model : ClassModel) (methods : List Method) (s : Session) :
    s.requestAll (methods.flatMap (asked model)) = s.requestAll (methods.map (·.key)) := by
  induction methods generalizing s with
  | nil => rfl
  | cons method methods ih =>
    have once : s.requestAll (asked model method) = (s.request method.key).2 := by
      unfold asked
      split
      · refine Session.request_known ?_
        rw [Session.registry_request, Registry.keys_request]
        split
        · assumption
        · simp
      · rfl
    rw [List.flatMap_cons, Session.requestAll_append, once, ih]
    rfl

end Loader

namespace Role

variable (role : Role) (type : OperationType)

/-- What a class asks for, in order. -/
def asked : List MethodKey :=
  match role with
  | .loader => type.methodData.flatMap (Loader.asked (Loader.model type))
  | .operator => type.methodData.map (·.key)

theorem sequence_program (options : Options) (time : Timestamp) :
    ((role.generator type).program options time).Sequence (role.asked type) none := by
  cases role with
  | loader =>
    have body : (Loader.generator type).body.Sequence (asked .loader type) none := by
      change (Loader.body (Loader.model type)).Sequence _ none
      rw [Loader.body_eq, ← List.append_nil (asked .loader type)]
      exact (Hook.sequence_forM _ (Loader.sequence_constant _)).bind fun _ =>
        Hook.sequence_emitAll _
    exact Generator.sequence_program options time (Hook.sequence_emit _) body
  | operator =>
    have forward (method : Method) : (Operator.forward method).Sequence [method.key] none :=
      (Hook.sequence_emit _).bind fun _ => (Hook.sequence_emit _).bind fun _ =>
        (Hook.sequence_loaderId method).bind fun _ => (Hook.sequence_emit _).bind fun _ =>
          Hook.sequence_emit _
    have body : (Operator.generator type).body.Sequence (asked .operator type) none := by
      change (Operator.body (Operator.model type)).Sequence _ none
      rw [Operator.body_eq, asked, List.map_eq_flatMap]
      exact (Hook.sequence_emitAll _).bind fun _ => Hook.sequence_forM _ forward
    exact Generator.sequence_program options time (Hook.sequence_pure ()) body

end Role

namespace Rendering

/-- Where every write goes well a class asks for all its methods. -/
theorem perform_roomy (r : Rendering) (roomy : Writing.Roomy r.device.out r.device.blank)
    (s : Session) :
    (r.perform s).1.result = .ok () ∧ (r.perform s).2 = s.requestAll r.keys := by
  obtain ⟨good, session⟩ := (r.role.sequence_program r.type r.options r.time).exec_run roomy
    (.start r.options.indent) s
  simp only [perform, Generator.render_eq]
  refine ⟨fault?_eq_none.1 good, session.trans ?_⟩
  cases r.role with
  | loader => exact Loader.requestAll_asked _ _ s
  | operator => rfl

theorem performAll_roomy {rs : List Rendering}
    (roomy : ∀ r ∈ rs, Writing.Roomy r.device.out r.device.blank) (s : Session) :
    (∀ p ∈ (performAll rs s).1, p.result = .ok ()) ∧
      (performAll rs s).1.map (·.rendering) = rs ∧
      (performAll rs s).2 = s.requestAll (rs.flatMap keys) := by
  induction rs generalizing s with
  | nil => exact ⟨fun p mem => absurd mem List.not_mem_nil, rfl, rfl⟩
  | cons r rs ih =>
    obtain ⟨first, rest⟩ := List.forall_mem_cons.1 roomy
    obtain ⟨results, renderings, session⟩ := ih rest (r.perform s).2
    rw [performAll_cons]
    refine ⟨List.forall_mem_cons.2 ⟨(r.perform_roomy first s).1, results⟩, ?_, ?_⟩
    · exact congrArg (r :: ·) renderings
    · rw [session, (r.perform_roomy first s).2, List.flatMap_cons, Session.requestAll_append]

end Rendering

/-- In a text that is there as a whole every method has its line. -/
theorem Printout.prints_of_text {p : Printout} {ids : MethodKey → UInt32}
    (text : p.text = p.rendering.text ids) {method : Method}
    (mem : method ∈ p.rendering.type.methodData) : p.Prints method (ids method.key) := by
  obtain ⟨before, after, split⟩ := List.append_of_mem mem
  obtain ⟨rest, eq⟩ := p.rendering.text_eq ids split
  exact ⟨before, after, ids, split, ⟨rest, by rw [text, eq]⟩, rfl⟩

namespace Manifest

/-- The keys of all methods, as they stand in the manifest. -/
def keys (manifest : Manifest) : List MethodKey :=
  manifest.types.flatMap fun type => type.methodData.map (·.key)

/-- The number of a method by its place in the manifest. -/
def number (manifest : Manifest) (key : MethodKey) : UInt32 :=
  Registry.idAt (ahead manifest.keys key).card

/-- The operator of a type comes behind its loader. -/
theorem loader_mem {manifest : Manifest} {before after : List Job} {type : OperationType}
    (split : manifest.jobs = before ++ (.operator, type) :: after) : (.loader, type) ∈ before := by
  obtain ⟨types⟩ := manifest
  induction types generalizing before with
  | nil => simp [jobs] at split
  | cons first types ih =>
    have two : jobs ⟨first :: types⟩ = (.loader, first) :: (.operator, first) :: jobs ⟨types⟩ := rfl
    rw [two] at split
    rcases before with _ | ⟨job, _ | ⟨job', before⟩⟩
    · cases (List.cons.inj split).1
    · obtain ⟨rfl, rest⟩ := List.cons.inj split
      cases (List.cons.inj rest).1
      exact List.mem_singleton_self _
    · obtain ⟨_, rest⟩ := List.cons.inj split
      have later := ih (List.cons.inj rest).2
      exact List.mem_cons_of_mem _ (List.mem_cons_of_mem _ later)

/-- All classes together ask for no more than the keys of the manifest. -/
theorem requestAll_jobs (manifest : Manifest) (s : Session) :
    s.requestAll (manifest.jobs.flatMap fun job => job.2.methodData.map (·.key)) =
      s.requestAll manifest.keys := by
  obtain ⟨types⟩ := manifest
  induction types generalizing s with
  | nil => rfl
  | cons type types ih =>
    have asked : ∀ key ∈ type.methodData.map (·.key),
        key ∈ (s.requestAll (type.methodData.map (·.key))).registry.keys := fun key mem =>
      Session.mem_requestAll.2 (.inr mem)
    have jobs_cons : jobs ⟨type :: types⟩ = (.loader, type) :: (.operator, type) :: jobs ⟨types⟩ :=
      rfl
    have keys_cons : keys ⟨type :: types⟩ = type.methodData.map (·.key) ++ keys ⟨types⟩ := rfl
    rw [jobs_cons, keys_cons, List.flatMap_cons, List.flatMap_cons, Session.requestAll_append,
      Session.requestAll_append, Session.requestAll_append, Session.requestAll_known asked]
    exact ih _

theorem toNat_number {manifest : Manifest} (few : manifest.keys.toFinset.card ≤ Registry.maxKeys)
    {key : MethodKey} (mem : key ∈ manifest.keys) :
    (manifest.number key).toNat = (ahead manifest.keys key).card + 1 := by
  have place := List.idxOf_lt_length_iff.2 (List.mem_eraseDups.2 mem)
  rw [idxOf_eraseDups mem, length_eraseDups] at place
  exact Registry.idAt_toNat (Nat.lt_of_lt_of_le place few)

section Renderings

variable {manifest : Manifest} {renderings : List Rendering} {start : Session}
variable (order : renderings.map (fun r => (r.role, r.type)) = manifest.jobs)
variable (roomy : ∀ r ∈ renderings, Writing.Roomy r.device.out r.device.blank)

include order roomy

theorem session_performAll :
    (Rendering.performAll renderings start).2 = start.requestAll manifest.keys := by
  have jobs : renderings.flatMap Rendering.keys =
      manifest.jobs.flatMap fun job => job.2.methodData.map (·.key) := by
    rw [← order, List.flatMap_map]
    rfl
  rw [(Rendering.performAll_roomy roomy start).2.2, jobs, requestAll_jobs]

theorem mem_keys {p : Printout} (mem : p ∈ (Rendering.performAll renderings start).1)
    {method : Method} (own : method ∈ p.rendering.type.methodData) :
    method.key ∈ manifest.keys := by
  have each := (Rendering.performAll_roomy roomy start).2.1
  have rendered : p.rendering ∈ renderings := each ▸ List.mem_map_of_mem mem
  have job : (p.rendering.role, p.rendering.type) ∈ manifest.jobs :=
    order ▸ List.mem_map_of_mem rendered
  obtain ⟨type, among, pair⟩ := List.mem_flatMap.1 job
  have same : p.rendering.type = type := by
    rcases List.mem_pair.1 pair with eq | eq <;> exact congrArg Prod.snd eq
  exact List.mem_flatMap.2 ⟨type, among, same ▸ List.mem_map_of_mem own⟩

/-- An operator finds all its methods numbered. -/
theorem session_operator {before after : List Rendering} {r : Rendering}
    (split : renderings = before ++ r :: after) (role : r.role = .operator) :
    let s := (Rendering.performAll before start).2
    (r.perform s).2 = s := by
  subst split
  have jobs : manifest.jobs = before.map (fun r => (r.role, r.type)) ++
      (.operator, r.type) :: after.map fun r => (r.role, r.type) := by
    rw [← order, List.map_append, List.map_cons, role]
  obtain ⟨loader, mem, pair⟩ := List.mem_map.1 (loader_mem jobs)
  have type : loader.type = r.type := congrArg Prod.snd pair
  have done := (Rendering.performAll_roomy
    (fun r mem => roomy r (List.mem_append_left _ mem)) start).2.2
  dsimp only
  rw [(r.perform_roomy (roomy r (by simp)) _).2, done]
  refine Session.requestAll_known fun key own => ?_
  rw [Session.mem_requestAll, List.mem_flatMap]
  exact .inr ⟨loader, mem, by rwa [Rendering.keys, type]⟩

variable (vacant : start.registry = ∅)

include vacant

theorem id?_performAll {key : MethodKey} (mem : key ∈ manifest.keys) :
    (Rendering.performAll renderings start).2.registry.id? key = some (manifest.number key) := by
  rw [session_performAll order roomy]
  exact Session.id?_requestAll vacant mem

theorem agrees_number :
    (Rendering.performAll renderings start).2.registry.Agrees manifest.number := by
  intro key id numbered
  have mem : key ∈ manifest.keys := by
    rw [← List.mem_eraseDups, ← Session.keys_requestAll vacant, ← session_performAll order roomy]
    by_contra missing
    rw [Registry.id?_eq_none_iff.2 missing] at numbered
    cases numbered
  rw [id?_performAll order roomy vacant mem] at numbered
  exact Option.some.inj numbered

end Renderings

/-- What the classes of a manifest come to, made by some renderings from the session `start`. -/
structure Numbering (manifest : Manifest) (renderings : List Rendering) (start : Session)
    (printouts : List Printout) (ended : Session) : Prop where
  each : printouts.map (·.rendering) = renderings
  whole : ∀ p ∈ printouts, p.result = .ok () ∧ p.text = p.rendering.text manifest.number
  /-- A class prints one number for each of its methods, which counts the distinct keys of the
  manifest that stand ahead of it. -/
  number : ∀ p ∈ printouts, ∀ method ∈ p.rendering.type.methodData, ∀ number : UInt32,
    p.Prints method number ↔ number.toNat = (ahead manifest.keys method.key).card + 1
  registry : ended.registry.keys = manifest.keys.eraseDups
  /-- An operator finds all its methods numbered. -/
  operators : ∀ before r after, renderings = before ++ r :: after → r.role = .operator →
    let s := (Rendering.performAll before start).2
    (r.perform s).2 = s
  /-- The distinct keys are logged in order with the numbers 1, 2, 3, …, each by its declaring type,
  its name and its parameter types. -/
  log : ended.log = start.log ++ (manifest.keys.eraseDups.zipIdx 1).map fun (key, number) =>
    ⟨.trace, "assigned loader id " ++ toString number ++ " to " ++ key.declaringType ++ "#" ++
      key.name ++ "(" ++ ", ".intercalate key.parameterTypes ++ ")"⟩

/-- The methods of a manifest are numbered 1, 2, 3, … as they first stand in it. -/
theorem numbered_in_document_order (manifest : Manifest) (renderings : List Rendering)
    (start : Session) (order : renderings.map (fun r => (r.role, r.type)) = manifest.jobs)
    (roomy : ∀ r ∈ renderings, Writing.Roomy r.device.out r.device.blank)
    (vacant : start.registry = ∅) (few : manifest.keys.toFinset.card ≤ Registry.maxKeys) :
    Numbering manifest renderings start (Rendering.performAll renderings start).1
      (Rendering.performAll renderings start).2 := by
  obtain ⟨results, each, -⟩ := Rendering.performAll_roomy roomy start
  have session : (Rendering.performAll renderings start).2 = start.requestAll manifest.keys :=
    session_performAll order roomy
  have agrees := agrees_number order roomy vacant
  have text : ∀ p ∈ (Rendering.performAll renderings start).1,
      p.text = p.rendering.text manifest.number := fun p mem =>
    ((Rendering.performAll_writes renderings start).2.2 _ agrees p mem).2 (results p mem)
  constructor
  case each => exact each
  case whole => exact fun p mem => ⟨results p mem, text p mem⟩
  case number =>
    intro p mem method own number
    have known := mem_keys order roomy mem own
    rw [← toNat_number few known, UInt32.toNat_inj]
    constructor
    · intro prints
      have numbered := Rendering.id?_of_prints mem prints
      rw [id?_performAll order roomy vacant known] at numbered
      exact (Option.some.inj numbered).symm
    · rintro rfl
      exact Printout.prints_of_text (text p mem) own
  case registry => rw [session, Session.keys_requestAll vacant]
  case operators => exact fun before r after => session_operator order roomy
  case log =>
    rw [session, Session.log_requestAll vacant few]
    simp only [Session.assigned, MethodKey.text, String.append_assoc]

/-- Overloads, one of them twice, and a second type of the same name with one method more. -/
theorem numbered_in_document_order_repeated :
    let load : OperationMethod := ⟨"load", [⟨"id", "int"⟩, ⟨"all", "boolean"⟩], "void"⟩
    let reload : OperationMethod := ⟨"load", [], "void"⟩
    let save : OperationMethod := ⟨"save", [], "void"⟩
    let manifest : Manifest := ⟨[⟨"p.Ops", none, [], none, none, [load, reload, load]⟩,
      ⟨"p.Ops", none, [], none, none, [save, reload]⟩]⟩
    let renderings := manifest.jobs.map fun job => job.rendering { } ⟨2024, 1, 1, 0, 0, 0⟩
    let ended := (Rendering.performAll renderings .empty).2
    Numbering manifest renderings .empty (Rendering.performAll renderings .empty).1 ended ∧
      manifest.keys.map (fun key => (ahead manifest.keys key).card + 1) = [1, 2, 1, 3, 2] ∧
      ended.log = [⟨.trace, "assigned loader id 1 to p.Ops#load(int, boolean)"⟩,
        ⟨.trace, "assigned loader id 2 to p.Ops#load()"⟩,
        ⟨.trace, "assigned loader id 3 to p.Ops#save()"⟩] := by
  intro load reload save manifest renderings ended
  have order : renderings.map (fun r => (r.role, r.type)) = manifest.jobs := rfl
  have roomy : ∀ r ∈ renderings, Writing.Roomy r.device.out r.device.blank := by
    intro r mem
    obtain ⟨job, _, rfl⟩ := List.mem_map.1 mem
    exact Output.roomy_write rfl
  have numbering :=
    numbered_in_document_order manifest renderings .empty order roomy rfl (by decide)
  refine ⟨numbering, by decide, ?_⟩
  rw [numbering.log]
  decide +kernel

end Manifest
end OperationStubs
