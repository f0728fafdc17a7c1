import OperationStubs.Proofs.Agreement
import OperationStubs.Proofs.Split

/-!
# Names of constants

A loader declares one constant for each method (`constants_script`). Overloads never get one name,
since their numbers can be read off. Other methods can, because many names have one upper-case
form, and so can a method and an overload, where the name of the one looks like the other with its
number: the names are pairwise different exactly where no two methods clash
(`constants_nodup_iff`).
-/

namespace OperationStubs

/-- The constant that a call of the writer declares. -/
def Step.constant? : Step → Option String
  | .field type name modifiers _ =>
    if modifiers.toList = [.public, .static, .final] ∧ type = "int" then some name else none
  | _ => none

namespace Loader

/-- The part of a constant's name that comes from the method's name. -/
def stem (method : Method) : String := String.ofList (upperSnake method.name.toList)

/-- The name of an overload's constant. -/
def suffixed (ids : MethodKey → UInt32) (method : Method) : String :=
  stem method ++ "_" ++ toString (ids method.key).toNat

theorem numbered_eq (ids : MethodKey → UInt32) (model : ClassModel) (method : Method) :
    numbered ids model method =
      if isOverloaded model method then suffixed ids method else stem method := rfl

/-- Two methods whose constants get one name. -/
def Clash (ids : MethodKey → UInt32) (model : ClassModel) (a b : Method) : Prop :=
  match isOverloaded model a, isOverloaded model b with
  | false, false => stem a = stem b
  | true, false => suffixed ids a = stem b
  | false, true => stem a = suffixed ids b
  | true, true => False

/-- The number behind the last underscore can be read off. -/
theorem ids_eq_of_suffixed {ids : MethodKey → UInt32} {a b : Method}
    (h : suffixed ids a = suffixed ids b) : ids a.key = ids b.key := by
  have digits (n : Nat) : '_' ∉ (toString n).toList := by
    rw [Nat.toString_eq_repr, Nat.toList_repr]
    intro mem
    exact absurd (Nat.isDigit_of_mem_toDigits (by decide) (by decide) mem) (by decide)
  have cut (m : Method) : Text.cutLast '_' (suffixed ids m).toList =
      some ((stem m).toList, (toString (ids m.key).toNat).toList) := by
    rw [suffixed, String.toList_append, String.toList_append, List.append_assoc]
    exact Text.cutLast_append (digits _) _
  have same := cut a
  rw [h, cut b] at same
  have text := String.toList_inj.1 (Prod.mk.inj (Option.some.inj same)).2
  exact UInt32.toNat_inj.1 (numeral_injective (congrArg utf8 text.symm))

theorem numbered_eq_iff_clash {ids : MethodKey → UInt32} {model : ClassModel} {a b : Method}
    (apart : ids a.key ≠ ids b.key) :
    numbered ids model a = numbered ids model b ↔ Clash ids model a b := by
  rw [numbered_eq, numbered_eq, Clash]
  cases isOverloaded model a <;> cases isOverloaded model b <;>
    simp only [if_true, if_false, Bool.false_eq_true]
  exact iff_false_intro fun same => apart (ids_eq_of_suffixed same)

theorem constants_rest (model : ClassModel) : (rest model).filterMap Step.constant? = [] := by
  unfold rest
  split <;> rfl

end Loader

/-- A loader declares the constants of its methods and no others. -/
theorem Role.constants_script (type : OperationType) (ids : MethodKey → UInt32) (options : Options)
    (time : Timestamp) :
    (Role.loader.script type ids options time).filterMap Step.constant? =
      type.methodData.map (Loader.numbered ids (Loader.model type)) := by
  have lead : (Role.loader.lead type options time).filterMap Step.constant? = [] := rfl
  have lines (methods : List Method) :
      (Role.loader.lines type ids methods).filterMap Step.constant? =
        methods.map (Loader.numbered ids (Loader.model type)) := by
    induction methods with
    | nil => rfl
    | cons method methods ih =>
      rw [Role.lines_cons, List.filterMap_append, ih]
      rfl
  have tail : (Role.loader.tail type).filterMap Step.constant? = [] := by
    rw [Role.tail, List.filterMap_append, Loader.constants_rest]
    rfl
  rw [Role.script, List.filterMap_append, List.filterMap_append, lead, lines, tail,
    List.append_nil, List.nil_append]

namespace Rendering

/-- Where nothing fails every method is numbered. -/
theorem keys_subset_perform (r : Rendering) (steady : Writing.Steady r.device.out) (s : Session)
    {method : Method} (mem : method ∈ r.type.methodData) :
    method.key ∈ (r.perform s).2.registry.keys := by
  by_contra unknown
  obtain ⟨_, text⟩ := r.perform_steady steady s
  generalize (r.perform s).2.registry = registry at text unknown
  -- Without a number in the registry any number could stand in the line of the method.
  let other := fun key => if key = method.key then registry.number key + 1 else registry.number key
  have agrees : registry.Agrees other := by
    intro key id known
    have ne : key ≠ method.key := by
      rintro rfl
      simp [Registry.id?_eq_none_iff.2 unknown] at known
    simp only [other, if_neg ne]
    exact registry.agrees_number key id known
  obtain ⟨before, after, split⟩ := List.append_of_mem mem
  obtain ⟨rest, whole⟩ := r.text_eq registry.number split
  have begins : r.textTo registry.number before method <+: r.text other := by
    rw [← text other agrees, text _ registry.agrees_number]
    exact ⟨rest, whole.symm⟩
  have same := number_of_textTo split begins
  simp [other] at same

/-- Where nothing fails, and numbers do not come round again, they tell methods apart. -/
theorem number_ne (r : Rendering) (steady : Writing.Steady r.device.out) (s : Session)
    (few : (s.registry.keys ++ r.keys).toFinset.card ≤ Registry.maxKeys) {a b : Method}
    (ha : a ∈ r.type.methodData) (hb : b ∈ r.type.methodData) (ne : a.key ≠ b.key) :
    (r.perform s).2.registry.number a.key ≠ (r.perform s).2.registry.number b.key := by
  have size := size_performAll_le [r] s
  rw [performAll_cons, List.flatMap_singleton] at size
  have small : (r.perform s).2.registry.size ≤ Registry.maxKeys := Nat.le_trans size few
  have known := r.keys_subset_perform steady s ha
  have known' := r.keys_subset_perform steady s hb
  generalize (r.perform s).2.registry = registry at small known known'
  intro same
  exact ne (Registry.id?_injective small (Registry.id?_eq_number known)
    (same ▸ Registry.id?_eq_number known'))

/-- The constants of a loader have pairwise different names exactly where no two of its methods
clash. -/
theorem constants_nodup_iff (r : Rendering) (loader : r.role = .loader)
    (steady : Writing.Steady r.device.out) (s : Session) (distinct : r.keys.Nodup)
    (few : (s.registry.keys ++ r.keys).toFinset.card ≤ Registry.maxKeys) :
    let ended := r.perform s
    let ids := ended.2.registry.number
    let steps := r.role.script r.type ids r.options r.time
    ended.1.result = .ok () ∧
      ended.1.text = (Layout.start r.options.indent).draft steps ∧
      ((steps.filterMap Step.constant?).Nodup ↔
        r.type.methodData.Pairwise fun a b => ¬ Loader.Clash ids (Loader.model r.type) a b) := by
  obtain ⟨result, text⟩ := r.perform_steady steady s
  have numbers (a : Method) (ha : a ∈ r.type.methodData) (b : Method)
      (hb : b ∈ r.type.methodData) := r.number_ne steady s few ha hb
  generalize r.perform s = printed at result text numbers ⊢
  intro ended ids steps
  refine ⟨result, text ids (Registry.agrees_number _), ?_⟩
  have apart : r.type.methodData.Pairwise fun a b => a.key ≠ b.key := List.pairwise_map.1 distinct
  simp only [steps, loader, Role.constants_script, List.Nodup, List.pairwise_map]
  constructor
  · intro names
    refine (names.and apart).imp_of_mem fun {a b} ha hb h clash => ?_
    obtain ⟨differ, ne⟩ := h
    exact differ ((Loader.numbered_eq_iff_clash (numbers a ha b hb ne)).2 clash)
  · intro free
    refine (free.and apart).imp_of_mem fun {a b} ha hb h same => ?_
    obtain ⟨unlike, ne⟩ := h
    exact unlike ((Loader.numbered_eq_iff_clash (numbers a ha b hb ne)).1 same)

/-- Two names with one upper-case form, neither of them overloaded: both constants are declared
under one name. -/
theorem constants_same_name :
    let type : OperationType :=
      ⟨"p.Ops", none, [], none, none, [⟨"loadUser", [], "void"⟩, ⟨"load_user", [], "void"⟩]⟩
    let r : Rendering := ⟨.loader, type, { }, ⟨2024, 1, 1, 0, 0, 0⟩, .endless⟩
    let ids := (r.perform .empty).2.registry.number
    let steps := r.role.script type ids r.options r.time
    r.keys.Nodup ∧ (r.perform .empty).1.text = (Layout.start r.options.indent).draft steps ∧
      steps.filterMap Step.constant? = ["LOAD_USER", "LOAD_USER"] ∧
      ¬ (steps.filterMap Step.constant?).Nodup := by
  intro type r ids steps
  have text := (r.perform_steady Device.steady_endless .empty).2 ids (Registry.agrees_number _)
  have names : steps.filterMap Step.constant? = ["LOAD_USER", "LOAD_USER"] :=
    (Role.constants_script type ids r.options r.time).trans (by decide +kernel)
  refine ⟨by decide, text, names, ?_⟩
  rw [names]
  decide

/-- Overloads beside a method whose name looks like one of them with its number. -/
theorem constants_nodup_iff_overloads :
    let type : OperationType := ⟨"p.Ops", none, [], none, none,
      [⟨"save", [], "void"⟩, ⟨"save", [⟨"id", "int"⟩], "void"⟩, ⟨"save_2", [], "void"⟩]⟩
    let r : Rendering := ⟨.loader, type, { }, ⟨2024, 1, 1, 0, 0, 0⟩, .endless⟩
    let ids := (r.perform .empty).2.registry.number
    let steps := r.role.script type ids r.options r.time
    r.keys.Nodup ∧ (Session.empty.registry.keys ++ r.keys).toFinset.card ≤ Registry.maxKeys ∧
      ((steps.filterMap Step.constant?).Nodup ↔
        type.methodData.Pairwise fun a b => ¬ Loader.Clash ids (Loader.model type) a b) ∧
      steps.filterMap Step.constant? = ["SAVE_1", "SAVE_2", "SAVE_2"] := by
  intro type r ids steps
  have distinct : r.keys.Nodup := by decide
  have few : (Session.empty.registry.keys ++ r.keys).toFinset.card ≤ Registry.maxKeys := by decide
  have all := constants_nodup_iff r rfl Device.steady_endless .empty distinct few
  refine ⟨distinct, few, all.2.2, ?_⟩
  exact (Role.constants_script type ids r.options r.time).trans (by decide +kernel)

end Rendering
end OperationStubs
