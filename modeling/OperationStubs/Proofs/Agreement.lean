import Mathlib.Data.Finset.Card
import OperationStubs.Proofs.Stub

/-!
# Classes made separately agree on the numbers

Loaders and operators of any types are rendered one after the other, each onto an output of its own
that may fail at any time. All they share is a registry. The numbers in their lines are read back
from the texts (`Role.number_of_lines`) and are those of the registry (`numbers_agree`).
-/

namespace OperationStubs

namespace Role

variable (role : Role) (type : OperationType)

theorem lines_append (ids : MethodKey → UInt32) (before after : List Method) :
    role.lines type ids (before ++ after) =
      role.lines type ids before ++ role.lines type ids after :=
  List.flatMap_append

theorem lines_cons (ids : MethodKey → UInt32) (method : Method) (after : List Method) :
    role.lines type ids (method :: after) =
      role.line type ids method ++ role.close ++ role.lines type ids after := rfl

/-- The methods begin on a line of their own. -/
theorem lead_atLineStart (l : Layout) (options : Options) (time : Timestamp) :
    (l.pastSteps (role.lead type options time)).atLineStart = true := by
  cases role
  · simp only [lead, Generator.frame, Layout.pastSteps_append, Layout.pastSteps_cons,
      Layout.pastSteps_nil, Layout.pastStep_emptyLine]
  · simp only [lead, Operator.opening, Layout.pastSteps_append, Layout.pastSteps_cons,
      Layout.pastSteps_nil, Layout.pastStep_endMethod]

/-- Where two texts agree down to the line of a method, that line has the same number in both. -/
theorem number_of_lines {ids ids' : MethodKey → UInt32} {l : Layout}
    (start : l.atLineStart = true) {before : List Method} {method : Method} {after : List Method}
    {xs ys : List UInt8}
    (h : l.draft (role.lines type ids before ++ role.line type ids method) ++ xs <+:
      l.draft (role.lines type ids' (before ++ method :: after)) ++ ys) :
    ids method.key = ids' method.key := by
  induction before with
  | nil =>
    rw [List.nil_append, lines_cons, List.append_assoc, Layout.draft_append l (line _ _ ids' _),
      List.append_assoc] at h
    exact role.number_of_prefix type h
  | cons first before ih =>
    have both := h
    rw [List.cons_append, lines_cons, lines_cons] at both
    simp only [List.append_assoc, Layout.draft_append l (line _ _ _ first)] at both
    have same := role.line_congr type (role.number_of_prefix type both)
    -- Behind the first method both texts go on at the layout they began with.
    rw [List.cons_append, lines_cons, lines_cons, same, List.append_assoc, Layout.draft_append,
      Layout.draft_append l (_ ++ _), role.past_method type start, List.append_assoc,
      List.append_assoc] at h
    exact ih ((List.prefix_append_right_inj _).1 h)

end Role

/-- An output that keeps what it takes, in order, and may fail at any time. -/
structure Device where
  State : Type
  out : Sink (StateM State)
  content : State → List UInt8
  appends : Writing.Appends out content
  blank : State
  content_blank : content blank = []

/-- An output that takes everything. -/
def Device.endless : Device :=
  ⟨List UInt8, fun bytes held => (.ok (), held ++ bytes), id, fun _ _ => rfl, [], rfl⟩

theorem Device.steady_endless : Writing.Steady Device.endless.out := fun _ _ => rfl

/-- An output in memory. -/
def Device.ofRoom (room : Option Nat) : Device :=
  ⟨Output, Output.write, fun o => o.accepted.toList, Output.appends_write, .empty room, rfl⟩

/-- The rendering of one class. -/
structure Rendering where
  role : Role
  type : OperationType
  options : Options
  time : Timestamp
  device : Device

/-- How a rendering ended, and the text it left. -/
structure Printout where
  rendering : Rendering
  result : Except Fault Unit
  text : List UInt8

namespace Rendering

def perform (r : Rendering) (s : Session) : Printout × Session :=
  let ((result, s), o) :=
    (r.role.generator r.type).render r.device.out r.options r.time s r.device.blank
  (⟨r, result, r.device.content o⟩, s)

/-- One rendering after the other, in a common session. -/
def performAll : List Rendering → Session → List Printout × Session
  | [], s => ([], s)
  | r :: rs, s =>
    let (p, s) := r.perform s
    let (ps, s) := performAll rs s
    (p :: ps, s)

def keys (r : Rendering) : List MethodKey := r.type.methodData.map (·.key)

/-- The text of the class, with `ids` for the numbers of methods. -/
def text (r : Rendering) (ids : MethodKey → UInt32) : List UInt8 :=
  (Layout.start r.options.indent).draft (r.role.script r.type ids r.options r.time)

/-- The text down to the line of a method that comes after `before`. -/
def textTo (r : Rendering) (ids : MethodKey → UInt32) (before : List Method) (method : Method) :
    List UInt8 :=
  (Layout.start r.options.indent).draft (r.role.lead r.type r.options r.time ++
    (r.role.lines r.type ids before ++ r.role.line r.type ids method))

end Rendering

/-- In the line of a method a number is printed, and the line is complete. -/
def Printout.Prints (p : Printout) (method : Method) (number : UInt32) : Prop :=
  ∃ before after ids, p.rendering.type.methodData = before ++ method :: after ∧
    p.rendering.textTo ids before method <+: p.text ∧ ids method.key = number

namespace Rendering

theorem text_eq (r : Rendering) (ids : MethodKey → UInt32) {before after : List Method}
    {method : Method} (split : r.type.methodData = before ++ method :: after) :
    ∃ rest, r.text ids = r.textTo ids before method ++ rest := by
  simp only [text, textTo, Role.script, split, Role.lines_append, Role.lines_cons]
  simp only [Layout.draft_append, List.append_assoc]
  exact ⟨_, rfl⟩

theorem number_of_textTo {r : Rendering} {ids ids' : MethodKey → UInt32}
    {before after : List Method} {method : Method}
    (split : r.type.methodData = before ++ method :: after)
    (h : r.textTo ids before method <+: r.text ids') : ids method.key = ids' method.key := by
  simp only [textTo, text, Role.script, split] at h
  rw [List.append_assoc, Layout.draft_append _ (r.role.lead r.type _ _),
    Layout.draft_append _ (r.role.lead r.type _ _)] at h
  have lines := (List.prefix_append_right_inj _).1 h
  rw [Layout.draft_append _ (r.role.lines r.type ids' _),
    ← List.append_nil (Layout.draft _ (_ ++ r.role.line r.type ids method))] at lines
  exact r.role.number_of_lines r.type (r.role.lead_atLineStart r.type _ r.options r.time) lines

theorem rendering_perform (r : Rendering) (s : Session) : (r.perform s).1.rendering = r := rfl

theorem perform_of_render {r : Rendering} {s s' : Session} {result : Except Fault Unit}
    {o : r.device.State}
    (rendered : (r.role.generator r.type).render r.device.out r.options r.time s r.device.blank =
      ((result, s'), o)) :
    r.perform s = (⟨r, result, r.device.content o⟩, s') := by
  rw [perform, rendered]

/-- A rendering lets the registry grow by keys of its own methods, and writes its class with the
numbers of the registry, or a beginning of it. -/
theorem perform_writes (r : Rendering) (s : Session) :
    s.registry ≤ (r.perform s).2.registry ∧
    (∀ key ∈ (r.perform s).2.registry.keys, key ∈ s.registry.keys ∨ key ∈ r.keys) ∧
    ∀ ids, (r.perform s).2.registry.Agrees ids → (r.perform s).1.text <+: r.text ids ∧
      ((r.perform s).1.result = .ok () → (r.perform s).1.text = r.text ids) := by
  simp only [perform, Generator.render_eq]
  refine ⟨Hook.registry_le_run _ s _ _ _, fun key mem => ?_, fun ids agrees => ?_⟩
  · rcases Hook.mem_keys_run _ s _
      (r.role.asks_program r.type r.options r.time) mem with known | ⟨method, among, rfl⟩
    · exact .inl known
    · exact .inr (List.mem_map_of_mem among)
  · have follows := Hook.follows_script _ s r.device.blank r.device.appends
      (r.role.strict_program r.type r.options r.time) ids agrees
    rw [r.role.lists_program r.type ids r.options r.time] at follows
    rcases follows with ⟨_, _, all⟩ | ⟨fault, failed, done, beginning, cut⟩
    · rw [r.device.content_blank, List.nil_append] at all
      rw [all]
      exact ⟨List.prefix_refl _, fun _ => rfl⟩
    · rw [r.device.content_blank, List.nil_append] at cut
      rw [cut, failed]
      exact ⟨beginning, nofun⟩

/-- On an output that never fails the whole class is written, with the numbers of the registry. -/
theorem perform_steady (r : Rendering) (steady : Writing.Steady r.device.out) (s : Session) :
    (r.perform s).1.result = .ok () ∧
      ∀ ids, (r.perform s).2.registry.Agrees ids → (r.perform s).1.text = r.text ids := by
  have result : (r.perform s).1.result = .ok () := by
    simp only [perform, Generator.render_eq]
    rw [Hook.result_of_steady _ s _ steady
      (r.role.strict_program r.type r.options r.time) _ (Registry.agrees_number _),
      r.role.lists_program r.type _ r.options r.time]
  exact ⟨result, fun ids agrees => ((r.perform_writes s).2.2 ids agrees).2 result⟩

theorem performAll_cons (r : Rendering) (rs : List Rendering) (s : Session) :
    performAll (r :: rs) s =
      ((r.perform s).1 :: (performAll rs (r.perform s).2).1, (performAll rs (r.perform s).2).2) :=
  rfl

theorem performAll_writes (rs : List Rendering) (s : Session) :
    s.registry ≤ (performAll rs s).2.registry ∧
    (∀ key ∈ (performAll rs s).2.registry.keys,
      key ∈ s.registry.keys ∨ key ∈ rs.flatMap keys) ∧
    ∀ ids, (performAll rs s).2.registry.Agrees ids → ∀ p ∈ (performAll rs s).1,
      p.text <+: p.rendering.text ids ∧
        (p.result = .ok () → p.text = p.rendering.text ids) := by
  induction rs generalizing s with
  | nil =>
    exact ⟨Registry.le_refl _, fun key mem => .inl mem,
      fun ids agrees p mem => absurd mem List.not_mem_nil⟩
  | cons r rs ih =>
    obtain ⟨grows, asked, writes⟩ := r.perform_writes s
    obtain ⟨grows', asked', writes'⟩ := ih (r.perform s).2
    rw [performAll_cons]
    refine ⟨Registry.le_trans grows grows', fun key mem => ?_, fun ids agrees => ?_⟩
    · rw [List.flatMap_cons, List.mem_append]
      rcases asked' key mem with known | other
      · rcases asked key known with known | own
        · exact .inl known
        · exact .inr (.inl own)
      · exact .inr (.inr other)
    · intro p mem
      rcases List.mem_cons.1 mem with rfl | among
      · rw [rendering_perform]
        exact writes ids (agrees.of_le grows')
      · exact writes' ids agrees p among

theorem size_performAll_le (rs : List Rendering) (s : Session) :
    (performAll rs s).2.registry.size ≤ (s.registry.keys ++ rs.flatMap keys).toFinset.card := by
  rw [Registry.size, ← List.toFinset_card_of_nodup (performAll rs s).2.registry.distinct]
  refine Finset.card_le_card fun key mem => ?_
  have asked := (performAll_writes rs s).2.1 key (List.mem_toFinset.1 mem)
  exact List.mem_toFinset.2 (List.mem_append.2 asked)

/-- A complete line holds the number that its method has in the registry afterwards. -/
theorem id?_of_prints {rs : List Rendering} {s : Session} {p : Printout}
    (mem : p ∈ (performAll rs s).1) {method : Method} {number : UInt32}
    (prints : p.Prints method number) :
    (performAll rs s).2.registry.id? method.key = some number := by
  obtain ⟨before, after, ids, split, line, rfl⟩ := prints
  have read (ids' : MethodKey → UInt32) (agrees : (performAll rs s).2.registry.Agrees ids') :
      ids method.key = ids' method.key :=
    number_of_textTo split (line.trans ((performAll_writes rs s).2.2 ids' agrees p mem).1)
  generalize (performAll rs s).2.registry = registry at read ⊢
  cases known : registry.id? method.key with
  | some id =>
    refine congrArg some ?_
    have := read (fun key => (registry.id? key).getD 0) (by intro key id h; simp [h])
    simpa [known] using this.symm
  | none =>
    -- Without a number in the registry any number could stand in the line.
    have := read (fun key => (registry.id? key).getD (ids method.key + 1))
      (by intro key id h; simp [h])
    simp [known] at this

end Rendering

/-- What printouts that share a registry have in common. -/
structure Agreement (printouts : List Printout) (registry : Registry) : Prop where
  /-- The number in a complete line of a method is the one its key has in the registry. -/
  number : ∀ p ∈ printouts, ∀ (method : Method) (number : UInt32), p.Prints method number →
    registry.id? method.key = some number
  /-- Numbers tell the keys of methods apart, and nothing else. -/
  injective : ∀ p ∈ printouts, ∀ q ∈ printouts, ∀ (method method' : Method)
    (number number' : UInt32), p.Prints method number → q.Prints method' number' →
      (number = number' ↔ method.key = method'.key)
  /-- A text is that of its class with the numbers of the registry, or a beginning of it. -/
  text : ∀ p ∈ printouts, ∀ ids, registry.Agrees ids → p.text <+: p.rendering.text ids
  /-- Nothing is missing where no write failed. -/
  complete : ∀ p ∈ printouts, p.result = .ok () → ∀ method ∈ p.rendering.type.methodData,
    ∃ number, p.Prints method number

namespace Rendering

/-- Loaders and operators that are made one after the other, of any types and cut short anywhere,
agree on one number for each method, and no two methods share one. -/
theorem numbers_agree (renderings : List Rendering) (start : Session)
    (few : (start.registry.keys ++ renderings.flatMap keys).toFinset.card ≤ Registry.maxKeys) :
    start.registry ≤ (performAll renderings start).2.registry ∧
      Agreement (performAll renderings start).1 (performAll renderings start).2.registry := by
  obtain ⟨grows, _, writes⟩ := performAll_writes renderings start
  have small := Nat.le_trans (size_performAll_le renderings start) few
  refine ⟨grows, ?_⟩
  constructor
  case number => exact fun p mem method number => id?_of_prints mem
  case injective =>
    intro p mem q mem' method method' number number' prints prints'
    have id := id?_of_prints mem prints
    have id' := id?_of_prints mem' prints'
    constructor
    · rintro rfl
      exact Registry.id?_injective small id id'
    · intro same
      rw [same, id'] at id
      exact (Option.some.inj id).symm
  case text => exact fun p mem ids agrees => (writes ids agrees p mem).1
  case complete =>
    intro p mem ok method among
    obtain ⟨before, after, split⟩ := List.append_of_mem among
    let ids := fun key => ((performAll renderings start).2.registry.id? key).getD 0
    have all := (writes ids (by intro key id h; simp [ids, h]) p mem).2 ok
    obtain ⟨rest, eq⟩ := p.rendering.text_eq ids split
    exact ⟨_, before, after, ids, split, ⟨rest, by rw [all, eq]⟩, rfl⟩

/-- Two overloads, in a loader that breaks off in its second constant and in an operator. -/
theorem numbers_agree_overloads :
    let type : OperationType :=
      ⟨"p.Ops", none, [], none, none, [⟨"load", [⟨"id", "int"⟩], "void"⟩, ⟨"load", [], "void"⟩]⟩
    let time : Timestamp := ⟨2024, 1, 1, 0, 0, 0⟩
    let renderings : List Rendering :=
      [⟨.loader, type, { }, time, .ofRoom (some 200)⟩, ⟨.operator, type, { }, time, .ofRoom none⟩]
    (Session.empty.registry.keys ++ renderings.flatMap keys).toFinset.card ≤ Registry.maxKeys ∧
      Agreement (performAll renderings .empty).1 (performAll renderings .empty).2.registry ∧
      (performAll renderings .empty).1.map (·.result) = [.error Fault.diskFull, .ok ()] :=
  ⟨by decide, (numbers_agree _ _ (by decide)).2, by decide +kernel⟩

end Rendering
end OperationStubs
