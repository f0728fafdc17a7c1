import OperationStubs.Proofs.Rerun

/-!
# Hooks that are rows of calls and requests

A hook may put the numbers it is told into its text and let nothing else depend on them. Then it
makes the same requests and ends the same, whatever the numbers are (`Sequence`). On an output that
never fails the session ends up as after its requests (`Sequence.exec_run`).
-/

namespace OperationStubs

namespace Session

/-- A session after some requests. -/
def requestAll (s : Session) (keys : List MethodKey) : Session :=
  keys.foldl (fun s key => (s.request key).2) s

variable {s : Session}

theorem requestAll_append (keys more : List MethodKey) :
    s.requestAll (keys ++ more) = (s.requestAll keys).requestAll more :=
  List.foldl_append

theorem requestAll_concat (keys : List MethodKey) (key : MethodKey) :
    s.requestAll (keys ++ [key]) = ((s.requestAll keys).request key).2 :=
  requestAll_append keys [key]

theorem requestAll_cons (key : MethodKey) (keys : List MethodKey) :
    s.requestAll (key :: keys) = (s.request key).2.requestAll keys := rfl

/-- A request for a key that has a number changes nothing. -/
theorem request_known {key : MethodKey} (known : key ∈ s.registry.keys) :
    (s.request key).2 = s := by
  have same : (s.request key).2.registry.keys = s.registry.keys := by
    rw [registry_request, Registry.keys_request, if_pos known]
  have settled : (s.request key).2.registry.keys <+: s.registry.keys := by
    simp only [same, List.prefix_rfl]
  exact congrArg Prod.snd (request_of_le settled)

theorem requestAll_known {keys : List MethodKey} (known : ∀ key ∈ keys, key ∈ s.registry.keys) :
    s.requestAll keys = s := by
  induction keys with
  | nil => rfl
  | cons key keys ih =>
    obtain ⟨first, rest⟩ := List.forall_mem_cons.1 known
    rw [requestAll_cons, request_known first]
    exact ih rest

theorem mem_requestAll {keys : List MethodKey} {key : MethodKey} :
    key ∈ (s.requestAll keys).registry.keys ↔ key ∈ s.registry.keys ∨ key ∈ keys := by
  induction keys generalizing s with
  | nil => simp [requestAll]
  | cons first keys ih =>
    have asked : key ∈ (s.request first).2.registry.keys ↔ key ∈ s.registry.keys ∨ key = first := by
      rw [registry_request, Registry.keys_request]
      split
      · rename_i known
        exact ⟨Or.inl, fun either => either.elim id fun same => same ▸ known⟩
      · rw [List.mem_append, List.mem_singleton]
    rw [requestAll_cons, ih, asked, List.mem_cons, or_assoc]

end Session

namespace Writing

variable {σ : Type} {out : Sink (StateM σ)}

/-- An output that takes all that is still to be written, however much it is. -/
def Roomy (out : Sink (StateM σ)) (o : σ) : Prop := ∀ chunks, (sendAll out chunks o).1 = .ok ()

theorem Roomy.sendAll {o : σ} (roomy : Roomy out o) (chunks : List (List UInt8)) :
    Roomy out (sendAll out chunks o).2 := by
  intro more
  have all := roomy (chunks ++ more)
  have first := roomy chunks
  rw [sendAll_append] at all
  rcases sent : Writing.sendAll out chunks o with ⟨_ | _, o'⟩
  · simp [sent] at first
  · rw [sent] at all
    exact all

end Writing

/-- An output in memory without a limit. -/
theorem Output.roomy_write {o : Output} (room : o.room = none) : Writing.Roomy Output.write o := by
  intro chunks
  induction chunks generalizing o with
  | nil => rfl
  | cons chunk chunks ih =>
    have taken : write chunk o = (.ok (), { o with accepted := o.accepted ++ chunk }) := by
      simp only [write, room]
    simp only [Writing.sendAll, taken]
    exact ih room

/-- What went wrong, if anything did. -/
def fault? {α : Type} : Except Fault α → Option Fault
  | .ok _ => none
  | .error fault => some fault

theorem fault?_eq_none {result : Except Fault Unit} : fault? result = none ↔ result = .ok () := by
  cases result <;> simp [fault?]

namespace Hook

variable {α β : Type}

/-- A row of calls and requests. As long as its calls go well it asks for `keys` and ends with
`failure`, whatever the answers are. -/
inductive Sequence : List MethodKey → Option Fault → Hook α → Prop
  | pure (value : α) : Sequence [] none (.pure value)
  | fail (fault : Fault) : Sequence [] (some fault) (.fail fault)
  | call {step : Step} {next : Except Fault Unit → Hook α} {keys : List MethodKey}
      {failure : Option Fault} (more : Sequence keys failure (next (.ok ()))) :
      Sequence keys failure (.call step next)
  | shorten {type : String} {next : String → Hook α} {keys : List MethodKey}
      {failure : Option Fault} (more : ∀ text, Sequence keys failure (next text)) :
      Sequence keys failure (.shorten type next)
  | request {key : MethodKey} {next : UInt32 → Hook α} {keys : List MethodKey}
      {failure : Option Fault} (more : ∀ id, Sequence keys failure (next id)) :
      Sequence (key :: keys) failure (.request key next)

theorem sequence_pure (value : α) : (Pure.pure value : Hook α).Sequence [] none := .pure value

theorem sequence_emit (step : Step) : (emit step).Sequence [] none := .call (.pure ())

theorem sequence_loaderId (method : Method) : (loaderId method).Sequence [method.key] none :=
  .request fun id => .pure id

namespace Sequence

variable {keys more : List MethodKey} {failure : Option Fault} {h : Hook α}

/-- A row that ends well goes on with the next one. -/
theorem bind {f : α → Hook β} (first : h.Sequence keys none)
    (rest : ∀ x, (f x).Sequence more failure) : (h >>= f).Sequence (keys ++ more) failure := by
  generalize good : (none : Option Fault) = ending at first
  induction first with
  | pure value => exact rest value
  | fail fault => cases good
  | call _ ih => exact .call (ih good)
  | shorten _ ih => exact .shorten fun text => ih text good
  | request _ ih => exact .request fun id => ih id good

/-- A row that fails goes on with nothing. -/
theorem bind_fail {fault : Fault} {f : α → Hook β} (first : h.Sequence keys (some fault)) :
    (h >>= f).Sequence keys (some fault) := by
  generalize bad : some fault = ending at first
  induction first with
  | pure value => cases bad
  | fail other =>
    cases bad
    exact .fail fault
  | call _ ih => exact .call (ih bad)
  | shorten _ ih => exact .shorten fun text => ih text bad
  | request _ ih => exact .request fun id => ih id bad

end Sequence

theorem sequence_forM {γ : Type} {f : γ → Hook Unit} {keys : γ → List MethodKey} (xs : List γ)
    (h : ∀ x, (f x).Sequence (keys x) none) : (xs.forM f).Sequence (xs.flatMap keys) none := by
  induction xs with
  | nil => exact sequence_pure ()
  | cons x xs ih => exact (h x).bind fun _ => ih

theorem sequence_emitAll (steps : List Step) : (emitAll steps).Sequence [] none := by
  induction steps with
  | nil => exact sequence_pure ()
  | cons step steps ih => exact (sequence_emit step).bind fun _ => ih

open Writing

variable {σ : Type} {out : Sink (StateM σ)}

/-- Where every write goes well a row of calls and requests ends as it does anywhere. -/
theorem Sequence.exec_run {keys : List MethodKey} {failure : Option Fault} {h : Hook α}
    (sequence : h.Sequence keys failure) {o : σ} (roomy : Roomy out o) (l : Layout) (s : Session) :
    fault? (exec (h.run out) l s o).result = failure ∧
      (exec (h.run out) l s o).session = s.requestAll keys := by
  induction sequence generalizing l s o with
  | pure value => exact ⟨rfl, rfl⟩
  | fail fault => exact ⟨rfl, rfl⟩
  | @call step next keys failure more ih =>
    have sends : Sends out (step.run out.lift) l (l.stepChunks step) (l.pastStep step) :=
      sends_step step l
    obtain ⟨session, sent, -⟩ := sends s o
    obtain ⟨result, output⟩ := Prod.mk.inj sent
    simp only [exec_run_call, result.trans (roomy _), session]
    exact ih (output ▸ roomy.sendAll _) _ _
  | shorten more ih => exact ih _ roomy l s
  | request more ih =>
    rw [exec_run_request]
    exact ih _ roomy l _

end Hook

namespace Generator

variable {g : Generator} (options : Options) (time : Timestamp)

theorem sequence_program {keys more : List MethodKey} (doc : g.doc.Sequence keys none)
    (body : g.body.Sequence more none) : (g.program options time).Sequence (keys ++ more) none := by
  have inner : (g.body >>= fun _ => Hook.emit .endType).Sequence more none := by
    have all := body.bind fun _ => Hook.sequence_emit .endType
    rwa [List.append_nil] at all
  have rest := doc.bind fun _ => (Hook.sequence_emit (.beginType g.model.className "class"
    g.model.source.modifiers.forClass g.model.superclass)).bind fun _ =>
      (Hook.sequence_emit .emptyLine).bind fun _ => inner
  unfold program
  refine (Hook.sequence_emit _).bind fun _ => (Hook.sequence_emit _).bind fun _ => ?_
  split
  · exact (Hook.sequence_emit _).bind fun _ => (Hook.sequence_emit _).bind fun _ => rest
  · exact rest

/-- A class whose generator supplies rows of calls and requests. -/
def Sequenced (g : Generator) : Prop :=
  (∃ keys failure, g.doc.Sequence keys failure) ∧ ∃ keys failure, g.body.Sequence keys failure

/-- Where every write goes well, how a class ends depends on nothing but what its generator
supplies. -/
theorem Sequenced.program {g : Generator} (sequenced : g.Sequenced) :
    ∃ failure, ∀ (options : Options) (time : Timestamp),
      ∃ keys, (g.program options time).Sequence keys failure := by
  obtain ⟨⟨docKeys, failure, doc⟩, bodyKeys, failure', body⟩ := sequenced
  have next {h h' : Hook Unit} {failure failure' : Option Fault}
      (first : ∃ keys, h.Sequence keys failure) (then_ : ∃ keys, h'.Sequence keys failure') :
      ∃ keys, (h >>= fun _ => h').Sequence keys (failure.or failure') := by
    obtain ⟨keys, first⟩ := first
    obtain ⟨more, then_⟩ := then_
    cases failure with
    | none => exact ⟨_, first.bind fun _ => then_⟩
    | some fault => exact ⟨_, first.bind_fail⟩
  have behind (step : Step) {h : Hook Unit} {failure : Option Fault}
      (rest : ∃ keys, h.Sequence keys failure) :
      ∃ keys, (Hook.emit step >>= fun _ => h).Sequence keys failure :=
    next ⟨[], Hook.sequence_emit step⟩ rest
  have rest := next ⟨docKeys, doc⟩ (behind (.beginType g.model.className "class"
    g.model.source.modifiers.forClass g.model.superclass) (behind .emptyLine
      (next ⟨bodyKeys, body⟩ ⟨[], Hook.sequence_emit .endType⟩)))
  refine ⟨failure.or (failure'.or none), fun options time => ?_⟩
  unfold Generator.program
  refine behind _ (behind _ ?_)
  split
  · exact behind _ (behind _ rest)
  · exact rest

end Generator
end OperationStubs
