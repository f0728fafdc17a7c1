import OperationStubs.Proofs.Registry
import OperationStubs.Proofs.Writing

/-!
# What a hook writes

A hook that stops at its first failure is a plain list of calls of the writer once the ids are
known: its script. On any output it writes what its script says, or a beginning of that
(`follows_script`). The ids are those of the registry afterwards, so a hook can be read off
without following the registry through it.
-/

namespace OperationStubs

namespace Registry

/-- `ids` knows the number of every key in the registry. The other keys may have any. -/
def Agrees (r : Registry) (ids : MethodKey → UInt32) : Prop :=
  ∀ key id, r.id? key = some id → ids key = id

theorem Agrees.of_le {r r' : Registry} {ids : MethodKey → UInt32} (agrees : r'.Agrees ids)
    (h : r ≤ r') : r.Agrees ids :=
  fun key id hid => agrees key id (id?_of_le h hid)

/-- The number of a key, or zero if it has none. -/
def number (r : Registry) (key : MethodKey) : UInt32 := (r.id? key).getD 0

theorem agrees_number (r : Registry) : r.Agrees r.number := by
  intro key id known
  simp [number, known]

theorem id?_eq_number {r : Registry} {key : MethodKey} (known : key ∈ r.keys) :
    r.id? key = some (r.number key) := by
  cases numbered : r.id? key with
  | none => exact absurd known (id?_eq_none_iff.1 numbered)
  | some id => simp [number, numbered]

end Registry

namespace Hook

variable {α β : Type}

instance : LawfulMonad Hook := LawfulMonad.mk' Hook
  (fun h => by
    change h.bind .pure = h
    induction h with
    | pure | fail => rfl
    | call _ _ ih | shorten _ _ ih | request _ _ ih => simp only [Hook.bind, ih])
  (fun _ _ => rfl)
  (fun h f g => by
    change (h.bind f).bind g = h.bind fun x => (f x).bind g
    induction h with
    | pure | fail => rfl
    | call _ _ ih | shorten _ _ ih | request _ _ ih => simp only [Hook.bind, ih])

/-- Some calls, one after the other. -/
def emitAll (steps : List Step) : Hook Unit := steps.forM emit

theorem emitAll_nil : emitAll [] = Pure.pure () := rfl

theorem emitAll_cons (step : Step) (steps : List Step) :
    emitAll (step :: steps) = emit step >>= fun _ => emitAll steps := rfl

/-- A hook that gives up where one of its calls fails. -/
inductive Strict : Hook α → Prop
  | pure (value : α) : Strict (.pure value)
  | fail (fault : Fault) : Strict (.fail fault)
  | call {step : Step} {next : Except Fault Unit → Hook α}
      (stops : ∀ fault, next (.error fault) = .fail fault) (more : Strict (next (.ok ()))) :
      Strict (.call step next)
  | shorten {type : String} {next : String → Hook α} (more : ∀ text, Strict (next text)) :
      Strict (.shorten type next)
  | request {key : MethodKey} {next : UInt32 → Hook α} (more : ∀ id, Strict (next id)) :
      Strict (.request key next)

theorem strict_pure (value : α) : Strict (Pure.pure value : Hook α) := .pure value

theorem strict_emit (step : Step) : Strict (emit step) := .call (fun _ => rfl) (.pure ())

theorem strict_loaderId (method : Method) : Strict (loaderId method) := .request fun id => .pure id

theorem Strict.bind {h : Hook α} {f : α → Hook β} (strict : h.Strict) (more : ∀ x, (f x).Strict) :
    (h >>= f).Strict := by
  induction strict with
  | pure value => exact more value
  | fail fault => exact .fail fault
  | @call step next stops _ ih =>
    refine .call (fun fault => ?_) ih
    simp only [stops]
    rfl
  | shorten _ ih => exact .shorten ih
  | request _ ih => exact .request ih

theorem strict_forM {γ : Type} {f : γ → Hook Unit} (xs : List γ) (h : ∀ x, (f x).Strict) :
    (xs.forM f).Strict := by
  induction xs with
  | nil => exact .pure ()
  | cons x xs ih => exact (h x).bind fun _ => ih

theorem strict_emitAll (steps : List Step) : (emitAll steps).Strict :=
  strict_forM steps strict_emit

/-- A hook that asks for numbers of some keys only. -/
def Asks (asked : MethodKey → Prop) : Hook α → Prop
  | .pure _ | .fail _ => True
  | .call _ next => ∀ result, (next result).Asks asked
  | .shorten _ next => ∀ text, (next text).Asks asked
  | .request key next => asked key ∧ ∀ id, (next id).Asks asked

section Asks

variable {asked : MethodKey → Prop}

theorem asks_pure (value : α) : Asks asked (Pure.pure value : Hook α) := trivial

theorem asks_emit (step : Step) : Asks asked (emit step) := by
  rintro (_ | _) <;> trivial

theorem asks_loaderId {method : Method} (h : asked method.key) : Asks asked (loaderId method) :=
  ⟨h, fun _ => trivial⟩

theorem Asks.bind {h : Hook α} {f : α → Hook β} (asks : h.Asks asked)
    (more : ∀ x, (f x).Asks asked) : (h >>= f).Asks asked := by
  change (h.bind f).Asks asked
  induction h with
  | pure value => exact more value
  | fail fault => trivial
  | call step next ih => exact fun result => ih result (asks result)
  | shorten type next ih => exact fun text => ih text (asks text)
  | request key next ih => exact ⟨asks.1, fun id => ih id (asks.2 id)⟩

theorem asks_forM {γ : Type} {f : γ → Hook Unit} {xs : List γ}
    (h : ∀ x ∈ xs, (f x).Asks asked) : (xs.forM f).Asks asked := by
  induction xs with
  | nil => trivial
  | cons x xs ih =>
    exact (h x List.mem_cons_self).bind fun _ => ih fun y hy => h y (List.mem_cons_of_mem _ hy)

theorem asks_emitAll (steps : List Step) : (emitAll steps).Asks asked :=
  asks_forM fun step _ => asks_emit step

end Asks

/-- The calls of a hook that never fail, with `ids` for the numbers of methods, and how it ends. -/
def script (ids : MethodKey → UInt32) : Hook α → Layout → List Step × Except Fault α
  | .pure value, _ => ([], .ok value)
  | .fail fault, _ => ([], .error fault)
  | .call step next, l =>
    let (steps, result) := (next (.ok ())).script ids (l.pastStep step)
    (step :: steps, result)
  | .shorten type next, l => (next (l.scope.shorten type)).script ids l
  | .request key next, l => (next (ids key)).script ids l

/-- One hook after another. -/
def andThen (ids : MethodKey → UInt32) (l : Layout) (f : α → Hook β) :
    List Step × Except Fault α → List Step × Except Fault β
  | (steps, .ok value) =>
    let (more, result) := (f value).script ids (l.pastSteps steps)
    (steps ++ more, result)
  | (steps, .error fault) => (steps, .error fault)

theorem script_bind (ids : MethodKey → UInt32) (h : Hook α) (f : α → Hook β) (l : Layout) :
    (h >>= f).script ids l = andThen ids l f (h.script ids l) := by
  change (h.bind f).script ids l = _
  induction h generalizing l with
  | pure value => rfl
  | fail fault => rfl
  | call step next ih =>
    simp only [Hook.bind, script, ih]
    rcases (next (.ok ())).script ids (l.pastStep step) with ⟨steps, _ | value⟩ <;> rfl
  | shorten type next ih => exact ih _ l
  | request key next ih => exact ih _ l

section Run

open Writing

variable {σ : Type} {out : Sink (StateM σ)} {content : σ → List UInt8}
variable (l : Layout) (s : Session) (o : σ)

theorem exec_run_call (step : Step) (next : Except Fault Unit → Hook α) :
    exec ((Hook.call step next).run out) l s o =
      let called := exec (step.run out.lift) l s o
      exec ((next called.result).run out) called.layout called.session called.output := rfl

theorem exec_run_request (key : MethodKey) (next : UInt32 → Hook α) :
    exec ((Hook.request key next).run out) l s o =
      exec ((next (s.request key).1).run out) l (s.request key).2 o := rfl

/-- A hook can only make the registry grow. -/
theorem registry_le_run (out : Sink (StateM σ)) (h : Hook α) :
    s.registry ≤ (exec (h.run out) l s o).session.registry := by
  induction h generalizing l s o with
  | pure | fail => exact Registry.le_refl _
  | call step next ih =>
    rw [exec_run_call]
    have same : (exec (step.run out.lift) l s o).session = s := (sends_step step l s o).1
    exact (congrArg Session.registry same) ▸ ih _ _ _ _
  | shorten type next ih => exact ih _ l s o
  | request key next ih =>
    rw [exec_run_request]
    exact Registry.le_trans (Registry.le_request _ key) (ih _ l (s.request key).2 o)

/-- Nothing enters the registry but what a hook asks for. -/
theorem mem_keys_run {asked : MethodKey → Prop} {h : Hook α}
    (asks : h.Asks asked) {key : MethodKey}
    (mem : key ∈ (exec (h.run out) l s o).session.registry.keys) :
    key ∈ s.registry.keys ∨ asked key := by
  induction h generalizing l s o with
  | pure | fail => exact .inl mem
  | call step next ih =>
    rw [exec_run_call] at mem
    rw [← (sends_step step l s o).1]
    exact ih _ _ _ _ (asks _) mem
  | shorten type next ih => exact ih _ l s o (asks _) mem
  | request key' next ih =>
    rw [exec_run_request] at mem
    rcases ih _ _ _ _ (asks.2 _) mem with known | other
    · rw [Session.registry_request, Registry.keys_request] at known
      split at known
      · exact .inl known
      · rcases List.mem_append.1 known with known | new
        · exact .inl known
        · exact .inr (List.mem_singleton.1 new ▸ asks.1)
    · exact .inr other

/-- The number that a request brings is the one the registry has afterwards. -/
theorem ids_of_agrees {key : MethodKey} {next : UInt32 → Hook α} {ids : MethodKey → UInt32}
    (agrees : (exec ((Hook.request key next).run out) l s o).session.registry.Agrees ids) :
    ids key = (s.request key).1 := by
  rw [exec_run_request] at agrees
  have grows := registry_le_run l (s.request key).2 o out (next (s.request key).1)
  exact (agrees.of_le grows) key _ (Registry.id?_request_self s.registry key)

/-- An end is in line with a script if everything was written and all went as the script says, or
if a beginning was written and then a call failed. -/
def Follows (content : σ → List UInt8) (o : σ) (l : Layout) (ended : Ended σ α)
    (script : List Step × Except Fault α) : Prop :=
  (ended.result = script.2 ∧ ended.layout = l.pastSteps script.1 ∧
    content ended.output = content o ++ l.draft script.1) ∨
  ∃ fault, ended.result = .error fault ∧
    Took content o ended.output (l.draft script.1) (.error fault : Except Fault α)

theorem Follows.cons {o o' : σ} {l : Layout} {step : Step} {ended : Ended σ α}
    {steps : List Step} {result : Except Fault α}
    (first : content o' = content o ++ l.stepBytes step)
    (rest : Follows content o' (l.pastStep step) ended (steps, result)) :
    Follows content o l ended (step :: steps, result) := by
  rcases rest with ⟨ends, layout, eq⟩ | ⟨fault, ends, took⟩
  · exact .inl ⟨ends, layout, by rw [eq, first, List.append_assoc]; rfl⟩
  · exact .inr ⟨fault, ends, Took.append first took⟩

theorem follows_script (appends : Appends out content) {h : Hook α} (strict : h.Strict)
    (ids : MethodKey → UInt32)
    (agrees : (exec (h.run out) l s o).session.registry.Agrees ids) :
    Follows content o l (exec (h.run out) l s o) (h.script ids l) := by
  induction strict generalizing l s o with
  | pure value => exact .inl ⟨rfl, rfl, (List.append_nil _).symm⟩
  | fail fault => exact .inl ⟨rfl, rfl, (List.append_nil _).symm⟩
  | @call step next stops more ih =>
    rw [exec_run_call] at agrees ⊢
    obtain ⟨session, took, layout⟩ := writes_step appends step l s o
    generalize exec (step.run out.lift) l s o = called at *
    cases result : called.result with
    | ok =>
      rw [result] at took layout
      simp only [result, layout rfl] at agrees ⊢
      exact Follows.cons took (ih _ _ _ agrees)
    | error fault =>
      rw [result] at took
      simp only [result, stops]
      exact .inr ⟨fault, rfl, took.cut _⟩
  | shorten more ih => exact ih _ l s o agrees
  | @request key next more ih =>
    rw [exec_run_request, script, ids_of_agrees l s o agrees]
    exact ih _ _ _ _ agrees

/-- On an output that never fails a hook ends as its script says. -/
theorem result_of_steady (steady : Steady out) {h : Hook α} (strict : h.Strict)
    (ids : MethodKey → UInt32)
    (agrees : (exec (h.run out) l s o).session.registry.Agrees ids) :
    (exec (h.run out) l s o).result = (h.script ids l).2 := by
  induction strict generalizing l s o with
  | pure value | fail fault => rfl
  | @call step next stops more ih =>
    rw [exec_run_call] at agrees ⊢
    obtain ⟨result, layout⟩ := (sends_step step l).ok steady s o
    simp only [result, layout] at agrees ⊢
    exact ih _ _ _ agrees
  | shorten more ih => exact ih _ l s o agrees
  | @request key next more ih =>
    rw [exec_run_request, script, ids_of_agrees l s o agrees]
    exact ih _ _ _ _ agrees

end Run
end Hook
end OperationStubs
