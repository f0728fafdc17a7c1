import OperationStubs.Proofs.Program

/-!
# Rendering a class again

Of the session only the answers to requests reach a hook. A key that was asked for keeps its number
while the registry grows, so from a registry that knows all that a run asked for, the same run is
made again and nothing new is numbered (`Hook.rerun`). Outputs may fail, and hooks may go on after
that.
-/

namespace OperationStubs

namespace Registry

/-- A registry after some further requests. -/
def requestAll (r : Registry) (keys : List MethodKey) : Registry :=
  keys.foldl (fun r key => (r.request key).2) r

theorem le_requestAll (r : Registry) (keys : List MethodKey) : r ≤ r.requestAll keys := by
  induction keys generalizing r with
  | nil => exact le_refl r
  | cons key keys ih => exact le_trans (le_request r key) (ih _)

/-- A registry that has numbered a key answers it the same, and stays as it is. -/
theorem request_of_le {r r' : Registry} {key : MethodKey} (h : (r.request key).2 ≤ r') :
    r'.request key = ((r.request key).1, r') := by
  have known : r'.id? key = some (r.request key).1 := id?_of_le h (id?_request_self r key)
  unfold request
  split
  · rename_i id numbered
    rw [known] at numbered
    cases numbered
    rfl
  · rename_i unknown
    rw [known] at unknown
    cases unknown

end Registry

theorem Session.request_of_le {s s' : Session} {key : MethodKey}
    (h : (s.request key).2.registry ≤ s'.registry) : s'.request key = ((s.request key).1, s') := by
  have answer := Registry.request_of_le h
  have known : s'.registry.id? key = some (s.registry.request key).1 :=
    Registry.id?_of_le h (Registry.id?_request_self _ key)
  simp only [Session.request, answer, known, Option.isSome_some, if_true]

namespace Writing

variable {σ α β : Type} {out : Sink (StateM σ)}

/-- An action that neither reads the session nor changes it. -/
def Apart (a : Act σ α) : Prop :=
  ∀ l s o s', exec a l s' o = { exec a l s o with session := s' }

theorem apart_pure (x : α) : Apart (pure x : Act σ α) := fun _ _ _ _ => rfl

theorem apart_get : Apart (get : Act σ Layout) := fun _ _ _ _ => rfl

theorem apart_modify (f : Layout → Layout) : Apart (modify f : Act σ PUnit) := fun _ _ _ _ => rfl

theorem apart_send (bytes : List UInt8) : Apart (send out.lift bytes) := fun _ _ _ _ => rfl

theorem apart_bind {a : Act σ α} {f : α → Act σ β} (ha : Apart a) (hf : ∀ x, Apart (f x)) :
    Apart (a >>= f) := by
  intro l s o s'
  rw [exec_bind, exec_bind, ha l s o s']
  cases (exec a l s o).result with
  | ok x => exact hf x _ _ _ _
  | error fault => rfl

theorem apart_forM {γ : Type} {f : γ → Act σ Unit} (h : ∀ x, Apart (f x)) (xs : List γ) :
    Apart (xs.forM f) := by
  induction xs with
  | nil => exact apart_pure ()
  | cons x xs ih => exact apart_bind (h x) fun _ => ih

theorem apart_putChar (c : Char) : Apart (putChar out.lift c) := by
  unfold putChar
  split
  · exact apart_bind (apart_send _) fun _ => apart_modify _
  · refine apart_bind apart_get fun l => ?_
    split
    · exact apart_bind (apart_forM apart_send _) fun _ =>
        apart_bind (apart_modify _) fun _ => apart_send _
    · exact apart_send _

theorem apart_write (text : String) : Apart (write out.lift text) :=
  apart_forM apart_putChar _

theorem apart_line (text : String) : Apart (line out.lift text) :=
  apart_bind (apart_write text) fun _ => apart_write "\n"

theorem apart_step (step : Step) : Apart (step.run out.lift) := by
  cases step with
  | write text => exact apart_write text
  | line text | comment text | statement text => exact apart_line _
  | javadoc text =>
    exact apart_bind (apart_line _) fun _ =>
      apart_bind (apart_forM (fun l => apart_line _) _) fun _ => apart_line _
  | indent | dedent => exact apart_modify _
  | emptyLine => exact apart_write "\n"
  | package name =>
    refine apart_bind (apart_modify _) fun _ => ?_
    split
    · exact apart_bind (apart_line _) fun _ => apart_write "\n"
    · exact apart_pure ()
  | imports names =>
    exact apart_forM (fun _ => apart_bind (apart_line _) fun _ => apart_modify _) _
  | beginType | beginMethod =>
    exact apart_bind apart_get fun l => apart_bind (apart_line _) fun _ => apart_modify _
  | endType | endMethod => exact apart_bind (apart_modify _) fun _ => apart_line _
  | field => exact apart_bind apart_get fun l => apart_line _

end Writing

namespace Hook

open Writing

variable {α σ : Type} {out : Sink (StateM σ)}

/-- From a registry that knows all that a run asked for, the run is made again. -/
theorem rerun (h : Hook α) (l : Layout) (s later : Session) (o : σ)
    (known : (exec (h.run out) l s o).session.registry ≤ later.registry) :
    exec (h.run out) l later o = { exec (h.run out) l s o with session := later } := by
  induction h generalizing l s o with
  | pure value => rfl
  | fail fault => rfl
  | call step next ih =>
    rw [exec_run_call] at known ⊢
    rw [exec_run_call, apart_step step l s o later]
    exact ih _ _ _ _ known
  | shorten type next ih => exact ih _ l s o known
  | request key next ih =>
    rw [exec_run_request] at known ⊢
    rw [exec_run_request]
    -- The registry that the run ends with has this key, so `later` answers as it was answered here.
    have grows := registry_le_run l (s.request key).2 o out (next (s.request key).1)
    rw [Session.request_of_le (Registry.le_trans grows known)]
    exact ih _ _ _ _ known

/-- What a run adds to the registry is among the keys that it may ask for. -/
theorem added_run {asked : MethodKey → Prop} {h : Hook α} (asks : h.Asks asked) (l : Layout)
    (s : Session) (o : σ) :
    ∃ new, (exec (h.run out) l s o).session.registry.keys = s.registry.keys ++ new ∧
      ∀ key ∈ new, asked key := by
  obtain ⟨new, keys⟩ := registry_le_run l s o out h
  have distinct := (exec (h.run out) l s o).session.registry.distinct
  rw [← keys] at distinct
  refine ⟨new, keys.symm, fun key mem => ?_⟩
  rcases mem_keys_run l s o asks (keys ▸ List.mem_append_right _ mem) with old | other
  · exact absurd mem (List.disjoint_of_nodup_append distinct old)
  · exact other

end Hook

namespace Generator

/-- `key` is that of one of the methods the class is made from. -/
def Owns (g : Generator) (key : MethodKey) : Prop := ∃ method ∈ g.model.methods, method.key = key

/-- What rendering does to the registry, and that it can be done again. `render` is a rendering by
the session it starts from, and `s` a session. -/
structure Repeats {σ : Type} (own : MethodKey → Prop)
    (render : Session → (Except Fault Unit × Session) × σ) (s : Session) : Prop where
  /-- Nothing is numbered but keys of the class. -/
  added : ∃ new, (render s).1.2.registry.keys = s.registry.keys ++ new ∧ ∀ key ∈ new, own key
  /-- Numbers that were there stay. -/
  kept : ∀ key id, s.registry.id? key = some id → (render s).1.2.registry.id? key = some id
  /-- After any further requests rendering ends the same and leaves the session as it is. -/
  again : ∀ keys later, later.registry = (render s).1.2.registry.requestAll keys →
    render later = (((render s).1.1, later), (render s).2)

/-- However far a rendering gets, rendering the class again later gives the same. -/
theorem render_again {g : Generator} (doc : g.doc.Asks g.Owns) (body : g.body.Asks g.Owns)
    {σ : Type} (out : Sink (StateM σ)) (options : Options) (time : Timestamp) (s : Session)
    (o : σ) : Repeats g.Owns (fun s => g.render out options time s o) s := by
  have asks : (g.program options time).Asks g.Owns :=
    program_of options time Hook.asks_emit (fun _ _ h h' => h.bind fun _ => h') doc body
  simp only [render_eq]
  generalize g.program options time = h at asks
  have grows := Hook.registry_le_run (.start options.indent) s o out h
  constructor
  · exact Hook.added_run asks (.start options.indent) s o
  · exact fun key id known => Registry.id?_of_le grows known
  · intro keys later reached
    have knows : _ ≤ later.registry := reached ▸ Registry.le_requestAll _ keys
    simp only [Hook.rerun h (.start options.indent) s later o knows]

/-- Statements with the numbers of two methods, of which only one was requested before the disk was
full. -/
theorem render_again_cut :
    let load : Method := ⟨⟨"Ops", "load", ["int"]⟩, [], "void"⟩
    let reload : Method := ⟨⟨"Ops", "load", []⟩, [], "void"⟩
    let tell (method : Method) : Hook Unit := do
      let id ← Hook.loaderId method
      Hook.emit (.statement ("load_" ++ toString id.toNat))
    let body : Hook Unit := do
      tell load
      tell reload
    let g : Generator :=
      ⟨⟨⟨"Ops", "", ∅, none⟩, [load, reload], "X", ∅, none⟩, Hook.emit (.javadoc "Told."), body⟩
    let run (s : Session) :=
      g.render Output.write { headerMarker := "opgen" } ⟨2024, 1, 1, 0, 0, 0⟩ s (.empty (some 64))
    g.doc.Asks g.Owns ∧ g.body.Asks g.Owns ∧ Repeats g.Owns run .empty ∧
      (run .empty).1.1 = .error .diskFull ∧ (run .empty).1.2.registry.keys = [load.key] := by
  intro load reload tell body g run
  have doc : g.doc.Asks g.Owns := Hook.asks_emit _
  have asks (method : Method) (own : method ∈ g.model.methods) : (tell method).Asks g.Owns :=
    (Hook.asks_loaderId ⟨method, own, rfl⟩).bind fun _ => Hook.asks_emit _
  have rest : g.body.Asks g.Owns :=
    (asks load List.mem_cons_self).bind fun _ => asks reload (List.mem_cons_of_mem _ (.head _))
  exact ⟨doc, rest, render_again doc rest _ _ _ _ _, by decide +kernel⟩

end Generator
end OperationStubs
