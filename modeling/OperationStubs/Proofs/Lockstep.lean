import OperationStubs.Proofs.Program

/-!
# Writing in lockstep

Whatever a writer does, it does by way of its output. So where two outputs answer alike, in whatever
monads they live, a class is rendered alike on both (`Lockstep.render`). What is alike is up to a
relation between actions that `pure` and `bind` keep. Hooks may see failures and go on after them.
-/

namespace OperationStubs

/-- A machine goes on from where it stopped. -/
theorem bind_apply {σ α β : Type} (a : StateM σ α) (f : α → StateM σ β) (o : σ) :
    (a >>= f) o = f (a o).1 (a o).2 := rfl

theorem pure_apply {σ α : Type} (x : α) (o : σ) : (pure x : StateM σ α) o = (x, o) := rfl

/-- A relation between actions of two monads, such that actions in lockstep give the same value. -/
structure Lockstep (m m' : Type → Type) [Monad m] [Monad m'] where
  Rel {α : Type} : m α → m' α → Prop
  protected pure {α : Type} (x : α) : Rel (Pure.pure x : m α) (Pure.pure x : m' α)
  protected bind {α β : Type} {a : m α} {a' : m' α} {f : α → m β} {f' : α → m' β} :
    Rel a a' → (∀ x, Rel (f x) (f' x)) → Rel (a >>= f) (a' >>= f')

namespace Lockstep

variable {m m' : Type → Type} [Monad m] [Monad m'] (L : Lockstep m m') {α β : Type}

/-- Two outputs that answer alike. -/
def Sinks (out : Sink m) (out' : Sink m') : Prop := ∀ bytes, L.Rel (out bytes) (out' bytes)

/-- Two writers that act alike from every layout and session. -/
def Writers (a : Writing (StateT Session m) α) (a' : Writing (StateT Session m') α) : Prop :=
  ∀ l s, L.Rel (a l s) (a' l s)

variable {L}

theorem writers_pure (x : α) : L.Writers (pure x) (pure x) := fun _ _ => L.pure _

theorem writers_throw (fault : Fault) : L.Writers (α := α) (throw fault) (throw fault) :=
  fun _ _ => L.pure _

theorem writers_get : L.Writers get get := fun _ _ => L.bind (L.pure _) fun _ => L.pure _

theorem writers_modify (f : Layout → Layout) : L.Writers (modify f) (modify f) :=
  fun _ _ => L.bind (L.pure _) fun _ => L.pure _

theorem writers_bind {a : Writing (StateT Session m) α} {a' : Writing (StateT Session m') α}
    {f : α → Writing (StateT Session m) β} {f' : α → Writing (StateT Session m') β}
    (ha : L.Writers a a') (hf : ∀ x, L.Writers (f x) (f' x)) :
    L.Writers (a >>= f) (a' >>= f') := by
  intro l s
  refine L.bind (ha l s) ?_
  rintro ⟨⟨_ | x, l'⟩, s'⟩
  · exact L.pure _
  · exact hf x l' s'

theorem writers_forM {γ : Type} {f : γ → Writing (StateT Session m) Unit}
    {f' : γ → Writing (StateT Session m') Unit} (h : ∀ x, L.Writers (f x) (f' x)) (xs : List γ) :
    L.Writers (xs.forM f) (xs.forM f') := by
  induction xs with
  | nil => exact writers_pure ()
  | cons x xs ih => exact writers_bind (h x) fun _ => ih

section Sinks

variable {out : Sink m} {out' : Sink m'} (h : L.Sinks out out')

include h

theorem writers_send (bytes : List UInt8) :
    L.Writers (Writing.send out.lift bytes) (Writing.send out'.lift bytes) :=
  fun _ _ => L.bind (L.bind (h bytes) fun _ => L.pure _) fun _ => L.pure _

theorem writers_putChar (c : Char) :
    L.Writers (Writing.putChar out.lift c) (Writing.putChar out'.lift c) := by
  unfold Writing.putChar
  split
  · exact writers_bind (writers_send h _) fun _ => writers_modify _
  · refine writers_bind writers_get fun l => ?_
    have char := writers_send h (String.utf8EncodeChar c)
    split
    · exact writers_bind (writers_forM (writers_send h) _) fun _ =>
        writers_bind (writers_modify _) fun _ => char
    · exact char

theorem writers_write (text : String) :
    L.Writers (Writing.write out.lift text) (Writing.write out'.lift text) :=
  writers_forM (writers_putChar h) _

theorem writers_line (text : String) :
    L.Writers (Writing.line out.lift text) (Writing.line out'.lift text) :=
  writers_bind (writers_write h text) fun _ => writers_write h "\n"

theorem writers_imports (names : NameSet) :
    L.Writers (Writing.imports out.lift names) (Writing.imports out'.lift names) :=
  writers_forM (fun _ => writers_bind (writers_line h _) fun _ => writers_modify _) _

theorem writers_step (step : Step) : L.Writers (step.run out.lift) (step.run out'.lift) := by
  cases step with
  | write text => exact writers_write h text
  | line text | comment text | statement text => exact writers_line h _
  | javadoc text =>
    exact writers_bind (writers_line h _) fun _ =>
      writers_bind (writers_forM (fun l => writers_line h _) _) fun _ => writers_line h _
  | indent | dedent => exact writers_modify _
  | emptyLine => exact writers_write h "\n"
  | package name =>
    refine writers_bind (writers_modify _) fun _ => ?_
    split
    · exact writers_bind (writers_line h _) fun _ => writers_write h "\n"
    · exact writers_pure ()
  | imports names => exact writers_imports h _
  | beginType | beginMethod =>
    exact writers_bind writers_get fun l =>
      writers_bind (writers_line h _) fun _ => writers_modify _
  | endType | endMethod => exact writers_bind (writers_modify _) fun _ => writers_line h _
  | field => exact writers_bind writers_get fun l => writers_line h _

theorem writers_run (hook : Hook α) : L.Writers (hook.run out) (hook.run out') := by
  induction hook with
  | pure value => exact writers_pure value
  | fail fault => exact writers_throw fault
  | call step next ih =>
    refine fun l s => L.bind (L.bind (writers_step h step l s) fun _ => L.pure _) ?_
    rintro ⟨⟨_ | result, l'⟩, s'⟩
    · exact L.pure _
    · exact ih result l' s'
  | shorten type next ih => exact writers_bind writers_get fun l => ih _
  | request key next ih =>
    refine writers_bind (fun l s => ?_) fun id => ih id
    exact L.bind (L.bind (L.pure _) fun _ => L.pure _) fun _ => L.pure _

theorem writers_generator (g : Generator) (options : Options) (time : Timestamp) :
    L.Writers (g.write out options time) (g.write out' options time) := by
  have rest : L.Writers
      (g.doc.run out >>= fun _ => Writing.beginType out.lift g.model.className "class"
        g.model.source.modifiers.forClass g.model.superclass >>= fun _ =>
          Writing.emptyLine out.lift >>= fun _ => g.body.run out >>= fun _ =>
            Writing.endType out.lift)
      (g.doc.run out' >>= fun _ => Writing.beginType out'.lift g.model.className "class"
        g.model.source.modifiers.forClass g.model.superclass >>= fun _ =>
          Writing.emptyLine out'.lift >>= fun _ => g.body.run out' >>= fun _ =>
            Writing.endType out'.lift) :=
    writers_bind (writers_run h g.doc) fun _ =>
      writers_bind (writers_step h (.beginType ..)) fun _ =>
        writers_bind (writers_step h .emptyLine) fun _ =>
          writers_bind (writers_run h g.body) fun _ => writers_step h .endType
  refine writers_bind (writers_step h (.comment _)) fun _ =>
    writers_bind (writers_step h (.package _)) fun _ => ?_
  split
  · exact writers_bind (writers_imports h _) fun _ =>
      writers_bind (writers_step h .emptyLine) fun _ => rest
  · exact rest

/-- A class is rendered alike on outputs that answer alike. -/
theorem render (g : Generator) (options : Options) (time : Timestamp) (s : Session) :
    L.Rel (g.render out options time s) (g.render out' options time s) := by
  have written := writers_generator h g options time (.start options.indent) s
  exact L.bind written fun _ => L.pure _

end Sinks

section Machines

variable {σ τ : Type}

/-- Machines that answer alike and stay related. -/
def machines (R : σ → τ → Prop) : Lockstep (StateM σ) (StateM τ) where
  Rel a a' := ∀ o o', R o o' → (a o).1 = (a' o').1 ∧ R (a o).2 (a' o').2
  pure _ _ _ related := ⟨rfl, related⟩
  bind := by
    intro α β a a' f f' first rest o o' related
    obtain ⟨same, after⟩ := first o o' related
    have next := rest (a o).1 _ _ after
    rw [same] at next
    rw [bind_apply, bind_apply, same]
    exact next

end Machines
end Lockstep
end OperationStubs
