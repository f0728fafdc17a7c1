import OperationStubs.Proofs.Script

/-!
# A class as one hook

The frame of a class is made of calls of the writer as well, so a whole class is a hook
(`run_program`), and the script of that hook is the text of the class.
-/

namespace OperationStubs

namespace NameSet

theorem place_of_forall_lt {x : String} {names : List String} (h : ∀ y ∈ names, y < x) :
    place x names = names ++ [x] := by
  induction names with
  | nil => rfl
  | cons y names ih =>
    have less : y < x := h y List.mem_cons_self
    have ge : ¬ x < y := fun lt => String.lt_irrefl _ (String.lt_trans lt less)
    have ne : x ≠ y := fun eq => String.lt_irrefl _ (eq ▸ less)
    simp [place, ge, ne, ih fun z hz => h z (List.mem_cons_of_mem _ hz)]

theorem toList_insertAll {names : NameSet} {xs : List String}
    (h : (names.toList ++ xs).Pairwise (· < ·)) :
    (names.insertAll xs).toList = names.toList ++ xs := by
  induction xs generalizing names with
  | nil => simp [insertAll]
  | cons x xs ih =>
    have inserted : (names.insert x).toList = names.toList ++ [x] :=
      place_of_forall_lt fun y hy =>
        (List.pairwise_append.1 h).2.2 y hy x List.mem_cons_self
    have step : names.insertAll (x :: xs) = (names.insert x).insertAll xs := rfl
    rw [step, ih (by rw [inserted]; simpa using h), inserted, List.append_assoc]
    rfl

/-- The names of a set make up that set. -/
theorem ofList_toList (names : NameSet) : ofList names.toList = names := by
  have same : (ofList names.toList).toList = names.toList :=
    @toList_insertAll ∅ _ names.ascending
  cases names
  cases h : ofList _
  simp_all

end NameSet

namespace Hook

variable {α β : Type} {m : Type → Type} [Monad m] [LawfulMonad m] (out : Sink m)

theorem run_bind (h : Hook α) (f : α → Hook β) :
    (h >>= f).run out = h.run out >>= fun x => (f x).run out := by
  change (h.bind f).run out = _
  induction h with
  | pure value => simp only [Hook.bind, run, pure_bind]
  | fail fault => exact ExceptT.ext (by simp [Hook.bind, run])
  | call step next ih => simp only [Hook.bind, run, bind_assoc, ih]
  | shorten type next ih => simp only [Hook.bind, run, bind_assoc, ih]
  | request key next ih => simp only [Hook.bind, run, bind_assoc, ih]

theorem run_emit (step : Step) : (emit step).run out = step.run out.lift := by
  refine ExceptT.ext ?_
  simp only [emit, run, ExceptT.run_bind_lift]
  refine Eq.trans (bind_congr fun result => ?_) (bind_pure _)
  cases result <;> rfl

end Hook

namespace Generator

/-- A whole class as a hook: the frame around what its generator supplies. -/
def program (g : Generator) (options : Options) (time : Timestamp) : Hook Unit := do
  Hook.emit (.comment (options.headerMarker ++ " " ++ time.text))
  Hook.emit (.package g.model.package)
  if !g.model.imports.isEmpty then
    Hook.emit (.imports g.model.imports.toList)
    Hook.emit .emptyLine
  g.doc
  Hook.emit (.beginType g.model.className "class" g.model.source.modifiers.forClass
    g.model.superclass)
  Hook.emit .emptyLine
  g.body
  Hook.emit .endType

theorem run_program {m : Type → Type} [Monad m] [LawfulMonad m] (out : Sink m) (g : Generator)
    (options : Options) (time : Timestamp) :
    (g.program options time).run out = g.write out options time := by
  unfold program write
  split <;> simp only [Hook.run_bind, Hook.run_emit, Step.run, NameSet.ofList_toList]

/-- What holds of single calls and of hooks one after the other holds of the class, if it holds of
what its generator supplies. -/
theorem program_of {P : Hook Unit → Prop} {g : Generator} (options : Options) (time : Timestamp)
    (emit : ∀ step, P (Hook.emit step)) (next : ∀ h h', P h → P h' → P (h >>= fun _ => h'))
    (doc : P g.doc) (body : P g.body) : P (g.program options time) := by
  have rest := next _ _ doc (next _ _ (emit (.beginType g.model.className "class"
    g.model.source.modifiers.forClass g.model.superclass)) (next _ _ (emit .emptyLine)
      (next _ _ body (emit .endType))))
  unfold program
  refine next _ _ (emit _) (next _ _ (emit _) ?_)
  split
  · exact next _ _ (emit _) (next _ _ (emit _) rest)
  · exact rest

/-- Rendering is carrying out the class's hook from the layout of an empty file. -/
theorem render_eq {σ : Type} (out : Sink (StateM σ)) (g : Generator) (options : Options)
    (time : Timestamp) (s : Session) (o : σ) :
    g.render out options time s o =
      let ended := Writing.exec ((g.program options time).run out) (.start options.indent) s o
      ((ended.result, ended.session), ended.output) := by
  rw [run_program]
  rfl

/-- The calls of the writer before a class's own members. -/
def frame (g : Generator) (options : Options) (time : Timestamp) (doc : List Step) : List Step :=
  [.comment (options.headerMarker ++ " " ++ time.text), .package g.model.package] ++
    (if g.model.imports.isEmpty then []
      else [.imports g.model.imports.toList, .emptyLine]) ++ doc ++
    [.beginType g.model.className "class" g.model.source.modifiers.forClass g.model.superclass,
      .emptyLine]

end Generator

namespace Hook

variable {α β : Type} {ids : MethodKey → UInt32}

/-- Where nothing fails, a hook does the same calls at every layout and ends well. -/
def Lists (ids : MethodKey → UInt32) (h : Hook α) (steps : List Step) (value : α) : Prop :=
  ∀ l, h.script ids l = (steps, .ok value)

theorem lists_pure (value : α) : Lists ids (pure value) [] value := fun _ => rfl

theorem lists_emit (step : Step) : Lists ids (emit step) [step] () := fun _ => rfl

theorem Lists.bind {h : Hook α} {f : α → Hook β} {steps more : List Step} {value : α} {value' : β}
    (first : Lists ids h steps value) (then_ : Lists ids (f value) more value') :
    Lists ids (h >>= f) (steps ++ more) value' := by
  intro l
  rw [script_bind, first l]
  simp only [andThen, then_ _]

theorem Lists.next {h : Hook α} {h' : Hook β} {steps more : List Step} {value : α} {value' : β}
    (first : Lists ids h steps value) (then_ : Lists ids h' more value') :
    Lists ids (h >>= fun _ => h') (steps ++ more) value' :=
  first.bind then_

theorem lists_forM {γ : Type} {f : γ → Hook Unit} {steps : γ → List Step} (xs : List γ)
    (h : ∀ x, Lists ids (f x) (steps x) ()) : Lists ids (xs.forM f) (xs.flatMap steps) () := by
  induction xs with
  | nil => exact lists_pure ()
  | cons x xs ih => exact (h x).next ih

theorem lists_emitAll (steps : List Step) : Lists ids (emitAll steps) steps () := by
  induction steps with
  | nil => exact lists_pure ()
  | cons step steps ih => exact (lists_emit step).next ih

theorem lists_program {g : Generator} (options : Options) (time : Timestamp)
    {doc body : List Step} (hdoc : Lists ids g.doc doc ()) (hbody : Lists ids g.body body ()) :
    Lists ids (g.program options time) (g.frame options time doc ++ body ++ [.endType]) () := by
  have inner : Lists ids _ _ () := (lists_emit .emptyLine).next (hbody.next (lists_emit .endType))
  have rest := hdoc.next ((lists_emit (.beginType g.model.className "class"
    g.model.source.modifiers.forClass g.model.superclass)).next inner)
  intro l
  unfold Generator.program Generator.frame
  by_cases h : g.model.imports.isEmpty
  · have all := (lists_emit (.comment (options.headerMarker ++ " " ++ time.text))).next
      ((lists_emit (.package g.model.package)).next rest)
    simpa [h] using all l
  · have all := (lists_emit (.comment (options.headerMarker ++ " " ++ time.text))).next
      ((lists_emit (.package g.model.package)).next
        ((lists_emit (.imports g.model.imports.toList)).next ((lists_emit .emptyLine).next rest)))
    simpa [h] using all l

end Hook
end OperationStubs
