import OperationStubs.Proofs.Page
import OperationStubs.Proofs.Program

/-!
# What a hook does where nothing fails

On an output that never fails a hook is told nothing it could not know beforehand, so what it does
follows from the scope it finds and the session: its transcript. A hook writes the texts of its
calls at whatever depth it is called (`exec_run_steady`). One that comes back to that depth and to
the start of a line writes a page of its own (`Transcript.Tidy.yields`).
-/

namespace OperationStubs

/-- What a hook does where no call fails: its calls of the writer, how it ends, and the session it
leaves. -/
structure Transcript (α : Type) where
  steps : List Step
  result : Except Fault α
  session : Session

namespace Transcript

variable {α : Type}

/-- What is in scope behind the calls. -/
def scopeBehind (t : Transcript α) (scope : Scope) : Scope :=
  t.steps.foldl Step.scopeBehind scope

/-- The texts of the calls laid out at some depth. -/
def page (t : Transcript α) (indent : String) (depth : Nat) (scope : Scope) : String :=
  Page.ofMarks indent (Page.marks depth scope t.steps)

/-- The hook goes well, comes back to the depth at which it was called, and ends at the start of a
line. -/
structure Tidy (t : Transcript Unit) (depth : Nat) (scope : Scope) : Prop where
  ok : t.result = .ok ()
  level : t.steps.foldl Step.depthBehind depth = depth
  line : ∀ last ∈ (Page.marks depth scope t.steps).getLast?, last.char = '\n'

end Transcript

namespace Hook

variable {α : Type}

def transcript : Hook α → Scope → Session → Transcript α
  | .pure value, _, s => ⟨[], .ok value, s⟩
  | .fail fault, _, s => ⟨[], .error fault, s⟩
  | .call step next, scope, s =>
    let rest := (next (.ok ())).transcript (step.scopeBehind scope) s
    { rest with steps := step :: rest.steps }
  | .shorten type next, scope, s => (next (scope.shorten type)).transcript scope s
  | .request key next, scope, s =>
    (next (s.request key).1).transcript scope (s.request key).2

variable {scope : Scope} {s s' s'' : Session} {steps more : List Step}

/-- One hook behind another that goes well. -/
theorem transcript_then {h : Hook Unit} {h' : Hook α} {result : Except Fault α}
    (first : h.transcript scope s = ⟨steps, .ok (), s'⟩)
    (rest : h'.transcript (steps.foldl Step.scopeBehind scope) s' = ⟨more, result, s''⟩) :
    (h >>= fun _ => h').transcript scope s = ⟨steps ++ more, result, s''⟩ := by
  change (h.bind fun _ => h').transcript scope s = _
  induction h generalizing scope s steps with
  | pure value =>
    cases first
    exact rest
  | fail fault => cases first
  | call step next ih =>
    simp only [transcript] at first
    cases called : (next (.ok ())).transcript (step.scopeBehind scope) s with
    | mk behind result' after =>
      rw [called] at first
      cases first
      simp only [Hook.bind, transcript, ih _ called rest]
      rfl
  | shorten type next ih => exact ih _ first rest
  | request key next ih => exact ih _ first rest

theorem transcript_emitAll (steps : List Step) :
    (emitAll steps).transcript scope s = ⟨steps, .ok (), s⟩ := by
  induction steps generalizing scope with
  | nil => rfl
  | cons step steps ih =>
    have first : (emit step).transcript scope s = ⟨[step], .ok (), s⟩ := rfl
    exact transcript_then first ih

end Hook

namespace Layout

theorem depth_pastSteps (l : Layout) (steps : List Step) :
    (l.pastSteps steps).depth = steps.foldl Step.depthBehind l.depth := by
  induction steps generalizing l with
  | nil => rfl
  | cons step steps ih => rw [pastSteps_cons, ih, depth_pastStep, List.foldl_cons]

theorem scope_pastSteps (l : Layout) (steps : List Step) :
    (l.pastSteps steps).scope = steps.foldl Step.scopeBehind l.scope := by
  induction steps generalizing l with
  | nil => rfl
  | cons step steps ih => rw [pastSteps_cons, ih, scope_pastStep, List.foldl_cons]

theorem indent_pastSteps (l : Layout) (steps : List Step) :
    (l.pastSteps steps).indent = l.indent := by
  induction steps generalizing l with
  | nil => rfl
  | cons step steps ih => rw [pastSteps_cons, ih, indent_pastStep]

/-- Behind a text a line begins if the text ends with a newline. No text changes nothing. -/
theorem atLineStart_past (l : Layout) (text : List Char) :
    (l.past text).atLineStart = (text.getLast?.map (· == '\n')).getD l.atLineStart := by
  rcases List.eq_nil_or_concat text with rfl | ⟨before, c, rfl⟩
  · rfl
  · rw [List.concat_eq_append, past_concat, List.getLast?_concat]
    rfl

theorem atLineStart_pastSteps (l : Layout) (steps : List Step) :
    (l.pastSteps steps).atLineStart =
      ((Page.marks l.depth l.scope steps).getLast?.map (·.char == '\n')).getD l.atLineStart := by
  induction steps generalizing l with
  | nil => rfl
  | cons step steps ih =>
    have start : (step.before l).atLineStart = l.atLineStart := by cases step <;> rfl
    rw [pastSteps_cons, ih, depth_pastStep, scope_pastStep, atLineStart_pastStep, atLineStart_past,
      Step.text_before, start, Page.marks, List.getLast?_append]
    cases (Page.marks _ _ steps).getLast? with
    | none => simp [Function.comp_def]
    | some last => rfl

end Layout

namespace Hook

open Writing

variable {α : Type} {σ : Type} {out : Sink (StateM σ)} {content : σ → List UInt8}

/-- How a run ends whose calls all went well. -/
structure Ran (content : σ → List UInt8) (l : Layout) (o : σ) (t : Transcript α)
    (ended : Ended σ α) : Prop where
  result : ended.result = t.result
  layout : ended.layout = l.pastSteps t.steps
  session : ended.session = t.session
  output : content ended.output = content o ++ l.draft t.steps

/-- On an output that never fails a hook does what its transcript says, at whatever depth it is
called. -/
theorem exec_run_steady (steady : Steady out) (appends : Appends out content) (h : Hook α)
    (l : Layout) (s : Session) (o : σ) :
    Ran content l o (h.transcript l.scope s) (exec (h.run out) l s o) := by
  induction h generalizing l s o with
  | pure value => exact ⟨rfl, rfl, rfl, (List.append_nil _).symm⟩
  | fail fault => exact ⟨rfl, rfl, rfl, (List.append_nil _).symm⟩
  | call step next ih =>
    obtain ⟨session, took, _⟩ := writes_step appends step l s o
    obtain ⟨result, layout⟩ := (sends_step step l).ok steady s o
    rw [exec_run_call]
    generalize exec (step.run out.lift) l s o = called at *
    rw [result] at took
    have rest := ih (.ok ()) called.layout called.session called.output
    rw [layout, session, Layout.scope_pastStep] at rest
    simp only [result, layout, session]
    constructor
    · exact rest.result
    · exact rest.layout
    · exact rest.session
    · rw [rest.output, took, List.append_assoc]
      rfl
  | shorten type next ih => exact ih _ l s o
  | request key next ih =>
    rw [exec_run_request]
    exact ih _ l _ o

end Hook

namespace Layout

/-- The start of a line at some depth. -/
def lineAt (indent : String) (depth : Nat) (scope : Scope) : Layout :=
  ⟨indent, depth, true, scope⟩

section LineAt

variable (indent : String) (depth : Nat) (scope : Scope)

@[simp] theorem indent_lineAt : (lineAt indent depth scope).indent = indent := rfl

@[simp] theorem depth_lineAt : (lineAt indent depth scope).depth = depth := rfl

@[simp] theorem atLineStart_lineAt : (lineAt indent depth scope).atLineStart = true := rfl

@[simp] theorem scope_lineAt : (lineAt indent depth scope).scope = scope := rfl

end LineAt

theorem eq_lineAt {l : Layout} {depth : Nat} {scope : Scope} (level : l.depth = depth)
    (start : l.atLineStart = true) (declared : l.scope = scope) :
    l = lineAt l.indent depth scope := by
  cases l
  simp_all [lineAt]

/-- At layout `l` some calls write `text`, and leave layout `l'`. -/
structure Yields (l : Layout) (steps : List Step) (text : String) (l' : Layout) : Prop where
  draft : l.draft steps = utf8 text
  past : l.pastSteps steps = l'

theorem Yields.append {l l' l'' : Layout} {steps more : List Step} {text rest : String}
    (first : l.Yields steps text l') (then_ : l'.Yields more rest l'') :
    l.Yields (steps ++ more) (text ++ rest) l'' := by
  constructor
  · rw [draft_append, first.draft, first.past, then_.draft, utf8_append]
  · rw [pastSteps_append, first.past, then_.past]

end Layout

/-- A tidy hook called at the start of a line writes a page at its depth. -/
theorem Transcript.Tidy.yields {t : Transcript Unit} {depth : Nat} {scope : Scope}
    (tidy : t.Tidy depth scope) (indent : String) :
    (Layout.lineAt indent depth scope).Yields t.steps (t.page indent depth scope)
      (.lineAt indent depth (t.scopeBehind scope)) := by
  constructor
  · rw [Layout.draft_eq_laid]
    exact Page.laid_start _ _
  · let l := Layout.lineAt indent depth scope
    have level : (l.pastSteps t.steps).depth = depth := (l.depth_pastSteps _).trans tidy.level
    have declared : (l.pastSteps t.steps).scope = t.scopeBehind scope := l.scope_pastSteps _
    have start : (l.pastSteps t.steps).atLineStart = true := by
      rw [l.atLineStart_pastSteps]
      cases last : (Page.marks depth scope t.steps).getLast? with
      | none => simp [l, last]
      | some mark => simp [l, last, tidy.line mark (by rw [last]; rfl)]
    rw [Layout.eq_lineAt level start declared, l.indent_pastSteps]
    rfl

end OperationStubs
