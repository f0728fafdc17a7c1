import Mathlib.Data.List.Induction
import OperationStubs.Proofs.SourceTree

/-!
# Asking for a file twice

A source tree and the files it has handed out are asked for operations in any order, on a file
system that may fail at any time. The name of a class is taken down on the first attempt to give it
a file and never taken back (`mem_created_run`). So every later attempt is refused and changes
nothing, however the first one went and whatever has become of its file (`created_once`).
-/

namespace OperationStubs.SourceTree

/-- What a source tree, or a file that it has handed out, can be asked for. -/
inductive Operation where
  | create (fqcn : String)
  | report (message : String) (origin : Origin)
  | write (file : Nat) (bytes : List UInt8)
  | flush (file : Nat)
  | close (file : Nat)
  | discard (file : Nat)
  | drop (file : Nat)
  deriving DecidableEq

/-- The file that an operation is about. -/
def Operation.file? : Operation → Option Nat
  | .create _ | .report _ _ => none
  | .write file _ | .flush file | .close file | .discard file | .drop file => some file

/-- What comes of an operation. -/
inductive Answer where
  | created (result : Except Fault Nat)
  | done (result : Except Fault Unit)
  deriving DecidableEq

section Perform

variable {m : Type → Type} [Monad m] {h : Type}

def perform (fs : FileSystem m h) : Operation → Action m h Answer
  | .create fqcn => return .created (← create fs fqcn)
  | .report message origin => do
    report message origin
    return .done (.ok ())
  | .write file bytes => return .done (← write fs file bytes)
  | .flush file => return .done (← flush fs file)
  | .close file => return .done (← close fs file)
  | .discard file => return .done (← discard fs file)
  | .drop file => do
    drop fs file
    return .done (.ok ())

end Perform

/-- An operation that was performed, and what came of it. -/
structure Event where
  operation : Operation
  answer : Answer
  deriving DecidableEq

/-- Some operations that were performed, and what they have left. -/
structure Run (σ h : Type) where
  events : List Event
  tree : SourceTree h
  outside : σ

namespace Run

variable {σ h : Type}

/-- Nothing has been performed yet. -/
def start (root : String) (outside : σ) : Run σ h := ⟨[], .empty root, outside⟩

/-- A run that goes on with an operation. -/
def next (fs : FileSystem (StateM σ) h) (run : Run σ h) (operation : Operation) : Run σ h :=
  let ended := perform fs operation run.tree run.outside
  ⟨run.events ++ [⟨operation, ended.1.1⟩], ended.1.2, ended.2⟩

/-- A run that goes on with an operation that has an answer and changes nothing. -/
def answered (run : Run σ h) (operation : Operation) (answer : Answer) : Run σ h :=
  { run with events := run.events ++ [⟨operation, answer⟩] }

/-- A run that goes on with some operations, one after the other. -/
def after (fs : FileSystem (StateM σ) h) (run : Run σ h) (operations : List Operation) : Run σ h :=
  operations.foldl (next fs) run

theorem events_next (fs : FileSystem (StateM σ) h) (run : Run σ h) (operation : Operation) :
    (run.next fs operation).events =
      run.events ++ [⟨operation, (perform fs operation run.tree run.outside).1.1⟩] := rfl

theorem after_concat (fs : FileSystem (StateM σ) h) (run : Run σ h) (operations : List Operation)
    (operation : Operation) :
    run.after fs (operations ++ [operation]) = (run.after fs operations).next fs operation := by
  simp [after]

end Run

section Guard

variable {σ h : Type} (fs : FileSystem (StateM σ) h)

/-- Of the tree an operation on a file changes this file at most. -/
theorem perform_setTarget {operation : Operation} {file : Nat}
    (about : operation.file? = some file) (t : SourceTree h) (o : σ) :
    (perform fs operation t o).1.2 = t ∨
      ∃ b, (perform fs operation t o).1.2 = t.setTarget file b := by
  cases operation with
  | create _ | report _ _ => cases about
  | write file bytes =>
    cases about
    simp only [perform, write, bind_apply, get_apply, pure_apply]
    cases t.target? file with
    | none => exact .inl rfl
    | some b => exact .inr ⟨_, rfl⟩
  | flush file =>
    cases about
    simp only [perform, flush, bind_apply, get_apply, pure_apply]
    cases t.target? file with
    | none => exact .inl rfl
    | some b => exact .inr ⟨_, rfl⟩
  | close file | drop file =>
    cases about
    simp only [perform, drop, close, bind_apply, get_apply, pure_apply]
    cases t.target? file with
    | none => exact .inl rfl
    | some b => exact .inr ⟨_, rfl⟩
  | discard file =>
    cases about
    simp only [perform, discard, bind_apply, get_apply, set_apply, pure_apply]
    cases t.files[file]? <;> exact .inr ⟨_, rfl⟩

/-- Only an attempt to give a class a file takes down its name. -/
theorem mem_created_perform (operation : Operation) (t : SourceTree h) (o : σ) (fqcn : String) :
    fqcn ∈ (perform fs operation t o).1.2.created ↔
      operation = .create fqcn ∨ fqcn ∈ t.created := by
  cases about : operation.file? with
  | some file =>
    have other : operation ≠ .create fqcn := by
      rintro rfl
      cases about
    have created : (perform fs operation t o).1.2.created = t.created := by
      rcases perform_setTarget fs about t o with same | ⟨b, same⟩
      · rw [same]
      · rw [same]
        rfl
    rw [created, or_iff_right other]
  | none =>
    cases operation with
    | create name =>
      change fqcn ∈ (create fs name t o).1.2.created ↔ _
      rw [(create_tree fs name t o).2.2, Operation.create.injEq]
      split
      · rename_i known
        exact ⟨Or.inr, fun either => either.elim (fun same => same ▸ known) id⟩
      · rw [NameSet.mem_insert, eq_comm]
    | report message origin =>
      simp only [reduceCtorEq, false_or]
      rfl
    | _ => cases about

variable (root : String) (o : σ) (operations : List Operation)

/-- The names taken down are those of the classes that were to be given a file. -/
theorem mem_created_run (fqcn : String) :
    fqcn ∈ ((Run.start root o).after fs operations).tree.created ↔
      Operation.create fqcn ∈ operations := by
  induction operations using List.reverseRecOn with
  | nil => exact ⟨fun mem => absurd mem List.not_mem_nil, fun mem => absurd mem List.not_mem_nil⟩
  | append_singleton operations operation ih =>
    rw [Run.after_concat, List.mem_append, List.mem_singleton, ← ih, or_comm, eq_comm]
    exact mem_created_perform fs operation _ _ fqcn

end Guard

namespace Event

/-- What comes of an attempt to give a class a file that is not the first. -/
def refusal (fqcn : String) : Answer :=
  .created (.error ⟨.alreadyExists, "attempt to recreate a file for type " ++ fqcn⟩)

/-- A class was given a file. -/
def gives (fqcn : String) (event : Event) : Bool :=
  match event.answer with
  | .created (.ok _) => event.operation = .create fqcn
  | _ => false

theorem gives_iff {fqcn : String} {event : Event} :
    event.gives fqcn ↔
      event.operation = .create fqcn ∧ ∃ file, event.answer = .created (.ok file) := by
  obtain ⟨operation, _ | result⟩ := event
  · rename_i result
    cases result <;> simp [gives]
  · simp [gives]

end Event

/-- A class gets a file on the first attempt or never, however often it is tried. -/
structure Once {σ h : Type} (fs : FileSystem (StateM σ) h) (fqcn : String) (run : Run σ h) :
    Prop where
  /-- An attempt behind another one was refused. -/
  refused : run.events.Pairwise fun earlier later => earlier.operation = .create fqcn →
    later.operation = .create fqcn → later.answer = Event.refusal fqcn
  single : run.events.countP (·.gives fqcn) ≤ 1
  /-- Where there was an attempt, one more changes neither the tree nor its files, nor anything
  outside. -/
  unchanged : (∃ event ∈ run.events, event.operation = .create fqcn) →
    run.next fs (.create fqcn) = run.answered (.create fqcn) (Event.refusal fqcn)

theorem countP_le_one_of_pairwise {α : Type} {p : α → Bool} {xs : List α}
    (h : xs.Pairwise fun x y => p x → ¬ p y) : xs.countP p ≤ 1 := by
  induction xs with
  | nil => exact Nat.zero_le 1
  | cons x xs ih =>
    obtain ⟨first, rest⟩ := List.pairwise_cons.1 h
    by_cases here : p x
    · have none : xs.countP p = 0 := by
        rw [List.countP_eq_zero]
        intro y mem
        exact first y mem here
      exact Nat.le_of_eq (by rw [List.countP_cons_of_pos here, none])
    · rw [List.countP_cons_of_neg here]
      exact ih rest

namespace Run

variable {σ h : Type} (fs : FileSystem (StateM σ) h) (root : String) (o : σ)
variable (operations : List Operation)

theorem operations_after :
    ((start root o).after fs operations).events.map (·.operation) = operations := by
  induction operations using List.reverseRecOn with
  | nil => rfl
  | append_singleton operations operation ih =>
    rw [after_concat, events_next, List.map_append, ih]
    rfl

/-- A class that was to be given a file is refused another one, and nothing changes. -/
theorem next_create {fqcn : String} (asked : .create fqcn ∈ operations) :
    let run := (start root o).after fs operations
    run.next fs (.create fqcn) = run.answered (.create fqcn) (Event.refusal fqcn) := by
  intro run
  have known : fqcn ∈ run.tree.created := (mem_created_run fs root o operations fqcn).2 asked
  have answer : perform fs (.create fqcn) run.tree run.outside =
      ((Event.refusal fqcn, run.tree), run.outside) := by
    simp only [perform, bind_apply, create_known fs known, pure_apply]
    rfl
  simp only [next, answer, answered]

theorem mem_operations {operation : Operation}
    (performed : ∃ event ∈ ((start root o).after fs operations).events,
      event.operation = operation) : operation ∈ operations := by
  rw [← operations_after fs root o operations]
  exact List.mem_map.2 performed

theorem refused_after (fqcn : String) :
    ((start root o).after fs operations).events.Pairwise fun earlier later =>
      earlier.operation = .create fqcn → later.operation = .create fqcn →
        later.answer = Event.refusal fqcn := by
  induction operations using List.reverseRecOn with
  | nil => exact .nil
  | append_singleton operations operation ih =>
    rw [after_concat, events_next, List.pairwise_append]
    refine ⟨ih, List.pairwise_singleton _ _, ?_⟩
    intro earlier mem later last asked again
    obtain rfl := List.mem_singleton.1 last
    obtain rfl : operation = .create fqcn := again
    have tried := mem_operations fs root o operations ⟨earlier, mem, asked⟩
    have refused := congrArg (·.events) (next_create fs root o operations tried)
    have last := List.append_cancel_left refused
    exact congrArg Event.answer (List.head_eq_of_cons_eq last)

end Run

/-- Whatever a source tree and its files are asked for, and whatever fails outside, a class is given
a file once at most. -/
theorem created_once {σ h : Type} (fs : FileSystem (StateM σ) h) (root : String) (o : σ)
    (operations : List Operation) (fqcn : String) :
    let run := (Run.start root o).after fs operations
    run.events.map (·.operation) = operations ∧ Once fs fqcn run := by
  intro run
  have refused := Run.refused_after fs root o operations fqcn
  refine ⟨Run.operations_after fs root o operations, refused, ?_, ?_⟩
  · apply countP_le_one_of_pairwise
    refine refused.imp fun {earlier later} h first second => ?_
    obtain ⟨asked, _⟩ := Event.gives_iff.1 first
    obtain ⟨again, file, given⟩ := Event.gives_iff.1 second
    rw [h asked again] at given
    cases given
  · intro tried
    exact Run.next_create fs root o operations (Run.mem_operations fs root o operations tried)

end OperationStubs.SourceTree
