import OperationStubs.Proofs.ByteOrder
import OperationStubs.Proofs.Operations

/-!
# The classes that were to be given a file

A source tree takes the name of a class down before it opens the class's file, and keeps it where
the file could not be opened. So the names it has are in order, and are those of the classes that
were to be given a file, with one or without (`records_after`). They are those of the classes that
were given one just if none of the others was ever to have one.
-/

namespace OperationStubs.SourceTree

/-- In this run the class was given a file. What has become of it does not matter. -/
def Run.Gives {σ h : Type} (run : Run σ h) (fqcn : String) : Prop :=
  ∃ event ∈ run.events, event.gives fqcn

/-- What the names that are taken down say about the operations of a run. -/
structure Records {σ h : Type} (operations : List Operation) (run : Run σ h) : Prop where
  ascending : run.tree.created.toList.Pairwise fun a b => utf8 a < utf8 b
  asked : ∀ fqcn, fqcn ∈ run.tree.created ↔ .create fqcn ∈ operations
  given : ∀ fqcn, run.Gives fqcn → fqcn ∈ run.tree.created
  /-- The names are those of the classes that were given a file, unless some class was to be given
  one and never was. -/
  exact_iff : (∀ fqcn, fqcn ∈ run.tree.created ↔ run.Gives fqcn) ↔
    ∀ fqcn, .create fqcn ∈ operations → run.Gives fqcn

section Records

variable {σ h : Type} (fs : FileSystem (StateM σ) h) (root : String) (o : σ)
variable (operations : List Operation)

/-- A class that was given a file was to be given one. -/
theorem Run.Gives.asked {fqcn : String} (gives : ((start root o).after fs operations).Gives fqcn) :
    .create fqcn ∈ operations := by
  obtain ⟨event, mem, given⟩ := gives
  exact mem_operations fs root o operations ⟨event, mem, (Event.gives_iff.1 given).1⟩

/-- An attempt that is not the first leaves the names as they are. The first one does not, whether
it succeeds or fails. -/
theorem created_next_iff (fqcn : String) :
    let run := (Run.start root o).after fs operations
    (run.next fs (.create fqcn)).tree.created = run.tree.created ↔
      .create fqcn ∈ operations := by
  intro run
  constructor
  · intro same
    have there : fqcn ∈ (run.next fs (.create fqcn)).tree.created :=
      (mem_created_perform fs (.create fqcn) run.tree run.outside fqcn).2 (.inl rfl)
    rw [same] at there
    exact (mem_created_run fs root o operations fqcn).1 there
  · intro asked
    rw [Run.next_create fs root o operations asked]
    rfl

/-- The names taken down are those of the classes that were to be given a file, in the order of
their bytes. An attempt leaves them as they are just if it is not the first one for its class. -/
theorem records_after :
    let run := (Run.start root o).after fs operations
    Records operations run ∧
      ∀ fqcn, (run.next fs (.create fqcn)).tree.created = run.tree.created ↔
        .create fqcn ∈ operations := by
  intro run
  have asked := mem_created_run fs root o operations
  refine ⟨?_, created_next_iff fs root o operations⟩
  constructor
  case ascending => exact run.tree.created.ascending.imp utf8_lt_utf8
  case asked => exact asked
  case given =>
    intro fqcn gives
    exact (asked fqcn).2 (gives.asked fs root o operations)
  case exact_iff =>
    constructor
    · intro exact_ fqcn mem
      exact (exact_ fqcn).1 ((asked fqcn).2 mem)
    · intro all fqcn
      constructor
      · intro taken
        exact all fqcn ((asked fqcn).1 taken)
      · intro gives
        exact (asked fqcn).2 (gives.asked fs root o operations)

end Records

/-- Where a file stands in place of the package's directory the class is given none, and its name is
taken down all the same. -/
theorem records_without_file :
    let d : Disk := ⟨[(["a", "out"], .file 0), (["out"], .directory)], #[[]], #[], []⟩
    let before : Run Disk Nat := .start "out" d
    let run := before.next Disk.fileSystem (.create "a.B")
    run.events = [⟨.create "a.B", .created (.error Fault.fileExists)⟩] ∧
      run.tree.created.toList = ["a.B"] ∧ ¬ run.Gives "a.B" ∧
      ¬ (∀ fqcn, fqcn ∈ run.tree.created ↔ run.Gives fqcn) ∧
      run.tree.created ≠ before.tree.created := by
  intro d before run
  have events : run.events = [⟨.create "a.B", .created (.error Fault.fileExists)⟩] := by
    decide +kernel
  have names : run.tree.created.toList = ["a.B"] := by decide +kernel
  have none : ¬ run.Gives "a.B" := by
    rintro ⟨event, mem, given⟩
    rw [events] at mem
    obtain rfl := List.mem_singleton.1 mem
    cases given
  have taken : "a.B" ∈ run.tree.created := by
    change "a.B" ∈ run.tree.created.toList
    rw [names]
    exact List.mem_singleton_self "a.B"
  refine ⟨events, names, none, fun all => none ((all "a.B").1 taken), fun same => ?_⟩
  rw [same] at taken
  cases taken

end OperationStubs.SourceTree
