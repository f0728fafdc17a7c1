import OperationStubs.Proofs.Batch
import OperationStubs.Proofs.Operations

/-!
# A source tree together with what is outside of it

A source tree and what is outside of it make up one state, so a run over a source tree is a run like
any other and has turns (`collect_joint`). Its diagnostics are the complaints of its turns
(`diagnostics_collect`). It gets by on a file system that knows no paths but those of its classes
below the root (`collect_within`).
-/

namespace OperationStubs

/-- An environment that opens files for some classes only. -/
def Environment.guarded {m : Type → Type} [Monad m] {φ : Type} (env : Environment m φ)
    (classes : List String) : Environment m φ :=
  { env with
    create := fun fqcn origin =>
      if fqcn ∈ classes then env.create fqcn origin else pure (.error Fault.notFound) }

/-- Generating one of the classes asks for no other. -/
theorem Generator.run_guarded {m : Type → Type} [Monad m] [LawfulMonad m] {φ : Type}
    (env : Environment m φ) (options : Options) {g : Generator} {classes : List String}
    (known : g.model.fqcn ∈ classes) (s : Session) :
    (g.generate (env.guarded classes) options).run s = (g.generate env options).run s := by
  rw [run_generate, run_generate]
  simp only [Environment.guarded, known, if_true]
  rfl

namespace SourceTree

variable {σ h : Type}

/-- An action as one on the tree and what is outside of it. -/
def joined {α : Type} (a : Action (StateM σ) h α) : StateM (SourceTree h × σ) α := fun r =>
  ((a r.1 r.2).1.1, (a r.1 r.2).1.2, (a r.1 r.2).2)

/-- An environment as one on the tree and what is outside of it. -/
def joint (env : Environment (Action (StateM σ) h) Nat) :
    Environment (StateM (SourceTree h × σ)) Nat where
  create fqcn origin := joined (env.create fqcn origin)
  write file bytes := joined (env.write file bytes)
  flush file := joined (env.flush file)
  close file := joined (env.close file)
  discard file := joined (env.discard file)
  report message origin := joined (env.report message origin)
  now := joined env.now

def joining : Lockstep (Action (StateM σ) h) (StateM (SourceTree h × σ)) where
  Rel a a' := a' = joined a
  pure _ := rfl
  bind := by
    rintro α β a _ f f' rfl next
    obtain rfl : f' = fun x => joined (f x) := funext next
    rfl

/-- Taken together or not, it is the same run. -/
theorem collect_joint (env : Environment (Action (StateM σ) h) Nat) (options : Options)
    (generators : List Generator) (report : Report) (s : Session) :
    (generators.foldlM (collecting (joint env) options) report).run s =
      joined ((generators.foldlM (collecting env options) report).run s) := by
  have alike : joining.Environments env (joint env) :=
    ⟨fun _ _ => rfl, fun _ _ => rfl, fun _ => rfl, fun _ => rfl, fun _ => rfl, fun _ _ => rfl, rfl⟩
  have each : ∀ g ∈ generators, ∀ s, joining.Rel ((g.generate env options).run s)
      ((g.generate (joint env) options).run s) := fun g _ s => Lockstep.generate alike options g s
  exact Lockstep.collect each report s

end SourceTree

/-- What a source tree is told by a call. -/
def Call.diagnostic? {φ : Type} : Call φ → Option Diagnostic
  | .report message origin => some (.about message origin)
  | _ => none

/-- The diagnostics that come of a turn. -/
def Turn.diagnostics {φ : Type} (turn : Turn φ) : List Diagnostic :=
  turn.calls.filterMap Call.diagnostic?

namespace SourceTree

variable {σ h : Type} (fs : FileSystem (StateM σ) h) (now : StateM σ Timestamp)

/-- A tree with a state of what is outside and a record of the calls made. -/
abbrev Recorded (σ h : Type) := (SourceTree h × σ) × List (Call Nat)

/-- The diagnostics of a tree are what the calls told it. -/
def Told (r : SourceTree h × σ) (recorded : Recorded σ h) : Prop :=
  r = recorded.1 ∧ r.1.diagnostics = recorded.2.filterMap Call.diagnostic?

/-- A file that is opened leaves the diagnostics as they are, and so does what is done to a file. -/
theorem diagnostics_perform {operation : Operation} {file : Nat}
    (about : operation.file? = some file) (t : SourceTree h) (o : σ) :
    (perform fs operation t o).1.2.diagnostics = t.diagnostics := by
  rcases perform_setTarget fs about t o with same | ⟨b, same⟩
  · rw [same]
  · rw [same]
    rfl

theorem told_noting {α : Type} {call : Call Nat} (a : Action (StateM σ) h α)
    (tells : ∀ t o, (a t o).1.2.diagnostics = t.diagnostics ++ call.diagnostic?.toList) :
    (Lockstep.machines Told).Rel (joined a) (Environment.noting call (joined a)) := by
  rintro ⟨t, o⟩ ⟨_, calls⟩ ⟨rfl, told⟩
  refine ⟨rfl, rfl, ?_⟩
  have more := tells t o
  change (a t o).1.2.diagnostics = (calls ++ [call]).filterMap Call.diagnostic?
  rw [more, told, List.filterMap_append]
  cases call <;> rfl

theorem told_environments :
    (Lockstep.machines Told).Environments (joint (environment fs now))
      (joint (environment fs now)).recorded := by
  have done {file : Nat} (operation : Operation) (about : operation.file? = some file) (t o) :
      (perform fs operation t o).1.2.diagnostics = t.diagnostics ++ [] := by
    rw [diagnostics_perform fs about, List.append_nil]
  constructor
  case create =>
    intro fqcn origin
    apply told_noting
    intro t o
    exact (create_tree fs fqcn t o).2.1.trans (List.append_nil _).symm
  case write =>
    intro file bytes
    exact told_noting (write fs file bytes) (done (.write file bytes) rfl)
  case flush =>
    intro file
    exact told_noting (flush fs file) (done (.flush file) rfl)
  case close =>
    intro file
    exact told_noting (close fs file) (done (.close file) rfl)
  case discard =>
    intro file
    exact told_noting (discard fs file) (done (.discard file) rfl)
  case report =>
    intro message origin
    apply told_noting
    intro t o
    rfl
  case now =>
    rintro ⟨t, o⟩ ⟨_, calls⟩ ⟨rfl, told⟩
    exact ⟨rfl, rfl, told⟩

/-- Behind a run the tree has the complaints of its turns. -/
theorem diagnostics_collect (root : String) (options : Options) (generators : List Generator)
    (s : Session) (o : σ) :
    let env := joint (environment fs now)
    let ended := (generators.foldlM (collecting env options) { }).run s (.empty root, o)
    ended.2.1.diagnostics =
      (turns env options generators s (.empty root, o)).flatMap Turn.diagnostics := by
  intro env ended
  have each : ∀ g ∈ generators, ∀ s, (Lockstep.machines Told).Rel
      ((g.generate env options).run s) ((g.generate env.recorded options).run s) :=
    fun g _ s => Lockstep.generate (told_environments fs now) options g s
  obtain ⟨-, recorded⟩ := run_turns env options generators { } s (.empty root, o) []
  obtain ⟨-, -, told⟩ := Lockstep.collect each { } s (.empty root, o) ((.empty root, o), [])
    ⟨rfl, rfl⟩
  rw [recorded] at told
  exact told.trans List.filterMap_flatMap

/-- The paths that classes below a root need: those of their files, and of the directories these
are in. -/
def classPaths (root : String) (classes : List String) : List String :=
  classes.flatMap fun fqcn => [pathBelow root fqcn, Path.parent (pathBelow root fqcn)]

theorem mem_classPaths (root : String) {classes : List String} {fqcn : String}
    (known : fqcn ∈ classes) : pathBelow root fqcn ∈ classPaths root classes ∧
      Path.parent (pathBelow root fqcn) ∈ classPaths root classes := by
  constructor <;> exact List.mem_flatMap.2 ⟨fqcn, known, by simp⟩

end SourceTree

/-- A file system that knows some paths only. It refuses every other and stays as it is. Any file
can be read. -/
def FileSystem.within {m : Type → Type} [Monad m] {h : Type} (fs : FileSystem m h)
    (paths : List String) : FileSystem m h :=
  { fs with
    makeDirs := fun path => if path ∈ paths then fs.makeDirs path else pure (.error Fault.notFound)
    create := fun path => if path ∈ paths then fs.create path else pure (.error Fault.notFound)
    remove := fun path => if path ∈ paths then fs.remove path else pure (.error Fault.notFound) }

namespace SourceTree

variable {σ h : Type} (fs : FileSystem (StateM σ) h) (now : StateM σ Timestamp)

/-- A tree below the root with files of the classes and no others. -/
structure Confined (root : String) (classes : List String) (t : SourceTree h) : Prop where
  top : t.root = root
  files : ∀ file ∈ t.files, file.path ∈ classPaths root classes

namespace Confined

variable {root : String} {classes : List String} {t : SourceTree h}

theorem setTarget (confined : t.Confined root classes) (file : Nat) (b : Option (Buffered h)) :
    (t.setTarget file b).Confined root classes := by
  refine ⟨confined.top, fun f mem => ?_⟩
  obtain ⟨i, present⟩ := Array.mem_iff_getElem?.1 mem
  simp only [SourceTree.setTarget, Array.getElem?_modify] at present
  split at present
  · obtain ⟨old, there, rfl⟩ := Option.map_eq_some_iff.1 present
    exact confined.files old (Array.mem_of_getElem? there)
  · exact confined.files f (Array.mem_of_getElem? present)

/-- What is done to a file opens no other. -/
theorem perform (confined : t.Confined root classes) {operation : Operation} {file : Nat}
    (about : operation.file? = some file) (o : σ) :
    (SourceTree.perform fs operation t o).1.2.Confined root classes := by
  rcases perform_setTarget fs about t o with same | ⟨b, same⟩
  · rw [same]
    exact confined
  · rw [same]
    exact confined.setTarget file b

theorem create (confined : t.Confined root classes) {fqcn : String} (known : fqcn ∈ classes)
    (o : σ) : (SourceTree.create fs fqcn t o).1.2.Confined root classes := by
  by_cases taken : fqcn ∈ t.created
  · rw [create_known fs taken]
    exact confined
  · rw [create_new fs taken]
    dsimp only
    rcases fs.makeDirs _ o with ⟨_ | _, o₁⟩
    · exact ⟨confined.top, confined.files⟩
    · dsimp only
      rcases fs.create _ o₁ with ⟨_ | _, o₂⟩
      · exact ⟨confined.top, confined.files⟩
      · refine ⟨confined.top, fun f mem => ?_⟩
        rcases Array.mem_push.1 mem with old | rfl
        · exact confined.files f old
        · rw [sourcePath, confined.top]
          exact (mem_classPaths root known).1

/-- Opening the file of a class takes no more than the paths of the class. -/
theorem create_within (confined : t.Confined root classes) {fqcn : String}
    (known : fqcn ∈ classes) (o : σ) :
    SourceTree.create fs fqcn t o =
      SourceTree.create (fs.within (classPaths root classes)) fqcn t o := by
  obtain ⟨own, above⟩ := mem_classPaths root known
  by_cases taken : fqcn ∈ t.created
  · rw [create_known fs taken, create_known _ taken]
  · rw [create_new fs taken, create_new _ taken]
    simp only [FileSystem.within, sourcePath, confined.top, own, above, if_true]

theorem discard_within (confined : t.Confined root classes) (file : Nat) (o : σ) :
    discard fs file t o = discard (fs.within (classPaths root classes)) file t o := by
  simp only [discard, bind_apply, get_apply]
  cases there : t.files[file]? with
  | none => rfl
  | some f =>
    have known := confined.files f (Array.mem_of_getElem? there)
    simp only [FileSystem.within, known, if_true]

end Confined

variable (root : String) (classes : List String)

/-- Two trees are one, and it is confined. -/
def Below (r r' : SourceTree h × σ) : Prop := r = r' ∧ r'.1.Confined root classes

theorem below_joined {α : Type} {a a' : Action (StateM σ) h α}
    (same : ∀ t o, t.Confined root classes → a t o = a' t o)
    (stays : ∀ t o, t.Confined root classes → (a' t o).1.2.Confined root classes) :
    (Lockstep.machines (Below root classes)).Rel (joined a) (joined a') := by
  rintro ⟨t, o⟩ _ ⟨rfl, confined⟩
  have one := same t o confined
  refine ⟨congrArg (·.1.1) one, ?_, stays t o confined⟩
  exact congrArg (fun ended => (ended.1.2, ended.2)) one

/-- With the classes' own paths and no others a tree does the same. -/
theorem below_environments :
    (Lockstep.machines (Below root classes)).Environments
      ((joint (environment fs now)).guarded classes)
      ((joint (environment (fs.within (classPaths root classes)) now)).guarded classes) := by
  constructor
  case create =>
    intro fqcn origin
    simp only [Environment.guarded]
    split
    · rename_i known
      apply below_joined
      · intro t o confined
        exact confined.create_within fs known o
      · intro t o confined
        exact confined.create _ known o
    · exact (Lockstep.machines (Below root classes)).pure _
  case write =>
    intro file bytes
    apply below_joined
    · intro t o _
      rfl
    · intro t o confined
      have about : (Operation.write file bytes).file? = some file := rfl
      exact confined.perform _ about o
  case flush =>
    intro file
    apply below_joined
    · intro t o _
      rfl
    · intro t o confined
      have about : (Operation.flush file).file? = some file := rfl
      exact confined.perform _ about o
  case close =>
    intro file
    apply below_joined
    · intro t o _
      rfl
    · intro t o confined
      have about : (Operation.close file).file? = some file := rfl
      exact confined.perform _ about o
  case discard =>
    intro file
    apply below_joined
    · intro t o confined
      exact confined.discard_within fs file o
    · intro t o confined
      have about : (Operation.discard file).file? = some file := rfl
      exact confined.perform _ about o
  case report =>
    intro message origin
    apply below_joined
    · intro t o _
      rfl
    · intro t o confined
      exact ⟨confined.top, confined.files⟩
  case now =>
    rintro ⟨t, o⟩ _ ⟨rfl, confined⟩
    exact ⟨rfl, rfl, confined⟩

variable {classes}

/-- A run gets by on the paths of its classes below the root. -/
theorem collect_within {generators : List Generator}
    (known : ∀ g ∈ generators, g.model.fqcn ∈ classes) (options : Options) (report : Report)
    (s : Session) (o : σ) :
    ((generators.foldlM (collecting (environment (fs.within (classPaths root classes)) now) options)
      report).run s).run (.empty root) o =
    ((generators.foldlM (collecting (environment fs now) options) report).run s).run
      (.empty root) o := by
  have each : ∀ g ∈ generators, ∀ s, (Lockstep.machines (Below root classes)).Rel
      ((g.generate (joint (environment fs now)) options).run s)
      ((g.generate (joint (environment (fs.within (classPaths root classes)) now)) options).run
        s) := by
    intro g mem s
    have guarded := Lockstep.generate (below_environments fs now root classes) options g s
    rw [Generator.run_guarded _ _ (known g mem), Generator.run_guarded _ _ (known g mem)] at guarded
    exact guarded
  have begins : (empty root : SourceTree h).Confined root classes :=
    ⟨rfl, fun file mem => absurd mem (Array.not_mem_empty file)⟩
  obtain ⟨answer, left, -⟩ :=
    Lockstep.collect each report s (.empty root, o) (.empty root, o) ⟨rfl, begins⟩
  rw [collect_joint, collect_joint] at answer left
  have tree := congrArg Prod.fst left
  have rest := congrArg Prod.snd left
  exact (Prod.ext (Prod.ext answer tree) rest).symm

end SourceTree
end OperationStubs
