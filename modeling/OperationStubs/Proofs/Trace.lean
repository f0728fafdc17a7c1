import OperationStubs.Proofs.Generation

/-!
# The calls that generate a class

Generating a class is create, write, flush and close, or comes to a report at the first of them
that fails (`Course`). A file that was opened is closed once, and discarded before that if the class
failed. What comes of closing and discarding is not looked at (`generate_takes_its_course`).
-/

namespace OperationStubs

/-- A call of an environment. -/
inductive Call (φ : Type) where
  | create (fqcn : String) (origin : Origin)
  | write (file : φ) (bytes : List UInt8)
  | flush (file : φ)
  | close (file : φ)
  | discard (file : φ)
  | report (message : String) (origin : Origin)

namespace Call

variable {φ : Type}

def isReport : Call φ → Bool
  | .report .. => true
  | _ => false

end Call

namespace Environment

variable {σ φ α : Type}

def noting (call : Call φ) (a : StateM σ α) : StateM (σ × List (Call φ)) α := fun r =>
  ((a r.1).1, (a r.1).2, r.2 ++ [call])

/-- An environment with a record of the calls made so far. -/
def recorded (env : Environment (StateM σ) φ) : Environment (StateM (σ × List (Call φ))) φ where
  create fqcn origin := noting (.create fqcn origin) (env.create fqcn origin)
  write file bytes := noting (.write file bytes) (env.write file bytes)
  flush file := noting (.flush file) (env.flush file)
  close file := noting (.close file) (env.close file)
  discard file := noting (.discard file) (env.discard file)
  report message origin := noting (.report message origin) (env.report message origin)
  now := fun r => ((env.now r.1).1, (env.now r.1).2, r.2)

end Environment

/-- An output with a copy of every write it was given. -/
def Sink.copied {σ : Type} (out : Sink (StateM σ)) : Sink (StateM (σ × List (List UInt8))) :=
  fun bytes r => ((out bytes r.1).1, (out bytes r.1).2, r.2 ++ [bytes])

/-- How the generation of a class goes. -/
inductive Course (φ : Type) where
  | refused (fault : Fault)
  | unwritten (file : φ) (writes : List (List UInt8)) (fault : Fault)
  | unflushed (file : φ) (writes : List (List UInt8)) (fault : Fault)
  | generated (file : φ) (writes : List (List UInt8))

namespace Course

variable {σ φ : Type}

def status : Course φ → Status
  | .generated .. => .generated
  | _ => .failed

def opened : Course φ → Bool
  | .refused _ => false
  | _ => true

def opening (g : Generator) : Call φ := .create g.model.fqcn g.model.source.origin

/-- The report of a class that failed. -/
def complaint (g : Generator) (problem : String) (fault : Fault) : Call φ :=
  .report ("Cannot generate loader for base class " ++ g.model.source.qualifiedName ++ ": " ++
    (problem ++ g.model.fqcn ++ ": " ++ fault.message)) g.model.source.origin

def calls (g : Generator) : Course φ → List (Call φ)
  | .refused fault => [opening g, complaint g "cannot open output file for " fault]
  | .unwritten file writes fault =>
    opening g :: writes.map (.write file) ++
      [.discard file, .close file, complaint g "cannot write " fault]
  | .unflushed file writes fault =>
    opening g :: writes.map (.write file) ++
      [.flush file, .discard file, .close file, complaint g "cannot flush " fault]
  | .generated file writes => opening g :: writes.map (.write file) ++ [.flush file, .close file]

/-- The writes that a class is rendered with. -/
def writes (out : Sink (StateM σ)) (options : Options) (g : Generator) (time : Timestamp)
    (s : Session) (o : σ) : List (List UInt8) :=
  (g.render out.copied options time s (o, [])).2.2

/-- The course that creating, rendering and flushing lead to. -/
def of (env : Environment (StateM σ) φ) (options : Options) (g : Generator) (s : Session)
    (o : σ) : Course φ :=
  match env.create g.model.fqcn g.model.source.origin o with
  | (.error fault, _) => .refused fault
  | (.ok file, o) =>
    let (time, o) := env.now o
    let sent := writes (env.write file) options g time s o
    match g.render (env.write file) options time s o with
    | ((.error fault, _), _) => .unwritten file sent fault
    | ((.ok (), _), o) =>
      match env.flush file o with
      | (.error fault, _) => .unflushed file sent fault
      | (.ok (), _) => .generated file sent

end Course

namespace Generator

variable {σ φ : Type} (env : Environment (StateM σ) φ) (options : Options) (g : Generator)
variable (s : Session) (o : σ)

theorem render_copied (out : Sink (StateM σ)) (time : Timestamp) :
    g.render out.copied options time s (o, []) =
      ((g.render out options time s o).1, (g.render out options time s o).2,
        Course.writes out options g time s o) := by
  let L := Lockstep.machines fun (a : σ × List (List UInt8)) (b : σ) => a.1 = b
  have sinks : L.Sinks out.copied out := by
    rintro bytes ⟨o, writes⟩ _ rfl
    exact ⟨rfl, rfl⟩
  obtain ⟨same, after⟩ := Lockstep.render sinks g options time s (o, []) o rfl
  exact Prod.ext same (Prod.ext after rfl)

/-- Of rendering, the writes are what is recorded. -/
theorem render_recorded (file : φ) (time : Timestamp) (calls : List (Call φ)) :
    g.render (env.recorded.write file) options time s (o, calls) =
      ((g.render (env.write file) options time s o).1,
        (g.render (env.write file) options time s o).2,
        calls ++ (Course.writes (env.write file) options g time s o).map (.write file)) := by
  let L := Lockstep.machines fun (a : σ × List (Call φ)) (b : σ × List (List UInt8)) =>
    a = (b.1, calls ++ b.2.map (.write file))
  have sinks : L.Sinks (env.recorded.write file) (env.write file).copied := by
    rintro bytes _ ⟨o, writes⟩ rfl
    exact ⟨rfl, by simp [Environment.recorded, Environment.noting, Sink.copied]⟩
  obtain ⟨same, after⟩ := Lockstep.render sinks g options time s (o, calls) (o, []) (by simp)
  rw [render_copied] at same after
  exact Prod.ext same after

theorem giveUp_recorded (file : φ) (failure : ClassFailure) (calls : List (Call φ)) :
    (g.giveUp env.recorded file failure s (o, calls)).1.1 = .failed ∧
      (g.giveUp env.recorded file failure s (o, calls)).2.2 = calls ++ [.discard file, .close file,
        .report ("Cannot generate loader for base class " ++ g.model.source.qualifiedName ++ ": " ++
          failure.message) g.model.source.origin] := by
  refine ⟨rfl, ?_⟩
  change calls ++ [_] ++ [_] ++ [_] = _
  simp only [List.append_assoc, List.cons_append, List.nil_append]

theorem finish_recorded (file : φ) (calls : List (Call φ)) :
    (g.finish env.recorded file s (o, calls)).1.1 = .generated ∧
      (g.finish env.recorded file s (o, calls)).2.2 = calls ++ [.close file] :=
  ⟨rfl, rfl⟩

end Generator

theorem generate_recorded {σ φ : Type} (env : Environment (StateM σ) φ) (options : Options)
    (g : Generator) (s : Session) (o : σ) :
    let course := Course.of env options g s o
    let ended := g.generate env.recorded options s (o, [])
    ended.1.1 = course.status ∧ ended.2.2 = course.calls g := by
  have recorded := congrFun (g.run_generate env.recorded options s) (o, [])
  simp only [StateT.run, bind_apply] at recorded
  rw [recorded]
  have create : env.recorded.create g.model.fqcn g.model.source.origin (o, []) =
    ((env.create g.model.fqcn g.model.source.origin o).1,
      (env.create g.model.fqcn g.model.source.origin o).2, [Course.opening g]) := rfl
  rw [create]
  rcases created : env.create g.model.fqcn g.model.source.origin o with ⟨fault | file, o₁⟩
  · simp only [Course.of, created]
    exact ⟨rfl, rfl⟩
  simp only [Course.of, created, bind_apply]
  rcases clock : env.now o₁ with ⟨time, o₂⟩
  have now (calls : List (Call φ)) : env.recorded.now (o₁, calls) = (time, o₂, calls) := by
    simp [Environment.recorded, clock]
  simp only [now, Generator.render_recorded]
  generalize Course.writes (env.write file) options g time s o₂ = writes
  rcases rendered : g.render (env.write file) options time s o₂ with ⟨⟨fault | _, s₁⟩, o₃⟩
  · exact Generator.giveUp_recorded env g s₁ o₃ file (.cannotWrite g.model.fqcn fault) _
  simp only [bind_apply]
  have flush (calls : List (Call φ)) : env.recorded.flush file (o₃, calls) =
    ((env.flush file o₃).1, (env.flush file o₃).2, calls ++ [.flush file]) := rfl
  rw [flush]
  rcases flushed : env.flush file o₃ with ⟨fault | _, o₄⟩
  · obtain ⟨failed, calls⟩ := Generator.giveUp_recorded env g s₁ o₄ file
      (.cannotFlush g.model.fqcn fault)
      ([Course.opening g] ++ writes.map (.write file) ++ [.flush file])
    refine ⟨failed, calls.trans ?_⟩
    simp only [List.append_assoc, List.cons_append, List.nil_append]
    rfl
  · obtain ⟨generated, calls⟩ := Generator.finish_recorded env g s₁ o₄ file
      ([Course.opening g] ++ writes.map (.write file) ++ [.flush file])
    refine ⟨generated, calls.trans ?_⟩
    simp only [List.append_assoc, List.cons_append, List.nil_append]
    rfl

/-- Keeping a record of the calls changes nothing. -/
theorem generate_unrecorded {σ φ : Type} (env : Environment (StateM σ) φ) (options : Options)
    (g : Generator) (s : Session) (o : σ) :
    let ended := g.generate env.recorded options s (o, [])
    (ended.1, ended.2.1) = g.generate env options s o := by
  let L := Lockstep.machines fun (a : σ × List (Call φ)) (b : σ) => a.1 = b
  have noted {α : Type} (call : Call φ) (a : StateM σ α) :
      L.Rel (Environment.noting call a) a := by
    rintro ⟨o, calls⟩ _ rfl
    exact ⟨rfl, rfl⟩
  have now : L.Rel env.recorded.now env.now := by
    rintro ⟨o, calls⟩ _ rfl
    exact ⟨rfl, rfl⟩
  have alike : L.Environments env.recorded env :=
    ⟨fun _ _ => noted _ _, fun _ _ => noted _ _, fun _ => noted _ _, fun _ => noted _ _,
      fun _ => noted _ _, fun _ _ => noted _ _, now⟩
  obtain ⟨same, after⟩ := Lockstep.generate alike options g s (o, []) o rfl
  exact Prod.ext same after

end OperationStubs
