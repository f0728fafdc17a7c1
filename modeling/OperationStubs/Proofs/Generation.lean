import OperationStubs.Generation
import OperationStubs.Proofs.Lockstep

/-!
# Generating a class, call by call

`run_generate` is the order of the calls that generate a class, with the session made explicit. In
environments that answer alike a class is generated alike (`Lockstep.generate`).
-/

namespace OperationStubs

namespace Generator

variable {m : Type → Type} [Monad m] {φ : Type} (env : Environment m φ) (options : Options)
variable (g : Generator)

/-- The session after letting go of a file. -/
def ignored (action fqcn : String) (s : Session) : Except Fault Unit → Session
  | .ok () => s
  | .error fault =>
    s.record .debug ("ignoring error while " ++ action ++ " " ++ fqcn ++ ": " ++ fault.message)

theorem run_ignoring (action fqcn : String) (result : Except Fault Unit) (s : Session) :
    (ignoring (m := m) action fqcn result).run s = pure ((), ignored action fqcn s result) := by
  cases result <;> rfl

theorem run_record (level : LogLevel) (message : String) (s : Session) :
    (record (m := m) level message).run s = pure ((), s.record level message) := rfl

/-- The end of a class that failed. -/
def complain (failure : ClassFailure) (s : Session) : m (Status × Session) := do
  env.report ("Cannot generate loader for base class " ++ g.model.source.qualifiedName ++ ": " ++
    failure.message) g.model.source.origin
  return (.failed,
    s.record .warn ("generation of " ++ g.model.fqcn ++ " failed: " ++ failure.message))

/-- The end of a class that failed with its file open. -/
def giveUp (file : φ) (failure : ClassFailure) (s : Session) : m (Status × Session) := do
  let discarded ← env.discard file
  let closed ← env.close file
  g.complain env failure
    (ignored "closing" g.model.fqcn (ignored "discarding" g.model.fqcn s discarded) closed)

/-- The end of a class that went well. -/
def finish (file : φ) (s : Session) : m (Status × Session) := do
  let closed ← env.close file
  return (.generated,
    (ignored "closing" g.model.fqcn s closed).record .debug ("generated " ++ g.model.fqcn))

/-- Generating a class, call by call. -/
theorem run_generate [LawfulMonad m] (s : Session) :
    (g.generate env options).run s = (do
      match ← env.create g.model.fqcn g.model.source.origin with
      | .error fault => g.complain env (.cannotOpen g.model.fqcn fault) s
      | .ok file =>
        let time ← env.now
        match ← g.render (env.write file) options time s with
        | (.error fault, s) => g.giveUp env file (.cannotWrite g.model.fqcn fault) s
        | (.ok (), s) =>
          match ← env.flush file with
          | .error fault => g.giveUp env file (.cannotFlush g.model.fqcn fault) s
          | .ok () => g.finish env file s) := by
  simp only [generate, writeFile, fill, StateT.run_bind, bind_assoc, StateT.run_monadLift,
    monadLift_self]
  refine bind_congr fun created => ?_
  cases created with
  | error fault => simp [complain, run_record]
  | ok file =>
    simp only [StateT.run_bind, StateT.run_monadLift, monadLift_self, bind_assoc, pure_bind]
    refine bind_congr fun time => bind_congr fun rendered => ?_
    rcases rendered with ⟨_ | _, s⟩
    · simp [giveUp, complain, run_ignoring, run_record]
    · simp only [StateT.run_bind, StateT.run_monadLift, monadLift_self, bind_assoc, pure_bind]
      refine bind_congr fun flushed => ?_
      cases flushed with
      | error fault => simp [giveUp, complain, run_ignoring, run_record]
      | ok => simp [finish, run_ignoring, run_record]

end Generator

/-- Generating one class, and what the report says of it. -/
def collecting {m : Type → Type} [Monad m] {φ : Type} (env : Environment m φ) (options : Options)
    (report : Report) (g : Generator) : StateT Session m Report := do
  return report.add g.model.fqcn (← g.generate env options)

namespace Lockstep

variable {m m' : Type → Type} [Monad m] [Monad m'] (L : Lockstep m m') {φ : Type}

/-- Two environments that answer alike. -/
structure Environments (env : Environment m φ) (env' : Environment m' φ) : Prop where
  create : ∀ fqcn origin, L.Rel (env.create fqcn origin) (env'.create fqcn origin)
  write : ∀ file, L.Sinks (env.write file) (env'.write file)
  flush : ∀ file, L.Rel (env.flush file) (env'.flush file)
  close : ∀ file, L.Rel (env.close file) (env'.close file)
  discard : ∀ file, L.Rel (env.discard file) (env'.discard file)
  report : ∀ message origin, L.Rel (env.report message origin) (env'.report message origin)
  now : L.Rel env.now env'.now

variable {L} {env : Environment m φ} {env' : Environment m' φ}

theorem giveUp (h : L.Environments env env') (g : Generator) (file : φ) (failure : ClassFailure)
    (s : Session) : L.Rel (g.giveUp env file failure s) (g.giveUp env' file failure s) :=
  L.bind (h.discard file) fun _ => L.bind (h.close file) fun _ =>
    L.bind (h.report _ _) fun _ => L.pure _

/-- A class is generated alike in environments that answer alike. -/
theorem generate [LawfulMonad m] [LawfulMonad m'] (h : L.Environments env env')
    (options : Options) (g : Generator) (s : Session) :
    L.Rel ((g.generate env options).run s) ((g.generate env' options).run s) := by
  rw [Generator.run_generate, Generator.run_generate]
  refine L.bind (h.create _ _) fun created => ?_
  cases created with
  | error fault => exact L.bind (h.report _ _) fun _ => L.pure _
  | ok file =>
    refine L.bind h.now fun time => L.bind (render (h.write file) g options time s) ?_
    rintro ⟨_ | _, s⟩
    · exact giveUp h g file _ s
    · refine L.bind (h.flush file) fun flushed => ?_
      cases flushed with
      | error fault => exact giveUp h g file _ s
      | ok => exact L.bind (h.close file) fun _ => L.pure _

/-- Where each class is generated alike, so are they all. -/
theorem collect {options : Options} {generators : List Generator}
    (each : ∀ g ∈ generators, ∀ s,
      L.Rel ((g.generate env options).run s) ((g.generate env' options).run s))
    (report : Report) (s : Session) :
    L.Rel ((generators.foldlM (collecting env options) report).run s)
      ((generators.foldlM (collecting env' options) report).run s) := by
  induction generators generalizing report s with
  | nil => exact L.pure _
  | cons g generators ih =>
    obtain ⟨first, others⟩ := List.forall_mem_cons.1 each
    exact L.bind (L.bind (first s) fun _ => L.pure _) fun ended => ih others ended.1 ended.2

end Lockstep
end OperationStubs
