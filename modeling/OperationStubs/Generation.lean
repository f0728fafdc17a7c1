import OperationStubs.Environment
import OperationStubs.Generator
/-! Generating classes into an environment. A class that fails is reported and holds up no other. -/
namespace OperationStubs

/-- Why a class could not be generated. -/
inductive ClassFailure where
  | cannotOpen (fqcn : String) (fault : Fault)
  | cannotWrite (fqcn : String) (fault : Fault)
  | cannotFlush (fqcn : String) (fault : Fault)
  deriving DecidableEq, Repr

def ClassFailure.message : ClassFailure → String
  | .cannotOpen fqcn fault => "cannot open output file for " ++ fqcn ++ ": " ++ fault.message
  | .cannotWrite fqcn fault => "cannot write " ++ fqcn ++ ": " ++ fault.message
  | .cannotFlush fqcn fault => "cannot flush " ++ fqcn ++ ": " ++ fault.message

inductive Status where
  | generated | failed
  deriving DecidableEq, Repr

/-- The fully qualified names of the classes of a run, by outcome. -/
structure Report where
  generated : List String := []
  failed : List String := []
  deriving DecidableEq, Repr

def Report.hasFailures (report : Report) : Bool := !report.failed.isEmpty

namespace Generator

variable {m : Type → Type} [Monad m] {φ : Type}

def record (level : LogLevel) (message : String) : StateT Session m Unit :=
  modify fun s => s.record level message

/-- Faults while letting go of a file are logged and change nothing else. -/
def ignoring (action fqcn : String) (result : Except Fault Unit) : StateT Session m Unit :=
  match result with
  | .ok () => return
  | .error fault =>
    record .debug ("ignoring error while " ++ action ++ " " ++ fqcn ++ ": " ++ fault.message)

/-- Fills an open file. -/
def fill (env : Environment m φ) (options : Options) (g : Generator) (file : φ) :
    StateT Session m (Except ClassFailure Unit) := do
  let time ← env.now
  match ← g.render (env.write file) options time with
  | .error fault => return .error (.cannotWrite g.model.fqcn fault)
  | .ok () =>
    match ← env.flush file with
    | .error fault => return .error (.cannotFlush g.model.fqcn fault)
    | .ok () => return .ok ()

/-- Opens a file, fills it and closes it. What could not be filled is discarded before that. -/
def writeFile (env : Environment m φ) (options : Options) (g : Generator) :
    StateT Session m (Except ClassFailure Unit) := do
  match ← env.create g.model.fqcn g.model.source.origin with
  | .error fault => return .error (.cannotOpen g.model.fqcn fault)
  | .ok file =>
    let filled ← g.fill env options file
    match filled with
    | .ok () => pure ()
    | .error _ => ignoring "discarding" g.model.fqcn (← env.discard file)
    ignoring "closing" g.model.fqcn (← env.close file)
    return filled

/-- Generates one class. -/
def generate (env : Environment m φ) (options : Options) (g : Generator) :
    StateT Session m Status := do
  match ← g.writeFile env options with
  | .ok () =>
    record .debug ("generated " ++ g.model.fqcn)
    return .generated
  | .error failure =>
    record .warn ("generation of " ++ g.model.fqcn ++ " failed: " ++ failure.message)
    env.report ("Cannot generate loader for base class " ++ g.model.source.qualifiedName ++ ": " ++
      failure.message) g.model.source.origin
    return .failed

end Generator

variable {m : Type → Type} [Monad m] {φ : Type}

def Report.add (report : Report) (fqcn : String) : Status → Report
  | .generated => { report with generated := report.generated ++ [fqcn] }
  | .failed => { report with failed := report.failed ++ [fqcn] }

/-- Generates every class, in order. -/
def generateAll (env : Environment m φ) (options : Options) (generators : List Generator) :
    StateT Session m Report := do
  let report ← generators.foldlM (fun (report : Report) (g : Generator) => do
    return report.add g.model.fqcn (← g.generate env options)) { }
  Generator.record .info ("generated " ++ toString report.generated.length ++ " classes, " ++
    toString report.failed.length ++ " failed")
  return report

end OperationStubs
