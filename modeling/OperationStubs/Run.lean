import OperationStubs.CommandLine
import OperationStubs.Generation
import OperationStubs.Manifest.Decode
import OperationStubs.Options.Decode
import OperationStubs.SourceTree
import OperationStubs.Stub
import OperationStubs.Toml.Read
/-! A run of the program: from its documents to generated files and what the user sees. -/
namespace OperationStubs

/-- What a run leaves besides files. -/
structure Outcome where
  exitCode : Nat
  stdout : String
  log : List LogRecord
  diagnostics : String
  deriving DecidableEq, Repr

/-- Why a run ends before anything is generated. -/
inductive RunError where
  | cannotRead (role path : String) (fault : Fault)
  | cannotParse (role path document : String) (error : Toml.ReadError)
  deriving DecidableEq, Repr

namespace RunError

/-- Every line of a cause, set apart. -/
def cause (text : String) : String :=
  "    " ++ "\n    ".intercalate ((Text.pieces '\n' text.toList).map String.ofList)

def text : RunError → String
  | .cannotRead role path fault =>
    "Failed to read " ++ role ++ " " ++ path ++ "\n\nCaused by:\n" ++ cause fault.message
  | .cannotParse role path document error =>
    "Failed to parse " ++ role ++ " " ++ path ++ "\n\nCaused by:\n" ++ cause (error.text document)

end RunError

namespace Run

variable {m : Type → Type} [Monad m] {h : Type}

/-- Reads a document of some role in the run. -/
def load {α : Type} (fs : FileSystem m h) (role : String) (decode : Datum → Except DecodeError α)
    (path : String) : ExceptT RunError m α := do
  match ← fs.read path with
  | .error fault => throw (.cannotRead role path fault)
  | .ok bytes =>
    match ofUtf8? bytes with
    | none => throw (.cannotRead role path Fault.notText)
    | some document =>
      match Toml.read decode document with
      | .error error => throw (.cannotParse role path document error)
      | .ok a => return a

/-- The options of a run. The command line goes before the configuration. -/
def options (fs : FileSystem m h) (arguments : Arguments) : ExceptT RunError m Options := do
  let options ← match arguments.config with
    | some path => load fs "config" Options.decode path
    | none => pure { }
  return { options with
    outputPath := arguments.output.getD options.outputPath
    verbosity := if arguments.verbose then .debug else options.verbosity }

def failed (error : RunError) (log : List LogRecord) : Outcome :=
  ⟨1, error.text ++ "\n", log, ""⟩

def reportText (report : Report) : String :=
  String.join (report.generated.map fun fqcn => "✅ " ++ fqcn ++ "\n") ++
    String.join (report.failed.map fun fqcn => "❌ " ++ fqcn ++ "\n")

/-- The log as it begins. -/
def opening : Session :=
  Session.empty.record .debug ("opgen version: " ++ CommandLine.programVersion)

/-- Generates loader and operator of every type. -/
def generate (fs : FileSystem m h) (now : m Timestamp) (options : Options) (manifest : Manifest) :
    m ((Report × Session) × SourceTree h) :=
  ((generateAll (SourceTree.environment fs now) options manifest.generators).run opening).run
    (SourceTree.empty options.outputPath)

def shown (options : Options) (session : Session) : List LogRecord :=
  session.log.filter fun record => options.verbosity.shows record.level

/-- Carries out a run. -/
def execute (fs : FileSystem m h) (now : m Timestamp) (arguments : Arguments) : m Outcome := do
  match ← (options fs arguments).run with
  | .error error => return failed error []
  | .ok options =>
    match ← (load fs "manifest" Manifest.decode arguments.manifest).run with
    | .error error => return failed error (shown options opening)
    | .ok manifest =>
      let ((report, session), tree) ← generate fs now options manifest
      return ⟨if report.hasFailures then 1 else 0, reportText report, shown options session,
        tree.diagnosticText⟩

/-- Carries out what a command line asks for. Nothing is read or written for a wrong one. -/
def ofArguments (fs : FileSystem m h) (now : m Timestamp) (arguments : List String) :
    m Outcome :=
  match CommandLine.parse? arguments with
  | some (.run arguments) => execute fs now arguments
  | some .version => return ⟨0, CommandLine.versionText, [], ""⟩
  | some .help => return ⟨0, CommandLine.helpText, [], ""⟩
  | none => return ⟨2, "", [], CommandLine.usage⟩

end Run
end OperationStubs
