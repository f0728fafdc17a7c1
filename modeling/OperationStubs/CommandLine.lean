/-! The command line. -/
namespace OperationStubs

structure Arguments where
  manifest : String
  output : Option String
  config : Option String
  verbose : Bool
  deriving DecidableEq, Repr

namespace CommandLine

/-- What a command line asks for. -/
inductive Request where
  | run (arguments : Arguments)
  | version
  | help
  deriving DecidableEq, Repr

inductive Opt where
  | manifest | output | config
  deriving DecidableEq, Repr

inductive Flag where
  | verbose | version | help
  deriving DecidableEq, Repr

/-- What the arguments read so far have set. -/
structure Draft where
  manifest : Option String := none
  output : Option String := none
  config : Option String := none
  verbose : Bool := false

/-- A name of the command line: of an option with a value, or of a flag. -/
def longName? : String → Option (Opt ⊕ Flag)
  | "manifest" => some (.inl .manifest)
  | "output" => some (.inl .output)
  | "config" => some (.inl .config)
  | "verbose" => some (.inr .verbose)
  | "version" => some (.inr .version)
  | "help" => some (.inr .help)
  | _ => none

def shortName? : Char → Option (Opt ⊕ Flag)
  | 'm' => some (.inl .manifest)
  | 'o' => some (.inl .output)
  | 'c' => some (.inl .config)
  | 'v' => some (.inr .verbose)
  | 'V' => some (.inr .version)
  | 'h' => some (.inr .help)
  | _ => none

def Draft.get (draft : Draft) : Opt → Option String
  | .manifest => draft.manifest
  | .output => draft.output
  | .config => draft.config

/-- Sets an option. An option is set once, and not to nothing. -/
def Draft.set (draft : Draft) (option : Opt) (value : String) : Option Draft :=
  if (draft.get option).isSome || value = "" then none
  else match option with
    | .manifest => some { draft with manifest := some value }
    | .output => some { draft with output := some value }
    | .config => some { draft with config := some value }

/-- Whether an argument can stand for a value. -/
def isValue (argument : String) : Bool :=
  argument.toList.head? != some '-' || argument == "-"

/-- What reading an argument leads to: more to read, an answer at once, or a wrong usage. -/
inductive Progress where
  | more (draft : Draft)
  /-- The next argument is the value of an option. -/
  | awaiting (option : Opt) (draft : Draft)
  | done (request : Request)
  | wrong

def Progress.ofOption : Option Draft → Progress
  | some draft => .more draft
  | none => .wrong

def flag (draft : Draft) : Flag → Progress
  | .verbose => if draft.verbose then .wrong else .more { draft with verbose := true }
  | .version => .done .version
  | .help => .done .help

/-- An option as `--name` or `--name=value`. -/
def long (draft : Draft) (text : List Char) : Progress :=
  let name := String.ofList (text.takeWhile (· != '='))
  let value : Option String := match text.dropWhile (· != '=') with
    | [] => none
    | _ :: value => some (String.ofList value)
  match longName? name, value with
  | some (.inl option), some value => .ofOption (draft.set option value)
  | some (.inl option), none => .awaiting option draft
  | some (.inr f), none => flag draft f
  | _, _ => .wrong

/-- Flags in one argument, and at its end perhaps an option with its value. -/
def short (draft : Draft) : List Char → Progress
  | [] => .more draft
  | c :: rest =>
    match shortName? c with
    | some (.inr f) =>
      match flag draft f with
      | .more draft => short draft rest
      | other => other
    | some (.inl option) =>
      match rest with
      | [] => .awaiting option draft
      | '=' :: value => .ofOption (draft.set option (String.ofList value))
      | value => .ofOption (draft.set option (String.ofList value))
    | none => .wrong

/-- Reads one argument. There are none but options and flags. -/
def argument (draft : Draft) (text : String) : Progress :=
  match text.toList with
  | '-' :: '-' :: name => long draft name
  | '-' :: c :: rest => short draft (c :: rest)
  | _ => .wrong

def finish (draft : Draft) : Option Request :=
  draft.manifest.map fun manifest =>
    .run ⟨manifest, draft.output, draft.config, draft.verbose⟩

def read (draft : Draft) : List String → Option Request
  | [] => finish draft
  | ["--"] => finish draft
  | text :: rest =>
    match argument draft text with
    | .more draft => read draft rest
    | .awaiting option draft =>
      match rest with
      | value :: rest =>
        if isValue value then
          match draft.set option value with
          | some draft => read draft rest
          | none => none
        else none
      | [] => none
    | .done request => some request
    | .wrong => none

/-- What some arguments ask for, if they are used as they should be. -/
def parse? (arguments : List String) : Option Request :=
  read { } arguments

def programName : String := "opgen"

def programVersion : String := "0.1.0"

def versionText : String := programName ++ " " ++ programVersion ++ "\n"

def usage : String :=
  "Usage: " ++ programName ++ " [OPTIONS] --manifest <MANIFEST>\n"

def helpText : String :=
  "Generates loader and operator classes for annotated operation types described in a manifest\n\n"
    ++ usage ++ "\nOptions:\n" ++
    "  -m, --manifest <MANIFEST>  Path to the toml manifest listing the operation types\n" ++
    "  -o, --output <OUTPUT>      Directory to write generated sources to, overriding the config\n" ++
    "  -c, --config <CONFIG>      Generator options in toml format\n" ++
    "  -v, --verbose              Log debug output\n" ++
    "  -h, --help                 Print help\n" ++
    "  -V, --version              Print version\n"

end CommandLine
end OperationStubs
