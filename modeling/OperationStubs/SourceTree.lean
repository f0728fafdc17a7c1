import OperationStubs.Buffered
import OperationStubs.Diagnostic
import OperationStubs.Path
import OperationStubs.Java.Name
import OperationStubs.Text.NameSet
/-! Generated sources in a directory: a file for each class, in directories by package. -/
namespace OperationStubs

/-- A generated source file. Once closed it takes no more text. -/
structure SourceFile (h : Type) where
  path : String
  target : Option (Buffered h)

structure SourceTree (h : Type) where
  root : String
  /-- The classes that were to be given a file so far. A class gets at most one. -/
  created : NameSet
  diagnostics : List Diagnostic
  files : Array (SourceFile h)

namespace SourceTree

/-- Below the root a directory for each part of the package, and the class's own file. -/
def pathBelow (root fqcn : String) : String :=
  let segments := (Text.pieces '.' (Name.qualifier fqcn).toList).filter (· != [])
  Path.push ((segments.map String.ofList).foldl Path.push root) (Name.simple fqcn ++ ".java")

variable {m : Type → Type} [Monad m] {h : Type}

def empty (root : String) : SourceTree h := ⟨root, ∅, [], #[]⟩

def sourcePath (tree : SourceTree h) (fqcn : String) : String :=
  pathBelow tree.root fqcn

def hasErrors (tree : SourceTree h) : Bool := !tree.diagnostics.isEmpty

abbrev Action (m : Type → Type) (h : Type) := StateT (SourceTree h) m

def target? (tree : SourceTree h) (file : Nat) : Option (Buffered h) :=
  tree.files[file]?.bind (·.target)

def setTarget (tree : SourceTree h) (file : Nat) (target : Option (Buffered h)) : SourceTree h :=
  { tree with files := tree.files.modify file fun f => { f with target } }

/-- Opens the file of a class, once. A failed attempt counts. -/
def create (fs : FileSystem m h) (fqcn : String) : Action m h (Except Fault Nat) := do
  let tree ← get
  if fqcn ∈ tree.created then return .error (Fault.alreadyGenerated fqcn)
  set { tree with created := tree.created.insert fqcn }
  let path := tree.sourcePath fqcn
  match ← fs.makeDirs (Path.parent path) with
  | .error fault => return .error fault
  | .ok () =>
    match ← fs.create path with
    | .error fault => return .error fault
    | .ok handle =>
      modify fun tree => { tree with files := tree.files.push ⟨path, some ⟨handle, []⟩⟩ }
      return .ok tree.files.size

def write (fs : FileSystem m h) (file : Nat) : Sink (Action m h) := fun bytes => do
  match (← get).target? file with
  | none => return if bytes.isEmpty then .ok () else .error Fault.alreadyClosed
  | some b =>
    let (result, b) ← (b.write fs bytes : m _)
    modify fun tree => tree.setTarget file (some b)
    return result

def flush (fs : FileSystem m h) (file : Nat) : Action m h (Except Fault Unit) := do
  match (← get).target? file with
  | none => return .error Fault.alreadyClosed
  | some b =>
    let (result, b) ← (b.drain fs : m _)
    modify fun tree => tree.setTarget file (some b)
    return result

/-- Hands everything on and lets go of the file. A closed file stays closed. -/
def close (fs : FileSystem m h) (file : Nat) : Action m h (Except Fault Unit) := do
  match (← get).target? file with
  | none => return .ok ()
  | some b =>
    let (result, _) ← (b.drain fs : m _)
    modify fun tree => tree.setTarget file none
    return result

/-- Lets go of a file as closing does. What comes of it is not looked at. -/
def drop (fs : FileSystem m h) (file : Nat) : Action m h Unit := do
  let _ ← close fs file

/-- Forgets what waits and removes the file. -/
def discard (fs : FileSystem m h) (file : Nat) : Action m h (Except Fault Unit) := do
  let tree ← get
  set (tree.setTarget file none)
  match tree.files[file]? with
  | none => return .error Fault.notFound
  | some f => fs.remove f.path

def report (message : String) (origin : Origin) : Action m h Unit :=
  modify fun tree =>
    { tree with diagnostics := tree.diagnostics ++ [Diagnostic.about message origin] }

def environment (fs : FileSystem m h) (now : m Timestamp) : Environment (Action m h) Nat where
  create fqcn _ := create fs fqcn
  write := write fs
  flush := flush fs
  close := close fs
  discard := discard fs
  report := report
  now := now

/-- All diagnostics, as the user reads them. -/
def diagnosticText (tree : SourceTree h) : String :=
  String.join (tree.diagnostics.map (·.text))

end SourceTree
end OperationStubs
