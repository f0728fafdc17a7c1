import OperationStubs.FileSystem
import OperationStubs.Path
import OperationStubs.Text.Utf8
/-! A tree of directories and files, with a working directory. -/
namespace OperationStubs

/-- Where something stands in the tree: its name, then those of the directories above it. -/
abbrev Location := List String

inductive Node where
  | directory
  | file (number : Nat)
  deriving DecidableEq, Repr

/-- A file that is open for writing. -/
structure Descriptor where
  file : Nat
  offset : Nat
  deriving DecidableEq, Repr

/-- A tree. A file's content outlives its place in the tree as long as it is open. -/
structure Disk where
  nodes : List (Location × Node)
  contents : Array (List UInt8)
  descriptors : Array Descriptor
  here : Location

namespace Disk

def empty : Disk := ⟨[], #[], #[], []⟩

/-- What stands at a location. The top is always a directory. -/
def node? (d : Disk) (l : Location) : Option Node :=
  if l = [] then some .directory else d.nodes.lookup l

def isDirectory (d : Disk) (l : Location) : Bool :=
  d.node? l == some .directory

/-- The content of the file at a location. -/
def content? (d : Disk) (l : Location) : Option (List UInt8) :=
  match d.node? l with
  | some (.file number) => d.contents[number]?
  | _ => none

def maxNameBytes : Nat := 255

def maxPathBytes : Nat := 4095

/-- The directory that one piece of a path leads to. -/
def enter (d : Disk) (l : Location) (piece : String) : Except Fault Location :=
  if Path.isHere piece then .ok l
  else if piece = ".." then .ok l.tail
  else if maxNameBytes < (utf8 piece).length then .error Fault.nameTooLong
  else
    match d.node? (piece :: l) with
    | some .directory => .ok (piece :: l)
    | some (.file _) => .error Fault.notADirectory
    | none => .error Fault.notFound

/-- The location that a row of pieces leads to. The last piece need not exist. -/
def locateFrom (d : Disk) : Location → List String → Except Fault Location
  | l, [] => .ok l
  | l, [piece] =>
    if Path.isHere piece || piece == ".." then d.enter l piece
    else if maxNameBytes < (utf8 piece).length then .error Fault.nameTooLong
    else .ok (piece :: l)
  | l, piece :: rest => do d.locateFrom (← d.enter l piece) rest

def start (d : Disk) (path : String) : Location :=
  if Path.isAbsolute path then [] else d.here

/-- The location of a path. -/
def locate (d : Disk) (path : String) : Except Fault Location :=
  if path.toList.contains '\x00' then .error Fault.nulInPath
  else if path = "" then .error Fault.notFound
  else if maxPathBytes < (utf8 path).length then .error Fault.nameTooLong
  else d.locateFrom (d.start path) (Path.pieces path)

def addNode (d : Disk) (l : Location) (node : Node) : Disk :=
  { d with nodes := (l, node) :: d.nodes }

/-- Makes one directory. -/
def makeDir (path : List String) (l : Location) (d : Disk) : Except Fault Unit × Disk :=
  match d.locateFrom l path with
  | .error fault => (.error fault, d)
  | .ok target =>
    match d.node? target with
    | some _ => (.error Fault.fileExists, d)
    | none => (.ok (), d.addNode target .directory)

/-- A directory that is there need not be made. -/
def settle (path : List String) (l : Location) : Except Fault Unit × Disk → Except Fault Unit × Disk
  | (.ok (), d) => (.ok (), d)
  | (.error fault, d) =>
    match d.locateFrom l path with
    | .ok target => if d.isDirectory target then (.ok (), d) else (.error fault, d)
    | .error _ => (.error fault, d)

/-- Makes a directory, and what is missing above it. The path begins with its last piece. -/
def makeDirsFrom (l : Location) : List String → Disk → Except Fault Unit × Disk
  | [], d => (.ok (), d)
  | piece :: above, d =>
    let path := (piece :: above).reverse
    match makeDir path l d with
    | (.error fault, d) =>
      if fault = Fault.notFound then
        match makeDirsFrom l above d with
        | (.ok (), d) => settle path l (makeDir path l d)
        | failed => failed
      else settle path l (.error fault, d)
    | made => made

def makeDirs (path : String) : StateM Disk (Except Fault Unit) := fun d =>
  let names := (Path.pieces path).filter fun piece => !Path.isHere piece
  if path.toList.contains '\x00' then (.error Fault.nulInPath, d)
  else if maxPathBytes < (utf8 path).length then (.error Fault.nameTooLong, d)
  else makeDirsFrom (d.start path) names.reverse d

def openFile (d : Disk) (number : Nat) : Except Fault Nat × Disk :=
  (.ok d.descriptors.size, { d with descriptors := d.descriptors.push ⟨number, 0⟩ })

def create (path : String) : StateM Disk (Except Fault Nat) := fun d =>
  match d.locate path with
  | .error fault => (.error fault, d)
  | .ok target =>
    match d.node? target with
    | some .directory => (.error Fault.isADirectory, d)
    | some (.file number) =>
      openFile { d with contents := d.contents.setIfInBounds number [] } number
    | none =>
      openFile { d.addNode target (.file d.contents.size) with contents := d.contents.push [] }
        d.contents.size

/-- Puts `bytes` in place of what stands at `offset`. A gap before them is filled with zeros. -/
def overwrite (content : List UInt8) (offset : Nat) (bytes : List UInt8) : List UInt8 :=
  content.take offset ++ List.replicate (offset - content.length) 0 ++ bytes ++
    content.drop (offset + bytes.length)

def write (descriptor : Nat) : Sink (StateM Disk) := fun bytes d =>
  match d.descriptors[descriptor]? with
  | none => (.ok (), d)
  | some ⟨file, offset⟩ =>
    (.ok (), { d with
      contents := d.contents.modify file fun content => overwrite content offset bytes
      descriptors := d.descriptors.setIfInBounds descriptor ⟨file, offset + bytes.length⟩ })

def remove (path : String) : StateM Disk (Except Fault Unit) := fun d =>
  match d.locate path with
  | .error fault => (.error fault, d)
  | .ok target =>
    match d.node? target with
    | some .directory => (.error Fault.isADirectory, d)
    | some (.file _) => (.ok (), { d with nodes := d.nodes.filter fun entry => entry.1 != target })
    | none => (.error Fault.notFound, d)

def read (path : String) : StateM Disk (Except Fault (List UInt8)) := fun d =>
  match d.locate path with
  | .error fault => (.error fault, d)
  | .ok target =>
    match d.node? target with
    | some .directory => (.error Fault.isADirectory, d)
    | some (.file number) => (.ok (d.contents.getD number []), d)
    | none => (.error Fault.notFound, d)

def fileSystem : FileSystem (StateM Disk) Nat where
  makeDirs := makeDirs
  create := create
  write := write
  remove := remove
  read := read

end Disk
end OperationStubs
