import OperationStubs.Text.Split
/-! Paths as texts. -/
namespace OperationStubs.Path

/-- A path with one more piece. A piece that begins with `/` stands for itself. -/
def push (path piece : String) : String :=
  if piece.toList.head? = some '/' then piece
  else if path = "" || path.toList.getLast? = some '/' then path ++ piece
  else path ++ "/" ++ piece

/-- The path of what holds the last piece. -/
def parent (path : String) : String :=
  match Text.cutLast '/' path.toList with
  | some ([], _) => "/"
  | some (before, _) => String.ofList before
  | none => ""

def isAbsolute (path : String) : Bool :=
  path.toList.head? = some '/'

/-- The pieces between slashes. -/
def pieces (path : String) : List String :=
  (Text.pieces '/' path.toList).map String.ofList

/-- Whether a piece stays where it is. -/
def isHere (piece : String) : Bool :=
  piece == "" || piece == "."

end OperationStubs.Path
