import OperationStubs.Datum.Decode
import OperationStubs.Text.Split
import OperationStubs.Toml.Document
/-! Reading a document as something definite, and telling why that failed. -/
namespace OperationStubs.Toml

inductive ReadError where
  /-- The text is no document. -/
  | notWellFormed
  /-- The document does not have the shape that was asked for. -/
  | unexpected (error : DecodeError)
  deriving DecidableEq, Repr

def read {α : Type} (decode : Datum → Except DecodeError α) (text : String) :
    Except ReadError α :=
  match parse? text with
  | none => .error .notWellFormed
  | some d =>
    match decode d with
    | .ok a => .ok a
    | .error e => .error (.unexpected e)

theorem read_eq_ok {α : Type} {decode : Datum → Except DecodeError α} {text : String} {a : α} :
    read decode text = .ok a ↔ ∃ d, parse? text = some d ∧ decode d = .ok a := by
  unfold read
  cases parse? text with
  | none => simp
  | some d => cases decoded : decode d <;> simp [decoded]

/-- Where a byte stands: the number of its line, what of the line comes before it, and the line. -/
structure Place where
  line : Nat
  before : List Char
  content : List Char

/-- The place of the byte at `offset` in some lines. -/
def placeIn (number offset : Nat) : List (List Char) → Place
  | [] => ⟨number, [], []⟩
  | line :: rest =>
    let size := (String.ofList line).utf8ByteSize
    if offset ≤ size || rest.isEmpty then ⟨number, upTo offset line, line⟩
    else placeIn (number + 1) (offset - size - 1) rest
where
  upTo (offset : Nat) : List Char → List Char
    | [] => []
    | c :: cs => if offset < c.utf8Size then [] else c :: upTo (offset - c.utf8Size) cs

def blank (n : Nat) : String := "".pushn ' ' n

/-- The line of a document that `span` begins in, with marks under it, and the message. -/
def excerpt (text : String) (span : Span) (message : String) : String :=
  let place := placeIn 1 span.start (Text.pieces '\n' text.toList)
  let column := place.before.length
  let number := toString place.line
  let gutter := blank (number.length + 1) ++ "|"
  let size := (String.ofList place.content).utf8ByteSize
  let marks := max 1 (min (span.stop - span.start) size)
  "TOML parse error at line " ++ number ++ ", column " ++ toString (column + 1) ++ "\n" ++
    gutter ++ "\n" ++
    number ++ " | " ++ String.ofList place.content ++ "\n" ++
    gutter ++ blank (column + 1) ++ "".pushn '^' marks ++ "\n" ++
    message ++ "\n"

/-- What the user is told. -/
def ReadError.text (document : String) : ReadError → String
  | .notWellFormed => "TOML parse error\n"
  | .unexpected e =>
    match e.span with
    | some span => excerpt document span e.problem.message
    | none => e.problem.message ++ "\n"

end OperationStubs.Toml
