/-! Cutting texts at a character. -/
namespace OperationStubs.Text

/-- What stands before and after the last `c`, if there is one. -/
def cutLast (c : Char) : List Char → Option (List Char × List Char)
  | [] => none
  | x :: xs =>
    match cutLast c xs with
    | some (before, after) => some (x :: before, after)
    | none => if x = c then some ([], xs) else none

theorem eq_append_of_cutLast {c : Char} {xs before after : List Char}
    (h : cutLast c xs = some (before, after)) : xs = before ++ c :: after := by
  fun_induction cutLast c xs generalizing before after <;> grind

/-- The pieces between the occurrences of `c`: always one more than there are occurrences. -/
def pieces (c : Char) : List Char → List (List Char)
  | [] => [[]]
  | x :: xs =>
    if x = c then [] :: pieces c xs
    else
      match pieces c xs with
      | piece :: rest => (x :: piece) :: rest
      | [] => [[x]]

/-- What follows `start`, if the text begins with it. -/
def after? (start : List Char) (text : List Char) : Option (List Char) :=
  match start, text with
  | [], text => some text
  | _ :: _, [] => none
  | a :: start, b :: text => if a = b then after? start text else none

/-- Ends a line at each newline, together with a carriage return right before it. Nothing follows a
final newline, and a carriage return with no newline after it stays. -/
def lineList (text : List Char) : List (List Char) :=
  match pieces '\n' text with
  | [] => []
  | piece :: rest => go piece rest
where
  go (piece : List Char) : List (List Char) → List (List Char)
    | [] => if piece = [] then [] else [piece]
    | next :: rest => dropReturn piece :: go next rest
  dropReturn (line : List Char) : List Char :=
    if line.getLast? = some '\r' then line.dropLast else line

/-- The lines of a text. -/
def lines (text : String) : List String :=
  (lineList text.toList).map String.ofList

end OperationStubs.Text
