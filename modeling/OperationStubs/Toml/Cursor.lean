/-! Walking through a document. -/
namespace OperationStubs.Toml

/-- What is left of a document, and how many bytes lie before it. -/
structure Cursor where
  rest : List Char
  offset : Nat

/-- A step through a document. It fails where the document is not well formed. -/
abbrev Reader := StateT Cursor Option

namespace Reader

variable {α : Type}

def fail : Reader α := fun _ => none

def next : Reader Char := fun c =>
  match c.rest with
  | [] => none
  | x :: rest => some (x, ⟨rest, c.offset + x.utf8Size⟩)

/-- The next character, which stays. -/
def peek : Reader (Option Char) := fun c => some (c.rest.head?, c)

def position : Reader Nat := fun c => some (c.offset, c)

/-- Enough steps for any loop that takes a character in each. -/
def steps : Reader Nat := fun c => some (c.rest.length + 1, c)

def atEnd : Reader Bool := fun c => some (c.rest.isEmpty, c)

/-- Passes over `text` if it comes next, and says whether it did. -/
def skip (text : String) : Reader Bool := fun c =>
  if text.toList.isPrefixOf c.rest then
    some (true, ⟨c.rest.drop text.length, c.offset + text.utf8ByteSize⟩)
  else some (false, c)

def expect (text : String) : Reader Unit := do
  if !(← skip text) then fail

def takeWhile (p : Char → Bool) : Reader (List Char) := fun c =>
  let taken := c.rest.takeWhile p
  some (taken, ⟨c.rest.dropWhile p, c.offset + (String.ofList taken).utf8ByteSize⟩)

def one (p : Char → Bool) : Reader Char := do
  let c ← next
  if p c then return c else fail

/-- Exactly `n` characters. -/
def exactly (n : Nat) (p : Char → Bool) : Reader (List Char) :=
  (List.range n).mapM fun _ => one p

/-- Steps back if `r` fails. -/
def attempt (r : Reader α) : Reader (Option α) := fun c =>
  match r c with
  | some (a, c) => some (some a, c)
  | none => some (none, c)

end Reader
end OperationStubs.Toml
