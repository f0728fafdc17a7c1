import OperationStubs.Toml.Cursor
/-! Blanks, line ends, comments and quoted texts. -/
namespace OperationStubs.Toml

open Reader

def isBlank (c : Char) : Bool := c == ' ' || c == '\t'

/-- What comments and literal texts may hold. -/
def isPrintable (c : Char) : Bool :=
  c == '\t' || (0x20 ≤ c.toNat && c.toNat ≤ 0x7E) || 0x80 ≤ c.toNat

def blanks : Reader Unit := do
  let _ ← takeWhile isBlank

def newline : Reader Bool := do
  if ← skip "\n" then return true else skip "\r\n"

def comment : Reader Unit := do
  if ← skip "#" then
    let _ ← takeWhile isPrintable

/-- The rest of a line: nothing but blanks and a comment. -/
def lineEnd : Reader Unit := do
  blanks
  comment
  if !(← newline) then
    if !(← atEnd) then fail

/-- Passes over blanks, comments and line ends. -/
def filler : Nat → Reader Unit
  | 0 => return
  | n + 1 => do
    blanks
    comment
    if ← newline then filler n

def isHexDigit (c : Char) : Bool :=
  c.isDigit || ('a' ≤ c && c ≤ 'f') || ('A' ≤ c && c ≤ 'F')

def digitValue (c : Char) : Nat :=
  if c.isDigit then c.toNat - '0'.toNat
  else if 'a' ≤ c then c.toNat - 'a'.toNat + 10
  else c.toNat - 'A'.toNat + 10

def valueOf (base : Nat) (digits : List Char) : Nat :=
  digits.foldl (fun n c => base * n + digitValue c) 0

def codePoint (digits : Nat) : Reader Char := do
  let code := valueOf 16 (← exactly digits isHexDigit)
  if code.isValidChar then return Char.ofNat code else fail

/-- The character that an escape stands for. The backslash is already read. -/
def escaped : Reader Char := do
  match ← next with
  | 'b' => return '\x08'
  | 't' => return '\t'
  | 'n' => return '\n'
  | 'f' => return '\x0c'
  | 'r' => return '\r'
  | '"' => return '"'
  | '\\' => return '\\'
  | 'u' => codePoint 4
  | 'U' => codePoint 8
  | _ => fail

/-- A text up to the next `"`, in one line. -/
def basicBody : Nat → Array Char → Reader String
  | 0, _ => fail
  | n + 1, text => do
    let c ← one isPrintable
    if c == '"' then return String.ofList text.toList
    else if c == '\\' then basicBody n (text.push (← escaped))
    else basicBody n (text.push c)

def literalBody : Reader String := do
  let text ← takeWhile fun c => isPrintable c && c != '\''
  expect "'"
  return String.ofList text

/-- The quotes that come next: none to two are text, more end the text and only three of them do
not belong to it. -/
def quotes (quote : Char) : Reader (List Char × Bool) := do
  let run ← takeWhile (· == quote)
  if run.length < 3 then return (run, false)
  else if run.length ≤ 5 then return (run.drop 3, true)
  else fail

def skipLines : Nat → Reader Unit
  | 0 => return
  | n + 1 => do
    blanks
    if ← newline then skipLines n

/-- A backslash at the end of a line joins it to the next text, wherever that begins. -/
def joinLines : Reader Bool := do
  let joined ← attempt do
    blanks
    if ← newline then skipLines (← steps) else fail
  return joined.isSome

/-- A text of several lines. All line ends in it become newlines. -/
def multiLineBody (quote : Char) : Nat → Array Char → Reader String
  | 0, _ => fail
  | n + 1, text => do
    let (more, ended) ← quotes quote
    let text := text ++ more
    if ended then return String.ofList text.toList
    else if ← newline then multiLineBody quote n (text.push '\n')
    else
      let c ← one isPrintable
      if c == '\\' && quote == '"' then
        if ← joinLines then multiLineBody quote n text
        else multiLineBody quote n (text.push (← escaped))
      else multiLineBody quote n (text.push c)

/-- A quoted text of one line. -/
def quotedText : Reader String := do
  if ← skip "\"" then basicBody (← steps) #[]
  else
    expect "'"
    literalBody

/-- Any quoted text. A line end right after the opening quotes does not belong to it. -/
def anyText : Reader String := do
  if ← skip "\"\"\"" then
    let _ ← newline
    multiLineBody '"' (← steps) #[]
  else if ← skip "'''" then
    let _ ← newline
    multiLineBody '\'' (← steps) #[]
  else quotedText

end OperationStubs.Toml
