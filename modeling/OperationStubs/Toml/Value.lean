import OperationStubs.Toml.Number
/-! Values and keys. -/
namespace OperationStubs.Toml

open Reader

/-- Parts of a key and nested values are refused from this number on. -/
def maxDepth : Nat := 128

def isBare (c : Char) : Bool :=
  c.isAlphanum || c == '_' || c == '-'

def spanned {α : Type} (r : Reader α) : Reader (α × Span) := do
  let start ← position
  let a ← r
  return (a, ⟨start, ← position⟩)

def simpleKey : Reader Key := do
  let (text, span) ← spanned do
    match ← peek with
    | some '"' | some '\'' => quotedText
    | _ =>
      let text ← takeWhile isBare
      if text.isEmpty then fail else return String.ofList text
  return ⟨text, some span⟩

def keyParts : Nat → Reader (List Key)
  | 0 => fail
  | n + 1 => do
    blanks
    let key ← simpleKey
    blanks
    if ← skip "." then return key :: (← keyParts n) else return [key]

/-- A key: what leads to its table, and its last part. -/
def key : Reader (List Key × Key) := do
  let parts ← keyParts (maxDepth - 1)
  match parts.getLast? with
  | some last => return (parts.dropLast, last)
  | none => fail

/-- Changes the entry of a name. -/
def modifyEntry (name : String) (change : Datum → Option Datum) :
    List (Key × Datum) → Option (List (Key × Datum))
  | [] => none
  | e :: entries =>
    if e.1.text == name then do return (e.1, ← change e.2) :: entries
    else do return e :: (← modifyEntry name change entries)

def valueAt? (name : String) (entries : List (Key × Datum)) : Option Datum :=
  (entries.find? fun e => e.1.text == name).map (·.2)

/-- Changes the table that a path leads to. The path enters the tables that `enter` allows and the
last table of a row, and tables that are not there yet come about as `fresh`. -/
def changeAt (enter : TableForm → Bool) (fresh : TableForm) (change : Datum → Option Datum) :
    List Key → Datum → Option Datum
  | [], d => change d
  | key :: path, .table form entries span => do
    let descend := changeAt enter fresh change path
    let entries ← match valueAt? key.text entries with
      | none => do pure (entries ++ [(key, ← descend (.table fresh [] none))])
      | some _ => modifyEntry key.text (fun child =>
          match child with
          | .table childForm .. => if enter childForm then descend child else none
          | .tables items => do
            let last ← items.getLast?
            return .tables (items.dropLast ++ [← descend last])
          | _ => none) entries
    return .table form entries span
  | _ :: _, _ => none

/-- Adds an entry that is not there yet. -/
def addEntry (key : Key) (value : Datum) : Datum → Option Datum
  | .table form entries span =>
    if (valueAt? key.text entries).isSome then none
    else some (.table form (entries ++ [(key, value)]) span)
  | _ => none

/-- The table between braces that holds some keys and values. -/
def inlineTable (pairs : List ((List Key × Key) × Datum)) : Option Datum :=
  pairs.foldlM (fun table ((path, key), value) =>
    changeAt (· == .inlineDotted) .inlineDotted (addEntry key value) path table)
    (.table .inline [] none)

def keyValue (value : Reader Datum) : Reader ((List Key × Key) × Datum) := do
  let k ← key
  expect "="
  blanks
  let v ← value
  blanks
  return (k, v)

/-- Items of an array up to its end. A comma may follow the last. -/
def items (item : Reader Datum) : Nat → Reader (List Datum)
  | 0 => fail
  | n + 1 => do
    filler (← steps)
    if ← skip "]" then return []
    else
      let first ← item
      filler (← steps)
      if ← skip "," then return first :: (← items item n)
      else
        expect "]"
        return [first]

/-- Keys and values up to the end of an inline table. No comma may follow the last. -/
def pairs (pair : Reader ((List Key × Key) × Datum)) :
    Nat → Reader (List ((List Key × Key) × Datum))
  | 0 => fail
  | n + 1 => do
    let first ← pair
    if ← skip "," then return first :: (← pairs pair n)
    else
      expect "\x7d"
      return [first]

def withSpan (span : Span) : Datum → Datum
  | .scalar value _ => .scalar value (some span)
  | .list items _ => .list items (some span)
  | .table form entries _ => .table form entries (some span)
  | .tables items => .tables items

def scalar (value : Scalar) : Datum := .scalar value none

/-- A value with at most `depth` levels of arrays and tables in it. -/
def value (depth : Nat) : Reader Datum := do
  let (d, span) ← spanned do
    match ← peek with
    | some '"' | some '\'' => return scalar (.text (← anyText))
    | some '[' =>
      expect "["
      match depth with
      | 0 => fail
      | depth + 1 => return .list (← items (value depth) (← steps)) none
    | some '\x7b' =>
      expect "\x7b"
      match depth with
      | 0 => fail
      | depth + 1 =>
        blanks
        let all ← if ← skip "\x7d" then pure []
          else pairs (keyValue (value depth)) (← steps)
        match inlineTable all with
        | some table => return table
        | none => fail
    | some 't' =>
      expect "true"
      return scalar (.boolean true)
    | some 'f' =>
      expect "false"
      return scalar (.boolean false)
    | _ =>
      if ← date? then return .date "" none else return scalar (← number)
  return withSpan span d

end OperationStubs.Toml
