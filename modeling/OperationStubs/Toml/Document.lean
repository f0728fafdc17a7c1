import OperationStubs.Toml.Value
/-! Whole documents. -/
namespace OperationStubs.Toml

open Reader

/-- A document as read so far, and the table that keys go to. -/
structure Draft where
  root : Datum
  current : List Key

def Draft.empty : Draft := ⟨.table .header [] (some ⟨0, 0⟩), []⟩

/-- Headers lead through all tables but those between braces. -/
def headerEnters : TableForm → Bool
  | .header | .implied | .dotted => true
  | _ => false

/-- Dotted keys lead only through tables that have no header. -/
def keyEnters : TableForm → Bool
  | .implied | .dotted => true
  | _ => false

/-- Dotted keys fill only tables that dotted keys made. -/
def addDotted (isDotted : Bool) (key : Key) (value : Datum) (table : Datum) : Option Datum :=
  match table with
  | .table form .. => if (form == .dotted) == isDotted then addEntry key value table else none
  | _ => none

/-- A table reaches to the end of its last value. -/
def extendTo (value : Datum) : Datum → Datum
  | .table form entries (some span) =>
    .table form entries (some ⟨span.start, ((value.span.map (·.stop)).getD span.stop)⟩)
  | d => d

def Draft.addValue (draft : Draft) (path : List Key) (key : Key) (value : Datum) :
    Option Draft := do
  let add (table : Datum) : Option Datum :=
    changeAt keyEnters .dotted (addDotted (!path.isEmpty) key value) path (extendTo value table)
  return { draft with root := ← changeAt headerEnters .implied add draft.current draft.root }

/-- Begins a table. It must be new, or known only from the headers of tables within it. -/
def beginTable (key : Key) (span : Span) : Datum → Option Datum
  | .table form entries parentSpan =>
    match valueAt? key.text entries with
    | none => some (.table form (entries ++ [(key, .table .header [] (some span))]) parentSpan)
    | some (.table .implied inner _) =>
      let others := entries.filter fun e => e.1.text != key.text
      some (.table form (others ++ [(key, .table .header inner (some span))]) parentSpan)
    | some _ => none
  | _ => none

/-- Begins the next table of a row. -/
def beginItem (key : Key) (span : Span) : Datum → Option Datum
  | .table form entries parentSpan =>
    let item := Datum.table .header [] (some span)
    match valueAt? key.text entries with
    | none => some (.table form (entries ++ [(key, .tables [item])]) parentSpan)
    | some (.tables _) => do
      let entries ← modifyEntry key.text (fun d =>
        match d with
        | .tables items => some (.tables (items ++ [item]))
        | _ => none) entries
      return .table form entries parentSpan
    | some _ => none
  | _ => none

def Draft.begin (draft : Draft) (isItem : Bool) (path : List Key) (key : Key) (span : Span) :
    Option Draft := do
  let change := if isItem then beginItem key span else beginTable key span
  return ⟨← changeAt headerEnters .implied change path draft.root, path ++ [key]⟩

def ofOption {α : Type} : Option α → Reader α
  | some a => return a
  | none => fail

def header : Reader (Bool × List Key × Key) := do
  if ← skip "[[" then
    let (path, key) ← key
    expect "]]"
    return (true, path, key)
  else
    expect "["
    let (path, key) ← key
    expect "]"
    return (false, path, key)

/-- One line: empty, a header, or a key with its value. -/
def line (draft : Draft) : Reader Draft := do
  blanks
  let draft ← match ← peek with
    | none | some '\n' | some '\r' | some '#' => pure draft
    | some '[' =>
      let ((isItem, path, key), span) ← spanned header
      ofOption (draft.begin isItem path key span)
    | some _ =>
      let ((path, key), value) ← keyValue (value (maxDepth - 1))
      ofOption (draft.addValue path key value)
  lineEnd
  return draft

def lineRow : Nat → Draft → Reader Draft
  | 0, _ => fail
  | n + 1, draft => do
    if ← atEnd then return draft else lineRow n (← line draft)

def document : Reader Datum := do
  let _ ← skip "\ufeff"
  return (← lineRow (← steps) .empty).root

/-- The table that a document stands for, if it is well formed. -/
def parse? (text : String) : Option Datum :=
  (document ⟨text.toList, 0⟩).map (·.1)

end OperationStubs.Toml
