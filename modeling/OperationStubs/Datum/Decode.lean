import OperationStubs.Datum
/-! Reading data as something more definite. The first problem in document order is the one told. -/
namespace OperationStubs

inductive Problem where
  | unknownField (name : String) (expected : List String)
  | missingField (name : String)
  | unknownVariant (name : String) (expected : List String)
  | invalidType (what want : String)
  | invalidValue (what want : String)
  | invalidLength (length : Nat) (want : String)
  | noVariant
  | manyVariants
  | noStringOrTable
  | filledVariant
  | noTable (kind : String)
  deriving DecidableEq, Repr

namespace Problem

def inTicks (name : String) : String := "`" ++ name ++ "`"

def choice : List String → String
  | [] => "no fields"
  | [a] => inTicks a
  | [a, b] => inTicks a ++ " or " ++ inTicks b
  | names => "one of " ++ ", ".intercalate (names.map inTicks)

def message : Problem → String
  | .unknownField name expected =>
    "unknown field " ++ inTicks name ++ ", expected " ++ choice expected
  | .missingField name => "missing field " ++ inTicks name
  | .unknownVariant name expected =>
    "unknown variant " ++ inTicks name ++ ", expected " ++ choice expected
  | .invalidType what want => "invalid type: " ++ what ++ ", expected " ++ want
  | .invalidValue what want => "invalid value: " ++ what ++ ", expected " ++ want
  | .invalidLength length want => "invalid length " ++ toString length ++ ", expected " ++ want
  | .noVariant => "wanted exactly 1 element, found 0 elements"
  | .manyVariants => "wanted exactly 1 element, more than 1 element"
  | .noStringOrTable => "wanted string or table"
  | .filledVariant => "expected empty table"
  | .noTable kind => "expected table, found " ++ kind

end Problem

/-- A problem, and the part of the document it is about if that is known. -/
structure DecodeError where
  problem : Problem
  span : Option Span := none
  deriving DecidableEq, Repr

namespace Decode

variable {α β : Type}

/-- A problem whose place is not known yet is in `span`. -/
def within (span : Option Span) : Except DecodeError α → Except DecodeError α
  | .ok a => .ok a
  | .error e => .error { e with span := e.span <|> span }

theorem bind_eq_ok {read : Except DecodeError α} {next : α → Except DecodeError β} {b : β} :
    read >>= next = .ok b ↔ ∃ a, read = .ok a ∧ next a = .ok b := by
  constructor
  · intro ok
    cases read with
    | error error => cases ok
    | ok a => exact ⟨a, rfl, ok⟩
  · rintro ⟨a, rfl, ok⟩
    exact ok

theorem within_eq_ok {span : Option Span} {read : Except DecodeError α} {a : α} :
    within span read = .ok a ↔ read = .ok a := by
  cases read <;> simp [within]

def string : Datum → Except DecodeError String
  | .scalar (.text s) _ => .ok s
  | d => .error { problem := .invalidType d.what "a string" }

def items? : Datum → Option (List Datum)
  | .list items _ => some items
  | .tables items => some items
  | _ => none

def sequence (read : Datum → Except DecodeError α) (d : Datum) : Except DecodeError (List α) :=
  match items? d with
  | some items => items.mapM fun item => within item.span (read item)
  | none => .error { problem := .invalidType d.what "a sequence" }

/-- One of some names: as text, or as the only key of a table with an empty table under it. -/
def variant (pick : String → Option α) (expected : List String) : Datum → Except DecodeError α
  | .scalar (.text s) _ => choose s none
  | .table .date .. => .error { problem := .noStringOrTable }
  | .table _ [] _ => .error { problem := .noVariant }
  | .table _ [(key, value)] _ => do
    let a ← choose key.text key.span
    within value.span (empty value)
    return a
  | .table .. => .error { problem := .manyVariants }
  | _ => .error { problem := .noStringOrTable }
where
  choose (s : String) (span : Option Span) : Except DecodeError α :=
    match pick s with
    | some a => .ok a
    | none => .error { problem := .unknownVariant s expected, span }
  empty : Datum → Except DecodeError Unit
    | d@(.table .date ..) => .error { problem := .noTable d.kind }
    | .table _ [] _ => .ok ()
    | .table .. => .error { problem := .filledVariant }
    | d => .error { problem := .noTable d.kind }

/-- A field of a record and what its value changes in the record read so far. -/
structure Field (α : Type) where
  name : String
  /-- Whether a table must have the field. -/
  needed : Bool
  /-- Whether a record written as a list must have the field. -/
  neededInList : Bool
  read : Datum → α → Except DecodeError α

/-- A record, written as a table of its fields or as a list of them in order. -/
structure Record (α : Type) where
  name : String
  fields : List (Field α)
  /-- The record before any of its fields is read. -/
  start : α
  /-- Whether other fields are refused. -/
  closed : Bool

namespace Record

def fieldNames (r : Record α) : List String := r.fields.map (·.name)

/-- Reads the field under one key. -/
def entry (r : Record α) (a : α) (e : Key × Datum) : Except DecodeError α :=
  match r.fields.find? fun f => f.name == e.1.text with
  | some field => within (e.2.span <|> e.1.span) (field.read e.2 a)
  | none =>
    if r.closed then .error ⟨.unknownField e.1.text r.fieldNames, e.1.span⟩ else .ok a

/-- The first field that a table with these keys lacks. -/
def missing? (r : Record α) (keys : List String) : Option (Field α) :=
  r.fields.find? fun f => f.needed && !keys.contains f.name

def ofEntries (r : Record α) (entries : List (Key × Datum)) : Except DecodeError α := do
  let a ← entries.foldlM r.entry r.start
  match r.missing? (entries.map fun e => e.1.text) with
  | some field => .error { problem := .missingField field.name }
  | none => return a

/-- Reads one field after the other. Items left over are ignored. -/
def ofItems (r : Record α) : Nat → List (Field α) → List Datum → α → Except DecodeError α
  | _, [], _, a => .ok a
  | i, field :: fields, item :: items, a => do
    let a ← within item.span (field.read item a)
    r.ofItems (i + 1) fields items a
  | i, field :: fields, [], a =>
    if field.neededInList then
      .error { problem := .invalidLength i ("struct " ++ r.name ++ " with " ++
        toString r.fields.length ++ if r.fields.length == 1 then " element" else " elements") }
    else r.ofItems (i + 1) fields [] a

def decode (r : Record α) (d : Datum) : Except DecodeError α :=
  match d with
  | .table _ entries _ => r.ofEntries entries
  | .list items _ | .tables items => r.ofItems 0 r.fields items r.start
  | d => .error { problem := .invalidType d.what ("struct " ++ r.name) }

end Record
end Decode
end OperationStubs
