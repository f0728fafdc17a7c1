import OperationStubs.Decimal
import OperationStubs.Text.Quoted
/-! Data as documents hold it, with the places it was read from. -/
namespace OperationStubs

/-- A stretch of a document, in bytes. -/
structure Span where
  start : Nat
  stop : Nat
  deriving DecidableEq, Repr

structure Key where
  text : String
  span : Option Span
  deriving DecidableEq, Repr

inductive Scalar where
  | null
  | boolean (value : Bool)
  | integer (value : Int)
  | float (value : Float)
  | text (value : String)

/-- What a table was written as. -/
inductive TableForm where
  /-- Under a header of its own. -/
  | header
  /-- Only as part of the headers of other tables. -/
  | implied
  /-- By dotted keys. -/
  | dotted
  /-- Between braces. -/
  | inline
  /-- By dotted keys between braces. -/
  | inlineDotted
  /-- A date or time, which readers meet as a table with one reserved key. -/
  | date
  deriving DecidableEq, Repr

inductive Datum where
  | scalar (value : Scalar) (span : Option Span)
  | list (items : List Datum) (span : Option Span)
  /-- Tables that repeat one header. -/
  | tables (items : List Datum)
  | table (form : TableForm) (entries : List (Key × Datum)) (span : Option Span)
  deriving Inhabited

namespace Datum

/-- Where a datum stands. Tables that no header begins have no place. -/
def span : Datum → Option Span
  | .scalar _ span => span
  | .list _ span => span
  | .tables items =>
    match items.head?, items.getLast? with
    | some (.table _ _ (some first)), some (.table _ _ (some last)) =>
      some ⟨first.start, last.stop⟩
    | _, _ => none
  | .table _ _ span => span

/-- What messages call a datum that should have been something else. -/
def what : Datum → String
  | .scalar .null _ => "null"
  | .scalar (.boolean b) _ => "boolean `" ++ (if b then "true" else "false") ++ "`"
  | .scalar (.integer n) _ => "integer `" ++ toString n ++ "`"
  | .scalar (.float x) _ => "floating point `" ++ Decimal.text x ++ "`"
  | .scalar (.text s) _ => "string " ++ Text.quoted s
  | .list .. | .tables .. => "sequence"
  | .table .. => "map"

/-- What a datum is written as. -/
def kind : Datum → String
  | .scalar .null _ => "null"
  | .scalar (.boolean _) _ => "boolean"
  | .scalar (.integer _) _ => "integer"
  | .scalar (.float _) _ => "float"
  | .scalar (.text _) _ => "string"
  | .list .. => "array"
  | .tables .. => "array of tables"
  | .table .inline .. | .table .inlineDotted .. => "inline table"
  | .table .date .. => "datetime"
  | .table .. => "table"

/-- The key under which readers meet a date. -/
def dateKey : String := "$__toml_private_datetime"

def date (text : String) (span : Option Span) : Datum :=
  .table .date [(⟨dateKey, none⟩, .scalar (.text text) none)] span

end Datum
end OperationStubs
