import OperationStubs.Datum.Decode
import OperationStubs.Java.Modifier
import OperationStubs.Method
/-! Method keys and modifiers as JSON. -/
namespace OperationStubs

namespace MethodKey

open Decode in
def record : Record MethodKey where
  name := "MethodKey"
  fields := [
    ⟨"declaring_type", true, true, fun d key => return { key with declaringType := ← string d }⟩,
    ⟨"name", true, true, fun d key => return { key with name := ← string d }⟩,
    ⟨"parameter_types", true, true, fun d key =>
      return { key with parameterTypes := ← sequence string d }⟩]
  start := ⟨"", "", []⟩
  closed := false

/-- Reads a key. Fields that a key does not have are ignored in an object and refused in a list. -/
def ofJson (d : Datum) : Except DecodeError MethodKey := do
  let key ← record.decode d
  match d with
  | .list items _ =>
    if record.fields.length < items.length then
      .error { problem := .invalidLength items.length "fewer elements in array" }
    else return key
  | _ => return key

def toJson (key : MethodKey) : Datum :=
  .table .inline [
    (⟨"declaring_type", none⟩, .scalar (.text key.declaringType) none),
    (⟨"name", none⟩, .scalar (.text key.name) none),
    (⟨"parameter_types", none⟩,
      .list (key.parameterTypes.map fun type => .scalar (.text type) none) none)] none

end MethodKey

namespace Modifier

/-- Reads a modifier: its word, or an object with the word as its only key and nothing under it. -/
def ofJson : Datum → Except DecodeError Modifier
  | .scalar (.text s) _ => choose s
  | .table _ [(key, value)] _ => do
    let m ← choose key.text
    match value with
    | .scalar .null _ => return m
    | d => .error { problem := .invalidType d.what "unit" }
  | .table .. => .error { problem := .invalidValue "map" "map with a single key" }
  | d => .error { problem := .invalidType d.what "string or map" }
where
  choose (s : String) : Except DecodeError Modifier :=
    match ofWord? s with
    | some m => .ok m
    | none => .error { problem := .unknownVariant s words }

def toJson (m : Modifier) : Datum :=
  .scalar (.text m.word) none

end Modifier
end OperationStubs
