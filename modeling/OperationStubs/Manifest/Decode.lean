import OperationStubs.Datum.Decode
import OperationStubs.Manifest
/-! Reading manifests. No key may occur that the format does not name. -/
namespace OperationStubs

open Decode

def Parameter.record : Record Parameter where
  name := "Parameter"
  fields := [
    ⟨"name", true, true, fun d p => return { p with name := ← string d }⟩,
    ⟨"type", true, true, fun d p => return { p with type := ← string d }⟩]
  start := ⟨"", ""⟩
  closed := true

def OperationMethod.record : Record OperationMethod where
  name := "Method"
  fields := [
    ⟨"name", true, true, fun d m => return { m with name := ← string d }⟩,
    ⟨"parameters", false, false, fun d m =>
      return { m with parameters := ← sequence Parameter.record.decode d }⟩,
    ⟨"returns", false, false, fun d m => return { m with returns := ← string d }⟩]
  start := ⟨"", [], "void"⟩
  closed := true

def Modifier.decode : Datum → Except DecodeError Modifier :=
  variant Modifier.ofWord? Modifier.words

def OperationType.record : Record OperationType where
  name := "OperationType"
  fields := [
    ⟨"name", true, true, fun d t => return { t with name := ← string d }⟩,
    ⟨"package", false, true, fun d t => return { t with package := some (← string d) }⟩,
    ⟨"modifiers", false, false, fun d t =>
      return { t with modifiers := ← sequence Modifier.decode d }⟩,
    ⟨"location", false, true, fun d t => return { t with location := some (← string d) }⟩,
    ⟨"operator_base", false, true, fun d t =>
      return { t with operatorBase := some (← string d) }⟩,
    ⟨"methods", false, false, fun d t =>
      return { t with methods := ← sequence OperationMethod.record.decode d }⟩]
  start := ⟨"", none, [], none, none, []⟩
  closed := true

namespace Manifest

def record : Record Manifest where
  name := "Manifest"
  fields := [
    ⟨"type", false, false, fun d _ =>
      return { types := ← sequence OperationType.record.decode d }⟩]
  start := ⟨[]⟩
  closed := true

def decode (d : Datum) : Except DecodeError Manifest :=
  within d.span (record.decode d)

end Manifest
end OperationStubs
