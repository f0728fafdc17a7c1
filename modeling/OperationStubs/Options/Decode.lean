import OperationStubs.Datum.Decode
import OperationStubs.Options
/-! Reading options. What is not given keeps its default. -/
namespace OperationStubs.Options

open Decode

def record : Record Options where
  name := "GeneratorOptions"
  fields := [
    ⟨"header_marker", false, false, fun d o => return { o with headerMarker := ← string d }⟩,
    ⟨"indent", false, false, fun d o => return { o with indent := ← string d }⟩,
    ⟨"output_path", false, false, fun d o => return { o with outputPath := ← string d }⟩,
    ⟨"verbosity_level", false, false, fun d o =>
      return { o with verbosity := ← variant Verbosity.ofWord? Verbosity.words d }⟩]
  start := { }
  closed := true

def decode (d : Datum) : Except DecodeError Options :=
  within d.span (record.decode d)

end OperationStubs.Options
