import OperationStubs.Log
/-! Options of a run. -/
namespace OperationStubs

structure Options where
  /-- Stands before the timestamp in the first line of every file. -/
  headerMarker : String := "Code generated by opgen. Do not edit."
  /-- One level of indentation. -/
  indent : String := "  "
  /-- The directory that generated files go to. -/
  outputPath : String := "generated"
  verbosity : Verbosity := .info
  deriving DecidableEq, Repr

end OperationStubs
