import OperationStubs.Stub.Loader
import OperationStubs.Stub.Operator
/-! The classes of a manifest. -/
namespace OperationStubs.Manifest

/-- Loader and operator of each type, in the order of the types. -/
def generators (manifest : Manifest) : List Generator :=
  manifest.types.flatMap fun type => [Loader.generator type, Operator.generator type]

end OperationStubs.Manifest
