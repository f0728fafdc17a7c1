import OperationStubs.Main
import OperationStubs.Disk
import OperationStubs.Json
import OperationStubs.Rehearsal
import OperationStubs.Proofs.Bank
import OperationStubs.Proofs.Agreement
import OperationStubs.Proofs.Trace
import OperationStubs.Proofs.SourceTree
import OperationStubs.Proofs.Page
import OperationStubs.Proofs.QualifiedName
import OperationStubs.Proofs.ShortName
import OperationStubs.Proofs.Split
import OperationStubs.Proofs.ConstantName
import OperationStubs.Proofs.Path
import OperationStubs.Proofs.ClassName
import OperationStubs.Proofs.Directories
import OperationStubs.Proofs.ClassFile
import OperationStubs.Proofs.WholeRun
import OperationStubs.Proofs.FullDisk
import OperationStubs.Proofs.ByteOrder
import OperationStubs.Proofs.Transcript
import OperationStubs.Proofs.CompilationUnit
import OperationStubs.Proofs.Rerun
import OperationStubs.Proofs.Batch
import OperationStubs.Proofs.Operations
import OperationStubs.Proofs.Place
import OperationStubs.Proofs.Sequence
import OperationStubs.Proofs.Numbering
import OperationStubs.Proofs.Alike
import OperationStubs.Proofs.Siblings
import OperationStubs.Proofs.Bystander
import OperationStubs.Proofs.OpenFiles
import OperationStubs.Proofs.Ambiguity
import OperationStubs.Proofs.Attempted
import OperationStubs.Proofs.OneLine
import OperationStubs.Proofs.Lines
import OperationStubs.Proofs.ClassLayout
import OperationStubs.Proofs.Notice
import OperationStubs.Proofs.Accounting
import OperationStubs.Proofs.Forwarding
import OperationStubs.Proofs.Landing
import OperationStubs.Proofs.Rows
import OperationStubs.Proofs.Separator
import OperationStubs.Proofs.ShortForm
import OperationStubs.Proofs.Opening
import OperationStubs.Proofs.Adjustment
import OperationStubs.Proofs.DistinctKeys
import OperationStubs.Proofs.Format
import OperationStubs.Proofs.ManifestFormat
import OperationStubs.Proofs.GeneratedName
import OperationStubs.Proofs.Javadoc
