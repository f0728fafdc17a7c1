import OperationStubs.Run
import Std.Time.Zoned
/-! The program on the real file system. -/

namespace OperationStubs.Main

/-- What an operating system error is to the program. -/
def faultOf : IO.Error → Fault
  | .noFileOrDirectory .. => Fault.notFound
  | .alreadyExists .. => Fault.fileExists
  | .permissionDenied _ code _ => Fault.system .permissionDenied "Permission denied" code.toNat
  | .invalidArgument _ code details =>
    if code == 36 then Fault.nameTooLong else Fault.system .invalidInput details code.toNat
  | .inappropriateType _ code _ =>
    if code == 21 then Fault.isADirectory else Fault.notADirectory
  | error => ⟨.other, toString error⟩

def caught {α : Type} (action : IO α) : IO (Except Fault α) := do
  match ← action.toBaseIO with
  | .ok a => return .ok a
  | .error error => return .error (faultOf error)

def realFiles : FileSystem IO IO.FS.Handle where
  makeDirs path := if path == "" then return .ok () else caught (IO.FS.createDirAll path)
  create path := caught (IO.FS.Handle.mk path .write)
  write file bytes := caught do
    file.write ⟨bytes.toArray⟩
    file.flush
  remove path := caught (IO.FS.removeFile path)
  read path := caught do
    return (← IO.FS.readBinFile path).toList

def now : IO Timestamp := do
  let t ← Std.Time.PlainDateTime.now
  let time := Timestamp.ofParts? t.year.toInt t.month.toNat t.day.toNat t.hour.toNat
    t.minute.toNat t.second.toNat 0
  return time.getD ⟨1970, 1, 1, 0, 0, 0⟩

def run (arguments : List String) : IO UInt32 := do
  let outcome ← Run.ofArguments realFiles now arguments
  for record in outcome.log do
    IO.eprintln ("[" ++ record.level.word ++ "] " ++ record.message)
  IO.eprint outcome.diagnostics
  IO.print outcome.stdout
  return outcome.exitCode.toUInt32

end OperationStubs.Main

def main (arguments : List String) : IO UInt32 :=
  OperationStubs.Main.run arguments
