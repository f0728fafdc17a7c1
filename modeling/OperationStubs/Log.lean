/-! What a run logs. -/
namespace OperationStubs

inductive LogLevel where
  | error | warn | info | debug | trace
  deriving DecidableEq, Repr

structure LogRecord where
  level : LogLevel
  message : String
  deriving DecidableEq, Repr

/-- How much of the log is shown. -/
inductive Verbosity where
  | off | error | warn | info | debug | trace
  deriving DecidableEq, Repr

namespace Verbosity

def all : List Verbosity := [.off, .error, .warn, .info, .debug, .trace]

def word : Verbosity → String
  | .off => "OFF"
  | .error => "ERROR"
  | .warn => "WARN"
  | .info => "INFO"
  | .debug => "DEBUG"
  | .trace => "TRACE"

def words : List String := all.map word

/-- The verbosity a word stands for, in any case. -/
def ofWord? (w : String) : Option Verbosity :=
  all.find? fun v => v.word.toList == w.toList.map Char.toUpper

/-- A verbosity shows its own level and everything more urgent. -/
def shows (v : Verbosity) (level : LogLevel) : Bool :=
  rank level ≤ reach v
where
  rank : LogLevel → Nat
    | .error => 1
    | .warn => 2
    | .info => 3
    | .debug => 4
    | .trace => 5
  reach : Verbosity → Nat
    | .off => 0
    | .error => 1
    | .warn => 2
    | .info => 3
    | .debug => 4
    | .trace => 5

end Verbosity

def LogLevel.word : LogLevel → String
  | .error => "ERROR"
  | .warn => "WARN"
  | .info => "INFO"
  | .debug => "DEBUG"
  | .trace => "TRACE"

end OperationStubs
