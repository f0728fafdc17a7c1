import OperationStubs.Datum
import OperationStubs.Toml.Text
/-! Numbers and dates. -/
namespace OperationStubs.Toml

open Reader

def maxInteger : Int := Int64.maxValue.toInt

def minInteger : Int := Int64.minValue.toInt

/-- A row of digits. Single underscores may stand between them. -/
def digitsWith (isDigit : Char → Bool) : Nat → Reader (List Char)
  | 0 => fail
  | n + 1 => do
    let d ← one isDigit
    let more ← if ← skip "_" then digitsWith isDigit n
      else match ← peek with
        | some c => if isDigit c then digitsWith isDigit n else pure []
        | none => pure []
    return d :: more

def digits (isDigit : Char → Bool) : Reader (List Char) := do
  digitsWith isDigit (← steps)

def isNegative : Reader Bool := do
  if ← skip "-" then return true
  else
    let _ ← skip "+"
    return false

/-- Decimal digits without a zero in front. -/
def wholeDigits : Reader (List Char) := do
  if ← skip "0" then return ['0'] else digits Char.isDigit

def integerOf (negative : Bool) (magnitude : Nat) : Reader Scalar := do
  let n : Int := if negative then -magnitude else magnitude
  if minInteger ≤ n && n ≤ maxInteger then return .integer n else fail

def inBase (base : Nat) (isDigit : Char → Bool) : Reader Scalar := do
  integerOf false (valueOf base (← digits isDigit))

/-- The fraction and the exponent of a float, if either is there. -/
def floatTail : Reader (Option (List Char × Int)) := do
  let fraction ← if ← skip "." then some <$> digits Char.isDigit else pure none
  let marked ← if ← skip "e" then pure true else skip "E"
  let exponent : Option Int ← if marked then do
      let negative ← isNegative
      let n : Int := Decimal.natOf (← digits Char.isDigit)
      pure (some (if negative then -n else n))
    else pure none
  match fraction, exponent with
  | none, none => return none
  | fraction, exponent => return some (fraction.getD [], exponent.getD 0)

/-- A number too large for a float is refused, one too small is infinite. -/
def decimal : Reader Scalar := do
  let negative ← isNegative
  if ← skip "inf" then return .float (if negative then -1.0 / 0.0 else 1.0 / 0.0)
  else if ← skip "nan" then return .float (0.0 / 0.0)
  else
    let whole ← wholeDigits
    match ← floatTail with
    | none => integerOf negative (Decimal.natOf whole)
    | some (fraction, exponent) =>
      let x := Decimal.toFloat negative (Decimal.natOf (whole ++ fraction))
        (exponent - fraction.length)
      if x.isInf && !negative then fail else return .float x

def number : Reader Scalar := do
  if ← skip "0x" then inBase 16 isHexDigit
  else if ← skip "0o" then inBase 8 fun c => '0' ≤ c && c ≤ '7'
  else if ← skip "0b" then inBase 2 fun c => c == '0' || c == '1'
  else decimal

def twoDigits (low high : Nat) : Reader Nat := do
  let n := Decimal.natOf (← exactly 2 Char.isDigit)
  if low ≤ n && n ≤ high then return n else fail

def hourAndColon : Reader Unit := do
  let _ ← twoDigits 0 23
  expect ":"

/-- The minutes and seconds of a time of day. -/
def timeTail : Reader Unit := do
  let _ ← twoDigits 0 59
  expect ":"
  let _ ← twoDigits 0 60
  if ← skip "." then
    let _ ← one Char.isDigit
    let _ ← takeWhile Char.isDigit

def offset : Reader Unit := do
  if ← skip "Z" then return
  else if ← skip "z" then return
  else
    let signed ← if ← skip "+" then pure true else skip "-"
    if signed then
      hourAndColon
      let _ ← twoDigits 0 59

def daysIn (year month : Nat) : Nat :=
  if month == 2 then if year % 4 == 0 && (year % 100 != 0 || year % 400 == 0) then 29 else 28
  else if [4, 6, 9, 11].contains month then 30
  else 31

/-- The rest of a date, and the time of day with its offset if that follows. -/
def dateTail (year : Nat) : Reader Unit := do
  let month ← twoDigits 1 12
  expect "-"
  let _ ← twoDigits 1 (daysIn year month)
  let timed ← attempt do
    let _ ← one fun c => c == 'T' || c == 't' || c == ' '
    hourAndColon
  if timed.isSome then
    timeTail
    offset

/-- A date, a time of day or both, if the text begins like one. -/
def date? : Reader Bool := do
  let year ← attempt do
    let year ← exactly 4 Char.isDigit
    expect "-"
    return Decimal.natOf year
  match year with
  | some year =>
    dateTail year
    return true
  | none =>
    if (← attempt hourAndColon).isSome then
      timeTail
      return true
    else return false

end OperationStubs.Toml
