/-! Points in time, as the header comment shows them. -/
namespace OperationStubs

/-- A date and time of day to the second. In a leap second the second is 60. -/
structure Timestamp where
  year : Int
  month : Nat
  day : Nat
  hour : Nat
  minute : Nat
  second : Nat
  deriving DecidableEq, Repr

namespace Timestamp

def isLeapYear (year : Int) : Bool :=
  year % 4 == 0 && (year % 100 != 0 || year % 400 == 0)

def daysIn (year : Int) (month : Nat) : Nat :=
  if month == 2 then if isLeapYear year then 29 else 28
  else if [4, 6, 9, 11].contains month then 30
  else if 1 ≤ month && month ≤ 12 then 31
  else 0

/-- The timestamp of a calendar date and a time of day, if both exist. A second billion of
nanoseconds is a leap second, which only second 59 can have. -/
def ofParts? (year : Int) (month day hour minute second nanosecond : Nat) : Option Timestamp :=
  if -262143 ≤ year && year ≤ 262142 && 1 ≤ day && day ≤ daysIn year month
      && hour < 24 && minute < 60 && second < 60
      && (nanosecond < 1000000000 || (second == 59 && nanosecond < 2000000000)) then
    some ⟨year, month, day, hour, minute, second + nanosecond / 1000000000⟩
  else none

/-- At least `width` digits, zeros in front. -/
def padded (width n : Nat) : String :=
  let digits := toString n
  "".pushn '0' (width - digits.length) ++ digits

/-- Four digits. A year that needs more or lies before year zero has a sign. -/
def yearText (year : Int) : String :=
  if 0 ≤ year && year ≤ 9999 then padded 4 year.natAbs
  else (if year < 0 then "-" else "+") ++ padded 4 year.natAbs

def text (t : Timestamp) : String :=
  yearText t.year ++ "-" ++ padded 2 t.month ++ "-" ++ padded 2 t.day ++ " " ++
    padded 2 t.hour ++ ":" ++ padded 2 t.minute ++ ":" ++ padded 2 t.second

end Timestamp
end OperationStubs
