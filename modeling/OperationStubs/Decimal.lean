/-! Floating-point numbers as decimal texts, and back. -/
namespace OperationStubs.Decimal

/-- A positive number `mantissa * 2 ^ exponent` with the numbers that round to it: those within
half a step above it and `below` quarters of a step under it. -/
structure Binary where
  mantissa : Nat
  exponent : Int
  below : Nat

/-- The parts of a finite positive float with these bits. -/
def Binary.ofBits (bits : UInt64) : Binary :=
  let fraction := bits.toNat % Nat.pow 2 52
  let field : Nat := bits.toNat / Nat.pow 2 52 % Nat.pow 2 11
  if field = 0 then ⟨fraction, -1074, 2⟩
  else ⟨Nat.pow 2 52 + fraction, (field : Int) - 1075, if fraction = 0 && field != 1 then 1 else 2⟩

/-- Numerator and denominator of `a * 2 ^ e * 10 ^ s`. -/
def scaled (a : Nat) (e s : Int) : Nat × Nat :=
  (a * Nat.pow 2 e.toNat * Nat.pow 10 s.toNat, Nat.pow 2 (-e).toNat * Nat.pow 10 (-s).toNat)

/-- Whether `digits` on the grid of `10 ^ -s` rounds to the number. The ends of the range belong to
it if the mantissa is even. -/
def Binary.reads (b : Binary) (s : Int) (digits : Nat) : Bool :=
  let (low, unit) := scaled (4 * b.mantissa - b.below) (b.exponent - 2) s
  let (high, _) := scaled (4 * b.mantissa + 2) (b.exponent - 2) s
  let x := digits * unit
  if b.mantissa % 2 == 0 then low ≤ x && x ≤ high else low < x && x < high

/-- The digits on the grid of `10 ^ -s` nearest to the number, if they still read as it. Of two
that are equally near, the greater. -/
def Binary.onGrid? (b : Binary) (s : Int) : Option Nat :=
  let (value, unit) := scaled b.mantissa b.exponent s
  let down := value / unit
  let nearFirst := if 2 * (value % unit) < unit then [down, down + 1] else [down + 1, down]
  nearFirst.find? (b.reads s)

/-- The coarsest grid from `10 ^ -s` on that holds a number which reads as this one. -/
def Binary.search (b : Binary) : Nat → Int → Nat × Int
  | 0, s => (0, s)
  | steps + 1, s =>
    match b.onGrid? s with
    | some digits => (digits, s)
    | none => b.search steps (s + 1)

/-- The fewest digits that read back as the number, and how many of them follow the point. -/
def Binary.shortest (b : Binary) : Nat × Int :=
  b.search 700 (-309)

/-- Digits with the point before the last `places`, and at least one digit on each side. -/
def positional (digits : Nat) (places : Int) : String :=
  let text := toString (digits * Nat.pow 10 (-places).toNat)
  let places := places.toNat
  if places = 0 then text ++ ".0"
  else
    let all := "".pushn '0' (places + 1 - text.length) ++ text
    let whole := all.length - places
    String.ofList (all.toList.take whole) ++ "." ++ String.ofList (all.toList.drop whole)

/-- A float as messages show it: never with an exponent, always with a point. -/
def text (x : Float) : String :=
  if x.isNaN then "NaN"
  else
    let magnitude := x.abs
    let digits :=
      if magnitude.isInf then "inf"
      else if magnitude == 0.0 then "0.0"
      else
        let (digits, places) := (Binary.ofBits magnitude.toBits).shortest
        positional digits places
    if x.toBits ≥ 0x8000000000000000 then "-" ++ digits else digits

/-- The float nearest to `mantissa * 10 ^ exponent`. -/
def toFloat (negative : Bool) (mantissa : Nat) (exponent : Int) : Float :=
  let size : Int := (toString mantissa).length + exponent
  let magnitude :=
    if mantissa = 0 || size < -400 then 0.0
    else if 400 < size then 1.0 / 0.0
    else Float.ofScientific mantissa (exponent < 0) exponent.natAbs
  if negative then -magnitude else magnitude

/-- The value of a row of digits. -/
def natOf (digits : List Char) : Nat :=
  digits.foldl (fun n c => 10 * n + (c.toNat - '0'.toNat)) 0

end OperationStubs.Decimal
