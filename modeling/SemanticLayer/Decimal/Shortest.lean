import SemanticLayer.Decimal.Rounding

/-!
The fewest decimal digits that identify a binary number. A number owns the interval of reals that
are rounded to it; grids of decimal points are tried from coarse to fine, and the first grid with a
point in the interval gives the digits.
-/

namespace SemanticLayer.Decimal

/-- A positive decimal number: `digits` times ten to the power `exponent`. -/
structure Digits where
  digits : Nat
  exponent : Int
  deriving Repr, DecidableEq

/-- A positive binary number and the interval of reals that are rounded to it, all as multiples of
one power of two. The ends belong to the interval when `closed` holds. -/
structure Interval where
  low : Nat
  value : Nat
  high : Nat
  power : Int
  closed : Bool

/-- The interval of the positive number with the given mantissa, a multiple of two to the power
`power`. Below a power of two the neighbours are twice as close. -/
def Interval.ofMantissa (mantissa : Nat) (power : Int) : Interval :=
  let low := if mantissa = twoTo 52 ∧ -1074 < power then 4 * mantissa - 1 else 4 * mantissa - 2
  ⟨low, 4 * mantissa, 4 * mantissa + 2, power - 2, mantissa % 2 == 0⟩

/-- The interval of the positive number with the given bits. -/
def Interval.ofBits (bits : Nat) : Interval :=
  let exponent : Nat := bits / twoTo 52
  let fraction : Nat := bits % twoTo 52
  if exponent = 0 then .ofMantissa fraction (-1074)
  else .ofMantissa (twoTo 52 + fraction) ((exponent : Int) - 1075)

/-- The point of the grid of step ten to the power `scale` that is nearest to the number, if one of
its two neighbours on the grid lies in the interval. -/
def Interval.gridPoint? (interval : Interval) (scale : Int) : Option Nat :=
  let unit := twoTo interval.power.toNat * tenTo (-scale).toNat
  let step := tenTo scale.toNat * twoTo (-interval.power).toNat
  let exact := interval.value * unit
  let inside (point : Nat) : Bool :=
    let low := interval.low * unit
    let high := interval.high * unit
    (low < point * step && point * step < high) ||
      (interval.closed && (low == point * step || point * step == high))
  let below := exact / step
  let above := below + 1
  let nearer :=
    let down := exact - below * step
    let up := above * step - exact
    if down < up then below else if up < down then above else below + below % 2
  if inside below && inside above then some nearer
  else if inside below then some below
  else if inside above then some above
  else none

/-- Tries grids of smaller and smaller steps. -/
def Interval.search (interval : Interval) : Nat → Int → Digits
  | 0, scale => ⟨(interval.gridPoint? scale).getD 0, scale⟩
  | steps + 1, scale =>
    match interval.gridPoint? scale with
    | some point => ⟨point, scale⟩
    | none => interval.search steps (scale - 1)

/-- Moves zeros at the end of the digits into the exponent. -/
def Digits.normalize : Nat → Digits → Digits
  | 0, d => d
  | steps + 1, d =>
    if d.digits % 10 = 0 then Digits.normalize steps ⟨d.digits / 10, d.exponent + 1⟩ else d

/-- The fewest digits that identify the positive number with the given bits. -/
def shortest (bits : Nat) : Digits :=
  let interval := Interval.ofBits bits
  let magnitude : Int := ((interval.value.log2 : Int) + interval.power) * 30103 / 100000
  (interval.search 24 (magnitude + 2)).normalize 24

/-- How a number is written: the decimal exponents, first and last, of positional notation, the
least number of digits of an exponent, and whether a point always stands before it. -/
structure Layout where
  positionalFrom : Int
  positionalTo : Int
  exponentDigits : Nat
  alwaysPointed : Bool

/-- Text of a positive number whose first digit has the weight ten to the power `exponent`. -/
def Layout.write (layout : Layout) (d : Digits) : String :=
  let digits := Nat.toDigits 10 d.digits
  let exponent : Int := d.exponent + digits.length - 1
  if layout.positionalFrom ≤ exponent ∧ exponent ≤ layout.positionalTo then
    if exponent < 0 then
      "0." ++ String.ofList (List.replicate (-exponent - 1).toNat '0' ++ digits)
    else
      let whole := digits.take (exponent.toNat + 1)
      let fraction := digits.drop (exponent.toNat + 1)
      String.ofList (whole ++ List.replicate (exponent.toNat + 1 - whole.length) '0') ++ "." ++
        (if fraction.isEmpty then "0" else String.ofList fraction)
  else
    let mantissa :=
      match digits with
      | first :: second :: rest => String.ofList (first :: '.' :: second :: rest)
      | short => String.ofList short ++ (if layout.alwaysPointed then ".0" else "")
    let size := Nat.toDigits 10 exponent.natAbs
    mantissa ++ (if exponent < 0 then "e-" else "e+") ++
      String.ofList (List.replicate (layout.exponentDigits - size.length) '0' ++ size)

/-- Numbers from 0.0001 up to 10^16 are written positionally, with at least one digit after the
point; an exponent has a sign and at least two digits. -/
def plainLayout : Layout :=
  ⟨-4, 15, 2, false⟩

/-- The text of a binary number. -/
def write (x : Float) : String :=
  let bits := x.toBits.toNat
  let sign := if twoTo 63 ≤ bits then "-" else ""
  let magnitude := bits % twoTo 63
  if 0x7ff0000000000000 < magnitude then "nan"
  else if magnitude = 0x7ff0000000000000 then sign ++ "inf"
  else if magnitude = 0 then sign ++ "0.0"
  else sign ++ plainLayout.write (shortest magnitude)

end SemanticLayer.Decimal
