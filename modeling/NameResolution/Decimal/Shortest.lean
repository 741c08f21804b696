/-!
# The shortest decimal of a float

A positive float stands for all numbers nearer to it than to its neighbours.
Its shortest decimal is the point of the coarsest decimal grid that has a
point among them, the nearest one if there are two.
-/

namespace NameResolution.Decimal

/-- A positive float, by its bits, as `significand * 2 ^ exponent`, and whether
the float below it is only half as far away as the one above. -/
def decode (bits : Nat) : Nat × Int × Bool :=
  let leading := 1 <<< 52
  let field := bits / leading
  let fraction := bits % leading
  if field == 0 then (fraction, -1074, false)
  else (leading + fraction, (field : Int) - 1075, fraction == 0 && field > 1)

/-- The numbers that read back as a float, scaled so that the limits are whole
numbers over a common denominator. The limits themselves read back exactly if
the significand is even. -/
structure Interval where
  lower : Nat
  value : Nat
  upper : Nat
  den : Nat
  closed : Bool

/-- The interval of a float in units of `10 ^ grid`. -/
def interval (bits : Nat) (grid : Int) : Interval :=
  let (significand, exponent, narrow) := decode bits
  let quarter := exponent - 2
  let scale := Nat.pow 10 (-grid).toNat <<< quarter.toNat
  { lower := (4 * significand - if narrow then 1 else 2) * scale
    value := 4 * significand * scale
    upper := (4 * significand + 2) * scale
    den := Nat.pow 10 grid.toNat <<< (-quarter).toNat
    closed := significand % 2 == 0 }

/-- Whether a point of the grid reads back as the float. -/
def Interval.holds (interval : Interval) (point : Nat) : Bool :=
  let scaled := point * interval.den
  if interval.closed then interval.lower ≤ scaled && scaled ≤ interval.upper
  else interval.lower < scaled && scaled < interval.upper

/-- The point of the grid that reads back as the float and is nearest to it;
of two that are equally near, the greater. Only the two neighbours of the float
on the grid come into question. -/
def Interval.point? (interval : Interval) : Option Nat :=
  let below := interval.value / interval.den
  let above := below + 1
  match interval.holds below, interval.holds above with
  | true, true =>
    some (if interval.value - below * interval.den < above * interval.den - interval.value
      then below else above)
  | true, false => some below
  | false, true => some above
  | false, false => none

/-- Search grids from the coarser to the finer ones. -/
def search (bits : Nat) (grid : Int) : (grids : Nat) → Nat × Int
  | 0 => (0, grid)
  | grids + 1 =>
    match (interval bits grid).point? with
    | some point => (point, grid)
    | none => search bits (grid - 1) grids

/-- The shortest decimal of a positive finite float: its digits as a number, and
the power of ten they count. No float needs a grid finer than `10 ^ -324`. -/
def shortest (bits : Nat) : Nat × Int :=
  search bits 309 640

/-- The digits of `digits * 10 ^ exponent` in positional notation, with a point
only if there is a fraction. -/
def positional (digits : Nat) (exponent : Int) : String :=
  let text := Nat.toDigits 10 digits
  if exponent ≥ 0 then String.ofList (text ++ List.replicate exponent.toNat '0')
  else
    let places := (-exponent).toNat
    let padded := List.replicate (places + 1 - text.length) '0' ++ text
    let (whole, fraction) := padded.splitAt (padded.length - places)
    String.ofList (whole ++ '.' :: fraction)

/-- A float in positional notation with the fewest digits that read back, and
with at least one place after the point. -/
def floatText (value : Float) : String :=
  if value.isNaN then "NaN"
  else
    let bits := value.toBits.toNat
    let signBit := 1 <<< 63
    let sign := if bits ≥ signBit then "-" else ""
    let magnitude := bits % signBit
    if magnitude == 0x7FF0000000000000 then sign ++ "inf"
    else if magnitude == 0 then sign ++ "0.0"
    else
      let (digits, exponent) := shortest magnitude
      let text := positional digits exponent
      sign ++ if exponent ≥ 0 then text ++ ".0" else text

end NameResolution.Decimal
