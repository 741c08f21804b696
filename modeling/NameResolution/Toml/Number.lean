import NameResolution.Decimal.Nearest
import NameResolution.Toml.Digits

/-!
# Numbers

Whole numbers are decimal with an optional sign, or hexadecimal, octal or
binary without one, and have to fit into 64 bits. Numbers with a fraction or an
exponent are read as the nearest float; one that is too large is refused, but a
negative one of the same size is read as minus infinity.
-/

namespace NameResolution.Toml.Reader

/-- Whether a minus sign stands here; a plus sign is skipped. -/
def sign : Reader Bool := do
  match ← optional (charWhere fun char => char == '+' || char == '-') with
  | some '-' => return true
  | _ => return false

/-- The digits of a whole decimal number. Only the number zero begins with a zero. -/
def wholeDigits : Reader (List Char) := do
  let first ← peek?
  let digits ← if first == some '0' then ([·]) <$> charWhere isDecimalDigit
    else digitRun isDecimalDigit
  return digits

/-- A whole number in another base, after the mark of the base. -/
def based (mark : Char) (base : Nat) (isDigit : Char → Bool) : Reader Int := do
  chars ['0', mark]
  let digits ← digitRun isDigit
  return digitsValue base digits

/-- A whole decimal number. -/
def decimal : Reader Int := do
  let negative ← sign
  let digits ← wholeDigits
  let value : Int := digitsValue 10 digits
  return if negative then -value else value

/-- A whole number. -/
def integer : Reader Int := do
  let limit : Int := 0x8000000000000000
  let value ← based 'x' 16 isHexDigit <|> based 'o' 8 isOctalDigit <|>
    based 'b' 2 isBinaryDigit <|> decimal
  require (-limit ≤ value && value < limit)
  return value

/-- The exponent of a number. -/
def exponent : Reader Int := do
  let _ ← charWhere fun char => char == 'e' || char == 'E'
  let negative ← sign
  let digits ← digitRun isDecimalDigit
  let value : Int := digitsValue 10 digits
  return if negative then -value else value

/-- The digits after the point of a number. -/
def fraction : Reader (List Char) := do
  char '.'
  digitRun isDecimalDigit

/-- A number with a fraction, an exponent, or both. -/
def finiteFloat : Reader Float := do
  let negative ← sign
  let whole ← wholeDigits
  let places ← optional fraction
  let power ← optional exponent
  require (places.isSome || power.isSome)
  let places := places.getD []
  let value := Decimal.toFloat negative (digitsValue 10 (whole ++ places))
    (power.getD 0 - places.length)
  require (value.toBits.toNat != Decimal.infinityBits)
  return value

/-- Infinity or a value that is no number, by name. -/
def namedFloat : Reader Float := do
  let negative ← sign
  let value ← (do chars ['i', 'n', 'f']; return Float.ofBits Decimal.infinityBits.toUInt64) <|>
    (do chars ['n', 'a', 'n']; return 0.0 / 0.0)
  return if negative then -value else value

/-- A floating-point number. -/
def float : Reader Float :=
  finiteFloat <|> namedFloat

end NameResolution.Toml.Reader
