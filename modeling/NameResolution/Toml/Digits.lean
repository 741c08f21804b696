import NameResolution.Toml.Reader

/-!
# Digits

Runs of digits in the bases of a document. In numbers, single underscores may
stand between two digits and mean nothing.
-/

namespace NameResolution.Toml

/-- Whether a character is a decimal digit. -/
def isDecimalDigit (char : Char) : Bool :=
  '0' ≤ char && char ≤ '9'

/-- Whether a character is an octal digit. -/
def isOctalDigit (char : Char) : Bool :=
  '0' ≤ char && char ≤ '7'

/-- Whether a character is a binary digit. -/
def isBinaryDigit (char : Char) : Bool :=
  char == '0' || char == '1'

/-- Whether a character is a hexadecimal digit. -/
def isHexDigit (char : Char) : Bool :=
  isDecimalDigit char || ('a' ≤ char && char ≤ 'f') || ('A' ≤ char && char ≤ 'F')

/-- The value of a digit, in any base up to sixteen. -/
def digitValue (char : Char) : Nat :=
  if isDecimalDigit char then char.toNat - '0'.toNat
  else if 'a' ≤ char then char.toNat - 'a'.toNat + 10
  else char.toNat - 'A'.toNat + 10

/-- The number that digits write in a base. -/
def digitsValue (base : Nat) (digits : List Char) : Nat :=
  digits.foldl (fun value digit => base * value + digitValue digit) 0

/-- Whether a run begins and ends with a digit and no two underscores meet in it. -/
def wellSeparated (isDigit : Char → Bool) : List Char → Bool
  | [] => false
  | [last] => isDigit last
  | first :: '_' :: rest => isDigit first && wellSeparated isDigit rest
  | first :: rest => isDigit first && wellSeparated isDigit rest

namespace Reader

/-- As many items as asked for. -/
def times {α : Type} (item : Reader α) : Nat → Reader (List α)
  | 0 => return []
  | count + 1 => do
    let first ← item
    let others ← times item count
    return first :: others

/-- A run of digits with its underscores left out. -/
def digitRun (isDigit : Char → Bool) : Reader (List Char) := do
  let run ← charsWhile fun char => isDigit char || char == '_'
  require (wellSeparated isDigit run)
  return run.filter isDigit

/-- A decimal number of so many digits. -/
def fixedNumber (count : Nat) : Reader Nat := do
  let digits ← times (charWhere isDecimalDigit) count
  return digitsValue 10 digits

end Reader

end NameResolution.Toml
