import NameResolution.Toml.Blank
import NameResolution.Toml.Digits

/-!
# Quoted text

Four kinds of quoted text: between double quotes, where a backslash begins an
escape, or between single quotes, where nothing does; and each of these
between three quotes, where line ends may stand in the text. A line end right
after three opening quotes does not count, and line ends are read as line
feeds whatever they were.
-/

namespace NameResolution.Toml.Reader

/-- Characters that stand for themselves between the given quotes. Between
double quotes the backslash does not. -/
def isUnescaped (quote char : Char) : Bool :=
  isPlain char && char != quote && !(quote == '"' && char == '\\')

/-- A run of characters that stand for themselves. -/
def unescaped (quote : Char) : Reader (List Char) := do
  let run ← charsWhile (isUnescaped quote)
  require !run.isEmpty
  return run

/-- A character given by its code, which must not be a surrogate. -/
def codePoint (count : Nat) : Reader Char := do
  let digits ← times (charWhere isHexDigit) count
  let code := digitsValue 16 digits
  require code.isValidChar
  return Char.ofNat code

/-- The character an escape stands for. -/
def escape : Reader Char := do
  char '\\'
  match ← charWhere fun _ => true with
  | 'b' => return '\x08'
  | 't' => return '\t'
  | 'n' => return '\n'
  | 'f' => return '\x0c'
  | 'r' => return '\r'
  | '"' => return '"'
  | '\\' => return '\\'
  | 'u' => codePoint 4
  | 'U' => codePoint 8
  | _ => failure

/-- A line end in the text. -/
def lineFeed : Reader (List Char) := do
  newline
  return ['\n']

/-- A backslash at the end of a line hides all blanks and line ends up to the
next character. -/
def hiddenLineEnd : Reader (List Char) := do
  char '\\'
  blanks
  newline
  let _ ← many (char ' ' <|> char '\t' <|> newline)
  return []

/-- One or two quotes in the text between three quotes; a third would close it. -/
def innerQuotes (quote : Char) : Reader (List Char) := do
  let run ← charsWhile (· == quote)
  require (run.length == 1 || run.length == 2)
  require (← peek?).isSome
  return run

/-- The closing quotes of a text between three quotes. Up to two more quotes
before them belong to the text. -/
def closingQuotes (quote : Char) : Reader (List Char) := do
  let run ← lookAhead (charsWhile (· == quote))
  require (run.length ≥ 3)
  let own := min (run.length - 3) 2
  chars (List.replicate (own + 3) quote)
  return List.replicate own quote

/-- What stands for part of the text on one line. -/
def piece (quote : Char) : Reader (List Char) :=
  if quote == '"' then unescaped quote <|> ([·]) <$> escape else unescaped quote

/-- What stands for part of the text where line ends are allowed. -/
def linesPiece (quote : Char) : Reader (List Char) :=
  if quote == '"' then
    unescaped quote <|> hiddenLineEnd <|> ([·]) <$> escape <|> lineFeed <|> innerQuotes quote
  else
    unescaped quote <|> lineFeed <|> innerQuotes quote

/-- Quoted text on one line. -/
def quotedLine (quote : Char) : Reader String := do
  char quote
  let pieces ← many (piece quote)
  char quote
  return String.ofList pieces.flatten

/-- Quoted text over any number of lines. -/
def quotedLines (quote : Char) : Reader String := do
  chars [quote, quote, quote]
  let _ ← optional newline
  let pieces ← many (linesPiece quote)
  let last ← closingQuotes quote
  return String.ofList (pieces.flatten ++ last)

/-- Quoted text of any kind. -/
def quoted : Reader String :=
  quotedLines '"' <|> quotedLines '\'' <|> quotedLine '"' <|> quotedLine '\''

end NameResolution.Toml.Reader
