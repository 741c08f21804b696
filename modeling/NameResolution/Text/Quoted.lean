import NameResolution.Text.Hidden

/-!
# Quoted text in messages

Text is shown between double quotes, with an escape for each quote, backslash
and character without a shape of its own, so that the reader sees every
character of it.
-/

namespace NameResolution.Text

/-- The characters that show a character between quotes. -/
def quoteChar (char : Char) : List Char :=
  match char with
  | '\x00' => ['\\', '0']
  | '\t' => ['\\', 't']
  | '\r' => ['\\', 'r']
  | '\n' => ['\\', 'n']
  | '\\' => ['\\', '\\']
  | '"' => ['\\', '"']
  | _ =>
    if isHidden char then
      ['\\', 'u', '\x7b'] ++ Nat.toDigits 16 char.toNat ++ ['\x7d']
    else [char]

/-- Text between quotes. -/
def quote (text : String) : String :=
  String.ofList ('"' :: (text.toList.flatMap quoteChar ++ ['"']))

end NameResolution.Text
