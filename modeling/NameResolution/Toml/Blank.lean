import NameResolution.Toml.Reader

/-!
# Blanks, comments and line ends

What may stand between the parts of a document. A line ends with a line feed,
which a carriage return may precede; a comment runs up to the end of its line.
-/

namespace NameResolution.Toml

/-- Blanks within a line. -/
def isBlank (char : Char) : Bool :=
  char == ' ' || char == '\t'

/-- Characters that may stand in text as they are: every one but the control
characters of ASCII, of which the tab is allowed. -/
def isPlain (char : Char) : Bool :=
  char == '\t' || (' ' ≤ char && char ≤ '~') || '\x80' ≤ char

namespace Reader

/-- Skip the blanks of a line. -/
def blanks : Reader Unit := do
  let _ ← charsWhile isBlank

/-- Take a line end. -/
def newline : Reader Unit :=
  char '\n' <|> chars ['\r', '\n']

/-- Skip a comment up to the end of its line. -/
def comment : Reader Unit := do
  char '#'
  let _ ← charsWhile isPlain

/-- A line ends here, or the document does. -/
def lineEnd : Reader Unit :=
  newline <|> atEnd

/-- Nothing but blanks and a comment stands between here and the line end. -/
def restOfLine : Reader Unit := do
  blanks
  let _ ← optional comment
  lineEnd

/-- Skip blanks, line ends, and comments that a line end follows. -/
def blankLines : Reader Unit := do
  blanks
  let _ ← many do
    let _ ← optional comment
    newline
    blanks

end Reader

end NameResolution.Toml
