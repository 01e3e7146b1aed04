import PerpetualCurve.Text.Hex
import PerpetualCurve.Text.Reader

/-!
# Strings and names in TOML

Basic strings have escapes, literal strings have none; either may run over several lines between
triple quotes. A name is a run of plain characters or a string on one line.
-/

namespace PerpetualCurve.Toml

open Text

/-- Whether a character may stand in a string or a comment: all but control characters, save the
tab. -/
def isTextChar (c : Char) : Bool := c == '\t' || (' ' ≤ c && c != '\x7f')

/-- White space within a line. -/
def isBlank (c : Char) : Bool := c == ' ' || c == '\t'

/-- The end of a line. -/
def newline : Reader Unit := .exactly '\n' <|> .word "\r\n"

/-- White space within a line, if there is any. -/
def blanks : Reader Unit := discard (.spanning isBlank)

/-- The character with a code point of `count` hexadecimal digits. -/
def codePoint (count : Nat) : Reader Char := do
  let digits ← (List.replicate count ()).mapM fun _ => .satisfying fun c => (hexDigit? c).isSome
  let n ← StateT.lift (hexNumber? digits)
  guard n.isValidChar
  return Char.ofNat n

/-- The character behind a backslash. -/
def escape : Reader Char := do
  .exactly '\\'
  match (← .satisfying fun _ => true) with
  | 'b' => return '\x08'
  | 't' => return '\t'
  | 'n' => return '\n'
  | 'f' => return '\x0c'
  | 'r' => return '\r'
  | '"' => return '"'
  | '\\' => return '\\'
  | 'u' => codePoint 4
  | 'U' => codePoint 8
  | _ => failure

/-- A backslash at the end of a line, with all white space up to the next text. -/
def lineContinuation : Reader Unit := do
  .exactly '\\'
  blanks
  newline
  discard (.many (discard (.satisfying isBlank) <|> newline))

/-- One or two quotes that no third one follows. -/
def looseQuotes (quote : Char) : Reader (List Char) := do
  let quotes ← .spanning (· == quote)
  guard (quotes.length = 1 ∨ quotes.length = 2)
  return quotes

/-- The quotes that end a string over several lines; up to two more belong to its text. -/
def closingQuotes (quote : Char) : Reader (List Char) := do
  let quotes ← .spanning (· == quote)
  guard (3 ≤ quotes.length ∧ quotes.length ≤ 5)
  return quotes.drop 3

/-- A string between triple quotes, made of the given pieces. A line end right behind the opening
quotes is not part of it. -/
def multiline (quote : Char) (piece : Reader (List Char)) : Reader String := do
  .exactly quote
  .exactly quote
  .exactly quote
  discard (.maybe newline)
  let pieces ← .many (piece <|> (newline *> pure ['\n']) <|> looseQuotes quote)
  let last ← closingQuotes quote
  return String.ofList (pieces.flatten ++ last)

/-- Characters of a basic string that stand for themselves. -/
def plainBasic : Reader (List Char) := .run fun c => isTextChar c && c != '"' && c != '\\'

/-- An escape, as a piece of a string. -/
def escapePiece : Reader (List Char) := do return [← escape]

/-- The mark around literal strings. -/
def apostrophe : Char := '\x27'

/-- Whether a character may stand in a literal string. -/
def isLiteral (c : Char) : Bool := isTextChar c && c != apostrophe

/-- A basic string on one line. -/
def basicString : Reader String := do
  .exactly '"'
  let pieces ← .many (plainBasic <|> escapePiece)
  .exactly '"'
  return String.ofList pieces.flatten

/-- A literal string on one line. -/
def literalString : Reader String := do
  .exactly apostrophe
  let cs ← .spanning isLiteral
  .exactly apostrophe
  return String.ofList cs

/-- A basic string over several lines. -/
def multilineBasic : Reader String :=
  multiline '"' (plainBasic <|> (lineContinuation *> pure []) <|> escapePiece)

/-- A literal string over several lines. -/
def multilineLiteral : Reader String := multiline apostrophe (.run isLiteral)

/-- A string of any kind. -/
def string : Reader String :=
  multilineBasic <|> basicString <|> multilineLiteral <|> literalString

/-- Whether a character may stand in a name without quotes. -/
def isNameChar (c : Char) : Bool := c.isAlphanum || c == '_' || c == '-'

/-- A name without quotes. -/
def bareName : Reader String := do
  return String.ofList (← .run isNameChar)

/-- One part of a dotted name, with white space around it. -/
def namePart : Reader String := do
  blanks
  let name ← bareName <|> basicString <|> literalString
  blanks
  return name

/-- The depth that values and names may not reach. -/
def depthLimit : Nat := 80

/-- A dotted name: the parts before the last, and the last. -/
def dottedName : Reader (List String × String) := do
  let first ← namePart
  let rest ← .many (.exactly '.' *> namePart)
  guard (rest.length + 1 < depthLimit)
  match (first :: rest).reverse with
  | last :: path => return (path.reverse, last)
  | [] => failure

end PerpetualCurve.Toml
