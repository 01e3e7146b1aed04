import PerpetualCurve.Settings.Host
import PerpetualCurve.Text.Letter
import PerpetualCurve.Text.Reader

/-!
# Expansion of paths

The text of a path may refer to environment variables and to the home directory. A dollar sign
before a name, with or without braces, stands for the value of a variable, be it empty or not;
within braces, `:-` separates the name from a value to use where there is no such variable. Two
dollar signs stand for one. A tilde that is the whole first part of a path stands for the home
directory.
-/

namespace PerpetualCurve

open Text

/-- A piece of the text of a path. -/
inductive PathPiece where
  | char (c : Char)
  | named (name : List Char)
  | braced (name : List Char) (fallback : Option (List Char))

namespace PathPiece

/-- Whether a character may stand in the name of a variable without braces. -/
def isNameChar (c : Char) : Bool := isLetter c || c == '_'

/-- What stands before and behind the first `:-` of a text. -/
def splitFallback? : List Char → Option (List Char × List Char)
  | [] => none
  | ':' :: '-' :: rest => some ([], rest)
  | c :: rest => (splitFallback? rest).map fun (before, behind) => (c :: before, behind)

/-- The piece with the given text between braces. A name comes before the fallback. -/
def ofBraces (body : List Char) : PathPiece :=
  match splitFallback? body with
  | some (c :: name, fallback) => braced (c :: name) (some fallback)
  | _ => braced body none

/-- What follows a dollar sign. -/
def reference : Reader PathPiece :=
  let bare := do
    return PathPiece.named (← .run isNameChar)
  let inBraces := do
    .exactly '\x7b'
    let body ← .spanning (· != '\x7d')
    .exactly '\x7d'
    return ofBraces body
  let dollar := do
    .exactly '$'
    return PathPiece.char '$'
  dollar <|> inBraces <|> bare

/-- A piece. A dollar sign that refers to nothing stands for itself. -/
def read : Reader PathPiece := do
  let c ← .satisfying fun _ => true
  if c = '$' then return (← .maybe reference).getD (.char '$') else return .char c

/-- What a piece stands for. Without a fallback, a variable has to exist. -/
def value? (host : Host) : PathPiece → Option (List Char)
  | char c => some [c]
  | named name => host.valueOf? name
  | braced name fallback => (host.valueOf? name).or fallback

end PathPiece

namespace Host

variable (host : Host)

/-- A text with the values of the variables it refers to. -/
def substitute? (s : List Char) : Option (List Char) := do
  let (pieces, _) ← Reader.many PathPiece.read s
  return (← pieces.mapM (PathPiece.value? host)).flatten

/-- The home directory. A variable names it, unless its value is empty. -/
def home? : Option (List Char) :=
  ((host.valueOf? "HOME".toList).filter (!·.isEmpty)).or host.home

/-- A text behind a tilde, with the home directory in the place of the tilde. -/
def fromHome (s : List Char) : List Char :=
  match s.head?, host.home? with
  | none, some home => home
  | some '/', some home => home ++ s
  | _, _ => '~' :: s

/-- The text of a path with nothing left to expand. -/
def expand? (s : List Char) : Option (List Char) :=
  match s with
  | '~' :: rest => (host.substitute? rest).map host.fromHome
  | _ => host.substitute? s

end Host

end PerpetualCurve
