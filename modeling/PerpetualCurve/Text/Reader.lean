/-!
# Readers

A reader takes a value off the head of a text and leaves the rest, or refuses the text.
-/

namespace PerpetualCurve.Text

/-- A way to read a value off the head of a text. -/
abbrev Reader := StateT (List Char) Option

namespace Reader

variable {α : Type}

/-- A character with a property. -/
def satisfying (p : Char → Bool) : Reader Char
  | c :: rest => if p c then some (c, rest) else none
  | [] => none

/-- A given character. -/
def exactly (c : Char) : Reader Unit := discard (satisfying (· == c))

/-- Given characters, one after the other. -/
def word (s : String) : Reader Unit := s.toList.forM exactly

/-- All characters up to the first without the property. -/
def spanning (p : Char → Bool) : Reader (List Char) :=
  fun s => some (s.takeWhile p, s.dropWhile p)

/-- All characters up to the first without the property, of which there has to be one. -/
def run (p : Char → Bool) : Reader (List Char) := do
  let cs ← spanning p
  guard (!cs.isEmpty)
  return cs

/-- The next character, which stays. -/
def ahead : Reader (Option Char) := fun s => some (s.head?, s)

/-- The end of the text. -/
def atEnd : Reader Unit := fun s => if s.isEmpty then some ((), s) else none

/-- What the reader reads, if it reads anything. -/
def maybe (reader : Reader α) : Reader (Option α) := fun s =>
  match reader s with
  | some (a, rest) => some (some a, rest)
  | none => some (none, s)

/-- What the reader reads as often as it goes on. -/
def many (reader : Reader α) (s : List Char) : Option (List α × List Char) :=
  match reader s with
  | none => some ([], s)
  | some (a, rest) =>
    if rest.length < s.length then
      (many reader rest).map fun (items, rest) => (a :: items, rest)
    else some ([], s)
termination_by s.length

/-- `count` decimal digits, as a number. -/
def decimal (count : Nat) : Reader Nat := do
  let digits ← (List.replicate count ()).mapM fun _ => satisfying Char.isDigit
  return Nat.ofDigitChars 10 digits 0

end Reader

end PerpetualCurve.Text
