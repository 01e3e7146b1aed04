import PerpetualCurve.Text.Hex
import PerpetualCurve.Toml.Value

/-!
# Numbers in TOML

Whole numbers have 64 digits with a sign, and may be written to the bases 16, 8 and 2. Underscores
may stand between two digits.
-/

namespace PerpetualCurve.Toml

open Text

/-- Digits with single underscores between them, without the underscores. -/
def digitGroups (isDigit : Char → Bool) : Reader (List Char) := do
  let first ← .satisfying isDigit
  let rest ← .many (.maybe (.exactly '_') *> .satisfying isDigit)
  return first :: rest

/-- The optional sign of a number. -/
def sign : Reader (List Char) := do
  match (← .maybe (.satisfying fun c => c == '+' || c == '-')) with
  | some c => return [c]
  | none => return []

/-- A decimal number without a sign; a leading zero stands alone. -/
def decimalDigits : Reader (List Char) := do
  match (← .ahead) with
  | some '0' => return [← .satisfying (· == '0')]
  | _ => digitGroups Char.isDigit

/-- A whole number of the format, if it is in range. -/
def integerOf (i : Int) : Reader Value := do
  return .integer (← StateT.lift (Signed.ofInt? 64 i))

/-- A decimal whole number. -/
def decimalInteger : Reader Value := do
  let sign ← sign
  let magnitude : Int := Nat.ofDigitChars 10 (← decimalDigits) 0
  integerOf (if sign = ['-'] then -magnitude else magnitude)

/-- A whole number to another base, behind the zero and the letter of the base. -/
def basedInteger (letter : Char) (base : Nat) (isDigit : Char → Bool) : Reader Value := do
  .exactly '0'
  .exactly letter
  let digits ← digitGroups isDigit
  integerOf (digits.foldl (fun n c => base * n + ((hexDigit? c).getD 0)) 0 : Nat)

/-- A whole number. -/
def integer : Reader Value :=
  basedInteger 'x' 16 (fun c => (hexDigit? c).isSome) <|>
    basedInteger 'o' 8 (fun c => '0' ≤ c && c ≤ '7') <|>
    basedInteger 'b' 2 (fun c => c == '0' || c == '1') <|>
    decimalInteger

/-- A fraction, with its point. -/
def fraction : Reader (List Char) := do
  .exactly '.'
  return '.' :: (← digitGroups Char.isDigit)

/-- An exponent, with its letter. -/
def exponent : Reader (List Char) := do
  discard (.satisfying fun c => c == 'e' || c == 'E')
  let sign ← sign
  return 'e' :: sign ++ (← digitGroups Char.isDigit)

/-- A number with a fraction, an exponent or both. It must not round to positive infinity. -/
def decimalFloat : Reader Value := do
  let sign ← sign
  let whole ← decimalDigits
  let fractional := do return (← fraction) ++ ((← .maybe exponent).getD [])
  let tail ← exponent <|> fractional
  match Double.ofText? (sign ++ whole ++ tail) with
  | some (.infinite false) => failure
  | some value => return .float value
  | none => failure

/-- A name of infinity or of no number. -/
def specialFloat : Reader Value := do
  let sign ← sign
  let infinite := do
    .word "inf"
    return Value.float (.infinite (sign = ['-']))
  let notANumber := do
    .word "nan"
    return Value.float .notANumber
  infinite <|> notANumber

/-- A date, a time or a number. -/
def numeral : Reader Value :=
  (do return .datetime (← Datetime.read)) <|> decimalFloat <|> specialFloat <|> integer

end PerpetualCurve.Toml
