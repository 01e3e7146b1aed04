import PerpetualCurve.Number.Rounding

/-!
# Floating-point numbers of 64 digits

A finite number is `± mantissa · 2 ^ exponent`, with a mantissa of at most 53 digits and an exponent
from -1074 to 971. A decimal text is rounded to the nearest such number, a tie to the even mantissa.
A number is written with the fewest digits that round to it, in positional notation.
-/

namespace PerpetualCurve

/-- A floating-point number of the 64-digit binary format. -/
inductive Double where
  | finite (negative : Bool) (mantissa : Nat) (exponent : Int)
  | infinite (negative : Bool)
  | notANumber
  deriving DecidableEq

namespace Double

/-- The least exponent. -/
def minExponent : Int := -1074

/-- The number nearest to `± num / den`, for a positive `den`. -/
def ofFraction (negative : Bool) (num den : Nat) : Double :=
  if num = 0 then .finite negative 0 minExponent
  else
    let size : Int := (Nat.log2 num : Int) - Nat.log2 den
    let least := max (size - 53) minExponent
    let exponent :=
      if den * 2 ^ (least + 53).toNat ≤ num * 2 ^ (-(least + 53)).toNat then least + 1 else least
    let mantissa :=
      (roundHalfEven (num * 2 ^ (-exponent).toNat : Nat) (den * 2 ^ exponent.toNat)).toNat
    let (mantissa, exponent) :=
      if mantissa = 2 ^ 53 then (2 ^ 52, exponent + 1) else (mantissa, exponent)
    if 971 < exponent then .infinite negative else .finite negative mantissa exponent

/-- The number nearest to `± digits · 10 ^ exponent`. Far outside the format the result is known
without calculating the power. -/
def ofDecimal (negative : Bool) (digits : Nat) (exponent : Int) : Double :=
  if digits = 0 then .finite negative 0 minExponent
  else
    let size : Int := (Nat.toDigits 10 digits).length + exponent
    if 400 < size then .infinite negative
    else if size < -400 then .finite negative 0 minExponent
    else ofFraction negative (digits * 10 ^ exponent.toNat) (10 ^ (-exponent).toNat)

/-! ## Reading -/

/-- A sign at the head of a text, true for minus, and what follows. -/
def sign : List Char → Bool × List Char
  | '-' :: rest => (true, rest)
  | '+' :: rest => (false, rest)
  | rest => (false, rest)

/-- The exponent a text consists of; the empty text stands for zero. -/
def exponentOf? : List Char → Option Int
  | [] => some 0
  | c :: rest =>
    if c = 'e' ∨ c = 'E' then
      let (negative, digits) := sign rest
      if digits.isEmpty ∨ ¬ digits.all Char.isDigit then none
      else
        let magnitude : Int := Nat.ofDigitChars 10 digits 0
        some (if negative then -magnitude else magnitude)
    else none

/-- The number `digits [. digits] [e exponent]` stands for; either run of digits may be empty, not
both. -/
def ofDigits? (negative : Bool) (s : List Char) : Option Double := do
  let whole := s.takeWhile Char.isDigit
  let (fraction, rest) :=
    match s.dropWhile Char.isDigit with
    | '.' :: rest => (rest.takeWhile Char.isDigit, rest.dropWhile Char.isDigit)
    | rest => ([], rest)
  if whole.isEmpty ∧ fraction.isEmpty then
    none
  let exponent ← exponentOf? rest
  return ofDecimal negative (Nat.ofDigitChars 10 (whole ++ fraction) 0) (exponent - fraction.length)

/-- The number a text stands for: a decimal number, or a name of infinity or of no number in any
case, with an optional sign. -/
def ofText? (s : List Char) : Option Double :=
  let (negative, rest) := sign s
  match String.ofList (rest.map Char.toLower) with
  | "inf" => some (.infinite negative)
  | "infinity" => some (.infinite negative)
  | "nan" => some .notANumber
  | _ => ofDigits? negative rest

/-! ## Writing -/

/-- A decimal number `digits · 10 ^ exponent`. -/
structure Digits where
  digits : Nat
  exponent : Int

/-- The multiple of `10 ^ exponent` that is nearest to `mantissa · 2 ^ binary`, if it rounds to that
number. Quarters of the last binary place are the unit of the comparison; of two multiples that are
equally near, the upper one is taken. -/
def atPlace? (mantissa : Nat) (binary exponent : Int) : Option Digits :=
  let place := 10 ^ exponent.toNat * 2 ^ (2 - binary).toNat
  let unit := 2 ^ (binary - 2).toNat * 10 ^ (-exponent).toNat
  let value := 4 * mantissa * unit
  let low := if mantissa = 2 ^ 52 ∧ minExponent < binary then value - unit else value - 2 * unit
  let high := value + 2 * unit
  let rounds (n : Nat) : Bool :=
    (low < n * place ∧ n * place < high) ∨
      (mantissa % 2 = 0 ∧ (n * place = low ∨ n * place = high))
  let nearest := (2 * value + place) / (2 * place)
  let below := value / place
  if rounds nearest then some ⟨nearest, exponent⟩
  else if rounds below then some ⟨below, exponent⟩
  else if rounds (below + 1) then some ⟨below + 1, exponent⟩
  else none

/-- The first of the numbers of `count` digits, or more up to `count + more`, that rounds to
`mantissa · 2 ^ binary`, whose first digit has the place `top`. -/
def fewest (mantissa : Nat) (binary top : Int) (count : Nat) : (more : Nat) → Digits
  | 0 => (atPlace? mantissa binary (top - count + 1)).getD ⟨0, 0⟩
  | more + 1 =>
    match atPlace? mantissa binary (top - count + 1) with
    | some digits => digits
    | none => fewest mantissa binary top (count + 1) more

/-- The place of the first decimal digit of `num / den`. -/
def topPlace (num den : Nat) : Int :=
  let size : Int := (Nat.toDigits 10 num).length - (Nat.toDigits 10 den).length
  if den * 10 ^ size.toNat ≤ num * 10 ^ (-size).toNat then size else size - 1

/-- The fewest decimal digits that round to `mantissa · 2 ^ exponent`; seventeen always do. -/
def shortest (mantissa : Nat) (exponent : Int) : Digits :=
  if mantissa = 0 then ⟨0, 0⟩
  else
    let top := topPlace (mantissa * 2 ^ exponent.toNat) (2 ^ (-exponent).toNat)
    fewest mantissa exponent top 1 16

/-- The text of a number. -/
def text : Double → String
  | .finite negative mantissa exponent =>
    let digits := shortest mantissa exponent
    String.ofList
      (positional negative (digits.digits * 10 ^ digits.exponent.toNat) (-digits.exponent).toNat)
  | .infinite negative => if negative then "-inf" else "inf"
  | .notANumber => "NaN"

/-! ## Whole numbers -/

/-- The nearest whole number from zero to `limit`, a half rounded up; zero for no number. -/
def toNatUpTo (limit : Nat) : Double → Nat
  | .finite negative mantissa exponent =>
    if negative then 0
    else
      let den := 2 ^ (-exponent).toNat
      min ((2 * (mantissa * 2 ^ exponent.toNat) + den) / (2 * den)) limit
  | .infinite negative => if negative then 0 else limit
  | .notANumber => 0

end Double

end PerpetualCurve
