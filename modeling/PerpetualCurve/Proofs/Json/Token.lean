import Mathlib.Data.List.Basic
import PerpetualCurve.Json.Token

/-!
# Tokens that are written are scanned

What `Token.text` writes for a token, `Token.next?` reads as that token, whatever follows. Only a
number has to end before what follows: a digit, a point or the letter of an exponent would be read
as part of it.
-/

namespace PerpetualCurve

namespace Text

theorem hexDigit?_hexDigit {value : Nat} (h : value < 16) :
    hexDigit? (hexDigit value) = some value := by
  decide +revert

end Text

namespace Json

/-! ## Strings -/

namespace Piece

/-- A code point below the surrogates is its own character. -/
theorem ofUnit_toNat {c : Char} (h : c.toNat < 0xD800) : ofUnit c.toNat = char c := by
  rw [ofUnit, if_neg (by omega), Char.ofNat_toNat]

/-- The escape of a control character spells its code point. -/
theorem hexNumber?_control {c : Char} (h : c < ' ') :
    Text.hexNumber? ['0', '0', Text.hexDigit (c.toNat / 16), Text.hexDigit (c.toNat % 16)] =
      some c.toNat := by
  have small : c.toNat < 32 := h
  have high := Text.hexDigit?_hexDigit (show c.toNat / 16 < 16 by omega)
  have low := Text.hexDigit?_hexDigit (show c.toNat % 16 < 16 by omega)
  have zero : Text.hexDigit? '0' = some 0 := rfl
  simp only [Text.hexNumber?, List.foldlM_cons, List.foldlM_nil, zero, high, low, Option.map_some,
    Option.bind_eq_bind, Option.bind_some, Option.pure_def]
  congr 1
  omega

theorem scan_escape {letter c : Char} (h : letter ≠ 'u') (escape : ofEscape? letter = some c)
    (rest : List Char) :
    scan ('\\' :: letter :: rest) =
      (scan rest).map fun (pieces, rest) => (char c :: pieces, rest) := by
  rw [scan]
  case _ =>
    simp only [escape, Option.bind_eq_bind, Option.bind_some]
    cases scan rest <;> rfl
  case _ =>
    rintro _ _ _ _ _ rfl
    exact absurd rfl h

theorem scan_plain {c : Char} (quote : c ≠ '"') (backslash : c ≠ '\\') (visible : ¬ c < ' ')
    (rest : List Char) :
    scan (c :: rest) = (scan rest).map fun (pieces, rest) => (char c :: pieces, rest) := by
  rw [scan]
  case _ =>
    simp only [backslash, visible, or_self, if_false, Option.bind_eq_bind]
    cases scan rest <;> rfl
  all_goals simp_all

/-- A character is scanned off the way it is written. -/
theorem scan_escaped (c : Char) (rest : List Char) :
    scan (escaped c ++ rest) = (scan rest).map fun (pieces, rest) => (char c :: pieces, rest) := by
  unfold escaped
  split
  case h_8 quote backslash _ _ _ _ _ =>
    split
    case isTrue control =>
      have unit := ofUnit_toNat (c := c) (Nat.lt_trans (show c.toNat < 32 from control) (by decide))
      simp only [List.cons_append, List.nil_append, scan, hexNumber?_control control,
        Option.bind_eq_bind, Option.bind_some, unit]
      cases scan rest <;> rfl
    case isFalse visible => exact scan_plain quote backslash visible rest
  -- every other character has an escape of one letter
  all_goals exact scan_escape (by decide) rfl rest

theorem scan_flatMap_escaped (s rest : List Char) :
    scan (s.flatMap escaped ++ '"' :: rest) = some (s.map char, rest) := by
  induction s with
  | nil => rw [List.flatMap_nil, List.nil_append, scan, List.map_nil]
  | cons c s ih =>
    rw [List.flatMap_cons, List.append_assoc, scan_escaped, ih, Option.map_some, List.map_cons]

theorem join?_map_char (s : List Char) : join? (s.map char) = some s := by
  induction s with
  | nil => rfl
  | cons c s ih => rw [List.map_cons, join?, ih, Option.map_some]

end Piece

theorem Scalar.ofPieces_map_char (s : List Char) :
    Scalar.ofPieces (s.map .char) = .string (some (String.ofList s)) := by
  rw [Scalar.ofPieces, Piece.join?_map_char, Option.map_some]

/-! ## Numbers -/

/-- Whether a character would be read as part of a number before it. -/
def continuesNumber (c : Char) : Bool := c.isDigit || c == '.' || c == 'e' || c == 'E'

/-- Whether a text begins with nothing that would be read as part of a number before it. -/
def EndsNumber (rest : List Char) : Prop := ∀ c ∈ rest.head?, continuesNumber c = false

theorem EndsNumber.nil : EndsNumber [] := nofun

theorem EndsNumber.cons {c : Char} {rest : List Char} (h : continuesNumber c = false) :
    EndsNumber (c :: rest) := by
  intro c' hc'
  cases hc'
  exact h

theorem EndsNumber.not_digit {c : Char} {rest : List Char} (h : EndsNumber (c :: rest)) :
    c.isDigit = false := by
  have := h c rfl
  simp only [continuesNumber, Bool.or_eq_false_iff] at this
  exact this.1.1.1

theorem EndsNumber.fraction {rest : List Char} (h : EndsNumber rest) :
    fraction rest = some ([], rest) := by
  unfold Json.fraction
  split
  · exact absurd (h '.' rfl) (by decide)
  · rfl

theorem EndsNumber.exponent {rest : List Char} (h : EndsNumber rest) :
    exponent rest = some ([], rest) := by
  unfold Json.exponent
  split
  · rfl
  · rename_i c rest
    have := h c rfl
    simp only [continuesNumber, Bool.or_eq_false_iff, beq_eq_false_iff_ne] at this
    rw [if_neg (not_or.2 ⟨this.1.2, this.2⟩)]

theorem EndsNumber.takeWhile {rest : List Char} (h : EndsNumber rest) :
    rest.takeWhile Char.isDigit = [] := by
  cases rest with
  | nil => rfl
  | cons c rest => rw [List.takeWhile_cons_of_neg (by simp [h.not_digit])]

theorem EndsNumber.dropWhile {rest : List Char} (h : EndsNumber rest) :
    rest.dropWhile Char.isDigit = rest := by
  cases rest with
  | nil => rfl
  | cons c rest => rw [List.dropWhile_cons_of_neg (by simp [h.not_digit])]

theorem isDigit_toDigits (n : Nat) : ∀ c ∈ Nat.toDigits 10 n, c.isDigit = true :=
  fun _ hc => Nat.isDigit_of_mem_toDigits (by decide) (by decide) hc

/-- A number is not written with a leading zero. -/
theorem head?_toDigits_ne {n : Nat} (h : n ≠ 0) : (Nat.toDigits 10 n).head? ≠ some '0' := by
  induction n using Nat.strongRecOn with
  | ind n ih =>
    rcases Nat.lt_or_ge n 10 with small | large
    · rw [Nat.toDigits_of_lt_base small, List.head?_cons, ne_eq, Option.some.injEq,
        Nat.digitChar_eq_zero]
      exact h
    · rw [Nat.toDigits_of_base_le (by decide) large,
        List.head?_append_of_ne_nil _ Nat.toDigits_ne_nil]
      exact ih (n / 10) (by omega) (by omega)

/-- A number is written with a zero in front only if it is zero, which has no other digit. -/
theorem length_toDigits_of_head? {n : Nat} (h : (Nat.toDigits 10 n).head? = some '0') :
    (Nat.toDigits 10 n).length = 1 := by
  obtain rfl : n = 0 := by
    by_contra positive
    exact head?_toDigits_ne positive h
  rw [Nat.toDigits_zero, List.length_singleton]

theorem unsignedNumber_toDigits {rest : List Char} (ends : EndsNumber rest) (negative : Bool)
    (n : Nat) :
    unsignedNumber negative (Nat.toDigits 10 n ++ rest) = some (.integer negative n, rest) := by
  have digits : (Nat.toDigits 10 n ++ rest).takeWhile Char.isDigit = Nat.toDigits 10 n := by
    rw [List.takeWhile_append_of_pos (isDigit_toDigits n), ends.takeWhile, List.append_nil]
  have behind : (Nat.toDigits 10 n ++ rest).dropWhile Char.isDigit = rest := by
    rw [List.dropWhile_append_of_pos (isDigit_toDigits n), ends.dropWhile]
  have wellFormed : ¬ ((Nat.toDigits 10 n).isEmpty = true ∨
      ((Nat.toDigits 10 n).head? = some '0' ∧ 1 < (Nat.toDigits 10 n).length)) := by
    rintro (none | ⟨zero, several⟩)
    · exact Nat.toDigits_ne_nil (List.isEmpty_iff.1 none)
    · exact absurd several (by rw [length_toDigits_of_head? zero]; decide)
  simp only [unsignedNumber, digits, behind, wellFormed, if_false, ends.fraction, ends.exponent,
    Option.bind_eq_bind, Option.bind_some, Option.pure_def, List.isEmpty_nil, and_self, if_true,
    Nat.ofDigitChars_ten_toDigits]

/-! ## Tokens -/

/-- Whether the text of a scalar is read as that scalar. Numbers with fraction or exponent, which
are kept as they are written, are left out. -/
def Scalar.Legible : Scalar → Prop
  | .real _ => False
  | .string none => False
  | _ => True

namespace Token

def Legible : Token → Prop
  | .scalar value => value.Legible
  | _ => True

/-- Whether a token and a text behind it do not run together. -/
def Apart : Token → List Char → Prop
  | .scalar _, rest => EndsNumber rest
  | _, _ => True

variable {rest : List Char}

/-- A digit begins a number. -/
theorem next?_of_isDigit {c : Char} (h : c.isDigit = true) (rest : List Char) :
    next? (c :: rest) =
      (unsignedNumber false (c :: rest)).map fun (value, rest) => (scalar value, rest) := by
  rw [next?]
  all_goals
    intros
    subst c
    exact absurd h (by decide)

theorem next?_integer (ends : EndsNumber rest) (negative : Bool) (n : Nat) :
    next? (integerText negative n ++ rest) = some (scalar (.integer negative n), rest) := by
  cases negative with
  | true =>
    rw [integerText, if_pos rfl, List.append_assoc, List.singleton_append, next?,
      unsignedNumber_toDigits ends, Option.map_some]
  | false =>
    rw [integerText, if_neg Bool.false_ne_true, List.nil_append]
    have number := unsignedNumber_toDigits ends false n
    have digits := isDigit_toDigits n
    cases written : Nat.toDigits 10 n with
    | nil => exact absurd written Nat.toDigits_ne_nil
    | cons c cs =>
      rw [written] at number digits
      rw [List.cons_append] at number ⊢
      rw [next?_of_isDigit (digits c List.mem_cons_self), number, Option.map_some]

theorem next?_string (s : String) :
    next? ('"' :: s.toList.flatMap escaped ++ ['"'] ++ rest) =
      some (scalar (.string (some s)), rest) := by
  rw [List.cons_append, List.cons_append, List.append_assoc, List.singleton_append, next?,
    Piece.scan_flatMap_escaped, Option.map_some]
  dsimp only
  rw [Scalar.ofPieces_map_char, String.ofList_toList]

/-- A token is read the way it is written. -/
theorem next?_text {token : Token} (legible : token.Legible) (apart : token.Apart rest) :
    next? (token.text ++ rest) = some (token, rest) := by
  cases token with
  | scalar value =>
    cases value with
    | null => rfl
    | bool value => cases value <;> rfl
    | integer negative n => exact next?_integer apart negative n
    | real text => exact legible.elim
    | string text =>
      cases text with
      | none => exact legible.elim
      | some s => exact next?_string s
  | _ => rfl

/-- No token begins with white space. -/
theorem dropWhile_text {token : Token} (legible : token.Legible) :
    (token.text ++ rest).dropWhile isSpace = token.text ++ rest := by
  cases token with
  | scalar value =>
    cases value with
    | null => rfl
    | bool value => cases value <;> rfl
    | integer negative n =>
      cases negative with
      | true => rfl
      | false =>
        have digits := isDigit_toDigits n
        show (Nat.toDigits 10 n ++ rest).dropWhile isSpace = Nat.toDigits 10 n ++ rest
        cases written : Nat.toDigits 10 n with
        | nil => exact absurd written Nat.toDigits_ne_nil
        | cons c cs =>
          have digit := digits c (by rw [written]; exact List.mem_cons_self)
          rw [List.cons_append, List.dropWhile_cons_of_neg]
          intro space
          simp only [isSpace, Bool.or_eq_true, beq_iff_eq] at space
          rcases space with ((rfl | rfl) | rfl) | rfl <;> exact absurd digit (by decide)
    | real text => exact legible.elim
    | string text => rfl
  | _ => rfl

theorem scan_of_next? {s : List Char} {token : Token}
    (h : next? (s.dropWhile isSpace) = some (token, rest)) :
    scan s = (scan rest).map (token :: ·) := by
  rw [scan.eq_def]
  have nonempty : (s.dropWhile isSpace).isEmpty = false := by
    cases left : s.dropWhile isSpace with
    | nil =>
      rw [left] at h
      cases h
    | cons c cs => rfl
  rw [nonempty, if_neg Bool.false_ne_true]
  split
  case h_1 none => cases none.symm.trans h
  case h_2 token' rest' some =>
    cases some.symm.trans h
    rfl

theorem scan_nil : scan [] = some [] := by
  rw [scan.eq_def]
  rfl

/-- Whether tokens are scanned off in front of a text. -/
def Scans (tokens : List Token) (rest : List Char) : Prop :=
  scan (tokens.flatMap text ++ rest) = (scan rest).map (tokens ++ ·)

theorem Scans.nil : Scans [] rest := by
  rw [Scans, List.flatMap_nil, List.nil_append]
  cases scan rest <;> rfl

theorem Scans.singleton {token : Token} (legible : token.Legible) (apart : token.Apart rest) :
    Scans [token] rest := by
  rw [Scans, List.flatMap_singleton]
  apply scan_of_next?
  rw [dropWhile_text legible, next?_text legible apart]

theorem Scans.append {first second : List Token} (h : Scans first (second.flatMap text ++ rest))
    (h' : Scans second rest) : Scans (first ++ second) rest := by
  rw [Scans] at h h' ⊢
  rw [List.flatMap_append, List.append_assoc, h, h', Option.map_map]
  simp only [Function.comp_def, List.append_assoc]

theorem Scans.cons {token : Token} {tokens : List Token} (legible : token.Legible)
    (apart : token.Apart (tokens.flatMap text ++ rest)) (h : Scans tokens rest) :
    Scans (token :: tokens) rest :=
  .append (.singleton legible apart) h

end Token

end Json

end PerpetualCurve
