import PerpetualCurve.Text.Hex

/-!
# Tokens of JSON text

A JSON text is a sequence of tokens with white space between them. `Token.scan` splits a text into
its tokens, `Token.text` writes one down, with the escapes a string needs and no others.
-/

namespace PerpetualCurve.Json

/-- The values without parts. -/
inductive Scalar where
  | null
  | bool (value : Bool)
  /-- A number without fraction and exponent. The sign is kept apart, as `-0` differs from `0`. -/
  | integer (negative : Bool) (magnitude : Nat)
  /-- A number with fraction or exponent, as it is written. -/
  | real (text : String)
  /-- A string. It has no text if half of a surrogate pair stands alone in it. -/
  | string (text : Option String)
  deriving DecidableEq

/-- The pieces of JSON text that carry meaning. -/
inductive Token where
  | beginObject
  | endObject
  | beginArray
  | endArray
  | colon
  | comma
  | scalar (value : Scalar)
  deriving DecidableEq

/-- The white space between tokens. -/
def isSpace (c : Char) : Bool := c == ' ' || c == '\n' || c == '\t' || c == '\r'

/-! ## Strings -/

/-- A character of a string, or an escape that names half of a surrogate pair. -/
inductive Piece where
  | char (c : Char)
  | half (unit : Nat)
  deriving DecidableEq

namespace Piece

/-- What the escape of a 16-bit unit stands for. -/
def ofUnit (unit : Nat) : Piece :=
  if 0xD800 ≤ unit ∧ unit < 0xE000 then half unit else char (Char.ofNat unit)

/-- The character behind a one-letter escape. -/
def ofEscape? : Char → Option Char
  | '"' => some '"'
  | '\\' => some '\\'
  | '/' => some '/'
  | 'b' => some '\x08'
  | 'f' => some '\x0c'
  | 'n' => some '\n'
  | 'r' => some '\r'
  | 't' => some '\t'
  | _ => none

/-- The pieces up to the closing quote, and what follows it. Control characters have to be
escaped. -/
def scan : List Char → Option (List Piece × List Char)
  | [] => none
  | '"' :: rest => some ([], rest)
  | '\\' :: 'u' :: a :: b :: c :: d :: rest => do
    let unit ← Text.hexNumber? [a, b, c, d]
    let (pieces, rest) ← scan rest
    return (ofUnit unit :: pieces, rest)
  | '\\' :: letter :: rest => do
    let c ← ofEscape? letter
    let (pieces, rest) ← scan rest
    return (char c :: pieces, rest)
  | c :: rest =>
    if c = '\\' ∨ c < ' ' then none
    else do
      let (pieces, rest) ← scan rest
      return (char c :: pieces, rest)

/-- The characters the pieces stand for; two halves of a pair make one. -/
def join? : List Piece → Option (List Char)
  | [] => some []
  | char c :: pieces => (join? pieces).map (c :: ·)
  | half high :: half low :: pieces =>
    if high < 0xDC00 ∧ 0xDC00 ≤ low then
      (join? pieces).map (Char.ofNat (0x10000 + (high - 0xD800) * 0x400 + (low - 0xDC00)) :: ·)
    else none
  | half _ :: _ => none

end Piece

/-- The value of a string with the given pieces. -/
def Scalar.ofPieces (pieces : List Piece) : Scalar :=
  .string ((Piece.join? pieces).map String.ofList)

/-- How a character is written within a string. -/
def escaped (c : Char) : List Char :=
  match c with
  | '"' => ['\\', '"']
  | '\\' => ['\\', '\\']
  | '\x08' => ['\\', 'b']
  | '\x0c' => ['\\', 'f']
  | '\n' => ['\\', 'n']
  | '\r' => ['\\', 'r']
  | '\t' => ['\\', 't']
  | c =>
    if c < ' ' then
      ['\\', 'u', '0', '0', Text.hexDigit (c.toNat / 16), Text.hexDigit (c.toNat % 16)]
    else [c]

/-! ## Numbers -/

/-- A fraction at the head of a text, and what follows; none is needed. -/
def fraction : List Char → Option (List Char × List Char)
  | '.' :: rest =>
    if (rest.takeWhile Char.isDigit).isEmpty then none
    else some ('.' :: rest.takeWhile Char.isDigit, rest.dropWhile Char.isDigit)
  | rest => some ([], rest)

/-- The sign of an exponent at the head of a text, and what follows. -/
def exponentSign : List Char → List Char × List Char
  | '+' :: rest => (['+'], rest)
  | '-' :: rest => (['-'], rest)
  | rest => ([], rest)

/-- An exponent at the head of a text, and what follows; none is needed. -/
def exponent : List Char → Option (List Char × List Char)
  | [] => some ([], [])
  | c :: rest =>
    if c = 'e' ∨ c = 'E' then
      let (sign, rest) := exponentSign rest
      if (rest.takeWhile Char.isDigit).isEmpty then none
      else some (c :: sign ++ rest.takeWhile Char.isDigit, rest.dropWhile Char.isDigit)
    else some ([], c :: rest)

/-- A number behind its sign, and what follows. A leading zero stands alone. -/
def unsignedNumber (negative : Bool) (s : List Char) : Option (Scalar × List Char) := do
  let digits := s.takeWhile Char.isDigit
  if digits.isEmpty ∨ (digits.head? = some '0' ∧ 1 < digits.length) then
    none
  let (fraction, rest) ← fraction (s.dropWhile Char.isDigit)
  let (exponent, rest) ← exponent rest
  if fraction.isEmpty ∧ exponent.isEmpty then
    return (.integer negative (Nat.ofDigitChars 10 digits 0), rest)
  else
    let sign := if negative then ['-'] else []
    return (.real (String.ofList (sign ++ digits ++ fraction ++ exponent)), rest)

/-- The digits of a number, with its sign. -/
def integerText (negative : Bool) (magnitude : Nat) : List Char :=
  (if negative then ['-'] else []) ++ Nat.toDigits 10 magnitude

/-! ## Tokens -/

namespace Token

/-- The token at the head of a text that does not begin with white space, and what follows. -/
def next? : List Char → Option (Token × List Char)
  | [] => none
  | '\x7b' :: rest => some (beginObject, rest)
  | '\x7d' :: rest => some (endObject, rest)
  | '[' :: rest => some (beginArray, rest)
  | ']' :: rest => some (endArray, rest)
  | ':' :: rest => some (colon, rest)
  | ',' :: rest => some (comma, rest)
  | 'n' :: 'u' :: 'l' :: 'l' :: rest => some (scalar .null, rest)
  | 't' :: 'r' :: 'u' :: 'e' :: rest => some (scalar (.bool true), rest)
  | 'f' :: 'a' :: 'l' :: 's' :: 'e' :: rest => some (scalar (.bool false), rest)
  | '"' :: rest => (Piece.scan rest).map fun (pieces, rest) => (scalar (.ofPieces pieces), rest)
  | '-' :: rest => (unsignedNumber true rest).map fun (value, rest) => (scalar value, rest)
  | c :: rest => (unsignedNumber false (c :: rest)).map fun (value, rest) => (scalar value, rest)

end Token

theorem Piece.length_of_scan {s rest : List Char} {pieces : List Piece}
    (h : Piece.scan s = some (pieces, rest)) : rest.length < s.length := by
  fun_induction Piece.scan s generalizing pieces rest with
  | case1 => simp at h
  | case2 => simp_all
  | case3 a b c d s ih =>
    simp only [Option.pure_def, Option.bind_eq_bind, Option.bind_eq_some_iff, Prod.exists,
      Option.some.injEq, Prod.mk.injEq] at h
    obtain ⟨_, _, _, _, hs, _, rfl⟩ := h
    have := ih hs
    simp only [List.length_cons]
    omega
  | case4 letter s _ ih =>
    simp only [Option.pure_def, Option.bind_eq_bind, Option.bind_eq_some_iff, Prod.exists,
      Option.some.injEq, Prod.mk.injEq] at h
    obtain ⟨_, _, _, _, hs, _, rfl⟩ := h
    have := ih hs
    simp only [List.length_cons]
    omega
  | case5 => simp at h
  | case6 c s _ _ _ _ ih =>
    simp only [Option.pure_def, Option.bind_eq_bind, Option.bind_eq_some_iff, Prod.exists,
      Option.some.injEq, Prod.mk.injEq] at h
    obtain ⟨_, _, hs, _, rfl⟩ := h
    have := ih hs
    simp only [List.length_cons]
    omega

theorem length_of_fraction {s rest text : List Char} (h : fraction s = some (text, rest)) :
    rest.length ≤ s.length := by
  unfold fraction at h
  split at h
  · split at h
    · simp at h
    · simp only [Option.some.injEq, Prod.mk.injEq] at h
      rw [← h.2, List.length_cons]
      exact Nat.le_succ_of_le (List.dropWhile_sublist _).length_le
  · simp_all

theorem length_exponentSign_le (s : List Char) : (exponentSign s).2.length ≤ s.length := by
  unfold exponentSign
  split <;> simp

theorem length_of_exponent {s rest text : List Char} (h : exponent s = some (text, rest)) :
    rest.length ≤ s.length := by
  unfold exponent at h
  split at h
  · simp_all
  · rename_i c s
    split at h
    · dsimp only at h
      split at h
      · simp at h
      · simp only [Option.some.injEq, Prod.mk.injEq] at h
        rw [← h.2, List.length_cons]
        exact Nat.le_succ_of_le
          (Nat.le_trans (List.dropWhile_sublist _).length_le (length_exponentSign_le s))
    · simp_all

theorem length_of_unsignedNumber {negative : Bool} {s rest : List Char} {value : Scalar}
    (h : unsignedNumber negative s = some (value, rest)) : rest.length < s.length := by
  unfold unsignedNumber at h
  dsimp only at h
  split at h
  · simp at h
  · rename_i hd
    have hlen : (s.dropWhile Char.isDigit).length < s.length := by
      cases s with
      | nil => simp at hd
      | cons c s =>
        have hc : c.isDigit = true := by
          apply Decidable.byContradiction
          intro hc
          simp [hc] at hd
        rw [List.dropWhile_cons_of_pos hc, List.length_cons]
        exact Nat.lt_succ_of_le (List.dropWhile_sublist _).length_le
    simp only [Option.pure_def, Option.bind_eq_bind, Option.bind_eq_some_iff, Prod.exists] at h
    obtain ⟨_, _, hf, _, _, he, h⟩ := h
    have hf := length_of_fraction hf
    have he := length_of_exponent he
    split at h <;> simp only [Option.some.injEq, Prod.mk.injEq] at h <;> rw [← h.2] <;> omega

namespace Token

theorem length_of_next? {s rest : List Char} {token : Token} (h : next? s = some (token, rest)) :
    rest.length < s.length := by
  unfold next? at h
  split at h
  case h_1 => simp at h
  case h_11 =>
    simp only [Option.map_eq_some_iff, Prod.mk.injEq, Prod.exists] at h
    obtain ⟨_, _, h, _, rfl⟩ := h
    have := Piece.length_of_scan h
    simp only [List.length_cons]
    omega
  case h_12 =>
    simp only [Option.map_eq_some_iff, Prod.mk.injEq, Prod.exists] at h
    obtain ⟨_, _, h, _, rfl⟩ := h
    have := length_of_unsignedNumber h
    simp only [List.length_cons]
    omega
  case h_13 =>
    simp only [Option.map_eq_some_iff, Prod.mk.injEq, Prod.exists] at h
    obtain ⟨_, _, h, _, rfl⟩ := h
    exact length_of_unsignedNumber h
  all_goals
    simp only [Option.some.injEq, Prod.mk.injEq] at h
    rw [← h.2]
    simp only [List.length_cons]
    omega

theorem length_of_next?_dropWhile {s rest : List Char} {token : Token}
    (h : next? (s.dropWhile isSpace) = some (token, rest)) : rest.length < s.length :=
  Nat.lt_of_lt_of_le (length_of_next? h) (List.dropWhile_sublist _).length_le

/-- The tokens of a text. -/
def scan (s : List Char) : Option (List Token) :=
  if (s.dropWhile isSpace).isEmpty then some []
  else
    match _ : next? (s.dropWhile isSpace) with
    | none => none
    | some (token, rest) => (scan rest).map (token :: ·)
termination_by s.length
decreasing_by exact length_of_next?_dropWhile ‹_›

/-- How a token is written. -/
def text : Token → List Char
  | beginObject => ['\x7b']
  | endObject => ['\x7d']
  | beginArray => ['[']
  | endArray => [']']
  | colon => [':']
  | comma => [',']
  | scalar .null => ['n', 'u', 'l', 'l']
  | scalar (.bool true) => ['t', 'r', 'u', 'e']
  | scalar (.bool false) => ['f', 'a', 'l', 's', 'e']
  | scalar (.integer negative magnitude) => integerText negative magnitude
  | scalar (.real text) => text.toList
  | scalar (.string text) => '"' :: (text.getD "").toList.flatMap escaped ++ ['"']

end Token

end PerpetualCurve.Json
