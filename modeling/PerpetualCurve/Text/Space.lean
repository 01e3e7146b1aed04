/-!
# White space

The characters with the Unicode property `White_Space`.
-/

namespace PerpetualCurve.Text

/-- Whether a character is white space. -/
def isSpace (c : Char) : Bool :=
  let n := c.toNat
  (0x9 ≤ n && n ≤ 0xD) || n == 0x20 || n == 0x85 || n == 0xA0 || n == 0x1680 ||
    (0x2000 ≤ n && n ≤ 0x200A) || n == 0x2028 || n == 0x2029 || n == 0x202F || n == 0x205F ||
    n == 0x3000

theorem isSpace_of_isWhitespace {c : Char} (h : c.isWhitespace) : isSpace c := by
  simp only [Char.isWhitespace, Bool.or_eq_true, decide_eq_true_eq] at h
  rcases h with ((rfl | rfl) | rfl) | rfl <;> decide

/-- Whether a text holds nothing but white space. -/
def isBlank (text : String) : Bool := text.toList.all isSpace

end PerpetualCurve.Text
