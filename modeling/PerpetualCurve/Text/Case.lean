/-!
# Letter case

The names that texts are compared with have ASCII letters only. Two kinds of letters have such a
letter for their lower-case form: the ASCII capitals and the Kelvin sign.
-/

namespace PerpetualCurve.Text

/-- The ASCII letter that is the lower-case form of a letter, or the character itself. -/
def lowerChar (c : Char) : Char := if c = '\u212A' then 'k' else c.toLower

/-- A text with every letter in its lower-case form, as far as that is an ASCII letter. -/
def lower (text : String) : String := String.ofList (text.toList.map lowerChar)

end PerpetualCurve.Text
