import PerpetualCurve.Number.Bounded
import PerpetualCurve.Number.Double
import PerpetualCurve.Record
import PerpetualCurve.Toml.Datetime

/-!
# TOML values

The values of a document, and how a record is read from them when types are taken at their word: no
number stands for a text, no text for a number.
-/

namespace PerpetualCurve.Toml

/-- A TOML value. The names of a table differ from each other. -/
inductive Value where
  | string (text : String)
  | integer (value : Signed 64)
  | float (value : Double)
  | boolean (value : Bool)
  | datetime (value : Datetime)
  | array (items : List Value)
  | table (entries : List (String × Value))

/-- The entries of a table. -/
abbrev Table := List (String × Value)

/-- TOML as a data format. A tag is a text, or a table that gives it an empty value. Items of an
array behind the last field of a record are passed over. A date or a time is a record in which every
field is missing. -/
def format : Format Value where
  parts
    | .table entries => some (.named entries)
    | .array items => some (.positional items)
    | .datetime _ => some (.named [])
    | _ => none
  exact := false
  list
    | .array items => some items
    | _ => none
  text
    | .string text => some text
    | _ => none
  natural
    | .integer value => if value.toInt < 0 then none else some value.toInt.toNat
    | _ => none
  word
    | .string word => some word
    | .table [(word, .table [])] => some word
    | .table [(word, .array [])] => some word
    | _ => none
  isAbsent _ := false

end PerpetualCurve.Toml
