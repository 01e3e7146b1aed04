import PerpetualCurve.Number.Bounded
import PerpetualCurve.Side

/-!
# Records in a data format

The same records are read from several data formats. A `Format` says how a format spells a record, a
list, a text, a number and a tag; a record is then described once, by its `Fields`, and can be read
from any of them.
-/

namespace PerpetualCurve

variable {V α : Type}

/-- The parts of a record: members by name, or items in the order of the fields. -/
inductive Parts (V : Type) where
  | named (members : List (String × V))
  | positional (items : List V)

/-- How the values of a data format are read. -/
structure Format (V : Type) where
  parts : V → Option (Parts V)
  /-- Whether a record without names has to end with its last field. -/
  exact : Bool
  list : V → Option (List V)
  text : V → Option String
  natural : V → Option Nat
  /-- The word of a tag. -/
  word : V → Option String
  /-- Whether a value stands for nothing at all. -/
  isAbsent : V → Bool

/-- The fields of a record with the values `V`, read one after the other. -/
abbrev Fields (V : Type) := StateT (Parts V) Option

namespace Fields

/-- The value of a field. A name must not be repeated; items are taken in order. -/
def take (name : String) : Fields V (Option V)
  | .named members =>
    match members.filter (·.1 == name) with
    | [] => some (none, .named members)
    | [(_, value)] => some (some value, .named members)
    | _ => none
  | .positional [] => some (none, .positional [])
  | .positional (value :: items) => some (some value, .positional items)

/-- A field that has to be there. -/
def required (name : String) (read : V → Option α) : Fields V α := do
  match (← take name) with
  | some value => read value
  | none => failure

/-- A field with a value for when it is missing. -/
def withDefault (name : String) (read : V → Option α) (fallback : α) : Fields V α := do
  match (← take name) with
  | some value => read value
  | none => return fallback

end Fields

namespace Format

variable (format : Format V)

/-- The record with the given fields. -/
def record (fields : Fields V α) (value : V) : Option α := do
  let (result, rest) ← fields.run (← format.parts value)
  match rest with
  | .positional (_ :: _) => if format.exact then none else return result
  | _ => return result

/-- The list of whatever `read` reads. -/
def listOf (read : V → Option α) (value : V) : Option (List α) :=
  (format.list value).bind (·.mapM read)

/-- A number of a given width. -/
def unsigned (bits : Nat) (value : V) : Option (Unsigned bits) :=
  (format.natural value).bind (Unsigned.ofNat? bits)

/-- A tag. -/
def tag [Tagged α] (value : V) : Option α := (format.word value).bind Tagged.ofWord?

/-- What `read` reads, or nothing. -/
def optional (read : V → Option α) (value : V) : Option (Option α) :=
  if format.isAbsent value then some none else (read value).map some

end Format

end PerpetualCurve
