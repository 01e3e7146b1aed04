import PerpetualCurve.Number.Double
import PerpetualCurve.Text.Case
import PerpetualCurve.Text.Reader
import PerpetualCurve.Toml.Value

/-!
# Layers of settings

Settings come from several sources, of which a later one overrides an earlier one. Sources are
merged into one `Setting`: tables merge name by name, all else is replaced. Names are compared
without regard to case. The outermost names of a source are places, such as `engine.spread_policy`
or `markets[0].symbol`. A place before the start of a list does not exist, nor does one that the
list has no room for; a source that names one cannot be merged.

As an environment variable is text whatever it stands for, settings are read without regard to the
difference between texts, numbers and truth values.
-/

namespace PerpetualCurve

open Text

/-- A value of merged sources. The names of a table differ from each other. -/
inductive Setting where
  | nothing
  | boolean (value : Bool)
  | integer (value : Signed 64)
  | float (value : Double)
  | text (written : String)
  | list (items : List Setting)
  | table (entries : List (String × Setting))

namespace Setting

/-! ## Settings of a document -/

/-- The name that marks a table as a date or a time, if it comes first in it. -/
def datetimeMark : String := "$__toml_private_datetime"

/-- What a marked table has for its mark. -/
def marked? : Toml.Table → Option Toml.Value
  | (name, value) :: _ => if name = datetimeMark then some value else none
  | [] => none

/-- The text of the date or the time that the value of a mark spells. -/
def datetimeText? : Toml.Value → Option String
  | .string written => (Toml.Datetime.ofText? written).map Toml.Datetime.text
  | _ => none

mutual

/-- The setting a TOML value stands for. Dates, times and marked tables become texts. -/
def ofToml? : Toml.Value → Option Setting
  | .string written => some (.text written)
  | .integer value => some (.integer value)
  | .float value => some (.float value)
  | .boolean value => some (.boolean value)
  | .datetime value => some (.text value.text)
  | .array items => (ofItems? items).map .list
  | .table entries =>
    match marked? entries with
    | some value => (datetimeText? value).map .text
    | none => (ofEntries? entries).map .table

/-- The settings of a list. -/
def ofItems? : List Toml.Value → Option (List Setting)
  | [] => some []
  | item :: items => do return (← ofToml? item) :: (← ofItems? items)

/-- The settings of a table. -/
def ofEntries? : List (String × Toml.Value) → Option (List (String × Setting))
  | [] => some []
  | (name, value) :: entries => do return (name, ← ofToml? value) :: (← ofEntries? entries)

end

/-- The source that a document makes up, which has to stand for a table. -/
def ofDocument? (document : Toml.Table) : Option (List (String × Setting)) :=
  match ofToml? (.table document) with
  | some (.table entries) => some entries
  | _ => none

/-! ## Merging -/

/-- The entries of a table; anything else gives way to an empty one. -/
def entries : Setting → List (String × Setting)
  | table entries => entries
  | _ => []

/-- The items of a list; anything else gives way to an empty one. -/
def items : Setting → List Setting
  | list items => items
  | _ => []

/-- The entries with the value at a name changed; a name that is missing comes last. -/
def alter (name : String) (change : Option Setting → Setting) :
    List (String × Setting) → List (String × Setting)
  | [] => [(name, change none)]
  | (other, value) :: rest =>
    if other = name then (name, change (some value)) :: rest
    else (other, value) :: alter name change rest

mutual

/-- A table with a value merged in at a name. A table merges with the value that is there, all else
replaces it. -/
def put (name : String) : (value : Setting) → (target : Setting) → Setting
  | table incoming, target =>
    table (alter (lower name) (fun old => putAll incoming (old.getD (table []))) target.entries)
  | value, target => table (alter (lower name) (fun _ => value) target.entries)

/-- A value with the entries of a table merged in. -/
def putAll : (incoming : List (String × Setting)) → (target : Setting) → Setting
  | [], target => target
  | (name, value) :: rest, target => putAll rest (put name value target)

end

/-- A step from a value to one of its parts. -/
inductive Step where
  | name (name : String)
  /-- The item of a list; a negative index counts from the end. -/
  | index (index : Int)

/-- The position an index stands for in a list of a given size, within the room for its items. -/
def position? (room : Nat) (index : Int) (size : Nat) : Option Nat :=
  let position := if 0 ≤ index then index else size + index
  if 0 ≤ position ∧ position < room then some position.toNat else none

/-- A list with an item put at a position, filled up as far as that position. -/
def putItem (position : Nat) (item : Setting) (items : List Setting) : List Setting :=
  (items ++ List.replicate (position + 1 - items.length) nothing).set position item

/-- A value with another value at the end of a path. On the way, what is no table or no list gives
way to one. -/
def assign? (room : Nat) (value : Setting) :
    (path : List Step) → (target : Setting) → Option Setting
  | [], _ => some value
  | [.name name], target => some (put name value target)
  | .name name :: path, target => do
    let part ← assign? room value path ((target.entries.lookup (lower name)).getD nothing)
    return table (alter (lower name) (fun _ => part) target.entries)
  | .index index :: path, target => do
    let items := target.items
    let position ← position? room index items.length
    let part ← assign? room value path (items[position]?.getD nothing)
    return list (putItem position part items)

/-! ## Places -/

/-- Whether a character may stand in a name of a place. -/
def isNameChar (c : Char) : Bool := c.isAlphanum || c == ' ' || c == '_' || c == '-'

/-- A name within a place. -/
def nameStep : Reader Step := do
  return .name (String.ofList (← .run isNameChar))

/-- An index within a place. -/
def indexStep : Reader Step := do
  let blanks : Reader Unit := discard (.spanning fun c => c == ' ' || c == '\t')
  .exactly '['
  blanks
  let minus ← .maybe (.exactly '-')
  let digits ← .run Char.isDigit
  blanks
  .exactly ']'
  let magnitude : Int := Nat.ofDigitChars 10 digits 0
  let index ← StateT.lift (Signed.ofInt? 64 (if minus.isSome then -magnitude else magnitude))
  return .index index.toInt

/-- The path to a place. -/
def place : Reader (List Step) := do
  let first ← nameStep
  let rest ← .many (.exactly '.' *> nameStep <|> indexStep)
  .atEnd
  return first :: rest

/-- The path a name stands for: the one it spells, or itself as the only step. -/
def pathOf (name : String) : List Step :=
  match place name.toList with
  | some (path, _) => path
  | none => [.name name]

/-- Settings with another source merged in. -/
def override? (room : Nat) (target : Setting) (source : List (String × Setting)) : Option Setting :=
  source.foldlM (fun target (name, value) => assign? room value (pathOf name) target) target

/-! ## Reading -/

/-- The whole number without a minus sign that a text spells. -/
def naturalOf? (s : List Char) : Option Nat :=
  let digits :=
    match s with
    | '+' :: digits => digits
    | digits => digits
  if digits.isEmpty ∨ ¬ digits.all Char.isDigit then none else some (Nat.ofDigitChars 10 digits 0)

/-- The number a text stands for, which may also be a word for yes or no. -/
def numberOf? (text : String) : Option Nat :=
  match lower text with
  | "true" => some 1
  | "on" => some 1
  | "yes" => some 1
  | "false" => some 0
  | "off" => some 0
  | "no" => some 0
  | _ => naturalOf? text.toList

/-- The largest number a setting is read as. -/
def maxNatural : Nat := 2 ^ 64 - 1

/-- Merged settings as a data format. A number may be given as a text, a truth value or a
floating-point number, a text as a number or a truth value, a tag in any case. -/
def format : Format Setting where
  parts
    | .table entries => some (.named entries)
    | .list items => some (.positional items)
    | _ => none
  exact := false
  list
    | .list items => some items
    | _ => none
  text
    | .text written => some written
    | .boolean value => some (if value then "true" else "false")
    | .integer value => some (toString value.toInt)
    | .float value => some value.text
    | _ => none
  natural
    | .integer value => if value.toInt < 0 then none else some value.toInt.toNat
    | .text written => numberOf? written
    | .boolean value => some (if value then 1 else 0)
    | .float value => some (value.toNatUpTo maxNatural)
    | _ => none
  word
    | .text word => some (lower word)
    | .table [(word, _)] => some (lower word)
    | _ => none
  isAbsent
    | .nothing => true
    | _ => false

/-! ## Environment variables -/

/-- The whole number that a text spells. -/
def integerOf? : List Char → Option (Signed 64)
  | '-' :: digits =>
    if digits.isEmpty ∨ ¬ digits.all Char.isDigit then none
    else Signed.ofInt? 64 (-(Nat.ofDigitChars 10 digits 0 : Int))
  | s => (naturalOf? s).bind fun n => Signed.ofInt? 64 n

/-- The setting a text stands for: a truth value, a whole number, a floating-point number, or else
the text itself. -/
def ofText (written : String) : Setting :=
  match lower written with
  | "true" => .boolean true
  | "false" => .boolean false
  | _ =>
    match integerOf? written.toList, Double.ofText? written.toList with
    | some value, _ => .integer value
    | none, some value => .float value
    | none, none => .text written

/-- A text with every pair of underscores, from the left, replaced by a point. -/
def separated : List Char → List Char
  | '_' :: '_' :: rest => '.' :: separated rest
  | c :: rest => c :: separated rest
  | [] => []

/-- What the name of a variable has to begin with, in any case. -/
def variableMark : List Char := ['v', 'a', 'm', 'm', '_', '_']

/-- The source that the variables of an environment make up. -/
def ofVariables (bindings : List (String × String)) : List (String × Setting) :=
  bindings.filterMap fun (name, written) =>
    let name := (lower name).toList
    if variableMark.isPrefixOf name then
      some (String.ofList (separated (name.drop variableMark.length)), ofText written)
    else none

end Setting

end PerpetualCurve
