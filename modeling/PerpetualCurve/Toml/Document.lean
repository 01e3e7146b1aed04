import PerpetualCurve.Toml.Number
import PerpetualCurve.Toml.Quoted
import PerpetualCurve.Toml.Tree

/-!
# TOML documents

A document is a sequence of lines: assignments, headers and comments. `Toml.read?` reads the table
it describes.
-/

namespace PerpetualCurve.Toml

open Text

/-- A comment up to the end of its line. -/
def comment : Reader Unit := do
  .exactly '#'
  discard (.spanning isTextChar)

/-- White space, line ends and comments between the items of an array. -/
def betweenItems : Reader Unit :=
  discard (.many (discard (.satisfying isBlank) <|> newline <|> comment *> newline))

/-- An array of what `element` reads. A comma may follow the last item. -/
def array (element : Reader Value) : Reader Value := do
  .exactly '['
  betweenItems
  let item := element <* betweenItems
  let separator := .exactly ',' <* betweenItems
  let items ←
    match (← .maybe item) with
    | none => pure []
    | some first =>
      let rest ← .many (separator *> item)
      discard (.maybe separator)
      pure (first :: rest)
  .exactly ']'
  return .array items

/-- A dotted name, an equals sign and a value. -/
def assignment (value : Reader Value) : Reader Assignment := do
  let (path, name) ← dottedName
  .exactly '='
  blanks
  return { path, name, value := ← value }

/-- A table on one line. -/
def inlineTable (element : Reader Value) : Reader Value := do
  .exactly '\x7b'
  let entry := assignment element <* blanks
  let assignments ←
    match (← .maybe entry) with
    | none => pure []
    | some first => do pure (first :: (← .many (.exactly ',' *> entry)))
  blanks
  .exactly '\x7d'
  StateT.lift (Entries.ofInline? assignments)

/-- A value without parts. -/
def scalar : Reader Value := do
  match (← .ahead) with
  | some '"' => return .string (← string)
  | some 't' => do
    .word "true"
    return .boolean true
  | some 'f' => do
    .word "false"
    return .boolean false
  | some c => if c = apostrophe then return .string (← string) else numeral
  | none => failure

/-- A value whose parts are nested at most `depth` deep. -/
def value : (depth : Nat) → Reader Value
  | 0 => scalar
  | depth + 1 => do
    match (← .ahead) with
    | some '[' => array (value depth)
    | some '\x7b' => inlineTable (value depth)
    | _ => scalar

/-- The header of a table. -/
def header : Reader Line := do
  .exactly '['
  let (path, name) ← dottedName
  .exactly ']'
  return .header path name

/-- A header in double brackets. -/
def elementHeader : Reader Line := do
  .word "[["
  let (path, name) ← dottedName
  .word "]]"
  return .elementHeader path name

/-- What a line says. -/
def statement : Reader Line :=
  elementHeader <|> header <|> do return .assignment (← assignment (value (depthLimit - 1)))

/-- A line, up to and with its end. -/
def line : Reader (Option Line) := do
  blanks
  let statement ← .maybe statement
  blanks
  discard (.maybe comment)
  newline <|> .atEnd
  return statement

/-- A document, up to its end. A byte order mark may stand before it. -/
def document : Reader Table := do
  discard (.maybe (.exactly '\uFEFF'))
  let lines ← .many line
  .atEnd
  StateT.lift (tableOf? (lines.filterMap id))

/-- The table a text describes. -/
def read? (text : String) : Option Table := (document text.toList).map Prod.fst

end PerpetualCurve.Toml
