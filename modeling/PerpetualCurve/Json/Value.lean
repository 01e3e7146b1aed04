import PerpetualCurve.Json.Token

/-!
# JSON values

A value is built from its tokens by a machine with a stack: each open array or object waits on the
stack for the value it continues with. `Value.tokens` lists the tokens of a value, so that reading
is `Token.scan` and `ofTokens?`, and writing is `tokens` and `Token.text`.
-/

namespace PerpetualCurve.Json

/-- A JSON value. An object keeps its members in the order of the text, repeated names included, and
names without a text as well. -/
inductive Value where
  | scalar (value : Scalar)
  | array (items : List Value)
  | object (members : List (Option String × Value))

/-- An array or object that is open while one of its values is read. What it holds so far is kept
last first. -/
inductive Frame where
  | array (items : List Value)
  | object (members : List (Option String × Value)) (name : Option String)

/-- What a text may go on with. -/
inductive Expectation where
  /-- A value. -/
  | value
  /-- The first item of an array, or its end. -/
  | item
  /-- The name of a member of an object that holds `members` so far, last first. -/
  | name (members : List (Option String × Value))
  /-- The first name of an object, or its end. -/
  | firstName
  /-- The colon behind a name. -/
  | colon (members : List (Option String × Value)) (name : Option String)
  /-- What follows a complete value. -/
  | done (value : Value)

/-- The open arrays and objects, the innermost first, and what comes next. -/
structure Reading where
  frames : List Frame
  next : Expectation

namespace Reading

/-- The reading of a text that has not begun. -/
def start : Reading := ⟨[], .value⟩

/-- A token where a value may stand. -/
def beginValue? (frames : List Frame) : Token → Option Reading
  | .scalar value => some ⟨frames, .done (.scalar value)⟩
  | .beginArray => some ⟨frames, .item⟩
  | .beginObject => some ⟨frames, .firstName⟩
  | _ => none

/-- One token further. -/
def step? (reading : Reading) (token : Token) : Option Reading :=
  match reading.next, token with
  | .value, token => beginValue? reading.frames token
  | .item, .endArray => some ⟨reading.frames, .done (.array [])⟩
  | .item, token => beginValue? (.array [] :: reading.frames) token
  | .firstName, .endObject => some ⟨reading.frames, .done (.object [])⟩
  | .firstName, .scalar (.string name) => some ⟨reading.frames, .colon [] name⟩
  | .name members, .scalar (.string name) => some ⟨reading.frames, .colon members name⟩
  | .colon members name, .colon => some ⟨.object members name :: reading.frames, .value⟩
  | .done value, token =>
    match reading.frames, token with
    | .array items :: frames, .comma => some ⟨.array (value :: items) :: frames, .value⟩
    | .array items :: frames, .endArray =>
      some ⟨frames, .done (.array (value :: items).reverse)⟩
    | .object members name :: frames, .comma => some ⟨frames, .name ((name, value) :: members)⟩
    | .object members name :: frames, .endObject =>
      some ⟨frames, .done (.object ((name, value) :: members).reverse)⟩
    | _, _ => none
  | _, _ => none

end Reading

namespace Value

/-- The value a sequence of tokens stands for. -/
def ofTokens? (tokens : List Token) : Option Value :=
  match tokens.foldlM Reading.step? Reading.start with
  | some ⟨[], .done value⟩ => some value
  | _ => none

mutual

/-- The tokens of a value. -/
def tokens : Value → List Token
  | scalar value => [.scalar value]
  | array items => .beginArray :: (itemTokens items ++ [.endArray])
  | object members => .beginObject :: (memberTokens members ++ [.endObject])

/-- The tokens of the items of an array. -/
def itemTokens : List Value → List Token
  | [] => []
  | [item] => item.tokens
  | item :: items => item.tokens ++ .comma :: itemTokens items

/-- The tokens of the members of an object. -/
def memberTokens : List (Option String × Value) → List Token
  | [] => []
  | [(name, value)] => .scalar (.string name) :: .colon :: value.tokens
  | (name, value) :: members =>
    .scalar (.string name) :: .colon :: (value.tokens ++ .comma :: memberTokens members)

end

/-- An object with the given members in order. -/
def record (members : List (String × Value)) : Value :=
  object (members.map fun (name, value) => (some name, value))

/-- The members of an object by name, if every name has a text. -/
def named? (members : List (Option String × Value)) : Option (List (String × Value)) :=
  members.mapM fun (name, value) => name.map fun text => (text, value)

/-- The value of a text that holds nothing else. -/
def read? (text : String) : Option Value := (Token.scan text.toList).bind ofTokens?

/-- The compact text of a value. -/
def write (value : Value) : String := String.ofList (value.tokens.flatMap Token.text)

end Value

end PerpetualCurve.Json
