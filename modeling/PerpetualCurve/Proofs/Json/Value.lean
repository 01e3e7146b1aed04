import PerpetualCurve.Json.Value
import PerpetualCurve.Proofs.Json.Token

/-!
# Values that are written are read

The tokens of a value take the machine that builds values from the point where a value may stand to
the point behind that value, with the same arrays and objects open. The text of a value is scanned
into its tokens, as every scalar in it is followed by a bracket, a comma, a colon or the end.
-/

namespace PerpetualCurve.Json

namespace Value

/-- Induction over a value with all its parts. -/
@[elab_as_elim]
theorem induction {motive : Value → Prop} (scalar : ∀ value, motive (scalar value))
    (array : ∀ items, (∀ item ∈ items, motive item) → motive (array items))
    (object : ∀ members, (∀ member ∈ members, motive member.2) → motive (object members))
    (value : Value) : motive value :=
  match value with
  | .scalar value => scalar value
  | .array items => array items fun item _ => induction scalar array object item
  | .object members => object members fun member _ => induction scalar array object member.2
termination_by value
decreasing_by
  case _ listed => exact Nat.lt_trans (List.sizeOf_lt_of_mem listed) (by simp)
  case _ listed =>
    have := List.sizeOf_lt_of_mem listed
    rcases member with ⟨name, inner⟩
    simp only [Prod.mk.sizeOf_spec, Value.object.sizeOf_spec] at this ⊢
    omega

/-! ## From tokens to values -/

/-- Whether tokens of a value are read as that value, wherever a value may stand. -/
def Builds (value : Value) : Prop :=
  ∀ frames, value.tokens.foldlM Reading.step? ⟨frames, .value⟩ = some ⟨frames, .done value⟩

/-- A value begins with a token, which does not end an array. -/
theorem exists_tokens_eq_cons (value : Value) :
    ∃ token rest, value.tokens = token :: rest ∧ token ≠ .endArray := by
  cases value with
  | scalar value => exact ⟨_, _, rfl, nofun⟩
  | array items => exact ⟨_, _, rfl, nofun⟩
  | object members => exact ⟨_, _, rfl, nofun⟩

theorem itemTokens_cons_cons (item second : Value) (items : List Value) :
    itemTokens (item :: second :: items) = item.tokens ++ .comma :: itemTokens (second :: items) :=
  rfl

theorem memberTokens_cons_cons (name : Option String) (value : Value)
    (second : Option String × Value) (members : List (Option String × Value)) :
    memberTokens ((name, value) :: second :: members) =
      .scalar (.string name) :: .colon ::
        (value.tokens ++ .comma :: memberTokens (second :: members)) :=
  rfl

theorem itemTokens_cons (item : Value) (items : List Value) :
    ∃ rest, itemTokens (item :: items) = item.tokens ++ rest := by
  cases items with
  | nil => exact ⟨[], (List.append_nil _).symm⟩
  | cons second items => exact ⟨_, itemTokens_cons_cons item second items⟩

/-- The items up to the end of an array that holds the items `before` already, last first. -/
theorem foldlM_itemTokens {items : List Value} (builds : ∀ item ∈ items, item.Builds)
    (nonempty : items ≠ []) (before : List Value) (frames : List Frame) :
    (itemTokens items ++ [Token.endArray]).foldlM Reading.step? ⟨.array before :: frames, .value⟩ =
      some ⟨frames, .done (.array (before.reverse ++ items))⟩ := by
  induction items generalizing before with
  | nil => exact absurd rfl nonempty
  | cons item items ih =>
    have first := builds item List.mem_cons_self (.array before :: frames)
    cases items with
    | nil =>
      rw [itemTokens, List.foldlM_append, first]
      simp [Reading.step?]
    | cons second items =>
      have rest := ih (fun item h => builds item (List.mem_cons_of_mem _ h)) nofun (item :: before)
      rw [itemTokens_cons_cons, List.append_assoc, List.foldlM_append, first]
      rw [List.reverse_cons, List.append_assoc] at rest
      exact rest

/-- The same at the opening bracket, where the array might also end. -/
theorem foldlM_itemTokens_first {items : List Value} (builds : ∀ item ∈ items, item.Builds)
    (frames : List Frame) :
    (itemTokens items ++ [Token.endArray]).foldlM Reading.step? ⟨frames, .item⟩ =
      some ⟨frames, .done (.array items)⟩ := by
  cases items with
  | nil => rfl
  | cons item items =>
    obtain ⟨token, inner, begins, ne⟩ := item.exists_tokens_eq_cons
    obtain ⟨rest, tokens⟩ := itemTokens_cons item items
    have all := foldlM_itemTokens builds nofun [] frames
    rw [tokens, begins] at all ⊢
    -- where no array ends, both expectations take the same token to the same place
    refine .trans ?_ all
    simp only [List.cons_append, List.foldlM_cons]
    cases token
    case endArray => exact absurd rfl ne
    all_goals rfl

/-- The members up to the end of an object that holds the members `before` already, last first. -/
theorem foldlM_memberTokens {members : List (Option String × Value)}
    (builds : ∀ member ∈ members, member.2.Builds) (nonempty : members ≠ [])
    (before : List (Option String × Value)) (frames : List Frame) :
    (memberTokens members ++ [Token.endObject]).foldlM Reading.step? ⟨frames, .name before⟩ =
      some ⟨frames, .done (.object (before.reverse ++ members))⟩ := by
  induction members generalizing before with
  | nil => exact absurd rfl nonempty
  | cons member members ih =>
    obtain ⟨name, value⟩ := member
    have first := builds _ List.mem_cons_self (.object before name :: frames)
    cases members with
    | nil =>
      simp only [memberTokens, List.cons_append, List.foldlM_cons, Reading.step?,
        Option.bind_eq_bind, Option.bind_some, List.foldlM_append, first]
      simp
    | cons second members =>
      have rest := ih (fun member h => builds member (List.mem_cons_of_mem _ h)) nofun
        ((name, value) :: before)
      rw [List.reverse_cons, List.append_assoc] at rest
      refine .trans ?_ rest
      simp only [memberTokens_cons_cons, List.cons_append, List.append_assoc, List.foldlM_cons,
        Reading.step?, Option.bind_eq_bind, Option.bind_some, List.foldlM_append, first]

theorem foldlM_memberTokens_first {members : List (Option String × Value)}
    (builds : ∀ member ∈ members, member.2.Builds) (frames : List Frame) :
    (memberTokens members ++ [Token.endObject]).foldlM Reading.step? ⟨frames, .firstName⟩ =
      some ⟨frames, .done (.object members)⟩ := by
  cases members with
  | nil => rfl
  | cons member members =>
    refine .trans ?_ (foldlM_memberTokens builds nofun [] frames)
    cases members <;> rfl

theorem builds (value : Value) : value.Builds := by
  induction value using induction with
  | scalar value =>
    intro frames
    rfl
  | array items ih =>
    intro frames
    rw [tokens, List.foldlM_cons]
    exact foldlM_itemTokens_first ih frames
  | object members ih =>
    intro frames
    rw [tokens, List.foldlM_cons]
    exact foldlM_memberTokens_first ih frames

/-- The tokens of a value stand for that value. -/
theorem ofTokens?_tokens (value : Value) : ofTokens? value.tokens = some value := by
  rw [ofTokens?, Reading.start, value.builds []]

/-! ## From texts to tokens -/

/-- Whether every scalar in a value is read as it is written, the names of members among them. -/
inductive Legible : Value → Prop
  | scalar {value : Scalar} : value.Legible → Legible (scalar value)
  | array {items : List Value} : (∀ item ∈ items, Legible item) → Legible (array items)
  | object {members : List (Option String × Value)} :
      (∀ member ∈ members, (Scalar.string member.1).Legible) →
      (∀ member ∈ members, Legible member.2) → Legible (object members)

open Token

/-- Whether the tokens of a value are scanned off in front of any text that does not run on. -/
def Scannable (value : Value) : Prop := ∀ rest, EndsNumber rest → Scans value.tokens rest

theorem scans_itemTokens {items : List Value} (scannable : ∀ item ∈ items, item.Scannable)
    {rest : List Char} (ends : EndsNumber rest) : Scans (itemTokens items) rest := by
  induction items with
  | nil => exact .nil
  | cons item items ih =>
    have first := scannable item List.mem_cons_self
    cases items with
    | nil => exact first rest ends
    | cons second items =>
      have others := ih fun item h => scannable item (List.mem_cons_of_mem _ h)
      exact .append (first _ (.cons (by decide))) (.cons trivial trivial others)

theorem scans_memberTokens {members : List (Option String × Value)}
    (names : ∀ member ∈ members, (Scalar.string member.1).Legible)
    (scannable : ∀ member ∈ members, member.2.Scannable) {rest : List Char}
    (ends : EndsNumber rest) : Scans (memberTokens members) rest := by
  induction members with
  | nil => exact .nil
  | cons member members ih =>
    obtain ⟨name, value⟩ := member
    have named : (Token.scalar (.string name)).Legible := names _ List.mem_cons_self
    have first : value.Scannable := scannable _ List.mem_cons_self
    cases members with
    | nil => exact .cons named (.cons (by decide)) (.cons trivial trivial (first rest ends))
    | cons second members =>
      have others := ih (fun member h => names member (List.mem_cons_of_mem _ h))
        fun member h => scannable member (List.mem_cons_of_mem _ h)
      refine .cons named (.cons (by decide)) (.cons trivial trivial ?_)
      exact .append (first _ (.cons (by decide))) (.cons trivial trivial others)

theorem Legible.scannable {value : Value} (h : value.Legible) : value.Scannable := by
  induction h with
  | scalar legible =>
    intro rest ends
    exact .singleton legible ends
  | array _ ih =>
    intro rest ends
    refine .cons trivial trivial (.append ?_ (.singleton trivial trivial))
    exact scans_itemTokens ih (.cons (by decide))
  | object names _ ih =>
    intro rest ends
    refine .cons trivial trivial (.append ?_ (.singleton trivial trivial))
    exact scans_memberTokens names ih (.cons (by decide))

/-- A value is read from the text that is written for it. -/
theorem read?_write {value : Value} (h : value.Legible) : read? value.write = some value := by
  have scanned := h.scannable [] .nil
  rw [Scans, List.append_nil, scan_nil, Option.map_some, List.append_nil] at scanned
  rw [read?, write, String.toList_ofList, scanned, Option.bind_some, ofTokens?_tokens]

end Value

end PerpetualCurve.Json
