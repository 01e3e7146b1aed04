import PerpetualCurve.Json.Coded
import PerpetualCurve.Proofs.Json.Value
import PerpetualCurve.Proofs.Record

/-!
# Records that are written are read

A type is coded lawfully if a value of it is decoded from its code, and if its code can be read from
a text. Then the compact text of a value reads as that value. Both laws are shown for the numbers,
texts and tags, for lists, and once for all records whose members spell them field by field.
-/

namespace PerpetualCurve.Json

open Coded

/-- A coding that loses nothing. -/
class LawfulCoded (α : Type) [Coded α] : Prop where
  decode_encode (a : α) : decode (encode a) = some a
  legible_encode (a : α) : (encode a).Legible

attribute [simp] LawfulCoded.decode_encode LawfulCoded.legible_encode

open LawfulCoded

/-- A value is read from the text it is printed as. -/
theorem parse?_print {α : Type} [Coded α] [LawfulCoded α] (a : α) :
    parse? α (print a) = some a := by
  rw [parse?, print, Value.read?_write (legible_encode a), Option.bind_some, decode_encode]

/-! ## Parts of records -/

instance : LawfulCoded String where
  decode_encode _ := rfl
  legible_encode _ := .scalar trivial

instance {bits : Nat} : LawfulCoded (Unsigned bits) where
  decode_encode n := Unsigned.ofNat?_toNat n
  legible_encode _ := .scalar trivial

instance {bits : Nat} : LawfulCoded (Signed bits) where
  decode_encode i := by
    simp only [decode, encode]
    by_cases negative : i.toInt < 0
    · rw [decide_eq_true negative]
      simp only [Signed.ofInt?_eq_some_iff]
      omega
    · rw [decide_eq_false negative]
      simp only [Signed.ofInt?_eq_some_iff]
      omega
  legible_encode _ := .scalar trivial

instance {α : Type} [Tagged α] [LawfulTagged α] : LawfulCoded α where
  decode_encode tag := LawfulTagged.ofWord?_word tag
  legible_encode _ := .scalar trivial

instance : LawfulCoded (Option String) where
  decode_encode text := by cases text <;> rfl
  legible_encode text := by cases text <;> exact .scalar trivial

/-- What undoes a function for each item undoes it for a list. -/
theorem mapM_map_eq_some {α β : Type} {f : α → β} {g : β → Option α}
    (undoes : ∀ a, g (f a) = some a) (as : List α) : (as.map f).mapM g = some as := by
  have inverse : g ∘ f = fun a => pure (id a) := funext undoes
  rw [List.mapM_map, inverse, List.mapM_pure, List.map_id]
  rfl

instance {α : Type} [Coded α] [LawfulCoded α] : LawfulCoded (List α) where
  decode_encode items := mapM_map_eq_some decode_encode items
  legible_encode items := by
    refine .array fun item listed => ?_
    obtain ⟨a, -, rfl⟩ := List.mem_map.1 listed
    exact legible_encode a

/-! ## Records -/

theorem named?_map_some (members : List (String × Value)) :
    Value.named? (members.map fun (name, value) => (some name, value)) = some members := by
  refine mapM_map_eq_some (fun member => ?_) members
  rfl

theorem format_parts_record (members : List (String × Value)) :
    format.parts (.record members) = some (.named members) := by
  show (Value.named? _).map Parts.named = _
  rw [named?_map_some, Option.map_some]

theorem legible_record {members : List (String × Value)}
    (h : ∀ member ∈ members, member.2.Legible) : (Value.record members).Legible := by
  refine .object (fun member listed => ?_) fun member listed => ?_
  all_goals
    obtain ⟨⟨name, value⟩, hv, rfl⟩ := List.mem_map.1 listed
  · trivial
  · exact h _ hv

/-- Whether members spell a value field by field, each with the code of what the field reads. -/
inductive Spells {β : Type} : List (String × Value) → Fields Value β → β → Prop
  | pure (b : β) : Spells [] (Pure.pure b) b
  | required {α : Type} [Coded α] [LawfulCoded α] {members : List (String × Value)} {name : String}
      {next : α → Fields Value β} {b : β} (a : α) (rest : Spells members (next a) b) :
      Spells ((name, encode a) :: members) (.required name decode >>= next) b
  | withDefault {α : Type} [Coded α] [LawfulCoded α] {members : List (String × Value)}
      {name : String} {fallback : α} {next : α → Fields Value β} {b : β} (a : α)
      (rest : Spells members (next a) b) :
      Spells ((name, encode a) :: members) (.withDefault name decode fallback >>= next) b

namespace Spells

variable {β : Type} {members : List (String × Value)} {fields : Fields Value β} {b : β}

theorem legible (h : Spells members fields b) : ∀ member ∈ members, member.2.Legible := by
  induction h with
  | pure b => exact List.forall_mem_nil _
  | required a _ ih => exact List.forall_mem_cons.2 ⟨legible_encode a, ih⟩
  | withDefault a _ ih => exact List.forall_mem_cons.2 ⟨legible_encode a, ih⟩

/-- Each field finds its member among all of them, as names differ. -/
theorem run_eq (h : Spells members fields b) {whole : List (String × Value)}
    (nodup : (whole.map Prod.fst).Nodup) (within : members ⊆ whole) :
    fields.run (.named whole) = some (b, .named whole) := by
  induction h with
  | pure b => rfl
  | required a _ ih =>
    obtain ⟨listed, within⟩ := List.cons_subset.1 within
    rw [Fields.run_required_bind_of_nodup nodup, Fields.lookup_of_mem nodup listed,
      Option.bind_some, decode_encode]
    exact ih within
  | withDefault a _ ih =>
    obtain ⟨listed, within⟩ := List.cons_subset.1 within
    rw [Fields.run_withDefault_bind_of_nodup nodup, Fields.lookup_of_mem nodup listed,
      Option.elim_some, decode_encode]
    exact ih within

end Spells

/-- A record is coded lawfully if its members have different names and spell it. -/
theorem LawfulCoded.of_record {α : Type} [Coded α] {members : α → List (String × Value)}
    {fields : Fields Value α} (encode_eq : ∀ a, encode a = .record (members a))
    (decode_eq : decode = format.record fields)
    (nodup : ∀ a, ((members a).map Prod.fst).Nodup)
    (spells : ∀ a, Spells (members a) fields a) : LawfulCoded α where
  decode_encode a := by
    have run := (spells a).run_eq (nodup a) (List.Subset.refl _)
    rw [encode_eq, decode_eq]
    simp only [Format.record, format_parts_record, run, Option.bind_eq_bind, Option.bind_some,
      Option.pure_def]
  legible_encode a := by
    rw [encode_eq]
    exact legible_record (spells a).legible

instance : LawfulCoded Reserves :=
  .of_record (fun _ => rfl) rfl (by simp) fun _ => by repeat constructor

instance : LawfulCoded ProjectedReserves :=
  .of_record (fun _ => rfl) rfl (by simp) fun _ => by repeat constructor

instance : LawfulCoded Curve :=
  .of_record (fun _ => rfl) rfl (by simp) fun _ => by repeat constructor

instance : LawfulCoded Market :=
  .of_record (fun _ => rfl) rfl (by simp) fun _ => by repeat constructor

instance : LawfulCoded OracleReading :=
  .of_record (fun _ => rfl) rfl (by simp) fun _ => by repeat constructor

instance : LawfulCoded RepegDecision :=
  .of_record (fun _ => rfl) rfl (by simp) fun _ => by repeat constructor

instance : LawfulCoded Listing :=
  .of_record (fun _ => rfl) rfl (by simp) fun _ => by repeat constructor

instance : LawfulCoded EngineSettings :=
  .of_record (fun _ => rfl) rfl (by simp) fun _ => by repeat constructor

instance : LawfulCoded Settings :=
  .of_record (fun _ => rfl) rfl (by simp) fun _ => by repeat constructor

/-! ## Every coded type -/

/-- The text of what another text reads as. -/
def reprint? (α : Type) [Coded α] (text : String) : Option String := (parse? α text).map print

/-- Reading undoes writing. A value reads from its own text, and a text that is read and written
anew still reads as the same value and is not changed by another round. -/
structure ReadsBack (α : Type) [Coded α] : Prop where
  parse?_print : ∀ a : α, parse? α (print a) = some a
  reprint?_eq : ∀ text renewed, reprint? α text = some renewed →
    parse? α renewed = parse? α text ∧ reprint? α renewed = some renewed

theorem readsBack (α : Type) [Coded α] [LawfulCoded α] : ReadsBack α where
  parse?_print := parse?_print
  reprint?_eq text renewed h := by
    obtain ⟨a, read, rfl⟩ := Option.map_eq_some_iff.1 h
    rw [reprint?, parse?_print, read, Option.map_some]
    exact ⟨rfl, rfl⟩

/-- Every type with a JSON form reads back: the records of the curve and of the quotes, those of the
settings with markets in any number and texts of any characters, and the tags. -/
theorem all_readsBack :
    (ReadsBack Curve ∧ ReadsBack Market ∧ ReadsBack OracleReading ∧ ReadsBack RepegDecision ∧
      ReadsBack Reserves ∧ ReadsBack ProjectedReserves) ∧
    (ReadsBack Listing ∧ ReadsBack (List Listing) ∧ ReadsBack EngineSettings ∧
      ReadsBack Settings) ∧
    ReadsBack Side ∧ ReadsBack Asset ∧ ReadsBack Flow ∧ ReadsBack SpreadPolicy ∧
      ReadsBack OracleSource := by
  refine ⟨⟨?_, ?_, ?_, ?_, ?_, ?_⟩, ⟨?_, ?_, ?_, ?_⟩, ?_, ?_, ?_, ?_, ?_⟩
  all_goals exact readsBack _

/-- Quotes, backslashes, line ends and control characters are written as escapes. -/
example : print "\"\\\n\x01é" = "\"\\\"\\\\\\n\\u0001é\"" := by decide +kernel

end PerpetualCurve.Json
