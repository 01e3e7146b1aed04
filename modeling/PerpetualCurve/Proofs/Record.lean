import PerpetualCurve.Market.Listing
import PerpetualCurve.Text.Case

/-!
# Reading records

What a field reads from members with names depends on the members with its name alone: there has to
be one, or none if there is a fallback. Every tag has a word of its own, without capital letters.
-/

namespace PerpetualCurve

namespace Fields

variable {V α β : Type}

theorem run_take_named (name : String) (members : List (String × V)) :
    (take name).run (.named members) =
      match members.filter (·.1 == name) with
      | [] => some (none, .named members)
      | [(_, value)] => some (some value, .named members)
      | _ => none :=
  rfl

theorem run_required_named (name : String) (read : V → Option α) (members : List (String × V)) :
    (required name read).run (.named members) =
      match members.filter (·.1 == name) with
      | [(_, value)] => (read value).map (·, .named members)
      | _ => none := by
  rw [required, StateT.run_bind, run_take_named]
  generalize members.filter (·.1 == name) = found
  rcases found with _ | ⟨⟨_, value⟩, _ | ⟨_, _⟩⟩
  · rfl
  · cases h : read value <;> simp [h]
  · rfl

theorem run_withDefault_named (name : String) (read : V → Option α) (fallback : α)
    (members : List (String × V)) :
    (withDefault name read fallback).run (.named members) =
      match members.filter (·.1 == name) with
      | [] => some (fallback, .named members)
      | [(_, value)] => (read value).map (·, .named members)
      | _ => none := by
  rw [withDefault, StateT.run_bind, run_take_named]
  generalize members.filter (·.1 == name) = found
  rcases found with _ | ⟨⟨_, value⟩, _ | ⟨_, _⟩⟩
  · rfl
  · cases h : read value <;> simp [h]
  · rfl

theorem lookup_eq_none_iff {members : List (String × V)} {name : String} :
    members.lookup name = none ↔ name ∉ members.map Prod.fst := by
  rw [List.lookup_eq_none_iff, List.mem_map, not_exists]
  refine forall_congr' fun member => ?_
  rw [bne_iff_ne, not_and, ne_comm]

theorem mem_of_lookup {members : List (String × V)} {name : String} {value : V}
    (found : members.lookup name = some value) : (name, value) ∈ members := by
  obtain ⟨before, behind, rfl, -⟩ := List.lookup_eq_some_iff.1 found
  simp

theorem lookup_of_mem {members : List (String × V)} (nodup : (members.map Prod.fst).Nodup)
    {name : String} {value : V} (listed : (name, value) ∈ members) :
    members.lookup name = some value := by
  obtain ⟨before, behind, rfl⟩ := List.append_of_mem listed
  rw [List.map_append, List.map_cons, List.nodup_append] at nodup
  have fresh : before.lookup name = none := lookup_eq_none_iff.2 fun earlier =>
    nodup.2.2 name earlier name List.mem_cons_self rfl
  rw [List.lookup_append, fresh, List.lookup_cons, beq_self_eq_true, Option.none_or]

/-- Where names differ, there is one member at most with a name. -/
theorem filter_name_eq {members : List (String × V)} (nodup : (members.map Prod.fst).Nodup)
    (name : String) :
    members.filter (·.1 == name) = ((members.lookup name).map (name, ·)).toList := by
  induction members with
  | nil => rfl
  | cons member members ih =>
    obtain ⟨other, value⟩ := member
    obtain ⟨fresh, nodup⟩ := List.nodup_cons.1 nodup
    rw [List.filter_cons, List.lookup_cons, ih nodup]
    by_cases same : other = name
    · subst same
      simp [lookup_eq_none_iff.2 fresh]
    · rw [if_neg (by simpa using same), beq_eq_false_iff_ne.2 (Ne.symm same)]

theorem run_withDefault_bind_of_nodup {members : List (String × V)}
    (nodup : (members.map Prod.fst).Nodup) (name : String) (read : V → Option α) (fallback : α)
    (next : α → Fields V β) :
    (withDefault name read fallback >>= next).run (.named members) =
      ((members.lookup name).elim (some fallback) read).bind fun a =>
        (next a).run (.named members) := by
  rw [StateT.run_bind, run_withDefault_named, filter_name_eq nodup]
  cases members.lookup name with
  | none => rfl
  | some value => exact Option.bind_map

theorem run_required_bind_of_nodup {members : List (String × V)}
    (nodup : (members.map Prod.fst).Nodup) (name : String) (read : V → Option α)
    (next : α → Fields V β) :
    (required name read >>= next).run (.named members) =
      ((members.lookup name).bind read).bind fun a => (next a).run (.named members) := by
  rw [StateT.run_bind, run_required_named, filter_name_eq nodup]
  cases members.lookup name with
  | none => rfl
  | some value => exact Option.bind_map

theorem run_withDefault_bind_positional (name : String) (read : V → Option α) (fallback : α)
    (next : α → Fields V β) (items : List V) :
    (withDefault name read fallback >>= next).run (.positional items) =
      (items.head?.elim (some fallback) read).bind fun a =>
        (next a).run (.positional items.tail) := by
  have taken : (take name).run (.positional items) =
      some (items.head?, .positional items.tail) := by
    cases items <;> rfl
  rw [StateT.run_bind, withDefault, StateT.run_bind, taken]
  cases items with
  | nil => rfl
  | cons value items => cases h : read value <;> simp [h]

end Fields

/-- A format that passes over what comes behind the last field reads no more than the fields. -/
theorem Format.record_of_inexact {V α : Type} {format : Format V} (inexact : format.exact = false)
    (fields : Fields V α) (value : V) :
    format.record fields value = ((format.parts value).bind fields.run).map Prod.fst := by
  unfold Format.record
  cases format.parts value with
  | none => rfl
  | some parts =>
    show (fields.run parts).bind _ = (fields.run parts).map Prod.fst
    rcases fields.run parts with _ | ⟨result, _ | ⟨_ | ⟨_, _⟩⟩⟩
    · rfl
    · rfl
    · rfl
    · simp [inexact]

/-- Tags whose words differ from each other and have no capital letters. -/
class LawfulTagged (α : Type) [Tagged α] : Prop where
  ofWord?_word (tag : α) : Tagged.ofWord? (Tagged.word tag) = some tag
  lower_word (tag : α) : Text.lower (Tagged.word tag) = Tagged.word tag

theorem Tagged.lower_of_ofWord? {α : Type} [Tagged α] [LawfulTagged α] {w : String} {tag : α}
    (h : Tagged.ofWord? w = some tag) : Text.lower w = w := by
  have same : Tagged.word tag = w := by simpa using List.find?_some h
  rw [← same, LawfulTagged.lower_word]

instance : LawfulTagged Side where
  ofWord?_word tag := by cases tag <;> rfl
  lower_word tag := by cases tag <;> rfl

instance : LawfulTagged Asset where
  ofWord?_word tag := by cases tag <;> rfl
  lower_word tag := by cases tag <;> rfl

instance : LawfulTagged Flow where
  ofWord?_word tag := by cases tag <;> rfl
  lower_word tag := by cases tag <;> rfl

instance : LawfulTagged SpreadPolicy where
  ofWord?_word tag := by cases tag <;> rfl
  lower_word tag := by cases tag <;> rfl

instance : LawfulTagged OracleSource where
  ofWord?_word tag := by cases tag <;> rfl
  lower_word tag := by cases tag <;> rfl

end PerpetualCurve
