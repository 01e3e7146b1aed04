import Mathlib
import PerpetualCurve.Proofs.Reader
import PerpetualCurve.Proofs.Record
import PerpetualCurve.Settings.Layer

/-!
# What merging leaves at a name

Merging a table into a value is described by what it leaves at each name: the value that was there,
with the incoming values of that name put over it one after the other. A table is put over another
value entry by entry, any other value takes its place. The names of a merged table differ from each
other, whatever the names of the incoming table are.
-/

namespace PerpetualCurve

open Text

namespace Setting

variable {room : Nat} {name n : String} {value target result : Setting}
  {es source : List (String × Setting)}

/-- What is at a name of a table. -/
def get? (setting : Setting) (name : String) : Option Setting := setting.entries.lookup name

/-- What is left of a value and of what was at its place before it was put there. -/
def overlay : (value : Setting) → (old : Option Setting) → Setting
  | table incoming, old => putAll incoming (old.getD (table []))
  | value, _ => value

/-- What is left where one value may come over another. -/
def merged (value old : Option Setting) : Option Setting :=
  value.elim old fun value => some (overlay value old)

theorem put_eq (name : String) (value target : Setting) :
    put name value target = table (alter (lower name) (overlay value) target.entries) := by
  cases value <;> rfl

theorem lookup_alter (name n : String) (change : Option Setting → Setting)
    (es : List (String × Setting)) :
    (alter name change es).lookup n =
      if n = name then some (change (es.lookup name)) else es.lookup n := by
  induction es with
  | nil =>
    by_cases same : n = name
    · simp [alter, same]
    · simp [alter, same, List.lookup_cons, beq_eq_false_iff_ne.2 same]
  | cons entry es ih =>
    obtain ⟨other, value⟩ := entry
    rw [alter]
    by_cases found : other = name
    · subst found
      by_cases same : n = other
      · simp [same]
      · simp [same, List.lookup_cons, beq_eq_false_iff_ne.2 same]
    · rw [if_neg found]
      by_cases first : n = other
      · subst first
        simp [found]
      · rw [List.lookup_cons, beq_eq_false_iff_ne.2 first, List.lookup_cons (a := n),
          beq_eq_false_iff_ne.2 first, List.lookup_cons (a := name),
          beq_eq_false_iff_ne.2 (Ne.symm found)]
        exact ih

/-- A change at a name leaves the names as they are, or adds that name. -/
theorem map_fst_alter (name : String) (change : Option Setting → Setting)
    (es : List (String × Setting)) :
    (alter name change es).map Prod.fst =
      if name ∈ es.map Prod.fst then es.map Prod.fst else es.map Prod.fst ++ [name] := by
  induction es with
  | nil => simp [alter]
  | cons entry es ih =>
    obtain ⟨other, value⟩ := entry
    rw [alter]
    by_cases found : other = name
    · simp [found]
    · rw [if_neg found, List.map_cons, ih]
      by_cases later : name ∈ es.map Prod.fst
      · simp [later]
      · simp [later, Ne.symm found]

theorem nodup_alter (change : Option Setting → Setting) (nodup : (es.map Prod.fst).Nodup) :
    ((alter name change es).map Prod.fst).Nodup := by
  rw [map_fst_alter]
  split
  · exact nodup
  · rename_i fresh
    rw [← List.concat_eq_append, List.nodup_concat]
    exact ⟨fresh, nodup⟩

/-- Whether the names of a value differ from each other. -/
def Tidy (setting : Setting) : Prop := (setting.entries.map Prod.fst).Nodup

theorem tidy_empty : (table []).Tidy := List.nodup_nil

theorem Tidy.put (h : target.Tidy) : (put name value target).Tidy := by
  rw [put_eq]
  exact nodup_alter _ h

theorem Tidy.putAll (h : target.Tidy) : (putAll source target).Tidy := by
  induction source generalizing target with
  | nil => exact h
  | cons entry source ih => exact ih h.put

theorem tidy_getD {old : Option Setting} (h : ∀ s ∈ old, s.Tidy) (hf : target.Tidy) :
    (old.getD target).Tidy := by
  cases old with
  | none => exact hf
  | some s => exact h s rfl

theorem Tidy.overlay {old : Option Setting} (h : ∀ s ∈ old, s.Tidy) : (overlay value old).Tidy := by
  cases value
  case table incoming => exact (tidy_getD h tidy_empty).putAll
  all_goals exact List.nodup_nil

theorem tidy_merged {value old : Option Setting} (h : ∀ s ∈ old, s.Tidy) :
    ∀ s ∈ merged value old, s.Tidy := by
  cases value with
  | none => exact h
  | some v =>
    rintro _ ⟨⟩
    exact Tidy.overlay h

theorem tidy_merged_none {value : Option Setting} : ∀ s ∈ merged value none, s.Tidy :=
  tidy_merged fun _ missing => nomatch missing

/-! ## One name -/

theorem get?_put (name n : String) (value target : Setting) :
    (put name value target).get? n =
      if n = lower name then some (overlay value (target.get? n)) else target.get? n := by
  rw [put_eq]
  show (alter _ _ _).lookup n = _
  rw [lookup_alter]
  split
  case isTrue same => rw [get?, same]
  case isFalse => rfl

/-- At a name, merging puts the incoming values of that name over what is there. -/
theorem get?_putAll (source : List (String × Setting)) (target : Setting) (n : String) :
    (putAll source target).get? n =
      (source.filter (lower ·.1 == n)).foldl (fun old entry => some (overlay entry.2 old))
        (target.get? n) := by
  induction source generalizing target with
  | nil => rfl
  | cons entry source ih =>
    obtain ⟨name, value⟩ := entry
    rw [putAll, ih, get?_put]
    by_cases same : lower name = n
    · rw [if_pos same.symm, List.filter_cons_of_pos (by simpa using same), List.foldl_cons]
    · rw [if_neg (Ne.symm same), List.filter_cons_of_neg (by simpa using same)]

/-- Where incoming names differ and no other one has a name for its lower-case form, there is one
value at most to put over what is there. -/
theorem get?_putAll_of_nodup (nodup : (source.map Prod.fst).Nodup) (lowered : lower n = n)
    (literal : ∀ entry ∈ source, lower entry.1 = n → entry.1 = n) (target : Setting) :
    (putAll source target).get? n = merged (source.lookup n) (target.get? n) := by
  have same : source.filter (lower ·.1 == n) = source.filter (·.1 == n) := by
    refine List.filter_congr fun entry listed => ?_
    rw [Bool.eq_iff_iff, beq_iff_eq, beq_iff_eq]
    refine ⟨literal entry listed, ?_⟩
    rintro rfl
    exact lowered
  rw [get?_putAll, same, Fields.filter_name_eq nodup]
  cases source.lookup n <;> rfl

/-! ## Names that are places -/

/-- The name of the outermost table that the place spelled by a name leads to. -/
def root (name : String) : String :=
  match pathOf name with
  | .name first :: _ => lower first
  | _ => name

/-- Every place begins with a name. -/
theorem exists_pathOf_eq (name : String) : ∃ first rest, pathOf name = .name first :: rest := by
  unfold pathOf
  split
  case h_2 => exact ⟨name, [], rfl⟩
  case h_1 path left read =>
    obtain ⟨first, _, readFirst, read⟩ := Reader.bind_eq_some_iff.1 read
    obtain ⟨rest, _, -, read⟩ := Reader.bind_eq_some_iff.1 read
    obtain ⟨_, _, -, read⟩ := Reader.bind_eq_some_iff.1 read
    obtain ⟨rfl, -⟩ := Reader.pure_eq_some_iff.1 read
    obtain ⟨cs, _, -, readFirst⟩ := Reader.bind_eq_some_iff.1 readFirst
    obtain ⟨rfl, -⟩ := Reader.pure_eq_some_iff.1 readFirst
    exact ⟨_, rest, rfl⟩

/-- A value put at a place changes the outermost table on the way there, at one name. -/
theorem exists_eq_of_assign? (assigned : assign? room value (pathOf name) target = some result) :
    ∃ change, result = table (alter (root name) change target.entries) := by
  obtain ⟨first, rest, path⟩ := exists_pathOf_eq name
  rw [path] at assigned
  rw [root, path]
  cases rest with
  | nil =>
    cases assigned
    exact ⟨_, put_eq first value target⟩
  | cons step rest =>
    obtain ⟨part, -, same⟩ := Option.bind_eq_some_iff.1 assigned
    cases same
    exact ⟨_, rfl⟩

theorem get?_of_assign?_of_ne (assigned : assign? room value (pathOf name) target = some result)
    (h : n ≠ root name) : result.get? n = target.get? n := by
  obtain ⟨change, rfl⟩ := exists_eq_of_assign? assigned
  show (alter _ _ _).lookup n = _
  rw [lookup_alter, if_neg h]
  rfl

theorem override?_cons_eq_some_iff :
    override? room target ((name, value) :: source) = some result ↔
      ∃ between, assign? room value (pathOf name) target = some between ∧
        override? room between source = some result := by
  unfold override?
  rw [List.foldlM_cons]
  exact Option.bind_eq_some_iff

/-- Where the names of a source differ and no other one leads to a name, there is one value at most
to put over what is there. -/
theorem get?_of_override?_of_nodup (overridden : override? room target source = some result)
    (nodup : (source.map Prod.fst).Nodup) (place : pathOf n = [.name n]) (lowered : lower n = n)
    (literal : ∀ entry ∈ source, root entry.1 = n → entry.1 = n) :
    result.get? n = merged (source.lookup n) (target.get? n) := by
  induction source generalizing target with
  | nil =>
    cases overridden
    rfl
  | cons entry source ih =>
    obtain ⟨name, value⟩ := entry
    obtain ⟨between, assigned, overridden⟩ := override?_cons_eq_some_iff.1 overridden
    obtain ⟨fresh, nodup⟩ := List.nodup_cons.1 nodup
    obtain ⟨first, literal⟩ := List.forall_mem_cons.1 literal
    rw [ih overridden nodup literal, List.lookup_cons]
    by_cases same : name = n
    · subst same
      rw [place] at assigned
      cases assigned
      rw [Fields.lookup_eq_none_iff.2 fresh, get?_put, if_pos lowered.symm, beq_self_eq_true]
      rfl
    · rw [get?_of_assign?_of_ne assigned fun led => same (first led.symm),
        beq_eq_false_iff_ne.2 (Ne.symm same)]

/-- What every assignment keeps is kept by a source. -/
theorem keeps_override? {P : Setting → Prop}
    (step : ∀ {name value target result}, P target →
      assign? room value (pathOf name) target = some result → P result)
    (h : P target) (overridden : override? room target source = some result) : P result := by
  induction source generalizing target with
  | nil =>
    cases overridden
    exact h
  | cons entry source ih =>
    obtain ⟨between, assigned, overridden⟩ := override?_cons_eq_some_iff.1 overridden
    exact ih (step h assigned) overridden

theorem Tidy.override? (h : target.Tidy) (overridden : override? room target source = some result) :
    result.Tidy := by
  refine keeps_override? (fun tidy assigned => ?_) h overridden
  obtain ⟨change, rfl⟩ := exists_eq_of_assign? assigned
  exact nodup_alter _ tidy

/-- Each name of merged settings was there before, or a name of the source leads to it. -/
theorem exists_root_of_override? (overridden : override? room target source = some result) :
    ∀ n ∈ result.entries.map Prod.fst,
      n ∈ target.entries.map Prod.fst ∨ ∃ entry ∈ source, root entry.1 = n := by
  induction source generalizing target with
  | nil =>
    cases overridden
    exact fun n listed => .inl listed
  | cons entry source ih =>
    obtain ⟨between, assigned, overridden⟩ := override?_cons_eq_some_iff.1 overridden
    intro n listed
    rcases ih overridden n listed with old | ⟨later, given, leads⟩
    · obtain ⟨change, rfl⟩ := exists_eq_of_assign? assigned
      rw [entries, map_fst_alter] at old
      split at old
      · exact .inl old
      · rcases List.mem_append.1 old with old | new
        · exact .inl old
        · exact .inr ⟨entry, List.mem_cons_self, (List.mem_singleton.1 new).symm⟩
    · exact .inr ⟨later, List.mem_cons_of_mem _ given, leads⟩

/-! ## Plain names -/

/-- Whether a character may stand in a plain name. -/
def isPlainChar (c : Char) : Bool := c.isLower || c.isDigit || c == '_' || c == '-'

/-- Whether a name is made of small letters, digits, underscores and hyphens. -/
structure IsPlain (name : String) : Prop where
  ne_empty : name ≠ ""
  isPlainChar : ∀ c ∈ name.toList, isPlainChar c

instance (name : String) : Decidable (IsPlain name) :=
  decidable_of_iff (name ≠ "" ∧ name.toList.all Setting.isPlainChar)
    ⟨fun h => ⟨h.1, List.all_eq_true.1 h.2⟩, fun h => ⟨h.1, List.all_eq_true.2 h.2⟩⟩

theorem lowerChar_of_isPlainChar {c : Char} (h : isPlainChar c) : lowerChar c = c := by
  have noKelvin : c ≠ '\u212A' := by
    rintro rfl
    revert h
    decide
  rw [lowerChar, if_neg noKelvin, Char.toLower, dif_neg]
  simp only [isPlainChar, Char.isLower, Char.isDigit, Bool.or_eq_true, Bool.and_eq_true,
    decide_eq_true_eq, beq_iff_eq] at h
  rintro ⟨above, below⟩
  rcases h with ((⟨h, -⟩ | ⟨-, h⟩) | rfl) | rfl
  · exact absurd (UInt32.le_trans h below) (by decide)
  · exact absurd (UInt32.le_trans above h) (by decide)
  · exact absurd below (by decide)
  · exact absurd above (by decide)

theorem isNameChar_of_isPlainChar {c : Char} (h : isPlainChar c) : isNameChar c := by
  simp only [isPlainChar, isNameChar, Char.isAlphanum, Char.isAlpha, Bool.or_eq_true] at h ⊢
  tauto

namespace IsPlain

variable {name : String}

theorem lower_eq (h : IsPlain name) : lower name = name := by
  rw [lower, List.map_congr_left fun c listed => lowerChar_of_isPlainChar (h.isPlainChar c listed)]
  simp

/-- A plain name is a place by itself. -/
theorem pathOf_eq (h : IsPlain name) : pathOf name = [.name name] := by
  have all := fun c listed => isNameChar_of_isPlainChar (h.isPlainChar c listed)
  have step : nameStep name.toList = some (.name name, []) :=
    Reader.bind_eq_some_iff.2 ⟨name.toList, [],
      Reader.run_of_all (by simpa using h.ne_empty) all, by simp [Reader.pure_eq_some_iff]⟩
  have ends : (Reader.many (.exactly '.' *> nameStep <|> indexStep)) [] = some ([], []) := by cbv
  have reads : place name.toList = some ([.name name], []) :=
    Reader.bind_eq_some_iff.2 ⟨_, _, step, Reader.bind_eq_some_iff.2 ⟨_, _, ends, rfl⟩⟩
  rw [pathOf, reads]

theorem root_eq (h : IsPlain name) : root name = name := by
  rw [root, h.pathOf_eq]
  exact h.lower_eq

end IsPlain

/-! ## Tables -/

/-- Whether a value is a table. -/
def IsTable (setting : Setting) : Prop := setting = table setting.entries

theorem isTable_empty : (table []).IsTable := rfl

theorem isTable_put : (put name value target).IsTable := by
  rw [put_eq]
  rfl

theorem isTable_putAll (h : target.IsTable) : (putAll source target).IsTable := by
  induction source generalizing target with
  | nil => exact h
  | cons entry source ih => exact ih isTable_put

/-- Anything gives way to a table with entries. -/
theorem isTable_putAll_of_ne_nil (h : source ≠ []) : (putAll source target).IsTable := by
  cases source with
  | nil => exact absurd rfl h
  | cons entry source =>
    rw [putAll]
    exact isTable_putAll isTable_put

theorem IsTable.override? (h : target.IsTable)
    (overridden : override? room target source = some result) : result.IsTable := by
  refine keeps_override? (fun _ assigned => ?_) h overridden
  obtain ⟨change, rfl⟩ := exists_eq_of_assign? assigned
  rfl

end Setting

end PerpetualCurve
