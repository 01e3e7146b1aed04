import PerpetualCurve.Proofs.Settings.Merge

/-!
# Merging what is merged

What the sources come to is merged once more into an empty table. By then the names of every table
that is not within a list are in lower case and differ from each other, so at a name to which no
other one leads, the second time changes nothing.

Neither time fails if no name leads to an item that a list cannot have.
-/

namespace PerpetualCurve.Setting

open Text

variable {room : Nat} {name n : String} {value target result s : Setting}
  {es source : List (String × Setting)}

/-- No letter other than the Kelvin sign becomes one. -/
theorem toLower_ne_kelvin {c : Char} (h : c ≠ '\u212A') : c.toLower ≠ '\u212A' := by
  intro becomes
  have noLetter : c.isAlpha = false := by
    rw [← Char.isAlpha_toLower_eq_isAlpha, becomes]
    decide
  have noCapital : ¬ c.isUpper := by
    rw [Char.isAlpha, Bool.or_eq_false_iff] at noLetter
    simp [noLetter.1]
  exact h (Char.toLower_eq_of_not_isUpper noCapital ▸ becomes)

theorem lowerChar_lowerChar (c : Char) : lowerChar (lowerChar c) = lowerChar c := by
  by_cases kelvin : c = '\u212A'
  · subst kelvin
    rfl
  · have lowered : lowerChar c = c.toLower := if_neg kelvin
    rw [lowered, lowerChar, if_neg (toLower_ne_kelvin kelvin), Char.toLower_toLower_eq_toLower]

theorem lower_lower (name : String) : lower (lower name) = lower name := by
  simp [lower, Function.comp_def, lowerChar_lowerChar]

/-! ## Values that are merged -/

/-- Whether the names of a table are in lower case and differ from each other, and so are those of
the tables in it. What is in a list does not count. -/
inductive Stable : Setting → Prop
  | of_entries {s : Setting} (tidy : s.Tidy)
      (lowered : ∀ entry ∈ s.entries, lower entry.1 = entry.1)
      (parts : ∀ entry ∈ s.entries, Stable entry.2) : Stable s

namespace Stable

theorem tidy (h : s.Stable) : s.Tidy := by
  cases h
  assumption

theorem lowered (h : s.Stable) : ∀ entry ∈ s.entries, lower entry.1 = entry.1 := by
  cases h
  assumption

theorem parts (h : s.Stable) : ∀ entry ∈ s.entries, entry.2.Stable := by
  cases h
  assumption

theorem of_lookup (h : s.Stable) : ∀ part ∈ s.entries.lookup name, part.Stable :=
  fun _ found => h.parts _ (Fields.mem_of_lookup found)

theorem of_entries_nil (h : s.entries = []) : s.Stable := by
  refine .of_entries ?_ (h ▸ List.forall_mem_nil _) (h ▸ List.forall_mem_nil _)
  rw [Tidy, h]
  exact List.nodup_nil

theorem getD_nothing (h : s.Stable) : ((s.entries.lookup name).getD nothing).Stable := by
  cases found : s.entries.lookup name with
  | none => exact of_entries_nil rfl
  | some part => exact h.of_lookup part found

end Stable

theorem mem_alter {change : Option Setting → Setting} {entry : String × Setting}
    (listed : entry ∈ alter name change es) :
    entry ∈ es ∨ entry = (name, change (es.lookup name)) := by
  induction es with
  | nil => exact .inr (List.mem_singleton.1 listed)
  | cons first es ih =>
    obtain ⟨other, value⟩ := first
    rw [alter] at listed
    by_cases found : other = name
    · subst found
      rw [if_pos rfl, List.mem_cons] at listed
      rw [List.lookup_cons_self]
      exact listed.symm.imp_left (List.mem_cons_of_mem _)
    · rw [if_neg found, List.mem_cons] at listed
      rw [List.lookup_cons, beq_eq_false_iff_ne.2 (Ne.symm found)]
      rcases listed with rfl | listed
      · exact .inl List.mem_cons_self
      · exact (ih listed).imp_left (List.mem_cons_of_mem _)

theorem Stable.alter {change : Option Setting → Setting} (h : target.Stable)
    (lowered : lower name = name) (changed : (change (target.entries.lookup name)).Stable) :
    (table (alter name change target.entries)).Stable := by
  refine .of_entries (nodup_alter change h.tidy) ?_ ?_
  · intro entry listed
    rcases mem_alter listed with old | rfl
    · exact h.lowered entry old
    · exact lowered
  · intro entry listed
    rcases mem_alter listed with old | rfl
    · exact h.parts entry old
    · exact changed

mutual

/-- Whatever is put over a stable value, the outcome is stable. -/
theorem stable_overlay : ∀ (value : Setting) (old : Option Setting),
    (∀ s ∈ old, s.Stable) → (overlay value old).Stable
  | .table incoming, none, _ => stable_putAll incoming _ (.of_entries_nil rfl)
  | .table incoming, some old, h => stable_putAll incoming old (h old rfl)
  | .nothing, _, _ => .of_entries_nil rfl
  | .boolean _, _, _ => .of_entries_nil rfl
  | .integer _, _, _ => .of_entries_nil rfl
  | .float _, _, _ => .of_entries_nil rfl
  | .text _, _, _ => .of_entries_nil rfl
  | .list _, _, _ => .of_entries_nil rfl

theorem stable_putAll : ∀ (incoming : List (String × Setting)) (target : Setting),
    target.Stable → (putAll incoming target).Stable
  | [], _, h => h
  | (name, value) :: rest, target, h => by
    refine stable_putAll rest _ ?_
    rw [put_eq]
    exact h.alter (lower_lower name) (stable_overlay value _ h.of_lookup)

end

theorem stable_put (h : target.Stable) : (put name value target).Stable := by
  rw [put_eq]
  exact h.alter (lower_lower name) (stable_overlay value _ h.of_lookup)

/-- What a list holds does not count, so an assignment keeps a value stable unless it replaces
it. -/
theorem Stable.assign? {path : List Step} (h : target.Stable) (some_step : path ≠ [])
    (assigned : assign? room value path target = some result) : result.Stable := by
  fun_induction Setting.assign? room value path target generalizing result with
  | case1 => exact absurd rfl some_step
  | case2 target name =>
    cases assigned
    exact stable_put h
  | case3 name path target more ih =>
    obtain ⟨part, within, same⟩ := Option.bind_eq_some_iff.1 assigned
    cases same
    exact h.alter (lower_lower name) (ih h.getD_nothing more within)
  | case4 index path target ih =>
    obtain ⟨position, -, within⟩ := Option.bind_eq_some_iff.1 assigned
    obtain ⟨part, -, same⟩ := Option.bind_eq_some_iff.1 within
    cases same
    exact .of_entries_nil rfl

theorem Stable.override? (h : target.Stable)
    (overridden : override? room target source = some result) : result.Stable := by
  refine keeps_override? (fun {name _ _ _} stable assigned => ?_) h overridden
  obtain ⟨first, rest, path⟩ := exists_pathOf_eq name
  exact stable.assign? (by rw [path]; exact List.cons_ne_nil _ _) assigned

/-! ## The second time -/

theorem alter_of_not_mem {change : Option Setting → Setting} (fresh : name ∉ es.map Prod.fst) :
    alter name change es = es ++ [(name, change none)] := by
  induction es with
  | nil => rfl
  | cons entry es ih =>
    obtain ⟨other, value⟩ := entry
    rw [List.map_cons, List.mem_cons, not_or] at fresh
    rw [alter, if_neg (Ne.symm fresh.1), ih fresh.2, List.cons_append]

/-- Entries that stay as they are, put behind others one by one. -/
theorem putAll_append (nodup : ((es ++ source).map Prod.fst).Nodup)
    (lowered : ∀ entry ∈ source, lower entry.1 = entry.1)
    (kept : ∀ entry ∈ source, overlay entry.2 none = entry.2) :
    putAll source (table es) = table (es ++ source) := by
  induction source generalizing es with
  | nil => rw [List.append_nil, putAll]
  | cons entry source ih =>
    obtain ⟨name, value⟩ := entry
    obtain ⟨lowered_name, lowered⟩ := List.forall_mem_cons.1 lowered
    obtain ⟨kept_value, kept⟩ := List.forall_mem_cons.1 kept
    have fresh : name ∉ es.map Prod.fst := by
      intro twice
      rw [List.map_append, List.nodup_append] at nodup
      exact nodup.2.2 _ twice _ List.mem_cons_self rfl
    have last : put name value (table es) = table (es ++ [(name, value)]) := by
      rw [put_eq, lowered_name, entries, alter_of_not_mem fresh, kept_value]
    have nodup' : ((es ++ [(name, value)] ++ source).map Prod.fst).Nodup := by
      rwa [List.append_assoc, List.singleton_append]
    rw [putAll, last, ih nodup' lowered kept, List.append_assoc, List.singleton_append]

/-- A stable value stays as it is when it is put where there is none. -/
theorem Stable.overlay_none (h : s.Stable) : overlay s none = s := by
  induction h with
  | @of_entries s tidy lowered parts ih =>
    cases s
    case table es => exact putAll_append tidy lowered ih
    all_goals rfl

/-- Merged once more, what is at a name stays if no other name leads there. -/
theorem Stable.get?_again (h : s.Stable) (again : (table []).override? room s.entries = some result)
    (place : pathOf n = [.name n]) (lowered : lower n = n)
    (literal : ∀ entry ∈ s.entries, root entry.1 = n → entry.1 = n) :
    result.get? n = s.get? n := by
  rw [get?_of_override?_of_nodup again h.tidy place lowered literal]
  show merged (s.entries.lookup n) none = s.entries.lookup n
  cases found : s.entries.lookup n with
  | none => rfl
  | some part =>
    exact congrArg some (h.of_lookup part found).overlay_none

/-! ## Room -/

/-- Whether each index in the place that a name spells is that of an item a list can have, however
many items are there already. -/
def InRoom (room : Nat) (name : String) : Prop :=
  ∀ index : Int, .index index ∈ pathOf name → 0 ≤ index ∧ index < room

theorem IsPlain.inRoom (h : IsPlain name) : InRoom room name := by
  intro index listed
  rw [h.pathOf_eq, List.mem_singleton] at listed
  cases listed

theorem exists_assign? {path : List Step}
    (inRoom : ∀ index : Int, .index index ∈ path → 0 ≤ index ∧ index < room) (target : Setting) :
    ∃ result, assign? room value path target = some result := by
  fun_induction Setting.assign? room value path target with
  | case1 => exact ⟨value, rfl⟩
  | case2 => exact ⟨_, rfl⟩
  | case3 name path target more ih =>
    obtain ⟨part, within⟩ := ih fun index listed => inRoom index (List.mem_cons_of_mem _ listed)
    exact ⟨_, Option.bind_eq_some_iff.2 ⟨part, within, rfl⟩⟩
  | case4 index path target items ih =>
    have position : position? room index target.items.length = some index.toNat := by
      have inside := inRoom index List.mem_cons_self
      rw [position?, if_pos inside.1, if_pos inside]
    obtain ⟨part, within⟩ := ih index.toNat fun index listed =>
      inRoom index (List.mem_cons_of_mem _ listed)
    refine ⟨list (putItem index.toNat part items), ?_⟩
    exact Option.bind_eq_some_iff.2
      ⟨_, position, Option.bind_eq_some_iff.2 ⟨part, within, rfl⟩⟩

theorem exists_override? (inRoom : ∀ entry ∈ source, InRoom room entry.1) (target : Setting) :
    ∃ result, override? room target source = some result := by
  induction source generalizing target with
  | nil => exact ⟨target, rfl⟩
  | cons entry source ih =>
    obtain ⟨first, inRoom⟩ := List.forall_mem_cons.1 inRoom
    obtain ⟨between, assigned⟩ := exists_assign? first target
    obtain ⟨result, overridden⟩ := ih inRoom between
    exact ⟨result, override?_cons_eq_some_iff.2 ⟨between, assigned, overridden⟩⟩

end PerpetualCurve.Setting
