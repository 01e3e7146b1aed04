import Mathlib.Data.List.Nodup
import PerpetualCurve.Proofs.Reader
import PerpetualCurve.Proofs.Record
import PerpetualCurve.Toml.Document

/-!
# The names of a table differ

Every table that a TOML text describes, at any depth, has names that differ from each other. Each
edit of a table under construction keeps this, and so does every line of a document; the values that
lines give have it since inline tables are built by the same edits.
-/

namespace PerpetualCurve.Toml

open Text

/-- Whether the names of each table within a value have a property. -/
inductive Value.EveryTable (p : List String → Prop) : Value → Prop
  | string (text : String) : EveryTable p (.string text)
  | integer (value : Signed 64) : EveryTable p (.integer value)
  | float (value : Double) : EveryTable p (.float value)
  | boolean (value : Bool) : EveryTable p (.boolean value)
  | datetime (value : Datetime) : EveryTable p (.datetime value)
  | array {items : List Value} (parts : ∀ item ∈ items, EveryTable p item) :
      EveryTable p (.array items)
  | table {entries : Table} (names : p (entries.map Prod.fst))
      (parts : ∀ entry ∈ entries, EveryTable p entry.2) : EveryTable p (.table entries)

namespace Value.EveryTable

variable {p : List String → Prop} {entries : Table}

theorem array_iff {items : List Value} :
    (Value.array items).EveryTable p ↔ ∀ item ∈ items, item.EveryTable p := by
  refine ⟨fun h => ?_, .array⟩
  cases h with
  | array parts => exact parts

theorem table_iff : (Value.table entries).EveryTable p ↔
    p (entries.map Prod.fst) ∧ ∀ entry ∈ entries, entry.2.EveryTable p := by
  refine ⟨fun h => ?_, fun h => .table h.1 h.2⟩
  cases h with
  | table names parts => exact ⟨names, parts⟩

theorem names (h : (Value.table entries).EveryTable p) : p (entries.map Prod.fst) :=
  (table_iff.1 h).1

theorem of_lookup {name : String} {value : Value} (h : (Value.table entries).EveryTable p)
    (found : entries.lookup name = some value) : value.EveryTable p :=
  (table_iff.1 h).2 _ (Fields.mem_of_lookup found)

attribute [simp] string integer float boolean datetime array_iff table_iff

theorem mono {q : List String → Prop} {value : Value} (h : value.EveryTable p)
    (imp : ∀ names, p names → q names) : value.EveryTable q := by
  induction h with
  | string text => exact .string text
  | integer value => exact .integer value
  | float value => exact .float value
  | boolean value => exact .boolean value
  | datetime value => exact .datetime value
  | array _ ih => exact .array ih
  | table names _ ih => exact .table (imp _ names) ih

end Value.EveryTable

/-- Whether the names of each table within a value differ from each other. -/
abbrev Value.Distinct (value : Value) : Prop := value.EveryTable List.Nodup

/-- Whether the names of each table within a node differ from each other. -/
inductive Node.Distinct : Node → Prop
  | value {given : Value} (parts : given.Distinct) : Distinct (.value given)
  | table {origin : Origin} {entries : Entries} (names : (entries.map Prod.fst).Nodup)
      (parts : ∀ entry ∈ entries, Distinct entry.2) : Distinct (.table origin entries)
  | tables {elements : List Entries} (names : ∀ entries ∈ elements, (entries.map Prod.fst).Nodup)
      (parts : ∀ entries ∈ elements, ∀ entry ∈ entries, Distinct entry.2) :
      Distinct (.tables elements)

namespace Node

theorem finishTable_eq_map (entries : Entries) :
    finishTable entries = entries.map fun entry => (entry.1, entry.2.finish) := by
  induction entries with
  | nil => rw [finishTable, List.map_nil]
  | cons entry entries ih => rw [finishTable, ih, List.map_cons]

theorem finishElements_eq_map (elements : List Entries) :
    finishElements elements = elements.map fun entries => .table (finishTable entries) := by
  induction elements with
  | nil => rw [finishElements, List.map_nil]
  | cons entries elements ih => rw [finishElements, ih, List.map_cons]

theorem map_fst_finishTable (entries : Entries) :
    (finishTable entries).map Prod.fst = entries.map Prod.fst := by
  rw [finishTable_eq_map, List.map_map]
  rfl

theorem Distinct.finish {node : Node} (h : node.Distinct) : node.finish.Distinct := by
  have table {entries : Entries} (names : (entries.map Prod.fst).Nodup)
      (parts : ∀ entry ∈ entries, entry.2.finish.Distinct) :
      (Value.table (finishTable entries)).Distinct := by
    refine .table (by rwa [map_fst_finishTable]) ?_
    rw [finishTable_eq_map]
    exact List.forall_mem_map.2 parts
  induction h with
  | value given => exact given
  | table names _ ih => exact table names ih
  | tables names _ ih =>
    rw [Node.finish, finishElements_eq_map]
    exact .array (List.forall_mem_map.2 fun entries listed =>
      table (names entries listed) (ih entries listed))

end Node

namespace Entries

variable {entries : Entries} {name : String} {node : Node}

/-- Whether the names of a table, and of each table within it, differ from each other. -/
structure Distinct (entries : Entries) : Prop where
  names : (entries.map Prod.fst).Nodup
  parts : ∀ entry ∈ entries, entry.2.Distinct

theorem mem_put {entry : String × Node} (listed : entry ∈ put name node entries) :
    entry = (name, node) ∨ entry ∈ entries := by
  induction entries with
  | nil => exact .inl (List.mem_singleton.1 listed)
  | cons first entries ih =>
    rw [put] at listed
    split at listed
    · exact (List.mem_cons.1 listed).imp_right (List.mem_cons_of_mem _)
    · rcases List.mem_cons.1 listed with rfl | listed
      · exact .inr List.mem_cons_self
      · exact (ih listed).imp_right (List.mem_cons_of_mem _)

/-- Another node at a name that is there leaves the names as they are. -/
theorem map_fst_put {old : Node} (found : entries.lookup name = some old) :
    (put name node entries).map Prod.fst = entries.map Prod.fst := by
  induction entries with
  | nil => cases found
  | cons first entries ih =>
    obtain ⟨other, _⟩ := first
    rw [put]
    split
    case isTrue same => rw [List.map_cons, List.map_cons, same]
    case isFalse differ =>
      rw [List.lookup_cons, beq_eq_false_iff_ne.2 (Ne.symm differ)] at found
      rw [List.map_cons, ih found, List.map_cons]

namespace Distinct

theorem nil : Distinct [] := ⟨List.nodup_nil, nofun⟩

theorem table {origin : Origin} (h : entries.Distinct) : (Node.table origin entries).Distinct :=
  .table h.names h.parts

theorem of_lookup (h : entries.Distinct) (found : entries.lookup name = some node) :
    node.Distinct :=
  h.parts _ (Fields.mem_of_lookup found)

theorem of_lookup_table {origin : Origin} {inner : Entries} (h : entries.Distinct)
    (found : entries.lookup name = some (.table origin inner)) : inner.Distinct := by
  cases h.of_lookup found with
  | table names parts => exact ⟨names, parts⟩

theorem of_lookup_tables {elements : List Entries} (h : entries.Distinct)
    (found : entries.lookup name = some (.tables elements)) :
    ∀ inner ∈ elements, inner.Distinct := by
  cases h.of_lookup found with
  | tables names parts => exact fun inner listed => ⟨names inner listed, parts inner listed⟩

theorem tables {elements : List Entries} (h : ∀ inner ∈ elements, inner.Distinct) :
    (Node.tables elements).Distinct :=
  .tables (fun inner listed => (h inner listed).names) fun inner listed => (h inner listed).parts

/-- A name that is free may be given a node. -/
theorem append (h : entries.Distinct) (free : name ∉ entries.map Prod.fst) (hn : node.Distinct) :
    Distinct (entries ++ [(name, node)]) where
  names := by
    rw [List.map_append]
    show (_ ++ [name]).Nodup
    rw [← List.concat_eq_append, List.nodup_concat]
    exact ⟨free, h.names⟩
  parts := List.forall_mem_append.2 ⟨h.parts, List.forall_mem_singleton.2 hn⟩

theorem put {old : Node} (h : entries.Distinct) (found : entries.lookup name = some old)
    (hn : node.Distinct) : Distinct (put name node entries) where
  names := by
    rw [map_fst_put found]
    exact h.names
  parts := by
    intro entry listed
    rcases mem_put listed with rfl | listed
    · exact hn
    · exact h.parts entry listed

theorem erase (h : entries.Distinct) : Distinct (entries.erase name) where
  names := h.names.sublist (List.filter_sublist.map _)
  parts entry listed := h.parts entry (List.mem_of_mem_filter listed)

theorem not_mem_erase : name ∉ (entries.erase name).map Prod.fst := by
  intro listed
  obtain ⟨entry, member, same⟩ := List.mem_map.1 listed
  exact bne_iff_ne.1 (List.mem_filter.1 member).2 same

/-- An edit at the end of a path keeps what it keeps of the table there. -/
theorem editAt {dotted : Bool} {edit : Origin → Entries → Option Entries}
    (keeps : ∀ origin inner edited, Distinct inner → edit origin inner = some edited →
      Distinct edited)
    {path : List String} {origin : Origin} {edited : Entries} (h : entries.Distinct)
    (edits : entries.editAt dotted edit path origin = some edited) : edited.Distinct := by
  -- one case for each kind of node that a step of the path may meet
  induction path generalizing origin entries edited with
  | nil => exact keeps origin entries edited h edits
  | cons name path ih =>
    rw [Entries.editAt] at edits
    split at edits
    case h_1 free =>
      obtain ⟨inner, within, rfl⟩ := Option.map_eq_some_iff.1 edits
      exact h.append (Fields.lookup_eq_none_iff.1 free) (ih nil within).table
    case h_2 => cases edits
    case h_3 found =>
      split at edits
      · cases edits
      · obtain ⟨inner, within, rfl⟩ := Option.map_eq_some_iff.1 edits
        exact h.put found (ih (h.of_lookup_table found) within).table
    case h_4 elements found =>
      obtain ⟨inner, within, rfl⟩ := Option.map_eq_some_iff.1 edits
      have all := h.of_lookup_tables found
      have last : Distinct (elements.getLast?.getD []) := by
        cases tail : elements.getLast? with
        | none => exact nil
        | some entries => exact all entries (List.mem_of_getLast? tail)
      have before : ∀ entries ∈ elements.dropLast, Distinct entries :=
        fun entries listed => all entries (List.dropLast_subset _ listed)
      refine h.put found (tables (List.forall_mem_append.2 ⟨before, ?_⟩))
      exact List.forall_mem_singleton.2 (ih last within)

theorem add? {value : Value} {edited : Entries} (h : entries.Distinct) (hv : value.Distinct)
    (adds : entries.add? name value = some edited) : edited.Distinct := by
  unfold Entries.add? at adds
  split at adds
  case h_1 free =>
    cases adds
    exact h.append (Fields.lookup_eq_none_iff.1 free) (.value hv)
  case h_2 => cases adds

theorem assign? {assignment : Assignment} {edited : Entries} (h : entries.Distinct)
    (hv : assignment.value.Distinct) (assigns : entries.assign? assignment = some edited) :
    edited.Distinct := by
  refine h.editAt ?_ assigns
  intro origin inner edited hi edits
  split at edits
  · exact hi.add? hv edits
  · cases edits

theorem openTable? {path : List String} {edited : Entries} (h : entries.Distinct)
    (opens : entries.openTable? path name = some edited) : edited.Distinct := by
  refine h.editAt ?_ opens
  intro origin inner edited hi edits
  split at edits
  case h_1 free =>
    cases edits
    exact hi.append (Fields.lookup_eq_none_iff.1 free) nil.table
  case h_2 found =>
    cases edits
    exact hi.erase.append not_mem_erase (hi.of_lookup_table found).table
  case h_3 => cases edits

theorem openElement? {path : List String} {edited : Entries} (h : entries.Distinct)
    (opens : entries.openElement? path name = some edited) : edited.Distinct := by
  refine h.editAt ?_ opens
  intro origin inner edited hi edits
  split at edits
  case h_1 free =>
    cases edits
    exact hi.append (Fields.lookup_eq_none_iff.1 free) (tables (List.forall_mem_singleton.2 nil))
  case h_2 elements found =>
    cases edits
    refine hi.put found (tables (List.forall_mem_append.2 ⟨hi.of_lookup_tables found, ?_⟩))
    exact List.forall_mem_singleton.2 nil
  case h_3 => cases edits

theorem finishTable (h : entries.Distinct) : (Value.table (Node.finishTable entries)).Distinct :=
  Node.Distinct.finish (h.table : (Node.table .header entries).Distinct)

end Distinct

end Entries

/-! ## Lines and documents -/

/-- The run of a fallible step keeps what each of its steps keeps. -/
theorem foldlM_keeps {α σ : Type} {P : σ → Prop} {Q : α → Prop} {step : σ → α → Option σ}
    (keeps : ∀ s a s', P s → Q a → step s a = some s' → P s') {as : List α} {s s' : σ} (hs : P s)
    (has : ∀ a ∈ as, Q a) (run : as.foldlM step s = some s') : P s' := by
  induction as generalizing s with
  | nil =>
    cases run
    exact hs
  | cons a as ih =>
    rw [List.foldlM_cons] at run
    obtain ⟨mid, first, run⟩ := Option.bind_eq_some_iff.1 run
    exact ih (keeps s a mid hs (has a List.mem_cons_self) first)
      (fun a listed => has a (List.mem_cons_of_mem _ listed)) run

theorem ofInline?_distinct {assignments : List Assignment} {value : Value}
    (given : ∀ assignment ∈ assignments, assignment.value.Distinct)
    (builds : Entries.ofInline? assignments = some value) : value.Distinct := by
  obtain ⟨entries, run, rfl⟩ := Option.map_eq_some_iff.1 builds
  refine Entries.Distinct.finishTable (foldlM_keeps ?_ Entries.Distinct.nil given run)
  intro entries assignment edited h hv assigns
  exact h.assign? hv assigns

/-- Whether the value that a line gives, if it does, has distinct names. -/
def Line.Distinct : Line → Prop
  | .assignment given => given.value.Distinct
  | _ => True

/-- A line keeps the names of the tables read so far distinct. -/
theorem Draft.add?_distinct {draft next : Draft} {line : Line} (h : draft.entries.Distinct)
    (hl : line.Distinct) (adds : draft.add? line = some next) : next.entries.Distinct := by
  cases line with
  | assignment given =>
    obtain ⟨entries, edits, rfl⟩ := Option.map_eq_some_iff.1 adds
    exact h.editAt (fun _ _ _ hi assigns => hi.assign? hl assigns) edits
  | header path name =>
    obtain ⟨entries, opens, rfl⟩ := Option.map_eq_some_iff.1 adds
    exact h.openTable? opens
  | elementHeader path name =>
    obtain ⟨entries, opens, rfl⟩ := Option.map_eq_some_iff.1 adds
    exact h.openElement? opens

theorem tableOf?_distinct {lines : List Line} {table : Table} (h : ∀ line ∈ lines, line.Distinct)
    (builds : tableOf? lines = some table) : (Value.table table).Distinct := by
  obtain ⟨draft, run, rfl⟩ := Option.map_eq_some_iff.1 builds
  refine Entries.Distinct.finishTable ?_
  exact foldlM_keeps (P := fun draft => draft.entries.Distinct)
    (fun _ _ _ h hl adds => Draft.add?_distinct h hl adds) Entries.Distinct.nil h run

/-! ## Reading -/

open Reader (Yields)

theorem numeral_distinct : Yields Value.Distinct numeral := by
  have integerOf (i : Int) : Yields Value.Distinct (integerOf i) :=
    .bind_any fun _ => .pure (.integer _)
  have based (letter : Char) (base : Nat) (isDigit : Char → Bool) :
      Yields Value.Distinct (basedInteger letter base isDigit) :=
    .bind_any fun _ => .bind_any fun _ => .bind_any fun _ => integerOf _
  have integer : Yields Value.Distinct integer :=
    .orElse (based _ _ _) (.orElse (based _ _ _) (.orElse (based _ _ _)
      (.bind_any fun _ => .bind_any fun _ => integerOf _)))
  have decimalFloat : Yields Value.Distinct decimalFloat := by
    refine .bind_any fun _ => .bind_any fun _ => .bind_any fun _ => ?_
    split
    · exact .failure
    · exact .pure (.float _)
    · exact .failure
  have specialFloat : Yields Value.Distinct specialFloat :=
    .bind_any fun _ =>
      .orElse (.bind_any fun _ => .pure (.float _)) (.bind_any fun _ => .pure (.float _))
  exact .orElse (.bind_any fun _ => .pure (.datetime _))
    (.orElse decimalFloat (.orElse specialFloat integer))

theorem scalar_distinct : Yields Value.Distinct scalar := by
  refine .bind_any fun next => ?_
  split
  · exact .bind_any fun _ => .pure (.string _)
  · exact .bind_any fun _ => .pure (.boolean _)
  · exact .bind_any fun _ => .pure (.boolean _)
  · split
    · exact .bind_any fun _ => .pure (.string _)
    · exact numeral_distinct
  · exact .failure

theorem array_distinct {element : Reader Value} (h : Yields Value.Distinct element) :
    Yields Value.Distinct (array element) := by
  have closing (items : List Value) (hi : ∀ item ∈ items, item.Distinct) :
      Yields Value.Distinct (do .exactly ']'; return Value.array items) :=
    .bind_any fun _ => .pure (.array hi)
  refine .bind_any fun _ => .bind_any fun _ => .bind (.maybe h.seqLeft) fun first hf => ?_
  cases first with
  | none => exact .bind (.pure nofun) closing
  | some first =>
    refine .bind (.many h.seqLeft.seqRight) fun rest hr => .bind_any fun _ =>
      .bind (.pure ?_) closing
    exact List.forall_mem_cons.2 ⟨hf first rfl, hr⟩

theorem inlineTable_distinct {element : Reader Value} (h : Yields Value.Distinct element) :
    Yields Value.Distinct (inlineTable element) := by
  have entry : Yields (·.value.Distinct) (assignment element <* blanks) :=
    .seqLeft (.bind_any fun _ => .bind_any fun _ => .bind_any fun _ => .bind h fun _ hv => .pure hv)
  have closing (given : List Assignment) (hg : ∀ assignment ∈ given, assignment.value.Distinct) :
      Yields Value.Distinct (do
        blanks
        .exactly '\x7d'
        StateT.lift (Entries.ofInline? given)) :=
    .bind_any fun _ => .bind_any fun _ => .lift fun _ builds => ofInline?_distinct hg builds
  refine .bind_any fun _ => .bind (.maybe entry) fun first hf => ?_
  cases first with
  | none => exact .bind (.pure nofun) closing
  | some first =>
    refine .bind (.many entry.seqRight) fun rest hr => .bind (.pure ?_) closing
    exact List.forall_mem_cons.2 ⟨hf first rfl, hr⟩

theorem value_distinct (depth : Nat) : Yields Value.Distinct (value depth) := by
  induction depth with
  | zero => exact scalar_distinct
  | succ depth ih =>
    refine .bind_any fun next => ?_
    split
    · exact array_distinct ih
    · exact inlineTable_distinct ih
    · exact scalar_distinct

theorem statement_distinct : Yields Line.Distinct statement :=
  .orElse (.bind_any fun _ => .bind_any fun _ => .bind_any fun _ => .pure trivial)
    (.orElse (.bind_any fun _ => .bind_any fun _ => .bind_any fun _ => .pure trivial)
      (.bind (.bind_any fun _ => .bind_any fun _ => .bind_any fun _ =>
        .bind (value_distinct _) fun _ hv => .pure hv) fun _ hv => .pure hv))

theorem document_distinct : Yields (fun table => (Value.table table).Distinct) document := by
  have line : Yields (fun said => ∀ line ∈ said, line.Distinct) line :=
    .bind_any fun _ => .bind (.maybe statement_distinct) fun _ hs =>
      .bind_any fun _ => .bind_any fun _ => .bind_any fun _ => .pure hs
  refine .bind_any fun _ => .bind (.many line) fun lines hl => .bind_any fun _ => .lift fun table =>
    tableOf?_distinct fun line listed => ?_
  obtain ⟨said, member, same⟩ := List.mem_filterMap.1 listed
  exact hl said member line same

/-- The names of each table that a text describes differ from each other. -/
theorem read?_distinct {text : String} {table : Table} (reads : read? text = some table) :
    (Value.table table).Distinct := by
  obtain ⟨⟨_, rest⟩, found, rfl⟩ := Option.map_eq_some_iff.1 reads
  exact document_distinct _ _ _ found

end PerpetualCurve.Toml
