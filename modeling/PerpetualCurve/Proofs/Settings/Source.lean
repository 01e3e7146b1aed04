import Mathlib.Data.List.Forall2
import PerpetualCurve.Proofs.Toml.Distinct
import PerpetualCurve.Settings.Layer

/-!
# The source a document makes up

A document becomes a source value by value: the items of an array and the entries of a table keep
their order, and entries keep their names. So the names of each table in a source differ from each
other, as they do in the document.
-/

namespace PerpetualCurve.Setting

/-- Whether the names of each table within a value have a property. -/
inductive EveryTable (p : List String → Prop) : Setting → Prop
  | nothing : EveryTable p .nothing
  | boolean (value : Bool) : EveryTable p (.boolean value)
  | integer (value : Signed 64) : EveryTable p (.integer value)
  | float (value : Double) : EveryTable p (.float value)
  | text (written : String) : EveryTable p (.text written)
  | list {items : List Setting} (parts : ∀ item ∈ items, EveryTable p item) :
      EveryTable p (.list items)
  | table {entries : List (String × Setting)} (names : p (entries.map Prod.fst))
      (parts : ∀ entry ∈ entries, EveryTable p entry.2) : EveryTable p (.table entries)

namespace EveryTable

variable {p q : List String → Prop} {s : Setting} {es : List (String × Setting)}

theorem combine {r : List String → Prop} (hp : s.EveryTable p) (hq : s.EveryTable q)
    (imp : ∀ names, p names → q names → r names) : s.EveryTable r := by
  induction hp with
  | nothing => exact .nothing
  | boolean value => exact .boolean value
  | integer value => exact .integer value
  | float value => exact .float value
  | text written => exact .text written
  | list _ ih =>
    cases hq with
    | list parts => exact .list fun item listed => ih item listed (parts item listed)
  | table names _ ih =>
    cases hq with
    | table names' parts =>
      exact .table (imp _ names names') fun entry listed => ih entry listed (parts entry listed)

theorem list_iff {items : List Setting} :
    (Setting.list items).EveryTable p ↔ ∀ item ∈ items, item.EveryTable p := by
  refine ⟨fun h => ?_, .list⟩
  cases h with
  | list parts => exact parts

theorem table_iff : (Setting.table es).EveryTable p ↔
    p (es.map Prod.fst) ∧ ∀ entry ∈ es, entry.2.EveryTable p := by
  refine ⟨fun h => ?_, fun h => .table h.1 h.2⟩
  cases h with
  | table names parts => exact ⟨names, parts⟩

theorem names (h : (Setting.table es).EveryTable p) : p (es.map Prod.fst) := (table_iff.1 h).1

theorem of_lookup {name : String} (h : (Setting.table es).EveryTable p)
    (found : es.lookup name = some s) : s.EveryTable p :=
  (table_iff.1 h).2 _ (Fields.mem_of_lookup found)

attribute [simp] nothing boolean integer float text list_iff table_iff

end EveryTable

/-! ## Values of a document -/

theorem ofItems?_eq_some_iff {items : List Toml.Value} {ss : List Setting} :
    ofItems? items = some ss ↔ List.Forall₂ (fun v s => ofToml? v = some s) items ss := by
  induction items generalizing ss with
  | nil => simp [ofItems?, eq_comm]
  | cons item items ih =>
    rw [List.forall₂_cons_left_iff]
    simp only [ofItems?, bind, Option.bind_eq_some_iff, ih, pure, Option.some.injEq]
    grind

/-- An entry of a document and what becomes of it. -/
def Becomes (entry : String × Toml.Value) (source : String × Setting) : Prop :=
  entry.1 = source.1 ∧ ofToml? entry.2 = some source.2

theorem ofEntries?_eq_some_iff {entries : Toml.Table} {es : List (String × Setting)} :
    ofEntries? entries = some es ↔ List.Forall₂ Becomes entries es := by
  induction entries generalizing es with
  | nil => simp [ofEntries?, eq_comm]
  | cons entry entries ih =>
    obtain ⟨name, value⟩ := entry
    rw [List.forall₂_cons_left_iff]
    simp only [ofEntries?, bind, Option.bind_eq_some_iff, ih, pure, Option.some.injEq, Becomes]
    grind

theorem map_fst_of_becomes {entries : Toml.Table} {es : List (String × Setting)}
    (h : List.Forall₂ Becomes entries es) : es.map Prod.fst = entries.map Prod.fst := by
  induction h with
  | nil => rfl
  | cons head _ ih => rw [List.map_cons, List.map_cons, head.1, ih]

theorem ofToml?_table_eq_some_iff {entries : Toml.Table} {s : Setting} :
    ofToml? (.table entries) = some s ↔
      (∃ value text, marked? entries = some value ∧ datetimeText? value = some text ∧
        s = .text text) ∨
      marked? entries = none ∧ ∃ es, List.Forall₂ Becomes entries es ∧ s = .table es := by
  rw [ofToml?]
  cases marked? entries with
  | none => simp [ofEntries?_eq_some_iff, Option.map_eq_some_iff, eq_comm (a := s)]
  | some value => simp [Option.map_eq_some_iff, eq_comm (a := s)]

/-- The property of the parts of a list passes to what becomes of them. -/
theorem forall_of_forall₂ {α β : Type} {R : α → β → Prop} {P : β → Prop} {as : List α}
    {bs : List β} (h : List.Forall₂ R as bs) (imp : ∀ a ∈ as, ∀ b, R a b → P b) :
    ∀ b ∈ bs, P b := by
  induction h with
  | nil => nofun
  | cons head _ ih =>
    refine List.forall_mem_cons.2 ⟨imp _ List.mem_cons_self _ head, ih fun a listed => ?_⟩
    exact imp a (List.mem_cons_of_mem _ listed)

theorem everyTable_nodup_of_distinct {v : Toml.Value} (h : v.Distinct) {s : Setting}
    (becomes : ofToml? v = some s) : s.EveryTable List.Nodup := by
  induction h generalizing s with
  | string text => cases becomes; exact .text text
  | integer value => cases becomes; exact .integer value
  | float value => cases becomes; exact .float value
  | boolean value => cases becomes; exact .boolean value
  | datetime value => cases becomes; exact .text _
  | array parts ih =>
    obtain ⟨items, all, rfl⟩ := Option.map_eq_some_iff.1 becomes
    exact .list (forall_of_forall₂ (ofItems?_eq_some_iff.1 all) fun item listed s => ih item listed)
  | table names parts ih =>
    obtain ⟨_, _, -, -, rfl⟩ | ⟨-, es, all, rfl⟩ := ofToml?_table_eq_some_iff.1 becomes
    · exact .text _
    · refine .table (by rwa [map_fst_of_becomes all]) ?_
      exact forall_of_forall₂ all fun entry listed s becomes => ih entry listed becomes.2

/-- The names of each table of the source that a text makes up differ from each other. -/
theorem everyTable_nodup_of_read {toml : String} {document : Toml.Table}
    {source : List (String × Setting)} (reads : Toml.read? toml = some document)
    (becomes : ofDocument? document = some source) : (table source).EveryTable List.Nodup := by
  unfold ofDocument? at becomes
  split at becomes
  case h_1 entries whole =>
    cases becomes
    exact everyTable_nodup_of_distinct (Toml.read?_distinct reads) whole
  case h_2 => cases becomes

end PerpetualCurve.Setting
