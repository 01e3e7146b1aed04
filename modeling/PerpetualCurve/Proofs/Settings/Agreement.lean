import PerpetualCurve.Proofs.Settings.Load

/-!
# A text and a file with it agree

What is read from the values of a TOML document is read from the settings that they stand for, if no
table of the document is marked as a date or a time. So the settings that a text describes are those
that a host loads from a file with that text, where the document spells its names literally: sources
compare names without regard to case and take outermost names for places, some of which do not
exist.
-/

namespace PerpetualCurve

open Text

namespace Setting

variable {α β γ δ : Type}

/-- A value without marked tables, and the setting it stands for. -/
structure Mirrors (v : Toml.Value) (s : Setting) : Prop where
  unmarked : v.EveryTable fun names => names.head? ≠ some datetimeMark
  becomes : ofToml? v = some s

/-- Entries with the same name whose values mirror each other. -/
def MirrorsEntry (entry : String × Toml.Value) (source : String × Setting) : Prop :=
  entry.1 = source.1 ∧ Mirrors entry.2 source.2

/-- Parts of records that mirror each other. -/
inductive MirrorsParts : Parts Toml.Value → Parts Setting → Prop
  | named {members : Toml.Table} {es : List (String × Setting)}
      (h : List.Forall₂ MirrorsEntry members es) : MirrorsParts (.named members) (.named es)
  | positional {items : List Toml.Value} {ss : List Setting} (h : List.Forall₂ Mirrors items ss) :
      MirrorsParts (.positional items) (.positional ss)

theorem marked?_eq_none {entries : Toml.Table}
    (h : (entries.map Prod.fst).head? ≠ some datetimeMark) : marked? entries = none := by
  cases entries with
  | nil => rfl
  | cons entry entries => exact if_neg fun same => h (congrArg some same)

namespace Mirrors

theorem of_array {items : List Toml.Value} {s : Setting} (h : Mirrors (.array items) s) :
    ∃ ss, s = list ss ∧ List.Forall₂ Mirrors items ss := by
  obtain ⟨ss, all, rfl⟩ := Option.map_eq_some_iff.1 h.becomes
  refine ⟨ss, rfl, ?_⟩
  cases h.unmarked with
  | array parts =>
    exact ((List.forall₂_and_left _ _).2 ⟨parts, ofItems?_eq_some_iff.1 all⟩).imp
      fun v s h => ⟨h.1, h.2⟩

theorem of_table {entries : Toml.Table} {s : Setting} (h : Mirrors (.table entries) s) :
    ∃ es, s = table es ∧ List.Forall₂ MirrorsEntry entries es := by
  cases h.unmarked with
  | table names parts =>
    obtain ⟨_, _, marked, -⟩ | ⟨-, es, all, rfl⟩ := ofToml?_table_eq_some_iff.1 h.becomes
    · cases (marked?_eq_none names).symm.trans marked
    · refine ⟨es, rfl, ((List.forall₂_and_left _ _).2 ⟨parts, all⟩).imp fun entry source h => ?_⟩
      exact ⟨h.2.1, h.1, h.2.2⟩

end Mirrors

theorem exists_forall₂ {R : α → β → Prop} {as : List α} (h : ∀ a ∈ as, ∃ b, R a b) :
    ∃ bs, List.Forall₂ R as bs := by
  induction as with
  | nil => exact ⟨[], .nil⟩
  | cons a as ih =>
    obtain ⟨first, rest⟩ := List.forall_mem_cons.1 h
    obtain ⟨b, head⟩ := first
    obtain ⟨bs, tail⟩ := ih rest
    exact ⟨b :: bs, .cons head tail⟩

/-- Every value without marked tables stands for a setting. -/
theorem exists_ofToml? {v : Toml.Value}
    (h : v.EveryTable fun names => names.head? ≠ some datetimeMark) : ∃ s, ofToml? v = some s := by
  induction h with
  | string text => exact ⟨_, rfl⟩
  | integer value => exact ⟨_, rfl⟩
  | float value => exact ⟨_, rfl⟩
  | boolean value => exact ⟨_, rfl⟩
  | datetime value => exact ⟨_, rfl⟩
  | array parts ih =>
    obtain ⟨ss, all⟩ := exists_forall₂ ih
    exact ⟨list ss, Option.map_eq_some_iff.2 ⟨ss, ofItems?_eq_some_iff.2 all, rfl⟩⟩
  | @table entries names parts ih =>
    have each : ∀ entry ∈ entries, ∃ source, Becomes entry source := by
      intro entry listed
      obtain ⟨s, becomes⟩ := ih entry listed
      exact ⟨(entry.1, s), rfl, becomes⟩
    obtain ⟨es, all⟩ := exists_forall₂ each
    exact ⟨table es, ofToml?_table_eq_some_iff.2 (.inr ⟨marked?_eq_none names, es, all, rfl⟩)⟩

/-! ## Readers -/

/-- Whether a reader reads from settings what another one reads from the values they mirror. -/
def Refines (read : Toml.Value → Option α) (read' : Setting → Option α) : Prop :=
  ∀ v s a, Mirrors v s → read v = some a → read' s = some a

/-- Whether fields of settings come out as those of the values they mirror do. -/
def FieldsRefine (P : α → β → Prop) (fields : Fields Toml.Value α) (fields' : Fields Setting β) :
    Prop :=
  ∀ parts parts' a rest, MirrorsParts parts parts' → fields.run parts = some (a, rest) →
    ∃ b rest', fields'.run parts' = some (b, rest') ∧ P a b ∧ MirrorsParts rest rest'

namespace FieldsRefine

variable {P : α → β → Prop} {Q : γ → δ → Prop}

theorem pure {a : α} {b : β} (h : P a b) :
    FieldsRefine P (Pure.pure a) (Pure.pure b) := by
  rintro parts parts' _ _ mirror ⟨⟩
  exact ⟨b, parts', rfl, h, mirror⟩

theorem bind {fields : Fields Toml.Value α} {fields' : Fields Setting β}
    {next : α → Fields Toml.Value γ} {next' : β → Fields Setting δ}
    (first : FieldsRefine P fields fields')
    (second : ∀ a b, P a b → FieldsRefine Q (next a) (next' b)) :
    FieldsRefine Q (fields >>= next) (fields' >>= next') := by
  intro parts parts' c rest mirror run
  obtain ⟨⟨a, mid⟩, run₁, run₂⟩ := Option.bind_eq_some_iff.1 run
  obtain ⟨b, mid', run₁', related, mirror'⟩ := first parts parts' a mid mirror run₁
  obtain ⟨d, rest', run₂', related', mirror''⟩ := second a b related mid mid' c rest mirror' run₂
  refine ⟨d, rest', ?_, related', mirror''⟩
  exact Option.bind_eq_some_iff.2 ⟨(b, mid'), run₁', run₂'⟩

/-- Fields that come out equal. -/
theorem bind_eq {fields : Fields Toml.Value α} {fields' : Fields Setting α}
    {next : α → Fields Toml.Value γ} {next' : α → Fields Setting δ}
    (first : FieldsRefine Eq fields fields') (second : ∀ a, FieldsRefine Q (next a) (next' a)) :
    FieldsRefine Q (fields >>= next) (fields' >>= next') :=
  first.bind fun a _ same => same ▸ second a

theorem take (name : String) :
    FieldsRefine (Option.Rel Mirrors) (Fields.take name) (Fields.take name) := by
  rintro parts parts' a rest mirror run
  cases mirror with
  | @named members es h =>
    have found : List.Forall₂ MirrorsEntry (members.filter (·.1 == name))
        (es.filter (·.1 == name)) :=
      List.rel_filter (fun entry source h => by simp [h.1]) h
    rw [Fields.run_take_named] at run
    simp only [Fields.run_take_named]
    generalize members.filter (·.1 == name) = ms at found run
    generalize es.filter (·.1 == name) = ss at found
    rcases found with _ | ⟨head, _ | _⟩
    · cases run
      exact ⟨_, _, rfl, .none, .named h⟩
    · cases run
      exact ⟨_, _, rfl, .some head.2, .named h⟩
    · cases run
  | positional h =>
    cases h with
    | nil => cases run; exact ⟨_, _, rfl, .none, .positional .nil⟩
    | cons head tail => cases run; exact ⟨_, _, rfl, .some head, .positional tail⟩

theorem lift {read : Toml.Value → Option α} {read' : Setting → Option α} (h : Refines read read')
    {v : Toml.Value} {s : Setting} (mirror : Mirrors v s) :
    FieldsRefine Eq (liftM (read v)) (liftM (read' s)) := by
  intro parts parts' a rest mirrors run
  obtain ⟨b, reads, same⟩ := Option.bind_eq_some_iff.1 run
  cases same
  exact ⟨a, parts', Option.bind_eq_some_iff.2 ⟨a, h v s a mirror reads, rfl⟩, rfl, mirrors⟩

theorem required (name : String) {read : Toml.Value → Option α} {read' : Setting → Option α}
    (h : Refines read read') :
    FieldsRefine Eq (Fields.required name read) (Fields.required name read') := by
  refine (take name).bind fun value value' mirror => ?_
  cases mirror with
  | none => intro parts parts' a rest mirrors run; cases run
  | some mirror => exact lift h mirror

theorem withDefault (name : String) {read : Toml.Value → Option α} {read' : Setting → Option α}
    (h : Refines read read') (fallback : α) :
    FieldsRefine Eq (Fields.withDefault name read fallback)
      (Fields.withDefault name read' fallback) := by
  refine (take name).bind fun value value' mirror => ?_
  cases mirror with
  | none => exact pure rfl
  | some mirror => exact lift h mirror

end FieldsRefine

namespace Refines

theorem text : Refines Toml.format.text format.text := by
  intro v s a mirror reads
  cases v
  case string written =>
    cases reads
    cases mirror.becomes
    rfl
  all_goals cases reads

theorem unsigned (bits : Nat) : Refines (Toml.format.unsigned bits) (format.unsigned bits) := by
  intro v s a mirror reads
  cases v
  case integer i =>
    cases mirror.becomes
    exact reads
  all_goals cases reads

theorem optional {read : Toml.Value → Option α} {read' : Setting → Option α}
    (h : Refines read read') (present : read' .nothing = none) :
    Refines (Toml.format.optional read) (format.optional read') := by
  intro v s a mirror reads
  obtain ⟨b, found, rfl⟩ := Option.map_eq_some_iff.1 reads
  have found' := h v s b mirror found
  cases s
  case nothing => cases present.symm.trans found'
  all_goals exact Option.map_eq_some_iff.2 ⟨b, found', rfl⟩

theorem mapM {read : Toml.Value → Option α} {read' : Setting → Option α} (h : Refines read read')
    {items : List Toml.Value} {ss : List Setting} (mirrors : List.Forall₂ Mirrors items ss)
    {as : List α} (reads : items.mapM read = some as) : ss.mapM read' = some as := by
  induction mirrors generalizing as with
  | nil => exact reads
  | cons head tail ih =>
    rw [List.mapM_cons] at reads ⊢
    obtain ⟨a, first, reads⟩ := Option.bind_eq_some_iff.1 reads
    obtain ⟨rest, others, same⟩ := Option.bind_eq_some_iff.1 reads
    rw [h _ _ a head first, ih others]
    exact same

theorem listOf {read : Toml.Value → Option α} {read' : Setting → Option α}
    (h : Refines read read') :
    Refines (Toml.format.listOf read) (format.listOf read') := by
  intro v s as mirror reads
  cases v
  case array items =>
    obtain ⟨ss, rfl, all⟩ := mirror.of_array
    exact h.mapM all reads
  all_goals cases reads

/-- A record with a field that it needs is not read from a date or a time. -/
theorem record {fields : Fields Toml.Value α} {fields' : Fields Setting α}
    (h : FieldsRefine Eq fields fields') (needed : fields.run (.named []) = none) :
    Refines (Toml.format.record fields) (format.record fields') := by
  intro v s a mirror reads
  rw [Format.record_of_inexact rfl] at reads ⊢
  obtain ⟨⟨a, rest⟩, run, rfl⟩ := Option.map_eq_some_iff.1 reads
  have refined {parts : Parts Toml.Value} {parts' : Parts Setting}
      (mirrors : MirrorsParts parts parts') (run : fields.run parts = some (a, rest)) :
      (fields'.run parts').map Prod.fst = some a := by
    obtain ⟨b, rest', run', rfl, -⟩ := h parts parts' a rest mirrors run
    exact Option.map_eq_some_iff.2 ⟨_, run', rfl⟩
  cases v
  case table entries =>
    obtain ⟨es, rfl, all⟩ := mirror.of_table
    exact refined (.named all) run
  case array items =>
    obtain ⟨ss, rfl, all⟩ := mirror.of_array
    exact refined (.positional all) run
  case datetime day => cases needed.symm.trans run
  all_goals cases run

theorem single_of_word {entries : Toml.Table} {w : String}
    (spelled : Toml.format.word (.table entries) = some w) : ∃ v, entries = [(w, v)] := by
  simp only [Toml.format] at spelled
  split at spelled
  case h_1 same => cases same
  case h_2 same =>
    cases same
    cases spelled
    exact ⟨_, rfl⟩
  case h_3 same =>
    cases same
    cases spelled
    exact ⟨_, rfl⟩
  case h_4 => cases spelled

/-- The word of a tag stays the same where it is put in a table. -/
theorem word_of_mirrors {v : Toml.Value} {s : Setting} (mirror : Mirrors v s) {w : String}
    (spelled : Toml.format.word v = some w) (lowered : lower w = w) :
    format.word s = some w ∧ format.word (overlay s none) = some w := by
  cases v
  case string written =>
    cases spelled
    cases mirror.becomes
    exact ⟨congrArg some lowered, congrArg some lowered⟩
  case table entries =>
    obtain ⟨es, rfl, all⟩ := mirror.of_table
    obtain ⟨v, rfl⟩ := single_of_word spelled
    rcases all with _ | ⟨⟨rfl, -⟩, _ | _⟩
    refine ⟨congrArg some lowered, ?_⟩
    show format.word (put _ _ (table [])) = _
    rw [put_eq]
    exact congrArg some ((congrArg lower lowered).trans lowered)
  all_goals cases spelled

theorem tag [Tagged α] [LawfulTagged α] : Refines (Toml.format.tag (α := α)) format.tag := by
  intro v s a mirror reads
  obtain ⟨w, spelled, tagged⟩ := Option.bind_eq_some_iff.1 reads
  have word := (word_of_mirrors mirror spelled (Tagged.lower_of_ofWord? tagged)).1
  exact Option.bind_eq_some_iff.2 ⟨w, word, tagged⟩

theorem listing :
    Refines (Toml.format.record (Listing.fields Toml.format))
      (format.record (Listing.fields format)) := by
  refine record ?_ rfl
  refine .bind_eq (.required _ .text) fun symbol => ?_
  refine .bind_eq (.required _ (.unsigned 64)) fun index => ?_
  refine .bind_eq (.required _ .text) fun oracleAddress => ?_
  refine .bind_eq (.required _ .text) fun mintAddress => ?_
  refine .bind_eq (.required _ .tag) fun oracleSource => ?_
  refine .bind_eq (.required _ (.unsigned 64)) fun precision => ?_
  refine .bind_eq (.required _ (.unsigned 32)) fun exponent => ?_
  refine .bind_eq (.withDefault _ (.optional .text rfl) none) fun venue => ?_
  exact .pure rfl

end Refines

/-! ## Settings -/

theorem lookup_of_mirrors {entries : Toml.Table} {es : List (String × Setting)}
    (all : List.Forall₂ MirrorsEntry entries es) (name : String) :
    Option.Rel Mirrors (entries.lookup name) (es.lookup name) := by
  induction all with
  | nil => exact .none
  | @cons entry source _ _ head _ ih =>
    obtain ⟨other, v⟩ := entry
    obtain ⟨_, s⟩ := source
    obtain ⟨rfl, mirror⟩ := head
    rw [List.lookup_cons, List.lookup_cons]
    cases name == other with
    | true => exact .some mirror
    | false => exact ih

theorem map_fst_of_mirrors {entries : Toml.Table} {es : List (String × Setting)}
    (all : List.Forall₂ MirrorsEntry entries es) : es.map Prod.fst = entries.map Prod.fst :=
  map_fst_of_becomes (all.imp fun _ _ h => ⟨h.1, h.2.becomes⟩)

theorem exists_entry_of_mirrors {entries : Toml.Table} {es : List (String × Setting)}
    (all : List.Forall₂ MirrorsEntry entries es) :
    ∀ source ∈ es, ∃ entry ∈ entries, entry.1 = source.1 :=
  forall_of_forall₂ all fun entry listed _ h => ⟨entry, listed, h.1⟩

/-- Whether a document has no names for its settings other than the plain ones, no name for an item
that a list cannot have, and no marked table. The engine is not given as a date or a time. Outermost
names are merged twice, the second time in lower case, so both times count. -/
structure Literal (room : Nat) (document : Toml.Table) : Prop where
  names : ∀ entry ∈ document, ∀ name ∈ ["engine", "markets"],
    root (root entry.1) = name → entry.1 = name
  inRoom : ∀ entry ∈ document, InRoom room entry.1 ∧ InRoom room (root entry.1)
  engineNames : ∀ entries, document.lookup "engine" = some (.table entries) →
    ∀ entry ∈ entries, lower entry.1 = "spread_policy" → entry.1 = "spread_policy"
  undated : ∀ day, document.lookup "engine" ≠ some (.datetime day)
  unmarked : (Toml.Value.table document).EveryTable fun names => names.head? ≠ some datetimeMark

variable {room : Nat} {document : Toml.Table} {source : List (String × Setting)}

/-- Plain names are literal. -/
theorem literal_of_isPlain
    (plain : (Toml.Value.table document).EveryTable fun names => ∀ name ∈ names, IsPlain name)
    (undated : ∀ day, document.lookup "engine" ≠ some (.datetime day)) : Literal room document where
  names entry listed name _ leads := by
    have itself := (plain.names _ (List.mem_map_of_mem listed)).root_eq
    rwa [itself, itself] at leads
  inRoom entry listed := by
    have itself := plain.names _ (List.mem_map_of_mem listed)
    rw [itself.root_eq]
    exact ⟨itself.inRoom, itself.inRoom⟩
  engineNames entries given entry listed same := by
    rwa [((plain.of_lookup given).names _ (List.mem_map_of_mem listed)).lower_eq] at same
  undated
  unmarked := plain.mono fun names plain marked =>
    absurd (plain _ (List.mem_of_head? marked)) (by decide)

theorem readPolicy?_of_mirrors {value : Option Toml.Value} {value' : Option Setting}
    (mirror : Option.Rel Mirrors value value') {policy : SpreadPolicy}
    (reads : Toml.format.readPolicy? value = some policy) :
    format.readPolicy? value' = some policy ∧
      format.readPolicy? (merged value' none) = some policy := by
  cases mirror with
  | none => exact ⟨reads, reads⟩
  | some mirror =>
    obtain ⟨w, spelled, tagged⟩ := Option.bind_eq_some_iff.1 reads
    obtain ⟨word, word'⟩ := Refines.word_of_mirrors mirror spelled (Tagged.lower_of_ofWord? tagged)
    exact ⟨Option.bind_eq_some_iff.2 ⟨w, word, tagged⟩,
      Option.bind_eq_some_iff.2 ⟨w, word', tagged⟩⟩

/-- A table for an engine may be put into an empty one, as loading does, if its names are
literal. -/
theorem readEngine?_of_mirrors_table {entries : Toml.Table} {es : List (String × Setting)}
    (distinct : (entries.map Prod.fst).Nodup)
    (literal : ∀ entry ∈ entries, lower entry.1 = "spread_policy" → entry.1 = "spread_policy")
    (within : List.Forall₂ MirrorsEntry entries es) {settings : EngineSettings}
    (reads : Toml.format.readEngine? (some (.table entries)) = some settings) :
    format.readEngine? (merged (some (table es)) none) = some settings := by
  have policy := (Format.record_engine_eq_some_iff rfl rfl distinct).1 reads
  refine (Format.record_engine_eq_some_iff rfl (isTable_putAll isTable_empty).parts_eq
    tidy_empty.putAll).2 ?_
  show format.readPolicy? ((putAll es (table [])).get? "spread_policy") = _
  have nodup : (es.map Prod.fst).Nodup := by rwa [map_fst_of_mirrors within]
  have literal' : ∀ source ∈ es,
      lower source.1 = "spread_policy" → source.1 = "spread_policy" := by
    intro source listed
    obtain ⟨entry, listed, same⟩ := exists_entry_of_mirrors within source listed
    rw [← same]
    exact literal entry listed
  rw [get?_putAll_of_nodup nodup (by decide) literal']
  exact (readPolicy?_of_mirrors (lookup_of_mirrors within _) policy).2

theorem readEngine?_of_mirrors_array {items : List Toml.Value} {ss : List Setting}
    (within : List.Forall₂ Mirrors items ss) {settings : EngineSettings}
    (reads : Toml.format.readEngine? (some (.array items)) = some settings) :
    format.readEngine? (merged (some (list ss)) none) = some settings := by
  have policy := (Format.record_engine_eq_some_iff_of_positional rfl rfl).1 reads
  have head : Option.Rel Mirrors items.head? ss.head? := by
    cases within with
    | nil => exact .none
    | cons first _ => exact .some first
  exact (Format.record_engine_eq_some_iff_of_positional rfl rfl).2
    (readPolicy?_of_mirrors head policy).1

theorem readEngine?_of_mirrors (literal : Literal room document)
    (distinct : (Toml.Value.table document).Distinct)
    (all : List.Forall₂ MirrorsEntry document source) {settings : EngineSettings}
    (reads : Toml.format.readEngine? (document.lookup "engine") = some settings) :
    format.readEngine? (merged (source.lookup "engine") none) = some settings := by
  have mirror := lookup_of_mirrors all "engine"
  generalize source.lookup "engine" = value at mirror ⊢
  cases given : document.lookup "engine" with
  | none =>
    rw [given] at mirror reads
    cases mirror
    exact reads
  | some v =>
    rw [given] at mirror reads
    obtain ⟨mirror⟩ := mirror
    cases v
    case table entries =>
      obtain ⟨es, rfl, within⟩ := mirror.of_table
      exact readEngine?_of_mirrors_table (distinct.of_lookup given).names
        (literal.engineNames entries given) within reads
    case array items =>
      obtain ⟨ss, rfl, within⟩ := mirror.of_array
      exact readEngine?_of_mirrors_array within reads
    case datetime day => exact absurd given (literal.undated day)
    all_goals cases reads

theorem readMarkets?_of_mirrors (all : List.Forall₂ MirrorsEntry document source)
    {markets : List Listing}
    (reads : Toml.format.readMarkets? (document.lookup "markets") = some markets) :
    format.readMarkets? (merged (source.lookup "markets") none) = some markets := by
  have mirror := lookup_of_mirrors all "markets"
  generalize source.lookup "markets" = value at mirror ⊢
  generalize document.lookup "markets" = given at mirror reads
  cases mirror with
  | none => exact reads
  | @some v s mirror =>
    have read := Refines.listing.listOf v s markets mirror reads
    cases s
    case list items => exact read
    all_goals cases read

end Setting

namespace Host

open Setting

variable {host : Host} {path : Option String} {place : Path} {toml : String}
  {document : Toml.Table} {source : List (String × Setting)} {settings : Settings}

theorem ofToml_eq_ok_iff (reads : Toml.read? toml = some document) :
    Settings.ofToml toml = .ok settings ↔
      Toml.format.record (Settings.fields Toml.format) (.table document) = some settings := by
  unfold Settings.ofToml
  rw [reads, Option.bind_some]
  cases Toml.format.record (Settings.fields Toml.format) (.table document) <;> simp

/-- A file with the extension is read itself. -/
theorem textAt?_of_read? (stored : host.read? place = some toml)
    (extension : place.hasExtension "toml".toList) :
    host.textAt? (host.fromRoot place) = some toml := by
  have stored : host.read? (host.fromRoot place) = some toml := by
    rwa [read?_fromRoot]
  have extension : (host.fromRoot place).hasExtension "toml".toList :=
    hasExtension_fromRoot extension
  unfold textAt?
  rw [stored]
  exact if_pos extension

/-- Without variables, the settings of a document with literal names are those of its source: both
times they are merged, each of them stays as it is. -/
theorem exists_combined?_of_mirrors (unset : ∀ binding ∈ host.bindings, ¬ isVariable binding.1)
    (literal : Literal host.room document) (distinct : (Toml.Value.table document).Distinct)
    (all : List.Forall₂ MirrorsEntry document source) :
    ∃ setting, host.combined? source [] = some setting ∧
      ∀ name ∈ ["engine", "markets"],
        setting.get? name = merged (source.lookup name) none := by
  have given : ∀ entry ∈ source, ∃ written ∈ document, written.1 = entry.1 :=
    exists_entry_of_mirrors all
  have alone : source ++ [] ++ ofVariables host.bindings = source := by
    rw [ofVariables_of_unset unset, List.append_nil, List.append_nil]
  have inRoom : ∀ entry ∈ source ++ [] ++ ofVariables host.bindings,
      InRoom host.room entry.1 ∧ InRoom host.room (root entry.1) := by
    rw [alone]
    intro entry listed
    obtain ⟨written, within, same⟩ := given entry listed
    rw [← same]
    exact literal.inRoom written within
  obtain ⟨whole, merges, setting, again⟩ := exists_merged? inRoom
  refine ⟨setting, Option.bind_eq_some_iff.2 ⟨whole, merges, again⟩, fun name known => ?_⟩
  have plain : IsPlain name := by
    rcases known with _ | ⟨_, _ | ⟨_, ⟨⟩⟩⟩ <;> decide
  have nodup : (source.map Prod.fst).Nodup := by
    rw [map_fst_of_mirrors all]
    exact distinct.names
  have names : ∀ entry ∈ source, root (root entry.1) = name → entry.1 = name := by
    intro entry listed
    obtain ⟨written, within, same⟩ := given entry listed
    rw [← same]
    exact literal.names written within name known
  rw [get?_again merges again plain]
  · rw [merged?_eq_override?, alone] at merges
    refine get?_of_override?_of_nodup merges nodup plain.pathOf_eq plain.lower_eq ?_
    intro entry listed leads
    refine names entry listed ?_
    rw [leads, plain.root_eq]
  · rw [alone]
    intro entry listed leads
    rw [names entry listed leads, plain.root_eq]

/-- Where a document spells its names literally, the settings that a text describes are those loaded
from a file with it. -/
theorem load_of_ofToml (parsed : Settings.ofToml toml = .ok settings)
    (spelled :
      (host.expand? (path.getD Settings.defaultPath).toList).bind Path.ofText? = some place)
    (stored : host.read? place = some toml) (extension : place.hasExtension "toml".toList)
    (unset : ∀ binding ∈ host.bindings, ¬ isVariable binding.1)
    (reads : Toml.read? toml = some document) (literal : Literal host.room document) :
    Settings.load host path none = .ok settings := by
  have distinct := Toml.read?_distinct reads
  obtain ⟨s, becomes⟩ := exists_ofToml? literal.unmarked
  have mirror : Mirrors (.table document) s := ⟨literal.unmarked, becomes⟩
  obtain ⟨source, rfl, all⟩ := mirror.of_table
  have described := (ofToml_eq_ok_iff reads).1 parsed
  obtain ⟨engine, markets⟩ :=
    (Format.record_settings_eq_some_iff rfl rfl distinct.names).1 described
  have layers : host.layers? path none = some (source, []) := by
    have found : host.source? place = some source := by
      refine source?_eq_some (textAt?_of_read? stored extension) reads ?_
      rw [ofDocument?, becomes]
    exact layers?_eq_some spelled found rfl
  obtain ⟨setting, combined, once⟩ := exists_combined?_of_mirrors unset literal distinct all
  refine load_eq_ok_iff.2 ⟨source, [], setting, layers, combined, ?_, ?_⟩
  · rw [once "engine" (by simp)]
    exact readEngine?_of_mirrors literal distinct all engine
  · rw [once "markets" (by simp)]
    exact readMarkets?_of_mirrors all markets

/-- A text with an engine, a market and a name that is none of the settings. -/
def deskToml : String := r#"version = 2

[engine]
spread_policy = "mark_to_terminal"

[[markets]]
symbol = "SOL"
market_index = 0
oracle_address = "J83w"
mint_address = "So11"
oracle_source = "pyth"
precision = 1000000
precision_exponent = 6
"#

/-- The document with that text. -/
def deskDocument : Toml.Table :=
  [("version", .integer (.ofInt 2)),
    ("engine", .table [("spread_policy", .string "mark_to_terminal")]),
    ("markets", .array [.table [("symbol", .string "SOL"), ("market_index", .integer (.ofInt 0)),
      ("oracle_address", .string "J83w"), ("mint_address", .string "So11"),
      ("oracle_source", .string "pyth"), ("precision", .integer (.ofInt 1000000)),
      ("precision_exponent", .integer (.ofInt 6))]])]

/-- The settings it describes. -/
def deskSettings : Settings where
  engine := { policy := .markToTerminal }
  markets := [{
    symbol := "SOL"
    index := .ofNat 0
    oracleAddress := "J83w"
    mintAddress := "So11"
    oracleSource := .pyth
    precision := .ofNat 1000000
    exponent := .ofNat 6
    venue := none }]

/-- A host with that text in the home directory, which a variable names. -/
def desk : Host where
  files := [(["home".toList, "desk".toList, "vamm.toml".toList], deskToml)]
  bindings := [("HOME", "/home/desk"), ("VAMM_ENV", "staging")]
  directory := ["srv".toList]

/-- The path to the text. -/
def deskPlace : Path where
  steps := ["home".toList, "desk".toList, "vamm.toml".toList]
  isAbsolute := true
  isDirectory := false

/-- The text in the home directory is loaded as it is read. -/
theorem desk_load_of_ofToml :
    Settings.ofToml deskToml = .ok deskSettings ∧
    Settings.load desk (some "~/vamm.toml") none = .ok deskSettings := by
  have reads : Toml.read? deskToml = some deskDocument := by cbv
  have parsed : Settings.ofToml deskToml = .ok deskSettings :=
    (ofToml_eq_ok_iff reads).2 (by decide +kernel)
  have expanded : desk.expand? "~/vamm.toml".toList = some "/home/desk/vamm.toml".toList := by
    decide +kernel
  have spelled : (desk.expand? ((some "~/vamm.toml").getD Settings.defaultPath).toList).bind
      Path.ofText? = some deskPlace := Option.bind_eq_some_iff.2 ⟨_, expanded, rfl⟩
  have stored : desk.read? deskPlace = some deskToml := by decide +kernel
  have unset : ∀ binding ∈ desk.bindings, ¬ isVariable binding.1 := by decide
  have undated (day : Toml.Datetime) : deskDocument.lookup "engine" ≠ some (.datetime day) := by
    rintro ⟨⟩
  have literal : Literal desk.room deskDocument :=
    literal_of_isPlain (by simp +decide [deskDocument]) undated
  exact ⟨parsed, load_of_ofToml parsed spelled stored (by decide) unset reads literal⟩

/-- A host with a single file in its working directory. -/
def ofFile (name toml : String) : Host where
  files := [([name.toList], toml)]
  bindings := []

/-- Settings with the policy that is not the fallback. -/
def markedSettings : Settings := { engine := { policy := .markToTerminal } }

/-- Whether a text describes settings that are not those loaded from a file with it. -/
def Diverges (name toml : String) : Prop :=
  ∃ settings, Settings.ofToml toml = .ok settings ∧
    Settings.load (ofFile name toml) (some name) none ≠ .ok settings

/-- Names in another case, a name that is a place, one for an item that no list has, a date for the
engine, a marked table and a file without an extension: each of them makes the two ways to settings
differ. -/
theorem paths_diverge :
    Diverges "vamm.toml" "[ENGINE]\nspread_policy = \"mark_to_terminal\"" ∧
    Diverges "vamm.toml" "[engine]\nSPREAD_POLICY = \"mark_to_terminal\"" ∧
    Diverges "vamm.toml" "\"engine.spread_policy\" = \"mark_to_terminal\"" ∧
    Diverges "vamm.toml" "\"x[-1]\" = 0" ∧
    Diverges "vamm.toml" "engine = 1979-05-27" ∧
    Diverges "vamm.toml" "\"$__toml_private_datetime\" = 0" ∧
    Diverges ".toml" "" := by
  have diverges {name toml : String} (parsed : Settings.ofToml toml = .ok {})
      (result : Except SettingsError Settings)
      (loaded : Settings.load (ofFile name toml) (some name) none = result)
      (differ : result ≠ .ok {}) : Diverges name toml :=
    ⟨{}, parsed, loaded ▸ differ⟩
  refine ⟨diverges ?_ (.ok markedSettings) ?_ nofun, diverges ?_ (.ok markedSettings) ?_ nofun,
    diverges ?_ (.ok markedSettings) ?_ nofun, diverges ?_ (.error .escapedPlace) ?_ nofun,
    diverges ?_ (.error .badSetting) ?_ nofun, diverges ?_ (.error .badSource) ?_ nofun,
    diverges ?_ (.error .badSource) ?_ nofun⟩
  all_goals cbv

end Host

end PerpetualCurve
