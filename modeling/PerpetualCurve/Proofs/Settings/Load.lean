import PerpetualCurve.Proofs.Outcome
import PerpetualCurve.Proofs.Settings.Source
import PerpetualCurve.Proofs.Settings.Stable
import PerpetualCurve.Settings.Load

/-!
# What loading settings comes to

Settings are loaded if the files of a host make up sources, if these can be merged, and if what they
come to at two names can be read. An engine is read from a table or from a list; it may lack its
policy.
-/

namespace PerpetualCurve

open Text

namespace Format

variable {V : Type} {format : Format V} {value : V} {members : List (String × V)} {items : List V}

/-- The settings of an engine, which need not be given. -/
def readEngine? (format : Format V) (engine : Option V) : Option EngineSettings :=
  engine.elim (some {}) (format.record (EngineSettings.fields format))

/-- Listings, of which none need be given. -/
def readMarkets? (format : Format V) (markets : Option V) : Option (List Listing) :=
  markets.elim (some []) (format.listOf (format.record (Listing.fields format)))

/-- A policy, which need not be given. -/
def readPolicy? (format : Format V) (policy : Option V) : Option SpreadPolicy :=
  policy.elim (some .costBasis) format.tag

theorem record_settings_eq_some_iff (inexact : format.exact = false)
    (named : format.parts value = some (.named members)) (nodup : (members.map Prod.fst).Nodup)
    {settings : Settings} :
    format.record (Settings.fields format) value = some settings ↔
      format.readEngine? (members.lookup "engine") = some settings.engine ∧
        format.readMarkets? (members.lookup "markets") = some settings.markets := by
  rw [record_of_inexact inexact, named, Option.bind_some, Settings.fields]
  simp only [Fields.run_withDefault_bind_of_nodup nodup, Option.map_bind]
  obtain ⟨engine, markets⟩ := settings
  show (format.readEngine? _).bind _ = _ ↔ _
  cases format.readEngine? (members.lookup "engine") with
  | none => simp
  | some given =>
    show ((format.readMarkets? _).bind _).map _ = _ ↔ _
    cases format.readMarkets? (members.lookup "markets") <;> simp

theorem record_engine_eq_some_iff (inexact : format.exact = false)
    (named : format.parts value = some (.named members)) (nodup : (members.map Prod.fst).Nodup)
    {settings : EngineSettings} :
    format.record (EngineSettings.fields format) value = some settings ↔
      format.readPolicy? (members.lookup "spread_policy") = some settings.policy := by
  rw [record_of_inexact inexact, named, Option.bind_some, EngineSettings.fields,
    Fields.run_withDefault_bind_of_nodup nodup]
  obtain ⟨policy⟩ := settings
  show ((format.readPolicy? _).bind _).map _ = _ ↔ _
  cases format.readPolicy? (members.lookup "spread_policy") <;> simp

theorem record_engine_eq_some_iff_of_positional (inexact : format.exact = false)
    (positional : format.parts value = some (.positional items)) {settings : EngineSettings} :
    format.record (EngineSettings.fields format) value = some settings ↔
      format.readPolicy? items.head? = some settings.policy := by
  rw [record_of_inexact inexact, positional, Option.bind_some, EngineSettings.fields,
    Fields.run_withDefault_bind_positional]
  obtain ⟨policy⟩ := settings
  show ((format.readPolicy? _).bind _).map _ = _ ↔ _
  cases format.readPolicy? items.head? <;> simp

end Format

namespace Setting

theorem IsTable.parts_eq {setting : Setting} (h : setting.IsTable) :
    format.parts setting = some (.named setting.entries) := by
  rw [h]
  rfl

/-- Whether a variable belongs to the settings. -/
def isVariable (name : String) : Bool := variableMark.isPrefixOf (lower name).toList

theorem ofVariables_filter (bindings : List (String × String)) :
    ofVariables (bindings.filter (isVariable ·.1)) = ofVariables bindings := by
  unfold ofVariables
  rw [List.filterMap_filter]
  refine List.filterMap_congr fun binding _ => ?_
  split
  case isTrue => rfl
  case isFalse foreign => exact (if_neg foreign).symm

theorem ofVariables_of_unset {bindings : List (String × String)}
    (unset : ∀ binding ∈ bindings, ¬ isVariable binding.1) : ofVariables bindings = [] := by
  rw [← ofVariables_filter, List.filter_eq_nil_iff.2 unset]
  rfl

end Setting

namespace Host

variable {host : Host} {path environment : Option String} {settings : Settings} {setting : Setting}
  {base overrides : List (String × Setting)}

/-- The sources in the files of a host: the base settings, and those of an environment. -/
def layers? (host : Host) (path environment : Option String) :
    Option (List (String × Setting) × List (String × Setting)) := do
  let place ← Path.ofText? (← host.expand? (path.getD Settings.defaultPath).toList)
  return (← host.source? place, ← host.environment? place environment)

/-- All sources merged. -/
def merged? (host : Host) (base overrides : List (String × Setting)) : Option Setting := do
  let setting ← (Setting.table []).override? host.room base
  let setting ← setting.override? host.room overrides
  setting.override? host.room (Setting.ofVariables host.bindings)

/-- All sources merged, and what they come to merged once more. -/
def combined? (host : Host) (base overrides : List (String × Setting)) : Option Setting := do
  let setting ← host.merged? base overrides
  (Setting.table []).override? host.room setting.entries

/-- No error is raised if each step succeeds. -/
theorem load_eq_ok_iff_record :
    Settings.load host path environment = .ok settings ↔
      ∃ base overrides setting, host.layers? path environment = some (base, overrides) ∧
        host.combined? base overrides = some setting ∧
        Setting.format.record (Settings.fields Setting.format) setting = some settings := by
  simp only [Settings.load, sources, override, layers?, combined?, merged?,
    Outcome.bind_eq_ok_iff, Outcome.getDM_eq_ok_iff, Option.bind_eq_bind, Option.pure_def,
    Option.bind_eq_some_iff, Option.some.injEq, Prod.mk.injEq]
  constructor
  · rintro ⟨text, htext, setting, ⟨place, hplace, base, hbase, first, hfirst, overrides, hoverrides,
      second, hsecond, third, hthird, again⟩, reads⟩
    exact ⟨base, overrides, setting, ⟨text, htext, place, hplace, base, hbase, overrides,
      hoverrides, rfl, rfl⟩, ⟨third, ⟨first, hfirst, second, hsecond, hthird⟩, again⟩, reads⟩
  · rintro ⟨_, _, setting, ⟨text, htext, place, hplace, base, hbase, overrides, hoverrides, rfl,
      rfl⟩, ⟨third, ⟨first, hfirst, second, hsecond, hthird⟩, again⟩, reads⟩
    exact ⟨text, htext, setting, ⟨place, hplace, base, hbase, first, hfirst, overrides, hoverrides,
      second, hsecond, third, hthird, again⟩, reads⟩

theorem isTable_of_combined? (combined : host.combined? base overrides = some setting) :
    setting.IsTable := by
  obtain ⟨_, -, again⟩ := Option.bind_eq_some_iff.1 combined
  exact Setting.isTable_empty.override? again

theorem tidy_of_combined? (combined : host.combined? base overrides = some setting) :
    setting.Tidy := by
  obtain ⟨_, -, again⟩ := Option.bind_eq_some_iff.1 combined
  exact Setting.tidy_empty.override? again

/-- Settings are loaded if the merged sources have an engine and markets that can be read. -/
theorem load_eq_ok_iff :
    Settings.load host path environment = .ok settings ↔
      ∃ base overrides setting, host.layers? path environment = some (base, overrides) ∧
        host.combined? base overrides = some setting ∧
        Setting.format.readEngine? (setting.get? "engine") = some settings.engine ∧
        Setting.format.readMarkets? (setting.get? "markets") = some settings.markets := by
  rw [load_eq_ok_iff_record]
  refine exists_congr fun base => exists_congr fun overrides => exists_congr fun setting =>
    and_congr_right fun _ => and_congr_right fun combined => ?_
  exact Format.record_settings_eq_some_iff rfl (isTable_of_combined? combined).parts_eq
    (tidy_of_combined? combined)

/-! ## All sources together -/

/-- Merging one source after the other is merging all of them as one. -/
theorem merged?_eq_override? : host.merged? base overrides =
    (Setting.table []).override? host.room
      (base ++ overrides ++ Setting.ofVariables host.bindings) := by
  unfold merged? Setting.override?
  rw [List.append_assoc, List.foldlM_append, bind_congr fun _ => List.foldlM_append]

theorem stable_of_merged? (merged : host.merged? base overrides = some setting) :
    setting.Stable := by
  rw [merged?_eq_override?] at merged
  exact Setting.Stable.override? (.of_entries_nil rfl) merged

/-- Each name of the merged sources is one that a name of a source leads to. -/
theorem exists_root_of_merged? (merged : host.merged? base overrides = some setting) :
    ∀ entry ∈ setting.entries, ∃ given ∈ base ++ overrides ++ Setting.ofVariables host.bindings,
      Setting.root given.1 = entry.1 := by
  rw [merged?_eq_override?] at merged
  intro entry listed
  rcases Setting.exists_root_of_override? merged _ (List.mem_map_of_mem listed) with none | leads
  · cases none
  · exact leads

/-- All sources merge, and once more, if no name leads to an item that a list cannot have. -/
theorem exists_merged? (inRoom : ∀ given ∈ base ++ overrides ++ Setting.ofVariables host.bindings,
      Setting.InRoom host.room given.1 ∧ Setting.InRoom host.room (Setting.root given.1)) :
    ∃ whole, host.merged? base overrides = some whole ∧
      ∃ setting, (Setting.table []).override? host.room whole.entries = some setting := by
  obtain ⟨whole, merges⟩ :=
    Setting.exists_override? (fun given listed => (inRoom given listed).1) (.table [])
  rw [← merged?_eq_override?] at merges
  refine ⟨whole, merges, Setting.exists_override? ?_ _⟩
  intro entry listed
  obtain ⟨given, within, leads⟩ := exists_root_of_merged? merges entry listed
  rw [← leads]
  exact (inRoom given within).2

/-- Merging once more changes nothing at a plain name, if no other name that the first time left
behind leads there. -/
theorem get?_again {whole : Setting} (merges : host.merged? base overrides = some whole)
    (again : (Setting.table []).override? host.room whole.entries = some setting) {name : String}
    (plain : Setting.IsPlain name)
    (literal : ∀ given ∈ base ++ overrides ++ Setting.ofVariables host.bindings,
      Setting.root (Setting.root given.1) = name → Setting.root given.1 = name) :
    setting.get? name = whole.get? name := by
  refine (stable_of_merged? merges).get?_again again plain.pathOf_eq plain.lower_eq ?_
  intro entry listed
  obtain ⟨given, within, leads⟩ := exists_root_of_merged? merges entry listed
  rw [← leads]
  exact literal given within

/-! ## The sources in files -/

theorem read?_fromRoot (place : Path) : host.read? (host.fromRoot place) = host.read? place := by
  unfold read? placeOf? fromRoot
  split <;> rfl

theorem hasExtension_fromRoot {place : Path} {extension : List Char}
    (h : place.hasExtension extension) : (host.fromRoot place).hasExtension extension := by
  unfold fromRoot
  split
  · exact h
  · unfold Path.hasExtension at h ⊢
    cases last : place.steps.getLast? with
    | none =>
      rw [last] at h
      cases h
    | some name =>
      rw [last] at h
      rwa [List.getLast?_append, last]

theorem source?_eq_some {place : Path} {toml : String} {document : Toml.Table}
    (text : host.textAt? (host.fromRoot place) = some toml)
    (reads : Toml.read? toml = some document)
    (becomes : Setting.ofDocument? document = some base) : host.source? place = some base := by
  simp [source?, text, reads, becomes]

theorem layers?_eq_some {place : Path}
    (spelled :
      (host.expand? (path.getD Settings.defaultPath).toList).bind Path.ofText? = some place)
    (first : host.source? place = some base)
    (second : host.environment? place environment = some overrides) :
    host.layers? path environment = some (base, overrides) := by
  obtain ⟨text, expanded, spelled⟩ := Option.bind_eq_some_iff.1 spelled
  simp [layers?, expanded, spelled, first, second]

/-- The names of each table of a source differ from each other. -/
theorem everyTable_nodup_of_source? {place : Path} (h : host.source? place = some base) :
    (Setting.table base).EveryTable List.Nodup := by
  obtain ⟨toml, -, h⟩ := Option.bind_eq_some_iff.1 h
  obtain ⟨document, reads, becomes⟩ := Option.bind_eq_some_iff.1 h
  exact Setting.everyTable_nodup_of_read reads becomes

theorem everyTable_nodup_of_layers? (h : host.layers? path environment = some (base, overrides)) :
    (Setting.table base).EveryTable List.Nodup ∧
      (Setting.table overrides).EveryTable List.Nodup := by
  simp only [layers?, bind, Option.bind_eq_some_iff, pure, Option.some.injEq, Prod.mk.injEq] at h
  obtain ⟨text, -, place, -, _, first, _, second, rfl, rfl⟩ := h
  refine ⟨everyTable_nodup_of_source? first, ?_⟩
  unfold environment? at second
  split at second
  · split at second
    · exact everyTable_nodup_of_source? second
    · cases second
      exact .table List.nodup_nil nofun
  · cases second
    exact .table List.nodup_nil nofun

end Host

end PerpetualCurve
