import PerpetualCurve.Proofs.Settings.Load

/-!
# Which source decides

Where sources have plain names only, each of the two settings is decided by one source: by a
variable, else by the source of the environment, else by the base source, else by the fallback. An
empty table decides nothing. An engine that is no table takes the place of one that is, with all
that is in it; so does a table with entries where the base source has no table.
-/

namespace PerpetualCurve

open Text

namespace Setting

/-! ## Tame tables -/

/-- Whether all names in a source are plain. -/
def PlainSource (source : List (String × Setting)) : Prop :=
  (table source).EveryTable fun names => ∀ name ∈ names, IsPlain name

/-- Whether the names of a table are plain and differ from each other. -/
structure Tame (names : List String) : Prop where
  nodup : names.Nodup
  isPlain : ∀ name ∈ names, IsPlain name

variable {α : Type} {source es : List (String × Setting)} {target value result : Setting}
  {old engine base : Option Setting} {room : Nat}

theorem get?_putAll_of_tame (tame : Tame (source.map Prod.fst)) {name : String}
    (plain : IsPlain name) : (putAll source target).get? name =
      merged (source.lookup name) (target.get? name) := by
  refine get?_putAll_of_nodup tame.nodup plain.lower_eq (fun entry listed same => ?_) target
  rwa [(tame.isPlain _ (List.mem_map_of_mem listed)).lower_eq] at same

theorem get?_of_override?_of_tame (overridden : override? room target source = some result)
    (tame : Tame (source.map Prod.fst)) {name : String} (plain : IsPlain name) :
    result.get? name = merged (source.lookup name) (target.get? name) := by
  refine get?_of_override?_of_nodup overridden tame.nodup plain.pathOf_eq plain.lower_eq ?_
  intro entry listed leads
  rwa [(tame.isPlain _ (List.mem_map_of_mem listed)).root_eq] at leads

/-! ## Reading through layers -/

/-- What is given, where an empty table gives nothing. -/
def given? : Option Setting → Option Setting
  | some (table []) => none
  | value => value

theorem given?_of_ne (h : value ≠ table []) : given? (some value) = some value := by
  unfold given?
  split
  case h_1 same => exact absurd (Option.some.inj same) h
  case h_2 => rfl

/-- Whether a reader that accepts what is left of a value accepts the value itself, and no empty
table. -/
structure ReadsThrough (read : Setting → Option α) (value : Setting) : Prop where
  empty : read (table []) = none
  overlay : ∀ old a, value ≠ table [] → read (overlay value old) = some a → read value = some a

theorem read_merged {read : Setting → Option α} {fallback : Option α} {value : Option Setting}
    {a : α} (through : ∀ v ∈ value, ReadsThrough read v)
    (reads : (merged value old).elim fallback read = some a) :
    ((given? value).or old).elim fallback read = some a := by
  cases value with
  | none => exact reads
  | some v =>
    by_cases nonempty : v = table []
    · subst nonempty
      cases old with
      | none => cases (through _ rfl).empty.symm.trans reads
      | some s => exact reads
    · rw [given?_of_ne nonempty]
      exact (through v rfl).overlay old a nonempty reads

/-- What is read from two layers is read from one of them. -/
theorem read_layers {read : Setting → Option α} {fallback : Option α}
    {value below : Option Setting} {a : α} (through : ∀ v ∈ value, ReadsThrough read v)
    (throughBelow : ∀ v ∈ below, ReadsThrough read v)
    (reads : (merged value (merged below none)).elim fallback read = some a) :
    ((given? value).or (given? below)).elim fallback read = some a := by
  have upper := read_merged through reads
  cases h : given? value with
  | some v =>
    rw [h] at upper
    exact upper
  | none =>
    rw [h] at upper
    simpa using read_merged throughBelow upper

theorem isTable_overlay_of_ne (nonempty : table es ≠ table []) (old : Option Setting) :
    IsTable (overlay (table es) old) :=
  isTable_putAll_of_ne_nil fun none => nonempty (none ▸ rfl)

theorem readsThrough_listOf (read : Setting → Option α) (v : Setting) :
    ReadsThrough (format.listOf read) v where
  empty := rfl
  overlay old a nonempty reads := by
    cases v
    case table es =>
      -- a table stays a table, which no list is read from
      rw [isTable_overlay_of_ne nonempty old] at reads
      cases reads
    all_goals exact reads

theorem word_table_eq_some_iff {word : String} :
    format.word (table es) = some word ↔
      ∃ name value, es = [(name, value)] ∧ lower name = word := by
  rcases es with _ | ⟨⟨name, value⟩, _ | ⟨_, _⟩⟩ <;> simp [format]

/-- Every name of a table is a name of what is left of it. -/
theorem exists_get?_overlay (tame : Tame (es.map Prod.fst)) {entry : String × Setting}
    (listed : entry ∈ es) (old : Option Setting) :
    ∃ left, (overlay (table es) old).get? entry.1 = some left := by
  obtain ⟨given, found⟩ := Option.isSome_iff_exists.1
    (List.lookup_isSome_iff.2 ⟨entry, listed, beq_self_eq_true entry.1⟩)
  rw [overlay, get?_putAll_of_tame tame (tame.isPlain _ (List.mem_map_of_mem listed)), found]
  exact ⟨_, rfl⟩

theorem exists_eq_singleton {name : String} (nonempty : es ≠ [])
    (nodup : (es.map Prod.fst).Nodup) (only : ∀ entry ∈ es, entry.1 = name) :
    ∃ value, es = [(name, value)] := by
  rcases es with _ | ⟨⟨first, value⟩, _ | ⟨second, es⟩⟩
  · exact absurd rfl nonempty
  · obtain rfl : first = name := only _ List.mem_cons_self
    exact ⟨value, rfl⟩
  · have same : first = second.1 := by
      rw [only second (by simp), ← only (first, value) (by simp)]
    exact absurd nodup (by simp [same])

/-- A tag that is read from a table is the only name in it, so it is the only one in each table that
was put there. -/
theorem readsThrough_tag [Tagged α] {v : Setting} (tame : v.EveryTable Tame) :
    ReadsThrough (format.tag (α := α)) v where
  empty := rfl
  overlay old a nonempty reads := by
    cases v
    case table es =>
      obtain ⟨word, spelled, tagged⟩ := Option.bind_eq_some_iff.1 reads
      rw [isTable_overlay_of_ne nonempty old, word_table_eq_some_iff] at spelled
      obtain ⟨name, rest, single, rfl⟩ := spelled
      -- names that are put somewhere stay, so all of them are that single name
      have only : ∀ entry ∈ es, entry.1 = name := by
        intro entry listed
        obtain ⟨s, found⟩ := exists_get?_overlay tame.names listed old
        by_contra other
        rw [get?, single, List.lookup_cons, beq_eq_false_iff_ne.2 other] at found
        cases found
      obtain ⟨value, rfl⟩ :=
        exists_eq_singleton (fun none => nonempty (none ▸ rfl)) tame.names.nodup only
      exact tagged
    all_goals exact reads

/-! ## The policy and the markets -/

/-- The policy that an engine gives, by its name in a table or by its place in a list. -/
def policy? : Option Setting → Option Setting
  | some (table entries) => given? (entries.lookup "spread_policy")
  | some (list items) => items.head?
  | _ => none

/-- What an engine leaves of the one below it. No engine, or an empty table, leaves all of it; any
other table leaves a table; all else leaves nothing. -/
def kept? : (engine below : Option Setting) → Option Setting
  | none, below => below
  | some (table []), below => below
  | some (table (_ :: _)), some (table entries) => some (table entries)
  | _, _ => none

variable {settings : EngineSettings}

theorem policy_of_record (named : target.IsTable) (tidy : target.Tidy)
    (reads : format.record (EngineSettings.fields format) target = some settings) :
    format.readPolicy? (target.get? "spread_policy") = some settings.policy :=
  (Format.record_engine_eq_some_iff rfl named.parts_eq tidy).1 reads

theorem policy_of_list {items : List Setting}
    (reads : format.record (EngineSettings.fields format) (list items) = some settings) :
    format.readPolicy? items.head? = some settings.policy :=
  (Format.record_engine_eq_some_iff_of_positional rfl rfl).1 reads

/-- The policy of a table, read through the layer above it. -/
theorem readsThrough_policy (tame : ∀ v ∈ engine, v.EveryTable Tame) :
    ∀ v ∈ engine.bind (·.get? "spread_policy"),
      ReadsThrough (format.tag (α := SpreadPolicy)) v := by
  intro v found
  obtain ⟨w, rfl, found⟩ := Option.bind_eq_some_iff.1 found
  cases w
  case table es => exact readsThrough_tag ((tame _ rfl).of_lookup found)
  all_goals cases found

theorem policy_of_base (tame : ∀ v ∈ base, v.EveryTable Tame)
    (reads : format.readEngine? (merged base none) = some settings) :
    format.readPolicy? (policy? base) = some settings.policy := by
  cases base with
  | none => cases reads; rfl
  | some v =>
    cases v
    case table es =>
      have policy := policy_of_record (isTable_putAll isTable_empty) tidy_empty.putAll reads
      rw [get?_putAll_of_tame (tame _ rfl).names (by decide)] at policy
      have given := read_merged (readsThrough_policy tame) policy
      exact (congrArg format.readPolicy? Option.or_none).symm.trans given
    case list items => exact policy_of_list reads
    all_goals cases reads

/-- Below a table with entries, only a table counts. -/
theorem policy_of_table {entry : String × Setting}
    (tame : ∀ v ∈ some (table (entry :: es)), v.EveryTable Tame)
    (tameBase : ∀ v ∈ base, v.EveryTable Tame)
    (reads : format.readEngine? (merged (some (table (entry :: es))) (merged base none)) =
      some settings) :
    format.readPolicy? ((policy? (some (table (entry :: es)))).or
      (policy? (kept? (some (table (entry :: es))) base))) = some settings.policy := by
  -- an engine below that is no table is neither kept nor looked into
  have below : policy? (kept? (some (table (entry :: es))) base) =
      given? (base.bind (·.get? "spread_policy")) := by
    cases base with
    | none => rfl
    | some v => cases v <;> rfl
  have layered : ((merged base none).getD (table [])).get? "spread_policy" =
      merged (base.bind (·.get? "spread_policy")) none := by
    cases base with
    | none => rfl
    | some v =>
      cases v
      case table bs => exact get?_putAll_of_tame (tameBase _ rfl).names (by decide)
      all_goals rfl
  have tidy : ((merged base none).getD (table [])).Tidy := tidy_getD tidy_merged_none tidy_empty
  have policy :=
    policy_of_record (isTable_putAll_of_ne_nil (List.cons_ne_nil _ _)) tidy.putAll reads
  rw [get?_putAll_of_tame (tame _ rfl).names (by decide), layered] at policy
  rw [below]
  exact read_layers (readsThrough_policy tame) (readsThrough_policy tameBase) policy

theorem policy_of_engine (tame : ∀ v ∈ engine, v.EveryTable Tame)
    (tameBase : ∀ v ∈ base, v.EveryTable Tame)
    (reads : format.readEngine? (merged engine (merged base none)) = some settings) :
    format.readPolicy? ((policy? engine).or (policy? (kept? engine base))) =
      some settings.policy := by
  cases engine with
  | none => exact policy_of_base tameBase reads
  | some v =>
    cases v
    case table es =>
      cases es with
      | nil =>
        cases base with
        | none => exact policy_of_record isTable_empty tidy_empty reads
        | some v => exact policy_of_base tameBase reads
      | cons entry es => exact policy_of_table tame tameBase reads
    case list items =>
      have policy := policy_of_list reads
      exact (congrArg format.readPolicy? Option.or_none).trans policy
    all_goals cases reads

/-! ## Variables -/

/-- The variable that sets the policy. -/
def policyVariable : String := "VAMM__ENGINE__SPREAD_POLICY"

/-- The source of the variables where there is none but that of the policy. -/
theorem ofVariables_of_only {bindings : List (String × String)} {written : Option String}
    (only : bindings.filter (isVariable ·.1) = (written.map (policyVariable, ·)).toList) :
    ofVariables bindings =
      (written.map fun text => ("engine.spread_policy", ofText text)).toList := by
  rw [← ofVariables_filter, only]
  cases written with
  | none => rfl
  | some text => rfl

theorem pathOf_policy :
    pathOf "engine.spread_policy" = [.name "engine", .name "spread_policy"] := by cbv

/-- The text of a variable never stands for a table. -/
theorem overlay_ofText (text : String) : overlay (ofText text) old = ofText text := by
  unfold ofText
  split
  · rfl
  · rfl
  · split <;> rfl

end Setting

namespace Host

open Setting

variable {host : Host} {path environment written : Option String} {settings : Settings}
  {base overrides : List (String × Setting)} {first second whole setting : Setting}

theorem get?_layers (based : (table []).override? host.room base = some first)
    (overridden : first.override? host.room overrides = some second)
    (tame : (table base).EveryTable Tame) (tameOverrides : (table overrides).EveryTable Tame)
    {name : String} (plain : IsPlain name) :
    second.get? name = merged (overrides.lookup name) (merged (base.lookup name) none) := by
  rw [get?_of_override?_of_tame overridden tameOverrides.names plain,
    get?_of_override?_of_tame based tame.names plain]
  rfl

/-- The variable of the policy puts its text in the place of the policy. -/
theorem assign?_policy {room : Nat} {text : String}
    (overridden : second.override? room [("engine.spread_policy", ofText text)] = some whole) :
    whole = table (alter "engine" (fun _ => put "spread_policy" (ofText text)
      ((second.get? "engine").getD .nothing)) second.entries) := by
  obtain ⟨_, assigned, same⟩ := override?_cons_eq_some_iff.1 overridden
  rw [pathOf_policy] at assigned
  cases assigned
  cases same
  have lowered : lower "engine" = "engine" := by decide
  rw [lowered]
  rfl

/-- At a plain name the sources merge layer by layer. The variable changes the engine only. -/
theorem get?_merged (merges : host.merged? base overrides = some whole)
    (tame : (table base).EveryTable Tame) (tameOverrides : (table overrides).EveryTable Tame)
    (only : host.bindings.filter (isVariable ·.1) = (written.map (policyVariable, ·)).toList)
    {name : String} (plain : IsPlain name) :
    whole.get? name =
      let below := merged (overrides.lookup name) (merged (base.lookup name) none)
      if name = "engine" then
        written.elim below fun text =>
          some (put "spread_policy" (ofText text) (below.getD .nothing))
      else below := by
  obtain ⟨first, based, merges⟩ := Option.bind_eq_some_iff.1 merges
  obtain ⟨second, overridden, merges⟩ := Option.bind_eq_some_iff.1 merges
  rw [← get?_layers based overridden tame tameOverrides plain]
  rw [ofVariables_of_only only] at merges
  cases written with
  | none =>
    cases merges
    exact (ite_self _).symm
  | some text =>
    rw [assign?_policy merges]
    show (alter _ _ _).lookup _ = _
    rw [lookup_alter]
    by_cases engine : name = "engine"
    · subst engine
      rfl
    · rw [if_neg engine, if_neg engine]
      rfl

/-- A name that a plain one or the variable of the policy leads to leads to itself. -/
theorem root_root_of_tame (tame : (table base).EveryTable Tame)
    (tameOverrides : (table overrides).EveryTable Tame)
    (only : host.bindings.filter (isVariable ·.1) = (written.map (policyVariable, ·)).toList) :
    ∀ given ∈ base ++ overrides ++ ofVariables host.bindings,
      root (root given.1) = root given.1 := by
  have plain {source : List (String × Setting)} (tame : (table source).EveryTable Tame)
      (given : String × Setting) (listed : given ∈ source) :
      root (root given.1) = root given.1 := by
    have itself := (tame.names.isPlain _ (List.mem_map_of_mem listed)).root_eq
    rw [itself, itself]
  intro given listed
  rw [List.mem_append, List.mem_append] at listed
  rcases listed with (listed | listed) | listed
  · exact plain tame given listed
  · exact plain tameOverrides given listed
  · rw [ofVariables_of_only only] at listed
    cases written with
    | none => cases listed
    | some text =>
      obtain rfl := List.mem_singleton.1 listed
      have leads : root "engine.spread_policy" = "engine" := by
        rw [root, pathOf_policy]
        decide
      have itself : IsPlain "engine" := by decide
      rw [leads, itself.root_eq]

/-- The spread policy is decided by the variable, else by the engine of the environment, else by
what that leaves of the engine of the base source; the markets are those of one source as a
whole. -/
theorem load_precedence (loaded : Settings.load host path environment = .ok settings)
    (layers : host.layers? path environment = some (base, overrides))
    (plain : PlainSource base) (plainOverrides : PlainSource overrides)
    (only : host.bindings.filter (isVariable ·.1) = (written.map (policyVariable, ·)).toList) :
    format.readPolicy? ((written.map ofText).or ((policy? (overrides.lookup "engine")).or
        (policy? (kept? (overrides.lookup "engine") (base.lookup "engine"))))) =
      some settings.engine.policy ∧
    format.readMarkets?
        ((given? (overrides.lookup "markets")).or (given? (base.lookup "markets"))) =
      some settings.markets := by
  obtain ⟨_, _, setting, layers', combined, engine, markets⟩ := load_eq_ok_iff.1 loaded
  cases layers.symm.trans layers'
  obtain ⟨nodup, nodupOverrides⟩ := everyTable_nodup_of_layers? layers
  have tame := nodup.combine plain fun _ => Tame.mk
  have tameOverrides := nodupOverrides.combine plainOverrides fun _ => Tame.mk
  obtain ⟨whole, merges, again⟩ := Option.bind_eq_some_iff.1 combined
  have once {name : String} (plain : IsPlain name) : setting.get? name = whole.get? name :=
    get?_again merges again plain fun given listed leads =>
      (root_root_of_tame tame tameOverrides only given listed).symm.trans leads
  rw [once (by decide), get?_merged merges tame tameOverrides only (by decide),
    if_neg (by decide)] at markets
  rw [once (by decide), get?_merged merges tame tameOverrides only (by decide),
    if_pos rfl] at engine
  refine ⟨?_, read_layers (fun v _ => readsThrough_listOf _ v) (fun v _ => readsThrough_listOf _ v)
    markets⟩
  cases written with
  | none =>
    exact policy_of_engine (fun _ found => tameOverrides.of_lookup found)
      (fun _ found => tame.of_lookup found) engine
  | some spelled =>
    -- the variable comes last and turns whatever engine there is into a table
    have tidy : ((merged (overrides.lookup "engine")
        (merged (base.lookup "engine") none)).getD .nothing).Tidy :=
      tidy_getD (tidy_merged tidy_merged_none) List.nodup_nil
    have policy := policy_of_record isTable_put tidy.put engine
    rw [get?_put, overlay_ofText] at policy
    exact policy

/-- A host whose base settings and those for `staging` list a market each and name the same policy,
where the variable names another one. -/
def deployed : Host where
  files := [
    (["etc".toList, "vamm.toml".toList], r#"[engine]
spread_policy = "cost_basis"

[[markets]]
symbol = "SOL"
market_index = 0
oracle_address = "J83w"
mint_address = "So11"
oracle_source = "pyth"
precision = 1000000
precision_exponent = 6
"#),
    (["etc".toList, "environments".toList, "staging.toml".toList],
      r#"markets = [["ETH", 1, "JBu1", "7vfC", "pyth", 1000, 3]]
[engine]
spread_policy = "cost_basis"
"#)]
  bindings := [("HOME", "/root"), (policyVariable, "mark_to_terminal")]
  directory := ["srv".toList]

/-- The source of its base settings. -/
def deployedBase : List (String × Setting) :=
  [("engine", .table [("spread_policy", .text "cost_basis")]),
    ("markets", .list [.table [("symbol", .text "SOL"), ("market_index", .integer (.ofInt 0)),
      ("oracle_address", .text "J83w"), ("mint_address", .text "So11"),
      ("oracle_source", .text "pyth"), ("precision", .integer (.ofInt 1000000)),
      ("precision_exponent", .integer (.ofInt 6))]])]

/-- The source of its settings for `staging`. -/
def deployedOverrides : List (String × Setting) :=
  [("markets", .list [.list [.text "ETH", .integer (.ofInt 1), .text "JBu1", .text "7vfC",
      .text "pyth", .integer (.ofInt 1000), .integer (.ofInt 3)]]),
    ("engine", .table [("spread_policy", .text "cost_basis")])]

/-- The policy of the variable, and the market of the settings for `staging`. -/
def deployedSettings : Settings where
  engine := { policy := .markToTerminal }
  markets := [{
    symbol := "ETH"
    index := .ofNat 1
    oracleAddress := "JBu1"
    mintAddress := "7vfC"
    oracleSource := .pyth
    precision := .ofNat 1000
    exponent := .ofNat 3
    venue := none }]

theorem layers?_deployed : deployed.layers? (some "/etc/vamm.toml") (some "staging") =
    some (deployedBase, deployedOverrides) := by cbv

theorem load_deployed : Settings.load deployed (some "/etc/vamm.toml") (some "staging") =
    .ok deployedSettings := by
  have read : (deployed.combined? deployedBase deployedOverrides).bind
      (format.record (Settings.fields format)) = some deployedSettings := by decide +kernel
  obtain ⟨setting, combined, reads⟩ := Option.bind_eq_some_iff.1 read
  exact load_eq_ok_iff_record.2 ⟨_, _, setting, layers?_deployed, combined, reads⟩

/-- Both documents name a policy and list a market: the variable decides the policy, and the market
of the base settings is gone. -/
theorem deployed_load_precedence :
    Settings.load deployed (some "/etc/vamm.toml") (some "staging") = .ok deployedSettings ∧
    deployed.layers? (some "/etc/vamm.toml") (some "staging") =
      some (deployedBase, deployedOverrides) ∧
    format.readPolicy? ((some (ofText "mark_to_terminal")).or
        ((policy? (deployedOverrides.lookup "engine")).or
          (policy? (kept? (deployedOverrides.lookup "engine") (deployedBase.lookup "engine"))))) =
      some .markToTerminal ∧
    format.readMarkets? ((given? (deployedOverrides.lookup "markets")).or
        (given? (deployedBase.lookup "markets"))) = some deployedSettings.markets := by
  have plain : PlainSource deployedBase := by simp +decide [PlainSource, deployedBase]
  have plainOverrides : PlainSource deployedOverrides := by
    simp +decide [PlainSource, deployedOverrides]
  have only : deployed.bindings.filter (isVariable ·.1) =
      ((some "mark_to_terminal").map (policyVariable, ·)).toList := by decide
  exact ⟨load_deployed, layers?_deployed,
    load_precedence load_deployed layers?_deployed plain plainOverrides only⟩

/-- A host with base settings that name a policy and with settings for the environment `staging`. -/
def staged (overrides : String) : Host where
  files := [
    (["config".toList, "vamm.toml".toList], "[engine]\nspread_policy = \"mark_to_terminal\""),
    (["config".toList, "environments".toList, "staging.toml".toList], overrides)]
  bindings := []

/-- The source of those base settings. -/
def stagedBase : List (String × Setting) :=
  [("engine", .table [("spread_policy", .text "mark_to_terminal")])]

/-- An empty list for an engine takes the policy away, although it names none. -/
theorem not_load_falls_back_to_base :
    ¬ ∀ (host : Host) (path environment written : Option String) (settings : Settings)
        (base overrides : List (String × Setting)),
      Settings.load host path environment = .ok settings →
      host.layers? path environment = some (base, overrides) →
      PlainSource base → PlainSource overrides →
      host.bindings.filter (isVariable ·.1) = (written.map (policyVariable, ·)).toList →
      format.readPolicy? ((written.map ofText).or ((policy? (overrides.lookup "engine")).or
          (policy? (base.lookup "engine")))) = some settings.engine.policy ∧
      format.readMarkets?
          ((given? (overrides.lookup "markets")).or (given? (base.lookup "markets"))) =
        some settings.markets := by
  intro claimed
  have loaded : Settings.load (staged "engine = []") none (some "staging") = .ok {} := by cbv
  have layers : (staged "engine = []").layers? none (some "staging") =
      some (stagedBase, [("engine", .list [])]) := by cbv
  have plain : PlainSource stagedBase := by simp +decide [PlainSource, stagedBase]
  have plainOverrides : PlainSource [("engine", .list [])] := by simp +decide [PlainSource]
  have policy := (claimed _ _ _ none _ _ _ loaded layers plain plainOverrides rfl).1
  exact absurd policy (by decide)

end Host

end PerpetualCurve
