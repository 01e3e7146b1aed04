import Mathlib.Data.List.DropRight
import Mathlib.Data.List.Nodup
import PerpetualCurve.Market.Registry

/-!
# What a registry accepts

A list of listings is consistent if each of them has an oracle and the precision its exponent says,
and no two share an index or a symbol. A registry is made of every consistent list and of no other.

The listings are checked one by one against those before them. The first one that breaks the
consistency of the list up to it is reported, with the first rule it breaks there: one listing may
break several rules, and later ones may break more.
-/

namespace PerpetualCurve

namespace Text

/-- The characters of a text without the white space at either end. -/
def trim (text : String) : List Char := (text.toList.dropWhile isSpace).rdropWhile isSpace

theorem isBlank_iff_trim_eq_nil {text : String} : isBlank text = true ↔ trim text = [] := by
  rw [isBlank, trim, List.rdropWhile_eq_nil_iff, List.all_eq_true]
  constructor
  · intro blank c hc
    exact blank c ((List.dropWhile_sublist _).mem hc)
  · intro blank
    rw [← List.dropWhile_eq_nil_iff]
    -- what is left would start with a character that is not white space
    by_contra left
    have space := blank _ (List.head_mem left)
    rw [List.head_dropWhile_not isSpace left] at space
    cases space

end Text

/-- From `10 ^ 20` on a power of ten does not fit. -/
theorem pow_lt_iff_of_ten {exponent : Nat} : 10 ^ exponent < 2 ^ 64 ↔ exponent < 20 := by
  constructor
  · intro fits
    by_contra large
    have := Nat.pow_le_pow_right (n := 10) (by decide) (Nat.le_of_not_lt large)
    omega
  · intro small
    have := Nat.pow_le_pow_right (n := 10) (by decide) (Nat.le_of_lt_succ small)
    omega

namespace Listing

/-- Whether an oracle address is more than white space. -/
def HasOracle (listing : Listing) : Prop := Text.trim listing.oracleAddress ≠ []

def ExponentFits (listing : Listing) : Prop := 10 ^ listing.exponent.toNat < 2 ^ 64

def PrecisionAgrees (listing : Listing) : Prop :=
  listing.precision.toNat = 10 ^ listing.exponent.toNat

instance (listing : Listing) : Decidable listing.HasOracle :=
  inferInstanceAs (Decidable (_ ≠ _))

instance (listing : Listing) : Decidable listing.ExponentFits :=
  inferInstanceAs (Decidable (_ < _))

instance (listing : Listing) : Decidable listing.PrecisionAgrees :=
  inferInstanceAs (Decidable (_ = _))

/-- Listings that agree with each other. -/
structure Consistent (markets : List Listing) : Prop where
  oracle : ∀ listing ∈ markets, listing.HasOracle
  precision : ∀ listing ∈ markets, listing.ExponentFits ∧ listing.PrecisionAgrees
  index : (markets.map (·.index)).Nodup
  symbol : (markets.map (·.symbol)).Nodup

/-- The first rule that a listing breaks behind the listings `earlier`. -/
inductive Breaks (earlier : List Listing) (listing : Listing) : RegistryError → Prop
  | missingOracle : ¬ listing.HasOracle →
      Breaks earlier listing (.missingOracle listing.symbol)
  | exponentTooLarge : listing.HasOracle → ¬ listing.ExponentFits →
      Breaks earlier listing (.exponentTooLarge listing.symbol listing.exponent)
  | precisionMismatch : listing.HasOracle → listing.ExponentFits → ¬ listing.PrecisionAgrees →
      Breaks earlier listing
        (.precisionMismatch listing.symbol listing.precision listing.exponent)
  | duplicateIndex : listing.HasOracle → listing.ExponentFits → listing.PrecisionAgrees →
      listing.index ∈ earlier.map (·.index) →
      Breaks earlier listing (.duplicateIndex listing.index)
  | duplicateSymbol : listing.HasOracle → listing.ExponentFits → listing.PrecisionAgrees →
      listing.index ∉ earlier.map (·.index) → listing.symbol ∈ earlier.map (·.symbol) →
      Breaks earlier listing (.duplicateSymbol listing.symbol)

variable {earlier markets rest : List Listing} {listing : Listing} {e : RegistryError}

theorem isBlank_iff : Text.isBlank listing.oracleAddress = true ↔ ¬ listing.HasOracle := by
  rw [Text.isBlank_iff_trim_eq_nil, HasOracle, ne_eq, Decidable.not_not]

theorem powerOfTen?_of_fits (h : listing.ExponentFits) :
    powerOfTen? listing.exponent = some (10 ^ listing.exponent.toNat) :=
  if_pos (pow_lt_iff_of_ten.1 h)

theorem powerOfTen?_of_not_fits (h : ¬ listing.ExponentFits) :
    powerOfTen? listing.exponent = none :=
  if_neg fun small => h (pow_lt_iff_of_ten.2 small)

theorem any_index_iff :
    earlier.any (·.index = listing.index) = true ↔ listing.index ∈ earlier.map (·.index) := by
  simp only [List.any_eq_true, decide_eq_true_eq, List.mem_map]

theorem any_symbol_iff :
    earlier.any (·.symbol = listing.symbol) = true ↔ listing.symbol ∈ earlier.map (·.symbol) := by
  simp only [List.any_eq_true, decide_eq_true_eq, List.mem_map]

/-- The checks, in their order. -/
theorem fault?_eq :
    listing.fault? earlier =
      if ¬ listing.HasOracle then some (.missingOracle listing.symbol)
      else if ¬ listing.ExponentFits then
        some (.exponentTooLarge listing.symbol listing.exponent)
      else if ¬ listing.PrecisionAgrees then
        some (.precisionMismatch listing.symbol listing.precision listing.exponent)
      else if listing.index ∈ earlier.map (·.index) then some (.duplicateIndex listing.index)
      else if listing.symbol ∈ earlier.map (·.symbol) then some (.duplicateSymbol listing.symbol)
      else none := by
  simp only [fault?, isBlank_iff, any_index_iff, any_symbol_iff]
  by_cases fits : listing.ExponentFits
  · have agrees_iff : listing.precision.toNat = 10 ^ listing.exponent.toNat ↔
        listing.PrecisionAgrees := Iff.rfl
    simp only [powerOfTen?_of_fits fits, fits, not_true_eq_false, if_false, ne_eq, agrees_iff]
  · simp only [powerOfTen?_of_not_fits fits, fits, not_false_eq_true, if_true]

theorem fault?_eq_some_iff : listing.fault? earlier = some e ↔ Breaks earlier listing e := by
  rw [fault?_eq]
  constructor
  · intro h
    split_ifs at h with oracle fits agrees index symbol <;> cases h
    · exact .duplicateIndex oracle fits agrees index
    · exact .duplicateSymbol oracle fits agrees index symbol
    · exact .precisionMismatch oracle fits agrees
    · exact .exponentTooLarge oracle fits
    · exact .missingOracle oracle
  · intro h
    cases h <;> simp_all only [not_true_eq_false, not_false_eq_true, if_true, if_false]

theorem fault?_eq_none_iff :
    listing.fault? earlier = none ↔
      listing.HasOracle ∧ listing.ExponentFits ∧ listing.PrecisionAgrees ∧
        listing.index ∉ earlier.map (·.index) ∧ listing.symbol ∉ earlier.map (·.symbol) := by
  rw [fault?_eq]
  split_ifs with oracle fits agrees index symbol <;> simp [*]

theorem nodup_map_append_singleton {α β : Type} {f : α → β} {l : List α} {a : α} :
    ((l ++ [a]).map f).Nodup ↔ (l.map f).Nodup ∧ f a ∉ l.map f := by
  rw [List.map_append, List.map_singleton, ← List.concat_eq_append, List.nodup_concat, and_comm]

/-- Behind a consistent list, a listing has no fault exactly if it makes the list longer. -/
theorem consistent_append_singleton_iff :
    Consistent (earlier ++ [listing]) ↔ Consistent earlier ∧ listing.fault? earlier = none := by
  rw [fault?_eq_none_iff]
  constructor
  · rintro ⟨oracle, precision, index, symbol⟩
    rw [List.forall_mem_append, List.forall_mem_singleton] at oracle precision
    rw [nodup_map_append_singleton] at index symbol
    exact ⟨⟨oracle.1, precision.1, index.1, symbol.1⟩, oracle.2, precision.2.1, precision.2.2,
      index.2, symbol.2⟩
  · rintro ⟨⟨oracle, precision, index, symbol⟩, hasOracle, fits, agrees, newIndex, newSymbol⟩
    constructor
    case oracle => exact List.forall_mem_append.2 ⟨oracle, List.forall_mem_singleton.2 hasOracle⟩
    case precision =>
      exact List.forall_mem_append.2 ⟨precision, List.forall_mem_singleton.2 ⟨fits, agrees⟩⟩
    case index => exact nodup_map_append_singleton.2 ⟨index, newIndex⟩
    case symbol => exact nodup_map_append_singleton.2 ⟨symbol, newSymbol⟩

theorem Consistent.nil : Consistent [] :=
  ⟨nofun, nofun, List.nodup_nil, List.nodup_nil⟩

/-- The listings before any place in a consistent list are consistent. -/
theorem Consistent.of_append (h : Consistent (earlier ++ rest)) : Consistent earlier := by
  obtain ⟨oracle, precision, index, symbol⟩ := h
  rw [List.map_append] at index symbol
  exact ⟨(List.forall_mem_append.1 oracle).1, (List.forall_mem_append.1 precision).1,
    index.of_append_left, symbol.of_append_left⟩

/-- No consistent list goes on with a listing that has a fault. -/
theorem not_consistent_of_fault (fault : listing.fault? earlier = some e) (rest : List Listing) :
    ¬ Consistent (earlier ++ listing :: rest) := by
  intro consistent
  rw [List.append_cons] at consistent
  have faultless := (consistent_append_singleton_iff.1 consistent.of_append).2
  cases fault.symm.trans faultless

theorem firstFault?_cons_of_some (fault : listing.fault? earlier = some e) :
    firstFault? earlier (listing :: rest) = some e := by
  rw [firstFault?, fault]

theorem firstFault?_cons_of_none (fault : listing.fault? earlier = none) :
    firstFault? earlier (listing :: rest) = firstFault? (earlier ++ [listing]) rest := by
  rw [firstFault?, fault]

/-- A run through a list finds nothing exactly if the list carries on what is consistent. -/
theorem firstFault?_eq_none_iff (h : Consistent earlier) :
    firstFault? earlier rest = none ↔ Consistent (earlier ++ rest) := by
  induction rest generalizing earlier with
  | nil => simp only [firstFault?, List.append_nil, h]
  | cons listing rest ih =>
    cases fault : listing.fault? earlier with
    | some e =>
      rw [firstFault?_cons_of_some fault]
      exact iff_of_false nofun (not_consistent_of_fault fault rest)
    | none =>
      rw [firstFault?_cons_of_none fault, List.append_cons earlier listing rest]
      exact ih (consistent_append_singleton_iff.2 ⟨h, fault⟩)

/-- A place in a list is the head or a place in the tail. -/
theorem exists_place_cons_iff {α : Type} {head : α} {tail : List α} {p : List α → α → Prop} :
    (∃ passed a later, head :: tail = passed ++ a :: later ∧ p passed a) ↔
      p [] head ∨ ∃ passed a later, tail = passed ++ a :: later ∧ p (head :: passed) a := by
  constructor
  · rintro ⟨passed, a, later, split, ha⟩
    cases passed with
    | nil => cases split; exact .inl ha
    | cons first passed => cases split; exact .inr ⟨passed, a, later, rfl, ha⟩
  · rintro (ha | ⟨passed, a, later, rfl, ha⟩)
    · exact ⟨[], head, tail, rfl, ha⟩
    · exact ⟨head :: passed, a, later, rfl, ha⟩

/-- It finds the fault of the first listing that does not carry on those passed before it. -/
theorem firstFault?_eq_some_iff (h : Consistent earlier) :
    firstFault? earlier rest = some e ↔
      ∃ passed listing later, rest = passed ++ listing :: later ∧
        Consistent (earlier ++ passed) ∧ listing.fault? (earlier ++ passed) = some e := by
  induction rest generalizing earlier with
  | nil => simp [firstFault?]
  | cons head rest ih =>
    rw [exists_place_cons_iff, List.append_nil]
    cases fault : head.fault? earlier with
    | some found =>
      rw [firstFault?_cons_of_some fault]
      -- the head is not passed
      simp only [not_consistent_of_fault fault, false_and, and_false, exists_false, or_false, h,
        true_and]
    | none =>
      rw [firstFault?_cons_of_none fault, ih (consistent_append_singleton_iff.2 ⟨h, fault⟩)]
      simp only [List.append_assoc, List.singleton_append, reduceCtorEq, and_false, false_or]

end Listing

namespace Registry

variable {markets : List Listing} {registry : Registry} {e : RegistryError}

theorem ofList_eq_ok_iff : ofList markets = .ok registry ↔ registry.markets = markets := by
  unfold ofList
  split
  case h_1 faultless =>
    rw [Except.ok.injEq]
    constructor
    · rintro rfl
      rfl
    · rintro rfl
      rfl
  case h_2 e found =>
    refine iff_of_false nofun ?_
    rintro rfl
    cases registry.faultless.symm.trans found

theorem ofList_eq_error_iff :
    ofList markets = .error e ↔ Listing.firstFault? [] markets = some e := by
  unfold ofList
  split
  case h_1 faultless => simp [faultless]
  case h_2 e found => simp [found]

/-- A registry is made of the consistent lists, as they are. Of any other list the first listing is
reported that is not consistent with those before it, for the first rule it breaks there. -/
theorem ofList_accepts_or_reports (markets : List Listing) :
    ((∃ registry, ofList markets = .ok registry ∧ registry.markets = markets) ↔
      Listing.Consistent markets) ∧
    ∀ e, ofList markets = .error e ↔
      ∃ earlier listing later, markets = earlier ++ listing :: later ∧
        Listing.Consistent earlier ∧ ¬ Listing.Consistent (earlier ++ [listing]) ∧
        Listing.Breaks earlier listing e := by
  constructor
  · rw [← List.nil_append markets, ← Listing.firstFault?_eq_none_iff .nil]
    constructor
    · rintro ⟨registry, -, rfl⟩
      exact registry.faultless
    · intro faultless
      exact ⟨⟨markets, faultless⟩, ofList_eq_ok_iff.2 rfl, rfl⟩
  · intro e
    rw [ofList_eq_error_iff, Listing.firstFault?_eq_some_iff .nil]
    refine exists_congr fun earlier => exists_congr fun listing => exists_congr fun later => ?_
    refine and_congr_right fun _ => and_congr_right fun consistent => ?_
    rw [Listing.fault?_eq_some_iff]
    constructor
    · intro breaks
      exact ⟨Listing.not_consistent_of_fault (Listing.fault?_eq_some_iff.2 breaks) [], breaks⟩
    · exact And.right

/-- Of several broken rules the first is reported, and no listing behind it is looked at. -/
example :
    Listing.firstFault? []
      [builtinListing "SOL" 0 "feed" "mint",
        { builtinListing "SOL" 0 "feed" "mint" with precision := 0 },
        builtinListing "BTC" 0 "\u2003" "mint"] =
      some (.precisionMismatch "SOL" 0 ⟨10, by decide⟩) := by
  decide +kernel

end Registry

end PerpetualCurve
