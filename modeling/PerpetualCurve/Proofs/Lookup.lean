import Mathlib.Data.List.Nodup
import PerpetualCurve.Proofs.Registry

/-!
# What a registry finds

A market is found by its position, which the registry keeps for every index and for every symbol.
The positions are right for the listings passed so far: a key is known at a position exactly if the
listing there has it. One more listing keeps them right as long as its key is new, so that in a
consistent list they are right to the end.
-/

namespace PerpetualCurve

namespace Listing

variable {κ : Type} [DecidableEq κ] {key : Listing → κ} {known : List (κ × Nat)}
  {passed rest : List Listing} {listing : Listing} {k : κ}

/-- Whether the known positions are those of the listings passed so far. -/
def Locates (key : Listing → κ) (known : List (κ × Nat)) (passed : List Listing) : Prop :=
  ∀ k position, known.lookup k = some position ↔ (passed.map key)[position]? = some k

theorem Locates.nil : Locates key [] [] := by
  intro k position
  simp

/-- No position is known for a key that no listing has. -/
theorem Locates.lookup_eq_none_iff (h : Locates key known passed) :
    known.lookup k = none ↔ k ∉ passed.map key := by
  rw [List.mem_iff_getElem?, not_exists, Option.eq_none_iff_forall_ne_some]
  exact forall_congr' fun position => not_congr (h k position)

theorem Locates.append_singleton (h : Locates key known passed)
    (fresh : key listing ∉ passed.map key) :
    Locates key ((key listing, passed.length) :: known) (passed ++ [listing]) := by
  intro k position
  rw [List.map_append, List.map_singleton, List.lookup_cons]
  by_cases same : k = key listing
  case pos =>
    subst same
    rw [beq_self_eq_true, Option.some.injEq]
    constructor
    · rintro rfl
      simp
    · intro found
      rcases Nat.lt_or_ge position (passed.map key).length with before | behind
      · rw [List.getElem?_append_left before] at found
        exact absurd (List.mem_of_getElem? found) fresh
      · have := (List.getElem?_eq_some_iff.1 found).1
        simp only [List.length_append, List.length_map, List.length_singleton] at this behind
        omega
  case neg =>
    rw [beq_eq_false_iff_ne.2 same]
    refine (h k position).trans ?_
    rcases Nat.lt_or_ge position (passed.map key).length with before | behind
    · rw [List.getElem?_append_left before]
    · rw [List.getElem?_eq_none behind, List.getElem?_append_right behind]
      refine iff_of_false nofun ?_
      intro found
      exact same (List.mem_singleton.1 (List.mem_of_getElem? found))

/-- A run through listings whose keys differ keeps the positions right. -/
theorem Locates.positions (h : Locates key known passed)
    (nodup : ((passed ++ rest).map key).Nodup) :
    Locates key (Listing.positions key known passed.length rest) (passed ++ rest) := by
  induction rest generalizing known passed with
  | nil => rwa [Listing.positions, List.append_nil]
  | cons listing rest ih =>
    rw [List.append_cons] at nodup ⊢
    have fresh : key listing ∉ passed.map key := by
      rw [List.map_append] at nodup
      exact (nodup_map_append_singleton.1 nodup.of_append_left).2
    have next := ih (h.append_singleton fresh) nodup
    rwa [List.length_append, List.length_singleton] at next

end Listing

namespace Registry

open Listing

variable {κ : Type} [DecidableEq κ] {key : Listing → κ} {k : κ} {markets : List Listing}
  {registry : Registry} {listing : Listing}

theorem consistent (registry : Registry) : Consistent registry.markets :=
  (firstFault?_eq_none_iff .nil).1 registry.faultless

/-- The positions of a registry whose listings differ in a key. -/
theorem locates (nodup : (registry.markets.map key).Nodup) :
    Locates key (positions key [] 0 registry.markets) registry.markets :=
  Locates.nil.positions nodup

/-- A key finds the listing that has it. -/
theorem lookup?_eq_some_iff (nodup : (registry.markets.map key).Nodup) :
    registry.lookup? key k = some listing ↔ listing ∈ registry.markets ∧ key listing = k := by
  rw [lookup?, Option.bind_eq_some_iff]
  constructor
  · rintro ⟨position, known, found⟩
    rw [locates nodup, List.getElem?_map, found, Option.map_some, Option.some.injEq] at known
    exact ⟨List.mem_of_getElem? found, known⟩
  · rintro ⟨listed, rfl⟩
    obtain ⟨position, found⟩ := List.mem_iff_getElem?.1 listed
    refine ⟨position, (locates nodup _ _).2 ?_, found⟩
    rw [List.getElem?_map, found, Option.map_some]

/-- A key finds nothing exactly if no listing has it. -/
theorem lookup?_eq_none_iff (nodup : (registry.markets.map key).Nodup) :
    registry.lookup? key k = none ↔ ∀ listing ∈ registry.markets, key listing ≠ k := by
  simp only [Option.eq_none_iff_forall_ne_some, ne_eq, lookup?_eq_some_iff nodup, not_and]

/-- A registry holds the markets it is made of in their order, no two of them with the same index or
the same symbol. By either it finds the market that has it, and nothing where there is none. -/
theorem lookups_exact (h : ofList markets = .ok registry) :
    registry.markets = markets ∧ registry.size = markets.length ∧
    (markets.map (·.index)).Nodup ∧ (markets.map (·.symbol)).Nodup ∧
    (∀ index listing,
      registry.get? index = some listing ↔ listing ∈ markets ∧ listing.index = index) ∧
    (∀ index, registry.get? index = none ↔ ∀ listing ∈ markets, listing.index ≠ index) ∧
    (∀ symbol listing,
      registry.getSymbol? symbol = some listing ↔ listing ∈ markets ∧ listing.symbol = symbol) ∧
    (∀ symbol, registry.getSymbol? symbol = none ↔ ∀ listing ∈ markets, listing.symbol ≠ symbol) ∧
    ∀ listing ∈ markets, registry.get? listing.index = some listing ∧
      registry.getSymbol? listing.symbol = some listing := by
  obtain rfl := ofList_eq_ok_iff.1 h
  have index := registry.consistent.index
  have symbol := registry.consistent.symbol
  refine ⟨rfl, rfl, index, symbol, fun _ _ => lookup?_eq_some_iff index,
    fun _ => lookup?_eq_none_iff index, fun _ _ => lookup?_eq_some_iff symbol,
    fun _ => lookup?_eq_none_iff symbol, ?_⟩
  intro listing listed
  exact ⟨(lookup?_eq_some_iff index).2 ⟨listed, rfl⟩, (lookup?_eq_some_iff symbol).2 ⟨listed, rfl⟩⟩

/-- The registry of the markets that are known without any configuration. -/
def ofBuiltin : Registry := ⟨builtin, by decide +kernel⟩

/-- The market at the last place is found, and no market under an index past it. -/
theorem ofBuiltin_lookups_exact :
    ofList builtin = .ok ofBuiltin ∧ ofBuiltin.size = 3 ∧
      ofBuiltin.getSymbol? "ETH" = builtin[2]? ∧ ofBuiltin.get? ⟨3, by decide⟩ = none := by
  have made : ofList builtin = .ok ofBuiltin := ofList_eq_ok_iff.2 rfl
  obtain ⟨-, size, -, -, -, missing, -, -, found⟩ := lookups_exact made
  exact ⟨made, size, (found _ (List.getElem_mem (by decide : 2 < builtin.length))).2,
    (missing _).2 (by decide +kernel)⟩

end Registry

end PerpetualCurve
