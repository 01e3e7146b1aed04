import PerpetualCurve.Proofs.Target

/-!
# How a spread depends on its factor

The skew multiplies a half spread by a factor and pulls the product back where it exceeds the
target. A larger factor never gives a smaller spread: a product that stays within the target comes
out no higher than one that is pulled back. A larger half spread can give a smaller spread, but only
by one unit, and exactly where it falls short of the target and the smaller one reaches it.
-/

namespace PerpetualCurve

/-- What the skew makes of a half spread under a factor. -/
inductive Skewed (half : Amount) (factor : Decimal) (spread : Amount) : Prop
  /-- The product does not exceed the target. -/
  | within {whole product : Decimal} (whole_eq : half.toDecimal = .ok whole)
      (product_eq : factor.mul? whole = some product)
      (le_target : 0 < whole → product ≤ .maxTarget)
      (spread_eq : (spread.toNat : Int) = product.floor)
  /-- The product exceeds the target, and the factor is pulled back. -/
  | pulled {whole product meeting lowered : Decimal} (whole_eq : half.toDecimal = .ok whole)
      (product_eq : factor.mul? whole = some product) (past : .maxTarget < product)
      (meeting_eq : Decimal.maxTarget.div? whole = some meeting)
      (lowered_eq : whole.mul? (max .leastScale meeting) = some lowered)
      (spread_eq : (spread.toNat : Int) = lowered.floor)

namespace Skewed

variable {half half' spread spread' : Amount} {factor factor' : Decimal}

section Pulled

variable {whole product meeting lowered : Decimal} (whole_eq : half.toDecimal = .ok whole)
  (product_eq : factor.mul? whole = some product) (past : .maxTarget < product)
  (meeting_eq : Decimal.maxTarget.div? whole = some meeting)
  (lowered_eq : whole.mul? (max .leastScale meeting) = some lowered)
  (spread_eq : (spread.toNat : Int) = lowered.floor) (capped : factor ≤ .maxSkew)

include whole_eq product_eq past meeting_eq lowered_eq spread_eq capped

/-- A spread that is pulled back comes out where its half spread reaches, or the factor 1.05 takes
it to the target or beyond. -/
theorem pulled_cases :
    105 * half.toNat ≤ 100 * maxTargetSpread ∧ spread.toNat = targetReach half.toNat ∨
      100 * maxTargetSpread < 105 * half.toNat ∧ whole.mul? .leastScale = some lowered ∧
        maxTargetSpread ≤ spread.toNat := by
  have hw := Unsigned.toDecimal_eq_ok whole_eq
  have wide := Decimal.maxTargetSpread_lt_of_mul? product_eq hw capped past
  have meets_iff := Decimal.leastScale_le_meeting_iff meeting_eq hw wide
  by_cases meets : 105 * half.toNat ≤ 100 * maxTargetSpread
  · rw [Decimal.max_eq, if_pos (meets_iff.2 meets)] at lowered_eq
    have floor_eq := Decimal.floor_mul_meeting meeting_eq hw wide lowered_eq meets
    exact .inl ⟨meets, by omega⟩
  · rw [Decimal.max_eq, if_neg fun least => meets (meets_iff.1 least)] at lowered_eq
    have reached : (maxTargetSpread : Int) ≤ lowered.floor := by
      refine Decimal.le_floor_of_ofFraction? lowered_eq (Nat.pow_pos (by decide)) ?_
      rw [hw.1, hw.2]
      show (maxTargetSpread : Int) * 10 ^ 2 ≤ half.toNat * 105
      omega
    exact .inr ⟨by omega, lowered_eq, by omega⟩

end Pulled

/-- A spread that is not pulled back gets no further than one that is. -/
theorem within_le {whole product : Decimal} (whole_eq : half.toDecimal = .ok whole)
    (product_eq : factor.mul? whole = some product) (le_target : 0 < whole → product ≤ .maxTarget)
    (capped : factor ≤ .maxSkew) : product.floor ≤ targetReach half.toNat := by
  have hw := Unsigned.toDecimal_eq_ok whole_eq
  by_cases empty : half.toNat = 0
  · have most := Decimal.significand_mul?_le product_eq hw capped
    have floor_le : product.floor ≤ (maxInventorySkew * half.toNat : Nat) :=
      Int.ediv_le_of_le_mul product.pow_scale_pos most
    rw [empty] at floor_le ⊢
    exact Int.le_trans floor_le (Int.natCast_nonneg _)
  · have within := le_target (Decimal.zero_lt_iff.2 (by omega))
    unfold targetReach
    split
    case isTrue short =>
      have less := Decimal.floor_lt_of_fallsShort product_eq hw short within
      omega
    case isFalse => exact Decimal.floor_le_of_le_ofNat within

/-- The product grows with the factor and with the half spread. -/
theorem product_mono {whole whole' product product' : Decimal}
    (whole_eq : half.toDecimal = .ok whole) (whole_eq' : half'.toDecimal = .ok whole')
    (product_eq : factor.mul? whole = some product)
    (product_eq' : factor'.mul? whole' = some product') (nonneg : 0 ≤ factor)
    (le_factor : factor ≤ factor') (le_half : half.toNat ≤ half'.toNat) : product ≤ product' := by
  obtain ⟨significand_eq, scale_eq⟩ := Unsigned.toDecimal_eq_ok whole_eq
  obtain ⟨significand_eq', scale_eq'⟩ := Unsigned.toDecimal_eq_ok whole_eq'
  have whole_nonneg : 0 ≤ whole := by
    rw [Decimal.zero_le_iff]
    omega
  have le_whole : whole ≤ whole' := by
    rw [Decimal.le_iff, scale_eq, scale_eq']
    omega
  exact Decimal.mul?_mono product_eq product_eq' nonneg whole_nonneg le_factor le_whole

/-- A product past the target does not come back within it under a larger factor or for a larger
half spread. -/
theorem past_of_past {whole whole' product product' : Decimal}
    (whole_eq : half.toDecimal = .ok whole) (whole_eq' : half'.toDecimal = .ok whole')
    (product_eq : factor.mul? whole = some product)
    (product_eq' : factor'.mul? whole' = some product') (nonneg : 0 ≤ factor)
    (le_factor : factor ≤ factor') (le_half : half.toNat ≤ half'.toNat)
    (capped : factor' ≤ .maxSkew) (past : .maxTarget < product) :
    ¬ (0 < whole' → product' ≤ .maxTarget) := by
  have hw := Unsigned.toDecimal_eq_ok whole_eq
  have wide : maxTargetSpread < 5 * half.toNat :=
    Decimal.maxTargetSpread_lt_of_mul? product_eq hw (Decimal.le_trans le_factor capped) past
  have positive : 0 < whole' := by
    rw [Decimal.zero_lt_iff, (Unsigned.toDecimal_eq_ok whole_eq').1]
    omega
  intro le_target
  have le_product := product_mono whole_eq whole_eq' product_eq product_eq' nonneg le_factor le_half
  exact Int.not_lt.2 (Decimal.le_trans le_product (le_target positive)) past

/-- Under a larger factor the spread is no smaller, whatever is rounded and pulled back. -/
theorem mono_factor (narrow : Skewed half factor spread) (wide : Skewed half factor' spread')
    (nonneg : 0 ≤ factor) (le : factor ≤ factor') (capped : factor' ≤ .maxSkew) :
    spread.toNat ≤ spread'.toNat := by
  cases narrow with
  | within whole_eq product_eq le_target spread_eq =>
    cases wide with
    | within whole_eq' product_eq' le_target' spread_eq' =>
      have floor_le := Decimal.floor_mono
        (product_mono whole_eq whole_eq' product_eq product_eq' nonneg le (Nat.le_refl _))
      omega
    | pulled whole_eq' product_eq' past' meeting_eq' lowered_eq' spread_eq' =>
      have most := within_le whole_eq product_eq le_target (Decimal.le_trans le capped)
      have reach_le := targetReach_le half.toNat
      rcases pulled_cases whole_eq' product_eq' past' meeting_eq' lowered_eq' spread_eq' capped with
        ⟨-, reached⟩ | ⟨-, -, reached⟩ <;> omega
  | pulled whole_eq product_eq past meeting_eq lowered_eq spread_eq =>
    cases wide with
    | within whole_eq' product_eq' le_target' spread_eq' =>
      exact absurd le_target' (past_of_past whole_eq whole_eq' product_eq product_eq' nonneg le
        (Nat.le_refl _) capped past)
    | pulled whole_eq' product_eq' past' meeting_eq' lowered_eq' spread_eq' =>
      cases whole_eq.symm.trans whole_eq'
      cases meeting_eq.symm.trans meeting_eq'
      cases lowered_eq.symm.trans lowered_eq'
      omega

/-- For a larger half spread the spread is smaller exactly where the larger one falls short of the
target and the smaller one reaches it, and then by one unit. -/
theorem lt_iff_of_wider (narrow : Skewed half factor spread) (wide : Skewed half' factor spread')
    (nonneg : 0 ≤ factor) (capped : factor ≤ .maxSkew) (le : half.toNat ≤ half'.toNat) :
    spread.toNat ≤ spread'.toNat + 1 ∧
      (spread'.toNat < spread.toNat ↔
        spread.toNat = maxTargetSpread ∧ FallsShort half'.toNat) := by
  rw [← targetReach_lt_iff]
  have reach_le := targetReach_le half.toNat
  have reach_le' := targetReach_le half'.toNat
  have le_reach' := le_targetReach_add_one half'.toNat
  cases narrow with
  | within whole_eq product_eq le_target spread_eq =>
    have most := within_le whole_eq product_eq le_target capped
    cases wide with
    | within whole_eq' product_eq' le_target' spread_eq' =>
      have most' := within_le whole_eq' product_eq' le_target' capped
      have floor_le := Decimal.floor_mono (product_mono whole_eq whole_eq' product_eq product_eq'
        nonneg (Decimal.le_refl factor) le)
      omega
    | pulled whole_eq' product_eq' past' meeting_eq' lowered_eq' spread_eq' =>
      rcases pulled_cases whole_eq' product_eq' past' meeting_eq' lowered_eq' spread_eq' capped with
        ⟨-, reached'⟩ | ⟨least', -, reached'⟩
      · omega
      · rw [targetReach_of_least least']
        omega
  | pulled whole_eq product_eq past meeting_eq lowered_eq spread_eq =>
    cases wide with
    | within whole_eq' product_eq' le_target' spread_eq' =>
      exact absurd le_target' (past_of_past whole_eq whole_eq' product_eq product_eq' nonneg
        (Decimal.le_refl factor) le capped past)
    | pulled whole_eq' product_eq' past' meeting_eq' lowered_eq' spread_eq' =>
      rcases pulled_cases whole_eq product_eq past meeting_eq lowered_eq spread_eq capped with
          ⟨meets, reached⟩ | ⟨least, lowered_eq, -⟩ <;>
        rcases pulled_cases whole_eq' product_eq' past' meeting_eq' lowered_eq' spread_eq' capped
          with ⟨meets', reached'⟩ | ⟨least', lowered_eq', reached'⟩
      · omega
      · rw [targetReach_of_least least']
        omega
      · omega
      · rw [Decimal.mul?_comm] at lowered_eq lowered_eq'
        have floor_le := Decimal.floor_mono (product_mono whole_eq whole_eq' lowered_eq lowered_eq'
          (by decide) (Decimal.le_refl _) le)
        rw [targetReach_of_least least']
        omega

end Skewed

end PerpetualCurve
