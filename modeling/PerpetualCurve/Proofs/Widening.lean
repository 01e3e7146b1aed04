import PerpetualCurve.Proofs.Skew

/-!
# What widens a spread

The factor of the skew grows with the leverage, and the leverage grows as the fee pool is drained
and by the quote unit of `markToTerminal`. So a curve with less in its fee pool never quotes closer
to its mark, nor does `markToTerminal` where the oracle is certain. A larger base spread leaves the
factor as it is and multiplies more. It quotes closer only where the skew takes both half spreads to
the target and the larger one falls short of it, and then by one unit.
-/

namespace PerpetualCurve

theorem Signed.toDecimal_eq_ok {s : SignedAmount} {d : Decimal} (h : s.toDecimal = .ok d) :
    d.significand = s.toInt ∧ d.scale = 0 := by
  rw [Signed.toDecimal, Outcome.getDM_eq_ok_iff] at h
  exact Decimal.ofInt?_eq_some h

theorem Signed.div?_toDecimal {s t : SignedAmount} {a b : Decimal} (ha : s.toDecimal = .ok a)
    (hb : t.toDecimal = .ok b) (pos : 0 < t.toInt) :
    a.div? b = Decimal.ofFraction? s.toInt t.toInt.toNat := by
  obtain ⟨significand_eq, scale_eq⟩ := Signed.toDecimal_eq_ok hb
  refine Decimal.div?_of_whole (Signed.toDecimal_eq_ok ha) ⟨?_, scale_eq⟩ (by omega)
  rw [significand_eq, Int.toNat_of_nonneg (Int.le_of_lt pos)]

namespace Decimal

variable {a b : Decimal} {num : Int} {den den' : Nat}

theorem max_zero_le_max_zero (h : a ≤ b ∨ a ≤ 0) : max a 0 ≤ max b 0 := by
  rcases h with le | nonpos
  · exact Decimal.max_le_max_right le
  · rw [max_eq a, if_pos nonpos]
    exact Decimal.le_max_right b 0

/-- Divided by more, a fraction that is cut at zero is rounded to no more. -/
theorem max_ofFraction?_zero_anti (h : ofFraction? num den = some a)
    (h' : ofFraction? num den' = some b) (pos : 0 < den) (le : den ≤ den') :
    max b 0 ≤ max a 0 := by
  have pos' : 0 < den' := Nat.lt_of_lt_of_le pos le
  apply max_zero_le_max_zero
  rcases Int.le_total 0 num with nonneg | nonpos
  · exact .inl (ofFraction?_mono h' h pos' pos nonneg
      (Int.mul_le_mul_of_nonneg_left (Int.ofNat_le.2 le) nonneg))
  · refine .inr (le_ofNat_iff.2 ?_)
    exact significand_le_of_ofFraction? h' pos' (by simpa using nonpos)

end Decimal

/-- What a policy adds to the quotient of inventory gap and fee pool. -/
def SpreadPolicy.raise? : SpreadPolicy → Decimal → Option Decimal
  | .costBasis, quotient => some quotient
  | .markToTerminal, quotient => quotient.add? .quoteUnit

namespace Curve

variable {curve : Curve} {side : Side} {oracle : OracleReading} {policy : SpreadPolicy}
  {mark half spread : Amount} {gap : SignedAmount} {leverage factor : Decimal}

/-- The cost basis cancels: under either policy the gap is what the position is worth at the mark
less what closing it pays out. -/
theorem inventoryGap_toInt (h : curve.inventoryGap mark policy = .ok gap) :
    ∃ netValue localValue, curve.netInventoryValue = .ok netValue ∧
      curve.localInventoryValue mark = .ok localValue ∧
      gap.toInt = localValue.toInt - netValue.toInt := by
  cases policy with
  | costBasis =>
    simp only [inventoryGap, Outcome.bind_eq_ok_iff, Signed.checked_eq_ok_iff] at h
    obtain ⟨netValue, hnet, localValue, hlocal, basis, -, localPnl, hlocalPnl, netPnl, hnetPnl,
      hgap⟩ := h
    exact ⟨netValue, localValue, hnet, hlocal, by omega⟩
  | markToTerminal =>
    simp only [inventoryGap, Outcome.bind_eq_ok_iff, Signed.checked_eq_ok_iff] at h
    obtain ⟨netValue, hnet, localValue, hlocal, hgap⟩ := h
    exact ⟨netValue, localValue, hnet, hlocal, hgap⟩

/-- The gap does not depend on the policy. -/
theorem inventoryGap_eq {policy' : SpreadPolicy} {gap' : SignedAmount}
    (h : curve.inventoryGap mark policy = .ok gap)
    (h' : curve.inventoryGap mark policy' = .ok gap') : gap.toInt = gap'.toInt := by
  obtain ⟨netValue, localValue, hnet, hlocal, hgap⟩ := inventoryGap_toInt h
  obtain ⟨netValue', localValue', hnet', hlocal', hgap'⟩ := inventoryGap_toInt h'
  cases hnet.symm.trans hnet'
  cases hlocal.symm.trans hlocal'
  exact hgap.trans hgap'.symm

/-- Over a funded pool the leverage is the rounded quotient of inventory gap and fee pool, raised by
the policy and cut at zero. -/
theorem effectiveLeverage_eq_ok (funded : 0 < curve.feePool.toInt)
    (h : curve.effectiveLeverage mark policy = .ok leverage) :
    ∃ gap quotient raised, curve.inventoryGap mark policy = .ok gap ∧
      Decimal.ofFraction? gap.toInt (curve.feePool.toInt + 1).toNat = some quotient ∧
      policy.raise? quotient = some raised ∧ max raised 0 = leverage := by
  cases policy with
  | costBasis =>
    simp only [effectiveLeverage, Outcome.bind_eq_ok_iff, Outcome.getDM_eq_ok_iff,
      Outcome.pure_eq_ok_iff, Signed.checked_eq_ok_iff] at h
    obtain ⟨gap, hgap, pool, hpool, dividend, hdividend, divisor, hdivisor, quotient, hquotient,
      raised, rfl, hleverage⟩ := h
    rw [Signed.div?_toDecimal hdividend hdivisor (by omega), hpool] at hquotient
    exact ⟨gap, quotient, quotient, hgap, hquotient, rfl, hleverage⟩
  | markToTerminal =>
    simp only [effectiveLeverage, Outcome.bind_eq_ok_iff, Outcome.getDM_eq_ok_iff,
      Outcome.pure_eq_ok_iff, Signed.checked_eq_ok_iff] at h
    obtain ⟨gap, hgap, pool, hpool, dividend, hdividend, divisor, hdivisor, quotient, hquotient,
      raised, hraised, hleverage⟩ := h
    rw [Signed.div?_toDecimal hdividend hdivisor (by omega), hpool] at hquotient
    exact ⟨gap, quotient, raised, hgap, hquotient, hraised, hleverage⟩

/-- The factor of the skew before it is pulled back: five over a fee pool that is empty or in
deficit, else one plus the leverage, at most five. -/
inductive Factor (curve : Curve) (mark : Amount) (policy : SpreadPolicy) : Decimal → Prop
  | exhausted (h : curve.feePool.toInt ≤ 0) : Factor curve mark policy .maxSkew
  | leveraged {leverage factor : Decimal} (funded : 0 < curve.feePool.toInt)
      (leverage_eq : curve.effectiveLeverage mark policy = .ok leverage)
      (factor_eq : Decimal.add? 1 leverage = some factor) :
      Factor curve mark policy (min .maxSkew factor)

/-- One plus five is cut to five. -/
theorem Factor.of_leverage
    (hleverage : if curve.feePool.toInt ≤ 0 then .maxSkew = leverage
      else curve.effectiveLeverage mark policy = .ok leverage)
    (hfactor : Decimal.add? 1 leverage = some factor) :
    curve.Factor mark policy (min .maxSkew factor) := by
  split at hleverage
  case isTrue exhausted =>
    subst hleverage
    have five_le : .maxSkew ≤ factor := by
      rw [Decimal.add?_comm] at hfactor
      exact Decimal.le_add? hfactor (by decide) (by decide)
    have cut : min .maxSkew factor = .maxSkew := if_pos five_le
    rw [cut]
    exact .exhausted exhausted
  case isFalse filled => exact .leveraged (Int.not_le.1 filled) hleverage hfactor

theorem Factor.capped (h : curve.Factor mark policy factor) : factor ≤ .maxSkew := by
  cases h with
  | exhausted => exact Decimal.le_refl _
  | leveraged => exact Decimal.min_le_left _ _

theorem Factor.nonneg (h : curve.Factor mark policy factor) : 0 ≤ factor := by
  cases h with
  | exhausted => decide
  | leveraged funded leverage_eq factor_eq =>
    have one_le := Decimal.one_le_add? factor_eq (effectiveLeverage_nonneg leverage_eq)
    exact Decimal.le_min (by decide) (Decimal.le_trans (by decide) one_le)

/-- What the skew makes of a half spread. -/
inductive Skews (curve : Curve) (side : Side) (policy : SpreadPolicy) (mark half spread : Amount) :
    Prop
  | scaled {factor : Decimal} (exposed : curve.growsExposure side = true ∨ curve.feePool.toInt = 0)
      (hfactor : curve.Factor mark policy factor) (skewed : Skewed half factor spread)
  | deficit (unexposed : ¬ (curve.growsExposure side = true ∨ curve.feePool.toInt = 0))
      (deficit : curve.feePool.toInt < 0)
      (spread_eq : spread.toNat = half.toNat * maxInventorySkew)
  | stays (unexposed : ¬ (curve.growsExposure side = true ∨ curve.feePool.toInt = 0))
      (funded : 0 < curve.feePool.toInt) (spread_eq : spread = half)

theorem skewed_of_inventoryScale {scale : Decimal}
    (hscale : curve.inventoryScale mark half policy = .ok scale)
    (h : scaleSpread half scale = .ok spread) :
    ∃ factor, curve.Factor mark policy factor ∧ Skewed half factor spread := by
  obtain ⟨leverage, factor, whole, skewed, hleverage, hfactor, hwhole, hskewed, hpulled⟩ :=
    inventoryScale_eq_ok_iff.1 hscale
  obtain ⟨whole', product, hwhole', hproduct, hspread⟩ := scaleSpread_eq_ok h
  cases hwhole.symm.trans hwhole'
  refine ⟨min .maxSkew factor, .of_leverage hleverage hfactor, ?_⟩
  split at hpulled
  case isTrue past =>
    obtain ⟨meeting, hmeeting, rfl⟩ := hpulled
    exact .pulled hwhole hskewed past.2 hmeeting hproduct hspread
  case isFalse le_target =>
    rw [← hpulled, Decimal.mul?_comm] at hproduct
    cases hskewed.symm.trans hproduct
    refine .within hwhole hskewed (fun positive => ?_) hspread
    exact Decimal.le_of_not_lt fun past => le_target ⟨positive, past⟩

theorem skews_of_skewedSpread (h : curve.skewedSpread side policy mark half = .ok spread) :
    curve.Skews side policy mark half spread := by
  unfold skewedSpread at h
  split at h
  case isTrue exposed =>
    rw [Outcome.bind_eq_ok_iff] at h
    obtain ⟨scale, hscale, h⟩ := h
    obtain ⟨factor, hfactor, skewed⟩ := skewed_of_inventoryScale hscale h
    exact .scaled exposed hfactor skewed
  case isFalse unexposed =>
    split at h
    case isTrue deficit => exact .deficit unexposed deficit (Unsigned.checked_eq_ok_iff.1 h)
    case isFalse covered =>
      have funded : 0 < curve.feePool.toInt := by
        have filled : curve.feePool.toInt ≠ 0 := fun empty => unexposed (.inr empty)
        omega
      exact .stays unexposed funded (Outcome.pure_eq_ok_iff.1 h).symm

/-- On one side of a curve the skew goes the same way for every half spread and under either policy.
Where it is not the factor that multiplies, a larger half spread gives a larger spread. -/
theorem skewedSpread_alike {policy' : SpreadPolicy} {half' spread' : Amount}
    (h : curve.skewedSpread side policy mark half = .ok spread)
    (h' : curve.skewedSpread side policy' mark half' = .ok spread') :
    (curve.growsExposure side = true ∨ curve.feePool.toInt = 0) ∧
      (∃ factor factor', curve.Factor mark policy factor ∧ curve.Factor mark policy' factor' ∧
        Skewed half factor spread ∧ Skewed half' factor' spread') ∨
    ¬ (curve.growsExposure side = true ∨ curve.feePool.toInt = 0) ∧
      (half.toNat ≤ half'.toNat → spread.toNat ≤ spread'.toNat) := by
  cases skews_of_skewedSpread h with
  | scaled exposed hfactor skewed =>
    cases skews_of_skewedSpread h' with
    | scaled _ hfactor' skewed' =>
      exact .inl ⟨exposed, _, _, hfactor, hfactor', skewed, skewed'⟩
    | deficit unexposed => exact absurd exposed unexposed
    | stays unexposed => exact absurd exposed unexposed
  | deficit unexposed deficit spread_eq =>
    refine .inr ⟨unexposed, fun le => ?_⟩
    cases skews_of_skewedSpread h' with
    | scaled exposed => exact absurd exposed unexposed
    | deficit _ _ spread_eq' =>
      rw [spread_eq, spread_eq']
      exact Nat.mul_le_mul_right _ le
    | stays _ funded => omega
  | stays unexposed funded spread_eq =>
    refine .inr ⟨unexposed, fun le => ?_⟩
    rw [spread_eq]
    exact Nat.le_trans le (le_skewedSpread h')

/-- Where spreads are turned on, the skew makes the half spread of half the base spread or the
retreat, whichever is more. -/
theorem halfSpread_widened (h : curve.halfSpread side oracle policy = .ok spread)
    (on : ¬ (curve.baseSpread.toNat = 0 ∨ curve.intensity.toNat = 0)) :
    ∃ mark gap half, curve.markPrice = .ok mark ∧ oracleMarkSpread mark oracle.price = .ok gap ∧
      half.toNat = curve.unskewedSpread side oracle policy gap ∧
      curve.skewedSpread side policy mark half = .ok spread := by
  obtain ⟨mark, gap, least, half, hmark, hgap, hleast, hretreated, hskewed⟩ :=
    halfSpread_of_on (fun none => on (.inl none)) (fun none => on (.inr none)) h
  refine ⟨mark, gap, half, hmark, hgap, ?_, hskewed⟩
  rw [unskewedSpread, ← hleast, retreatedSpread_toNat hretreated]

/-! ## The fee pool -/

section FeePool

variable {poorer richer : SignedAmount} {factor' : Decimal} {wide narrow : Amount}

theorem Factor.antitone_feePool (le : poorer.toInt ≤ richer.toInt)
    (h : { curve with feePool := poorer }.Factor mark .costBasis factor)
    (h' : { curve with feePool := richer }.Factor mark .costBasis factor') : factor' ≤ factor := by
  cases h with
  | exhausted => exact h'.capped
  | leveraged funded leverage_eq factor_eq =>
    cases h' with
    | exhausted exhausted =>
      simp only at funded exhausted
      omega
    | leveraged funded' leverage_eq' factor_eq' =>
      obtain ⟨gap, quotient, _, hgap, hquotient, ⟨rfl⟩, rfl⟩ :=
        effectiveLeverage_eq_ok funded leverage_eq
      obtain ⟨gap', quotient', _, hgap', hquotient', ⟨rfl⟩, rfl⟩ :=
        effectiveLeverage_eq_ok funded' leverage_eq'
      -- the gap does not look at the fee pool
      cases hgap.symm.trans hgap'
      simp only at funded hquotient hquotient'
      have leverage_le := Decimal.max_ofFraction?_zero_anti hquotient hquotient' (by omega)
        (by omega)
      exact Decimal.min_le_min_left (Decimal.one_add?_mono factor_eq' factor_eq
        (Decimal.le_max_right _ 0) leverage_le)

theorem skewedSpread_antitone_feePool (le : poorer.toInt ≤ richer.toInt)
    (h : { curve with feePool := poorer }.skewedSpread side .costBasis mark half = .ok wide)
    (h' : { curve with feePool := richer }.skewedSpread side .costBasis mark half = .ok narrow) :
    narrow.toNat ≤ wide.toNat := by
  have half_le := le_skewedSpread h
  have le_five := (skewedSpread_le h').1
  cases skews_of_skewedSpread h with
  | scaled exposed hfactor skewed =>
    cases skews_of_skewedSpread h' with
    | scaled exposed' hfactor' skewed' =>
      exact skewed'.mono_factor skewed hfactor'.nonneg (hfactor.antitone_feePool le hfactor')
        hfactor.capped
    | deficit unexposed' deficit' spread_eq' =>
      -- what has less than a pool in deficit is not empty
      rcases exposed with grows | empty
      · exact absurd (.inl grows) unexposed'
      · simp only at deficit' empty
        omega
    | stays unexposed' funded' spread_eq' =>
      rw [spread_eq']
      exact half_le
  | deficit unexposed deficit spread_eq =>
    rw [spread_eq, Nat.mul_comm]
    exact le_five
  | stays unexposed funded spread_eq =>
    simp only at funded
    cases skews_of_skewedSpread h' with
    | scaled exposed' hfactor' skewed' =>
      rcases exposed' with grows | empty
      · exact absurd (.inl grows) unexposed
      · simp only at empty
        omega
    | deficit unexposed' deficit' spread_eq' =>
      simp only at deficit'
      omega
    | stays unexposed' funded' spread_eq' => rw [spread_eq, spread_eq']

/-- With less in the fee pool a spread is no smaller, whatever the two pools' signs. -/
theorem halfSpread_antitone_feePool (le : poorer.toInt ≤ richer.toInt)
    (h : { curve with feePool := poorer }.halfSpread side oracle .costBasis = .ok wide)
    (h' : { curve with feePool := richer }.halfSpread side oracle .costBasis = .ok narrow) :
    narrow.toNat ≤ wide.toNat := by
  by_cases on : curve.baseSpread.toNat = 0 ∨ curve.intensity.toNat = 0
  · rw [halfSpread_of_off h on, halfSpread_of_off h' on]
  · obtain ⟨mark, gap, half, hmark, hgap, hhalf, hskewed⟩ := halfSpread_widened h on
    obtain ⟨mark', gap', half', hmark', hgap', hhalf', hskewed'⟩ := halfSpread_widened h' on
    cases hmark.symm.trans hmark'
    cases hgap.symm.trans hgap'
    cases Unsigned.ext (hhalf.trans hhalf'.symm)
    exact skewedSpread_antitone_feePool le hskewed hskewed'

/-- A curve like `leveraged` whose half spread is one of those that fall short of the target. -/
def shortOfTarget : Curve := { leveraged with baseSpread := .ofNat 20498 }

/-- With nothing in the fee pool the ask is pulled back to the target, short of it; with 5211047 the
leverage takes it to 19985. -/
theorem shortOfTarget_antitone_feePool :
    (0 : SignedAmount).toInt ≤ (.ofInt 5211047 : SignedAmount).toInt ∧
    ∃ wide narrow,
      { shortOfTarget with feePool := 0 }.halfSpread .long { price := .ofInt 500000000000 }
        .costBasis = .ok wide ∧
      { shortOfTarget with feePool := .ofInt 5211047 }.halfSpread .long
        { price := .ofInt 500000000000 } .costBasis = .ok narrow ∧
      wide.toNat = 19999 ∧ narrow.toNat = 19985 ∧ narrow.toNat ≤ wide.toNat := by
  have drained : { shortOfTarget with feePool := 0 }.halfSpread .long
      { price := .ofInt 500000000000 } .costBasis = .ok (.ofNat 19999) := by
    decide +kernel
  have funded : { shortOfTarget with feePool := .ofInt 5211047 }.halfSpread .long
      { price := .ofInt 500000000000 } .costBasis = .ok (.ofNat 19985) := by
    decide +kernel
  have le : (0 : SignedAmount).toInt ≤ (.ofInt 5211047 : SignedAmount).toInt := by decide
  exact ⟨le, _, _, drained, funded, by decide, by decide,
    halfSpread_antitone_feePool le drained funded⟩

end FeePool

/-! ## The policy -/

section Policy

variable {factor' : Decimal} {narrow wide : Amount}

theorem Factor.costBasis_le (h : curve.Factor mark .costBasis factor)
    (h' : curve.Factor mark .markToTerminal factor') : factor ≤ factor' := by
  cases h' with
  | exhausted => exact h.capped
  | leveraged funded' leverage_eq' factor_eq' =>
    cases h with
    | exhausted exhausted => omega
    | leveraged funded leverage_eq factor_eq =>
      obtain ⟨gap, quotient, _, hgap, hquotient, ⟨rfl⟩, rfl⟩ :=
        effectiveLeverage_eq_ok funded leverage_eq
      obtain ⟨gap', quotient', raised, hgap', hquotient', hraised, rfl⟩ :=
        effectiveLeverage_eq_ok funded' leverage_eq'
      rw [← inventoryGap_eq hgap hgap'] at hquotient'
      cases hquotient.symm.trans hquotient'
      have leverage_le : max quotient 0 ≤ max raised 0 := by
        apply Decimal.max_zero_le_max_zero
        by_cases nonneg : 0 ≤ quotient
        · exact .inl (Decimal.le_add? hraised nonneg (by decide))
        · exact .inr (Decimal.le_of_not_le nonneg)
      exact Decimal.min_le_min_left (Decimal.one_add?_mono factor_eq factor_eq'
        (Decimal.le_max_right _ 0) leverage_le)

theorem skewedSpread_costBasis_le (h : curve.skewedSpread side .costBasis mark half = .ok narrow)
    (h' : curve.skewedSpread side .markToTerminal mark half = .ok wide) :
    narrow.toNat ≤ wide.toNat := by
  rcases skewedSpread_alike h h' with ⟨-, _, _, hfactor, hfactor', skewed, skewed'⟩ | ⟨-, mono⟩
  · exact skewed.mono_factor skewed' hfactor.nonneg (hfactor.costBasis_le hfactor') hfactor'.capped
  · exact mono (Nat.le_refl _)

/-- A certain oracle moves no quote further under one policy than under the other. -/
theorem unskewedSpread_of_certain (certain : oracle.confidenceShare.toNat = 0) :
    curve.unskewedSpread side oracle .costBasis gap =
      curve.unskewedSpread side oracle .markToTerminal gap := by
  simp only [unskewedSpread, Side.retreat, certain, Nat.add_zero]

/-- Where the oracle is certain, a spread under `markToTerminal` is no smaller than under
`costBasis`. -/
theorem halfSpread_costBasis_le_markToTerminal (certain : oracle.confidenceShare.toNat = 0)
    (h : curve.halfSpread side oracle .costBasis = .ok narrow)
    (h' : curve.halfSpread side oracle .markToTerminal = .ok wide) :
    narrow.toNat ≤ wide.toNat := by
  by_cases on : curve.baseSpread.toNat = 0 ∨ curve.intensity.toNat = 0
  · rw [halfSpread_of_off h on, halfSpread_of_off h' on]
  · obtain ⟨mark, gap, half, hmark, hgap, hhalf, hskewed⟩ := halfSpread_widened h on
    obtain ⟨mark', gap', half', hmark', hgap', hhalf', hskewed'⟩ := halfSpread_widened h' on
    cases hmark.symm.trans hmark'
    cases hgap.symm.trans hgap'
    rw [unskewedSpread_of_certain certain] at hhalf
    cases Unsigned.ext (hhalf.trans hhalf'.symm)
    exact skewedSpread_costBasis_le hskewed hskewed'

/-- The quote unit takes the product past a whole number, so the ask is one unit further away. -/
theorem shortOfTarget_costBasis_le :
    ({ price := .ofInt 500000000000 } : OracleReading).confidenceShare.toNat = 0 ∧
    ∃ narrow wide,
      { shortOfTarget with feePool := .ofInt 5203859 }.halfSpread .long
        { price := .ofInt 500000000000 } .costBasis = .ok narrow ∧
      { shortOfTarget with feePool := .ofInt 5203859 }.halfSpread .long
        { price := .ofInt 500000000000 } .markToTerminal = .ok wide ∧
      narrow.toNat = 19998 ∧ wide.toNat = 19999 ∧ narrow.toNat ≤ wide.toNat := by
  have certain : ({ price := .ofInt 500000000000 } : OracleReading).confidenceShare.toNat = 0 := by
    decide
  have narrow : { shortOfTarget with feePool := .ofInt 5203859 }.halfSpread .long
      { price := .ofInt 500000000000 } .costBasis = .ok (.ofNat 19998) := by
    decide +kernel
  have wide : { shortOfTarget with feePool := .ofInt 5203859 }.halfSpread .long
      { price := .ofInt 500000000000 } .markToTerminal = .ok (.ofNat 19999) := by
    decide +kernel
  exact ⟨certain, _, _, narrow, wide, by decide, by decide,
    halfSpread_costBasis_le_markToTerminal certain narrow wide⟩

end Policy

/-! ## The base spread -/

section BaseSpread

variable {half' tight loose : Amount} {narrow wide : Unsigned 32} {factor' : Decimal}

theorem Factor.unique (h : curve.Factor mark policy factor)
    (h' : curve.Factor mark policy factor') : factor = factor' := by
  cases h with
  | exhausted exhausted =>
    cases h' with
    | exhausted => rfl
    | leveraged funded' => omega
  | leveraged funded leverage_eq factor_eq =>
    cases h' with
    | exhausted exhausted' => omega
    | leveraged funded' leverage_eq' factor_eq' =>
      cases leverage_eq.symm.trans leverage_eq'
      cases factor_eq.symm.trans factor_eq'
      rfl

/-- Only a half spread that is multiplied by the factor comes out smaller than that of a smaller
one. -/
theorem skewedSpread_lt_iff (le : half.toNat ≤ half'.toNat)
    (h : curve.skewedSpread side policy mark half = .ok tight)
    (h' : curve.skewedSpread side policy mark half' = .ok loose) :
    tight.toNat ≤ loose.toNat + 1 ∧
      (loose.toNat < tight.toNat ↔ tight.toNat = maxTargetSpread ∧
        (curve.growsExposure side = true ∨ curve.feePool.toInt = 0) ∧ FallsShort half'.toNat) := by
  rcases skewedSpread_alike h h' with
    ⟨exposed, _, _, hfactor, hfactor', skewed, skewed'⟩ | ⟨unexposed, mono⟩
  · cases hfactor.unique hfactor'
    rw [and_iff_right exposed]
    exact skewed.lt_iff_of_wider skewed' hfactor.nonneg hfactor.capped le
  · have tight_le := mono le
    exact ⟨by omega, by omega, fun ⟨_, exposed, _⟩ => absurd exposed unexposed⟩

theorem halfSpread_le_of_off (le : narrow.toNat ≤ wide.toNat)
    (h : { curve with baseSpread := narrow }.halfSpread side oracle policy = .ok tight)
    (h' : { curve with baseSpread := wide }.halfSpread side oracle policy = .ok loose)
    (off : narrow.toNat = 0 ∨ curve.intensity.toNat = 0) : tight.toNat ≤ loose.toNat := by
  have tight_eq : tight.toNat = narrow.toNat / 2 := halfSpread_of_off h off
  rcases off with none | off
  · omega
  · have loose_eq : loose.toNat = wide.toNat / 2 := halfSpread_of_off h' (.inr off)
    omega

/-- A larger base spread gives a smaller half spread only by one unit, and exactly where the skew
takes the smaller one to the target and the larger one, before the skew, falls short of it. -/
theorem halfSpread_narrows_iff (le : narrow.toNat ≤ wide.toNat)
    (h : { curve with baseSpread := narrow }.halfSpread side oracle policy = .ok tight)
    (h' : { curve with baseSpread := wide }.halfSpread side oracle policy = .ok loose) :
    tight.toNat ≤ loose.toNat + 1 ∧
      (loose.toNat < tight.toNat ↔ tight.toNat = maxTargetSpread ∧
        (curve.growsExposure side = true ∨ curve.feePool.toInt = 0) ∧
        ∃ mark gap, curve.markPrice = .ok mark ∧ oracleMarkSpread mark oracle.price = .ok gap ∧
          FallsShort
            ({ curve with baseSpread := wide }.unskewedSpread side oracle policy gap)) := by
  by_cases on : narrow.toNat = 0 ∨ curve.intensity.toNat = 0
  · have tight_eq : tight.toNat = narrow.toNat / 2 := halfSpread_of_off h on
    have tight_le := halfSpread_le_of_off le h h' on
    refine ⟨by omega, by omega, ?_⟩
    rintro ⟨reached, -, mark, gap, -, -, short⟩
    -- half the larger base spread alone is past what falls short
    have short_lt := short.lt_maxTargetSpread
    have wide_le : wide.toNat / 2 ≤
        { curve with baseSpread := wide }.unskewedSpread side oracle policy gap :=
      Nat.le_max_left _ _
    omega
  · have on' : ¬ (wide.toNat = 0 ∨ curve.intensity.toNat = 0) := by omega
    obtain ⟨mark, gap, half, hmark, hgap, hhalf, hskewed⟩ := halfSpread_widened h on
    obtain ⟨mark', gap', half', hmark', hgap', hhalf', hskewed'⟩ := halfSpread_widened h' on'
    cases hmark.symm.trans hmark'
    cases hgap.symm.trans hgap'
    have half_le : half.toNat ≤ half'.toNat := by
      rw [hhalf, hhalf']
      exact max_le_max_right _ (Nat.div_le_div_right le)
    -- the skew does not look at the base spread
    have hskewed : curve.skewedSpread side policy mark half = .ok tight := hskewed
    obtain ⟨close, less_iff⟩ := skewedSpread_lt_iff half_le hskewed hskewed'
    refine ⟨close, less_iff.trans (and_congr_right fun _ => and_congr_right fun _ => ?_)⟩
    rw [hhalf']
    constructor
    · exact fun short => ⟨mark, gap, hmark, hgap, short⟩
    · rintro ⟨mark', gap', hmark', hgap', short⟩
      cases hmark.symm.trans hmark'
      cases hgap.symm.trans hgap'
      exact short

/-- A balanced curve with an empty fee pool. -/
def drained : Curve where
  base := .ofNat 10000000000000000
  quote := .ofNat 10000000000000000
  sqrtK := .ofNat 10000000000000000
  peg := .ofNat 50000
  terminalQuote := .ofNat 10000000000000000
  intensity := .ofNat 100

theorem drained_tight :
    { drained with baseSpread := .ofNat 20496 }.halfSpread .long { price := .ofInt 500000000000 }
      .costBasis = .ok (.ofNat 20000) := by
  decide +kernel

theorem drained_loose :
    { drained with baseSpread := .ofNat 20498 }.halfSpread .long { price := .ofInt 500000000000 }
      .costBasis = .ok (.ofNat 19999) := by
  decide +kernel

/-- Both half spreads are pulled back to the target, and of the two 10249 falls short of it. -/
theorem drained_narrows_iff :
    (.ofNat 20496 : Unsigned 32).toNat ≤ (.ofNat 20498 : Unsigned 32).toNat ∧
    ∃ tight loose,
      { drained with baseSpread := .ofNat 20496 }.halfSpread .long { price := .ofInt 500000000000 }
        .costBasis = .ok tight ∧
      { drained with baseSpread := .ofNat 20498 }.halfSpread .long { price := .ofInt 500000000000 }
        .costBasis = .ok loose ∧
      loose.toNat < tight.toNat ∧ tight.toNat ≤ loose.toNat + 1 ∧
      tight.toNat = maxTargetSpread ∧
      (drained.growsExposure .long = true ∨ drained.feePool.toInt = 0) ∧
      ∃ mark gap, drained.markPrice = .ok mark ∧
        oracleMarkSpread mark (.ofInt 500000000000) = .ok gap ∧
        FallsShort ({ drained with baseSpread := .ofNat 20498 }.unskewedSpread .long
          { price := .ofInt 500000000000 } .costBasis gap) := by
  have le : (.ofNat 20496 : Unsigned 32).toNat ≤ (.ofNat 20498 : Unsigned 32).toNat := by decide
  obtain ⟨close, less_iff⟩ := halfSpread_narrows_iff le drained_tight drained_loose
  have less : (.ofNat 19999 : Amount).toNat < (.ofNat 20000 : Amount).toNat := by decide
  exact ⟨le, _, _, drained_tight, drained_loose, less, close, less_iff.1 less⟩

theorem not_halfSpread_monotone_baseSpread :
    ¬ ∀ (curve : Curve) (side : Side) (oracle : OracleReading) (policy : SpreadPolicy)
      (narrow wide : Unsigned 32) (tight loose : Amount), narrow.toNat ≤ wide.toNat →
      { curve with baseSpread := narrow }.halfSpread side oracle policy = .ok tight →
      { curve with baseSpread := wide }.halfSpread side oracle policy = .ok loose →
      tight.toNat ≤ loose.toNat := by
  intro monotone
  have too_far := monotone drained _ _ _ _ _ _ _ (by decide) drained_tight drained_loose
  exact absurd too_far (by decide)

end BaseSpread

end Curve

end PerpetualCurve
