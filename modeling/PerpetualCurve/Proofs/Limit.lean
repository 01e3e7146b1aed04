import Mathlib.Data.Nat.Sqrt
import Mathlib.Tactic.Linarith
import Mathlib.Tactic.Ring
import PerpetualCurve.Proofs.Quote
import PerpetualCurve.Quote.Size

/-!
# Trades up to a limit price

Without rounding, a curve has at least the price `limit` at the base reserve `n` exactly where
`n ^ 2 * limit` is within the invariant times the peg. A quotient and a square root are rounded down
on the way to the base reserve a trade ends on, and the two collapse to one: that reserve is the
largest one with this property.

For a sale it is the last one before the price falls below the limit. A purchase comes from the
other side. There the last reserve before the price rises above the limit is one unit more, unless
the root is exact, so a purchase crosses its limit by less than the price of one unit.
-/

namespace PerpetualCurve

section Root

variable {sqrtK peg limit finish : Amount}

theorem baseAtPrice_eq_ok (h : baseAtPrice sqrtK peg limit = .ok finish) :
    0 < limit.toNat ∧ finish.toNat =
      (sqrtK.toNat ^ 2 * Scale.price * peg.toNat / (limit.toNat * Scale.peg)).sqrt := by
  simp only [baseAtPrice, Outcome.bind_eq_ok_iff, Unsigned.checked_eq_ok_iff, divide_eq_ok_iff,
    narrow_eq_ok_iff] at h
  obtain ⟨invariant, hinvariant, scaled, hscaled, numerator, hnumerator, divisor, hdivisor, _,
    ⟨hne, rfl⟩, hroot⟩ := h
  cases (squareDepth_eq sqrtK).symm.trans hinvariant
  rw [hdivisor] at hne
  rw [hnumerator, hscaled, hdivisor] at hroot
  exact ⟨Nat.pos_of_ne_zero (Nat.ne_zero_of_mul_ne_zero_left hne), hroot⟩

/-- The base reserve at a price is the largest one that has this price or more. -/
theorem le_baseAtPrice_iff (h : baseAtPrice sqrtK peg limit = .ok finish) (n : Nat) :
    n ≤ finish.toNat ↔
      n ^ 2 * limit.toNat * Scale.peg ≤ sqrtK.toNat ^ 2 * Scale.price * peg.toNat := by
  obtain ⟨limit_pos, hfinish⟩ := baseAtPrice_eq_ok h
  have divisor_pos : 0 < limit.toNat * Scale.peg := Nat.mul_pos limit_pos (by decide)
  rw [hfinish, Nat.le_sqrt', Nat.le_div_iff_mul_le divisor_pos, ← Nat.mul_assoc]

theorem baseAtPrice_bracket (h : baseAtPrice sqrtK peg limit = .ok finish) :
    finish.toNat ^ 2 * limit.toNat * Scale.peg ≤ sqrtK.toNat ^ 2 * Scale.price * peg.toNat ∧
      sqrtK.toNat ^ 2 * Scale.price * peg.toNat <
        (finish.toNat + 1) ^ 2 * limit.toNat * Scale.peg := by
  rw [← Nat.not_le, ← le_baseAtPrice_iff h, ← le_baseAtPrice_iff h]
  exact ⟨Nat.le_refl _, Nat.not_succ_le_self _⟩

/-- The reserves above it have the price or less. It is one of these itself only where the root is
exact. -/
theorem baseAtPrice_reaches_iff (h : baseAtPrice sqrtK peg limit = .ok finish) (n : Nat) :
    sqrtK.toNat ^ 2 * Scale.price * peg.toNat ≤ n ^ 2 * limit.toNat * Scale.peg ↔
      finish.toNat < n ∨ n = finish.toNat ∧
        n ^ 2 * limit.toNat * Scale.peg = sqrtK.toNat ^ 2 * Scale.price * peg.toNat := by
  have within := le_baseAtPrice_iff h n
  rcases Nat.lt_trichotomy n finish.toNat with below | same | above
  · have squares : n ^ 2 < finish.toNat ^ 2 := Nat.pow_lt_pow_left below (by decide)
    have divisor_pos : 0 < limit.toNat * Scale.peg :=
      Nat.mul_pos (baseAtPrice_eq_ok h).1 (by decide)
    have scaled := Nat.mul_lt_mul_of_pos_right squares divisor_pos
    have at_finish := (baseAtPrice_bracket h).1
    rw [← Nat.mul_assoc, ← Nat.mul_assoc] at scaled
    refine iff_of_false (by omega) ?_
    rintro (past | ⟨same, -⟩) <;> omega
  · have at_most := within.1 (Nat.le_of_eq same)
    constructor
    · intro reached
      exact .inr ⟨same, Nat.le_antisymm at_most reached⟩
    · rintro (past | ⟨-, exact_root⟩)
      · omega
      · exact Nat.le_of_eq exact_root.symm
  · have past : ¬ n ≤ finish.toNat := by omega
    rw [within, Nat.not_le] at past
    exact iff_of_true (Nat.le_of_lt past) (.inl above)

end Root

/-- `trade` leads from the base reserve `start` to `finish`: a purchase takes base out of the curve
and a sale adds some. -/
def TradeSize.Leads (trade : TradeSize) (start finish : Amount) : Prop :=
  match trade.side with
  | .long => finish.toNat + trade.amount.toNat = start.toNat
  | .short => finish.toNat = start.toNat + trade.amount.toNat

variable {trade : TradeSize}

theorem TradeSize.leads_of_long {start finish : Amount} (h : trade.side = .long) :
    trade.Leads start finish ↔ finish.toNat + trade.amount.toNat = start.toNat := by
  simp only [Leads, h]

theorem TradeSize.leads_of_short {start finish : Amount} (h : trade.side = .short) :
    trade.Leads start finish ↔ finish.toNat = start.toNat + trade.amount.toNat := by
  simp only [Leads, h]

theorem tradeBetween_eq_ok_iff {start finish : Amount} :
    tradeBetween start finish = .ok trade ↔
      trade.Leads start finish ∧ (trade.side = .short ↔ start.toNat < finish.toNat) := by
  obtain ⟨amount, side⟩ := trade
  unfold tradeBetween TradeSize.Leads
  split
  case isTrue sale =>
    simp only [Outcome.bind_eq_ok_iff, Outcome.pure_eq_ok_iff, Unsigned.difference_eq_ok_iff,
      TradeSize.mk.injEq]
    cases side with
    | long => simp [sale]
    | short => simp [sale]; omega
  case isFalse no_sale =>
    split
    case isTrue purchase =>
      simp only [Outcome.bind_eq_ok_iff, Outcome.pure_eq_ok_iff, Unsigned.difference_eq_ok_iff,
        TradeSize.mk.injEq]
      cases side with
      | long => simp [no_sale]; omega
      | short => simp [no_sale]
    case isFalse same =>
      simp only [Outcome.pure_eq_ok_iff, TradeSize.mk.injEq, Unsigned.ext_iff,
        Unsigned.toNat_zero]
      cases side with
      | long => simp [no_sale]; omega
      | short => simp [no_sale]

namespace Curve

variable {curve : Curve} {side : Side} {oracle : Option OracleReading} {costs : CostModel}
  {policy : SpreadPolicy} {limit : Amount}

theorem maxTrade_eq_ok_iff :
    curve.maxTrade limit side oracle costs policy = .ok trade ↔
      limit.toNat ≠ 0 ∧ ∃ start finish, curve.tradeStart side oracle costs policy = .ok start ∧
        baseAtPrice start.sqrtK start.peg limit = .ok finish ∧
        trade.Leads start.base finish ∧
        (trade.side = .short ↔ start.base.toNat < finish.toNat) := by
  simp only [maxTrade, Outcome.guarded_eq_ok_iff, Outcome.bind_eq_ok_iff, tradeBetween_eq_ok_iff,
    exists_and_left, ne_eq]

end Curve

/-! ## Landing next to the limit -/

section Landing

variable {sqrtK peg limit finish quote price : Amount}

/-- The price of the reserves a trade ends on is above the limit by at most the step from the base
reserve to the next one. -/
theorem priceOf_le_limit (h : baseAtPrice sqrtK peg limit = .ok finish)
    (hpos : 0 < finish.toNat) (hquote : quote.toNat = sqrtK.toNat ^ 2 / finish.toNat)
    (hprice : priceOf finish quote peg = .ok price) :
    price.toNat * finish.toNat ^ 2 ≤ limit.toNat * (finish.toNat + 1) ^ 2 := by
  obtain ⟨empty, -⟩ | ⟨-, -, hfloor⟩ := priceOf_eq_ok_iff.1 hprice
  · omega
  have below : price.toNat * (Scale.peg * finish.toNat) ≤
      quote.toNat * Scale.price * peg.toNat := by
    rw [hfloor]
    exact Nat.div_mul_le_self _ _
  have within : quote.toNat * finish.toNat ≤ sqrtK.toNat ^ 2 := by
    rw [hquote]
    exact Nat.div_mul_le_self _ _
  have scaled : Scale.peg * (price.toNat * finish.toNat ^ 2) ≤
      Scale.peg * (limit.toNat * (finish.toNat + 1) ^ 2) := by
    calc Scale.peg * (price.toNat * finish.toNat ^ 2)
        = price.toNat * (Scale.peg * finish.toNat) * finish.toNat := by ring
      _ ≤ quote.toNat * Scale.price * peg.toNat * finish.toNat := Nat.mul_le_mul_right _ below
      _ = quote.toNat * finish.toNat * (Scale.price * peg.toNat) := by ring
      _ ≤ sqrtK.toNat ^ 2 * (Scale.price * peg.toNat) := Nat.mul_le_mul_right _ within
      _ = sqrtK.toNat ^ 2 * Scale.price * peg.toNat := (Nat.mul_assoc _ _ _).symm
      _ ≤ (finish.toNat + 1) ^ 2 * limit.toNat * Scale.peg :=
          Nat.le_of_lt (baseAtPrice_bracket h).2
      _ = Scale.peg * (limit.toNat * (finish.toNat + 1) ^ 2) := by ring
  exact Nat.le_of_mul_le_mul_left scaled (by decide)

/-- It is below the limit by at most one unit of price, and what one unit of quote is worth. -/
theorem limit_le_priceOf (h : baseAtPrice sqrtK peg limit = .ok finish)
    (hpos : 0 < finish.toNat) (hquote : quote.toNat = sqrtK.toNat ^ 2 / finish.toNat)
    (hprice : priceOf finish quote peg = .ok price) :
    limit.toNat * finish.toNat * Scale.peg ≤
      (price.toNat + 1) * finish.toNat * Scale.peg + Scale.price * peg.toNat := by
  obtain ⟨empty, -⟩ | ⟨-, -, hfloor⟩ := priceOf_eq_ok_iff.1 hprice
  · omega
  have above : quote.toNat * Scale.price * peg.toNat ≤
      (price.toNat + 1) * finish.toNat * Scale.peg := by
    have divisor_pos : 0 < Scale.peg * finish.toNat := Nat.mul_pos (by decide) hpos
    have cut := Nat.lt_mul_div_succ (quote.toNat * Scale.price * peg.toNat) divisor_pos
    rw [← hfloor] at cut
    linarith
  have covered : sqrtK.toNat ^ 2 ≤ finish.toNat * (quote.toNat + 1) := by
    rw [hquote]
    exact Nat.le_of_lt (Nat.lt_mul_div_succ _ hpos)
  have scaled : finish.toNat * (limit.toNat * finish.toNat * Scale.peg) ≤
      finish.toNat * ((price.toNat + 1) * finish.toNat * Scale.peg + Scale.price * peg.toNat) := by
    calc finish.toNat * (limit.toNat * finish.toNat * Scale.peg)
        = finish.toNat ^ 2 * limit.toNat * Scale.peg := by ring
      _ ≤ sqrtK.toNat ^ 2 * Scale.price * peg.toNat := (baseAtPrice_bracket h).1
      _ = sqrtK.toNat ^ 2 * (Scale.price * peg.toNat) := Nat.mul_assoc _ _ _
      _ ≤ finish.toNat * (quote.toNat + 1) * (Scale.price * peg.toNat) :=
          Nat.mul_le_mul_right _ covered
      _ = finish.toNat * (quote.toNat * Scale.price * peg.toNat + Scale.price * peg.toNat) := by
          ring
      _ ≤ finish.toNat *
            ((price.toNat + 1) * finish.toNat * Scale.peg + Scale.price * peg.toNat) :=
          Nat.mul_le_mul_left _ (Nat.add_le_add_right above _)
  exact Nat.le_of_mul_le_mul_left scaled hpos

end Landing

namespace Curve

variable {curve : Curve} {side : Side} {oracle : Option OracleReading} {costs : CostModel}
  {policy : SpreadPolicy} {limit : Amount}

/-- A trade up to a limit ends on the largest base reserve that still has the limit price, on the
side where that reserve lies. The price there, rounded twice more, is next to the limit. -/
theorem maxTrade_lands (h : curve.maxTrade limit side oracle costs policy = .ok trade) :
    ∃ start finish, curve.tradeStart side oracle costs policy = .ok start ∧
      trade.Leads start.base finish ∧
      finish.toNat ^ 2 * limit.toNat * Scale.peg ≤
        start.sqrtK.toNat ^ 2 * Scale.price * start.peg.toNat ∧
      start.sqrtK.toNat ^ 2 * Scale.price * start.peg.toNat <
        (finish.toNat + 1) ^ 2 * limit.toNat * Scale.peg ∧
      (trade.side = .short ↔ start.base.toNat < finish.toNat) ∧
      (trade.amount.toNat = 0 → trade.side = .long) ∧
      ∀ quote price, 0 < finish.toNat →
        quote.toNat = start.sqrtK.toNat ^ 2 / finish.toNat →
        priceOf finish quote start.peg = .ok price →
        price.toNat * finish.toNat ^ 2 ≤ limit.toNat * (finish.toNat + 1) ^ 2 ∧
          limit.toNat * finish.toNat * Scale.peg ≤
            (price.toNat + 1) * finish.toNat * Scale.peg + Scale.price * start.peg.toNat := by
  obtain ⟨-, start, finish, hstart, hfinish, leads, sale⟩ := maxTrade_eq_ok_iff.1 h
  obtain ⟨low, high⟩ := baseAtPrice_bracket hfinish
  refine ⟨start, finish, hstart, leads, low, high, sale, ?_, ?_⟩
  · intro nothing
    cases hside : trade.side with
    | long => rfl
    | short =>
      have moved := sale.1 hside
      rw [TradeSize.leads_of_short hside] at leads
      omega
  · intro quote price hpos hquote hprice
    exact ⟨priceOf_le_limit hfinish hpos hquote hprice,
      limit_le_priceOf hfinish hpos hquote hprice⟩

/-- The ask of `uneven`, repegged, and the purchase that takes its price from 551.5 up to 600. -/
theorem uneven_maxTrade_lands :
    uneven.maxTrade (.ofNat 600000000000) .long (some { price := .ofInt 551234567891 })
      .constantProduct .costBasis = .ok { amount := .ofNat 412519715125177, side := .long } ∧
    ∃ finish : Amount,
      finish.toNat + 412519715125177 = 9997490589711425 ∧
      finish.toNat ^ 2 * 600000000000 * Scale.peg ≤
        10000000000000000 ^ 2 * Scale.price * 55123 ∧
      10000000000000000 ^ 2 * Scale.price * 55123 <
        (finish.toNat + 1) ^ 2 * 600000000000 * Scale.peg ∧
      ∃ quote price : Amount, 0 < finish.toNat ∧
        quote.toNat = 10000000000000000 ^ 2 / finish.toNat ∧
        priceOf finish quote (.ofNat 55123) = .ok price ∧
        price.toNat * finish.toNat ^ 2 ≤ 600000000000 * (finish.toNat + 1) ^ 2 ∧
        600000000000 * finish.toNat * Scale.peg ≤
          (price.toNat + 1) * finish.toNat * Scale.peg + Scale.price * 55123 := by
  have sized : uneven.maxTrade (.ofNat 600000000000) .long (some { price := .ofInt 551234567891 })
      .constantProduct .costBasis = .ok { amount := .ofNat 412519715125177, side := .long } := by
    decide +kernel
  have started : uneven.tradeStart .long (some { price := .ofInt 551234567891 })
      .constantProduct .costBasis =
        .ok { base := .ofNat 9997490589711425, sqrtK := .ofNat 10000000000000000,
              peg := .ofNat 55123 } := by
    decide +kernel
  have priced : priceOf (.ofNat 9584970874586248) (.ofNat 10432999881631531) (.ofNat 55123) =
      .ok (.ofNat 600000000000) := by
    decide +kernel
  obtain ⟨start, finish, hstart, leads, low, high, -, -, prices⟩ := maxTrade_lands sized
  cases started.symm.trans hstart
  rw [TradeSize.leads_of_long rfl] at leads
  have hfinish : finish = .ofNat 9584970874586248 := by
    apply Unsigned.ext
    change finish.toNat + 412519715125177 = 9997490589711425 at leads
    show finish.toNat = 9584970874586248
    omega
  subst hfinish
  obtain ⟨above, below⟩ := prices _ _ (by decide) (by decide +kernel) priced
  exact ⟨sized, _, leads, low, high, _, _, by decide, by decide +kernel, priced, above, below⟩

/-! ## Keeping the limit -/

/-- The sales that keep the limit are those of up to the whole amount. Of the purchases those of
less than the whole amount keep it; the whole amount does only where it meets the limit exactly. -/
theorem maxTrade_keeps_limit_iff (h : curve.maxTrade limit side oracle costs policy = .ok trade) :
    ∃ start, curve.tradeStart side oracle costs policy = .ok start ∧
      (trade.side = .short → ∀ amount,
        (start.base.toNat + amount) ^ 2 * limit.toNat * Scale.peg ≤
            start.sqrtK.toNat ^ 2 * Scale.price * start.peg.toNat ↔
          amount ≤ trade.amount.toNat) ∧
      (trade.side = .long → trade.amount.toNat ≤ start.base.toNat ∧
        ∀ amount, amount ≤ start.base.toNat →
          (start.sqrtK.toNat ^ 2 * Scale.price * start.peg.toNat ≤
              (start.base.toNat - amount) ^ 2 * limit.toNat * Scale.peg ↔
            amount < trade.amount.toNat ∨ amount = trade.amount.toNat ∧
              (start.base.toNat - amount) ^ 2 * limit.toNat * Scale.peg =
                start.sqrtK.toNat ^ 2 * Scale.price * start.peg.toNat)) := by
  obtain ⟨-, start, finish, hstart, hfinish, leads, -⟩ := maxTrade_eq_ok_iff.1 h
  refine ⟨start, hstart, ?_, ?_⟩
  · intro short amount
    rw [TradeSize.leads_of_short short] at leads
    rw [← le_baseAtPrice_iff hfinish]
    omega
  · intro long
    rw [TradeSize.leads_of_long long] at leads
    refine ⟨by omega, ?_⟩
    intro amount le_base
    have less : finish.toNat < start.base.toNat - amount ↔ amount < trade.amount.toNat := by omega
    have same : start.base.toNat - amount = finish.toNat ↔ amount = trade.amount.toNat := by omega
    rw [baseAtPrice_reaches_iff hfinish, less, same]

/-- A balanced curve at the price 50, without a spread. -/
def evenPool : Curve where
  base := .ofNat 10000000000000000
  quote := .ofNat 10000000000000000
  sqrtK := .ofNat 10000000000000000
  peg := .ofNat 50000
  terminalQuote := .ofNat 10000000000000000

theorem evenPool_tradeStart :
    evenPool.tradeStart .long none .constantProduct .costBasis =
      .ok { base := .ofNat 10000000000000000, sqrtK := .ofNat 10000000000000000,
            peg := .ofNat 50000 } := by
  decide +kernel

theorem evenPool_purchase :
    evenPool.maxTrade (.ofNat 600000000000) .long none .constantProduct .costBasis =
      .ok { amount := .ofNat 871290708247232, side := .long } := by
  decide +kernel

/-- Down to the price 40 `evenPool` takes the whole amount, and up to the price 60 it sells one unit
less than the whole amount. -/
theorem evenPool_keeps_limit :
    evenPool.maxTrade (.ofNat 400000000000) .long none .constantProduct .costBasis =
      .ok { amount := .ofNat 1180339887498948, side := .short } ∧
    (10000000000000000 + 1180339887498948) ^ 2 * 400000000000 * Scale.peg ≤
      10000000000000000 ^ 2 * Scale.price * 50000 ∧
    evenPool.maxTrade (.ofNat 600000000000) .long none .constantProduct .costBasis =
      .ok { amount := .ofNat 871290708247232, side := .long } ∧
    10000000000000000 ^ 2 * Scale.price * 50000 ≤
      (10000000000000000 - 871290708247231) ^ 2 * 600000000000 * Scale.peg := by
  have sold : evenPool.maxTrade (.ofNat 400000000000) .long none .constantProduct .costBasis =
      .ok { amount := .ofNat 1180339887498948, side := .short } := by
    decide +kernel
  obtain ⟨start, hstart, sales, -⟩ := maxTrade_keeps_limit_iff sold
  cases evenPool_tradeStart.symm.trans hstart
  obtain ⟨start, hstart, -, purchases⟩ := maxTrade_keeps_limit_iff evenPool_purchase
  cases evenPool_tradeStart.symm.trans hstart
  obtain ⟨-, keeps⟩ := purchases rfl
  exact ⟨sold, (sales rfl 1180339887498948).2 (by decide), evenPool_purchase,
    (keeps 871290708247231 (by decide)).2 (.inl (by decide))⟩

/-- The purchase from `evenPool` up to the price 60 ends above it. -/
theorem not_purchase_keeps_limit :
    ¬ ∀ (curve : Curve) (limit : Amount) (side : Side) (oracle : Option OracleReading)
        (costs : CostModel) (policy : SpreadPolicy) (trade : TradeSize) (start : TradeStart),
      curve.maxTrade limit side oracle costs policy = .ok trade →
      curve.tradeStart side oracle costs policy = .ok start →
      0 < trade.amount.toNat → trade.side = .long →
      start.sqrtK.toNat ^ 2 * Scale.price * start.peg.toNat ≤
        (start.base.toNat - trade.amount.toNat) ^ 2 * limit.toNat * Scale.peg := by
  intro keeps
  have too_far := keeps _ _ _ _ _ _ _ _ evenPool_purchase evenPool_tradeStart (by decide) rfl
  exact absurd too_far (by decide)

end Curve

end PerpetualCurve
