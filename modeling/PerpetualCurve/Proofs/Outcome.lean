import PerpetualCurve.Number.FixedPoint

/-!
# Reading a result off its steps

A calculation chains steps each of which may fail. It has the result `b` exactly when every step
has a result and the last one is `b`; the lemmas below turn such an equation around, one
constructor of the chain at a time, and do the same for the fixed-point operations. On fixed
numbers such an equation is decidable.
-/

namespace PerpetualCurve

namespace Outcome

variable {ε α β : Type}

@[simp] theorem ok_bind (a : α) (f : α → Outcome β) : (Except.ok a : Outcome α) >>= f = f a := rfl

@[simp] theorem bind_eq_ok_iff {x : Except ε α} {f : α → Except ε β} {b : β} :
    x >>= f = .ok b ↔ ∃ a, x = .ok a ∧ f a = .ok b := by
  cases x with
  | error e => simp [bind, Except.bind]
  | ok a => simp [bind, Except.bind]

@[simp] theorem map_eq_ok_iff {f : α → β} {x : Outcome α} {b : β} :
    f <$> x = .ok b ↔ ∃ a, x = .ok a ∧ f a = b := by
  cases x with
  | error e => simp [Functor.map, Except.map]
  | ok a => simp [Functor.map, Except.map]

@[simp] theorem pure_eq_ok_iff {a b : α} : (pure a : Outcome α) = .ok b ↔ a = b := by
  simp [pure, Except.pure]

/-- A step that may have no value fails with its error where it has none. -/
@[simp] theorem getDM_eq_ok_iff {o : Option α} {e : ε} {a : α} :
    o.getDM (.error e : Except ε α) = .ok a ↔ o = some a := by
  cases o with
  | none => simp [Option.getDM]
  | some b => simp [Option.getDM, pure, Except.pure]

/-- A calculation that starts with a guard has a result only where the guard lets it pass. -/
theorem guarded_eq_ok_iff {p : Prop} [Decidable p] {e : PricingError} {f : α → Outcome β}
    {x : Outcome β} {b : β} : (if p then throw e >>= f else x) = .ok b ↔ ¬ p ∧ x = .ok b := by
  by_cases hp : p
  · simp [hp, throw, throwThe, MonadExceptOf.throw]
  · simp [hp]

end Outcome

theorem mulDiv_eq_ok_iff {a b c : Nat} {r : Amount} :
    mulDiv a b c = .ok r ↔ a * b < 2 ^ 192 ∧ c ≠ 0 ∧ r.toNat = a * b / c := by
  simp only [mulDiv, Outcome.bind_eq_ok_iff, Unsigned.checked_eq_ok_iff, divide_eq_ok_iff,
    narrow_eq_ok_iff]
  constructor
  · rintro ⟨product, hp, q, ⟨hc, rfl⟩, hr⟩
    exact ⟨hp ▸ product.toNat_lt, hc, by rw [hr, hp]⟩
  · rintro ⟨hp, hc, hr⟩
    exact ⟨⟨a * b, hp⟩, rfl, a * b / c, ⟨hc, rfl⟩, hr⟩

/-- Two amounts multiply without loss in 256 digits. -/
theorem Amount.mul_lt (a b : Amount) : a.toNat * b.toNat < 2 ^ 256 := by
  have := Nat.mul_lt_mul'' a.toNat_lt b.toNat_lt
  rwa [← Nat.pow_add] at this

theorem Amount.sq_lt (a : Amount) : a.toNat ^ 2 < 2 ^ 256 := by
  rw [Nat.pow_two]
  exact a.mul_lt a

theorem Unsigned.checked_of_lt {bits n : Nat} {ε : Type} (h : n < 2 ^ bits) (e : ε) :
    Unsigned.checked n e = .ok ⟨n, h⟩ :=
  Unsigned.checked_eq_ok_iff.2 rfl

theorem squareDepth_eq (root : Amount) :
    squareDepth root = .ok ⟨root.toNat ^ 2, root.sq_lt⟩ := by
  rw [squareDepth, Unsigned.checked_eq_ok_iff]
  exact Nat.pow_two _

/-- Whatever is between the bounds is a signed amount. -/
theorem SignedAmount.exists_toInt {i : Int} (low : -2 ^ 127 ≤ i) (high : i < 2 ^ 127) :
    ∃ s : SignedAmount, s.toInt = i :=
  ⟨⟨i, low, high⟩, rfl⟩

theorem Amount.exists_toNat {i : Int} (low : 0 ≤ i) (high : i < 2 ^ 128) :
    ∃ a : Amount, a.toNat = i :=
  ⟨⟨i.toNat, by omega⟩, Int.toNat_of_nonneg low⟩

/-- A signed amount without a sign is an amount. -/
theorem Signed.exists_toUnsigned {s : SignedAmount} (nonneg : 0 ≤ s.toInt) :
    ∃ a : Amount, s.toUnsigned = .ok a ∧ a.toNat = s.toInt := by
  have s_lt : s.toInt < 2 ^ 127 := s.toInt_lt
  obtain ⟨a, ha⟩ := Amount.exists_toNat nonneg (by omega)
  exact ⟨a, Signed.toUnsigned_eq_ok_iff.2 ha, ha⟩

@[simp] theorem Signed.toNat_magnitude (s : SignedAmount) :
    s.magnitude.toNat = s.toInt.natAbs := rfl

@[simp] theorem Signed.toInt_quotient {bits : Nat} (s : Signed bits) (n : Nat) :
    (s.quotient n).toInt = s.toInt.tdiv n := rfl

/-! ## Fixed numbers -/

/-- `n` as a number of `bits` digits, or zero where it is too wide. -/
def Unsigned.ofNat {bits : Nat} (n : Nat) : Unsigned bits := (ofNat? bits n).getD 0

/-- `i` as a number of `bits` digits, or zero where it is too wide. -/
def Signed.ofInt {bits : Nat} (i : Int) : Signed bits := (ofInt? bits i).getD 0

instance {α : Type} [DecidableEq α] (x : Outcome α) (a : α) : Decidable (x = .ok a) :=
  match x with
  | .error _ => .isFalse nofun
  | .ok b => decidable_of_iff (b = a) ⟨congrArg _, Except.ok.inj⟩

end PerpetualCurve
