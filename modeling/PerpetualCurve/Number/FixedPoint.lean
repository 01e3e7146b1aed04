import PerpetualCurve.Error

/-!
# Fixed-point arithmetic

Products of two amounts are carried in 192 or 256 digits and narrowed after the division. All
divisions of natural numbers round down.
-/

namespace PerpetualCurve

/-- The quotient `a / b`, rounded down, or the error `e` where `b` is zero. -/
def divide (a b : Nat) (e : PricingError) : Outcome Nat :=
  if b = 0 then .error e else .ok (a / b)

theorem divide_eq_ok_iff {a b q : Nat} {e : PricingError} :
    divide a b e = .ok q ↔ b ≠ 0 ∧ a / b = q := by
  unfold divide; split <;> simp_all

/-- `n`, carried in the representation `wide`, as an amount. -/
def narrow (wide : Representation) (n : Nat) : Outcome Amount :=
  Unsigned.checked n (.castFailed wide .unsigned128)

theorem narrow_eq_ok_iff {wide : Representation} {n : Nat} {a : Amount} :
    narrow wide n = .ok a ↔ a.toNat = n :=
  Unsigned.checked_eq_ok_iff

/-- An amount in the signed range. -/
def Unsigned.toSigned (a : Amount) : Outcome SignedAmount :=
  Signed.checked a.toNat (.castFailed .unsigned128 .signed128)

theorem Unsigned.toSigned_eq_ok_iff {a : Amount} {s : SignedAmount} :
    a.toSigned = .ok s ↔ s.toInt = a.toNat :=
  Signed.checked_eq_ok_iff

/-- A signed amount that is not negative, without its sign. -/
def Signed.toUnsigned (s : SignedAmount) : Outcome Amount :=
  if s.toInt < 0 then .error (.castFailed .signed128 .unsigned128)
  else Unsigned.checked s.toInt.toNat (.castFailed .signed128 .unsigned128)

theorem Signed.toUnsigned_eq_ok_iff {s : SignedAmount} {a : Amount} :
    s.toUnsigned = .ok a ↔ (a.toNat : Int) = s.toInt := by
  unfold Signed.toUnsigned
  split
  · simp only [reduceCtorEq, false_iff]; omega
  · rw [Unsigned.checked_eq_ok_iff]; omega

/-- The size of a signed amount. -/
def Signed.magnitude (s : SignedAmount) : Amount :=
  ⟨s.toInt.natAbs, by
    have h := s.neg_le_toInt
    have h' := s.toInt_lt
    simp only [Nat.reduceSub] at h h'
    omega⟩

/-- `a * b / c`, rounded down, with the product carried in 192 digits. -/
def mulDiv (a b c : Nat) : Outcome Amount := do
  let product : Unsigned 192 ← Unsigned.checked (a * b) (.overflow .mulDiv)
  narrow .unsigned192 (← divide product c (.divisionByZero .mulDiv))

/-- The square of an amount, in 256 digits. -/
def squareDepth (root : Amount) : Outcome (Unsigned 256) :=
  Unsigned.checked (root.toNat * root.toNat) (.overflow .depthSquared)

/-- The square root, rounded down. -/
def squareRoot (n : Unsigned 256) : Unsigned 256 :=
  ⟨n.toNat.sqrt, Nat.lt_of_le_of_lt (Nat.le_trans (Nat.le_mul_self _) (Nat.sqrt_le _)) n.toNat_lt⟩

end PerpetualCurve
