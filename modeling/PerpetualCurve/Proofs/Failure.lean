import PerpetualCurve.Proofs.Outcome

/-!
# Reading a failure off its steps

A calculation fails with the error of the first step that fails, after steps that all had a result.
The lemmas below turn such an equation around, one constructor of the chain at a time, and say of
each fixed-point operation what it fails for. An error that no step can raise is then refuted by
rewriting alone.
-/

namespace PerpetualCurve

namespace Outcome

variable {α β : Type} {e e' : PricingError}

@[simp] theorem bind_eq_error_iff {x : Outcome α} {f : α → Outcome β} :
    x >>= f = .error e ↔ x = .error e ∨ ∃ a, x = .ok a ∧ f a = .error e := by
  cases x with
  | error e' => simp [bind, Except.bind]
  | ok a => simp [bind, Except.bind]

@[simp] theorem map_eq_error_iff {f : α → β} {x : Outcome α} :
    f <$> x = .error e ↔ x = .error e := by
  cases x with
  | error e' => simp [Functor.map, Except.map]
  | ok a => simp [Functor.map, Except.map]

@[simp] theorem pure_ne_error {a : α} : (pure a : Outcome α) ≠ .error e := nofun

@[simp] theorem throw_bind {f : α → Outcome β} : (throw e : Outcome α) >>= f = .error e := rfl

/-- A calculation that starts with a guard fails at the guard or after it. -/
@[simp] theorem ite_error_eq_error_iff {p : Prop} [Decidable p] {x : Outcome α} :
    (if p then .error e else x) = .error e' ↔ p ∧ e = e' ∨ ¬ p ∧ x = .error e' := by
  by_cases hp : p <;> simp [hp]

end Outcome

section Steps

variable {bits : Nat} {ε : Type}

attribute [simp] Unsigned.checked_eq_error_iff

@[simp] theorem Unsigned.difference_eq_error_iff {a b : Unsigned bits} {e e' : ε} :
    a.difference b e = .error e' ↔ a.toNat < b.toNat ∧ e = e' := by
  unfold difference
  split
  · simp only [reduceCtorEq, false_iff, not_and]; omega
  · rename_i h
    rw [Except.error.injEq]
    exact ⟨fun he => ⟨Nat.lt_of_not_le h, he⟩, And.right⟩

@[simp] theorem Signed.checked_eq_error_iff {i : Int} {e e' : ε} :
    (checked i e : Except ε (Signed bits)) = .error e' ↔
      ¬ (-2 ^ (bits - 1) ≤ i ∧ i < 2 ^ (bits - 1)) ∧ e = e' := by
  unfold checked
  split
  case isTrue fits => simp [fits]
  case isFalse wide => simp [wide]

@[simp] theorem divide_eq_error_iff {a b : Nat} {e e' : PricingError} :
    divide a b e = .error e' ↔ b = 0 ∧ e = e' := by
  unfold divide; split <;> simp_all

@[simp] theorem narrow_eq_error_iff {wide : Representation} {n : Nat} {e : PricingError} :
    narrow wide n = .error e ↔ 2 ^ 128 ≤ n ∧ .castFailed wide .unsigned128 = e :=
  Unsigned.checked_eq_error_iff

@[simp] theorem Unsigned.toSigned_eq_error_iff {a : Amount} {e : PricingError} :
    a.toSigned = .error e ↔ 2 ^ 127 ≤ a.toNat ∧ .castFailed .unsigned128 .signed128 = e := by
  rw [toSigned, Signed.checked_eq_error_iff]
  apply and_congr_left
  intro _
  simp only [Nat.reduceSub]
  omega

@[simp] theorem Signed.toUnsigned_eq_error_iff {s : SignedAmount} {e : PricingError} :
    s.toUnsigned = .error e ↔ s.toInt < 0 ∧ .castFailed .signed128 .unsigned128 = e := by
  have s_lt : s.toInt < 2 ^ 127 := s.toInt_lt
  unfold toUnsigned
  split
  case isTrue negative => simp [negative]
  case isFalse nonneg =>
    rw [Unsigned.checked_eq_error_iff]
    apply and_congr_left
    intro _
    omega

end Steps

end PerpetualCurve
