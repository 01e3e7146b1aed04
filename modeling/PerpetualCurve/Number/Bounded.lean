import PerpetualCurve.Number.Power

/-!
# Numbers of bounded width

A quantity of the curve is a whole number of a fixed width. `Unsigned bits` lies below `2 ^ bits`,
`Signed bits` between `-2 ^ (bits - 1)` and `2 ^ (bits - 1)`. Calculations run on `Nat` and `Int`,
where nothing is lost, and come back through `checked`, which answers the caller's error where the
result is too wide.
-/

namespace PerpetualCurve

/-- A whole number of at most `bits` binary digits. -/
@[ext] structure Unsigned (bits : Nat) where
  toNat : Nat
  toNat_lt : toNat < 2 ^ bits
  deriving DecidableEq

/-- A whole number that fits `bits` binary digits in two's complement. -/
@[ext] structure Signed (bits : Nat) where
  toInt : Int
  neg_le_toInt : -2 ^ (bits - 1) ≤ toInt
  toInt_lt : toInt < 2 ^ (bits - 1)
  deriving DecidableEq

attribute [coe] Unsigned.toNat Signed.toInt

instance {bits : Nat} : CoeOut (Unsigned bits) Nat := ⟨Unsigned.toNat⟩

instance {bits : Nat} : CoeOut (Signed bits) Int := ⟨Signed.toInt⟩

namespace Unsigned

variable {bits : Nat} {ε : Type}

/-- `n` as a number of `bits` digits. -/
def ofNat? (bits n : Nat) : Option (Unsigned bits) :=
  if h : n < 2 ^ bits then some ⟨n, h⟩ else none

/-- `n` as a number of `bits` digits, or the error `e` where it is too wide. -/
def checked (n : Nat) (e : ε) : Except ε (Unsigned bits) :=
  if h : n < 2 ^ bits then .ok ⟨n, h⟩ else .error e

/-- The difference `a - b`, or the error `e` where it is below zero. -/
def difference (a b : Unsigned bits) (e : ε) : Except ε (Unsigned bits) :=
  if b.toNat ≤ a.toNat then .ok ⟨a.toNat - b.toNat, Nat.lt_of_le_of_lt (Nat.sub_le _ _) a.toNat_lt⟩
  else .error e

instance : Zero (Unsigned bits) := ⟨⟨0, Nat.two_pow_pos bits⟩⟩

instance : Inhabited (Unsigned bits) := ⟨0⟩

theorem ofNat?_eq_some_iff {n : Nat} {u : Unsigned bits} :
    ofNat? bits n = some u ↔ u.toNat = n := by
  unfold ofNat?
  split
  · rw [Option.some.injEq, Unsigned.ext_iff]; exact eq_comm
  · rename_i h
    simp only [reduceCtorEq, false_iff]
    rintro rfl
    exact h u.toNat_lt

@[simp] theorem ofNat?_toNat (u : Unsigned bits) : ofNat? bits u.toNat = some u :=
  ofNat?_eq_some_iff.2 rfl

theorem checked_eq_ok_iff {n : Nat} {e : ε} {u : Unsigned bits} :
    checked n e = .ok u ↔ u.toNat = n := by
  unfold checked
  split
  · rw [Except.ok.injEq, Unsigned.ext_iff]; exact eq_comm
  · rename_i h
    simp only [reduceCtorEq, false_iff]
    rintro rfl
    exact h u.toNat_lt

theorem difference_eq_ok_iff {a b d : Unsigned bits} {e : ε} :
    a.difference b e = .ok d ↔ d.toNat + b.toNat = a.toNat := by
  unfold difference
  split
  · rw [Except.ok.injEq, Unsigned.ext_iff]
    show _ - _ = _ ↔ _
    omega
  · simp only [reduceCtorEq, false_iff]; omega

theorem checked_eq_error_iff {n : Nat} {e e' : ε} :
    (checked n e : Except ε (Unsigned bits)) = .error e' ↔ 2 ^ bits ≤ n ∧ e = e' := by
  unfold checked
  split
  · simp only [reduceCtorEq, false_iff, not_and]; omega
  · rename_i h
    rw [Except.error.injEq]
    exact ⟨fun he => ⟨Nat.le_of_not_lt h, he⟩, And.right⟩

end Unsigned

namespace Signed

variable {bits : Nat} {ε : Type}

/-- `i` as a number of `bits` digits, or the error `e` where it is too wide. -/
def checked (i : Int) (e : ε) : Except ε (Signed bits) :=
  if h : -2 ^ (bits - 1) ≤ i ∧ i < 2 ^ (bits - 1) then .ok ⟨i, h.1, h.2⟩ else .error e

/-- `i` as a number of `bits` digits. -/
def ofInt? (bits : Nat) (i : Int) : Option (Signed bits) :=
  if h : -2 ^ (bits - 1) ≤ i ∧ i < 2 ^ (bits - 1) then some ⟨i, h.1, h.2⟩ else none

/-- The quotient by a natural number, rounded toward zero. -/
def quotient (s : Signed bits) (n : Nat) : Signed bits :=
  have size := Int.natAbs_tdiv_le_natAbs s.toInt n
  have up : 0 ≤ s.toInt → 0 ≤ s.toInt.tdiv n := fun h => Int.tdiv_nonneg h (Int.natCast_nonneg n)
  have down : s.toInt ≤ 0 → s.toInt.tdiv n ≤ 0 := fun h => by
    have := Int.tdiv_nonneg (a := -s.toInt) (by omega) (Int.natCast_nonneg n)
    rw [Int.neg_tdiv] at this
    omega
  have low := s.neg_le_toInt
  have high := s.toInt_lt
  ⟨s.toInt.tdiv n, by omega, by omega⟩

instance : Zero (Signed bits) :=
  ⟨⟨0, by have := Int.pow_pos (n := 2) (m := bits - 1) (by decide); omega,
    Int.pow_pos (by decide)⟩⟩

instance : Inhabited (Signed bits) := ⟨0⟩

theorem checked_eq_ok_iff {i : Int} {e : ε} {s : Signed bits} :
    checked i e = .ok s ↔ s.toInt = i := by
  unfold checked
  split
  · rw [Except.ok.injEq, Signed.ext_iff]; exact eq_comm
  · rename_i h
    simp only [reduceCtorEq, false_iff]
    rintro rfl
    exact h ⟨s.neg_le_toInt, s.toInt_lt⟩

theorem ofInt?_eq_some_iff {i : Int} {s : Signed bits} : ofInt? bits i = some s ↔ s.toInt = i := by
  unfold ofInt?
  split
  · rw [Option.some.injEq, Signed.ext_iff]; exact eq_comm
  · rename_i h
    simp only [reduceCtorEq, false_iff]
    rintro rfl
    exact h ⟨s.neg_le_toInt, s.toInt_lt⟩

end Signed

@[simp] theorem Unsigned.toNat_zero {bits : Nat} : (0 : Unsigned bits).toNat = 0 := rfl

@[simp] theorem Signed.toInt_zero {bits : Nat} : (0 : Signed bits).toInt = 0 := rfl

/-- The width of reserves, prices, pegs and fees. -/
abbrev Amount := Unsigned 128

/-- The amount of one unit. -/
def Amount.one : Amount := ⟨1, by decide⟩

/-- The width of inventories, costs and signed differences. -/
abbrev SignedAmount := Signed 128

end PerpetualCurve
