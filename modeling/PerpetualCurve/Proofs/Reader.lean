import Mathlib.Data.List.TakeWhile
import PerpetualCurve.Text.Reader

/-!
# What readers yield

A property of what a reader reads, whatever the text: it passes from the parts of a reader to the
reader they make up.
-/

namespace PerpetualCurve.Text.Reader

variable {α β : Type} {P : α → Prop} {Q : β → Prop} {s rest : List Char}

theorem bind_eq_some_iff {x : Reader α} {f : α → Reader β} {b : β} :
    (x >>= f) s = some (b, rest) ↔ ∃ a mid, x s = some (a, mid) ∧ f a mid = some (b, rest) := by
  show (x s).bind (fun p => f p.1 p.2) = _ ↔ _
  rw [Option.bind_eq_some_iff, Prod.exists]

theorem pure_eq_some_iff {a b : α} :
    (pure a : Reader α) s = some (b, rest) ↔ a = b ∧ s = rest := by
  show some (a, s) = _ ↔ _
  rw [Option.some.injEq, Prod.mk.injEq]

theorem orElse_eq_some_iff {x y : Reader α} {a : α} :
    (x <|> y) s = some (a, rest) ↔
      x s = some (a, rest) ∨ x s = none ∧ y s = some (a, rest) := by
  show (x s).orElse (fun _ => y s) = _ ↔ _
  cases x s <;> simp

/-- A run may be the whole text. -/
theorem run_of_all {p : Char → Bool} {cs : List Char} (nonempty : cs ≠ []) (all : ∀ c ∈ cs, p c) :
    run p cs = some (cs, []) := by
  refine bind_eq_some_iff.2 ⟨cs, [], ?_, ?_⟩
  · show some (cs.takeWhile p, cs.dropWhile p) = _
    rw [List.takeWhile_eq_self_iff.2 all, List.dropWhile_eq_nil_iff.2 all]
  · refine bind_eq_some_iff.2 ⟨(), [], ?_, rfl⟩
    show (if !cs.isEmpty then pure () else Alternative.failure : Reader Unit) [] = _
    rw [if_pos (by simpa using nonempty)]
    rfl

/-- Whether everything that a reader reads has a property. -/
def Yields (P : α → Prop) (reader : Reader α) : Prop :=
  ∀ s a rest, reader s = some (a, rest) → P a

namespace Yields

theorem mono {P' : α → Prop} {x : Reader α} (h : Yields P x) (imp : ∀ a, P a → P' a) :
    Yields P' x := fun s a rest read => imp a (h s a rest read)

theorem pure {a : α} (h : P a) : Yields P (Pure.pure a) := by
  intro s b rest read
  obtain ⟨rfl, -⟩ := pure_eq_some_iff.1 read
  exact h

theorem failure : Yields P (Alternative.failure : Reader α) := by
  intro s a rest read
  cases read

theorem bind {x : Reader α} {f : α → Reader β} (hx : Yields P x) (hf : ∀ a, P a → Yields Q (f a)) :
    Yields Q (x >>= f) := by
  intro s b rest read
  obtain ⟨a, mid, readX, readF⟩ := bind_eq_some_iff.1 read
  exact hf a (hx s a mid readX) mid b rest readF

/-- A part of which nothing is asked. -/
theorem bind_any {x : Reader α} {f : α → Reader β} (hf : ∀ a, Yields Q (f a)) :
    Yields Q (x >>= f) :=
  bind (fun _ _ _ _ => trivial : Yields (fun _ => True) x) fun a _ => hf a

theorem orElse {x y : Reader α} (hx : Yields P x) (hy : Yields P y) : Yields P (x <|> y) := by
  intro s a rest read
  rcases orElse_eq_some_iff.1 read with read | ⟨-, read⟩
  · exact hx s a rest read
  · exact hy s a rest read

theorem seqLeft {x : Reader α} {y : Reader β} (hx : Yields P x) : Yields P (x <* y) :=
  bind hx fun _ ha => bind_any fun _ => .pure ha

theorem seqRight {x : Reader α} {y : Reader β} (hy : Yields Q y) : Yields Q (x *> y) :=
  bind_any fun _ => hy

theorem lift {o : Option α} (h : ∀ a ∈ o, P a) : Yields P (StateT.lift o : Reader α) := by
  intro s a rest read
  obtain ⟨b, ho, same⟩ := Option.bind_eq_some_iff.1 read
  cases same
  exact h a ho

theorem maybe {x : Reader α} (hx : Yields P x) : Yields (fun o => ∀ a ∈ o, P a) (maybe x) := by
  intro s o rest read
  unfold Reader.maybe at read
  split at read
  case h_1 a mid readX =>
    cases read
    rintro _ ⟨⟩
    exact hx s a rest readX
  case h_2 =>
    cases read
    nofun

theorem many {x : Reader α} (hx : Yields P x) : Yields (fun as => ∀ a ∈ as, P a) (many x) := by
  intro s as rest read
  fun_induction Reader.many x s generalizing as rest with
  | case1 => cases read; nofun
  | case2 s a mid readX shorter ih =>
    obtain ⟨⟨items, left⟩, readItems, same⟩ := Option.map_eq_some_iff.1 read
    cases same
    intro item listed
    rcases List.mem_cons.1 listed with rfl | listed
    · exact hx s item mid readX
    · exact ih _ _ readItems item listed
  | case3 => cases read; nofun

end Yields

end PerpetualCurve.Text.Reader
