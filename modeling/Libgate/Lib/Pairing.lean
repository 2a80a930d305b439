import Mathlib.Data.PEquiv

/-! Adding one pair to a partial bijection. The pair may be there already; it
may not take a partner away from either side. -/

namespace Libgate.Lib

variable {α β : Type} [DecidableEq α] [DecidableEq β]

/-- `a` and `b` have no partner but each other. -/
def Pairable (f : α ≃. β) (a : α) (b : β) : Prop :=
  (∀ b', f a = some b' → b' = b) ∧ ∀ a', f.symm b = some a' → a' = a

/-- The partial bijection with `a` and `b` paired. -/
def pair (f : α ≃. β) (a : α) (b : β) (h : Pairable f a b) : α ≃. β where
  toFun x := if x = a then some b else f x
  invFun y := if y = b then some a else f.symm y
  inv x y := by
    obtain ⟨ha, hb⟩ := h
    by_cases hx : x = a <;> by_cases hy : y = b
    · simp [hx, hy]
    · simp only [hx, hy, if_true, if_false, f.eq_some_iff, Option.some.injEq]
      exact ⟨fun he => absurd (ha y he) hy, fun he => absurd he.symm hy⟩
    · simp only [hx, hy, if_true, if_false, Option.some.injEq]
      exact ⟨fun he => absurd he.symm hx, fun he => absurd (hb x (f.eq_some_iff.mpr he)) hx⟩
    · simpa [hx, hy] using f.eq_some_iff

theorem pair_apply (f : α ≃. β) (a : α) (b : β) (h : Pairable f a b) (x : α) :
    pair f a b h x = if x = a then some b else f x := rfl

theorem pair_symm_apply (f : α ≃. β) (a : α) (b : β) (h : Pairable f a b) (y : β) :
    (pair f a b h).symm y = if y = b then some a else f.symm y := rfl

end Libgate.Lib
