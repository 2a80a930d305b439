import Mathlib.Data.List.Basic

/-! The items of a sequence that differ from the item right before them. Under
an equivalence it makes no difference whether an item is compared with the one
right before it or with the last one that differed. -/

namespace Libgate.Lib

variable {α : Type} (same : α → α → Bool)

/-- The items that differ from their predecessor, `last` before the first. -/
def changes : α → List α → List α
  | _, [] => []
  | last, x :: xs => if same last x then changes x xs else x :: changes x xs

@[simp] theorem changes_nil (last : α) : changes same last [] = [] := rfl

theorem changes_cons (last x : α) (xs : List α) :
    changes same last (x :: xs) =
      if same last x then changes same x xs else x :: changes same x xs := rfl

theorem changes_append (last : α) (xs ys : List α) :
    changes same last (xs ++ ys) =
      changes same last xs ++ changes same (xs.getLastD last) ys := by
  induction xs generalizing last with
  | nil => simp
  | cons x xs ih =>
    rw [List.cons_append, changes_cons, changes_cons, ih, List.getLastD_cons]
    split
    · rfl
    · rfl

variable {same}

/-- Predecessors that cannot be told apart leave the same changes. -/
theorem changes_congr (hsame : ∀ a b x, same a b = true → same a x = same b x) {a b : α}
    (hab : same a b = true) (xs : List α) : changes same a xs = changes same b xs := by
  cases xs with
  | nil => rfl
  | cons x xs => rw [changes_cons, changes_cons, hsame a b x hab]

end Libgate.Lib
