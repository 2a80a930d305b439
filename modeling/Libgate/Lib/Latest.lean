import Mathlib.Data.List.AList

/-! The latest item of a sequence with a property. A table that is filled from
a sequence keeps, for each key, the latest item with that key. -/

namespace Libgate.Lib

variable {α κ ν : Type}

section Latest
variable (p : α → Prop) [DecidablePred p]

/-- The last item with the property. -/
def latest (xs : List α) : Option α := xs.reverse.find? fun x => decide (p x)

@[simp] theorem latest_nil : latest p [] = none := rfl

theorem latest_append (xs ys : List α) : latest p (xs ++ ys) = (latest p ys).or (latest p xs) := by
  rw [latest, List.reverse_append, List.find?_append]
  rfl

theorem latest_cons (x : α) (xs : List α) :
    latest p (x :: xs) = (latest p xs).or (if p x then some x else none) := by
  rw [latest, List.reverse_cons, List.find?_append, List.find?_singleton]
  simp [latest]

variable {p} {x : α} {xs : List α}

theorem mem_of_latest (h : latest p xs = some x) : x ∈ xs :=
  List.mem_reverse.mp (List.mem_of_find?_eq_some h)

theorem of_latest (h : latest p xs = some x) : p x :=
  of_decide_eq_true (List.find?_some (p := fun x => decide (p x)) h)

theorem latest_eq_none : latest p xs = none ↔ ∀ x ∈ xs, ¬ p x := by
  simp [latest]

theorem exists_latest (hx : x ∈ xs) (hp : p x) : ∃ y, latest p xs = some y := by
  cases hy : latest p xs with
  | some y => exact ⟨y, rfl⟩
  | none => exact absurd hp (latest_eq_none.mp hy x hx)

theorem latest_congr {q : α → Prop} [DecidablePred q] (hpq : ∀ y, p y ↔ q y) (xs : List α) :
    latest p xs = latest q xs := by
  unfold latest
  congr 1
  funext y
  exact decide_eq_decide.mpr (hpq y)

/-- The latest item is also the latest with any stronger property it has. -/
theorem latest_of_imp {q : α → Prop} [DecidablePred q] (hqp : ∀ y, q y → p y)
    (h : latest p xs = some x) (hq : q x) : latest q xs = some x := by
  obtain ⟨_, later, earlier, hsplit, hlater⟩ := List.find?_eq_some_iff_append.mp h
  refine List.find?_eq_some_iff_append.mpr ⟨decide_eq_true hq, later, earlier, hsplit, ?_⟩
  intro y hy
  have hnot : ¬ p y := by simpa using hlater y hy
  simpa using fun hqy => hnot (hqp y hqy)

end Latest

/-- A table filled from `xs` has the latest item of each key, and what was there
before under a key that does not occur. -/
theorem lookup_foldl_insert [DecidableEq κ] (key : α → κ) (val : α → ν) (xs : List α)
    (t : AList fun _ : κ => ν) (k : κ) :
    (xs.foldl (fun t x => t.insert (key x) (val x)) t).lookup k =
      ((latest (fun x => key x = k) xs).map val).or (t.lookup k) := by
  induction xs generalizing t with
  | nil => rfl
  | cons x xs ih =>
    rw [List.foldl_cons, ih, latest_cons, Option.map_or, Option.or_assoc]
    congr 1
    by_cases hk : key x = k
    · subst hk
      simp
    · rw [AList.lookup_insert_ne (Ne.symm hk), if_neg hk]
      rfl

end Libgate.Lib
