import Mathlib.Logic.Function.Basic
import Mathlib.Data.List.Basic

/-! Flat memory as a total function from addresses to cells. A block of cells
is written with `store` and read back with `load`. Cells outside a written
block keep whatever was there before, so a reader that runs past a block sees
the stale contents behind it and not a default value. -/

namespace Libgate.Lib.Memory

variable {α : Type}

/-- Overwrite the cells from `p` on with the list `xs`. -/
def store (m : Nat → α) (p : Nat) (xs : List α) : Nat → α := fun i =>
  if i < p then m i else (xs[i - p]?).getD (m i)

/-- The `n` cells from `p` on. -/
def load (m : Nat → α) (p n : Nat) : List α := (List.range' p n).map m

@[simp] theorem store_nil (m : Nat → α) (p : Nat) : store m p [] = m := by
  funext i; simp [store]

theorem store_lt {m : Nat → α} {p i : Nat} {xs : List α} (h : i < p) :
    store m p xs i = m i := by simp [store, h]

theorem store_ge {m : Nat → α} {p i : Nat} {xs : List α} (h : p + xs.length ≤ i) :
    store m p xs i = m i := by
  have hn : xs[i - p]? = none := List.getElem?_eq_none (by omega)
  simp [store, hn]

theorem store_in {m : Nat → α} {p i : Nat} {xs : List α} (h : i < xs.length) :
    store m p xs (p + i) = xs[i] := by
  simp [store, List.getElem?_eq_getElem h, show ¬ p + i < p by omega]

theorem store_cons (m : Nat → α) (p : Nat) (x : α) (xs : List α) :
    store m p (x :: xs) = store (Function.update m p x) (p + 1) xs := by
  funext i
  rcases Nat.lt_trichotomy i p with h | rfl | h
  · rw [store_lt h, store_lt (by omega), Function.update_of_ne (by omega)]
  · simp [store]
  · have hi : i - p = i - (p + 1) + 1 := by omega
    have hu : Function.update m p x i = m i := Function.update_of_ne (by omega) ..
    simp [store, hu, hi, show ¬ i < p by omega, show ¬ i < p + 1 by omega]

theorem store_append (m : Nat → α) (p : Nat) (xs ys : List α) :
    store m p (xs ++ ys) = store (store m p xs) (p + xs.length) ys := by
  induction xs generalizing m p with
  | nil => simp
  | cons x xs ih =>
    rw [List.cons_append, store_cons, ih, store_cons, List.length_cons]
    congr 1; omega

/-- A later block that covers an earlier one hides it. -/
theorem store_store_of_le (m : Nat → α) (p : Nat) {xs ys : List α}
    (h : xs.length ≤ ys.length) : store (store m p xs) p ys = store m p ys := by
  funext i
  rcases Nat.lt_or_ge i p with hi | hi
  · rw [store_lt hi, store_lt hi, store_lt hi]
  · rcases Nat.lt_or_ge i (p + ys.length) with hj | hj
    · obtain ⟨k, rfl⟩ := Nat.exists_eq_add_of_le hi
      rw [store_in (by omega), store_in (by omega)]
    · rw [store_ge hj, store_ge hj, store_ge (by omega)]

/-- A later block that covers just the front of an earlier one. -/
theorem store_store_front (m : Nat → α) (p : Nat) {xs zs : List α} (ys : List α)
    (h : xs.length = zs.length) :
    store (store m p (xs ++ ys)) p zs = store m p (zs ++ ys) := by
  funext i
  rcases Nat.lt_or_ge i p with hi | hi
  · rw [store_lt hi, store_lt hi, store_lt hi]
  obtain ⟨k, rfl⟩ := Nat.exists_eq_add_of_le hi
  rcases Nat.lt_or_ge k zs.length with hk | hk
  · rw [store_in hk, store_in (by rw [List.length_append]; omega), List.getElem_append_left hk]
  · have hfront : xs.length ≤ k := h ▸ hk
    rw [store_ge (Nat.add_le_add_left hk p)]
    unfold store
    rw [Nat.add_sub_cancel_left, List.getElem?_append_right hk,
      List.getElem?_append_right hfront, h]

@[simp] theorem load_zero (m : Nat → α) (p : Nat) : load m p 0 = [] := rfl

theorem load_succ (m : Nat → α) (p n : Nat) :
    load m p (n + 1) = m p :: load m (p + 1) n := by simp [load, List.range'_succ]

@[simp] theorem length_load (m : Nat → α) (p n : Nat) : (load m p n).length = n := by
  simp [load]

theorem getElem_load {m : Nat → α} {p n i : Nat} (h : i < (load m p n).length) :
    (load m p n)[i] = m (p + i) := by simp [load]

theorem load_append (m : Nat → α) (p a b : Nat) :
    load m p (a + b) = load m p a ++ load m (p + a) b := by
  simp only [load, ← List.map_append]
  rw [show List.range' p (a + b) = List.range' p a ++ List.range' (p + a) b by
    simp [List.range'_append_1]]

theorem load_congr {m m' : Nat → α} {p n : Nat} (h : ∀ i < n, m (p + i) = m' (p + i)) :
    load m p n = load m' p n := by
  apply List.ext_getElem (by simp)
  intro i hi _
  simpa [getElem_load] using h i (by simpa using hi)

/-- A stored block is still there under any prefix of it. -/
theorem load_store_append (m : Nat → α) (p : Nat) (xs ys : List α) :
    load (store m p (xs ++ ys)) p xs.length = xs := by
  apply List.ext_getElem (by simp)
  intro i hi hx
  rw [getElem_load, store_in (by simp; omega), List.getElem_append_left hx]

theorem load_store_of_le {m : Nat → α} {p q n : Nat} {xs : List α} (h : p + n ≤ q) :
    load (store m q xs) p n = load m p n :=
  load_congr fun i hi => store_lt (by omega)

/-- A block does not see what is written beside it. -/
theorem load_store_beside {m : Nat → α} {p q n : Nat} {xs : List α}
    (h : p + n ≤ q ∨ q + xs.length ≤ p) : load (store m q xs) p n = load m p n := by
  rcases h with hbelow | habove
  · exact load_store_of_le hbelow
  · exact load_congr fun i _ => store_ge (by omega)

/-! Several blocks, each with its place, the first one first. -/

def storeAll (m : Nat → α) (ws : List (Nat × List α)) : Nat → α :=
  ws.foldl (fun m w => store m w.1 w.2) m

theorem storeAll_append (m : Nat → α) (ws ws' : List (Nat × List α)) :
    storeAll m (ws ++ ws') = storeAll (storeAll m ws) ws' := List.foldl_append ..

theorem load_storeAll_beside {m : Nat → α} {p n : Nat} {ws : List (Nat × List α)}
    (h : ∀ w ∈ ws, p + n ≤ w.1 ∨ w.1 + w.2.length ≤ p) :
    load (storeAll m ws) p n = load m p n := by
  induction ws generalizing m with
  | nil => rfl
  | cons w ws ih =>
    have hrest : load (storeAll (store m w.1 w.2) ws) p n = load (store m w.1 w.2) p n :=
      ih fun w' hw' => h w' (List.mem_cons_of_mem _ hw')
    exact hrest.trans (load_store_beside (h w List.mem_cons_self))

/-- A block is there if nothing after it was written on it. -/
theorem load_storeAll_last (m : Nat → α) {p : Nat} {xs : List α} (ws : List (Nat × List α))
    {ws' : List (Nat × List α)} (h : ∀ w ∈ ws', p + xs.length ≤ w.1 ∨ w.1 + w.2.length ≤ p) :
    load (storeAll m (ws ++ (p, xs) :: ws')) p xs.length = xs := by
  have hown := load_store_append (storeAll m ws) p xs []
  rw [List.append_nil] at hown
  rw [storeAll_append]
  exact (load_storeAll_beside h).trans hown

/-- A cell no block covers. -/
theorem storeAll_beside {m : Nat → α} {i : Nat} {ws : List (Nat × List α)}
    (h : ∀ w ∈ ws, i < w.1 ∨ w.1 + w.2.length ≤ i) : storeAll m ws i = m i := by
  have hload : load (storeAll m ws) i 1 = load m i 1 := by
    refine load_storeAll_beside ?_
    intro w hw
    exact (h w hw).imp_left Nat.succ_le_of_lt
  exact (List.cons.inj hload).1

theorem storeAll_congr {m m' : Nat → α} {i : Nat} (h : m i = m' i) (ws : List (Nat × List α)) :
    storeAll m ws i = storeAll m' ws i := by
  induction ws generalizing m m' with
  | nil => exact h
  | cons w ws ih =>
    refine @ih (store m w.1 w.2) (store m' w.1 w.2) ?_
    unfold store
    rw [h]

/-- For a cell only the blocks that may cover it count. -/
theorem storeAll_filter {m : Nat → α} {i : Nat} {near : Nat × List α → Bool}
    (h : ∀ w, near w = false → i < w.1 ∨ w.1 + w.2.length ≤ i) (ws : List (Nat × List α)) :
    storeAll m (ws.filter near) i = storeAll m ws i := by
  induction ws generalizing m with
  | nil => rfl
  | cons w ws ih =>
    cases hw : near w with
    | true =>
      rw [List.filter_cons_of_pos hw]
      exact ih
    | false =>
      have hcell : m i = store m w.1 w.2 i := (h w hw).elim (fun hlt => (store_lt hlt).symm)
        fun hge => (store_ge hge).symm
      rw [List.filter_cons_of_neg (Bool.not_eq_true _ ▸ hw), ih]
      exact storeAll_congr hcell ws

/-- A cell in the midst of equal ones. -/
theorem store_replicate {m : Nat → α} {p n i : Nat} {x : α} (hlo : p ≤ i) (hhi : i < p + n) :
    store m p (List.replicate n x) i = x := by
  obtain ⟨k, rfl⟩ := Nat.exists_eq_add_of_le hlo
  have hin : k < (List.replicate n x).length := by
    rw [List.length_replicate]
    omega
  rw [store_in hin, List.getElem_replicate]

end Libgate.Lib.Memory
