import Mathlib.Logic.Function.Iterate
import Mathlib.Data.List.Basic
import Mathlib.Data.List.Range
import Mathlib.Data.List.Nodup
import Mathlib.Data.Nat.ModEq

/-! Reading a ring of `M` cells in slots of `w` cells. A reader that advances by
some of the slots left, and by at least one while any is left, reads each of
them once and in ring order, and then stands still. -/

namespace Libgate.Lib.Ring

variable (M w : Nat)

/-- The `n` slots from position `p` on, round the ring. -/
def slots (p n : Nat) : List Nat := (List.range n).map fun i => (p + w * i) % M

/-- The way from `p` forward to `q`. -/
def dist (p q : Nat) : Nat := (q + M - p) % M

@[simp] theorem slots_zero (p : Nat) : slots M w p 0 = [] := rfl

@[simp] theorem length_slots (p n : Nat) : (slots M w p n).length = n := by simp [slots]

theorem slots_append (p n m : Nat) :
    slots M w p (n + m) = slots M w p n ++ slots M w ((p + w * n) % M) m := by
  simp only [slots, List.range_add, List.map_append, List.map_map]
  congr 1
  refine List.map_congr_left ?_
  intro i _
  rw [Function.comp_apply, Nat.mod_add_mod, Nat.mul_add, Nat.add_assoc]

variable {M w}

/-- Slots that fit into the ring are all different. -/
theorem slots_nodup {p n : Nat} (hw : 0 < w) (hn : w * n ≤ M) : (slots M w p n).Nodup := by
  refine List.Nodup.map_on ?_ List.nodup_range
  intro i hi j hj he
  have hi' := Nat.mul_lt_mul_of_pos_left (List.mem_range.mp hi) hw
  have hj' := Nat.mul_lt_mul_of_pos_left (List.mem_range.mp hj) hw
  have hmod : w * i ≡ w * j [MOD M] := Nat.ModEq.add_left_cancel' p he
  exact Nat.eq_of_mul_eq_mul_left hw (hmod.eq_of_lt_of_lt (by omega) (by omega))

theorem dist_lt {p q : Nat} (hM : 0 < M) : dist M p q < M := Nat.mod_lt _ hM

/-- The two ways of reaching forward: without and with the wrap. -/
theorem dist_eq {p q : Nat} (hp : p < M) (hq : q < M) :
    dist M p q = if p ≤ q then q - p else q + M - p := by
  unfold dist
  split
  · rw [show q + M - p = q - p + M by omega, Nat.add_mod_right, Nat.mod_eq_of_lt (by omega)]
  · exact Nat.mod_eq_of_lt (by omega)

theorem advance_eq {p k : Nat} (hp : p < M) (hk : k ≤ M) :
    (p + k) % M = if p + k < M then p + k else p + k - M := by
  split
  · next h => exact Nat.mod_eq_of_lt h
  · next h => rw [Nat.mod_eq_sub_mod (by omega), Nat.mod_eq_of_lt (by omega)]

/-- Advancing by part of the way leaves the rest of it. -/
theorem dist_advance {p q k : Nat} (hp : p < M) (hq : q < M) (hk : k ≤ dist M p q) :
    dist M ((p + k) % M) q = dist M p q - k := by
  have hM : 0 < M := by omega
  have hlt : dist M p q < M := dist_lt hM
  have hadv := advance_eq hp (k := k) (by omega)
  have hlt' := Nat.mod_lt (p + k) hM
  rw [dist_eq hlt' hq]
  rw [dist_eq hp hq] at hk ⊢
  by_cases hpq : p ≤ q
  · rw [if_pos hpq] at hk ⊢
    rw [hadv, if_pos (show p + k < M by omega), if_pos (by omega)]
    omega
  · rw [if_neg hpq] at hk ⊢
    rcases Nat.lt_or_ge (p + k) M with hw | hw
    · rw [hadv, if_pos hw, if_neg (by omega)]
      omega
    · rw [hadv, if_neg (show ¬ p + k < M by omega), if_pos (by omega)]
      omega

/-- A reader that takes between one slot and all of the slots left, while there
are any, reads exactly the slots left, makes progress until then, and reads
nothing afterwards. -/
theorem sweep {σ : Type} (step : σ → σ) {I : σ → Prop} (pos left : σ → Nat) (out : σ → List Nat)
    (hI : ∀ s, I s → I (step s))
    (hstep : ∀ s, I s → ∃ k ≤ left s, (left s ≠ 0 → k ≠ 0) ∧ left (step s) = left s - k ∧
      pos (step s) = (pos s + w * k) % M ∧ out (step s) = out s ++ slots M w (pos s) k)
    {s : σ} (hs : I s) :
    ∃ n, out (step^[n] s) = out s ++ slots M w (pos s) (left s) ∧
      (∀ k < n, out (step^[k + 1] s) ≠ out (step^[k] s)) ∧
      ∀ k ≥ n, out (step^[k] s) = out (step^[n] s) := by
  induction hl : left s using Nat.strong_induction_on generalizing s with
  | _ l ih =>
    obtain ⟨k, hk, hpos, hleft, hp, hout⟩ := hstep s hs
    rcases Nat.eq_zero_or_pos l with rfl | hl0
    · -- nothing is left, now and after every further step
      have hstay : ∀ j, I (step^[j] s) ∧ left (step^[j] s) = 0 ∧ out (step^[j] s) = out s := by
        intro j
        induction j with
        | zero => exact ⟨hs, hl, rfl⟩
        | succ j ihj =>
          obtain ⟨hi, hl', ho⟩ := ihj
          obtain ⟨k', hk', _, hleft', _, hout'⟩ := hstep _ hi
          have hz : k' = 0 := by omega
          rw [Function.iterate_succ_apply']
          refine ⟨hI _ hi, by omega, ?_⟩
          rw [hout', hz, slots_zero, List.append_nil, ho]
      exact ⟨0, by simp, by simp, fun j _ => (hstay j).2.2⟩
    · have hk0 : k ≠ 0 := hpos (by omega)
      obtain ⟨n, h1, h2, h3⟩ := ih (left (step s)) (by omega) (hI s hs) rfl
      refine ⟨n + 1, ?_, ?_, ?_⟩
      · rw [Function.iterate_succ_apply, h1, hout, hp, List.append_assoc, ← slots_append]
        congr 2
        omega
      · intro j hj
        cases j with
        | zero =>
          rw [Function.iterate_one, Function.iterate_zero, id, hout]
          intro he
          have := congrArg List.length he
          simp at this
          omega
        | succ j => exact h2 j (by omega)
      · intro j hj
        obtain ⟨j, rfl⟩ : ∃ i, j = i + 1 := ⟨j - 1, by omega⟩
        exact h3 j (by omega)

end Libgate.Lib.Ring
