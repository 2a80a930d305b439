import Mathlib.Order.MinMax
import Mathlib.Data.List.Basic

/-! High-water marks over a trace. Every event weighs something for each key;
some events claim a value for a key, and a claim is honest when nothing before
it weighs more. -/

namespace Libgate.Lib

variable {ε κ : Type}

/-- What events weigh for a key, and which of them claim a value for one. -/
structure Marking (ε κ : Type) where
  weight : κ → ε → Nat
  claim : ε → Option (κ × Nat)

namespace Marking
variable (M : Marking ε κ)

/-- The largest weight of a trace for a key. -/
def top (k : κ) (tr : List ε) : Nat := tr.foldr (fun e n => max (M.weight k e) n) 0

/-- No claim is exceeded by anything before it. -/
def Honest (tr : List ε) : Prop :=
  tr.Pairwise fun e e' => ∀ k b, M.claim e' = some (k, b) → M.weight k e ≤ b

@[simp] theorem top_nil (k : κ) : M.top k [] = 0 := rfl

@[simp] theorem top_cons (k : κ) (e : ε) (tr : List ε) :
    M.top k (e :: tr) = max (M.weight k e) (M.top k tr) := rfl

theorem top_append (k : κ) (tr tr' : List ε) :
    M.top k (tr ++ tr') = max (M.top k tr) (M.top k tr') := by
  induction tr with
  | nil => simp
  | cons e tr ih => rw [List.cons_append, top_cons, ih, top_cons, max_assoc]

theorem top_le_iff {k : κ} {tr : List ε} {n : Nat} :
    M.top k tr ≤ n ↔ ∀ e ∈ tr, M.weight k e ≤ n := by
  induction tr with
  | nil => simp
  | cons e tr ih => simp [ih]

variable {M}

theorem honest_append {tr tr' : List ε} : M.Honest (tr ++ tr') ↔
    M.Honest tr ∧ M.Honest tr' ∧ ∀ e' ∈ tr', ∀ k b, M.claim e' = some (k, b) → M.top k tr ≤ b := by
  simp only [Honest, List.pairwise_append, top_le_iff]
  constructor
  · intro ⟨h1, h2, h3⟩
    exact ⟨h1, h2, fun e' he' k b hc e he => h3 e he e' he' k b hc⟩
  · intro ⟨h1, h2, h3⟩
    exact ⟨h1, h2, fun e he e' he' k b hc => h3 e' he' k b hc e he⟩

/-- Events that claim at least `n` while none of them weighs more. -/
theorem honest_of_level {tr : List ε} {n : Nat} (hw : ∀ e ∈ tr, ∀ k, M.weight k e ≤ n)
    (hc : ∀ e ∈ tr, ∀ k b, M.claim e = some (k, b) → n ≤ b) : M.Honest tr := by
  refine List.Pairwise.imp_of_mem (R := fun _ _ => True) ?_ (List.pairwise_of_forall fun _ _ => trivial)
  intro e e' he he' _ k b hb
  exact le_trans (hw e he k) (hc e' he' k b hb)

end Marking
end Libgate.Lib
