import Mathlib.Data.List.Basic
import Mathlib.Data.List.Induction

/-! Something that is read now and then, and between its readings a state. A
watcher who keeps only the last reading, the last state and one bit knows what
the whole history says of them, and whether a reading since the last state was a
new one. -/

namespace Libgate.Lib

variable {α β : Type}

/-! ## Histories -/

def values (rs : List (α ⊕ β)) : List α := rs.filterMap Sum.getLeft?

def states (rs : List (α ⊕ β)) : List β := rs.filterMap Sum.getRight?

/-- Behind the last state there is a reading that differs from the one before it,
`a₀` before the first. -/
def Fresh (a₀ : α) (rs : List (α ⊕ β)) : Prop :=
  ∃ pre a post, rs = pre ++ .inl a :: post ∧ states post = [] ∧ a ≠ (values pre).getLastD a₀

@[simp] theorem values_nil : values ([] : List (α ⊕ β)) = [] := rfl

@[simp] theorem states_nil : states ([] : List (α ⊕ β)) = [] := rfl

@[simp] theorem values_append (rs rs' : List (α ⊕ β)) : values (rs ++ rs') = values rs ++ values rs' := by
  simp [values]

@[simp] theorem states_append (rs rs' : List (α ⊕ β)) : states (rs ++ rs') = states rs ++ states rs' := by
  simp [states]

@[simp] theorem values_reading (a : α) (rs : List (α ⊕ β)) :
    values (.inl a :: rs) = a :: values rs := rfl

@[simp] theorem values_state (b : β) (rs : List (α ⊕ β)) : values (.inr b :: rs) = values rs := rfl

@[simp] theorem states_reading (a : α) (rs : List (α ⊕ β)) : states (.inl a :: rs) = states rs := rfl

@[simp] theorem states_state (b : β) (rs : List (α ⊕ β)) :
    states (.inr b :: rs) = b :: states rs := rfl

theorem not_fresh_nil (a₀ : α) : ¬ Fresh a₀ ([] : List (α ⊕ β)) := by
  intro ⟨pre, a, post, hrs, _⟩
  simp at hrs

theorem not_fresh_state (a₀ : α) (rs : List (α ⊕ β)) (b : β) : ¬ Fresh a₀ (rs ++ [.inr b]) := by
  intro ⟨pre, a, post, hrs, hpost, _⟩
  rcases List.eq_nil_or_concat post with rfl | ⟨front, x, rfl⟩
  · have hlast := congrArg List.getLast? hrs
    simp at hlast
  · have hsplit : rs ++ [.inr b] = (pre ++ .inl a :: front) ++ [x] := by simpa using hrs
    have hlast := (List.append_inj' hsplit rfl).2
    obtain rfl : .inr b = x := by simpa using hlast
    simp at hpost

theorem fresh_reading (a₀ : α) (rs : List (α ⊕ β)) (a : α) :
    Fresh a₀ (rs ++ [.inl a]) ↔ Fresh a₀ rs ∨ a ≠ (values rs).getLastD a₀ := by
  constructor
  · intro ⟨pre, c, post, hrs, hpost, hne⟩
    rcases List.eq_nil_or_concat post with rfl | ⟨front, x, rfl⟩
    · -- the reading is the last one
      obtain ⟨rfl, hlast⟩ := List.append_inj' hrs rfl
      obtain rfl : a = c := by simpa using hlast
      exact .inr hne
    · have hsplit : rs ++ [.inl a] = (pre ++ .inl c :: front) ++ [x] := by simpa using hrs
      obtain ⟨rfl, _⟩ := List.append_inj' hsplit rfl
      have hfront : states front = [] := by
        rw [List.concat_eq_append, states_append] at hpost
        exact (List.append_eq_nil_iff.mp hpost).1
      exact .inl ⟨pre, c, front, rfl, hfront, hne⟩
  · intro hfresh
    rcases hfresh with ⟨pre, c, post, rfl, hpost, hne⟩ | hne
    · exact ⟨pre, c, post ++ [.inl a], by simp, by simp [hpost], hne⟩
    · exact ⟨rs, a, [], rfl, rfl, hne⟩

/-! ## The watcher -/

/-- What the watcher keeps. -/
structure Watch (α β : Type) where
  last : α
  fresh : Bool
  state : β

def Watch.see [DecidableEq α] (w : Watch α β) : α ⊕ β → Watch α β
  | .inl a => { w with last := a, fresh := w.fresh || decide (w.last ≠ a) }
  | .inr b => { w with state := b, fresh := false }

/-- What the watcher knows of the history: the last reading and the last state,
and whether a new reading has come since. -/
structure Watch.Knows (w : Watch α β) (a₀ : α) (b₀ : β) (rs : List (α ⊕ β)) : Prop where
  last : w.last = (values rs).getLastD a₀
  state : w.state = (states rs).getLastD b₀
  fresh : w.fresh = true ↔ Fresh a₀ rs

variable [DecidableEq α] {w : Watch α β} {a₀ : α} {b₀ : β}

theorem Watch.Knows.see {rs : List (α ⊕ β)} (k : w.Knows a₀ b₀ rs) (r : α ⊕ β) :
    (w.see r).Knows a₀ b₀ (rs ++ [r]) := by
  cases r with
  | inl a =>
    have hlast := k.last
    refine ⟨by simp [Watch.see], by simpa [Watch.see] using k.state, ?_⟩
    rw [fresh_reading, ← k.fresh, ← hlast]
    simp only [Watch.see, Bool.or_eq_true, decide_eq_true_eq]
    exact or_congr_right ne_comm
  | inr b =>
    refine ⟨by simpa [Watch.see] using k.last, by simp [Watch.see], ?_⟩
    exact iff_of_false Bool.false_ne_true (not_fresh_state a₀ rs b)

/-- Whatever the watcher sees, it knows. -/
theorem Watch.knows (a₀ : α) (b₀ : β) (rs : List (α ⊕ β)) :
    (rs.foldl Watch.see ⟨a₀, false, b₀⟩).Knows a₀ b₀ rs := by
  induction rs using List.reverseRecOn with
  | nil => exact ⟨rfl, rfl, iff_of_false Bool.false_ne_true (not_fresh_nil a₀)⟩
  | append_singleton rs r ih =>
    rw [List.foldl_concat]
    exact ih.see r

end Libgate.Lib
