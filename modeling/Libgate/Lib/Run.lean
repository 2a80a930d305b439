import Mathlib.Data.List.Basic

/-! Finite runs of a deterministic system under a list of events, conditions
that each step of a run has to meet, and the two rules that carry a property
through a run: an invariant, and a fact about every step taken under it. -/

namespace Libgate.Lib

variable {σ ε : Type} (step : ε → σ → σ)

/-- The state after the events, first event first. -/
def run (es : List ε) (s : σ) : σ := es.foldl (fun s e => step e s) s

/-- Every event of the run meets `C` in the state it finds. -/
def Along (C : ε → σ → Prop) : List ε → σ → Prop
  | [], _ => True
  | e :: es, s => C e s ∧ Along C es (step e s)

/-- What `f` finds at each event of the run, in order. -/
def gather {β : Type} (f : ε → σ → List β) : List ε → σ → List β
  | [], _ => []
  | e :: es, s => f e s ++ gather f es (step e s)

instance (C : ε → σ → Prop) [∀ e s, Decidable (C e s)] :
    (es : List ε) → (s : σ) → Decidable (Along step C es s)
  | [], _ => .isTrue trivial
  | e :: es, s =>
    have := instDecidableAlong C es (step e s)
    inferInstanceAs (Decidable (C e s ∧ Along step C es (step e s)))

variable {step} {C D : ε → σ → Prop} {I : σ → Prop}

@[simp] theorem run_nil (s : σ) : run step [] s = s := rfl

@[simp] theorem run_cons (e : ε) (es : List ε) (s : σ) :
    run step (e :: es) s = run step es (step e s) := rfl

theorem run_append (es fs : List ε) (s : σ) :
    run step (es ++ fs) s = run step fs (run step es s) := by
  induction es generalizing s with
  | nil => rfl
  | cons e es ih => exact ih (step e s)

/-- A condition that each event of the run meets in any state. -/
theorem Along.of_mem {es : List ε} (h : ∀ e ∈ es, ∀ s, C e s) (s : σ) : Along step C es s := by
  induction es generalizing s with
  | nil => trivial
  | cons e es ih => exact ⟨h e (by simp) s, ih (fun e' he => h e' (by simp [he])) _⟩

theorem Along.of_forall (h : ∀ e s, C e s) (es : List ε) (s : σ) : Along step C es s :=
  Along.of_mem (fun e _ => h e) s

theorem Along.and {es : List ε} {s : σ} (h : Along step C es s) (h' : Along step D es s) :
    Along step (fun e s => C e s ∧ D e s) es s := by
  induction es generalizing s with
  | nil => trivial
  | cons e es ih => exact ⟨⟨h.1, h'.1⟩, ih h.2 h'.2⟩

/-- What every step preserves holds after the run. -/
theorem Along.invariant (hstep : ∀ e s, I s → C e s → I (step e s)) {es : List ε} {s : σ}
    (hs : I s) (h : Along step C es s) : I (run step es s) := by
  induction es generalizing s with
  | nil => exact hs
  | cons e es ih => exact ih (hstep e s hs h.1) h.2

/-- A fact about one step under the invariant is a fact about every step. -/
theorem Along.mono_of_invariant {P : ε → σ → Prop}
    (hstep : ∀ e s, I s → C e s → I (step e s)) (hP : ∀ e s, I s → C e s → P e s)
    {es : List ε} {s : σ} (hs : I s) (h : Along step C es s) : Along step P es s := by
  induction es generalizing s with
  | nil => trivial
  | cons e es ih => exact ⟨hP e s hs h.1, ih (hstep e s hs h.1) h.2⟩

/-- A fact about one step under an invariant that no condition guards. -/
theorem Along.of_invariant (hstep : ∀ e s, I s → I (step e s)) (hC : ∀ e s, I s → C e s)
    (es : List ε) {s : σ} (hs : I s) : Along step C es s := by
  induction es generalizing s with
  | nil => trivial
  | cons e es ih => exact ⟨hC e s hs, ih (hstep e s hs)⟩

/-- Conditions that agree on every step agree on every run. -/
theorem Along.iff_of_invariant (hstep : ∀ e s, I s → D e s → I (step e s))
    (hCD : ∀ e s, I s → (C e s ↔ D e s)) (es : List ε) {s : σ} (hs : I s) :
    Along step C es s ↔ Along step D es s := by
  induction es generalizing s with
  | nil => exact Iff.rfl
  | cons e es ih =>
    change _ ∧ _ ↔ _ ∧ _
    rw [hCD e s hs]
    exact and_congr_right fun hd => ih (hstep e s hs hd)

/-- An invariant that no condition guards. -/
theorem run_invariant (hstep : ∀ e s, I s → I (step e s)) (es : List ε) {s : σ}
    (hs : I s) : I (run step es s) := by
  induction es generalizing s with
  | nil => exact hs
  | cons e es ih => exact ih (hstep e s hs)

/-- What is found in a run is found at one of its events. -/
theorem mem_gather {β : Type} {f : ε → σ → List β} {es : List ε} {s : σ} {x : β}
    (h : x ∈ gather step f es s) :
    ∃ before e after, es = before ++ e :: after ∧ x ∈ f e (run step before s) := by
  induction es generalizing s with
  | nil => cases h
  | cons e es ih =>
    rcases List.mem_append.mp h with hx | hx
    · exact ⟨[], e, es, rfl, hx⟩
    · obtain ⟨before, e', after, heq, hx'⟩ := ih hx
      exact ⟨e :: before, e', after, by rw [heq, List.cons_append], hx'⟩

/-- A record that each step adds to is, after a run, all that the steps added. -/
theorem run_gather {β : Type} {f : ε → σ → List β} {record : σ → List β}
    (hstep : ∀ e s, record (step e s) = record s ++ f e s) (es : List ε) (s : σ) :
    record (run step es s) = record s ++ gather step f es s := by
  induction es generalizing s with
  | nil => exact (List.append_nil _).symm
  | cons e es ih =>
    rw [run_cons, ih, hstep, List.append_assoc]
    rfl

/-- A view of the state that each step folds its findings into is, after a run, all
of them folded in. -/
theorem run_foldl {β γ : Type} {f : ε → σ → List β} {view : σ → γ} {upd : γ → β → γ}
    (hstep : ∀ e s, view (step e s) = (f e s).foldl upd (view s)) (es : List ε) (s : σ) :
    view (run step es s) = (gather step f es s).foldl upd (view s) := by
  induction es generalizing s with
  | nil => rfl
  | cons e es ih =>
    rw [run_cons, ih, hstep, ← List.foldl_append]
    rfl

/-- A property of what has been found, kept by each step that meets its condition
unless the step reaches a goal: it holds of all that is found in a run, or the goal
is reached on the way. -/
theorem Along.gather_until {β : Type} {f : ε → σ → List β} {J : List β → σ → Prop} {Q : σ → Prop}
    (hstep : ∀ e xs s, J xs s → C e s → Q (step e s) ∨ J (xs ++ f e s) (step e s)) {es : List ε}
    {xs : List β} {s : σ} (hs : J xs s) (h : Along step C es s) :
    (∃ before, before <+: es ∧ Q (run step before s)) ∨
      J (xs ++ gather step f es s) (run step es s) := by
  induction es generalizing xs s with
  | nil => exact .inr ((List.append_nil xs).symm ▸ hs)
  | cons e es ih =>
    rcases hstep e xs s hs h.1 with hq | hj
    · exact .inl ⟨[e], ⟨es, rfl⟩, hq⟩
    · rcases ih hj h.2 with ⟨before, hbefore, hq⟩ | hrest
      · exact .inl ⟨e :: before, List.cons_prefix_cons.mpr ⟨rfl, hbefore⟩, hq⟩
      · rw [List.append_assoc] at hrest
        exact .inr hrest

/-- Without a goal it holds of all that is found. -/
theorem Along.gather_invariant {β : Type} {f : ε → σ → List β} {J : List β → σ → Prop}
    (hstep : ∀ e xs s, J xs s → C e s → J (xs ++ f e s) (step e s)) {es : List ε} {xs : List β}
    {s : σ} (hs : J xs s) (h : Along step C es s) : J (xs ++ gather step f es s) (run step es s) := by
  have hall := Along.gather_until (Q := fun _ => False)
    (fun e xs s hx hc => .inr (hstep e xs s hx hc)) hs h
  rcases hall with ⟨_, _, hno⟩ | hrest
  · exact hno.elim
  · exact hrest

/-- A property of the number of things found that no condition guards. -/
theorem run_gather_invariant {β : Type} {f : ε → σ → List β} {J : Nat → σ → Prop}
    (hstep : ∀ e k s, J k s → J (k + (f e s).length) (step e s)) (es : List ε) {k : Nat} {s : σ}
    (hs : J k s) : J (k + (gather step f es s).length) (run step es s) := by
  have hcount := @Along.gather_invariant σ ε step (fun _ _ => True) β f
    (fun xs s' => J (k + xs.length) s') ?_ es [] s hs (Along.of_forall (fun _ _ => trivial) es s)
  · exact hcount
  · intro e xs s' hx _
    rw [List.length_append, ← Nat.add_assoc]
    exact hstep e _ s' hx

end Libgate.Lib
