import Mathlib.Tactic.Common
import Mathlib.Data.List.Basic
import Libgate.Lib.Memory

/-! Byte stuffing over an arbitrary alphabet. A marked symbol is sent as the
escape symbol followed by its code; every other symbol is sent as itself. The
decoder comes in two forms. `unstuff` decodes exactly the symbols of a list.
`units` decodes a fixed number of units from a stream, each unit one symbol or
one escape pair, and therefore consumes more symbols than units when it meets
an escape. -/

namespace Libgate.Lib

/-- An escape symbol with codes for the symbols that may not be sent plainly.
The escape symbol is itself one of them. -/
structure Stuffing (α : Type) where
  esc : α
  toCode : α → Option α
  ofCode : α → Option α
  code_iff : ∀ x c, toCode x = some c ↔ ofCode c = some x
  esc_marked : (toCode esc).isSome = true

namespace Stuffing
open Memory

variable {α : Type} (S : Stuffing α)

/-- What one symbol is sent as. -/
def stuffOne (x : α) : List α :=
  match S.toCode x with
  | some c => [S.esc, c]
  | none => [x]

def stuff : List α → List α
  | [] => []
  | x :: xs => S.stuffOne x ++ stuff xs

/-- The number of symbols that need an escape. -/
def marks (xs : List α) : Nat := xs.countP fun x => (S.toCode x).isSome

theorem length_stuff (xs : List α) : (S.stuff xs).length = xs.length + S.marks xs := by
  induction xs with
  | nil => rfl
  | cons x xs ih =>
    simp only [stuff, List.length_append, ih, marks, List.countP_cons, stuffOne]
    cases S.toCode x <;> simp <;> omega

/-- A marked symbol that is neither the escape symbol nor a code is never sent. -/
theorem not_mem_stuff {y : α} (hy : (S.toCode y).isSome = true) (he : y ≠ S.esc)
    (hc : ∀ x, S.toCode x ≠ some y) (xs : List α) : y ∉ S.stuff xs := by
  induction xs with
  | nil => simp [stuff]
  | cons x xs ih =>
    rw [stuff, List.mem_append, stuffOne]
    rintro (hm | hm)
    · cases hx : S.toCode x with
      | some c =>
        rw [hx] at hm
        rcases List.mem_pair.mp hm with rfl | rfl
        · exact he rfl
        · exact hc x hx
      | none =>
        rw [hx] at hm
        rw [List.mem_singleton.mp hm, hx] at hy
        cases hy
    · exact ih hm

theorem ne_esc_of_unmarked {x : α} (h : S.toCode x = none) : x ≠ S.esc := by
  rintro rfl
  have := S.esc_marked
  simp [h] at this

theorem stuffOne_unmarked {x : α} (h : S.toCode x = none) : S.stuffOne x = [x] := by
  rw [stuffOne, h]

theorem stuffOne_marked {x c : α} (h : S.toCode x = some c) : S.stuffOne x = [S.esc, c] := by
  rw [stuffOne, h]

theorem stuff_append (xs ys : List α) : S.stuff (xs ++ ys) = S.stuff xs ++ S.stuff ys := by
  induction xs with
  | nil => rfl
  | cons x xs ih => rw [List.cons_append, stuff, stuff, ih, List.append_assoc]

/-- A symbol of a stuffed block is a plain one, or the first or the second of a pair. -/
theorem stuff_getElem? {xs : List α} {i : Nat} {o : α} (ho : (S.stuff xs)[i]? = some o) :
    ∃ pre y post, xs = pre ++ y :: post ∧
      (S.toCode y = none ∧ o = y ∧ i = (S.stuff pre).length ∨
        ∃ k, S.toCode y = some k ∧ (o = S.esc ∧ i = (S.stuff pre).length ∨
          o = k ∧ i = (S.stuff pre).length + 1)) := by
  induction xs generalizing i with
  | nil => cases ho
  | cons x xs ih =>
    rw [stuff] at ho
    by_cases hi : i < (S.stuffOne x).length
    · rw [List.getElem?_append_left hi] at ho
      refine ⟨[], x, xs, rfl, ?_⟩
      cases hx : S.toCode x with
      | none =>
        rw [S.stuffOne_unmarked hx] at ho hi
        obtain rfl : i = 0 := Nat.lt_one_iff.mp hi
        exact .inl ⟨rfl, (Option.some.inj ho).symm, rfl⟩
      | some k =>
        rw [S.stuffOne_marked hx] at ho hi
        have htwo : i < 2 := hi
        obtain rfl | rfl : i = 0 ∨ i = 1 := by omega
        · exact .inr ⟨k, rfl, .inl ⟨(Option.some.inj ho).symm, rfl⟩⟩
        · exact .inr ⟨k, rfl, .inr ⟨(Option.some.inj ho).symm, rfl⟩⟩
    · rw [List.getElem?_append_right (Nat.le_of_not_lt hi)] at ho
      obtain ⟨pre, y, post, hxs, hpos⟩ := ih ho
      refine ⟨x :: pre, y, post, congrArg (x :: ·) hxs, ?_⟩
      rw [stuff, List.length_append]
      rcases hpos with ⟨hy, hoy, hlen⟩ | ⟨k, hy, ⟨hoy, hlen⟩ | ⟨hoy, hlen⟩⟩
      · exact .inl ⟨hy, hoy, by omega⟩
      · exact .inr ⟨k, hy, .inl ⟨hoy, by omega⟩⟩
      · exact .inr ⟨k, hy, .inr ⟨hoy, by omega⟩⟩

theorem stuff_getElem?_append (pre zs : List α) (n : Nat) :
    (S.stuff (pre ++ zs))[(S.stuff pre).length + n]? = (S.stuff zs)[n]? := by
  rw [stuff_append, List.getElem?_append_right (Nat.le_add_right ..), Nat.add_sub_cancel_left]

theorem stuff_cells_marked {y k : α} (hy : S.toCode y = some k) (pre post : List α) :
    (S.stuff (pre ++ y :: post))[(S.stuff pre).length]? = some S.esc ∧
      (S.stuff (pre ++ y :: post))[(S.stuff pre).length + 1]? = some k := by
  have hback : S.stuff (y :: post) = S.esc :: k :: S.stuff post := by
    rw [stuff, S.stuffOne_marked hy]
    rfl
  have hfirst := S.stuff_getElem?_append pre (y :: post) 0
  rw [S.stuff_getElem?_append]
  rw [hback] at hfirst ⊢
  exact ⟨hfirst, rfl⟩

theorem stuff_cells_unmarked {y z : α} (hy : S.toCode y = none) (hz : S.toCode z = none)
    (pre post : List α) :
    (S.stuff (pre ++ y :: z :: post))[(S.stuff pre).length]? = some y ∧
      (S.stuff (pre ++ y :: z :: post))[(S.stuff pre).length + 1]? = some z := by
  have hback : S.stuff (y :: z :: post) = y :: z :: S.stuff post := by
    rw [stuff, S.stuffOne_unmarked hy, stuff, S.stuffOne_unmarked hz]
    rfl
  have hfirst := S.stuff_getElem?_append pre (y :: z :: post) 0
  rw [S.stuff_getElem?_append]
  rw [hback] at hfirst ⊢
  exact ⟨hfirst, rfl⟩

/-- The escape symbol and what follows it are a pair, where it is no code itself. -/
theorem stuff_escape {xs : List α} {i : Nat} {k : α} (hesc : S.ofCode S.esc = none)
    (hi : (S.stuff xs)[i]? = some S.esc) (hk : (S.stuff xs)[i + 1]? = some k) :
    ∃ pre y post, xs = pre ++ y :: post ∧ i = (S.stuff pre).length ∧ S.toCode y = some k := by
  obtain ⟨pre, y, post, rfl, ⟨hy, heq, _⟩ | ⟨c, hy, ⟨_, rfl⟩ | ⟨heq, _⟩⟩⟩ := S.stuff_getElem? hi
  · exact absurd heq.symm (S.ne_esc_of_unmarked hy)
  · rw [S.stuff_getElem?_append, stuff, S.stuffOne_marked hy] at hk
    obtain rfl : c = k := Option.some.inj hk
    exact ⟨pre, y, post, rfl, rfl, hy⟩
  · rw [S.code_iff, ← heq, hesc] at hy
    cases hy

/-- Two symbols that are no part of a pair stand for themselves. -/
theorem stuff_plain {xs : List α} {i : Nat} {o k : α} (ho : o ≠ S.esc) (hcode : S.ofCode o = none)
    (hk : k ≠ S.esc) (hi : (S.stuff xs)[i]? = some o) (hnext : (S.stuff xs)[i + 1]? = some k) :
    ∃ pre post, xs = pre ++ o :: k :: post ∧ i = (S.stuff pre).length ∧ S.toCode o = none ∧
      S.toCode k = none := by
  obtain ⟨pre, y, post, rfl, ⟨hy, rfl, rfl⟩ | ⟨c, hy, ⟨heq, _⟩ | ⟨heq, _⟩⟩⟩ := S.stuff_getElem? hi
  · rw [S.stuff_getElem?_append, stuff, S.stuffOne_unmarked hy] at hnext
    change (S.stuff post)[0]? = some k at hnext
    cases post with
    | nil => cases hnext
    | cons z post =>
      rw [stuff] at hnext
      cases hz : S.toCode z with
      | none =>
        rw [S.stuffOne_unmarked hz] at hnext
        obtain rfl : z = k := Option.some.inj hnext
        exact ⟨pre, post, rfl, rfl, hy, hz⟩
      | some d =>
        rw [S.stuffOne_marked hz] at hnext
        exact absurd (Option.some.inj hnext).symm hk
  · exact absurd heq ho
  · rw [S.code_iff, ← heq, hcode] at hy
    cases hy

theorem stuff_set (pre post : List α) (y : α) (k : Nat) (c : α) :
    (S.stuff (pre ++ y :: post)).set ((S.stuff pre).length + k) c =
      S.stuff pre ++ (S.stuffOne y ++ S.stuff post).set k c := by
  rw [stuff_append, stuff, List.set_append_right _ _ (Nat.le_add_right ..), Nat.add_sub_cancel_left]

/-- The block `xs`, sent with the symbol `o` at position `i` turned into `c`,
decodes to `xs'`. -/
inductive Altered : List α → Nat → α → α → List α → Prop where
  | replaced {pre post : List α} {y c : α} (hy : S.toCode y = none) (hc : c ≠ S.esc) :
      Altered (pre ++ y :: post) (S.stuff pre).length y c (pre ++ c :: post)
  | merged {pre post : List α} {y k b : α} (hy : S.toCode y = none) (hk : S.toCode k = none)
      (hb : S.ofCode k = some b) :
      Altered (pre ++ y :: k :: post) (S.stuff pre).length y S.esc (pre ++ b :: post)
  | split {pre post : List α} {y k c : α} (hy : S.toCode y = some k) (hc : c ≠ S.esc) :
      Altered (pre ++ y :: post) (S.stuff pre).length S.esc c (pre ++ c :: k :: post)
  | recoded {pre post : List α} {y k c b : α} (hy : S.toCode y = some k)
      (hb : S.ofCode c = some b) :
      Altered (pre ++ y :: post) ((S.stuff pre).length + 1) k c (pre ++ b :: post)

variable [DecidableEq α]

/-- Decode exactly the symbols of a list; `none` when an escape is not followed
by a code. -/
def unstuff : List α → Option (List α)
  | [] => some []
  | [x] => if x = S.esc then none else some [x]
  | x :: y :: rest =>
    if x = S.esc then (S.ofCode y).bind fun b => (unstuff rest).map (b :: ·)
    else (unstuff (y :: rest)).map (x :: ·)

/-- Decode `n` units of a stream from position `s` on: the symbols decoded up
to the first bad escape, and the number of escape pairs when there is none. -/
def units (src : Nat → α) : Nat → Nat → List α × Option Nat
  | 0, _ => ([], some 0)
  | n + 1, s =>
    if src s = S.esc then
      match S.ofCode (src (s + 1)) with
      | some b => (b :: (units src n (s + 2)).1, (units src n (s + 2)).2.map (· + 1))
      | none => ([], none)
    else (src s :: (units src n (s + 1)).1, (units src n (s + 1)).2)

/-- How many symbols of the stream these `n` units take. -/
def span (src : Nat → α) : Nat → Nat → Nat
  | 0, _ => 0
  | n + 1, s =>
    if src s = S.esc then
      match S.ofCode (src (s + 1)) with
      | some _ => span src n (s + 2) + 2
      | none => 2
    else span src n (s + 1) + 1

theorem unstuff_cons_ne {x : α} (rest : List α) (h : x ≠ S.esc) :
    S.unstuff (x :: rest) = (S.unstuff rest).map (x :: ·) := by
  cases rest <;> simp [unstuff, h]

/-- A list without an escape stands for itself. -/
theorem unstuff_of_not_mem {xs : List α} (h : S.esc ∉ xs) : S.unstuff xs = some xs := by
  induction xs with
  | nil => rfl
  | cons x xs ih =>
    rw [List.mem_cons, not_or] at h
    rw [S.unstuff_cons_ne xs (Ne.symm h.1), ih h.2]
    rfl

theorem unstuff_esc (y : α) (rest : List α) :
    S.unstuff (S.esc :: y :: rest) =
      (S.ofCode y).bind fun b => (S.unstuff rest).map (b :: ·) := by
  simp [unstuff]

/-- Decoding undoes encoding, symbol list for symbol list. -/
theorem unstuff_stuff (xs : List α) : S.unstuff (S.stuff xs) = some xs := by
  induction xs with
  | nil => rfl
  | cons x xs ih =>
    unfold stuff stuffOne
    split
    · next c hc =>
      have hd := (S.code_iff x c).mp hc
      simp [unstuff_esc, hd, ih]
    · next hn =>
      rw [List.singleton_append, S.unstuff_cons_ne _ (S.ne_esc_of_unmarked hn), ih]
      rfl

theorem stuff_injective {xs ys : List α} (h : S.stuff xs = S.stuff ys) : xs = ys := by
  have hu := congrArg S.unstuff h
  rw [S.unstuff_stuff, S.unstuff_stuff] at hu
  exact Option.some.inj hu

theorem length_le_of_unstuff : ∀ {e xs : List α}, S.unstuff e = some xs → xs.length ≤ e.length
  | [], xs, h => by simp [unstuff] at h; simp [← h]
  | [x], xs, h => by
    simp only [unstuff] at h
    split at h
    · cases h
    · cases h; simp
  | x :: y :: rest, xs, h => by
    by_cases hx : x = S.esc
    · subst hx
      rw [S.unstuff_esc] at h
      obtain ⟨b, _, hb⟩ := Option.bind_eq_some_iff.mp h
      obtain ⟨ys, hys, rfl⟩ := Option.map_eq_some_iff.mp hb
      have := length_le_of_unstuff hys
      simp only [List.length_cons]; omega
    · rw [S.unstuff_cons_ne _ hx] at h
      obtain ⟨ys, hys, rfl⟩ := Option.map_eq_some_iff.mp h
      have := length_le_of_unstuff hys
      simpa using this

/-! ### Blocks with one symbol changed -/

theorem unstuff_stuff_append (xs rest : List α) :
    S.unstuff (S.stuff xs ++ rest) = (S.unstuff rest).map (xs ++ ·) := by
  induction xs with
  | nil => exact (Option.map_id' ..).symm
  | cons x xs ih =>
    have hmap : ((S.unstuff rest).map (xs ++ ·)).map (x :: ·) =
        (S.unstuff rest).map (x :: xs ++ ·) := Option.map_map ..
    rw [stuff, stuffOne]
    split
    · next c hc =>
      have hd := (S.code_iff x c).mp hc
      change S.unstuff (S.esc :: c :: (S.stuff xs ++ rest)) = _
      rw [S.unstuff_esc, hd, Option.bind_some, ih, hmap]
    · next hn =>
      rw [List.singleton_append, List.cons_append, S.unstuff_cons_ne _ (S.ne_esc_of_unmarked hn),
        ih, hmap]

/-- What a stuffed block decodes to once a symbol of it has changed, where the
escape symbol is no code. -/
theorem unstuff_set {xs xs' : List α} {i : Nat} {o c : α} (hesc : S.ofCode S.esc = none)
    (ho : (S.stuff xs)[i]? = some o) (hne : o ≠ c)
    (h : S.unstuff ((S.stuff xs).set i c) = some xs') : S.Altered xs i o c xs' := by
  have hcode : ∀ {x k}, S.toCode x = some k → k ≠ S.esc := by
    intro x k hk heq
    rw [S.code_iff, heq, hesc] at hk
    cases hk
  have hset : ∀ {pre y post k}, S.unstuff ((S.stuff (pre ++ y :: post)).set
      ((S.stuff pre).length + k) c) = some xs' → ∃ zs,
        S.unstuff ((S.stuffOne y ++ S.stuff post).set k c) = some zs ∧ pre ++ zs = xs' := by
    intro pre y post k hxs
    rw [S.stuff_set, S.unstuff_stuff_append] at hxs
    exact Option.map_eq_some_iff.mp hxs
  obtain ⟨pre, y, post, rfl, hpos⟩ := S.stuff_getElem? ho
  rcases hpos with ⟨hy, rfl, rfl⟩ | ⟨k, hy, ⟨rfl, rfl⟩ | ⟨rfl, rfl⟩⟩
  · obtain ⟨zs, hzs, rfl⟩ := hset (k := 0) h
    rw [S.stuffOne_unmarked hy] at hzs
    change S.unstuff (c :: S.stuff post) = some zs at hzs
    by_cases hc : c = S.esc
    · rw [hc] at hzs ⊢
      cases post with
      | nil => simp [stuff, unstuff] at hzs
      | cons z post =>
        rw [stuff] at hzs
        cases hz : S.toCode z with
        | none =>
          rw [S.stuffOne_unmarked hz, List.singleton_append, S.unstuff_esc, S.unstuff_stuff] at hzs
          obtain ⟨b, hb, hmap⟩ := Option.bind_eq_some_iff.mp hzs
          obtain rfl := Option.some.inj hmap
          exact .merged hy hz hb
        | some d =>
          rw [S.stuffOne_marked hz, List.cons_append, S.unstuff_esc, hesc] at hzs
          cases hzs
    · rw [S.unstuff_cons_ne _ hc, S.unstuff_stuff] at hzs
      obtain rfl := Option.some.inj hzs
      exact .replaced hy hc
  · obtain ⟨zs, hzs, rfl⟩ := hset (k := 0) h
    rw [S.stuffOne_marked hy] at hzs
    change S.unstuff (c :: k :: S.stuff post) = some zs at hzs
    rw [S.unstuff_cons_ne _ hne.symm, S.unstuff_cons_ne _ (hcode hy), S.unstuff_stuff] at hzs
    obtain rfl := Option.some.inj hzs
    exact .split hy hne.symm
  · obtain ⟨zs, hzs, rfl⟩ := hset (k := 1) h
    rw [S.stuffOne_marked hy] at hzs
    change S.unstuff (S.esc :: c :: S.stuff post) = some zs at hzs
    rw [S.unstuff_esc, S.unstuff_stuff] at hzs
    obtain ⟨b, hb, hmap⟩ := Option.bind_eq_some_iff.mp hzs
    obtain rfl := Option.some.inj hmap
    exact .recoded hy hb

/-- Every way a block can change is one that decodes. -/
theorem Altered.decodes {xs xs' : List α} {i : Nat} {o c : α} (hesc : S.ofCode S.esc = none)
    (h : S.Altered xs i o c xs') : S.unstuff ((S.stuff xs).set i c) = some xs' := by
  cases h with
  | @replaced pre post y _ hy hc =>
    rw [← Nat.add_zero (S.stuff pre).length, S.stuff_set, S.unstuff_stuff_append,
      S.stuffOne_unmarked hy]
    change (S.unstuff (c :: S.stuff post)).map (pre ++ ·) = _
    rw [S.unstuff_cons_ne _ hc, S.unstuff_stuff]
    rfl
  | @merged pre post y k b hy hk hb =>
    rw [← Nat.add_zero (S.stuff pre).length, S.stuff_set, S.unstuff_stuff_append,
      S.stuffOne_unmarked hy, stuff, S.stuffOne_unmarked hk]
    change (S.unstuff (S.esc :: k :: S.stuff post)).map (pre ++ ·) = _
    rw [S.unstuff_esc, hb, S.unstuff_stuff]
    rfl
  | @split pre post y k _ hy hc =>
    have hk : k ≠ S.esc := by
      intro heq
      rw [S.code_iff, heq, hesc] at hy
      cases hy
    rw [← Nat.add_zero (S.stuff pre).length, S.stuff_set, S.unstuff_stuff_append,
      S.stuffOne_marked hy]
    change (S.unstuff (c :: k :: S.stuff post)).map (pre ++ ·) = _
    rw [S.unstuff_cons_ne _ hc, S.unstuff_cons_ne _ hk, S.unstuff_stuff]
    rfl
  | @recoded pre post y k _ b hy hb =>
    rw [S.stuff_set, S.unstuff_stuff_append, S.stuffOne_marked hy]
    change (S.unstuff (S.esc :: c :: S.stuff post)).map (pre ++ ·) = _
    rw [S.unstuff_esc, hb, S.unstuff_stuff]
    rfl

/-- A stuffed block that is cut short decodes to a part of what it stands for. -/
theorem unstuff_take {xs xs' : List α} {i : Nat} (hi : i < (S.stuff xs).length)
    (h : S.unstuff ((S.stuff xs).take i) = some xs') : ∃ y post, xs = xs' ++ y :: post := by
  obtain ⟨pre, y, post, rfl, hpos⟩ := S.stuff_getElem? (List.getElem?_eq_getElem hi)
  have hfront : i = (S.stuff pre).length → pre = xs' := by
    intro hlen
    rw [S.stuff_append, List.take_append_of_le_length (Nat.le_of_eq hlen), hlen,
      List.take_length, S.unstuff_stuff] at h
    exact Option.some.inj h
  rcases hpos with ⟨_, _, hlen⟩ | ⟨k, hy, ⟨_, hlen⟩ | ⟨_, hlen⟩⟩
  · exact ⟨y, post, congrArg (· ++ y :: post) (hfront hlen)⟩
  · exact ⟨y, post, congrArg (· ++ y :: post) (hfront hlen)⟩
  · rw [S.stuff_append, hlen, List.take_length_add_append, stuff, S.stuffOne_marked hy,
      S.unstuff_stuff_append] at h
    change (S.unstuff [S.esc]).map (pre ++ ·) = some xs' at h
    rw [unstuff, if_pos rfl] at h
    cases h

/-! ### Units of a stream -/

theorem units_esc {src : Nat → α} {s : Nat} {b : α} (n : Nat) (h : src s = S.esc)
    (hb : S.ofCode (src (s + 1)) = some b) :
    S.units src (n + 1) s =
      (b :: (S.units src n (s + 2)).1, (S.units src n (s + 2)).2.map (· + 1)) := by
  simp [units, h, hb]

theorem units_bad {src : Nat → α} {s : Nat} (n : Nat) (h : src s = S.esc)
    (hb : S.ofCode (src (s + 1)) = none) : S.units src (n + 1) s = ([], none) := by
  simp [units, h, hb]

theorem units_plain {src : Nat → α} {s : Nat} (n : Nat) (h : src s ≠ S.esc) :
    S.units src (n + 1) s = (src s :: (S.units src n (s + 1)).1, (S.units src n (s + 1)).2) := by
  simp [units, h]

/-- A unit is one symbol at most. -/
theorem length_units_le (src : Nat → α) (n s : Nat) : (S.units src n s).1.length ≤ n := by
  induction n generalizing s with
  | zero => exact Nat.le_refl 0
  | succ n ih =>
    by_cases he : src s = S.esc
    · cases hb : S.ofCode (src (s + 1)) with
      | none =>
        rw [S.units_bad n he hb]
        exact Nat.zero_le _
      | some b =>
        rw [S.units_esc n he hb]
        exact Nat.succ_le_succ (ih (s + 2))
    · rw [S.units_plain n he]
      exact Nat.succ_le_succ (ih (s + 1))

/-- The units of a block that decodes, and then the units behind it. -/
theorem units_unstuff {src : Nat → α} :
    ∀ {e xs : List α} {s : Nat}, load src s e.length = e → S.unstuff e = some xs → ∀ n,
      S.units src (xs.length + n) s = (xs ++ (S.units src n (s + e.length)).1,
        (S.units src n (s + e.length)).2.map (· + (e.length - xs.length)))
  | [], xs, s, _, h, n => by
    simp only [unstuff, Option.some.injEq] at h
    subst h; simp
  | [x], xs, s, hl, h, n => by
    have hx : src s = x := by simpa [load_succ] using hl
    simp only [unstuff] at h
    split at h
    · cases h
    · next hne =>
      cases h
      rw [show [x].length + n = n + 1 by simp; omega, S.units_plain n (hx ▸ hne), hx]
      simp
  | x :: y :: rest, xs, s, hl, h, n => by
    simp only [List.length_cons, load_succ, List.cons.injEq] at hl
    obtain ⟨hx, hy, hrest⟩ := hl
    by_cases he : x = S.esc
    · subst he
      rw [S.unstuff_esc] at h
      obtain ⟨b, hb, hm⟩ := Option.bind_eq_some_iff.mp h
      obtain ⟨ys, hys, rfl⟩ := Option.map_eq_some_iff.mp hm
      have hle := S.length_le_of_unstuff hys
      have ih := units_unstuff hrest hys n
      rw [show (b :: ys).length + n = ys.length + n + 1 by simp; omega,
        S.units_esc _ hx (hy.symm ▸ hb), ih]
      simp only [List.length_cons, List.cons_append, Option.map_map, Function.comp_def,
        show s + (rest.length + 1 + 1) = s + 2 + rest.length by omega]
      congr 2; funext k; omega
    · rw [S.unstuff_cons_ne _ he] at h
      obtain ⟨ys, hys, rfl⟩ := Option.map_eq_some_iff.mp h
      have hle := S.length_le_of_unstuff hys
      have hl' : load src (s + 1) (y :: rest).length = y :: rest := by
        simp [load_succ, hy, hrest]
      have ih := units_unstuff hl' hys n
      rw [show (x :: ys).length + n = ys.length + n + 1 by simp; omega,
        S.units_plain _ (hx.symm ▸ he), ih, hx]
      simp only [List.length_cons, List.cons_append,
        show s + (rest.length + 1 + 1) = s + 1 + (rest.length + 1) by omega,
        show rest.length + 1 + 1 - (ys.length + 1) = rest.length + 1 - ys.length by omega]

/-- A block with a bad escape stops every run of at least its length. -/
theorem units_unstuff_none {src : Nat → α} :
    ∀ {e : List α} {s n : Nat}, load src s e.length = e → S.unstuff e = none → e.length ≤ n →
      (S.ofCode (src (s + e.length)) = none) → (S.units src n s).2 = none
  | [], s, n, _, h, _, _ => by simp [unstuff] at h
  | [x], s, 0, _, _, hn, _ => by simp at hn
  | [x], s, n + 1, hl, h, _, hc => by
    have hx : src s = x := by simpa [load_succ] using hl
    simp only [unstuff] at h
    split at h
    · next he => rw [S.units_bad n (hx.trans he) hc]
    · cases h
  | x :: y :: rest, s, 0, _, _, hn, _ => by simp at hn
  | x :: y :: rest, s, n + 1, hl, h, hn, hc => by
    simp only [List.length_cons, load_succ, List.cons.injEq] at hl
    obtain ⟨hx, hy, hrest⟩ := hl
    simp only [List.length_cons] at hn hc
    by_cases he : x = S.esc
    · subst he
      rw [S.unstuff_esc] at h
      cases hb : S.ofCode y with
      | none => rw [S.units_bad n hx (hy.symm ▸ hb)]
      | some b =>
        rw [hb] at h
        have hr : S.unstuff rest = none := by simpa using h
        rw [S.units_esc n hx (hy.symm ▸ hb)]
        have ih := units_unstuff_none hrest hr (n := n) (by omega)
          (by rwa [show s + 2 + rest.length = s + (rest.length + 1 + 1) by omega])
        simp [ih]
    · rw [S.unstuff_cons_ne _ he] at h
      have hr : S.unstuff (y :: rest) = none := by simpa using h
      have hl' : load src (s + 1) (y :: rest).length = y :: rest := by
        simp [load_succ, hy, hrest]
      rw [S.units_plain n (hx.symm ▸ he)]
      exact units_unstuff_none hl' hr (by simp only [List.length_cons]; omega)
        (by simp only [List.length_cons]
            rwa [show s + 1 + (rest.length + 1) = s + (rest.length + 1 + 1) by omega])

/-- A run meets no escape exactly when the cells it covers, one a unit, hold none. -/
theorem units_snd_zero_iff {src : Nat → α} {n s : Nat} :
    (S.units src n s).2 = some 0 ↔ ∀ i < n, src (s + i) ≠ S.esc := by
  induction n generalizing s with
  | zero => simp [units]
  | succ n ih =>
    by_cases he : src s = S.esc
    · constructor
      · intro h
        cases hb : S.ofCode (src (s + 1)) with
        | none => rw [S.units_bad n he hb] at h; cases h
        | some b => rw [S.units_esc n he hb] at h; simp at h
      · intro h; exact absurd he (h 0 (by omega))
    · rw [S.units_plain n he, ih]
      constructor
      · intro h i hi
        cases i with
        | zero => exact he
        | succ i => simpa [Nat.add_assoc, Nat.add_comm, Nat.add_left_comm] using h i (by omega)
      · intro h i hi
        simpa [Nat.add_assoc, Nat.add_comm, Nat.add_left_comm] using h (i + 1) (by omega)

/-- A stream is decoded by the cells it reads alone, two a unit. -/
theorem span_esc {src : Nat → α} {s : Nat} {b : α} (n : Nat) (h : src s = S.esc)
    (hb : S.ofCode (src (s + 1)) = some b) :
    S.span src (n + 1) s = S.span src n (s + 2) + 2 := by
  simp [span, h, hb]

theorem span_bad {src : Nat → α} {s : Nat} (n : Nat) (h : src s = S.esc)
    (hb : S.ofCode (src (s + 1)) = none) : S.span src (n + 1) s = 2 := by
  simp [span, h, hb]

theorem span_plain {src : Nat → α} {s : Nat} (n : Nat) (h : src s ≠ S.esc) :
    S.span src (n + 1) s = S.span src n (s + 1) + 1 := by
  simp [span, h]

/-- A unit is two symbols at most. -/
theorem span_le (src : Nat → α) (n s : Nat) : S.span src n s ≤ 2 * n := by
  induction n generalizing s with
  | zero => exact Nat.le_refl 0
  | succ n ih =>
    have h1 := ih (s + 1)
    have h2 := ih (s + 2)
    by_cases he : src s = S.esc
    · cases hb : S.ofCode (src (s + 1)) with
      | none => rw [S.span_bad n he hb]; omega
      | some b => rw [S.span_esc n he hb]; omega
    · rw [S.span_plain n he]; omega

/-- The symbols a run of units takes are all it depends on. -/
theorem units_congr {src src' : Nat → α} {n s : Nat}
    (h : ∀ i, s ≤ i → i < s + S.span src n s → src i = src' i) :
    S.units src n s = S.units src' n s ∧ S.span src n s = S.span src' n s := by
  induction n generalizing s with
  | zero => exact ⟨rfl, rfl⟩
  | succ n ih =>
    by_cases he : src s = S.esc
    · cases hb : S.ofCode (src (s + 1)) with
      | none =>
        rw [S.span_bad n he hb] at h
        have he' : src' s = S.esc := (h s (by omega) (by omega)) ▸ he
        have hb' : S.ofCode (src' (s + 1)) = none := (h (s + 1) (by omega) (by omega)) ▸ hb
        rw [S.units_bad n he hb, S.units_bad n he' hb', S.span_bad n he hb, S.span_bad n he' hb']
        exact ⟨rfl, rfl⟩
      | some b =>
        rw [S.span_esc n he hb] at h
        have he' : src' s = S.esc := (h s (by omega) (by omega)) ▸ he
        have hb' : S.ofCode (src' (s + 1)) = some b := (h (s + 1) (by omega) (by omega)) ▸ hb
        obtain ⟨hu, hs⟩ := ih (s := s + 2) fun i h1 h2 => h i (by omega) (by omega)
        rw [S.units_esc n he hb, S.units_esc n he' hb', S.span_esc n he hb, S.span_esc n he' hb',
          hu, hs]
        exact ⟨rfl, rfl⟩
    · rw [S.span_plain n he] at h
      have hc : src s = src' s := h s (by omega) (by omega)
      have he' : src' s ≠ S.esc := hc ▸ he
      obtain ⟨hu, hs⟩ := ih (s := s + 1) fun i h1 h2 => h i (by omega) (by omega)
      rw [S.units_plain n he, S.units_plain n he', S.span_plain n he, S.span_plain n he', hc, hu, hs]
      exact ⟨rfl, rfl⟩

end Stuffing
end Libgate.Lib
