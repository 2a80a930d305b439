import Mathlib.Tactic.Common
import Mathlib.Data.List.Basic

/-! A framer over an arbitrary alphabet. A frame goes from the begin symbol to
the first end symbol; it may arrive in several chunks, and what a chunk holds
behind the end symbol is lost. -/

namespace Libgate.Lib.Framing

variable {α : Type}

/-- What a framer does with a chunk: it has no frame to put it in, the frame is
not finished, or it is. -/
inductive Outcome (α : Type) where
  | stray
  | more (acc : List α)
  | frame (f : List α)
  deriving DecidableEq

/-- The symbols of an unfinished frame after the chunk. -/
def Outcome.pending (acc : List α) : Outcome α → List α
  | .stray => acc
  | .more acc => acc
  | .frame _ => []

variable [DecidableEq α] (b e : α)

/-- A chunk behind the symbols `acc` of an unfinished frame. -/
def feed (acc chunk : List α) : Outcome α :=
  if (acc ++ chunk).head? = some b then
    match chunk.idxOf? e with
    | some i => .frame (acc ++ chunk.take i)
    | none => .more (acc ++ chunk)
  else .stray

variable {b e}

/-- The first occurrence of a symbol splits the list. -/
theorem idxOf?_eq_some_split {xs : List α} {i : Nat} (h : xs.idxOf? e = some i) :
    e ∉ xs.take i ∧ xs = xs.take i ++ e :: xs.drop (i + 1) := by
  obtain ⟨hlt, he, hne⟩ := List.idxOf?_eq_some_iff.mp h
  refine ⟨?_, ?_⟩
  · intro hm
    obtain ⟨j, hj, hx⟩ := List.mem_take_iff_getElem.mp hm
    exact hne j (by omega) hx
  · rw [← he, ← List.drop_eq_getElem_cons hlt, List.take_append_drop]

theorem idxOf?_append_cons {xs : List α} (h : e ∉ xs) (ys : List α) :
    (xs ++ e :: ys).idxOf? e = some xs.length := by
  refine List.idxOf?_eq_some_iff.mpr ⟨by simp, by simp, ?_⟩
  intro j hj
  rw [List.getElem_append_left hj]
  intro he
  exact h (he ▸ List.getElem_mem hj)

/-- A finished frame is what was read up to the first end symbol. -/
theorem feed_frame {acc chunk f : List α} (hbe : b ≠ e) (hacc : e ∉ acc)
    (h : feed b e acc chunk = .frame f) :
    f.head? = some b ∧ e ∉ f ∧ ∃ rest, acc ++ chunk = f ++ e :: rest := by
  unfold feed at h
  split at h
  · next hb =>
    cases hi : chunk.idxOf? e with
    | none => simp [hi] at h
    | some i =>
      simp only [hi, Outcome.frame.injEq] at h
      obtain ⟨hne, hsplit⟩ := idxOf?_eq_some_split hi
      have hall : acc ++ chunk = f ++ e :: chunk.drop (i + 1) := by
        rw [← h, List.append_assoc, ← hsplit]
      refine ⟨?_, ?_, _, hall⟩
      · rw [hall, List.head?_append] at hb
        cases hf : f.head? with
        | none =>
          rw [hf] at hb
          exact absurd (Option.some.inj hb).symm hbe
        | some x => rwa [hf] at hb
      · rw [← h, List.mem_append]
        exact fun hm => hm.elim hacc hne
  · cases h

/-- A frame that goes on keeps everything read so far. -/
theorem feed_more {acc chunk acc' : List α} (hacc : e ∉ acc)
    (h : feed b e acc chunk = .more acc') :
    acc' = acc ++ chunk ∧ acc'.head? = some b ∧ e ∉ acc' := by
  unfold feed at h
  split at h
  · next hb =>
    cases hi : chunk.idxOf? e with
    | some i => simp [hi] at h
    | none =>
      simp only [hi, Outcome.more.injEq] at h
      subst h
      refine ⟨rfl, hb, ?_⟩
      intro hm
      exact (List.mem_append.mp hm).elim hacc (List.idxOf?_eq_none_iff.mp hi)
  · cases h

/-- A chunk without the end symbol is added to the frame. -/
theorem feed_eq_more {acc chunk : List α} (hb : (acc ++ chunk).head? = some b) (he : e ∉ chunk) :
    feed b e acc chunk = .more (acc ++ chunk) := by
  rw [feed, if_pos hb, List.idxOf?_eq_none_iff.mpr he]

/-- The chunk with the end symbol finishes the frame. -/
theorem feed_eq_frame {acc chunk f rest : List α} (hacc : e ∉ acc) (hf : e ∉ f)
    (hb : f.head? = some b) (h : acc ++ chunk = f ++ e :: rest) :
    feed b e acc chunk = .frame f := by
  have hhead : (acc ++ chunk).head? = some b := by rw [h, List.head?_append, hb]; rfl
  have hchunk : ∃ g, f = acc ++ g ∧ chunk = g ++ e :: rest := by
    rcases List.append_eq_append_iff.mp h with ⟨g, hg, hc⟩ | ⟨g, hg, hc⟩
    · exact ⟨g, hg, hc⟩
    · cases g with
      | nil => exact ⟨[], by simpa using hg.symm, by simpa using hc.symm⟩
      | cons x g =>
        obtain ⟨rfl, _⟩ := List.cons.inj hc
        exact absurd (by rw [hg]; simp) hacc
  obtain ⟨g, rfl, rfl⟩ := hchunk
  have hg : e ∉ g := fun hm => hf (List.mem_append_right _ hm)
  rw [feed, if_pos hhead, idxOf?_append_cons hg]
  simp

/-- The first end symbol splits a list in one way. -/
theorem split_unique {f f' rest rest' : List α} (hf : e ∉ f) (hf' : e ∉ f')
    (h : f ++ e :: rest = f' ++ e :: rest') : f = f' ∧ rest = rest' := by
  have hidx := idxOf?_append_cons hf rest
  rw [h, idxOf?_append_cons hf' rest'] at hidx
  have hlen : f.length = f'.length := (Option.some.inj hidx).symm
  obtain ⟨hfront, hback⟩ := List.append_inj h hlen
  exact ⟨hfront, (List.cons.inj hback).2⟩

/-- Frames that end with the end symbol and hold no other: none begins another. -/
theorem eq_of_begins {f f' : List α} (hf : e ∉ f) (hf' : e ∉ f') (h : f ++ [e] <+: f' ++ [e]) :
    f = f' := by
  obtain ⟨rest, hrest⟩ := h
  rw [List.append_assoc, List.singleton_append] at hrest
  exact (split_unique hf hf' hrest).1

/-! ## Streams -/

/-- Frames one behind the other. -/
def stream (e : α) (fs : List (List α)) : List α := fs.flatMap fun f => f ++ [e]

/-- The finished frames of a stream, with the symbols `acc` of one that has begun. -/
def cut (e : α) : List α → List α → List (List α)
  | _, [] => []
  | acc, x :: xs => if x = e then acc :: cut e [] xs else cut e (acc ++ [x]) xs

omit [DecidableEq α] in
theorem stream_cons (f : List α) (fs : List (List α)) :
    stream e (f :: fs) = f ++ e :: stream e fs := by
  simp [stream]

theorem cut_of_not_mem {xs : List α} (h : e ∉ xs) (acc : List α) : cut e acc xs = [] := by
  induction xs generalizing acc with
  | nil => rfl
  | cons x xs ih =>
    rw [cut, if_neg fun hx : x = e => h (hx ▸ List.mem_cons_self ..)]
    exact ih (fun hm => h (List.mem_cons_of_mem x hm)) _

theorem cut_append {f : List α} (h : e ∉ f) (acc rest : List α) :
    cut e acc (f ++ e :: rest) = (acc ++ f) :: cut e [] rest := by
  induction f generalizing acc with
  | nil => rw [List.nil_append, cut, if_pos rfl, List.append_nil]
  | cons x f ih =>
    rw [List.cons_append, cut, if_neg fun hx : x = e => h (hx ▸ List.mem_cons_self ..),
      ih fun hm => h (List.mem_cons_of_mem x hm), List.append_assoc, List.singleton_append]

/-- Of the front of a stream the finished frames are read. -/
theorem cut_prefix {fs : List (List α)} (h : ∀ f ∈ fs, e ∉ f) {xs rest : List α}
    (hs : stream e fs = xs ++ rest) : ∃ n, cut e [] xs = fs.take n := by
  induction fs generalizing xs with
  | nil =>
    obtain ⟨rfl, _⟩ := List.append_eq_nil_iff.mp hs.symm
    exact ⟨0, rfl⟩
  | cons f fs ih =>
    have hf : e ∉ f := h f (List.mem_cons_self ..)
    rw [stream_cons] at hs
    rcases List.append_eq_append_iff.mp hs with ⟨t, rfl, ht⟩ | ⟨t, rfl, _⟩
    · cases t with
      | nil => exact ⟨0, cut_of_not_mem (by rwa [List.append_nil]) []⟩
      | cons y t =>
        rw [List.cons_append] at ht
        obtain ⟨rfl, htail⟩ := List.cons.inj ht
        obtain ⟨n, hn⟩ := ih (fun g hg => h g (List.mem_cons_of_mem f hg)) htail
        exact ⟨n + 1, by rw [cut_append hf, hn]; rfl⟩
    · exact ⟨0, cut_of_not_mem (fun hm => hf (List.mem_append_left t hm)) []⟩

omit [DecidableEq α] in
/-- The rest of a stream is a stream that begins with the rest of a frame. -/
theorem stream_suffix {fs : List (List α)} {xs rest : List α} (hs : stream e fs = xs ++ rest) :
    rest = [] ∨ ∃ i f t, fs[i]? = some f ∧ t <:+ f ∧ rest = stream e (t :: fs.drop (i + 1)) := by
  induction fs generalizing xs with
  | nil => exact .inl (List.append_eq_nil_iff.mp hs.symm).2
  | cons f fs ih =>
    rw [stream_cons] at hs
    rcases List.append_eq_append_iff.mp hs with ⟨t, rfl, ht⟩ | ⟨t, rfl, ht⟩
    · cases t with
      | nil =>
        refine .inr ⟨0, f, [], rfl, List.nil_suffix, ?_⟩
        rw [stream_cons]
        exact ht.symm
      | cons y t =>
        rw [List.cons_append] at ht
        obtain ⟨rfl, htail⟩ := List.cons.inj ht
        rcases ih htail with hnil | ⟨i, g, u, hg, hu, hrest⟩
        · exact .inl hnil
        · exact .inr ⟨i + 1, g, u, hg, hu, hrest⟩
    · refine .inr ⟨0, _, t, rfl, List.suffix_append .., ?_⟩
      rw [stream_cons]
      exact ht

end Libgate.Lib.Framing
