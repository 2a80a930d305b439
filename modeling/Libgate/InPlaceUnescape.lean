import Libgate.Util

/-! `memcpy_unesc` in place. An escape pair brings the read index one cell
further ahead of the write index, so a run over one array reads every cell
before it writes there, and comes to the same as a run into another array. -/

namespace Libgate.InPlaceUnescape
open Lib Lib.Memory Util

/-- How many cells from `s` on the loop reads. -/
def cellsRead (m : Nat → UInt8) (s : Nat) (len : Int) : Nat := frameCode.span m len.toNat s

/-- No cell of `d[0..len]` is one the loop reads. -/
def Disjoint (m : Nat → UInt8) (d s : Nat) (len : Int) : Prop :=
  ∀ i ≤ len.toNat, ∀ j < cellsRead m s len, d + i ≠ s + j

instance (m : Nat → UInt8) (d s : Nat) (len : Int) : Decidable (Disjoint m d s len) :=
  inferInstanceAs (Decidable (∀ i ≤ len.toNat, ∀ j < cellsRead m s len, d + i ≠ s + j))

theorem Disjoint.beside {m : Nat → UInt8} {d s : Nat} {len : Int} (hd : Disjoint m d s len) :
    d ≤ s ∨ s + cellsRead m s len ≤ d := by
  by_contra hnot
  have hd0 := hd 0 (Nat.zero_le _) (d - s) (by omega)
  omega

/-- The bytes and the result do not depend on where the bytes go. -/
theorem unescResult_anywhere (m : Nat → UInt8) (l : Int) {n : Nat} {u : List UInt8 × Option Nat}
    (hu : u.1.length ≤ n) :
    ∃ ws r, ws.length ≤ n + 1 ∧ ∀ d, unescResult m d l u = (store m d ws, r) := by
  obtain ⟨xs, k⟩ := u
  cases k with
  | none => exact ⟨xs, 0, Nat.le_succ_of_le hu, fun _ => rfl⟩
  | some k =>
    refine ⟨xs ++ [0], l - k, ?_, fun _ => rfl⟩
    rw [List.length_append, List.length_singleton]
    exact Nat.succ_le_succ hu

/-- **Unescaping in place is safe.** For every contents and length the run over
one array writes the same bytes as the run into any disjoint one, nothing else,
and returns the same, also when it stops at a bad escape. -/
theorem unesc_in_place (m : Nat → UInt8) (s : Nat) (len : Int) :
    ∃ ws r, ws.length ≤ len.toNat + 1 ∧ memcpyUnesc m s s len = (store m s ws, r) ∧
      ∀ d, Disjoint m d s len → memcpyUnesc m d s len = (store m d ws, r) := by
  obtain ⟨ws, r, hlen, hall⟩ := unescResult_anywhere m len
    (frameCode.length_units_le m len.toNat s)
  refine ⟨ws, r, hlen, ?_, ?_⟩
  · rw [← hall]
    exact memcpyUnesc_eq m (.inl (Nat.le_refl s))
  · intro d hd
    rw [← hall]
    exact memcpyUnescLoop_eq m d s len len.toNat hd.beside

/-- An escape, and a bad one behind it. -/
def badEscape : Nat → UInt8 := fun i => ([0x11, 0xFF, 0x02, 0xFF, 0x07, 0x22] : List UInt8).getD i 0

theorem unesc_bad_escape : ∃ ws r, memcpyUnesc badEscape 0 0 4 = (store badEscape 0 ws, r) ∧
    memcpyUnesc badEscape 6 0 4 = (store badEscape 6 ws, r) := by
  obtain ⟨ws, r, _, hown, hother⟩ := unesc_in_place badEscape 0 4
  exact ⟨ws, r, hown, hother 6 (by decide)⟩

end Libgate.InPlaceUnescape
