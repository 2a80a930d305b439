import Libgate.Util

/-! What `memcpy_unesc` does with the output of `memcpy_esc`. The decoder's loop
counts iterations, so behind an encoded block with `k` escape pairs it decodes
`k` more units of whatever follows. These units never change the bytes already
written, but an escape among them changes the returned length. -/

namespace Libgate.EscapeRoundTrip
open Lib Lib.Memory Util

/-- A buffer that holds the escaped form of `x`, with `tail` behind it. -/
def escBuffer (m : Nat → UInt8) (s : Nat) (x tail : List UInt8) : Nat → UInt8 :=
  store m s ((memcpyEsc x).1.take (memcpyEsc x).2 ++ tail)

/-- The bytes of `x` that `memcpy_esc` doubles. -/
def escapes (x : List UInt8) : Nat := (memcpyEsc x).2 - x.length

theorem memcpyEsc_take (x : List UInt8) :
    (memcpyEsc x).1.take (memcpyEsc x).2 = frameCode.stuff x := by
  simp [memcpyEsc_eq]

theorem memcpyEsc_length (x : List UInt8) : (memcpyEsc x).2 = (frameCode.stuff x).length := by
  simp [memcpyEsc_eq]

theorem memcpyEsc_snd (x : List UInt8) : (memcpyEsc x).2 = x.length + escapes x := by
  have h := frameCode.length_stuff x
  simp only [escapes, memcpyEsc_eq] at *
  omega

/-- The encoded block is in the buffer. -/
theorem load_escBuffer (m : Nat → UInt8) (s : Nat) (x tail : List UInt8) :
    load (escBuffer m s x tail) s (frameCode.stuff x).length = frameCode.stuff x := by
  rw [escBuffer, memcpyEsc_take, load_store_append]

/-- The units `memcpy_unesc` decodes: the encoded bytes, then as many units of
the rest as there were escape pairs. -/
theorem units_escBuffer (m : Nat → UInt8) (s : Nat) (x tail : List UInt8) :
    frameCode.units (escBuffer m s x tail) (memcpyEsc x).2 s =
      (x ++ (frameCode.units (escBuffer m s x tail) (escapes x) (s + (memcpyEsc x).2)).1,
        (frameCode.units (escBuffer m s x tail) (escapes x) (s + (memcpyEsc x).2)).2.map
          (· + escapes x)) := by
  have hu := frameCode.units_unstuff (load_escBuffer m s x tail) (frameCode.unstuff_stuff x)
    (escapes x)
  rw [← memcpyEsc_snd, ← memcpyEsc_length] at hu
  rw [hu]; rfl

/-- A length that is right says that the surplus units met no escape. -/
theorem surplus_clean {m : Nat → UInt8} {d s : Nat} {x tail : List UInt8}
    (hd : d ≤ s ∨ s + 2 * (memcpyEsc x).2 ≤ d)
    (hlen : (memcpyUnesc (escBuffer m s x tail) d s (memcpyEsc x).2).2 = x.length) :
    (frameCode.units (escBuffer m s x tail) (escapes x) (s + (memcpyEsc x).2)).2 = some 0 := by
  have hrun : memcpyUnesc (escBuffer m s x tail) d s (memcpyEsc x).2 = _ :=
    memcpyUnesc_eq _ (by simpa using hd)
  have hsnd := memcpyEsc_snd x
  rw [Int.toNat_natCast, units_escBuffer] at hrun
  rw [hrun] at hlen
  cases hu : (frameCode.units (escBuffer m s x tail) (escapes x) (s + (memcpyEsc x).2)).2 with
  | none =>
    -- a bad escape returns 0, but a string with an escaped byte is not empty
    simp only [unescResult, hu, Option.map_none] at hlen
    obtain rfl : x = [] := List.length_eq_zero_iff.mp (by omega)
    rw [show escapes [] = 0 by decide] at hu
    simp [Stuffing.units] at hu
  | some j =>
    simp only [unescResult, hu, Option.map_some] at hlen
    rw [show j = 0 by omega]

/-- **Unescaping undoes escaping exactly when the decoder's surplus iterations
meet no escape.** Behind the encoded block of a string with `k` escaped bytes
the loop goes on over the next `k` bytes; the result is right if and only if
none of them is `GP_ESC`. The destination is in place, below the source, or
behind everything the loop reads. -/
theorem memcpyUnesc_memcpyEsc_iff (m : Nat → UInt8) (d s : Nat) (x tail : List UInt8)
    (hd : d ≤ s ∨ s + 2 * (memcpyEsc x).2 ≤ d) :
    ((memcpyUnesc (escBuffer m s x tail) d s (memcpyEsc x).2).2 = x.length ∧
        load (memcpyUnesc (escBuffer m s x tail) d s (memcpyEsc x).2).1 d x.length = x) ↔
      ∀ i < escapes x, escBuffer m s x tail (s + (memcpyEsc x).2 + i) ≠ GP_ESC := by
  constructor
  · intro ⟨hlen, _⟩
    exact frameCode.units_snd_zero_iff.mp (surplus_clean hd hlen)
  · intro hclean
    have hgood := memcpyUnesc_good (m := escBuffer m s x tail) (d := d)
      (by rwa [← memcpyEsc_length]) (load_escBuffer m s x tail) (frameCode.unstuff_stuff x)
      (by rwa [← memcpyEsc_length])
    rwa [← memcpyEsc_length] at hgood

/-- Two escaped bytes in place, followed by the frame's end and its zero. -/
theorem memcpyUnesc_memcpyEsc_frame :
    (memcpyUnesc (escBuffer (fun _ => 0xFF) 3 [0xFA, 0xFF] [GP_END, 0]) 3 3
        (memcpyEsc [0xFA, 0xFF]).2).2 = ([0xFA, 0xFF] : List UInt8).length ∧
      load (memcpyUnesc (escBuffer (fun _ => 0xFF) 3 [0xFA, 0xFF] [GP_END, 0]) 3 3
        (memcpyEsc [0xFA, 0xFF]).2).1 3 ([0xFA, 0xFF] : List UInt8).length = [0xFA, 0xFF] :=
  (memcpyUnesc_memcpyEsc_iff (fun _ => 0xFF) 3 3 [0xFA, 0xFF] [GP_END, 0] (by decide)).mpr
    (by decide)

/-- One escaped byte followed by an escape pair: the decoder returns 0. -/
theorem memcpyUnesc_tail_escape :
    ¬ ∀ (m : Nat → UInt8) (s : Nat) (x tail : List UInt8),
      (memcpyUnesc (escBuffer m s x tail) s s (memcpyEsc x).2).2 = x.length ∧
        load (memcpyUnesc (escBuffer m s x tail) s s (memcpyEsc x).2).1 s x.length = x := by
  intro h
  have := (h (fun _ => 0) 0 [0xFA] [GP_ESC, 1]).1
  revert this; decide

end Libgate.EscapeRoundTrip
