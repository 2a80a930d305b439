import Mathlib.Data.Nat.Digits.Lemmas
import Libgate.Util

/-! Card numbers as bytes. A 64-bit number has eight bytes in memory, lowest
first; `int2bin` keeps some of them and `bin2int` reads them back. With the
revert flag both go through `be64toh` and a shift, which comes to reversing the
bytes. -/

namespace Libgate.CardNumbers
open Lib.Memory Util

/-! ## The value of some bytes -/

/-- The number with the given bytes, lowest first. -/
def value (bs : List UInt8) : Nat := Nat.ofDigits 256 (bs.map UInt8.toNat)

theorem value_cons (b : UInt8) (bs : List UInt8) : value (b :: bs) = b.toNat + 256 * value bs :=
  Nat.ofDigits_cons ..

theorem byte_lt (bs : List UInt8) : ∀ d ∈ bs.map UInt8.toNat, d < 256 := by
  intro d hd
  obtain ⟨b, _, rfl⟩ := List.mem_map.mp hd
  exact b.toNat_lt

theorem value_lt (bs : List UInt8) : value bs < 256 ^ bs.length := by
  have hlt := Nat.ofDigits_lt_base_pow_length (by decide : 1 < 256) (byte_lt bs)
  rwa [List.length_map] at hlt

theorem value_take (bs : List UInt8) (n : Nat) : value (bs.take n) = value bs % 256 ^ n := by
  rw [value, value, List.map_take]
  exact (Nat.ofDigits_mod_pow_eq_ofDigits_take n (by decide) _ (byte_lt bs)).symm

theorem value_drop (bs : List UInt8) (n : Nat) : value (bs.drop n) = value bs / 256 ^ n := by
  rw [value, value, List.map_drop]
  exact (Nat.ofDigits_div_pow_eq_ofDigits_drop n (by decide) _ (byte_lt bs)).symm

theorem value_append_zeros (bs : List UInt8) (n : Nat) :
    value (bs ++ List.replicate n 0) = value bs := by
  rw [value, List.map_append, List.map_replicate]
  exact Nat.ofDigits_append_replicate_zero _

/-- As many bytes with one value are the same. -/
theorem eq_of_value {bs cs : List UInt8} (hlen : bs.length = cs.length)
    (hv : value bs = value cs) : bs = cs := by
  have hmap := Nat.ofDigits_inj_of_len_eq (by decide : 1 < 256)
    (by rwa [List.length_map, List.length_map]) (byte_lt bs) (byte_lt cs) hv
  exact (List.map_inj_right fun _ _ h => UInt8.toNat_inj.mp h).mp hmap

/-! ## Integers in memory -/

theorem ofBytesLE_toNat {bs : List UInt8} (hlen : bs.length ≤ 8) :
    (ofBytesLE bs).toNat = value bs := by
  induction bs with
  | nil => rfl
  | cons b bs ih =>
    have hshort : bs.length ≤ 7 := Nat.le_of_succ_le_succ hlen
    have hsmall : value bs < 256 ^ 7 :=
      Nat.lt_of_lt_of_le (value_lt bs) (Nat.pow_le_pow_right (by decide) hshort)
    have hb : b.toNat < 256 := b.toNat_lt
    have hshift : value bs * 256 % 18446744073709551616 = value bs * 256 := by
      refine Nat.mod_eq_of_lt ?_
      change value bs < 72057594037927936 at hsmall
      omega
    change (ofBytesLE bs <<< 8 ||| b.toUInt64).toNat = _
    rw [UInt64.toNat_or, UInt64.toNat_shiftLeft, UInt8.toNat_toUInt64, ih (by omega),
      Nat.shiftLeft_eq, value_cons]
    change value bs * 256 % 18446744073709551616 ||| b.toNat = _
    rw [hshift, Nat.mul_comm (value bs), ← Nat.two_pow_add_eq_or_of_lt (i := 8) hb]
    exact Nat.add_comm ..

theorem length_toBytesLE (a : UInt64) : (toBytesLE a).length = 8 := rfl

theorem toNat_shift (a : UInt64) {k : Nat} (hk : k < 8) :
    (a >>> (8 * k).toUInt64).toNat = a.toNat / 256 ^ k := by
  have hcount : (8 * k).toUInt64.toNat % 64 = 8 * k := by
    change (UInt64.ofNat (8 * k)).toNat % 64 = _
    rw [UInt64.toNat_ofNat']
    omega
  rw [UInt64.toNat_shiftRight, hcount, Nat.shiftRight_eq_div_pow, Nat.pow_mul]

/-- The low bytes of a number, lowest first. -/
def lowBytes (n x : Nat) : List UInt8 := (List.range n).map fun i => UInt8.ofNat (x / 256 ^ i)

theorem value_lowBytes (n x : Nat) : value (lowBytes n x) = x % 256 ^ n := by
  induction n with
  | zero => rw [Nat.pow_zero, Nat.mod_one]; rfl
  | succ n ih =>
    have hlast : lowBytes (n + 1) x = lowBytes n x ++ [UInt8.ofNat (x / 256 ^ n)] := by
      rw [lowBytes, List.range_succ, List.map_append]
      rfl
    have hlen : ((lowBytes n x).map UInt8.toNat).length = n := by
      rw [lowBytes, List.length_map, List.length_map, List.length_range]
    have hbyte : (UInt8.ofNat (x / 256 ^ n)).toNat = x / 256 ^ n % 256 := UInt8.toNat_ofNat' ..
    rw [hlast, value, List.map_append, Nat.ofDigits_append, hlen, List.map_cons, List.map_nil,
      Nat.ofDigits_singleton, hbyte, Nat.mod_pow_succ]
    exact congrArg (· + _) ih

theorem toBytesLE_eq (a : UInt64) : toBytesLE a = lowBytes 8 a.toNat := by
  refine List.map_congr_left ?_
  intro i hi
  apply UInt8.toNat_inj.mp
  rw [UInt64.toNat_toUInt8, toNat_shift a (List.mem_range.mp hi)]
  exact (UInt8.toNat_ofNat' ..).symm

theorem value_toBytesLE (a : UInt64) : value (toBytesLE a) = a.toNat := by
  rw [toBytesLE_eq, value_lowBytes]
  exact Nat.mod_eq_of_lt a.toNat_lt

/-- What a short number leaves of the eight bytes is zero. -/
theorem toBytesLE_ofBytesLE {bs : List UInt8} (hlen : bs.length ≤ 8) :
    toBytesLE (ofBytesLE bs) = bs ++ List.replicate (8 - bs.length) 0 := by
  refine eq_of_value ?_ ?_
  · rw [length_toBytesLE, List.length_append, List.length_replicate]
    omega
  · rw [value_toBytesLE, ofBytesLE_toNat hlen, value_append_zeros]

theorem be64toh_toNat (a : UInt64) : (be64toh a).toNat = value (toBytesLE a).reverse :=
  ofBytesLE_toNat (by rw [List.length_reverse, length_toBytesLE])

/-- The swap and the shift behind it leave the reversed bytes but the first ones. -/
theorem swapped_toNat (a : UInt64) {k : Nat} (hk : k < 8) :
    (be64toh a >>> (8 * k).toUInt64).toNat = value ((toBytesLE a).reverse.drop k) := by
  rw [toNat_shift _ hk, be64toh_toNat, value_drop]

/-! ## `int2bin` and `bin2int` -/

theorem length_int2bin (a : UInt64) {len : Nat} (hlen : len ≤ 8) (revert : Bool) :
    (int2bin a len revert).length = len := by
  rw [int2bin, List.length_take, length_toBytesLE, Nat.min_eq_left hlen]

section Lengths
variable {len : Nat} (hpos : 1 ≤ len) (hlen : len ≤ 8)
include hpos hlen

theorem int2bin_revert (a : UInt64) : int2bin a len true = ((toBytesLE a).take len).reverse := by
  let x := be64toh a >>> (8 * (8 - len)).toUInt64
  have hx : x.toNat = value ((toBytesLE a).take len).reverse := by
    have hdrop : (toBytesLE a).reverse.drop (8 - len) = ((toBytesLE a).take len).reverse := by
      rw [List.reverse_take, length_toBytesLE]
    rw [← hdrop]
    exact swapped_toNat a (by omega)
  have hsize : ((toBytesLE a).take len).reverse.length = len := by
    rw [List.length_reverse, List.length_take, length_toBytesLE, Nat.min_eq_left hlen]
  change (toBytesLE x).take len = _
  refine eq_of_value ?_ ?_
  · rw [List.length_take, length_toBytesLE, Nat.min_eq_left hlen, hsize]
  · have hlt := value_lt ((toBytesLE a).take len).reverse
    rw [hsize] at hlt
    rw [value_take, value_toBytesLE, hx]
    exact Nat.mod_eq_of_lt hlt

omit hpos in
theorem bin2int_plain (m : Nat → UInt8) (p : Nat) :
    bin2int m p len false = ofBytesLE (load m p len) := by
  rw [bin2int, if_pos hlen, if_neg Bool.false_ne_true]

theorem bin2int_revert (m : Nat → UInt8) (p : Nat) :
    bin2int m p len true = ofBytesLE (load m p len).reverse := by
  have hsize : (load m p len).length = len := length_load ..
  have hbytes : (toBytesLE (ofBytesLE (load m p len))).reverse.drop (8 - len) =
      (load m p len).reverse := by
    rw [toBytesLE_ofBytesLE (by omega), List.reverse_append, List.reverse_replicate, hsize]
    exact List.drop_left' List.length_replicate
  have hunfold : bin2int m p len true =
      be64toh (ofBytesLE (load m p len)) >>> (8 * (8 - len)).toUInt64 := by
    rw [bin2int, if_pos hlen, if_pos rfl]
  apply UInt64.toNat_inj.mp
  rw [hunfold, swapped_toNat _ (by omega), hbytes, ofBytesLE_toNat]
  rw [List.length_reverse, hsize]
  exact hlen

/-- A card number written with `int2bin` is read back with `bin2int`, cut to the
bytes written. -/
theorem bin2int_int2bin {m : Nat → UInt8} {p : Nat} {a : UInt64} {revert : Bool}
    (hm : load m p len = int2bin a len revert) :
    (bin2int m p len revert).toNat = a.toNat % 256 ^ len := by
  have hsize : ((toBytesLE a).take len).length ≤ 8 := by
    rw [List.length_take, length_toBytesLE]
    omega
  have hlow : (ofBytesLE ((toBytesLE a).take len)).toNat = a.toNat % 256 ^ len := by
    rw [ofBytesLE_toNat hsize, value_take, value_toBytesLE]
  cases revert with
  | false =>
    rw [bin2int_plain hlen, hm]
    exact hlow
  | true =>
    rw [bin2int_revert hpos hlen, hm, int2bin_revert hpos hlen, List.reverse_reverse]
    exact hlow

omit hpos in
theorem take_toBytesLE {bs : List UInt8} (hbs : bs.length = len) :
    (toBytesLE (ofBytesLE bs)).take len = bs := by
  rw [toBytesLE_ofBytesLE (by omega)]
  exact List.take_left' hbs

/-- A string read with `bin2int` is written again with `int2bin`. -/
theorem int2bin_bin2int (m : Nat → UInt8) (p : Nat) (revert : Bool) :
    int2bin (bin2int m p len revert) len revert = load m p len := by
  cases revert with
  | false =>
    rw [bin2int_plain hlen]
    exact take_toBytesLE hlen (length_load ..)
  | true =>
    rw [bin2int_revert hpos hlen, int2bin_revert hpos hlen,
      take_toBytesLE hlen (by rw [List.length_reverse, length_load]), List.reverse_reverse]

end Lengths

/-! ## Round trips -/

/-- Numbers and strings of `len` bytes correspond, in either byte order, and the
orders differ by reversing the string. -/
structure RoundTrips (len : Nat) : Prop where
  number : ∀ m p a revert,
    (bin2int (store m p (int2bin a len revert)) p len revert).toNat = a.toNat % 2 ^ (8 * len)
  string : ∀ m p (s : List UInt8) revert, s.length = len →
    int2bin (bin2int (store m p s) p len revert) len revert = s
  reversed : ∀ m p (s : List UInt8), s.length = len →
    bin2int (store m p s) p len true = bin2int (store m p s.reverse) p len false

theorem load_stored (m : Nat → UInt8) (p : Nat) {s : List UInt8} {len : Nat} (hs : s.length = len) :
    load (store m p s) p len = s := by
  have hload := load_store_append m p s []
  rwa [List.append_nil, hs] at hload

theorem roundTrips_of_le {len : Nat} (hpos : 1 ≤ len) (hlen : len ≤ 8) : RoundTrips len where
  number m p a revert := by
    have hstored := load_stored m p (length_int2bin a hlen revert)
    rw [bin2int_int2bin hpos hlen hstored, Nat.pow_mul]
  string m p s revert hs := by
    rw [int2bin_bin2int hpos hlen, load_stored m p hs]
  reversed m p s hs := by
    have hrev : s.reverse.length = len := by rw [List.length_reverse, hs]
    rw [bin2int_revert hpos hlen, bin2int_plain hlen, load_stored m p hs, load_stored m p hrev]

/-- More than eight bytes are not read. -/
theorem bin2int_long {len : Nat} (hlen : 8 < len) (m : Nat → UInt8) (p : Nat) (revert : Bool) :
    bin2int m p len revert = bin2int m p 8 revert := by
  rw [bin2int, bin2int, if_neg (Nat.not_le.mpr hlen), if_pos (Nat.le_refl 8)]

/-- **Card numbers round-trip in both byte orders**, for every length of one to
eight bytes; a longer string counts for its first eight bytes. -/
theorem card_numbers_round_trip :
    (∀ len, 1 ≤ len → len ≤ 8 → RoundTrips len) ∧
      ∀ len, 8 < len → ∀ m p revert, bin2int m p len revert = bin2int m p 8 revert :=
  ⟨fun _ hpos hlen => roundTrips_of_le hpos hlen, fun _ hlen => bin2int_long hlen⟩

theorem card_numbers_six_bytes :
    (bin2int (store (fun _ => 0) 0 (int2bin 0x1122334455667788 6 true)) 0 6 true).toNat =
      (0x1122334455667788 : UInt64).toNat % 2 ^ 48 :=
  (card_numbers_round_trip.1 6 (by decide) (by decide)).number (fun _ => 0) 0 0x1122334455667788 true

end Libgate.CardNumbers
