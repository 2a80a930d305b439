import Libgate.Basic
import Libgate.Lib.Stuffing

/-! `gp_util.c`: the checksum, the two escape coders, the card number
conversions and the clock records. The escape coders are related to the
stuffing code of `Lib.Stuffing`, the decoder also where it works in place. -/

namespace Libgate.Util
open Lib Lib.Memory

/-! ## Checksum -/

/-- The loop of `crc8_xor`, `n` bytes to go after `p`. -/
def crc8XorLoop (m : Nat → UInt8) (p : Nat) (r : UInt8) : Nat → UInt8
  | 0 => r
  | n + 1 => crc8XorLoop m (p + 1) (r ^^^ m (p + 1)) n

/-- `crc8_xor`. Any length below 2 gives the first byte. -/
def crc8Xor (m : Nat → UInt8) (p : Nat) (l : Int) : UInt8 :=
  crc8XorLoop m p (m p) (l - 1).toNat

/-- The exclusive or of all bytes of a list. -/
def xorAll (xs : List UInt8) : UInt8 := xs.foldl (· ^^^ ·) 0

theorem crc8XorLoop_eq (m : Nat → UInt8) (p : Nat) (r : UInt8) (n : Nat) :
    crc8XorLoop m p r n = (load m (p + 1) n).foldl (· ^^^ ·) r := by
  induction n generalizing p r with
  | zero => rfl
  | succ n ih => rw [crc8XorLoop, ih, load_succ, List.foldl_cons]

theorem crc8Xor_eq (m : Nat → UInt8) (p : Nat) {n : Nat} (h : 0 < n) :
    crc8Xor m p n = xorAll (load m p n) := by
  obtain ⟨k, rfl⟩ := Nat.exists_eq_succ_of_ne_zero (by omega : n ≠ 0)
  have hk : ((k.succ : Nat) - 1 : Int).toNat = k := by omega
  rw [crc8Xor, hk, crc8XorLoop_eq, xorAll, load_succ, List.foldl_cons, UInt8.zero_xor]

theorem crc8Xor_of_lt_two (m : Nat → UInt8) (p : Nat) {l : Int} (h : l < 2) :
    crc8Xor m p l = m p := by
  have hl : (l - 1).toNat = 0 := by omega
  rw [crc8Xor, hl]; rfl

/-! ## Escape coding -/

/-- The loop of `memcpy_esc`: bytes to copy, bytes written, `c`. -/
def memcpyEscLoop : List UInt8 → List UInt8 → Nat → List UInt8 × Nat
  | [], d, c => (d ++ [0], c)
  | s :: rest, d, c =>
    if s &&& 0xF0 = 0xF0 then
      if s = GP_INIT then memcpyEscLoop rest (d ++ [GP_ESC, 1]) (c + 1 + 1)
      else if s = GP_END then memcpyEscLoop rest (d ++ [GP_ESC, 2]) (c + 1 + 1)
      else if s = GP_ESC then memcpyEscLoop rest (d ++ [GP_ESC, 3]) (c + 1 + 1)
      else memcpyEscLoop rest (d ++ [s]) (c + 1)
    else memcpyEscLoop rest (d ++ [s]) (c + 1)

/-- `memcpy_esc`: what it writes, the final zero included, and what it returns. -/
def memcpyEsc (s : List UInt8) : List UInt8 × Nat := memcpyEscLoop s [] 0

/-- The byte an escape pair stands for. -/
def unescCode (c : UInt8) : Option UInt8 :=
  if c = 1 then some GP_INIT else if c = 2 then some GP_END
  else if c = 3 then some GP_ESC else none

/-- The loop of `memcpy_unesc` with `n` iterations to go. The loop counts
iterations, and an escape pair moves `s` by two in one of them. -/
def memcpyUnescLoop (m : Nat → UInt8) (d s : Nat) (l : Int) : Nat → (Nat → UInt8) × Int
  | 0 => (Function.update m d 0, l)
  | n + 1 =>
    if m s = GP_ESC then
      match unescCode (m (s + 1)) with
      | some b => memcpyUnescLoop (Function.update m d b) (d + 1) (s + 2) (l - 1) n
      | none => (m, 0)
    else memcpyUnescLoop (Function.update m d (m s)) (d + 1) (s + 1) l n

/-- `memcpy_unesc` from `s` to `d` in one memory: the memory after it and the
returned length. -/
def memcpyUnesc (m : Nat → UInt8) (d s : Nat) (len : Int) : (Nat → UInt8) × Int :=
  memcpyUnescLoop m d s len len.toNat

def escCode (x : UInt8) : Option UInt8 :=
  if x = GP_INIT then some 1 else if x = GP_END then some 2
  else if x = GP_ESC then some 3 else none

theorem escCode_init : escCode GP_INIT = some 1 := rfl

theorem escCode_end : escCode GP_END = some 2 := rfl

theorem escCode_esc : escCode GP_ESC = some 3 := rfl

theorem escCode_iff (x c : UInt8) : escCode x = some c ↔ unescCode c = some x := by
  constructor
  · intro h
    unfold escCode at h
    split at h
    · next hx => cases h; exact hx ▸ rfl
    · split at h
      · next hx => cases h; exact hx ▸ rfl
      · split at h
        · next hx => cases h; exact hx ▸ rfl
        · cases h
  · intro h
    unfold unescCode at h
    split at h
    · next hc => cases h; exact hc ▸ escCode_init
    · split at h
      · next hc => cases h; exact hc ▸ escCode_end
      · split at h
        · next hc => cases h; exact hc ▸ escCode_esc
        · cases h

/-- The stuffing code the frames use. -/
def frameCode : Stuffing UInt8 where
  esc := GP_ESC
  toCode := escCode
  ofCode := unescCode
  code_iff := escCode_iff
  esc_marked := by decide

/-- One byte of `memcpy_esc`. -/
theorem memcpyEscLoop_cons (b : UInt8) (rest d : List UInt8) (c : Nat) :
    memcpyEscLoop (b :: rest) d c =
      memcpyEscLoop rest (d ++ frameCode.stuffOne b) (c + (frameCode.stuffOne b).length) := by
  have hcode : ∀ k, escCode b = some k → frameCode.stuffOne b = [GP_ESC, k] := by
    intro k hk
    simp [Stuffing.stuffOne, frameCode, hk]
  rw [memcpyEscLoop]
  by_cases hi : b = GP_INIT
  · rw [if_pos (by rw [hi]; rfl), if_pos hi, hcode 1 (hi ▸ escCode_init)]
    rfl
  by_cases he : b = GP_END
  · rw [if_pos (by rw [he]; rfl), if_neg hi, if_pos he, hcode 2 (he ▸ escCode_end)]
    rfl
  by_cases hx : b = GP_ESC
  · rw [if_pos (by rw [hx]; rfl), if_neg hi, if_neg he, if_pos hx, hcode 3 (hx ▸ escCode_esc)]
    rfl
  · have hplain : frameCode.stuffOne b = [b] := by
      simp [Stuffing.stuffOne, frameCode, escCode, hi, he, hx]
    rw [if_neg hi, if_neg he, if_neg hx, ite_self, hplain]
    rfl

theorem memcpyEscLoop_eq (s d : List UInt8) (c : Nat) :
    memcpyEscLoop s d c = (d ++ frameCode.stuff s ++ [0], c + (frameCode.stuff s).length) := by
  induction s generalizing d c with
  | nil => simp [memcpyEscLoop, Stuffing.stuff]
  | cons b rest ih =>
    rw [memcpyEscLoop_cons, ih]
    simp [Stuffing.stuff, Nat.add_assoc]

/-- `memcpy_esc` writes the stuffed bytes and returns their number. -/
theorem memcpyEsc_eq (s : List UInt8) :
    memcpyEsc s = (frameCode.stuff s ++ [0], (frameCode.stuff s).length) := by
  simp [memcpyEsc, memcpyEscLoop_eq]

/-- What `memcpy_unesc` leaves, in terms of the units it decodes: the decoded
bytes and a zero, or the bytes up to the bad escape and a returned 0. -/
def unescResult (m : Nat → UInt8) (d : Nat) (l : Int) (r : List UInt8 × Option Nat) :
    (Nat → UInt8) × Int :=
  match r.2 with
  | some k => (store m d (r.1 ++ [0]), l - k)
  | none => (store m d r.1, 0)

theorem unescResult_cons (m : Nat → UInt8) (d : Nat) (l : Int) (b : UInt8)
    (r : List UInt8 × Option Nat) (j : Nat) :
    unescResult (Function.update m d b) (d + 1) (l - j) r =
      unescResult m d l (b :: r.1, r.2.map (· + j)) := by
  unfold unescResult
  cases hr : r.2 with
  | none => simp [store_cons]
  | some k => simp [store_cons, Int.sub_sub, Int.add_comm]

/-- The write index may not pass the read index, unless it starts behind
everything the loop reads. -/
theorem memcpyUnescLoop_eq (m : Nat → UInt8) (d s : Nat) (l : Int) (n : Nat)
    (h : d ≤ s ∨ s + frameCode.span m n s ≤ d) :
    memcpyUnescLoop m d s l n = unescResult m d l (frameCode.units m n s) := by
  induction n generalizing m d s l with
  | zero => simp [memcpyUnescLoop, Stuffing.units, unescResult, store_cons]
  | succ n ih =>
    have hcongr : ∀ b t, d + 1 ≤ t ∨ t + frameCode.span m n t ≤ d →
        frameCode.units m n t = frameCode.units (Function.update m d b) n t ∧
          frameCode.span m n t = frameCode.span (Function.update m d b) n t := by
      intro b t ht
      apply Stuffing.units_congr
      intro i h1 h2
      exact (Function.update_of_ne (by omega) ..).symm
    unfold memcpyUnescLoop
    by_cases he : m s = GP_ESC
    · rw [if_pos he]
      cases hb : unescCode (m (s + 1)) with
      | none =>
        rw [frameCode.units_bad n he hb]
        simp [unescResult]
      | some b =>
        rw [frameCode.span_esc n he hb] at h
        obtain ⟨hu, hs⟩ := hcongr b (s + 2) (by omega)
        rw [frameCode.units_esc n he hb]
        simp only
        rw [ih _ _ _ _ (by omega), ← hu]
        exact unescResult_cons m d l b _ 1
    · rw [frameCode.span_plain n he] at h
      obtain ⟨hu, hs⟩ := hcongr (m s) (s + 1) (by omega)
      rw [if_neg he, frameCode.units_plain n he, ih _ _ _ _ (by omega), ← hu]
      simpa using unescResult_cons m d l (m s) (frameCode.units m n (s + 1)) 0

/-- `memcpy_unesc` in place, or into memory behind everything it reads. -/
theorem memcpyUnesc_eq (m : Nat → UInt8) {d s : Nat} {len : Int}
    (h : d ≤ s ∨ s + 2 * len.toNat ≤ d) :
    memcpyUnesc m d s len = unescResult m d len (frameCode.units m len.toNat s) := by
  have hspan := frameCode.span_le m len.toNat s
  exact memcpyUnescLoop_eq m d s len len.toNat (by omega)

/-- A good body without an escape in the cells the decoder goes on over. -/
theorem memcpyUnesc_good {m : Nat → UInt8} {d s : Nat} {body x : List UInt8}
    (hd : d ≤ s ∨ s + 2 * body.length ≤ d) (hb : load m s body.length = body)
    (hx : frameCode.unstuff body = some x)
    (hclean : ∀ i < body.length - x.length, m (s + body.length + i) ≠ GP_ESC) :
    (memcpyUnesc m d s body.length).2 = x.length ∧
      load (memcpyUnesc m d s body.length).1 d x.length = x := by
  have hle := frameCode.length_le_of_unstuff hx
  have hzero := frameCode.units_snd_zero_iff.mpr hclean
  have hu := frameCode.units_unstuff hb hx (body.length - x.length)
  rw [Nat.add_sub_of_le hle, hzero] at hu
  rw [memcpyUnesc_eq m hd, Int.toNat_natCast, hu]
  simp only [unescResult, Option.map_some, List.append_assoc]
  exact ⟨by omega, load_store_append ..⟩

/-! ## Card numbers -/

/-- The integer whose little-endian bytes are given. -/
def ofBytesLE (bs : List UInt8) : UInt64 := bs.foldr (fun b a => a <<< 8 ||| b.toUInt64) 0

/-- The eight bytes of an integer in memory. -/
def toBytesLE (a : UInt64) : List UInt8 :=
  (List.range 8).map fun i => (a >>> (8 * i).toUInt64).toUInt8

/-- `be64toh` on a little-endian host. -/
def be64toh (a : UInt64) : UInt64 := ofBytesLE (toBytesLE a).reverse

/-- An `int` passed where a `size_t` is expected. -/
def sizeT (l : Int) : Nat := (l % 0x10000000000000000).toNat

/-- `bin2int`; the shift count is taken modulo 64, as the processor does. -/
def bin2int (m : Nat → UInt8) (p : Nat) (len : Nat) (revert : Bool) : UInt64 :=
  let l := if len ≤ 8 then len else 8
  let a := ofBytesLE (load m p l)
  if revert then be64toh a >>> (8 * (8 - l)).toUInt64 else a

/-- `int2bin`: the `len` bytes it writes. -/
def int2bin (a : UInt64) (len : Nat) (revert : Bool) : List UInt8 :=
  let a := if revert then be64toh a >>> (8 * (8 - len)).toUInt64 else a
  (toBytesLE a).take len

/-- Bit `8 * n` of an integer is the lowest bit of its byte `n`. -/
theorem testBit_ofBytesLE (xs : List UInt8) (b : UInt8) (ys : List UInt8) (hn : xs.length ≤ 7) :
    (ofBytesLE (xs ++ b :: ys)).toNat.testBit (8 * xs.length) = b.toNat.testBit 0 := by
  induction xs with
  | nil =>
    change ((ofBytesLE ys) <<< 8 ||| b.toUInt64).toNat.testBit 0 = _
    rw [UInt64.toNat_or, Nat.testBit_or, UInt64.toNat_shiftLeft, UInt8.toNat_toUInt64]
    have h0 : ((ofBytesLE ys).toNat <<< ((8 : UInt64).toNat % 64) % 2 ^ 64).testBit 0 = false := by
      have hlt : decide (0 ≥ (8 : UInt64).toNat % 64) = false := by decide
      rw [Nat.testBit_mod_two_pow, Nat.testBit_shiftLeft, hlt, Bool.false_and, Bool.and_false]
    rw [h0, Bool.false_or]
  | cons x xs ih =>
    rw [List.length_cons] at hn ⊢
    change ((ofBytesLE (xs ++ b :: ys)) <<< 8 ||| x.toUInt64).toNat.testBit _ = _
    have hx : x.toNat.testBit (8 * (xs.length + 1)) = false := by
      refine Nat.testBit_lt_two_pow (Nat.lt_of_lt_of_le x.toNat_lt ?_)
      exact Nat.pow_le_pow_right (by decide) (Nat.le_mul_of_pos_right 8 (Nat.succ_pos _))
    rw [UInt64.toNat_or, Nat.testBit_or, UInt8.toNat_toUInt64, hx, Bool.or_false,
      UInt64.toNat_shiftLeft, Nat.testBit_mod_two_pow, Nat.testBit_shiftLeft, ← ih (by omega)]
    have h8 : (8 : UInt64).toNat % 64 = 8 := by decide
    rw [h8]
    have h1 : decide (8 * (xs.length + 1) < 64) = true := decide_eq_true (by omega)
    have h2 : decide (8 ≤ 8 * (xs.length + 1)) = true := decide_eq_true (by omega)
    rw [h1, h2, Bool.true_and, Bool.true_and, show 8 * (xs.length + 1) - 8 = 8 * xs.length by omega]

theorem bin2int_zero (m : Nat → UInt8) (p : Nat) (revert : Bool) : bin2int m p 0 revert = 0 := by
  unfold bin2int
  cases revert with
  | false => rfl
  | true =>
    change be64toh (ofBytesLE []) >>> (64 : Nat).toUInt64 = 0
    decide

/-- A card number of at least one byte whose first byte is odd is not zero. -/
theorem bin2int_ne_zero {m : Nat → UInt8} {p len : Nat} (hlen : len ≠ 0)
    (hodd : (m p).toNat.testBit 0 = true) (revert : Bool) : bin2int m p len revert ≠ 0 := by
  unfold bin2int
  simp only
  obtain ⟨l, hl⟩ : ∃ l, (if len ≤ 8 then len else 8) = l + 1 :=
    Nat.exists_eq_succ_of_ne_zero (by split <;> omega)
  have hl8 : l ≤ 7 := by split at hl <;> omega
  rw [hl, load_succ]
  generalize load m (p + 1) l = bs
  have hlow : (ofBytesLE (m p :: bs)).toNat.testBit 0 = true :=
    (testBit_ofBytesLE [] (m p) bs (by decide)).trans hodd
  generalize ofBytesLE (m p :: bs) = a at hlow
  intro hz
  cases revert with
  | false =>
    rw [if_neg Bool.false_ne_true] at hz
    rw [hz] at hlow
    cases hlow
  | true =>
    rw [if_pos rfl] at hz
    -- the lowest byte of `a` is the highest of `be64toh a`
    have hbytes : (toBytesLE a).reverse = (toBytesLE a).tail.reverse ++ [(a >>> 0).toUInt8] := rfl
    have htop : (be64toh a).toNat.testBit 56 = true := by
      rw [be64toh, hbytes]
      refine (testBit_ofBytesLE (toBytesLE a).tail.reverse _ [] (by simp [toBytesLE])).trans ?_
      rw [UInt64.shiftRight_zero, UInt64.toNat_toUInt8, Nat.testBit_mod_two_pow, hlow]
      rfl
    have hbit := congrArg (fun z : UInt64 => z.toNat.testBit (56 - 8 * (8 - (l + 1)))) hz
    have hshift : (8 * (8 - (l + 1))).toUInt64.toNat % 64 = 8 * (8 - (l + 1)) := by
      change (UInt64.ofNat _).toNat % 64 = _
      rw [UInt64.toNat_ofNat']
      omega
    simp only [UInt64.toNat_shiftRight, Nat.testBit_shiftRight, hshift] at hbit
    rw [Nat.add_sub_of_le (by omega), htop] at hbit
    exact absurd hbit (by simp)

/-! ## Clocks -/

/-- `int2bcd`, cut to the byte it is stored in. -/
def int2bcd (x : Int) : UInt8 := UInt8.ofInt (x.tdiv 10 * 16 + x.tmod 10)

/-- `bcd2int` -/
def bcd2int (x : UInt8) : Int := ((x &&& 0xF0) >>> 4).toNat * 10 + (x &&& 0x0F).toNat

/-- The eight bytes of the `gp_date_rtc_t` that `set_rtc_date` fills from the
local time. The stop bit of the first byte is not assigned. -/
def rtcDate (t : Tm) (stack : UInt8) : List UInt8 :=
  [(int2bcd t.sec &&& 0x7F) ||| (stack &&& 0x80), int2bcd t.min, int2bcd t.hour,
    int2bcd (if t.wday = 0 then 7 else t.wday), int2bcd t.mday, int2bcd (t.mon + 1),
    int2bcd (t.year.tmod 100), 0x10]

/-- `get_rtc_date` on `curtime`; the seconds share their byte with the stop bit. -/
def getRtcDate (m : Nat → UInt8) (p : Nat) (curtime : Tm) : Tm :=
  { curtime with
    sec := bcd2int (m p &&& 0x7F)
    min := bcd2int (m (p + 1))
    hour := bcd2int (m (p + 2))
    wday := (bcd2int (m (p + 3))).tmod 7
    mday := bcd2int (m (p + 4))
    mon := bcd2int (m (p + 5)) - 1
    year := bcd2int (m (p + 6)) + 100 }

/-- `get_ev_date` on `curtime`. -/
def getEvDate (d : GpEvent) (curtime : Tm) : Tm :=
  { curtime with
    sec := bcd2int d.sec
    min := bcd2int d.min
    hour := bcd2int d.hour
    mday := bcd2int d.day
    mon := bcd2int d.mon - 1 }

/-- `get_ev_time`: the time and the `curtime` that `mktime` leaves. -/
def getEvTime (mktime : Tm → Int × Tm) (d : GpEvent) (curtime : Tm) : Int × Tm :=
  mktime (getEvDate d curtime)

theorem toNat_ofInt {n : Int} (h0 : 0 ≤ n) (h1 : n < 256) : ((UInt8.ofInt n).toNat : Int) = n := by
  change ((UInt8.ofNat (n % 256).toNat).toNat : Int) = n
  rw [UInt8.toNat_ofNat']
  omega

/-- Two decimal digits, the tens in the upper half of the byte. -/
theorem toNat_int2bcd {n : Int} (h0 : 0 ≤ n) (h1 : n < 160) :
    ((int2bcd n).toNat : Int) = n / 10 * 16 + n % 10 := by
  rw [int2bcd, Int.tdiv_eq_ediv_of_nonneg h0, Int.tmod_eq_emod_of_nonneg h0]
  exact toNat_ofInt (by omega) (by omega)

theorem bcd2int_eq (x : UInt8) : bcd2int x = (x.toNat / 16 * 10 + x.toNat % 16 : Nat) := by
  have hx := x.toNat_lt
  have hhigh : ((x &&& 0xF0) >>> 4).toNat = x.toNat / 16 := by
    rw [UInt8.toNat_shiftRight, UInt8.toNat_and]
    change (x.toNat &&& 240) >>> 4 = _
    rw [Nat.shiftRight_and_distrib, Nat.shiftRight_eq_div_pow]
    change x.toNat / 2 ^ 4 &&& 2 ^ 4 - 1 = _
    rw [Nat.and_two_pow_sub_one_eq_mod]
    omega
  have hlow : (x &&& 0x0F).toNat = x.toNat % 16 := Nat.and_two_pow_sub_one_eq_mod x.toNat 4
  rw [bcd2int, hhigh, hlow]
  push_cast
  rfl

theorem bcd2int_int2bcd {n : Int} (h0 : 0 ≤ n) (h1 : n < 100) : bcd2int (int2bcd n) = n := by
  have hbyte := toNat_int2bcd h0 (by omega)
  rw [bcd2int_eq]
  omega

end Libgate.Util
