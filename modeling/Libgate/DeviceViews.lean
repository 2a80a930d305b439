import Libgate.Layer

/-! The two views of the active controllers. `cmd_get_dev_vector` writes one
character for each controller and a blank behind every fourth;
`cmd_get_dev_bvector` sets one bit of a 64-bit mask for each, and the bit it
shifts along is gone behind the 64th. -/

namespace Libgate.DeviceViews
open Lib.Memory Cmd Layer

/-! ## The mask -/

/-- The mask shifted along has bit `i` set and no other; behind bit 63 it is empty. -/
def OneBit (b : UInt64) (i : Nat) : Prop := ∀ k, b.toNat.testBit k = decide (k = i ∧ k < 64)

theorem oneBit_one : OneBit 1 0 := by
  intro k
  have hbit : (1 : UInt64).toNat.testBit k = decide (0 = k) := Nat.testBit_two_pow (n := 0)
  rw [hbit]
  exact decide_eq_decide.mpr (by omega)

theorem OneBit.shift {b : UInt64} {i : Nat} (hb : OneBit b i) : OneBit (b <<< 1) (i + 1) := by
  intro k
  have hcount : (1 : UInt64).toNat % 64 = 1 := by decide
  rw [UInt64.toNat_shiftLeft, hcount, Nat.testBit_mod_two_pow, Nat.testBit_shiftLeft, hb (k - 1)]
  simp only [← Bool.decide_and]
  exact decide_eq_decide.mpr (by omega)

/-- The bits of the mask behind `n` turns of the loop from `i` on. -/
theorem testBit_devBvectorLoop (h : Host) {n i : Nat} {v b : UInt64} (hb : OneBit b i) (k : Nat) :
    (devBvectorLoop h (List.range' i n) v b).toNat.testBit k =
      (v.toNat.testBit k || decide (i ≤ k ∧ k < i + n ∧ k < 64) && (h.devices (k + 1)).activ) := by
  induction n generalizing i v b with
  | zero =>
    have hnone : ¬ (i ≤ k ∧ k < i + 0 ∧ k < 64) := by omega
    rw [decide_eq_false hnone]
    simp [devBvectorLoop]
  | succ n ih =>
    rw [List.range'_succ, devBvectorLoop, ih hb.shift]
    have hbit : (if (h.devices (i + 1)).activ then v ||| b else v).toNat.testBit k =
        (v.toNat.testBit k || decide (k = i ∧ k < 64) && (h.devices (i + 1)).activ) := by
      cases (h.devices (i + 1)).activ with
      | false => simp
      | true => simp [hb k]
    rw [hbit, Bool.or_assoc]
    congr 1
    by_cases hk : k = i
    · subst hk
      simp
    · have hrange : decide (i + 1 ≤ k ∧ k < i + 1 + n ∧ k < 64) =
          decide (i ≤ k ∧ k < i + (n + 1) ∧ k < 64) := decide_eq_decide.mpr (by omega)
      have hpast : ¬ (k = i ∧ k < 64) := fun hk' => hk hk'.1
      rw [hrange, decide_eq_false hpast, Bool.false_and, Bool.false_or]

/-- Bit `k` of the mask is controller `k + 1`, up to the width of the mask. -/
theorem testBit_cmdGetDevBvector (h : Host) (k : Nat) :
    (cmdGetDevBvector h).toNat.testBit k =
      (decide (k < h.maxDevN ∧ k < 64) && (h.devices (k + 1)).activ) := by
  rw [cmdGetDevBvector, List.range_eq_range', testBit_devBvectorLoop h oneBit_one]
  simp

/-! ## The string -/

/-- The character of a controller. -/
def devChar (h : Host) (d : Nat) : UInt8 :=
  if (h.devices d).activ then 0x30 + UInt8.ofNat (d % 10) else 0x2E

/-- The characters written for a controller. -/
def devChars (h : Host) (d : Nat) : List UInt8 :=
  if d % 4 = 0 then [devChar h d, 0x20] else [devChar h d]

/-- The string, less its terminator. -/
def devString (h : Host) : List UInt8 := (devNums h).flatMap (devChars h)

theorem devVectorLoop_eq (h : Host) (ds : List Nat) (v : Nat → UInt8) (i : Nat) :
    devVectorLoop h ds v i =
      (store v i (ds.flatMap (devChars h)), i + (ds.flatMap (devChars h)).length) := by
  induction ds generalizing v i with
  | nil => simp [devVectorLoop]
  | cons d ds ih =>
    rw [devVectorLoop, List.flatMap_cons]
    by_cases h4 : d % 4 = 0
    · simp [h4, ih, devChars, devChar, store_cons]
      omega
    · simp [h4, ih, devChars, devChar, store_cons]
      omega

theorem cmdGetDevVector_eq (v : Nat → UInt8) (h : Host) :
    cmdGetDevVector v h = store v 0 (devString h ++ [0]) := by
  rw [cmdGetDevVector, devVectorLoop_eq, store_append, store_cons, store_nil]
  rfl

/-! ## Places in the string -/

theorem devChars_length (h : Host) (d : Nat) :
    (devChars h d).length = if d % 4 = 0 then 2 else 1 := by
  unfold devChars
  split
  · rfl
  · rfl

/-- So many characters stand for the first `k` controllers. -/
theorem length_firstChars (h : Host) (k : Nat) :
    ((List.range' 1 k).flatMap (devChars h)).length = k + k / 4 := by
  induction k with
  | zero => rfl
  | succ k ih =>
    rw [List.range'_concat, List.flatMap_append, List.length_append, ih, List.flatMap_singleton,
      devChars_length]
    split
    · omega
    · omega

theorem length_devString (h : Host) : (devString h).length = h.maxDevN + h.maxDevN / 4 :=
  length_firstChars h h.maxDevN

/-- The character of controller `k + 1`. -/
theorem devString_at (h : Host) {k : Nat} (hk : k < h.maxDevN) :
    (devString h)[k + k / 4]? = some (devChar h (k + 1)) := by
  obtain ⟨r, hr⟩ : ∃ r, h.maxDevN = k + (r + 1) := ⟨h.maxDevN - k - 1, by omega⟩
  have hsplit : devNums h = List.range' 1 k ++ (1 + k) :: List.range' (1 + k + 1) r := by
    rw [devNums, hr, ← List.range'_append_1, List.range'_succ]
  obtain ⟨rest, hrest⟩ : ∃ rest, devChars h (1 + k) = devChar h (1 + k) :: rest := by
    unfold devChars
    split
    · exact ⟨_, rfl⟩
    · exact ⟨_, rfl⟩
  rw [devString, hsplit, List.flatMap_append, List.flatMap_cons, hrest, ← length_firstChars h k,
    List.getElem?_append_right (Nat.le_refl _), Nat.sub_self, Nat.add_comm 1 k]
  rfl

theorem toNat_digit (d : Nat) : (0x30 + UInt8.ofNat (d % 10)).toNat = 48 + d % 10 := by
  rw [UInt8.toNat_add, UInt8.toNat_ofNat']
  change (48 + d % 10 % 256) % 256 = _
  omega

theorem devChar_eq_dot (h : Host) (d : Nat) : devChar h d = 0x2E ↔ (h.devices d).activ = false := by
  unfold devChar
  cases (h.devices d).activ with
  | false => simp
  | true =>
    have hdigit : 0x30 + UInt8.ofNat (d % 10) ≠ 0x2E := by
      intro he
      have hval := toNat_digit d
      rw [he] at hval
      change 46 = _ at hval
      omega
    simpa using hdigit

theorem devChar_ne_zero (h : Host) (d : Nat) : devChar h d ≠ 0 := by
  unfold devChar
  cases (h.devices d).activ with
  | false => simp
  | true =>
    intro he
    have hval := toNat_digit d
    rw [if_pos rfl] at he
    rw [he] at hval
    change 0 = _ at hval
    omega

/-- No character of the string ends it. -/
theorem devString_ne_zero (h : Host) {c : UInt8} (hc : c ∈ devString h) : c ≠ 0 := by
  obtain ⟨d, _, hd⟩ := List.mem_flatMap.mp hc
  have hchar := devChar_ne_zero h d
  unfold devChars at hd
  split at hd
  · rcases List.mem_pair.mp hd with hd | hd
    · exact hd ▸ hchar
    · exact hd ▸ by decide
  · exact List.mem_singleton.mp hd ▸ hchar

/-! ## Both views -/

/-- The string `v'` in the buffer of 512 cells, `v` before it was written, has a
character for each controller, a dot where it is not active. -/
structure VectorShows (h : Host) (v v' : Nat → UInt8) : Prop where
  inside : ∀ j, 512 ≤ j → v' j = v j
  string : ∃ l < 512, v' l = 0 ∧ (∀ j < l, v' j ≠ 0) ∧
    ∀ d, 1 ≤ d → d ≤ h.maxDevN → (d - 1) + (d - 1) / 4 < l
  dots : ∀ d, 1 ≤ d → d ≤ h.maxDevN →
    (v' ((d - 1) + (d - 1) / 4) = 0x2E ↔ (h.devices d).activ = false)

/-- The mask `b` has the bits of the active controllers. -/
def BvectorShows (h : Host) (b : UInt64) : Prop :=
  ∀ d, 1 ≤ d → d ≤ h.maxDevN → b.toNat.testBit (d - 1) = (h.devices d).activ

/-- The string has room for every controller the library admits. -/
theorem vector_shows {h : Host} (hmax : h.maxDevN ≤ 255) (v : Nat → UInt8) :
    VectorShows h v (cmdGetDevVector v h) := by
  have hlen := length_devString h
  have hcell : ∀ j, (hj : j < (devString h).length) → cmdGetDevVector v h j = (devString h)[j] := by
    intro j hj
    have hlong : j < (devString h ++ [0]).length := by
      rw [List.length_append]
      omega
    have hstored := store_in (m := v) (p := 0) hlong
    rw [Nat.zero_add] at hstored
    rw [cmdGetDevVector_eq, hstored, List.getElem_append_left hj]
  refine ⟨?_, ⟨(devString h).length, by omega, ?_, ?_, ?_⟩, ?_⟩
  · intro j hj
    rw [cmdGetDevVector_eq, store_ge]
    rw [List.length_append, hlen, List.length_singleton]
    omega
  · rw [cmdGetDevVector_eq, store_append, store_cons, store_nil, Nat.zero_add, Function.update_self]
  · intro j hj
    rw [hcell j hj]
    exact devString_ne_zero h (List.getElem_mem hj)
  · intro d h1 hd
    omega
  · intro d h1 hd
    have hplace : (d - 1) + (d - 1) / 4 < (devString h).length := by omega
    have hchar := devString_at h (k := d - 1) (by omega)
    rw [List.getElem?_eq_getElem hplace, Nat.sub_add_cancel h1] at hchar
    rw [hcell _ hplace, Option.some.inj hchar]
    exact devChar_eq_dot h d

/-- The mask has no bit for a controller above 64. -/
theorem bvector_shows_iff (h : Host) : BvectorShows h (cmdGetDevBvector h) ↔
    ∀ d, 64 < d → d ≤ h.maxDevN → (h.devices d).activ = false := by
  constructor
  · intro hall d hd hmax
    have hbit := hall d (by omega) hmax
    have hwide : ¬ (d - 1 < h.maxDevN ∧ d - 1 < 64) := by omega
    rw [testBit_cmdGetDevBvector, decide_eq_false hwide, Bool.false_and] at hbit
    exact hbit.symm
  · intro hidle d h1 hmax
    rw [testBit_cmdGetDevBvector, Nat.sub_add_cancel h1]
    by_cases hd : d ≤ 64
    · rw [decide_eq_true (by omega), Bool.true_and]
    · rw [hidle d (by omega) hmax, Bool.and_false]

theorem cmdSetMaxDev_le (n : Int) (h : Host) : (cmdSetMaxDev n h).1.maxDevN ≤ 255 := by
  unfold cmdSetMaxDev
  simp only
  omega

/-- **When the two views agree**: the string is right for every number of
controllers, and the mask exactly when none above the 64th is active. -/
theorem views_agree_iff (n : Int) (h0 : Host) (v : Nat → UInt8) :
    let h := (cmdSetMaxDev n h0).1
    BvectorShows h (cmdGetDevBvector h) ∧ VectorShows h v (cmdGetDevVector v h) ↔
      ∀ d, 64 < d → d ≤ h.maxDevN → (h.devices d).activ = false := by
  intro h
  have hstring := vector_shows (cmdSetMaxDev_le n h0) v
  rw [← bvector_shows_iff]
  exact and_iff_left hstring

/-- Controller 65 alone is active. -/
def only65 : Host :=
  (boot workingWorld Db.empty).setDev 65 fun d => { d with activ := true }

/-- It has a digit in the string and no bit in the mask. -/
theorem only65_not_in_mask : ¬ ∀ (n : Int) (h0 : Host) (v : Nat → UInt8),
    let h := (cmdSetMaxDev n h0).1
    BvectorShows h (cmdGetDevBvector h) ∧ VectorShows h v (cmdGetDevVector v h) := by
  intro hall
  let h := (cmdSetMaxDev 65 only65).1
  have hbit : (cmdGetDevBvector h).toNat.testBit (65 - 1) = (h.devices 65).activ :=
    (hall 65 only65 fun _ => 0).1 65 (by decide) (by decide)
  have hactive : (h.devices 65).activ = true := rfl
  have hwidth : (cmdGetDevBvector h).toNat.testBit 64 = false :=
    Nat.testBit_lt_two_pow (cmdGetDevBvector h).toNat_lt
  rw [hactive, hwidth] at hbit
  cases hbit

end Libgate.DeviceViews
