import Libgate.Layer

/-! The clock that `set_rtc_date` programs. The seven fields of the date are
packed as BCD and come back through `get_rtc_date`; the stop bit, in one byte
with the seconds, is not assigned and goes out as the storage of the local
record has it. -/

namespace Libgate.RtcClock
open Lib.Memory Util Send Target Layer

/-- A local time of the years 2000 to 2099. -/
structure BrokenDown (t : Tm) : Prop where
  sec : 0 ≤ t.sec ∧ t.sec ≤ 61
  min : 0 ≤ t.min ∧ t.min ≤ 59
  hour : 0 ≤ t.hour ∧ t.hour ≤ 23
  mday : 1 ≤ t.mday ∧ t.mday ≤ 31
  mon : 0 ≤ t.mon ∧ t.mon ≤ 11
  year : 100 ≤ t.year ∧ t.year ≤ 199
  wday : 0 ≤ t.wday ∧ t.wday ≤ 6

/-- The eight bytes `set_rtc_date` hands to `ad_set_date`. -/
def handed (h : Host) : List UInt8 := rtcDate (h.world.localtime 0) h.world.stack

theorem setRtcDate_eq (dev : Nat) (h : Host) :
    setRtcDate dev h = adSetDate AD_Q_SECOND dev (handed h) (readLocaltime h) := rfl

/-- The bytes start a clock, and `get_rtc_date` on the first seven reads `t`. -/
structure Programs (t : Tm) (d : List UInt8) : Prop where
  length : d.length = 8
  running : d.getD 0 0 &&& 0x80 = 0
  readsBack : ∀ m p curtime,
    getRtcDate (store m p (d.take 7)) p curtime = { t with isdst := curtime.isdst }

/-! ## The first byte -/

theorem and_of_or (x s a b c : UInt8) :
    ((x &&& a) ||| (s &&& b)) &&& c = (x &&& (a &&& c)) ||| (s &&& (b &&& c)) := by
  apply UInt8.toBitVec_inj.mp
  simp [BitVec.and_or_distrib_right, BitVec.and_assoc]

theorem stop_bit (x s : UInt8) : ((x &&& 0x7F) ||| (s &&& 0x80)) &&& 0x80 = s &&& 0x80 := by
  have hclear : (0x7F : UInt8) &&& 0x80 = 0 := rfl
  rw [and_of_or, hclear, UInt8.and_zero, UInt8.zero_or, UInt8.and_self]

theorem seconds_bits (x s : UInt8) : ((x &&& 0x7F) ||| (s &&& 0x80)) &&& 0x7F = x &&& 0x7F := by
  have hclear : (0x80 : UInt8) &&& 0x7F = 0 := rfl
  rw [and_of_or, hclear, UInt8.and_zero, UInt8.or_zero, UInt8.and_self]

/-- Seven bits hold the seconds. -/
theorem int2bcd_seven {n : Int} (h0 : 0 ≤ n) (h1 : n < 80) : int2bcd n &&& 0x7F = int2bcd n := by
  have hbyte := toNat_int2bcd h0 (by omega)
  apply UInt8.toNat_inj.mp
  rw [UInt8.toNat_and]
  refine (Nat.and_two_pow_sub_one_eq_mod _ 7).trans (Nat.mod_eq_of_lt ?_)
  change (int2bcd n).toNat < 128
  omega

/-! ## Reading back -/

/-- Sunday is 7 in the clock. -/
theorem wday_reads_back {w : Int} (h0 : 0 ≤ w) (h6 : w ≤ 6) :
    (bcd2int (int2bcd (if w = 0 then 7 else w))).tmod 7 = w := by
  by_cases hw : w = 0
  · rw [if_pos hw, hw]
    rfl
  · rw [if_neg hw, bcd2int_int2bcd h0 (by omega)]
    exact Int.tmod_eq_of_lt h0 (by omega)

theorem year_reads_back {y : Int} (h0 : 100 ≤ y) (h1 : y ≤ 199) :
    bcd2int (int2bcd (y.tmod 100)) + 100 = y := by
  have hmod : y.tmod 100 = y - 100 := by
    rw [Int.tmod_eq_emod_of_nonneg (by omega)]
    omega
  rw [hmod, bcd2int_int2bcd (by omega) (by omega)]
  omega

/-- The first seven bytes in memory are the ones of the record. -/
theorem getRtcDate_store (d : List UInt8) (hd : 7 ≤ d.length) (m : Nat → UInt8) (p : Nat)
    (curtime : Tm) :
    getRtcDate (store m p (d.take 7)) p curtime = getRtcDate (fun i => d.getD i 0) 0 curtime := by
  have hcell : ∀ i < 7, store m p (d.take 7) (p + i) = d.getD i 0 := by
    intro i hi
    have hshort : i < (d.take 7).length := by
      rw [List.length_take]
      omega
    rw [store_in hshort, List.getElem_take, List.getD_eq_getElem]
  have h0 := hcell 0 (by decide)
  rw [Nat.add_zero] at h0
  simp only [getRtcDate, Nat.zero_add, h0, hcell 1 (by decide), hcell 2 (by decide),
    hcell 3 (by decide), hcell 4 (by decide), hcell 5 (by decide), hcell 6 (by decide)]

theorem getRtcDate_rtcDate {t : Tm} (ht : BrokenDown t) (stack : UInt8) (curtime : Tm) :
    getRtcDate (fun i => (rtcDate t stack).getD i 0) 0 curtime =
      { t with isdst := curtime.isdst } := by
  obtain ⟨⟨hs0, hs1⟩, ⟨hm0, hm1⟩, ⟨hh0, hh1⟩, ⟨hd0, hd1⟩, ⟨ho0, ho1⟩, ⟨hy0, hy1⟩, hw0, hw1⟩ := ht
  have hsec : bcd2int (((int2bcd t.sec &&& 0x7F) ||| (stack &&& 0x80)) &&& 0x7F) = t.sec := by
    rw [seconds_bits, int2bcd_seven hs0 (by omega), bcd2int_int2bcd hs0 (by omega)]
  have hmon : bcd2int (int2bcd (t.mon + 1)) - 1 = t.mon := by
    rw [bcd2int_int2bcd (by omega) (by omega)]
    omega
  have hmin : bcd2int (int2bcd t.min) = t.min := bcd2int_int2bcd hm0 (by omega)
  have hhour : bcd2int (int2bcd t.hour) = t.hour := bcd2int_int2bcd hh0 (by omega)
  have hmday : bcd2int (int2bcd t.mday) = t.mday := bcd2int_int2bcd (by omega) (by omega)
  have hwday := wday_reads_back hw0 hw1
  have hyear := year_reads_back hy0 hy1
  simp only [getRtcDate, rtcDate, List.getD_cons_succ, List.getD_cons_zero, hsec, hmin, hhour,
    hmday, hmon, hwday, hyear]

/-- The date always reads back; whether the clock runs is up to the storage. -/
theorem programs_iff {t : Tm} (ht : BrokenDown t) (stack : UInt8) :
    Programs t (rtcDate t stack) ↔ stack &&& 0x80 = 0 := by
  have hstop : (rtcDate t stack).getD 0 0 &&& 0x80 = stack &&& 0x80 := stop_bit ..
  constructor
  · intro hp
    rw [← hstop]
    exact hp.running
  · intro hclear
    refine ⟨rfl, hstop.trans hclear, ?_⟩
    intro m p curtime
    rw [getRtcDate_store (rtcDate t stack) (Nat.le_succ 7)]
    exact getRtcDate_rtcDate ht stack curtime

/-- **When the programmed clock runs and shows the local time**: exactly when the
stop bit is clear in the storage of the record. -/
theorem clock_programmed_iff (h : Host) (ht : BrokenDown (h.world.localtime 0)) :
    (∀ dev, setRtcDate dev h = adSetDate AD_Q_SECOND dev (handed h) (readLocaltime h)) ∧
      (Programs (h.world.localtime 0) (handed h) ↔ h.world.stack &&& 0x80 = 0) :=
  ⟨fun dev => setRtcDate_eq dev h, programs_iff ht h.world.stack⟩

/-- Monday, 12 November 2012, with `stack` left on the stack. -/
def inNovember (stack : UInt8) : Host :=
  boot { workingWorld with
    localtime := fun _ => { sec := 58, min := 8, hour := 13, mday := 12, mon := 10, year := 112, wday := 1 }
    stack := stack } Db.empty

theorem clock_programmed_november : Programs ((inNovember 0x7F).world.localtime 0)
    (handed (inNovember 0x7F)) :=
  (clock_programmed_iff (inNovember 0x7F) (by constructor <;> decide)).2.mpr rfl

/-- With the top bit set in the storage the clock is stopped. -/
theorem clock_stopped : ¬ ∀ h : Host, BrokenDown (h.world.localtime 0) →
    Programs (h.world.localtime 0) (handed h) := by
  intro hall
  have hp := hall (inNovember 0x80) (by constructor <;> decide)
  exact absurd hp.running (by decide)

end Libgate.RtcClock
