import Libgate.LogEvents

/-! The times of passage events. A log record has five date bytes and no year.
`get_ev_date` puts the bytes into the static `curtime`, where `set_rtc_date` has
left a year, and `mktime` normalises `curtime` in place: what it carries into
the year, and the flag it sets for daylight saving, is there for the next record. -/

namespace Libgate.EventTimes
open Lib Util DbLayer Send Target Processor Layer HostFrame Operations LogEvents

/-! ## Dates -/

/-- The five date bytes of a record. -/
structure EvDate where
  mon : UInt8
  day : UInt8
  hour : UInt8
  min : UInt8
  sec : UInt8
  deriving DecidableEq, Repr

def dateOf (t : GpEvent) : EvDate := ⟨t.mon, t.day, t.hour, t.min, t.sec⟩

/-- The date in a year and under a flag for daylight saving. -/
def EvDate.inYear (d : EvDate) (year isdst : Int) : Tm :=
  { sec := bcd2int d.sec, min := bcd2int d.min, hour := bcd2int d.hour, mday := bcd2int d.day,
    mon := bcd2int d.mon - 1, year := year, isdst := isdst }

/-- The date put over what `mktime` leaves. -/
def EvDate.over (d : EvDate) (t : Tm) : Tm :=
  { t with
    sec := bcd2int d.sec
    min := bcd2int d.min
    hour := bcd2int d.hour
    mday := bcd2int d.day
    mon := bcd2int d.mon - 1 }

section Dates
variable (mktime : Tm → Int × Tm) (year : Int)

/-- The time and the broken-down time of a date in a year and under a flag. -/
def timeAt (year isdst : Int) (d : EvDate) : Int × Tm :=
  ((mktime (d.inYear year isdst)).1, d.over (mktime (d.inYear year isdst)).2)

/-- The time of a date in the year, daylight saving left to `mktime`. -/
def eventTime (d : EvDate) : Int × Tm := timeAt mktime year (-1) d

/-- The year and the flag at the time of a date. -/
def leftBy (d : EvDate) : Int × Int :=
  ((eventTime mktime year d).2.year, (eventTime mktime year d).2.isdst)

/-- Each date has its time also in the year and under the flag at the date before
it, the first in those of `p`. -/
def ReadAlone : Int × Int → List EvDate → Prop
  | _, [] => True
  | p, d :: ds => timeAt mktime p.1 p.2 d = eventTime mktime year d ∧ ReadAlone (leftBy mktime year d) ds

instance instDecidableReadAlone :
    (p : Int × Int) → (ds : List EvDate) → Decidable (ReadAlone mktime year p ds)
  | _, [] => .isTrue trivial
  | p, d :: ds =>
    have := instDecidableReadAlone (leftBy mktime year d) ds
    inferInstanceAs (Decidable (timeAt mktime p.1 p.2 d = eventTime mktime year d ∧
      ReadAlone mktime year (leftBy mktime year d) ds))

/-- The year and the flag at the last of the dates. -/
def leftAfter : Int × Int → List EvDate → Int × Int
  | p, [] => p
  | _, d :: ds => leftAfter (leftBy mktime year d) ds

theorem readAlone_append (p : Int × Int) (ds ds' : List EvDate) :
    ReadAlone mktime year p (ds ++ ds') ↔
      ReadAlone mktime year p ds ∧ ReadAlone mktime year (leftAfter mktime year p ds) ds' := by
  induction ds generalizing p with
  | nil => exact (and_iff_right trivial).symm
  | cons d ds ih => exact (and_congr_right fun _ => ih _).trans and_assoc.symm

end Dates

/-- `mktime` does not read the day of the week. -/
def IgnoresWday (mktime : Tm → Int × Tm) : Prop := ∀ t w, mktime { t with wday := w } = mktime t

/-- Of `curtime` a record is read with the year and the flag. -/
theorem getEv_eq {mktime : Tm → Int × Tm} (hm : IgnoresWday mktime) (t : GpEvent) (curtime : Tm) :
    ((getEvTime mktime t curtime).1, getEvDate t (getEvTime mktime t curtime).2) =
      timeAt mktime curtime.year curtime.isdst (dateOf t) := by
  have hdate : getEvDate t curtime =
      { (dateOf t).inYear curtime.year curtime.isdst with wday := curtime.wday } := rfl
  have htime : getEvTime mktime t curtime =
      mktime ((dateOf t).inYear curtime.year curtime.isdst) := by
    rw [getEvTime, hdate]
    exact hm _ _
  rw [htime]
  rfl

/-! ## Records -/

/-- The year and the flag in `curtime`. -/
def kept (h : Host) : Int × Int := (h.curtime.year, h.curtime.isdst)

/-- An event of the handler has the time `F` gives for the date of the record. -/
def Stamped (F : EvDate → Int × Tm) (t : GpEvent) (e : ProcEvent) : Prop :=
  (e.ts, e.ct) = F (dateOf t)

theorem logRecord_world (dev : Nat) (t : GpEvent) (c : Nat) (h : Host) :
    (logRecord dev t c h).1.world = h.world := by
  unfold logRecord
  split
  · rfl
  · rfl

theorem logRecord_curtime {dev : Nat} {t : GpEvent} {h : Host} (c : Nat)
    (hs : sameCodeAddr (h.devices dev).lastEvRec t = false) :
    (logRecord dev t c h).1.curtime = (reported dev t c h).ct := by
  unfold logRecord
  rw [if_neg (by simp [hs])]
  rfl

/-- One record that is reported: the year and the flag in `curtime` decide its time. -/
theorem reported_time {mktime : Tm → Int × Tm} (hm : IgnoresWday mktime) (dev : Nat) (t : GpEvent)
    (c : Nat) {h : Host} (hw : h.world.mktime = mktime) :
    ((reported dev t c h).ts, (reported dev t c h).ct) =
      timeAt mktime (kept h).1 (kept h).2 (dateOf t) := by
  have hread := getEv_eq hm t h.curtime
  rw [← hw] at hread ⊢
  exact hread

/-- If the time is its own, it leaves the year and the flag of its date. -/
theorem logRecord_kept {mktime : Tm → Int × Tm} (hm : IgnoresWday mktime) {year : Int} {dev : Nat}
    {t : GpEvent} (c : Nat) {h : Host} (hw : h.world.mktime = mktime)
    (hs : sameCodeAddr (h.devices dev).lastEvRec t = false)
    (hread : timeAt mktime (kept h).1 (kept h).2 (dateOf t) = eventTime mktime year (dateOf t)) :
    kept (logRecord dev t c h).1 = leftBy mktime year (dateOf t) := by
  have hct : (reported dev t c h).ct = (eventTime mktime year (dateOf t)).2 :=
    congrArg Prod.snd ((reported_time hm dev t c hw).trans hread)
  rw [kept, logRecord_curtime c hs, hct]
  rfl

/-- The records of a block that are reported, each with a time of its own just
when each can be read alone; and what is then left in `curtime`. -/
theorem logRecords_stamped {mktime : Tm → Int × Tm} (hm : IgnoresWday mktime) (year : Int)
    (dev : Nat) (recs : List GpEvent) (c : Nat) {h : Host} (hw : h.world.mktime = mktime) :
    let ds := (changes sameCodeAddr (h.devices dev).lastEvRec recs).map dateOf
    ∃ es, eventsOf dev (logRecords dev recs c h).trace = eventsOf dev h.trace ++ es ∧
      (List.Forall₂ (Stamped (eventTime mktime year))
          (changes sameCodeAddr (h.devices dev).lastEvRec recs) es ↔
        ReadAlone mktime year (kept h) ds) ∧
      (ReadAlone mktime year (kept h) ds →
        kept (logRecords dev recs c h) = leftAfter mktime year (kept h) ds) := by
  induction recs generalizing c h with
  | nil => exact ⟨[], (List.append_nil _).symm, iff_of_true .nil trivial, fun _ => rfl⟩
  | cons t recs ih =>
    have hkeep : (logRecord dev t c h).1.world.mktime = mktime := by rw [logRecord_world, hw]
    obtain ⟨es, hes, hall, hleft⟩ := ih (logRecord dev t c h).2 hkeep
    unfold logRecords
    rw [changes_cons]
    cases hs : sameCodeAddr (h.devices dev).lastEvRec t with
    | true =>
      rw [logRecord_skipped c hs] at hes hall hleft ⊢
      rw [if_pos rfl, ← changes_congr sameCodeAddr_congr hs]
      exact ⟨es, hes, hall, hleft⟩
    | false =>
      obtain ⟨hdev, _, _, htr⟩ := logRecord_reported c hs
      have hlast : ((logRecord dev t c h).1.devices dev).lastEvRec = t := by
        rw [hdev]
        simp
      have hone : eventsOf dev [.dbGetCidByA t.addrBe.toUInt32, .devEv (reported dev t c h)] =
          [reported dev t c h] := by
        simp [eventsOf, reported]
      rw [hlast] at hall hleft
      rw [if_neg Bool.false_ne_true]
      refine ⟨reported dev t c h :: es, ?_, ?_, ?_⟩
      · rw [hes, htr, eventsOf_append, hone, List.append_assoc]
        rfl
      · refine List.forall₂_cons.trans ?_
        rw [Stamped, reported_time hm dev t c hw]
        refine and_congr_right ?_
        intro hread
        rw [← logRecord_kept hm c hw hs hread]
        exact hall
      · intro halone
        obtain ⟨hread, hrest⟩ := halone
        have hkept := logRecord_kept hm c hw hs hread
        rw [← hkept] at hrest
        rw [hleft hrest, hkept]
        rfl

/-! ## Runs -/

/-- The date stays as it is, and so does the calendar. -/
structure SameClock (h h' : Host) : Prop where
  curtime : h'.curtime = h.curtime
  mktime : h'.world.mktime = h.world.mktime

/-- Whatever else the adapter does that neither sets nor uses the date. -/
structure Other where
  run : Host → Host
  clock : ∀ h, SameClock h (run h)

inductive Event where
  | log (m : ReceivMess)
  | other (o : Other)

def step (e : Event) (h : Host) : Host :=
  match e with
  | .log m => (cbLogRead m h).1
  | .other o => o.run h

/-- The year `set_rtc_date` leaves. -/
def yearLeft (dev : Nat) (h : Host) : Int := (setRtcDate dev h).1.curtime.year

/-- The records of a reply that `cb_log_read` goes over. -/
def handled (m : ReceivMess) (h : Host) : List GpEvent :=
  if h.sendMess.target = .getBuffData then blockRecords m else []

/-- Those of them that it reports. -/
def reportedOf (e : Event) (h : Host) : List GpEvent :=
  match e with
  | .log m => changes sameCodeAddr (h.devices m.dev.toNat).lastEvRec (handled m h)
  | .other _ => []

/-- The handler is told of every record it is told of at the time that `F` gives
for its date. -/
def StampedBy (F : EvDate → Int × Tm) (e : Event) (h : Host) : Prop :=
  match e with
  | .log m => ∃ es, eventsOf m.dev.toNat (cbLogRead m h).1.trace = eventsOf m.dev.toNat h.trace ++ es ∧
      List.Forall₂ (Stamped F) (reportedOf (.log m) h) es
  | .other _ => True

/-- The dates of all records that a run reports. -/
def dates (es : List Event) (h : Host) : List EvDate := (gather step reportedOf es h).map dateOf

theorem gpSend_clock (z : CmdSend) (h : Host) : SameClock h (gpSend z h).1 := by
  obtain ⟨_, _, _, he⟩ := gpSend_rest z h
  rw [he]
  exact ⟨rfl, rfl⟩

theorem logRecords_world (dev : Nat) (recs : List GpEvent) (c : Nat) (h : Host) :
    (logRecords dev recs c h).world = h.world := by
  induction recs generalizing c h with
  | nil => rfl
  | cons t recs ih =>
    rw [logRecords, ih, logRecord_world]

/-- A reply that is no block of records reports nothing. -/
theorem cbLogRead_other {m : ReceivMess} {h : Host} (ht : h.sendMess.target ≠ .getBuffData) :
    Inert h (cbLogRead m h).1 ∧ SameClock h (cbLogRead m h).1 := by
  unfold cbLogRead
  split
  · refine ⟨logAddr_inert m h, ?_⟩
    unfold logAddr
    simp only
    split
    · exact ⟨rfl, rfl⟩
    split
    · exact ⟨(gpSend_clock ..).curtime, (gpSend_clock ..).mktime⟩
    · exact ⟨rfl, rfl⟩
  split
  · exact ⟨.refl h, rfl, rfl⟩
  · exact ⟨.refl h, rfl, rfl⟩

theorem cbLogRead_block {m : ReceivMess} {h : Host} (ht : h.sendMess.target = .getBuffData) :
    cbLogRead m h = logData m h := by
  rw [cbLogRead, if_neg (by rw [ht]; decide), if_pos ht]

theorem step_mktime (e : Event) (h : Host) : (step e h).world.mktime = h.world.mktime := by
  cases e with
  | other o => exact (o.clock h).mktime
  | log m =>
    change (cbLogRead m h).1.world.mktime = _
    by_cases ht : h.sendMess.target = .getBuffData
    · rw [cbLogRead_block ht, logData_eq, (gpSend_clock ..).mktime, logRecords_world]
    · exact (cbLogRead_other ht).2.mktime

/-- An event is right just when its dates can be read alone, and then it leaves the year
and the flag of the last of them. -/
structure StepStamped (mktime : Tm → Int × Tm) (year : Int) (e : Event) (h : Host) : Prop where
  stamped : StampedBy (eventTime mktime year) e h ↔
    ReadAlone mktime year (kept h) ((reportedOf e h).map dateOf)
  left : ReadAlone mktime year (kept h) ((reportedOf e h).map dateOf) →
    kept (step e h) = leftAfter mktime year (kept h) ((reportedOf e h).map dateOf)

section Step
variable {mktime : Tm → Int × Tm} {m : ReceivMess} {h : Host}

/-- What reports nothing and leaves the date as it is. -/
theorem StepStamped.of_none {year : Int} {e : Event} (hnone : reportedOf e h = [])
    (hstamped : StampedBy (eventTime mktime year) e h) (hclock : SameClock h (step e h)) :
    StepStamped mktime year e h := by
  refine ⟨?_, ?_⟩
  · rw [hnone]
    exact iff_of_true hstamped trivial
  · intro _
    rw [hnone, kept, hclock.curtime]
    rfl

theorem reportedOf_other (ht : h.sendMess.target ≠ .getBuffData) : reportedOf (.log m) h = [] := by
  change changes sameCodeAddr (h.devices m.dev.toNat).lastEvRec (handled m h) = []
  rw [handled, if_neg ht]
  rfl

theorem reportedOf_block (ht : h.sendMess.target = .getBuffData) : reportedOf (.log m) h =
    changes sameCodeAddr (h.devices m.dev.toNat).lastEvRec (blockRecords m) := by
  change changes sameCodeAddr (h.devices m.dev.toNat).lastEvRec (handled m h) = _
  rw [handled, if_pos ht]

theorem block_stamped (hm : IgnoresWday mktime) (year : Int) (hw : h.world.mktime = mktime)
    (ht : h.sendMess.target = .getBuffData) : StepStamped mktime year (.log m) h := by
  obtain ⟨es, hes, hall, hleft⟩ := logRecords_stamped hm year m.dev.toNat (blockRecords m) 0 hw
  have hevents : eventsOf m.dev.toNat (cbLogRead m h).1.trace =
      eventsOf m.dev.toNat h.trace ++ es := by
    rw [cbLogRead_block ht, logData_eq, gpSend_trace, eventsOf_append, hes]
    exact List.append_nil _
  rw [← reportedOf_block ht] at hall hleft
  refine ⟨Iff.trans ?_ hall, ?_⟩
  · constructor
    · intro hs
      obtain ⟨es', hes', hall'⟩ := hs
      rw [List.append_cancel_left (hevents.symm.trans hes')]
      exact hall'
    · exact fun hall' => ⟨es, hevents, hall'⟩
  · intro hread
    have hcurtime : (cbLogRead m h).1.curtime =
        (logRecords m.dev.toNat (blockRecords m) 0 h).curtime := by
      rw [cbLogRead_block ht, logData_eq]
      exact (gpSend_clock ..).curtime
    rw [← hleft hread, kept, kept]
    exact congrArg (fun t : Tm => (t.year, t.isdst)) hcurtime

end Step

/-- What one step reports, and what it leaves in `curtime`. -/
theorem step_stamped {mktime : Tm → Int × Tm} (hm : IgnoresWday mktime) (year : Int) (e : Event)
    {h : Host} (hw : h.world.mktime = mktime) : StepStamped mktime year e h := by
  cases e with
  | other o => exact .of_none rfl trivial (o.clock h)
  | log m =>
    by_cases ht : h.sendMess.target = .getBuffData
    · exact block_stamped hm year hw ht
    · have hother := cbLogRead_other (m := m) ht
      have q : LogEvents.Quiet m.dev.toNat h (cbLogRead m h).1 := .of_inert hother.1
      have hnone := reportedOf_other (m := m) ht
      refine .of_none hnone ⟨[], ?_, ?_⟩ hother.2
      · rw [q.2, List.append_nil]
      · rw [hnone]
        exact .nil

/-- Every run, from any state. -/
theorem run_stamped {mktime : Tm → Int × Tm} (hm : IgnoresWday mktime) (year : Int)
    (es : List Event) {h : Host} (hw : h.world.mktime = mktime) :
    Along step (StampedBy (eventTime mktime year)) es h ↔
      ReadAlone mktime year (kept h) (dates es h) := by
  induction es generalizing h with
  | nil => exact Iff.rfl
  | cons e es ih =>
    have hstep := step_stamped hm year e hw
    have hdates : dates (e :: es) h = (reportedOf e h).map dateOf ++ dates es (step e h) :=
      List.map_append
    rw [hdates, readAlone_append, ← hstep.stamped]
    refine and_congr_right ?_
    intro hs
    rw [← hstep.left (hstep.stamped.mp hs)]
    exact ih ((step_mktime e h).trans hw)

theorem setRtcDate_mktime (dev : Nat) (h : Host) :
    (setRtcDate dev h).1.world.mktime = h.world.mktime := by
  obtain ⟨_, _, _, _, he⟩ := (gpInCmd_queued (adCmd AD_Q_SECOND dev .setDate 0x05 (5 + 8)
    ([0x00, 0xD0, 8, 0x00, 0x00] ++ rtcDate (readLocaltime h).curtime (readLocaltime h).world.stack))
    (readLocaltime h)).rest
  exact congrArg (fun k => k.world.mktime) he

/-- **When an event's time depends on its date alone.** In every run behind a call of
`set_rtc_date`: just when each date reported has its time also in the year and under
the flag at the date reported before it, the first in those of `set_rtc_date`. -/
theorem event_times_by_date (dev : Nat) (h : Host) (es : List Event)
    (hm : IgnoresWday h.world.mktime) :
    Along step (StampedBy (eventTime h.world.mktime (yearLeft dev h))) es (setRtcDate dev h).1 ↔
      ReadAlone h.world.mktime (yearLeft dev h) (kept (setRtcDate dev h).1)
        (dates es (setRtcDate dev h).1) :=
  run_stamped hm (yearLeft dev h) es (setRtcDate_mktime dev h)

/-! ## A calendar -/

/-- The day of a date, counted from the start of 1970. -/
def dayOf (y m d : Int) : Int :=
  let y := if m ≤ 2 then y - 1 else y
  let era := y / 400
  let yoe := y - era * 400
  let doy := (153 * (if m > 2 then m - 3 else m + 9) + 2) / 5 + d - 1
  era * 146097 + (yoe * 365 + yoe / 4 - yoe / 100 + doy) - 719468

/-- The date of a day. -/
def civilOf (day : Int) : Int × Int × Int :=
  let z := day + 719468
  let era := z / 146097
  let doe := z - era * 146097
  let yoe := (doe - doe / 1460 + doe / 36524 - doe / 146096) / 365
  let doy := doe - (365 * yoe + yoe / 4 - yoe / 100)
  let mp := (5 * doy + 2) / 153
  let m := if mp < 10 then mp + 3 else mp - 9
  (yoe + era * 400 + (if m ≤ 2 then 1 else 0), m, doy - (153 * mp + 2) / 5 + 1)

/-- `mktime` where the local time is UTC. -/
def utcMktime (t : Tm) : Int × Tm :=
  let day := dayOf (t.year + 1900 + t.mon / 12) (t.mon % 12 + 1) t.mday
  let ts := ((day * 24 + t.hour) * 60 + t.min) * 60 + t.sec
  let c := civilOf (ts / 86400)
  (ts, { sec := ts % 60, min := ts / 60 % 60, hour := ts / 3600 % 24, mday := c.2.2,
         mon := c.2.1 - 1, year := c.1 - 1900, wday := (ts / 86400 + 4) % 7, isdst := 0 })

theorem utc_ignoresWday : IgnoresWday utcMktime := fun _ _ => rfl

/-- 12 November 2012, with the log of controller 1 being read. -/
def inNovember : Host :=
  { boot { workingWorld with
      mktime := utcMktime
      localtime := fun _ => { mday := 12, mon := 10, year := 112, wday := 1 } } Db.empty with
    sendMess := { target := .getBuffData, dev := 1 } }

/-- A reply from controller 1 with two records, the first with the month byte `mon`. -/
def twoRecords (mon : UInt8) : ReceivMess :=
  { len := 16, dev := 1, lastRead := 0
    buf := fun i => ([0xFA, 1, 0, 1, 1, 4, 2, 0, 0xC0, mon, 0x12, 0x13, 0x08, 0x58,
      3, 0, 0xC0, 0x11, 0x12, 0x13, 0x09, 0x00] : List UInt8).getD i 0 }

/-- Only the second of the two records. -/
def secondRecord : ReceivMess :=
  { len := 8, dev := 1, lastRead := 0
    buf := fun i => ([0xFA, 1, 0, 1, 1, 4, 3, 0, 0xC0, 0x11, 0x12, 0x13, 0x09, 0x00] : List UInt8).getD i 0 }

theorem event_times_november : Along step
    (StampedBy (eventTime inNovember.world.mktime (yearLeft 1 inNovember)))
    [.log (twoRecords 0x11)] (setRtcDate 1 inNovember).1 :=
  (event_times_by_date 1 inNovember [.log (twoRecords 0x11)] utc_ignoresWday).mpr (by decide)

/-- The years reported are those `F` gives. -/
theorem StampedBy.years {F : EvDate → Int × Tm} {m : ReceivMess} {h : Host}
    (hs : StampedBy F (.log m) h) (ts : List GpEvent) (ys : List Int)
    (hnone : eventsOf m.dev.toNat h.trace = []) (hts : reportedOf (.log m) h = ts)
    (hys : (eventsOf m.dev.toNat (cbLogRead m h).1.trace).map (fun e => e.ct.year) = ys) :
    ys = ts.map fun t => (F (dateOf t)).2.year := by
  obtain ⟨es, hes, hall⟩ := hs
  rw [← hys, hes, hnone, List.nil_append]
  rw [hts] at hall
  clear hes hts hys
  induction hall with
  | nil => rfl
  | cons hone _ ih =>
    rw [List.map_cons, List.map_cons, ih, ← congrArg (fun p : Int × Tm => p.2.year) hone]

/-- A record with a month byte of 0x13 puts the next one a year later. -/
theorem year_carried : ¬ ∃ F : (Tm → Int × Tm) → Int → EvDate → Int × Tm,
    ∀ dev h es, IgnoresWday h.world.mktime →
      Along step (StampedBy (F h.world.mktime (yearLeft dev h))) es (setRtcDate dev h).1 := by
  intro ⟨F, hall⟩
  let t1 : GpEvent := ⟨2, (0, 0xC0), 0x13, 0x12, 0x13, 0x08, 0x58⟩
  let t2 : GpEvent := ⟨3, (0, 0xC0), 0x11, 0x12, 0x13, 0x09, 0x00⟩
  let year : GpEvent → Int := fun t => (F utcMktime (yearLeft 1 inNovember) (dateOf t)).2.year
  obtain ⟨hboth, _⟩ := hall 1 inNovember [.log (twoRecords 0x13)] utc_ignoresWday
  obtain ⟨halone, _⟩ := hall 1 inNovember [.log secondRecord] utc_ignoresWday
  have hlate : [113, 113] = [year t1, year t2] :=
    hboth.years [t1, t2] [113, 113] (by decide) (by decide) (by decide)
  have hright : [112] = [year t2] :=
    halone.years [t2] [112] (by decide) (by decide) (by decide)
  have hcarried : (113 : Int) = year t2 := (List.cons.inj (List.cons.inj hlate).2).1
  have hkept : (112 : Int) = year t2 := (List.cons.inj hright).1
  exact absurd (hkept.trans hcarried.symm) (by decide)

end Libgate.EventTimes
