import Libgate.Operations
import Libgate.Lib.Changes

/-! Which passage events reach `cb_dev_ev_handler`. The records of a
controller's log arrive in blocks, with anything else the adapter does in
between. `cb_log_read` skips a record whose code and address are those of the
last one it reported; the time is not compared. -/

namespace Libgate.LogEvents
open Lib DbLayer Util Send Target Cmd Processor Layer HostFrame Operations

/-- The calls of `cb_dev_ev_handler` for one controller. -/
def eventsOf (dev : Nat) (tr : List Obs) : List ProcEvent :=
  tr.filterMap fun
    | .devEv e => if e.dev = dev then some e else none
    | _ => none

theorem eventsOf_append (dev : Nat) (tr tr' : List Obs) :
    eventsOf dev (tr ++ tr') = eventsOf dev tr ++ eventsOf dev tr' := List.filterMap_append

/-- The handler is told this record: its code, its address and its time. -/
structure Reports (dev : Nat) (t : GpEvent) (e : ProcEvent) : Prop where
  dev : e.dev = dev
  subdev : e.subdev = t.evCode &&& 1
  ev : e.ev = t.evCode
  addr : e.addr = t.addrBe
  time : (e.ct.mon, e.ct.mday, e.ct.hour, e.ct.min, e.ct.sec) =
    (bcd2int t.mon - 1, bcd2int t.day, bcd2int t.hour, bcd2int t.min, bcd2int t.sec)

/-! ## Steps without a block of the controller -/

/-- Neither the last reported record nor the reports of a controller change. -/
def Quiet (dev : Nat) (h h' : Host) : Prop :=
  (h'.devices dev).lastEvRec = (h.devices dev).lastEvRec ∧
    eventsOf dev h'.trace = eventsOf dev h.trace

section Quiet
variable {dev : Nat} {h h' h'' : Host}

theorem Quiet.refl (h : Host) : Quiet dev h h := ⟨rfl, rfl⟩

theorem Quiet.trans (q : Quiet dev h h') (q' : Quiet dev h' h'') : Quiet dev h h'' :=
  ⟨q'.1.trans q.1, q'.2.trans q.2⟩

theorem eventsOf_eq_nil {es : List Obs} (hes : ∀ e ∈ es, ∀ r, e ≠ .devEv r) :
    eventsOf dev es = [] := by
  refine List.filterMap_eq_nil_iff.mpr ?_
  intro e he
  cases e with
  | devEv r => exact absurd rfl (hes _ he r)
  | _ => rfl

theorem Quiet.of_trace {l : List Obs} (hl : (h'.devices dev).lastEvRec = (h.devices dev).lastEvRec)
    (ht : h'.trace = h.trace ++ l) (hes : ∀ e ∈ l, ∀ r, e ≠ .devEv r) : Quiet dev h h' :=
  ⟨hl, by rw [ht, eventsOf_append, eventsOf_eq_nil hes, List.append_nil]⟩

theorem Quiet.of_inert (i : Inert h h') : Quiet dev h h' := by
  obtain ⟨es, ht, hes⟩ := i.trace
  refine .of_trace (i.lastEvRec dev) ht ?_
  intro e he r heq
  have := hes e he
  rw [heq] at this
  cases this

theorem Quiet.of_queued {P : CmdSend → Prop} (q : Queued P h h') : Quiet dev h h' := by
  obtain ⟨zs, _, ht⟩ := q.trace
  refine .of_trace (by rw [q.devices]) ht ?_
  intro e he r heq
  obtain ⟨z, _, hz⟩ := List.mem_map.mp he
  rw [heq] at hz
  cases hz

theorem cmdAddCid_quiet (rec : ProcAddCid) (h : Host) : Quiet dev h (cmdAddCid rec h).1 := by
  cases hc : cmdConflict rec h with
  | true =>
    rw [cmdAddCid_conflict hc]
    exact .of_inert (Inert.note rfl h)
  | false =>
    have hadd := (cmdAddCid_ok hc).2
    obtain ⟨es, ht, hes⟩ := hadd.events
    refine .of_trace ?_ ht ?_
    · rw [hadd.devices]
      split
      · by_cases hd : dev = rec.dev
        · subst hd; simp
        · rw [Function.update_of_ne hd]
      · rfl
    · intro e he r heq
      subst heq
      rcases hes _ he with heq | ⟨_, heq, _⟩
      · cases heq
      · cases heq

theorem addCidLoop_quiet (rec : ProcAddCid) (ns : List Nat) (h : Host) :
    Quiet dev h (addCidLoop rec ns h).1 :=
  addCidLoop_rel (R := Quiet dev) Quiet.refl Quiet.trans rec (fun _ _ => cmdAddCid_quiet _ _) ns h

theorem addTokenLogged_quiet (t : DbTokenRec) (h : Host) :
    Quiet dev h (addTokenLogged t h).1 :=
  .of_inert ⟨rfl, fun _ => rfl, fun _ => rfl, [.dbAddToken t], rfl, by simp [inertObs]⟩

theorem cmdAddCidToAll_quiet (rec : ProcAddCid) (h : Host) :
    Quiet dev h (cmdAddCidToAll rec h).1 :=
  (addTokenLogged_quiet _ h).trans (addCidLoop_quiet ..)

theorem cmdAddTockenToAll_quiet (inRec : AdTokenRec) (h : Host) :
    Quiet dev h (cmdAddTockenToAll inRec h).1 := by
  have hnote : Quiet dev h (h.note (.dbGetTokenByC inRec.cid)) := .of_inert (Inert.note rfl h)
  refine Quiet.trans ?_ (addCidLoop_quiet ..)
  unfold addTockenRec
  simp only
  split
  · exact hnote.trans (addTokenLogged_quiet ..)
  · exact hnote

theorem pollNewCard_quiet (d : Nat) (ev : UInt8) (h : Host) : Quiet dev h (pollNewCard d ev h) := by
  have hnote : ∀ e h', inertObs e = true → Quiet dev h' (h'.note e) :=
    fun e h' he => .of_inert (Inert.note he h')
  unfold pollNewCard
  simp only
  split
  · next token _ =>
    have hopen : Quiet dev (h.note (.dbGetTokenByC (h.devices d).lastCid))
        (adTurnOn AD_Q_SECOND d (ev &&& 1) (h.note (.dbGetTokenByC (h.devices d).lastCid))).1 :=
      .of_inert (gpInCmd_inert rfl _)
    have hadd := ((hnote _ h rfl).trans hopen).trans (cmdAddCid_quiet (pollRec d ev token) _)
    split
    · exact hadd.trans (cmdAddCidToAll_quiet ..)
    · exact hadd
  · exact ((hnote _ h rfl).trans (hnote _ _ rfl)).trans (cmdAddCidToAll_quiet ..)

theorem gpDevInit_quiet (d : Nat) (h : Host) : Quiet dev h (gpDevInit d h) := by
  obtain ⟨h1, h2, i1, q, i2⟩ := gpDevInit_split d h
  exact (Quiet.of_inert i1).trans ((Quiet.of_queued q).trans (.of_inert i2))

end Quiet

/-! ## Blocks -/

theorem sameCodeAddr_iff (a b : GpEvent) :
    sameCodeAddr a b = true ↔ a.evCode = b.evCode ∧ a.addr = b.addr := by
  simp [sameCodeAddr]

theorem sameCodeAddr_congr (a b x : GpEvent) (hab : sameCodeAddr a b = true) :
    sameCodeAddr a x = sameCodeAddr b x := by
  obtain ⟨h1, h2⟩ := (sameCodeAddr_iff a b).mp hab
  simp [sameCodeAddr, h1, h2]

theorem reports_reported (dev : Nat) (t : GpEvent) (c : Nat) (h : Host) :
    Reports dev t (reported dev t c h) := ⟨rfl, rfl, rfl, rfl, rfl⟩

/-- What the loop over the records of a block does. -/
structure Logged (dev : Nat) (recs : List GpEvent) (h h' : Host) : Prop where
  quiet : ∀ d, d ≠ dev → Quiet d h h'
  last : sameCodeAddr (h'.devices dev).lastEvRec (recs.getLastD (h.devices dev).lastEvRec) = true
  seen : ∃ seen, h'.trace = h.trace ++ seen ∧ (∀ e ∈ seen, ∀ z, e ≠ .sent z) ∧
    List.Forall₂ (Reports dev) (changes sameCodeAddr (h.devices dev).lastEvRec recs)
      (eventsOf dev seen)

theorem Logged.nil (dev : Nat) (h : Host) : Logged dev [] h h :=
  ⟨fun _ _ => Quiet.refl h, by simp [sameCodeAddr], [], by simp, by simp, .nil⟩

/-- A repetition in front: nothing is reported, and the old record stands for
the new one. -/
theorem Logged.skip {dev : Nat} {t : GpEvent} {recs : List GpEvent} {h h' : Host}
    (hs : sameCodeAddr (h.devices dev).lastEvRec t = true) (hlog : Logged dev recs h h') :
    Logged dev (t :: recs) h h' := by
  obtain ⟨hq, hl, seen, htr, hsent, hev⟩ := hlog
  refine ⟨hq, ?_, seen, htr, hsent, ?_⟩
  · rw [List.getLastD_cons]
    cases recs with
    | nil =>
      rw [List.getLastD_nil] at hl ⊢
      rw [sameCodeAddr_congr _ _ t hl, hs]
    | cons r rs => rwa [List.getLastD_cons] at hl ⊢
  · rw [changes_cons, hs, if_pos rfl, ← changes_congr sameCodeAddr_congr hs]
    exact hev

/-- A change in front: it is looked up and reported. -/
theorem Logged.report {dev : Nat} {t : GpEvent} {recs : List GpEvent} {h h' : Host} {c : Nat}
    (hs : sameCodeAddr (h.devices dev).lastEvRec t = false)
    (hlog : Logged dev recs (logRecord dev t c h).1 h') : Logged dev (t :: recs) h h' := by
  obtain ⟨hq, hl, seen, htr, hsent, hev⟩ := hlog
  obtain ⟨hdev, _, _, htr1⟩ := logRecord_reported c hs
  have hrep := reports_reported dev t c h
  generalize reported dev t c h = e at hrep htr1
  have hlast : ((logRecord dev t c h).1.devices dev).lastEvRec = t := by
    rw [hdev]
    simp
  rw [hlast] at hl hev
  have hother : ∀ d, d ≠ dev → Quiet d h (logRecord dev t c h).1 := by
    intro d hd
    refine ⟨by rw [hdev, Host.setDev_devices_ne _ _ hd], ?_⟩
    rw [htr1, eventsOf_append]
    simp [eventsOf, hrep.dev, Ne.symm hd]
  refine ⟨fun d hd => (hother d hd).trans (hq d hd), ?_,
    .dbGetCidByA t.addrBe.toUInt32 :: .devEv e :: seen, ?_, ?_, ?_⟩
  · rw [List.getLastD_cons]
    exact hl
  · rw [htr, htr1]
    simp
  · intro x hx z
    rcases List.mem_cons.mp hx with rfl | hx
    · exact fun hz => Obs.noConfusion hz
    rcases List.mem_cons.mp hx with rfl | hx
    · exact fun hz => Obs.noConfusion hz
    · exact hsent x hx z
  · have hsplit : eventsOf dev (.dbGetCidByA t.addrBe.toUInt32 :: .devEv e :: seen) =
        e :: eventsOf dev seen := by simp [eventsOf, hrep.dev]
    rw [changes_cons, hs, if_neg Bool.false_ne_true, hsplit]
    exact .cons hrep hev

theorem logRecords_logged (dev : Nat) (recs : List GpEvent) (c : Nat) (h : Host) :
    Logged dev recs h (logRecords dev recs c h) := by
  induction recs generalizing c h with
  | nil => exact Logged.nil dev h
  | cons t recs ih =>
    have hrest := ih (logRecord dev t c h).2 (logRecord dev t c h).1
    rw [logRecords]
    cases hs : sameCodeAddr (h.devices dev).lastEvRec t with
    | true =>
      rw [logRecord_skipped c hs] at hrest ⊢
      exact hrest.skip hs
    | false => exact hrest.report hs

/-- The records of a controller in a reply: those of a `GET_BUFF_DATA` block. -/
def blockOf (dev : Nat) (op : Op) (h : Host) : List GpEvent :=
  match op with
  | .reply m =>
    if (h.sendMess.evHandler = .cbLogRead ∧ h.sendMess.target = .getBuffData) ∧ m.dev.toNat = dev
    then blockRecords m else []
  | _ => []

/-- A step that processes a block sends nothing before it has gone over the
records, and then the new down pointer. -/
def MovesLast (op : Op) (h : Host) : Prop :=
  ∀ m, op = .reply m → h.sendMess.evHandler = .cbLogRead → h.sendMess.target = .getBuffData →
    ∃ seen bound, (step op h).trace =
        h.trace ++ seen ++ [.sent (adSetBuffAddrDownCmd AD_Q_SHORT m.src.toNat bound)] ∧
      ∀ e ∈ seen, ∀ z, e ≠ .sent z

theorem logData_logged (m : ReceivMess) (h : Host) :
    ∃ h' bound, Logged m.dev.toNat (blockRecords m) h h' ∧
      (logData m h).1 = (gpSend (adSetBuffAddrDownCmd AD_Q_SHORT m.src.toNat bound) h').1 :=
  ⟨_, _, logRecords_logged m.dev.toNat (blockRecords m) 0 h, rfl⟩

/-- From one state to the other the changes among `recs` are reported, and the
last record is kept up to what is compared. -/
def ReportsAll (dev : Nat) (recs : List GpEvent) (h h' : Host) : Prop :=
  ∃ es, eventsOf dev h'.trace = eventsOf dev h.trace ++ es ∧
    List.Forall₂ (Reports dev) (changes sameCodeAddr (h.devices dev).lastEvRec recs) es ∧
    sameCodeAddr (h'.devices dev).lastEvRec (recs.getLastD (h.devices dev).lastEvRec) = true

theorem Quiet.reportsAll {dev : Nat} {h h' : Host} (q : Quiet dev h h') :
    ReportsAll dev [] h h' := by
  refine ⟨[], by rw [q.2, List.append_nil], .nil, ?_⟩
  rw [List.getLastD_nil, q.1]
  simp [sameCodeAddr]

theorem Logged.reportsAll {dev : Nat} {recs : List GpEvent} {h h1 h' : Host}
    (hlog : Logged dev recs h h1) (q : Quiet dev h1 h') : ReportsAll dev recs h h' := by
  obtain ⟨seen, htr, _, hrep⟩ := hlog.seen
  refine ⟨_, ?_, hrep, ?_⟩
  · rw [q.2, htr, eventsOf_append]
  · rw [q.1]
    exact hlog.last

theorem tokenBoundReply_quiet {dev : Nat} (m : ReceivMess) (h : Host) :
    Quiet dev h (tokenBoundReply m h) := by
  refine .of_trace (l := []) ?_ (by simp [tokenBoundReply, Host.setDev]) (by simp)
  by_cases hd : dev = m.dev.toNat
  · subst hd
    simp [tokenBoundReply]
  · rw [tokenBoundReply, Host.setDev_devices_ne _ _ hd]

theorem pollRegs_quiet {dev : Nat} (m : ReceivMess) (h : Host) :
    Quiet dev h (pollRegs m h).1 := by
  rcases pollRegs_cases m h with ⟨_, i⟩ | ⟨_, i⟩
  · exact (pollNewCard_quiet ..).trans (.of_inert i)
  · exact .of_inert i

/-- A reply: a block of the controller's records, or nothing. -/
theorem reply_events (dev : Nat) (m : ReceivMess) (h : Host) :
    ReportsAll dev (blockOf dev (.reply m) h) h (processPortInput m h).1 := by
  rcases processPortInput_cases m h with ⟨hev, ht, heq⟩ | ⟨hno, hrest⟩
  · obtain ⟨h1, bound, hlog, hsend⟩ := logData_logged m h
    have qsend : Quiet dev h1 (processPortInput m h).1 := by
      rw [heq, hsend]
      exact .of_inert (gpSend_inert _ h1)
    by_cases hd : m.dev.toNat = dev
    · subst hd
      have hb : blockOf m.dev.toNat (.reply m) h = blockRecords m := by simp [blockOf, hev, ht]
      rw [hb]
      exact hlog.reportsAll qsend
    · have hb : blockOf dev (.reply m) h = [] := by simp [blockOf, hd]
      rw [hb]
      exact ((hlog.quiet dev (Ne.symm hd)).trans qsend).reportsAll
  · have hb : blockOf dev (.reply m) h = [] := by simp [blockOf, hno]
    rw [hb]
    rcases hrest with i | ⟨_, heq⟩ | ⟨_, heq⟩
    · exact (Quiet.of_inert i).reportsAll
    · rw [heq]
      exact (pollRegs_quiet m h).reportsAll
    · rw [heq]
      exact (tokenBoundReply_quiet m h).reportsAll

/-- One step: the changes among the records of a block are reported. -/
theorem step_events (dev : Nat) (op : Op) (h : Host) :
    ReportsAll dev (blockOf dev op h) h (step op h) := by
  cases op with
  | devInit d => exact (gpDevInit_quiet d h).reportsAll
  | addCid rec => exact (cmdAddCid_quiet rec h).reportsAll
  | addCidToAll rec => exact (cmdAddCidToAll_quiet rec h).reportsAll
  | addTocken inRec => exact (cmdAddTockenToAll_quiet inRec h).reportsAll
  | drain => exact (Quiet.of_inert (gpPutCmd_inert h)).reportsAll
  | idle => exact (Quiet.of_inert (gpSendIdleLoop_inert _ h)).reportsAll
  | logs => exact (Quiet.of_inert (gpGetDevLogs_inert h)).reportsAll
  | reply m => exact reply_events dev m h

theorem step_movesLast (op : Op) (h : Host) : MovesLast op h := by
  rintro m rfl hev ht
  have heq : processPortInput m h = logData m h := by
    simp [processPortInput, hev, cbLogRead, ht]
  obtain ⟨h1, bound, hlog, hsend⟩ := logData_logged m h
  obtain ⟨seen, htr, hsent, _⟩ := hlog.seen
  refine ⟨seen, bound, ?_, hsent⟩
  rw [show step (.reply m) h = _ from (congrArg Prod.fst heq).trans hsend, gpSend_trace, htr]

theorem run_events (dev : Nat) (ops : List Op) (h : Host) :
    ∃ es, eventsOf dev (run step ops h).trace = eventsOf dev h.trace ++ es ∧
      List.Forall₂ (Reports dev)
        (changes sameCodeAddr (h.devices dev).lastEvRec (gather step (blockOf dev) ops h)) es := by
  induction ops generalizing h with
  | nil => exact ⟨[], by simp, .nil⟩
  | cons op ops ih =>
    obtain ⟨es, hes, hrep, hlast⟩ := step_events dev op h
    obtain ⟨es', hes', hrep'⟩ := ih (step op h)
    refine ⟨es ++ es', ?_, ?_⟩
    · rw [run_cons, hes', hes, List.append_assoc]
    · rw [gather, changes_append, ← changes_congr sameCodeAddr_congr hlast]
      exact List.rel_append hrep hrep'

/-- **Every change of code or address is reported.** In every run of the adapter
`cb_dev_ev_handler` is called for a controller, in order and once each, for
exactly the records of its log whose code or address is not that of the record
right before it (`last_ev_rec` before the first), and a block's records are gone
over before the new down pointer is sent. -/
theorem log_changes_reported (dev : Nat) (ops : List Op) (h : Host) :
    (∃ es, eventsOf dev (run step ops h).trace = eventsOf dev h.trace ++ es ∧
      List.Forall₂ (Reports dev)
        (changes sameCodeAddr (h.devices dev).lastEvRec (gather step (blockOf dev) ops h)) es) ∧
      Along step MovesLast ops h :=
  ⟨run_events dev ops h, Along.of_forall step_movesLast ops h⟩

/-- A reply from controller 1 with two records that differ in the seconds. -/
def twoPassages : ReceivMess :=
  { len := 16, dev := 1, lastRead := 0
    buf := fun i => ([0xFA, 1, 0, 1, 1, 4, 2, 0, 0xC0, 5, 6, 7, 8, 9,
      2, 0, 0xC0, 5, 6, 7, 8, 0x10] : List UInt8).getD i 0 }

/-- Comparing the whole record would report both passages; one is dropped. -/
theorem repeated_passage_dropped :
    ¬ ∀ (dev : Nat) (ops : List Op) (h : Host),
      ∃ es, eventsOf dev (run step ops h).trace = eventsOf dev h.trace ++ es ∧
        List.Forall₂ (Reports dev)
          (changes (· == ·) (h.devices dev).lastEvRec (gather step (blockOf dev) ops h)) es := by
  intro hall
  obtain ⟨es, hes, hrep⟩ := hall 1 [.reply twoPassages]
    { boot workingWorld Db.empty with
      sendMess := { evHandler := .cbLogRead, target := .getBuffData, dev := 1 } }
  have hlen := hrep.length_eq
  have hes' := congrArg List.length hes
  rw [List.length_append, ← hlen] at hes'
  revert hes'; decide

end Libgate.LogEvents
