import Libgate.Operations
import Mathlib.Logic.Relation

/-! What the reply handlers and `gp_dev_init` may do, said once. Between two
transmissions they queue commands, call the database and the library's user,
and write to the records of the controllers, in steps that leave alone the port,
the command outstanding and the marks polling goes by. A handler ends with at
most one transmission, of a command that follows from the reply. -/

namespace Libgate.Handlers
open Lib DbLayer Util Send Target Cmd Processor Layer HostFrame Operations

/-! ## Small steps -/

/-- The fields of a record that polling and the timer go by. -/
structure SameMarks (r r' : GpDev) : Prop where
  activ : r'.activ = r.activ
  timeoutCount : r'.timeoutCount = r.timeoutCount
  isInited : r'.isInited = r.isInited

theorem SameMarks.refl (r : GpDev) : SameMarks r r := ⟨rfl, rfl, rfl⟩

theorem SameMarks.trans {r r' r'' : GpDev} (s : SameMarks r r') (s' : SameMarks r' r'') :
    SameMarks r r'' :=
  ⟨s'.activ.trans s.activ, s'.timeoutCount.trans s.timeoutCount, s'.isInited.trans s.isInited⟩

def routineTarget : AdTarget → Bool
  | .setDate | .setTimes | .setTokenBound | .info | .getTokenBound | .getTimes | .getDate
  | .turnOn | .setToken => true
  | _ => false

/-- A command the library queues by itself: to the second queue, without a
handler unless the log is asked for. -/
structure Routine (z : CmdSend) : Prop where
  queue : z.queue = AD_Q_SECOND
  what : z.evHandler = .null ∧ routineTarget z.targetN = true ∨
    z.evHandler = .cbLogRead ∧ z.targetN = .getBuffAddr

/-- Something seen outside other than a command. -/
def sideObs : Obs → Bool
  | .queued _ => false
  | .sent _ => false
  | _ => true

inductive Small : Host → Host → Prop
  | queue (z : CmdSend) (h : Host) (hz : Routine z) : Small h (gpInCmd z h).1
  | note (e : Obs) (h : Host) (he : sideObs e = true) : Small h (h.note e)
  | setDev (d : Nat) (f : GpDev → GpDev) (h : Host) (hf : ∀ r, SameMarks r (f r)) :
      Small h (h.setDev d f)
  | rest (h : Host) (db : Db) (curtime : Tm) (maxBoundToken : UInt16) (localtime : Nat → Tm) :
      Small h { h with
        db := db
        curtime := curtime
        maxBoundToken := maxBoundToken
        world := { h.world with localtime := localtime } }

/-- A run of small steps. -/
abbrev Quiet : Host → Host → Prop := Relation.ReflTransGen Small

namespace Quiet

theorem note {e : Obs} (he : sideObs e = true) (h : Host) : Quiet h (h.note e) :=
  .single (.note e h he)

theorem setDev (d : Nat) (f : GpDev → GpDev) (h : Host) (hf : ∀ r, SameMarks r (f r)) :
    Quiet h (h.setDev d f) :=
  .single (.setDev d f h hf)

theorem ofDb (h : Host) (db : Db) : Quiet h { h with db := db } :=
  .single (.rest h db h.curtime h.maxBoundToken h.world.localtime)

theorem ofCurtime (h : Host) (curtime : Tm) : Quiet h { h with curtime := curtime } :=
  .single (.rest h h.db curtime h.maxBoundToken h.world.localtime)

theorem ofMaxBoundToken (h : Host) (a : UInt16) : Quiet h { h with maxBoundToken := a } :=
  .single (.rest h h.db h.curtime a h.world.localtime)

theorem inCmd {z : CmdSend} (hz : Routine z) (h : Host) : Quiet h (gpInCmd z h).1 :=
  .single (.queue z h hz)

theorem orQueue {z : CmdSend} (hz : Routine z) (h : Host) : Quiet h (sendOrQueue z h).1 := by
  rw [sendOrQueue, if_neg (hz.queue ▸ second_ne_short)]
  exact inCmd hz h

theorem banks {z : CmdSend} (hz : Routine z) (h : Host) : Quiet h (bothBanks z h).1 :=
  (orQueue hz h).trans (orQueue (z := secondBank z) ⟨hz.queue, hz.what⟩ _)

theorem ite {c : Prop} [Decidable c] {h h' h'' : Host} (q : Quiet h h') (q' : Quiet h h'') :
    Quiet h (if c then h' else h'') := by
  split
  · exact q
  · exact q'

end Quiet

def sentCmd : Obs → Option CmdSend
  | .sent z => some z
  | _ => none

/-- The transmissions so far. -/
def sends (h : Host) : List CmdSend := h.trace.filterMap sentCmd

/-- What small steps keep: the port and its results to come, the command
outstanding, the marks, the first queue and what waits in the second. -/
structure Kept (h h' : Host) : Prop where
  now : h'.world.now = h.world.now
  write : h'.world.write = h.world.write
  openPort : h'.world.openPort = h.world.openPort
  fd : h'.fd = h.fd
  exitCode : h'.exitCode = h.exitCode
  sendMess : h'.sendMess = h.sendMess
  polling : h'.polling = h.polling
  maxDevN : h'.maxDevN = h.maxDevN
  gpDst : h'.gpDst = h.gpDst
  lastTry : h'.lastTry = h.lastTry
  marks : ∀ d, SameMarks (h.devices d) (h'.devices d)
  gpHead : h'.gpHead = h.gpHead
  gpHead2 : h.gpHead2 <+: h'.gpHead2
  sends : sends h' = sends h

namespace Kept

theorem refl (h : Host) : Kept h h :=
  ⟨rfl, rfl, rfl, rfl, rfl, rfl, rfl, rfl, rfl, rfl, fun _ => SameMarks.refl _, rfl,
    List.prefix_rfl, rfl⟩

theorem trans {h h' h'' : Host} (k : Kept h h') (k' : Kept h' h'') : Kept h h'' where
  now := k'.now.trans k.now
  write := k'.write.trans k.write
  openPort := k'.openPort.trans k.openPort
  fd := k'.fd.trans k.fd
  exitCode := k'.exitCode.trans k.exitCode
  sendMess := k'.sendMess.trans k.sendMess
  polling := k'.polling.trans k.polling
  maxDevN := k'.maxDevN.trans k.maxDevN
  gpDst := k'.gpDst.trans k.gpDst
  lastTry := k'.lastTry.trans k.lastTry
  marks d := (k.marks d).trans (k'.marks d)
  gpHead := k'.gpHead.trans k.gpHead
  gpHead2 := k.gpHead2.trans k'.gpHead2
  sends := k'.sends.trans k.sends

theorem note {e : Obs} (he : sideObs e = true) (h : Host) : Kept h (h.note e) := by
  refine ⟨rfl, rfl, rfl, rfl, rfl, rfl, rfl, rfl, rfl, rfl, fun _ => SameMarks.refl _, rfl,
    List.prefix_rfl, ?_⟩
  rw [Handlers.sends, Host.note, List.filterMap_append]
  cases e with
  | sent z => cases he
  | _ => exact List.append_nil _

theorem inCmd {z : CmdSend} (hz : Routine z) (h : Host) : Kept h (gpInCmd z h).1 := by
  have hq : z.queue ≠ AD_Q_FIRST := hz.queue ▸ by decide
  unfold gpInCmd
  cases h.world.malloc 0 with
  | false =>
    exact ⟨rfl, rfl, rfl, rfl, rfl, rfl, rfl, rfl, rfl, rfl, fun _ => SameMarks.refl _, rfl,
      List.prefix_rfl, rfl⟩
  | true =>
    simp only [Bool.not_true, Bool.false_eq_true, if_false, if_neg hq]
    refine ⟨rfl, rfl, rfl, rfl, rfl, rfl, rfl, rfl, rfl, rfl, fun _ => SameMarks.refl _, rfl,
      List.prefix_append .., ?_⟩
    rw [Handlers.sends, Host.note, List.filterMap_append]
    exact List.append_nil _

end Kept

theorem Small.kept {h h' : Host} (s : Small h h') : Kept h h' := by
  cases s with
  | queue z _ hz => exact Kept.inCmd hz h
  | note e _ he => exact Kept.note he h
  | setDev d f _ hf =>
    refine ⟨rfl, rfl, rfl, rfl, rfl, rfl, rfl, rfl, rfl, rfl, ?_, rfl, List.prefix_rfl, rfl⟩
    intro i
    by_cases hi : i = d
    · rw [hi, Host.setDev_devices_self]
      exact hf _
    · rw [Host.setDev_devices_ne _ _ hi]
      exact SameMarks.refl _
  | rest =>
    exact ⟨rfl, rfl, rfl, rfl, rfl, rfl, rfl, rfl, rfl, rfl, fun _ => SameMarks.refl _, rfl,
      List.prefix_rfl, rfl⟩

theorem Quiet.kept {h h' : Host} (q : Quiet h h') : Kept h h' := by
  induction q with
  | refl => exact Kept.refl h
  | tail _ s ih => exact ih.trans s.kept

/-! ## Cards -/

theorem raiseBound_quiet (dev : Nat) (addr : UInt16) (h : Host) :
    Quiet h (raiseBound dev addr h) := by
  unfold raiseBound
  refine Quiet.ite ?_ .refl
  have hset : Quiet h (h.setDev dev fun d => { d with boundToken := addr + 8 }) :=
    Quiet.setDev _ _ h fun _ => ⟨rfl, rfl, rfl⟩
  have hbound : ∀ h', Quiet h' (adSetTokenBound AD_Q_SECOND dev (addr + 8) h').1 :=
    fun h' => Quiet.banks ⟨rfl, .inl ⟨rfl, rfl⟩⟩ h'
  exact hset.trans ((Quiet.ofMaxBoundToken _ (max h.maxBoundToken (addr + 8))).trans (hbound _))

theorem cmdAddCid_quiet (rec : ProcAddCid) (h : Host) : Quiet h (cmdAddCid rec h).1 := by
  have hnote : Quiet h (h.note (.dbGetCidByA (cmdAddr rec h).toUInt32)) := Quiet.note rfl h
  unfold cmdAddCid
  simp only
  split
  · exact hnote
  · have hwrite : ∀ addr data h', Quiet h' (adSetToken AD_Q_SECOND rec.dev addr data 1 h').1 :=
      fun addr data h' => Quiet.banks ⟨rfl, .inl ⟨rfl, rfl⟩⟩ h'
    exact hnote.trans ((hwrite _ _ _).trans (raiseBound_quiet rec.dev _ _))

theorem cmdAddCidToAll_quiet (rec : ProcAddCid) (h : Host) : Quiet h (cmdAddCidToAll rec h).1 := by
  have hstore : ∀ t, Quiet h (addTokenLogged t h).1 :=
    fun t => (Quiet.note (e := .dbAddToken t) rfl h).trans (Quiet.ofDb _ _)
  have hloop : ∀ s : Host × ProcAddCid, Quiet s.1 (addCidLoop s.2 (devNums s.1) s.1).1 :=
    fun s => addCidLoop_rel (R := Quiet) (fun _ => .refl) (fun q q' => q.trans q') _
      (fun _ _ => cmdAddCid_quiet _ _) _ _
  have hrec : Quiet h (addCidToAllRec rec h).1 := hstore _
  exact hrec.trans (hloop _)

theorem pollNewCard_quiet (dev : Nat) (ev : UInt8) (h : Host) : Quiet h (pollNewCard dev ev h) := by
  have hlook : Quiet h (h.note (.dbGetTokenByC (h.devices dev).lastCid)) := Quiet.note rfl h
  unfold pollNewCard
  simp only
  refine hlook.trans ?_
  split
  · next token _ =>
    have hon : ∀ h', Quiet h' (adTurnOn AD_Q_SECOND dev (ev &&& 1) h').1 :=
      fun h' => Quiet.inCmd ⟨rfl, .inl ⟨rfl, rfl⟩⟩ h'
    refine (hon _).trans ((cmdAddCid_quiet (pollRec dev ev token) _).trans ?_)
    exact Quiet.ite (cmdAddCidToAll_quiet _ _) .refl
  · have hpush : ∀ rec h', Quiet h' (pushNewCid rec h') :=
      fun rec h' => (Quiet.note (e := .newCid rec) rfl h').trans (cmdAddCidToAll_quiet _ _)
    exact hpush _ _

theorem pollRegs_quiet (m : ReceivMess) (h : Host) : Quiet h (pollRegs m h).1 := by
  unfold pollRegs
  simp only
  refine Relation.ReflTransGen.trans ?_ (Quiet.setDev _ _ _ fun _ => ⟨rfl, rfl, rfl⟩)
  refine Quiet.ite (Quiet.ite (pollNewCard_quiet ..) (Quiet.ite ?_ .refl)) .refl
  exact Quiet.note rfl h

/-! ## The log -/

theorem logRecord_quiet (dev : Nat) (t : GpEvent) (c : Nat) (h : Host) :
    Quiet h (logRecord dev t c h).1 := by
  unfold logRecord
  split
  · exact .refl
  · have hset : Quiet h (h.setDev dev fun d => { d with lastEvRec := t }) :=
      Quiet.setDev _ _ h fun _ => ⟨rfl, rfl, rfl⟩
    have hlook := Quiet.note (e := .dbGetCidByA t.addrBe.toUInt32) rfl
      (h.setDev dev fun d => { d with lastEvRec := t })
    exact hset.trans (hlook.trans ((Quiet.ofCurtime _ _).trans (Quiet.note rfl _)))

theorem logRecords_quiet (dev : Nat) (recs : List GpEvent) (c : Nat) (h : Host) :
    Quiet h (logRecords dev recs c h) := by
  induction recs generalizing c h with
  | nil => exact .refl
  | cons t recs ih => exact (logRecord_quiet dev t c h).trans (ih _ _)

theorem getDevLogsLoop_quiet (ns : List Nat) (h : Host) : Quiet h (getDevLogsLoop ns h) := by
  induction ns generalizing h with
  | nil => exact .refl
  | cons d ns ih =>
    unfold getDevLogsLoop
    split
    · exact (Quiet.inCmd ⟨rfl, .inr ⟨rfl, rfl⟩⟩ h).trans (ih _)
    · exact ih h

/-! ## Initialisation of a controller -/

/-- Commands queued one after another. -/
def queueAll (zs : List CmdSend) (h : Host) : Host := zs.foldl (fun h z => (gpInCmd z h).1) h

theorem queueAll_quiet {zs : List CmdSend} (hz : ∀ z ∈ zs, Routine z) (h : Host) :
    Quiet h (queueAll zs h) := by
  induction zs generalizing h with
  | nil => exact .refl
  | cons z zs ih =>
    exact (Quiet.inCmd (hz z (List.mem_cons_self ..)) h).trans
      (ih (fun y hy => hz y (List.mem_cons_of_mem _ hy)) _)

/-- The second queue stays empty when it was and there is memory for no command. -/
theorem queueAll_gpHead2 {zs : List CmdSend} (hz : ∀ z ∈ zs, Routine z) (h : Host) :
    (queueAll zs h).gpHead2 = [] ↔
      h.gpHead2 = [] ∧ ∀ n < zs.length, h.world.malloc n = false := by
  induction zs generalizing h with
  | nil => exact ⟨fun hn => ⟨hn, fun n hn => absurd hn (Nat.not_lt_zero n)⟩, fun hn => hn.1⟩
  | cons z zs ih =>
    have hq : z.queue ≠ AD_Q_FIRST := (hz z (List.mem_cons_self ..)).queue ▸ by decide
    have hrest := ih (fun y hy => hz y (List.mem_cons_of_mem _ hy)) (gpInCmd z h).1
    have hmalloc : (gpInCmd z h).1.world.malloc = fun n => h.world.malloc (n + 1) := by
      unfold gpInCmd
      cases h.world.malloc 0 with
      | false => rfl
      | true =>
        simp only [Bool.not_true, Bool.false_eq_true, if_false, if_neg hq]
        rfl
    change (queueAll zs (gpInCmd z h).1).gpHead2 = [] ↔ _
    rw [hrest, hmalloc]
    cases hm : h.world.malloc 0 with
    | false =>
      have hsame : (gpInCmd z h).1.gpHead2 = h.gpHead2 := by simp [gpInCmd, hm]
      rw [hsame]
      apply and_congr_right
      intro _
      constructor
      · intro hall n hn
        cases n with
        | zero => exact hm
        | succ n => exact hall n (Nat.lt_of_succ_lt_succ hn)
      · intro hall n hn
        exact hall (n + 1) (Nat.succ_lt_succ hn)
    | true =>
      have hadd : (gpInCmd z h).1.gpHead2 = h.gpHead2 ++ [z] := by
        simp [gpInCmd, hm, if_neg hq, Host.note]
      rw [hadd]
      constructor
      · intro hnil
        exact absurd (List.append_eq_nil_iff.mp hnil.1).2 (List.cons_ne_nil z [])
      · intro hall
        have hno := hall.2 0 (Nat.succ_pos _)
        rw [hm] at hno
        cases hno

/-- The commands `gp_dev_init` queues. -/
def initCmds (dev : Nat) (date : List UInt8) (bound : UInt16) : List CmdSend :=
  let both (z : CmdSend) : List CmdSend := [z, secondBank z]
  [adCmd AD_Q_SECOND dev .setDate 0x05 (5 + 8) ([0x00, 0xD0, 8, 0x00, 0x00] ++ date)] ++
    both (adCmd AD_Q_SECOND dev .setTimes 0x05 (5 + 4) ([0x00, 0xA0, 2, 0x00, 0x00] ++ cfgTimes)) ++
    both (adSetTokenBoundCmd AD_Q_SECOND dev bound) ++
    [adCmd AD_Q_SECOND dev .info 0x09 0 []] ++
    both (adCmd AD_Q_SECOND dev .getTokenBound 0x04 5 [0x00, 0xA0, 2, 0x00, 0xBE]) ++
    both (adCmd AD_Q_SECOND dev .getTimes 0x04 5 [0x00, 0xA0, 2, 0x00, 0x00]) ++
    [adCmd AD_Q_SECOND dev .getDate 0x04 5 [0x00, 0xD0, 7, 0x00, 0x00]]

theorem initCmds_routine (dev : Nat) (date : List UInt8) (bound : UInt16) :
    ∀ z ∈ initCmds dev date bound, Routine z := by
  intro z hz
  simp only [initCmds, List.cons_append, List.nil_append, List.mem_cons, List.not_mem_nil,
    or_false] at hz
  rcases hz with rfl | rfl | rfl | rfl | rfl | rfl | rfl | rfl | rfl | rfl | rfl
  all_goals exact ⟨rfl, .inl ⟨rfl, rfl⟩⟩

/-- `gp_dev_init` queues its commands and marks the controller. -/
theorem gpDevInit_eq (dev : Nat) (h : Host) : gpDevInit dev h =
    (queueAll (initCmds dev (rtcDate (h.world.localtime 0) h.world.stack) h.maxBoundToken)
      (readLocaltime h)).setDev dev fun d => { d with isInited := true } := by
  have hbound : (adSetTimes AD_Q_SECOND dev cfgTimes (setRtcDate dev h).1).1.maxBoundToken =
      h.maxBoundToken := by
    have hdate : (setRtcDate dev h).1.maxBoundToken = h.maxBoundToken :=
      (gpInCmd_queued _ (readLocaltime h)).maxBoundToken
    have htimes : (adSetTimes AD_Q_SECOND dev cfgTimes (setRtcDate dev h).1).1.maxBoundToken =
        (setRtcDate dev h).1.maxBoundToken :=
      (bothBanks_queued (z := adCmd ..) second_ne_short _).maxBoundToken
    exact htimes.trans hdate
  unfold gpDevInit
  simp only [hbound]
  rfl

/-- `gp_dev_init` but for the mark at its end. -/
theorem gpDevInit_quiet (dev : Nat) (h : Host) : ∃ h', Quiet h h' ∧
    gpDevInit dev h = h'.setDev dev fun d => { d with isInited := true } := by
  have htime : Quiet h (readLocaltime h) :=
    .single (.rest h h.db (h.world.localtime 0) h.maxBoundToken fun n => h.world.localtime (n + 1))
  exact ⟨_, htime.trans (queueAll_quiet (initCmds_routine _ _ _) _), gpDevInit_eq dev h⟩

/-! ## Replies -/

/-- The command a reply handler sends before it returns. -/
def chained (m : ReceivMess) (h : Host) : Option CmdSend :=
  match h.sendMess.evHandler with
  | .null => none
  | .cbGetPollResult =>
    if h.sendMess.target = .getCid ∧ m.cmdN = 0x04 then
      some { adCmd AD_Q_SHORT m.src.toNat .getRegs 0x06 2 [0x15, 0x28] with polling := true }
    else none
  | .cbLogRead =>
    if h.sendMess.target = .getBuffAddr then
      let boundUp := be16toh m.buf ReceivMess.cmdBuffOff
      let boundDown := be16toh m.buf (ReceivMess.cmdBuffOff + 2)
      if boundDown.toNat > GP_MAX_LOG_BOUND ∨ boundUp.toNat > GP_MAX_LOG_BOUND ∨
          logLength boundUp boundDown = 0 then none
      else some (adGetBuffDataCmd AD_Q_SHORT m.src.toNat boundDown (logLength boundUp boundDown))
    else if h.sendMess.target = .getBuffData then
      some (adSetBuffAddrDownCmd AD_Q_SHORT m.src.toNat
        (nextDown (h.devices m.dev.toNat).boundDown (blockRecords m).length))
    else none

/-- What a handler that sends nothing returns. -/
def settled (m : ReceivMess) (h : Host) : Int :=
  match h.sendMess.evHandler with
  | .null => 0
  | .cbGetPollResult => if h.sendMess.target = .getRegs ∧ m.cmdN = 0x06 then 1 else 0
  | .cbLogRead => if h.sendMess.target = .setBuffAddrDown then 1 else 0

/-- A handler is small steps, none of which queues a command unless the handler
returns 1, and then, where a command follows from the reply, its transmission. -/
def Handles (m : ReceivMess) (h : Host) (r : Host × Int) : Prop :=
  ∃ h', Quiet h h' ∧ (settled m h = 0 → h'.gpHead2 = h.gpHead2) ∧
    r = ((chained m h).map fun z => gpSend z h').getD (h', settled m h)

theorem infoReply_quiet (m : ReceivMess) (h : Host) : Quiet h (infoReply m h) := by
  have hset : ∀ b h', Quiet h' (h'.setDev m.dev.toNat fun d => { d with cidRevert := b }) :=
    fun b h' => Quiet.setDev _ _ h' fun _ => ⟨rfl, rfl, rfl⟩
  have hmax : ∀ a b h', Quiet h' (h'.setDev m.dev.toNat fun d =>
      { d with maxBoundToken := a, maxBoundLog := b }) :=
    fun a b h' => Quiet.setDev _ _ h' fun _ => ⟨rfl, rfl, rfl⟩
  refine Relation.ReflTransGen.trans (Quiet.ite ?_ ?_) (Quiet.note rfl _)
  · exact (hset _ h).trans (hmax ..)
  · exact hset ..

theorem infoReply_gpHead2 (m : ReceivMess) (h : Host) : (infoReply m h).gpHead2 = h.gpHead2 := by
  unfold infoReply
  simp only [Host.note]
  rw [apply_ite Host.gpHead2]
  exact ite_self h.gpHead2

theorem logRecord_gpHead2 (dev : Nat) (t : GpEvent) (c : Nat) (h : Host) :
    (logRecord dev t c h).1.gpHead2 = h.gpHead2 := by
  unfold logRecord
  split
  · rfl
  · rfl

theorem logRecords_gpHead2 (dev : Nat) (recs : List GpEvent) (c : Nat) (h : Host) :
    (logRecords dev recs c h).gpHead2 = h.gpHead2 := by
  induction recs generalizing c h with
  | nil => rfl
  | cons t recs ih => exact (ih _ _).trans (logRecord_gpHead2 dev t c h)

theorem pollCid_handles {m : ReceivMess} {h : Host} (hev : h.sendMess.evHandler = .cbGetPollResult)
    (hcid : h.sendMess.target = .getCid ∧ m.cmdN = 0x04) : Handles m h (pollCid m h) := by
  unfold Handles chained
  rw [hev]
  simp only [if_pos hcid]
  have hnoted : ∀ a : UInt64, Quiet h (if (h.devices m.dev.toNat).lastCid ≠ a then
      h.setDev m.dev.toNat fun d => { d with lastCid := a, newCidFlag := true } else h) :=
    fun a => Quiet.ite (Quiet.setDev _ _ h fun _ => ⟨rfl, rfl, rfl⟩) .refl
  refine ⟨_, hnoted _, ?_, rfl⟩
  intro _
  split
  · rfl
  · rfl

theorem logAddr_handles {m : ReceivMess} {h : Host} (hev : h.sendMess.evHandler = .cbLogRead)
    (hadd : h.sendMess.target = .getBuffAddr) : Handles m h (logAddr m h) := by
  have hzero : settled m h = 0 := by simp [settled, hev, hadd]
  unfold Handles chained
  rw [hev, hzero]
  simp only [if_pos hadd]
  unfold logAddr
  simp only
  by_cases hout : (be16toh m.buf (ReceivMess.cmdBuffOff + 2)).toNat > GP_MAX_LOG_BOUND ∨
      (be16toh m.buf ReceivMess.cmdBuffOff).toNat > GP_MAX_LOG_BOUND
  · rw [if_pos hout, if_pos (hout.imp_right .inl)]
    exact ⟨h, .refl, fun _ => rfl, rfl⟩
  rw [if_neg hout]
  have hset : Quiet h (h.setDev m.dev.toNat fun d => { d with
      boundDown := be16toh m.buf (ReceivMess.cmdBuffOff + 2)
      boundUp := be16toh m.buf ReceivMess.cmdBuffOff }) :=
    Quiet.setDev _ _ h fun _ => ⟨rfl, rfl, rfl⟩
  by_cases hl : logLength (be16toh m.buf ReceivMess.cmdBuffOff)
      (be16toh m.buf (ReceivMess.cmdBuffOff + 2)) = 0
  · rw [if_neg (fun hn => hn hl), if_pos (.inr (.inr hl))]
    exact ⟨_, hset, fun _ => rfl, rfl⟩
  · rw [if_pos hl, if_neg (fun hn => hn.elim (fun hd => hout (.inl hd))
      fun hn => hn.elim (fun hu => hout (.inr hu)) hl)]
    exact ⟨_, hset, fun _ => rfl, rfl⟩

/-- A handler that sends nothing. -/
theorem handles_alone {m : ReceivMess} {h h' : Host} {v : Int} (hc : chained m h = none)
    (hs : settled m h = v) (q : Quiet h h') (hq : v = 0 → h'.gpHead2 = h.gpHead2) :
    Handles m h (h', v) := by
  subst hs
  refine ⟨h', q, hq, ?_⟩
  rw [hc]
  rfl

/-- **What a reply does**: small steps, and at most one transmission behind them. -/
theorem processPortInput_handles (m : ReceivMess) (h : Host) :
    Handles m h (processPortInput m h) := by
  cases hev : h.sendMess.evHandler with
  | null =>
    have hnone : chained m h = none := by simp only [chained, hev]
    have hzero : settled m h = 0 := by simp only [settled, hev]
    simp only [processPortInput, hev]
    split
    · exact handles_alone hnone hzero (infoReply_quiet m h) fun _ => infoReply_gpHead2 m h
    · split
      · exact handles_alone hnone hzero (Quiet.setDev _ _ h fun _ => ⟨rfl, rfl, rfl⟩) fun _ => rfl
      · exact handles_alone hnone hzero .refl fun _ => rfl
  | cbGetPollResult =>
    have heq : processPortInput m h = cbGetPollResult m h := by simp only [processPortInput, hev]
    rw [heq, cbGetPollResult]
    by_cases hcid : h.sendMess.target = .getCid ∧ m.cmdN = 0x04
    · rw [if_pos hcid]
      exact pollCid_handles hev hcid
    rw [if_neg hcid]
    have hnone : chained m h = none := by simp only [chained, hev, if_neg hcid]
    by_cases hregs : h.sendMess.target = .getRegs ∧ m.cmdN = 0x06
    · have hone : settled m h = 1 := by simp only [settled, hev, if_pos hregs]
      rw [if_pos hregs]
      exact handles_alone hnone hone (pollRegs_quiet m h) fun hn => absurd hn (by decide)
    · have hzero : settled m h = 0 := by simp only [settled, hev, if_neg hregs]
      rw [if_neg hregs]
      exact handles_alone hnone hzero .refl fun _ => rfl
  | cbLogRead =>
    have heq : processPortInput m h = cbLogRead m h := by simp only [processPortInput, hev]
    rw [heq, cbLogRead]
    by_cases hadd : h.sendMess.target = .getBuffAddr
    · rw [if_pos hadd]
      exact logAddr_handles hev hadd
    rw [if_neg hadd]
    by_cases hdata : h.sendMess.target = .getBuffData
    · rw [if_pos hdata, logData_eq]
      unfold Handles chained
      rw [hev]
      simp only [if_neg hadd, if_pos hdata]
      exact ⟨_, logRecords_quiet .., fun _ => logRecords_gpHead2 .., rfl⟩
    rw [if_neg hdata]
    have hnone : chained m h = none := by simp only [chained, hev, if_neg hadd, if_neg hdata]
    by_cases hset : h.sendMess.target = .setBuffAddrDown
    · have hone : settled m h = 1 := by simp only [settled, hev, if_pos hset]
      rw [if_pos hset]
      exact handles_alone hnone hone .refl fun _ => rfl
    · have hzero : settled m h = 0 := by simp only [settled, hev, if_neg hset]
      rw [if_neg hset]
      exact handles_alone hnone hzero .refl fun _ => rfl

/-- A handler that sends a command returns what the transmission does. -/
theorem settled_of_chained {m : ReceivMess} {h : Host} (hc : (chained m h).isSome = true) :
    settled m h = 0 := by
  unfold chained at hc
  unfold settled
  cases hev : h.sendMess.evHandler with
  | null => rfl
  | cbGetPollResult =>
    rw [hev] at hc
    simp only at hc ⊢
    split at hc
    · next hcid => rw [if_neg fun hn => AdTarget.noConfusion (hcid.1.symm.trans hn.1)]
    · cases hc
  | cbLogRead =>
    rw [hev] at hc
    simp only at hc ⊢
    split at hc
    · next hadd => rw [if_neg fun hn => AdTarget.noConfusion (hadd.symm.trans hn)]
    · split at hc
      · next hdata => rw [if_neg fun hn => AdTarget.noConfusion (hdata.symm.trans hn)]
      · cases hc

theorem processPortInput_chained {m : ReceivMess} {h : Host} {z : CmdSend}
    (hc : chained m h = some z) :
    ∃ h', Kept h h' ∧ h'.gpHead2 = h.gpHead2 ∧ processPortInput m h = gpSend z h' := by
  obtain ⟨h', q, hq, he⟩ := processPortInput_handles m h
  have hz := settled_of_chained (m := m) (h := h) (by rw [hc]; rfl)
  rw [hc] at he
  exact ⟨h', q.kept, hq hz, he⟩

theorem processPortInput_unchained {m : ReceivMess} {h : Host} (hc : chained m h = none) :
    ∃ h', Kept h h' ∧ (settled m h = 0 → h'.gpHead2 = h.gpHead2) ∧
      processPortInput m h = (h', settled m h) := by
  obtain ⟨h', q, hq, he⟩ := processPortInput_handles m h
  rw [hc] at he
  exact ⟨h', q.kept, hq, he⟩

end Libgate.Handlers
