import Libgate.HostFrame
import Libgate.Lib.Run

/-! The operations of the adapter between two events, as one step function on
the host state, and the frame they share. Most of what they do is inert: it
neither touches a controller's `bound_token` or `last_ev_rec` nor shows a token
command, a bound command or a passage event in the trace. -/

namespace Libgate.Operations
open Lib DbLayer Util Send Target Cmd Processor Layer HostFrame

/-- Something that can be seen outside and is none of the three. -/
def inertObs : Obs → Bool
  | .devEv _ => false
  | .queued z => z.targetN ≠ .setToken ∧ z.targetN ≠ .setTokenBound
  | _ => true

structure Inert (h h' : Host) : Prop where
  maxBoundToken : h'.maxBoundToken = h.maxBoundToken
  boundToken : ∀ d, (h'.devices d).boundToken = (h.devices d).boundToken
  lastEvRec : ∀ d, (h'.devices d).lastEvRec = (h.devices d).lastEvRec
  trace : ∃ es, h'.trace = h.trace ++ es ∧ ∀ e ∈ es, inertObs e = true

namespace Inert
variable {h h' h'' : Host}

theorem refl (h : Host) : Inert h h := ⟨rfl, fun _ => rfl, fun _ => rfl, [], by simp, by simp⟩

theorem trans (i : Inert h h') (j : Inert h' h'') : Inert h h'' := by
  obtain ⟨es, he, hes⟩ := i.trace
  obtain ⟨es', he', hes'⟩ := j.trace
  refine ⟨j.maxBoundToken.trans i.maxBoundToken, fun d => (j.boundToken d).trans (i.boundToken d),
    fun d => (j.lastEvRec d).trans (i.lastEvRec d), es ++ es', by rw [he', he]; simp, ?_⟩
  intro e hm
  rcases List.mem_append.mp hm with hm | hm
  · exact hes e hm
  · exact hes' e hm

/-- A change outside the fields of the frame. -/
theorem of_eq (hb : h'.maxBoundToken = h.maxBoundToken) (hd : h'.devices = h.devices)
    (ht : h'.trace = h.trace) : Inert h h' :=
  ⟨hb, fun d => by rw [hd], fun d => by rw [hd], [], by simp [ht], by simp⟩

theorem queued {P : CmdSend → Prop} (q : Queued P h h')
    (hP : ∀ z, P z → inertObs (.queued z) = true) : Inert h h' := by
  obtain ⟨zs, hz, ht⟩ := q.trace
  refine ⟨q.maxBoundToken, fun d => by rw [q.devices], fun d => by rw [q.devices], _, ht, ?_⟩
  intro e he
  obtain ⟨z, hm, rfl⟩ := List.mem_map.mp he
  exact hP z (hz z hm)

theorem note {e : Obs} (he : inertObs e = true) (h : Host) : Inert h (h.note e) :=
  ⟨rfl, fun _ => rfl, fun _ => rfl, [e], rfl, by simpa using he⟩

theorem setDev (d : Nat) (f : GpDev → GpDev) (h : Host)
    (hf : ∀ r, (f r).boundToken = r.boundToken ∧ (f r).lastEvRec = r.lastEvRec) :
    Inert h (h.setDev d f) := by
  refine ⟨rfl, ?_, ?_, [], by simp [Host.setDev], by simp⟩
  · intro i
    by_cases hi : i = d
    · subst hi; rw [Host.setDev_devices_self, (hf _).1]
    · rw [Host.setDev_devices_ne _ _ hi]
  · intro i
    by_cases hi : i = d
    · subst hi; rw [Host.setDev_devices_self, (hf _).2]
    · rw [Host.setDev_devices_ne _ _ hi]

theorem ite {c : Prop} [Decidable c] (i : Inert h h') (j : Inert h h'') :
    Inert h (if c then h' else h'') := by
  split
  · exact i
  · exact j

end Inert

/-! ## Senders -/

theorem gpSend_inert (cmd : CmdSend) (h : Host) : Inert h (gpSend cmd h).1 := by
  have hdev := Inert.setDev cmd.dst.toNat (fun d => { d with lastSent := tv2ms h.world.now }) h
    fun _ => ⟨rfl, rfl⟩
  refine ⟨gpSend_maxBoundToken .., ?_, ?_, [.sent cmd], gpSend_trace .., ?_⟩
  · intro d
    rw [gpSend_devices]; exact hdev.boundToken d
  · intro d
    rw [gpSend_devices]; exact hdev.lastEvRec d
  · intro e he
    rw [List.mem_singleton.mp he]; rfl

theorem sendOrQueue_inert {z : CmdSend} (hz : inertObs (.queued z) = true) (h : Host) :
    Inert h (sendOrQueue z h).1 := by
  unfold sendOrQueue
  split
  · exact gpSend_inert z h
  · exact Inert.queued (gpInCmd_queued z h) fun c hc => hc ▸ hz

theorem gpInCmd_inert {z : CmdSend} (hz : inertObs (.queued z) = true) (h : Host) :
    Inert h (gpInCmd z h).1 :=
  Inert.queued (gpInCmd_queued z h) fun _ hc => hc ▸ hz

theorem bothBanks_inert {z : CmdSend} (hz : inertObs (.queued z) = true) (h : Host) :
    Inert h (bothBanks z h).1 :=
  (sendOrQueue_inert hz h).trans (sendOrQueue_inert (z := secondBank z) hz _)

theorem gpPutCmd_inert (h : Host) : Inert h (gpPutCmd h).1 := by
  unfold gpPutCmd
  split
  · next enp rest _ =>
    have hq : Inert h { h with gpHead := rest } := Inert.of_eq rfl rfl rfl
    exact hq.trans (gpSend_inert enp _)
  · split
    · next enp rest _ =>
      have hq : Inert h { h with gpHead2 := rest } := Inert.of_eq rfl rfl rfl
      exact hq.trans (gpSend_inert enp _)
    · exact Inert.refl h

theorem gpSendIdleLoop_inert (n : Nat) (h : Host) : Inert h (gpSendIdleLoop n h).1 := by
  induction n generalizing h with
  | zero => exact Inert.refl h
  | succ n ih =>
    have hnext : Inert h { h with gpDst := h.gpDst + 1 } := Inert.of_eq rfl rfl rfl
    unfold gpSendIdleLoop
    simp only
    split
    · exact Inert.of_eq rfl rfl rfl
    · split
      · have hoff := Inert.setDev (h.gpDst + 1) (fun d => { d with activ := false })
          { h with gpDst := h.gpDst + 1 } fun _ => ⟨rfl, rfl⟩
        exact hnext.trans (hoff.trans (ih _))
      · exact hnext.trans (gpSend_inert _ _)

theorem gpGetDevLogs_inert (h : Host) : Inert h (gpGetDevLogs h) :=
  Inert.queued (getDevLogsLoop_queued ..) fun _ ⟨_, hz⟩ => hz ▸ rfl

theorem setRtcDate_inert (dev : Nat) (h : Host) : Inert h (setRtcDate dev h).1 := by
  have hcur : Inert h (readLocaltime h) := Inert.of_eq rfl rfl rfl
  exact hcur.trans (gpInCmd_inert rfl _)

/-- `gp_dev_init` queues the global bound between things that are inert. -/
theorem gpDevInit_split (dev : Nat) (h : Host) : ∃ h1 h2, Inert h h1 ∧
    Queued (IsSetBound dev h.maxBoundToken) h1 h2 ∧ Inert h2 (gpDevInit dev h) := by
  have i1 : Inert h (adSetTimes AD_Q_SECOND dev cfgTimes (setRtcDate dev h).1).1 :=
    (setRtcDate_inert dev h).trans (bothBanks_inert rfl _)
  refine ⟨_, _, i1, adSetTokenBound_queued dev h.maxBoundToken _, ?_⟩
  unfold gpDevInit
  simp only [i1.maxBoundToken]
  refine Inert.trans ?_ (Inert.setDev _ _ _ fun _ => ⟨rfl, rfl⟩)
  refine Inert.trans ?_ (gpInCmd_inert rfl _)
  refine Inert.trans ?_ (bothBanks_inert rfl _)
  refine Inert.trans ?_ (bothBanks_inert rfl _)
  exact sendOrQueue_inert rfl _

/-! ## Replies -/

theorem pollCid_inert (m : ReceivMess) (h : Host) : Inert h (pollCid m h).1 := by
  unfold pollCid adGetRegs
  simp only
  split
  · have hcid := Inert.setDev m.dev.toNat (fun d => { d with
      lastCid := bin2int m.buf ReceivMess.cmdBuffOff (sizeT m.len)
        (h.devices m.dev.toNat).cidRevert
      newCidFlag := true }) h fun _ => ⟨rfl, rfl⟩
    exact hcid.trans (sendOrQueue_inert rfl _)
  · exact sendOrQueue_inert rfl h

theorem logAddr_inert (m : ReceivMess) (h : Host) : Inert h (logAddr m h).1 := by
  unfold logAddr adGetBuffData
  simp only
  split
  · exact Inert.refl h
  · have hset := Inert.setDev m.dev.toNat (fun d => { d with
      boundDown := be16toh m.buf (ReceivMess.cmdBuffOff + 2)
      boundUp := be16toh m.buf ReceivMess.cmdBuffOff }) h fun _ => ⟨rfl, rfl⟩
    split
    · exact hset.trans (sendOrQueue_inert rfl _)
    · exact hset

theorem infoReply_inert (m : ReceivMess) (h : Host) : Inert h (infoReply m h) := by
  have hset : ∀ b h', Inert h' (h'.setDev m.dev.toNat fun d => { d with cidRevert := b }) :=
    fun b h' => Inert.setDev _ _ h' fun _ => ⟨rfl, rfl⟩
  have hmax : ∀ a b h', Inert h' (h'.setDev m.dev.toNat fun d =>
      { d with maxBoundToken := a, maxBoundLog := b }) :=
    fun a b h' => Inert.setDev _ _ h' fun _ => ⟨rfl, rfl⟩
  refine Inert.trans (Inert.ite ?_ ?_) (Inert.note rfl _)
  · exact (hset _ h).trans (hmax ..)
  · exact hset ..

/-- What the loop over the records of a block shows. -/
def logNote : Obs → Bool
  | .dbGetCidByA _ => true
  | .devEv _ => true
  | _ => false

/-- The argument of `cb_dev_ev_handler` for a record that is not skipped. -/
def reported (dev : Nat) (t : GpEvent) (c : Nat) (h : Host) : ProcEvent :=
  let time := getEvTime h.world.mktime t h.curtime
  { dev := dev, subdev := t.evCode &&& 1, ev := t.evCode, addr := t.addrBe
    cid := dbGetCidByA h.db t.addrBe.toUInt32, ts := time.1, ct := getEvDate t time.2, dup := c }

theorem logRecord_skipped {dev : Nat} {t : GpEvent} {h : Host} (c : Nat)
    (hs : sameCodeAddr (h.devices dev).lastEvRec t = true) :
    logRecord dev t c h = (h, c + 1) := by simp [logRecord, hs]

theorem logRecord_reported {dev : Nat} {t : GpEvent} {h : Host} (c : Nat)
    (hs : sameCodeAddr (h.devices dev).lastEvRec t = false) :
    (logRecord dev t c h).1.devices = (h.setDev dev fun d => { d with lastEvRec := t }).devices ∧
      (logRecord dev t c h).1.maxBoundToken = h.maxBoundToken ∧
      (logRecord dev t c h).1.sendMess = h.sendMess ∧
      (logRecord dev t c h).1.trace =
        h.trace ++ [.dbGetCidByA t.addrBe.toUInt32, .devEv (reported dev t c h)] := by
  unfold logRecord
  rw [if_neg (by simp [hs])]
  exact ⟨rfl, rfl, rfl, by simp [Host.note, Host.setDev, reported]⟩

theorem logRecords_frame (dev : Nat) (recs : List GpEvent) (c : Nat) (h : Host) :
    (logRecords dev recs c h).maxBoundToken = h.maxBoundToken ∧
      (logRecords dev recs c h).sendMess = h.sendMess ∧
      ∃ es, (logRecords dev recs c h).trace = h.trace ++ es ∧ ∀ e ∈ es, logNote e = true := by
  induction recs generalizing c h with
  | nil => exact ⟨rfl, rfl, [], by simp [logRecords], by simp⟩
  | cons t recs ih =>
    obtain ⟨hmax, hsend, es, htr, hes⟩ := ih (logRecord dev t c h).2 (logRecord dev t c h).1
    unfold logRecords
    cases hs : sameCodeAddr (h.devices dev).lastEvRec t with
    | true =>
      rw [logRecord_skipped c hs] at hmax hsend htr ⊢
      exact ⟨hmax, hsend, es, htr, hes⟩
    | false =>
      obtain ⟨_, hmax1, hsend1, htr1⟩ := logRecord_reported c hs
      refine ⟨hmax.trans hmax1, hsend.trans hsend1, _, by rw [htr, htr1, List.append_assoc], ?_⟩
      intro x hx
      rcases List.mem_append.mp hx with hx | hx
      · rcases List.mem_pair.mp hx with rfl | rfl
        · rfl
        · rfl
      · exact hes x hx

/-- The lower pointer after a block of `n` records. -/
def nextDown (down : UInt16) (n : Nat) : UInt16 :=
  UInt16.ofNat (if down.toNat + sizeofEvent * n ≥ GP_MAX_LOG_BOUND then 0
    else down.toNat + sizeofEvent * n)

/-- A data reply: the records of the block, then the lower pointer moved past it. -/
theorem logData_eq (m : ReceivMess) (h : Host) : logData m h =
    gpSend (adSetBuffAddrDownCmd AD_Q_SHORT m.src.toNat
      (nextDown (h.devices m.dev.toNat).boundDown (blockRecords m).length))
      (logRecords m.dev.toNat (blockRecords m) 0 h) := rfl

/-- The event code of a poll reply reports a new card. -/
def newCardDue (m : ReceivMess) (h : Host) : Prop :=
  ((h.devices m.dev.toNat).newCidFlag ∨ (h.devices m.dev.toNat).lastEv ≠ m.cmdBuff 20) ∧
    m.cmdBuff 20 &&& 0xFE = 0x02

instance (m : ReceivMess) (h : Host) : Decidable (newCardDue m h) :=
  inferInstanceAs (Decidable (_ ∧ _))

/-- All a poll reply does besides treating a new card is inert. -/
theorem pollRegs_cases (m : ReceivMess) (h : Host) :
    newCardDue m h ∧ Inert (pollNewCard m.dev.toNat (m.cmdBuff 20) h) (pollRegs m h).1 ∨
      ¬ newCardDue m h ∧ Inert h (pollRegs m h).1 := by
  have hend : ∀ h', Inert h' (h'.setDev m.dev.toNat fun d =>
      { d with lastEv := m.cmdBuff 20, newCidFlag := false }) :=
    fun h' => Inert.setDev _ _ h' fun _ => ⟨rfl, rfl⟩
  unfold pollRegs newCardDue
  simp only
  split
  · next hflag =>
    split
    · next hev => exact .inl ⟨⟨hflag, hev⟩, hend _⟩
    · next hev =>
      refine .inr ⟨fun hn => hev hn.2, ?_⟩
      split
      · exact (Inert.note rfl h).trans (hend _)
      · exact hend h
  · next hflag => exact .inr ⟨fun hn => hflag hn.1, hend h⟩

/-- What a reply can do: something inert, or one of three handlers. -/
theorem processPortInput_cases (m : ReceivMess) (h : Host) :
    h.sendMess.evHandler = .cbLogRead ∧ h.sendMess.target = .getBuffData ∧
        processPortInput m h = logData m h ∨
      ¬ (h.sendMess.evHandler = .cbLogRead ∧ h.sendMess.target = .getBuffData) ∧
        (Inert h (processPortInput m h).1 ∨
          (h.sendMess.evHandler = .cbGetPollResult ∧ h.sendMess.target = .getRegs ∧
            m.cmdN = 0x06) ∧ processPortInput m h = pollRegs m h ∨
          (h.sendMess.evHandler = .null ∧ h.sendMess.target = .getTokenBound ∧ m.cmdN = 0x04) ∧
            (processPortInput m h).1 = tokenBoundReply m h) := by
  cases hev : h.sendMess.evHandler with
  | cbGetPollResult =>
    have heq : processPortInput m h = cbGetPollResult m h := by simp only [processPortInput, hev]
    rw [heq]
    refine .inr ⟨fun hn => EvCbFunc.noConfusion hn.1, ?_⟩
    unfold cbGetPollResult
    by_cases hcid : h.sendMess.target = .getCid ∧ m.cmdN = 0x04
    · rw [if_pos hcid]
      exact .inl (pollCid_inert m h)
    rw [if_neg hcid]
    by_cases hregs : h.sendMess.target = .getRegs ∧ m.cmdN = 0x06
    · rw [if_pos hregs]
      exact .inr (.inl ⟨⟨rfl, hregs.1, hregs.2⟩, rfl⟩)
    · rw [if_neg hregs]
      exact .inl (Inert.refl h)
  | cbLogRead =>
    have heq : processPortInput m h = cbLogRead m h := by simp only [processPortInput, hev]
    rw [heq]
    unfold cbLogRead
    by_cases haddr : h.sendMess.target = .getBuffAddr
    · rw [if_pos haddr, haddr]
      exact .inr ⟨fun hn => AdTarget.noConfusion hn.2, .inl (logAddr_inert m h)⟩
    rw [if_neg haddr]
    by_cases hdata : h.sendMess.target = .getBuffData
    · rw [if_pos hdata]
      exact .inl ⟨rfl, hdata, rfl⟩
    rw [if_neg hdata]
    refine .inr ⟨fun hn => hdata hn.2, .inl ?_⟩
    split
    · exact Inert.refl h
    · exact Inert.refl h
  | null =>
    refine .inr ⟨fun hn => EvCbFunc.noConfusion hn.1, ?_⟩
    simp only [processPortInput, hev]
    split
    · exact .inl (infoReply_inert m h)
    · split
      · next hbound => exact .inr (.inr ⟨⟨trivial, hbound.2, hbound.1⟩, rfl⟩)
      · exact .inl (Inert.refl h)

/-! ## Runs -/

/-- What the adapter does between two events of its environment: a controller
is initialised, a card is added, a command is sent from the queues or by
polling, the logs are asked for, a reply is processed. -/
inductive Op where
  | devInit (dev : Nat)
  | addCid (rec : ProcAddCid)
  | addCidToAll (rec : ProcAddCid)
  | addTocken (inRec : AdTokenRec)
  | drain
  | idle
  | logs
  | reply (m : ReceivMess)

def step (op : Op) (h : Host) : Host :=
  match op with
  | .devInit dev => gpDevInit dev h
  | .addCid rec => (cmdAddCid rec h).1
  | .addCidToAll rec => (cmdAddCidToAll rec h).1
  | .addTocken inRec => (cmdAddTockenToAll inRec h).1
  | .drain => (gpPutCmd h).1
  | .idle => (gpSendIdle h).1
  | .logs => gpGetDevLogs h
  | .reply m => (processPortInput m h).1

end Libgate.Operations
