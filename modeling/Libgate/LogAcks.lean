import Libgate.Attribution
import Libgate.CardReports
import Libgate.Conversations
import Libgate.LogEvents

/-! What is acknowledged of the logs. A block is asked for where the record of its
controller says that it begins. The message that comes to the question, and nothing
else, is acknowledged: the lower pointer is moved from there past the records it
brought, once these have been gone over. -/

namespace Libgate.LogAcks
open Lib Send Target Processor Receiver Layer HostFrame Handlers Transmit LineSteps Calls
open Readings Conversations CardReports
open Operations (nextDown)
open ReceiverFrames (handed gpReceiv_handed receivAlive_sendMess)
open Attribution (sentNow learns_bounds)
open LogEvents (ReportsAll)

/-! ## Acknowledgements -/

/-- The acknowledgements of a call: what moves the lower pointer alone. -/
def acks (c : Call) (g : Gate) : List CmdSend :=
  (sentNow g.host (perform c g).host).filter fun z => z.targetN = .setBuffAddrDown

/-- Where the block begins that a command asks for. -/
def blockAt (z : CmdSend) : UInt16 := UInt16.ofNat (valAt z 3)

/-- How a message that comes behind the command is acknowledged. -/
def ackOf (y : CmdSend) (m : ReceivMess) : List CmdSend :=
  if y.targetN = .getBuffData then
    [adSetBuffAddrDownCmd AD_Q_SHORT y.dst.toNat (nextDown (blockAt y) (blockRecords m).length)]
  else []

/-- What a call has to acknowledge. -/
def due (c : Call) (g : Gate) : List CmdSend :=
  match c with
  | .receiv e =>
    match handed e g, (sends g.host).getLast? with
    | some m, some y => ackOf y m
    | _, _ => []
  | _ => []

/-- A call acknowledges what it has to and has gone over it. -/
structure AcksRead (c : Call) (g : Gate) : Prop where
  acks : acks c g = due c g
  read : ∀ e, c = .receiv e → ∀ m ∈ handed e g, due c g ≠ [] →
    ReportsAll m.dev.toNat (blockRecords m) g.host (perform c g).host

theorem blockAt_getBuffData (q : Int) (d : Nat) (addr : UInt16) (l : Nat) :
    blockAt (adGetBuffDataCmd q d addr l) = addr := by
  have hval : valAt (adGetBuffDataCmd q d addr l) 3 = addr.toNat := be16_val addr
  rw [blockAt, hval, UInt16.ofNat_toNat]

/-! ## Calls that bring no message -/

/-- Nothing is sent that belongs to a block of a log. -/
def NoLog (h h' : Host) : Prop := ∃ zs, sends h' = sends h ++ zs ∧ ∀ z ∈ zs, isLog z = false

theorem NoLog.of_sends {h h' : Host} (hs : sends h' = sends h) : NoLog h h' :=
  ⟨[], by rw [hs, List.append_nil], by simp⟩

theorem NoLog.of_only {h h₁ h' : Host} (hs : sends h₁ = sends h)
    (s : SendsOnly (fun z => isLog z = false) h₁ h') : NoLog h h' := by
  obtain ⟨zs, a, hz⟩ := s
  exact ⟨zs, by rw [a.sends, hs], hz⟩

theorem acks_of_noLog {zs : List CmdSend} (hz : ∀ z ∈ zs, isLog z = false) :
    zs.filter (fun z => z.targetN = .setBuffAddrDown) = [] := by
  refine List.filter_eq_nil_iff.mpr ?_
  intro z hm ht
  have hno := hz z hm
  simp only [decide_eq_true_eq] at ht
  rw [isLog, ht] at hno
  cases hno

theorem putCmd_only {h : Host} (hs : Stocked h) :
    SendsOnly (fun z => isLog z = false) h (gpPutCmd h).1 :=
  SendsOnly.putCmd (fun _ hz => hz.log) hs.waiting

theorem perform_noLog {c : Call} {g : Gate} (hs : Stocked g.host)
    (hno : ∀ e, c = .receiv e → handed e g = none) : NoLog g.host (perform c g).host := by
  rcases call_kinds c with ⟨r, rfl⟩ | rfl | rfl | hask
  · have hk := hno _ rfl
    simp only [handed] at hk
    split at hk
    · cases hk
    next hin =>
    exact NoLog.of_only (receivAlive_heard g.host).sends (SendsOnly.dispatch (fun _ hz => hz.log)
      (fun _ => rfl) (fun hn => absurd hn hin) (stocked (receivAlive_library _) hs))
  · have hopen := gpReconnect_kept false g.host
    change NoLog g.host (receivTimeout g.host)
    rw [receivTimeout_eq]
    split
    · refine NoLog.of_only ((charge_kept _).2.2.2.1.trans hopen.2.2.2.2.2.1)
        (SendsOnly.sendNext (fun _ hz => hz.log) (fun _ => rfl) ?_)
      rw [(charge_kept _).2.2.2.2, hopen.2.2.2.2.2.2]
      exact hs.waiting
    · exact NoLog.of_sends hopen.2.2.2.2.2.1
  · exact NoLog.of_sends (gpAllDevEnable_silent g.host).sends
  · exact NoLog.of_sends (perform_onlyQueues hask g).sends

theorem perform_facts {c : Call} {g : Gate} (hno : ∀ e, c = .receiv e → handed e g = none) (d : Nat) :
    SameFacts (g.host.devices d) ((perform c g).host.devices d) := by
  rcases call_kinds c with ⟨r, rfl⟩ | rfl | rfl | hask
  · exact ((receiv_still (hno _ rfl)).facts d).toSameFacts
  · exact ((receivTimeout_still g.host).facts d).toSameFacts
  · exact ((gpAllDevEnable_still g.host).facts d).toSameFacts
  · exact (perform_onlyQueues hask g).facts d

/-! ## Messages -/

theorem chained_receivAlive (m : ReceivMess) (h : Host) :
    chained m (receivAlive h) = chained m h := by
  unfold chained
  rw [receivAlive_sendMess, ((receivAlive_still h).facts _).boundDown]

/-- A message is answered by what goes on from it, and then what is queued. -/
theorem message_sends {e : PortEvent} {g : Gate} {m : ReceivMess} (hm : handed e g = some m)
    (hs : Stocked g.host) : ∃ zs, (∀ z ∈ zs, isLog z = false) ∧
      sends (gpReceiv e g).host = sends g.host ++ (chained m g.host).toList ++ zs := by
  have hreply := After.reply m (receivAlive g.host)
  rw [chained_receivAlive] at hreply
  have hsends : sends (processPortInput m (receivAlive g.host)).1 =
      sends g.host ++ (chained m g.host).toList := by
    rw [hreply.sends, (receivAlive_heard g.host).sends]
  have hsrc : m.src = (receivAlive g.host).sendMess.dev := by
    rw [receivAlive_sendMess]
    exact (handed_src hm).1
  have hstocked := stocked (processPortInput_library hsrc) (stocked (receivAlive_library _) hs)
  obtain ⟨_, heq | heq⟩ := gpReceiv_handed hm
  · obtain ⟨zs, a, hz⟩ := putCmd_only hstocked
    exact ⟨zs, hz, by rw [heq, a.sends, hsends]⟩
  · exact ⟨[], by simp, by rw [heq, hsends, List.append_nil]⟩

/-- The lower pointer is moved behind a block. -/
theorem chained_acks (m : ReceivMess) (h : Host) :
    (chained m h).toList.filter (fun z => z.targetN = .setBuffAddrDown) =
      if h.sendMess.evHandler = .cbLogRead ∧ h.sendMess.target = .getBuffData then
        [adSetBuffAddrDownCmd AD_Q_SHORT m.src.toNat
          (nextDown (h.devices m.dev.toNat).boundDown (blockRecords m).length)]
      else [] := by
  unfold chained
  cases hev : h.sendMess.evHandler with
  | null => simp
  | cbGetPollResult =>
    simp only
    split
    · simp [adCmd]
    · simp
  | cbLogRead =>
    simp only
    split
    · next ht =>
      rw [ht]
      split
      · simp
      · simp [adGetBuffDataCmd, adCmd]
    · split
      · next ht => simp [ht, adSetBuffAddrDownCmd, adCmd]
      · next ht => simp [ht]

/-- A block is asked for where the bounds say that it begins. -/
theorem chained_block {m : ReceivMess} {h : Host} {z : CmdSend} (hz : chained m h = some z)
    (ht : z.targetN = .getBuffData) : (IsBounds h ∧ InLog m) ∧ z.dst = m.src ∧
      blockAt z = be16toh m.buf (ReceivMess.cmdBuffOff + 2) := by
  unfold chained at hz
  cases hev : h.sendMess.evHandler with
  | null =>
    rw [hev] at hz
    cases hz
  | cbGetPollResult =>
    rw [hev] at hz
    simp only at hz
    split at hz
    · obtain rfl := Option.some.inj hz
      cases ht
    · cases hz
  | cbLogRead =>
    rw [hev] at hz
    simp only at hz
    split at hz
    · next htarget =>
      split at hz
      · cases hz
      next hin =>
      obtain rfl := Option.some.inj hz
      refine ⟨⟨⟨hev, htarget⟩, ?_, ?_⟩, ?_, blockAt_getBuffData ..⟩
      · exact Nat.le_of_not_gt fun hn => hin (.inl hn)
      · exact Nat.le_of_not_gt fun hn => hin (.inr (.inl hn))
      · exact UInt8.ofNat_toNat
    · split at hz
      · obtain rfl := Option.some.inj hz
        cases ht
      · cases hz

/-! ## Where a block begins -/

/-- If a block was asked for last, it begins where the record of its controller says. -/
def Pointed (h : Host) : Prop :=
  ∀ y ∈ (sends h).getLast?, y.targetN = .getBuffData →
    blockAt y = (h.devices y.dst.toNat).boundDown

theorem Pointed.noLog {h h' : Host} (p : Pointed h) (n : NoLog h h')
    (hd : ∀ d, SameFacts (h.devices d) (h'.devices d)) : Pointed h' := by
  obtain ⟨zs, hs, hz⟩ := n
  intro y hy ht
  rw [hs, List.getLast?_append] at hy
  cases hl : zs.getLast? with
  | none =>
    rw [hl] at hy
    rw [p y hy ht, (hd _).boundDown]
  | some z =>
    rw [hl] at hy
    obtain rfl := Option.mem_some.mp hy
    have hno := hz z (List.mem_of_getLast? hl)
    rw [isLog, ht] at hno
    cases hno

theorem Pointed.message {e : PortEvent} {g : Gate} {m : ReceivMess} (p : Pointed g.host)
    (hm : handed e g = some m) (hs : Stocked g.host) (c : Conversing g.host) :
    Pointed (gpReceiv e g).host := by
  obtain ⟨hsrc, hdev⟩ := handed_src hm
  obtain ⟨_, hlearned, _⟩ := receiv_learned hm
  obtain ⟨zs, hz, hsends⟩ := message_sends hm hs
  have hbound : ∀ d, ((gpReceiv e g).host.devices d).boundDown =
      if d = m.dev.toNat ∧ IsBounds g.host ∧ InLog m then
        be16toh m.buf (ReceivMess.cmdBuffOff + 2) else (g.host.devices d).boundDown := by
    intro d
    rw [(hlearned.facts d).boundDown]
    by_cases hd : d = m.dev.toNat
    · simp [hd, (learns_bounds ..).2]
    · simp [hd]
  intro y hy ht
  rw [hsends, List.getLast?_append, List.getLast?_append] at hy
  cases hl : zs.getLast? with
  | some z =>
    rw [hl] at hy
    obtain rfl := Option.mem_some.mp hy
    have hno := hz z (List.mem_of_getLast? hl)
    rw [isLog, ht] at hno
    cases hno
  | none =>
    cases hc : chained m g.host with
    | some z =>
      rw [hl, hc, Option.toList_some, List.getLast?_singleton, Option.some_or, Option.none_or] at hy
      obtain rfl := Option.mem_some.mp hy
      obtain ⟨hin, hdst, hat⟩ := chained_block hc ht
      rw [hat, hbound, if_pos ⟨by rw [hdst, hsrc, hdev], hin⟩]
    | none =>
      rw [hl, hc] at hy
      have hshows := c.shows y hy
      rw [p y hy ht, hbound, if_neg]
      intro hn
      have htarget := hshows.target.symm.trans hn.2.1.2
      rw [ht] at htarget
      cases htarget

/-! ## Runs -/

/-- What a run keeps of the adapter. -/
structure Sound (h : Host) : Prop where
  stocked : Stocked h
  conversing : Conversing h
  pointed : Pointed h

theorem perform_sound (c : Call) (g : Gate) (s : Sound g.host) : Sound (perform c g).host := by
  refine ⟨stocked (perform_library c g) s.stocked,
    conversing (perform_library c g) s.stocked s.conversing, ?_⟩
  by_cases hno : ∀ e, c = .receiv e → handed e g = none
  · exact s.pointed.noLog (perform_noLog s.stocked hno) (perform_facts hno)
  · obtain ⟨e, hn⟩ := not_forall.mp hno
    obtain ⟨rfl, hm⟩ := Classical.not_imp.mp hn
    obtain ⟨m, hm⟩ := Option.ne_none_iff_exists'.mp hm
    exact s.pointed.message hm s.stocked s.conversing

theorem gpInit_sends (h : Host) : sends (gpInit h) = sends h := by
  have hlogs : ∀ ns (g : Host), sends (getDevLogsLoop ns g) = sends g :=
    fun ns g => (getDevLogsLoop_quiet ns g).kept.sends
  unfold gpInit
  simp only
  refine (gpReconnect_kept true _).2.2.2.2.2.1.trans ?_
  exact (hlogs _ _).trans (gpAllDevEnable_silent _).sends

/-- `main` sends nothing before it enters its loop. -/
theorem adapter_sends (mess : ReceivMess) (w : World) (db : Db) :
    sends (adapter mess w db).host = [] := by
  change sends (adapterMain (boot w db)) = []
  unfold adapterMain
  refine (foldl_onlyQueues getTimes_steps _ _).sends.trans ?_
  exact (foldl_onlyQueues resetBuff_steps _ _).sends.trans (gpInit_sends _)

theorem adapter_sound (mess : ReceivMess) (w : World) (db : Db) : Sound (adapter mess w db).host := by
  have hsteps := adapter_library mess w db []
  refine ⟨stocked hsteps (boot_stocked w db),
    conversing hsteps (boot_stocked w db) (boot_conversing w db), ?_⟩
  intro y hy
  rw [adapter_sends] at hy
  cases hy

theorem reports_beside {dev : Nat} {recs : List GpEvent} {h h₁ h₂ h' : Host}
    (q : LogEvents.Quiet dev h h₁) (r : ReportsAll dev recs h₁ h₂) (q' : LogEvents.Quiet dev h₂ h') :
    ReportsAll dev recs h h' := by
  obtain ⟨es, hes, hrep, hlast⟩ := r
  rw [q.1] at hrep hlast
  exact ⟨es, by rw [q'.2, hes, q.2], hrep, by rw [q'.1]; exact hlast⟩

theorem alive_quiet (dev : Nat) (h : Host) : LogEvents.Quiet dev h (receivAlive h) := by
  have hmark : LogEvents.Quiet dev h (marked h) := by
    refine ⟨?_, rfl⟩
    by_cases hd : dev = h.sendMess.dev.toNat
    · subst hd
      simp [marked]
    · rw [marked, Host.setDev_devices_ne _ _ hd]
  rw [receivAlive_eq]
  split
  · exact hmark
  · exact hmark.trans (LogEvents.gpDevInit_quiet ..)

/-- The records of a message that answers the question for a block are gone over. -/
theorem message_reports {e : PortEvent} {g : Gate} {m : ReceivMess} (hm : handed e g = some m)
    (hblock : g.host.sendMess.evHandler = .cbLogRead ∧ g.host.sendMess.target = .getBuffData) :
    ReportsAll m.dev.toNat (blockRecords m) g.host (gpReceiv e g).host := by
  have hall := LogEvents.reply_events m.dev.toNat m (receivAlive g.host)
  have hrecs : LogEvents.blockOf m.dev.toNat (.reply m) (receivAlive g.host) = blockRecords m := by
    unfold LogEvents.blockOf
    rw [receivAlive_sendMess]
    exact if_pos ⟨hblock, rfl⟩
  rw [hrecs] at hall
  refine reports_beside (alive_quiet ..) hall ?_
  obtain ⟨_, heq | heq⟩ := gpReceiv_handed hm
  · rw [heq]
    exact LogEvents.Quiet.of_inert (Operations.gpPutCmd_inert _)
  · rw [heq]
    exact LogEvents.Quiet.refl _

theorem message_acksRead {e : PortEvent} {g : Gate} {m : ReceivMess} (hm : handed e g = some m)
    (s : Sound g.host) : AcksRead (.receiv e) g := by
  obtain ⟨hsrc, hdev⟩ := handed_src hm
  obtain ⟨zs, hz, hsends⟩ := message_sends hm s.stocked
  have hacks : acks (.receiv e) g =
      (chained m g.host).toList.filter fun z => z.targetN = .setBuffAddrDown := by
    change (sentNow g.host (gpReceiv e g).host).filter _ = _
    rw [sentNow, hsends, List.append_assoc, List.drop_left, List.filter_append, acks_of_noLog hz,
      List.append_nil]
  cases hl : (sends g.host).getLast? with
  | none =>
    have hnull := s.conversing.first (List.getLast?_eq_none_iff.mp hl)
    have hdue : due (.receiv e) g = [] := by
      simp only [due, hm, hl]
    refine ⟨?_, fun _ _ _ _ hne => absurd hdue hne⟩
    rw [hacks, hdue, chained_acks, if_neg]
    intro hn
    rw [hnull] at hn
    cases hn.1
  | some y =>
    have hshows := s.conversing.shows y hl
    have hdue : due (.receiv e) g = ackOf y m := by
      simp only [due, hm, hl]
    by_cases ht : y.targetN = .getBuffData
    · have hblock : g.host.sendMess.evHandler = .cbLogRead ∧ g.host.sendMess.target = .getBuffData :=
        ⟨hshows.block ht, hshows.target.trans ht⟩
      refine ⟨?_, ?_⟩
      · rw [hacks, hdue, chained_acks, if_pos hblock, ackOf, if_pos ht, s.pointed y hl ht, hsrc, hdev,
          hshows.dev]
      · rintro e' he m' hm' _
        obtain rfl := Call.receiv.inj he
        obtain rfl := Option.some.inj (hm.symm.trans hm')
        exact message_reports hm hblock
    · have hnone : ackOf y m = [] := if_neg ht
      refine ⟨?_, fun _ _ _ _ hne => absurd (hdue.trans hnone) hne⟩
      rw [hacks, hdue, hnone, chained_acks, if_neg]
      exact fun hn => ht (hshows.target.symm.trans hn.2)

theorem perform_acksRead (c : Call) (g : Gate) (s : Sound g.host) : AcksRead c g := by
  by_cases hno : ∀ e, c = .receiv e → handed e g = none
  · have hdue : due c g = [] := by
      unfold due
      split
      · next e =>
        rw [hno e rfl]
      · rfl
    obtain ⟨zs, hs, hz⟩ := perform_noLog s.stocked hno
    refine ⟨?_, fun _ _ _ _ hne => absurd hdue hne⟩
    rw [hdue, acks, sentNow, hs, List.drop_left]
    exact acks_of_noLog hz
  · obtain ⟨e, hn⟩ := not_forall.mp hno
    obtain ⟨rfl, hm⟩ := Classical.not_imp.mp hn
    obtain ⟨m, hm⟩ := Option.ne_none_iff_exists'.mp hm
    exact message_acksRead hm s

/-- **A log is acknowledged as far as it was read.** In every run a message that comes
to the question for a block, and nothing else, is acknowledged, and once: from where
the block begins past the records it brought, of which every change is reported. -/
theorem log_acknowledged_as_read (mess : ReceivMess) (w : World) (db : Db) (before : List Call)
    (c : Call) : AcksRead c (run perform before (adapter mess w db)) :=
  perform_acksRead c _ (@run_invariant Gate Call perform (fun g => Sound g.host) perform_sound before _
    (adapter_sound mess w db))

end Libgate.LogAcks
