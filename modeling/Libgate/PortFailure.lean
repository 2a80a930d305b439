import Libgate.Arrivals

/-! What a failing port can do to the process. `gp_resend` ends it when the port
is closed. `gp_close` is called on the way to a transmission in three places: on
a read error before the queue is asked, and in a write that fails before the
queue or the poll cycle is asked again. -/

namespace Libgate.PortFailure
open Lib Send Target Processor Receiver Layer HostFrame Handlers Transmit Arrivals
open ReceiverFrames (Link Holds since step_holds)

/-! ## Runs of the daemon -/

/-- What the program does besides, the queues included: it leaves the port alone. -/
structure Aside where
  run : Host → Host
  keeps : ∀ h, (run h).fd = h.fd ∧ (run h).exitCode = h.exitCode

inductive Ev where
  | receiv (e : PortEvent)
  | allDevEnable
  | getDevLogs
  | aside (f : Aside)

def onHost (f : Host → Host) (s : Link) : Link := { s with gate := { s.gate with host := f s.gate.host } }

def step (e : Ev) (s : Link) : Link :=
  match e with
  | .receiv e => ReceiverFrames.step (.port e) s
  | .allDevEnable => onHost gpAllDevEnable s
  | .getDevLogs => onHost gpGetDevLogs s
  | .aside f => onHost f.run s

/-- `gp_resend` has not called `exit`. -/
def Running (h : Host) : Prop := h.exitCode = none

instance (h : Host) : Decidable (Running h) := inferInstanceAs (Decidable (_ = _))

/-- The process survives the event. -/
def Survives (e : Ev) (s : Link) : Prop := Running (step e s).gate.host

/-! ## When it does -/

/-- The port is open, or `gp_reconnect` opens it now. -/
def Opens (h : Host) : Prop :=
  3 ≤ h.fd ∨
    h.fd < 0 ∧ h.world.now.sec - PORT_RETRY_TIMEOUT > h.lastTry ∧ 3 ≤ h.world.openPort 0

/-- The timer finds the port open if it sends, and its write does not close it
before the poll cycle sends again. -/
def TimerSafe (h : Host) : Prop :=
  Overdue h →
    (waiting h ≠ [] ∨ (polled (charge h)).isSome = true → Opens h) ∧
      (waiting h ≠ [] → Breaks (h.world.write 0) → polled (charge h) = none)

/-- The registers in the message make the poll handler queue commands. -/
def CardQueues (m : ReceivMess) (h : Host) : Prop :=
  h.sendMess.evHandler = .cbGetPollResult ∧ h.sendMess.target = .getRegs ∧ m.cmdN = 0x06 ∧
    (pollRegs m (receivAlive h)).1.gpHead2 ≠ []

/-- The handler's command finds the port open, and does not close it before a
command from the queue. -/
def AnswerSafe (h : Host) : Prop := 3 ≤ h.fd ∧ (WillWait h → ¬ Breaks (h.world.write 0))

/-- What is sent after the read finds the port open. -/
def ReadSafe (k : RxKind) (m : ReceivMess) (h : Host) : Prop :=
  match k with
  | .readError => ¬ WillWait h
  | .eof => 3 ≤ h.fd
  | .nack => WillWait h → 3 ≤ h.fd
  | .ack => if Follows m h then AnswerSafe h else WillWait h ∨ CardQueues m h → 3 ≤ h.fd
  | .reply => if Follows m h then AnswerSafe h else settled m h = 0 → WillWait h → 3 ≤ h.fd
  | _ => True

def Safe (e : Ev) (s : Link) : Prop :=
  match e with
  | .receiv .timeout => TimerSafe s.gate.host
  | .receiv (.read r) => ReadSafe (brings r s) (brought r s) s.gate.host
  | _ => True

/-! ## One transmission -/

section Send
variable (z : CmdSend) (h : Host)

theorem gpSend_running : Running (gpSend z h).1 ↔ Running h ∧ 3 ≤ h.fd := by
  by_cases hfd : 3 ≤ h.fd
  · rw [gpSend_open z hfd]
    exact ⟨fun hr => ⟨hr, hfd⟩, fun hr => hr.1⟩
  · rw [gpSend_shut z (Int.not_le.mp hfd)]
    refine ⟨?_, fun hr => absurd hr.2 hfd⟩
    intro hr
    exact absurd (Option.or_eq_none_iff.mp hr).2 (Option.some_ne_none _)

/-- An open port stays open through a write that does not break. -/
theorem gpSend_fd {h : Host} (hfd : 3 ≤ h.fd) :
    3 ≤ (gpSend z h).1.fd ↔ ¬ Breaks (h.world.write 0) := by
  rw [gpSend_open z hfd]
  change 3 ≤ (if Breaks (h.world.write 0) then -1 else h.fd) ↔ _
  split
  · next hb => exact ⟨fun hn => absurd hn (by decide), fun hn => absurd hb hn⟩
  · next hb => exact ⟨fun _ => hb, fun _ => hfd⟩

theorem not_breaks_of_pos {r : WriteRes} (hpos : r.nwritten > 0) : ¬ Breaks r := by
  intro hb
  rcases hb with hneg | hzero
  · exact Int.lt_asymm hpos hneg
  · exact Int.ne_of_gt hpos hzero.1

theorem gpPutCmd_running :
    Running (gpPutCmd h).1 ↔ Running h ∧ (waiting h ≠ [] → 3 ≤ h.fd) := by
  cases hw : waiting h with
  | nil =>
    rw [gpPutCmd_none hw]
    exact ⟨fun hr => ⟨hr, fun hn => absurd rfl hn⟩, fun hr => hr.1⟩
  | cons z rest =>
    obtain ⟨head, head2, he⟩ := dequeued_rest h
    rw [gpPutCmd_some hw, he, gpSend_running]
    exact and_congr_right fun _ => ⟨fun hfd _ => hfd, fun hfd => hfd (List.cons_ne_nil z rest)⟩

/-- A command from the queue goes out through an open port. -/
theorem gpPutCmd_open {h : Host} (hw : waiting h ≠ []) (hfd : 3 ≤ h.fd) :
    (gpPutCmd h).2 = (h.world.write 0).nwritten ∧
      (3 ≤ (gpPutCmd h).1.fd ↔ ¬ Breaks (h.world.write 0)) := by
  obtain ⟨z, rest, hz⟩ := List.exists_cons_of_ne_nil hw
  obtain ⟨head, head2, hd⟩ := dequeued_rest h
  have hopen : 3 ≤ (dequeued h).fd := by rw [hd]; exact hfd
  have hwrite : (dequeued h).world.write = h.world.write := by rw [hd]
  rw [gpPutCmd_some hz, gpSend_fd z hopen, gpSend_open z hopen, hwrite]
  exact ⟨rfl, Iff.rfl⟩

/-- A command and then one from the queue. -/
theorem sendPut_running : Running (gpPutCmd (gpSend z h).1).1 ↔
    Running h ∧ 3 ≤ h.fd ∧ (waiting h ≠ [] → ¬ Breaks (h.world.write 0)) := by
  rw [gpPutCmd_running, gpSend_running, gpSend_waiting, and_assoc]
  refine and_congr_right fun _ => and_congr_right ?_
  intro hfd
  rw [gpSend_fd z hfd]

end Send

/-! ## The timer -/

theorem polled_congr {h h' : Host} (hdst : h'.gpDst = h.gpDst) (hmax : h'.maxDevN = h.maxDevN)
    (hcount : ∀ d, (h'.devices d).timeoutCount = (h.devices d).timeoutCount) :
    polled h' = polled h := by
  unfold polled
  simp only [hdst, hmax, hcount]

/-- Sending a command changes nothing the poll cycle goes by. -/
theorem polled_gpPutCmd (h : Host) : polled (gpPutCmd h).1 = polled h := by
  have hcount := (After.putCmd h).timeoutCount
  rw [gpPutCmd_eq] at hcount ⊢
  cases hw : (waiting h).head? with
  | none => rfl
  | some z =>
    rw [hw] at hcount
    obtain ⟨head, head2, hd⟩ := dequeued_rest h
    obtain ⟨fd, write, code, he⟩ := gpSend_rest z (dequeued h)
    have hdst : (gpSend z (dequeued h)).1.gpDst = h.gpDst := by
      rw [he, hd]
      rfl
    have hmax : (gpSend z (dequeued h)).1.maxDevN = h.maxDevN := by
      rw [he, hd]
      rfl
    exact polled_congr hdst hmax hcount

theorem gpSendIdle_running (h : Host) :
    Running (gpSendIdle h).1 ↔ Running h ∧ ((polled h).isSome = true → 3 ≤ h.fd) := by
  rw [gpSendIdle_eq]
  cases polled h with
  | none => exact ⟨fun hr => ⟨hr, fun hn => Bool.noConfusion hn⟩, fun hr => hr.1⟩
  | some d =>
    change Running (gpSend (pollCmd d) (skipTo d h)).1 ↔ _
    rw [gpSend_running]
    exact and_congr_right fun _ => ⟨fun hfd _ => hfd, fun hfd => hfd rfl⟩

/-- The queue and then, if that did not write, the poll cycle. -/
theorem sendNext_running (h : Host) : Running (sendNext h) ↔ Running h ∧
    (waiting h ≠ [] ∨ (polled h).isSome = true → 3 ≤ h.fd) ∧
      (waiting h ≠ [] → Breaks (h.world.write 0) → polled h = none) := by
  unfold sendNext
  simp only
  cases hw : waiting h with
  | nil =>
    rw [gpPutCmd_none hw, if_neg (Int.lt_irrefl 0), gpSendIdle_running]
    refine and_congr_right fun _ => ⟨?_, ?_⟩
    · intro hfd
      exact ⟨fun hor => hfd (hor.resolve_left (fun hn => hn rfl)), fun hn => absurd rfl hn⟩
    · intro hboth hsome
      exact hboth.1 (.inr hsome)
  | cons z rest =>
    have hput := gpPutCmd_running h
    rw [hw] at hput
    have hne : z :: rest ≠ [] := List.cons_ne_nil z rest
    by_cases hfd : 3 ≤ h.fd
    · obtain ⟨hcount, hafter⟩ := gpPutCmd_open (hw ▸ hne) hfd
      split
      · next hpos =>
        have hno : ¬ Breaks (h.world.write 0) := not_breaks_of_pos (hcount ▸ hpos)
        rw [hput]
        exact and_congr_right fun _ =>
          ⟨fun _ => ⟨fun _ => hfd, fun _ hb => absurd hb hno⟩, fun _ _ => hfd⟩
      · rw [gpSendIdle_running, hput, polled_gpPutCmd h, hafter, and_assoc]
        refine and_congr_right fun _ => ⟨?_, ?_⟩
        · intro hboth
          refine ⟨fun _ => hfd, ?_⟩
          intro _ hb
          exact Option.not_isSome_iff_eq_none.mp fun hsome => hboth.2 hsome hb
        · intro hboth
          refine ⟨fun _ => hfd, ?_⟩
          intro hsome hb
          rw [hboth.2 hne hb] at hsome
          cases hsome
    · have hclosed : ¬ Running (gpPutCmd h).1 := fun hr => hfd ((hput.mp hr).2 hne)
      refine iff_of_false ?_ fun hall => hfd (hall.2.1 (.inl hne))
      split
      · exact hclosed
      · rw [gpSendIdle_running]
        exact fun hr => hclosed hr.1

theorem gpReconnect_opens (h : Host) : 3 ≤ (gpReconnect false h).1.fd ↔ Opens h := by
  unfold gpReconnect Opens
  simp only [Bool.false_eq_true, false_or]
  by_cases htry : h.world.now.sec - PORT_RETRY_TIMEOUT > h.lastTry
  · rw [if_pos htry]
    by_cases hneg : h.fd < 0
    · rw [if_pos hneg]
      have hclosed : ¬ 3 ≤ h.fd := by omega
      exact ⟨fun ho => .inr ⟨hneg, htry, ho⟩, fun ho => (ho.resolve_left hclosed).2.2⟩
    · rw [if_neg hneg]
      exact ⟨.inl, fun ho => ho.resolve_right fun hn => hneg hn.1⟩
  · rw [if_neg htry]
    exact ⟨.inl, fun ho => ho.resolve_right fun hn => htry hn.2.1⟩

/-- Opening the port changes nothing the timer goes by. -/
theorem polled_charge_gpReconnect (h : Host) :
    polled (charge (gpReconnect false h).1) = polled (charge h) := by
  obtain ⟨t, fd, openPort, he⟩ := gpReconnect_rest false h
  rw [he]
  unfold charge
  simp only
  split
  · rfl
  · rfl

theorem timeout_running (h : Host) : Running (receivTimeout h) ↔ Running h ∧ TimerSafe h := by
  obtain ⟨_, _, hwrite, _, hcode, _, hwait⟩ := gpReconnect_kept false h
  have hrun : Running (gpReconnect false h).1 ↔ Running h := by rw [Running, hcode]; rfl
  rw [receivTimeout_eq, TimerSafe]
  by_cases ho : Overdue h
  · rw [if_pos ho, sendNext_running]
    obtain ⟨hfd, hworld, hcode', _, hwait'⟩ := charge_kept (gpReconnect false h).1
    rw [Running, hcode', hfd, hworld, hwait', hwrite, hwait, polled_charge_gpReconnect,
      gpReconnect_opens]
    exact and_congr hrun ⟨fun hall _ => hall, fun hall => hall ho⟩
  · rw [if_neg ho, hrun]
    exact ⟨fun hr => ⟨hr, fun hn => absurd hn ho⟩, fun hr => hr.1⟩

/-! ## A read -/

/-- A handler that answers, and the queue behind it. -/
theorem answer_running {m : ReceivMess} {h : Host} (hc : (chained m h).isSome = true) :
    Running (gpPutCmd (processPortInput m h).1).1 ↔
      Running h ∧ 3 ≤ h.fd ∧ (waiting h ≠ [] → ¬ Breaks (h.world.write 0)) := by
  obtain ⟨z, hz⟩ := Option.isSome_iff_exists.mp hc
  obtain ⟨h', k, hq, he⟩ := processPortInput_chained hz
  have hwait : waiting h' = waiting h := by rw [waiting, k.gpHead, hq]; rfl
  rw [he, sendPut_running, Running, k.exitCode, k.fd, k.write, hwait]
  rfl

/-- A handler that does not answer. -/
theorem silent_running {m : ReceivMess} {h : Host} (hc : chained m h = none) :
    Running (gpPutCmd (processPortInput m h).1).1 ↔
      Running h ∧ (waiting (processPortInput m h).1 ≠ [] → 3 ≤ h.fd) := by
  obtain ⟨h', k, _, he⟩ := processPortInput_unchained hc
  rw [he, gpPutCmd_running, Running, k.exitCode, k.fd]
  rfl

theorem unsettled_waiting {m : ReceivMess} {h : Host} (hc : chained m h = none)
    (hzero : settled m h = 0) : waiting (processPortInput m h).1 = waiting h := by
  obtain ⟨h', k, hq, he⟩ := processPortInput_unchained hc
  rw [he, waiting, k.gpHead, hq hzero]
  rfl

/-- The registers may have cards queued behind what waits. -/
theorem pollRegs_waiting {m : ReceivMess} {h : Host} (hc : chained m h = none)
    (heq : processPortInput m h = pollRegs m h) :
    waiting (pollRegs m h).1 ≠ [] ↔ waiting h ≠ [] ∨ (pollRegs m h).1.gpHead2 ≠ [] := by
  obtain ⟨h', k, _, he⟩ := processPortInput_unchained hc
  have hhead : (pollRegs m h).1.gpHead = h.gpHead := by rw [← heq, he, k.gpHead]
  have hprefix : h.gpHead2 <+: (pollRegs m h).1.gpHead2 := by
    rw [← heq, he]
    exact k.gpHead2
  have hgrow : (pollRegs m h).1.gpHead2 = [] → h.gpHead2 = [] := by
    intro hnil
    rw [hnil] at hprefix
    exact List.prefix_nil.mp hprefix
  rw [waiting, hhead, waiting, ne_eq, ne_eq, List.append_eq_nil_iff, List.append_eq_nil_iff]
  constructor
  · intro hn
    by_cases hnil : (pollRegs m h).1.gpHead2 = []
    · exact .inl fun hboth => hn ⟨hboth.1, hnil⟩
    · exact .inr hnil
  · intro hor hboth
    rcases hor with hn | hn
    · exact hn ⟨hboth.1, hgrow hboth.2⟩
    · exact hn hboth.2

/-- Only the registers make a handler that does not answer queue commands. -/
theorem silent_waiting {m : ReceivMess} {h : Host} (hc : chained m h = none) :
    waiting (processPortInput m h).1 ≠ [] ↔ waiting h ≠ [] ∨
      h.sendMess.evHandler = .cbGetPollResult ∧ h.sendMess.target = .getRegs ∧ m.cmdN = 0x06 ∧
        (pollRegs m h).1.gpHead2 ≠ [] := by
  cases hev : h.sendMess.evHandler with
  | null =>
    rw [unsettled_waiting hc (by rw [settled, hev])]
    exact ⟨.inl, fun hor => hor.resolve_right fun hn => EvCbFunc.noConfusion hn.1⟩
  | cbLogRead =>
    have hsame : waiting (processPortInput m h).1 = waiting h := by
      by_cases hset : h.sendMess.target = .setBuffAddrDown
      · have heq : processPortInput m h = (h, 1) := by
          simp [processPortInput, cbLogRead, hev, hset]
        rw [heq]
      · have hzero : settled m h = 0 := by
          rw [settled, hev]
          exact if_neg hset
        exact unsettled_waiting hc hzero
    rw [hsame]
    exact ⟨.inl, fun hor => hor.resolve_right fun hn => EvCbFunc.noConfusion hn.1⟩
  | cbGetPollResult =>
    by_cases hregs : h.sendMess.target = .getRegs ∧ m.cmdN = 0x06
    · have heq : processPortInput m h = pollRegs m h := by
        simp [processPortInput, cbGetPollResult, hev, hregs]
      rw [heq, pollRegs_waiting hc heq]
      exact or_congr_right ⟨fun hn => ⟨rfl, hregs.1, hregs.2, hn⟩, fun hn => hn.2.2.2⟩
    · have hzero : settled m h = 0 := by
        rw [settled, hev]
        exact if_neg hregs
      rw [unsettled_waiting hc hzero]
      exact ⟨.inl, fun hor => hor.resolve_right fun hn => hregs ⟨hn.2.1, hn.2.2.1⟩⟩

theorem settled_cases (m : ReceivMess) (h : Host) : settled m h = 0 ∨ settled m h = 1 := by
  unfold settled
  repeat' split
  all_goals first | exact .inl rfl | exact .inr rfl

/-- A reply that the handler answers is followed by the queue only if nothing was written. -/
theorem reply_answered {m : ReceivMess} {h : Host} (hc : (chained m h).isSome = true) :
    Running (dispatch m .reply h) ↔
      Running h ∧ 3 ≤ h.fd ∧ (waiting h ≠ [] → ¬ Breaks (h.world.write 0)) := by
  unfold dispatch
  simp only
  split
  · next hpos =>
    obtain ⟨z, hz⟩ := Option.isSome_iff_exists.mp hc
    obtain ⟨h', k, _, he⟩ := processPortInput_chained hz
    have hrun : Running (processPortInput m h).1 ↔ Running h ∧ 3 ≤ h.fd := by
      rw [he, gpSend_running, Running, k.exitCode, k.fd]
      rfl
    rw [hrun]
    refine and_congr_right fun _ => ⟨?_, fun hall => hall.1⟩
    intro hfd
    refine ⟨hfd, ?_⟩
    intro _
    rw [he, gpSend_open z (k.fd ▸ hfd), k.write] at hpos
    exact not_breaks_of_pos hpos
  · exact answer_running hc

theorem reply_silent {m : ReceivMess} {h : Host} (hc : chained m h = none) :
    Running (dispatch m .reply h) ↔
      Running h ∧ (settled m h = 0 → waiting h ≠ [] → 3 ≤ h.fd) := by
  obtain ⟨h', k, hq, he⟩ := processPortInput_unchained hc
  unfold dispatch
  simp only
  rcases settled_cases m h with hzero | hone
  · have hwait : waiting h' = waiting h := by rw [waiting, k.gpHead, hq hzero]; rfl
    rw [he, hzero, if_neg (Int.lt_irrefl 0), gpPutCmd_running, Running, k.exitCode, k.fd, hwait]
    exact and_congr_right fun _ => ⟨fun hall _ => hall, fun hall => hall rfl⟩
  · rw [he, hone, if_pos Int.one_pos, Running, k.exitCode]
    exact ⟨fun hr => ⟨hr, fun hn => absurd hn (by decide)⟩, fun hr => hr.1⟩

theorem answerSafe_iff (h : Host) : AnswerSafe h ↔ 3 ≤ (receivAlive h).fd ∧
    (waiting (receivAlive h) ≠ [] → ¬ Breaks ((receivAlive h).world.write 0)) := by
  have a := receivAlive_heard h
  rw [a.fd, a.write, waiting_receivAlive]
  rfl

theorem read_running (m : ReceivMess) (k : RxKind) (h : Host) :
    Running (dispatch m k (receivAlive h)) ↔ Running h ∧ ReadSafe k m h := by
  have a := receivAlive_heard h
  have hrun : Running (receivAlive h) ↔ Running h := by rw [Running, a.exitCode]; rfl
  have hwait := waiting_receivAlive h
  have hstill : ∀ g : Host, g.exitCode = (receivAlive h).exitCode →
      (Running g ↔ Running h ∧ True) := by
    intro g hg
    rw [Running, hg, a.exitCode]
    exact ⟨fun hr => ⟨hr, trivial⟩, fun hr => hr.1⟩
  have hfollows : (chained m (receivAlive h)).isSome = true ↔ Follows m h := by
    rw [chained_isSome, follows_receivAlive]
  cases k with
  | noBegin => exact hstill _ (gpReconnect_kept false _).2.2.2.2.1
  | incomplete => exact hstill _ rfl
  | crcError => exact hstill _ rfl
  | deviceError => exact hstill _ rfl
  | readError =>
    change Running (gpPutCmd (gpClose (receivAlive h))).1 ↔ _
    rw [gpPutCmd_running]
    refine and_congr hrun ⟨?_, ?_⟩
    · intro hfd hw
      have hclosed : (3 : Int) ≤ -1 := hfd (hwait.mpr hw)
      exact absurd hclosed (by decide)
    · intro hno hw
      exact absurd (hwait.mp hw) hno
  | eof =>
    have heof : Running (dispatch m .eof (receivAlive h)) ↔
        Running (gpSend (adCmd AD_Q_SHORT (receivAlive h).sendMess.dev.toNat .softReset 0x0B 0 [])
          (receivAlive h)).1 := Iff.rfl
    rw [heof, gpSend_running, a.fd, hrun]
    rfl
  | nack =>
    change Running (gpPutCmd (receivAlive h)).1 ↔ _
    rw [gpPutCmd_running, a.fd, hrun, hwait]
    rfl
  | ack =>
    change Running (gpPutCmd (processPortInput m (receivAlive h)).1).1 ↔ _
    unfold ReadSafe
    simp only
    by_cases hf : Follows m h
    · rw [if_pos hf, answer_running (hfollows.mpr hf), hrun, answerSafe_iff]
    · have hnone : chained m (receivAlive h) = none :=
        Option.not_isSome_iff_eq_none.mp fun hn => hf (hfollows.mp hn)
      rw [if_neg hf, silent_running hnone, silent_waiting hnone, hrun, hwait, a.fd, CardQueues,
        a.sendMess]
  | reply =>
    unfold ReadSafe
    simp only
    by_cases hf : Follows m h
    · rw [if_pos hf, reply_answered (hfollows.mpr hf), hrun, answerSafe_iff]
    · have hnone : chained m (receivAlive h) = none :=
        Option.not_isSome_iff_eq_none.mp fun hn => hf (hfollows.mp hn)
      rw [if_neg hf, reply_silent hnone, hrun, hwait, a.fd, settled_receivAlive]

/-! ## Runs -/

theorem survives_iff (e : Ev) (s : Link) (hr : Running s.gate.host) (hh : Holds s.gate.rx s.acc) :
    Survives e s ↔ Safe e s := by
  have hstill : ∀ h : Host, h.exitCode = s.gate.host.exitCode → (Running h ↔ True) :=
    fun h he => ⟨fun _ => trivial, fun _ => he.trans hr⟩
  cases e with
  | allDevEnable => exact hstill _ (gpReconnect_kept false s.gate.host).2.2.2.2.1
  | getDevLogs => exact hstill _ (getDevLogsLoop_quiet _ s.gate.host).kept.exitCode
  | aside f => exact hstill _ (f.keeps s.gate.host).2
  | receiv e =>
    cases e with
    | timeout =>
      change Running (receivTimeout s.gate.host) ↔ _
      rw [timeout_running]
      exact ⟨fun hs => hs.2, fun hs => ⟨hr, hs⟩⟩
    | read r =>
      change Running (gpReceiv (.read r) s.gate).host ↔ _
      rw [gpReceiv_brings hh, read_running]
      exact ⟨fun hs => hs.2, fun hs => ⟨hr, hs⟩⟩

theorem step_safe (e : Ev) (s : Link) (hs : Running s.gate.host ∧ Holds s.gate.rx s.acc)
    (he : Safe e s) : Running (step e s).gate.host ∧ Holds (step e s).gate.rx (step e s).acc := by
  refine ⟨(survives_iff e s hs.1 hs.2).mpr he, ?_⟩
  cases e with
  | receiv e => exact step_holds (.port e) s hs.2
  | allDevEnable => exact hs.2
  | getDevLogs => exact hs.2
  | aside f => exact hs.2

/-- **The process survives a run exactly while each event finds the port open for
what it sends.** -/
theorem survives_run (mess : ReceivMess) (host : Host) (hr : host.exitCode = none) (es : List Ev) :
    Along step Survives es (ReceiverFrames.start mess host) ↔
      Along step Safe es (ReceiverFrames.start mess host) := by
  have hstart : Running (ReceiverFrames.start mess host).gate.host ∧
      Holds (ReceiverFrames.start mess host).gate.rx (ReceiverFrames.start mess host).acc :=
    ⟨hr, Holds.of_none rfl⟩
  exact Along.iff_of_invariant (I := fun s => Running s.gate.host ∧ Holds s.gate.rx s.acc) step_safe
    (fun e s hs => survives_iff e s hs.1 hs.2) es hstart

/-- A command is queued. -/
def queueing (z : CmdSend) : Aside where
  run h := (gpInCmd z h).1
  keeps h := by
    obtain ⟨_, _, _, _, he⟩ := (gpInCmd_queued z h).rest
    rw [he]
    exact ⟨rfl, rfl⟩

/-- A second goes by. -/
def ticking : Aside where
  run h := { h with world := { h.world with now := ⟨h.world.now.sec + 1, h.world.now.usec⟩ } }
  keeps _ := ⟨rfl, rfl⟩

/-- The program has started, the port is open and its commands wait when the timer goes off. -/
theorem survives_run_poll :
    (Overdue (ticking.run (adapterMain (boot workingWorld Db.empty))) ∧
        waiting (ticking.run (adapterMain (boot workingWorld Db.empty))) ≠ []) ∧
      Along step Survives [.aside ticking, .receiv .timeout, .allDevEnable]
        (ReceiverFrames.start ReceiverFrames.blankMess (adapterMain (boot workingWorld Db.empty))) := by
  refine ⟨by decide, (survives_run _ _ (by decide) _).mpr ⟨trivial, ?_, trivial, trivial⟩⟩
  intro _
  refine ⟨fun _ => .inl (by decide), ?_⟩
  intro _ hbreaks
  exact absurd hbreaks (by decide)

/-- A read error on an open port, with a command in the queue. -/
theorem read_error_exits : ¬ ∀ mess (host : Host) es, 3 ≤ host.fd → host.exitCode = none →
    (∀ n, host.world.openPort n = -1 ∨ 3 ≤ host.world.openPort n) →
      Along step Survives es (ReceiverFrames.start mess host) := by
  intro hall
  have hopen : ∀ n, (gpInit (boot workingWorld Db.empty)).world.openPort n = -1 ∨
      3 ≤ (gpInit (boot workingWorld Db.empty)).world.openPort n :=
    fun _ => .inr (Int.le_refl 3)
  have hrun := hall ReceiverFrames.blankMess (gpInit (boot workingWorld Db.empty))
    [.aside (queueing (adCmd AD_Q_FIRST 1 .turnOn 0x07 1 [0])), .receiv (.read .error)]
    (by decide) (by decide) hopen
  have hdead : ¬ Running (run step
      [.aside (queueing (adCmd AD_Q_FIRST 1 .turnOn 0x07 1 [0])), .receiv (.read .error)]
      (ReceiverFrames.start ReceiverFrames.blankMess (gpInit (boot workingWorld Db.empty)))).gate.host := by
    decide
  exact hdead hrun.2.1

end Libgate.PortFailure
