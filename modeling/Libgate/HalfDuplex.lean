import Libgate.Arrivals

/-! How many commands one event puts on the bus. Every way through `gp_receiv`
ends with at most one transmission but for an acknowledgement: its branch drops
what `process_port_input` returns, so a command from the queue may follow the
one the handler has just sent. -/

namespace Libgate.HalfDuplex
open Lib Send Target Cmd Processor Receiver Layer HostFrame Handlers Transmit Arrivals
open ReceiverFrames (Ev Link Holds step start step_holds)

/-! ## One event -/

/-- The event finds an open port and its writes, two at most, take bytes; a read
gets bytes. -/
def Healthy (e : PortEvent) (s : Link) : Prop :=
  (∀ n < 2, 0 < (s.gate.host.world.write n).nwritten) ∧
    match e with
    | .timeout => 3 ≤ (gpReconnect false s.gate.host).1.fd
    | .read .error => False
    | .read (.data bs) => 3 ≤ s.gate.host.fd ∧ s.chunk bs ≠ []

/-- At most one command more has been sent. -/
def OneMore (h h' : Host) : Prop := (sends h').length ≤ (sends h).length + 1

/-- The event sends at most one command. -/
def OneCommand (e : Ev) (s : Link) : Prop :=
  match e with
  | .adapter _ => True
  | .port e => Healthy e s → OneMore s.gate.host (gpReceiv e s.gate).host

/-- An acknowledgement that the handler answers, while a command will wait. -/
def Clash (e : PortEvent) (s : Link) : Prop :=
  match e with
  | .timeout => False
  | .read r => brings r s = .ack ∧ Follows (brought r s) s.gate.host ∧ WillWait s.gate.host

def NoClash (e : Ev) (s : Link) : Prop :=
  match e with
  | .adapter _ => True
  | .port e => Healthy e s → ¬ Clash e s

/-! ## What each branch sends -/

theorem oneMore_of_after {zs : List CmdSend} {h h' : Host} (a : After zs h h')
    (hz : zs.length ≤ 1) : OneMore h h' := by
  rw [OneMore, a.sends, List.length_append]
  exact Nat.add_le_add_left hz _

theorem putCmd_oneMore (h : Host) : OneMore h (gpPutCmd h).1 := by
  refine oneMore_of_after (After.putCmd h) ?_
  cases (waiting h).head? with
  | none => exact Nat.zero_le _
  | some z => exact Nat.le_refl _

/-- Without a command to take out the poll cycle may send one, with one it is
not asked. -/
theorem sendNext_oneMore {h : Host} (hfd : 3 ≤ h.fd) (hw : 0 < (h.world.write 0).nwritten) :
    OneMore h (sendNext h) := by
  unfold sendNext
  cases hq : waiting h with
  | nil =>
    rw [gpPutCmd_none hq]
    refine oneMore_of_after (After.idle h) ?_
    cases polled h with
    | none => exact Nat.zero_le _
    | some d => exact Nat.le_refl _
  | cons z rest =>
    have hput : (gpPutCmd h).2 = (h.world.write 0).nwritten := by
      obtain ⟨head, head2, he⟩ := dequeued_rest h
      rw [gpPutCmd_some hq, he, gpSend_open z (h := { h with gpHead := head, gpHead2 := head2 }) hfd]
    rw [if_pos (show (gpPutCmd h).2 > 0 by rw [hput]; exact hw)]
    exact putCmd_oneMore h

theorem timeout_oneMore {s : Link} (hs : Healthy .timeout s) :
    OneMore s.gate.host (receivTimeout s.gate.host) := by
  have hsends := (gpReconnect_kept false s.gate.host).2.2.2.2.2.1
  have hwrite := (gpReconnect_kept false s.gate.host).2.2.1
  rw [receivTimeout_eq]
  split
  · obtain ⟨hfd, hworld, _, hcharge, _⟩ := charge_kept (gpReconnect false s.gate.host).1
    have hone : OneMore _ (sendNext (charge (gpReconnect false s.gate.host).1)) :=
      sendNext_oneMore (by rw [hfd]; exact hs.2) (by rw [hworld, hwrite]; exact hs.1 0 Nat.two_pos)
    rw [OneMore, hcharge, hsends] at hone
    exact hone
  · rw [OneMore, hsends]
    exact Nat.le_succ _

/-- What an acknowledgement sends: the handler's command and one from the queue. -/
theorem ack_sends (m : ReceivMess) (h : Host) : sends (dispatch m .ack h) =
    sends h ++ (chained m h).toList ++ (waiting (processPortInput m h).1).head?.toList := by
  have hput := (After.putCmd (processPortInput m h).1).sends
  rw [(After.reply m h).sends] at hput
  exact hput

/-- A handler that answers leaves the queues as they are. -/
theorem waiting_of_chained {m : ReceivMess} {h : Host} (hc : (chained m h).isSome = true) :
    waiting (processPortInput m h).1 = waiting h := by
  obtain ⟨z, hz⟩ := Option.isSome_iff_exists.mp hc
  obtain ⟨h', k, hq, he⟩ := processPortInput_chained hz
  rw [he, gpSend_waiting, waiting, k.gpHead, hq]
  rfl

theorem ack_oneMore (m : ReceivMess) (h : Host) :
    OneMore h (dispatch m .ack h) ↔ ¬ ((chained m h).isSome = true ∧ waiting h ≠ []) := by
  rw [OneMore, ack_sends, List.length_append, List.length_append, Nat.add_assoc,
    Nat.add_le_add_iff_left]
  cases hc : chained m h with
  | none =>
    constructor
    · intro _ hn
      cases hn.1
    · intro _
      cases (waiting (processPortInput m h).1).head? with
      | none => exact Nat.zero_le _
      | some z => exact Nat.le_refl _
  | some z =>
    rw [waiting_of_chained (by rw [hc]; rfl)]
    cases hw : waiting h with
    | nil => exact ⟨fun _ hn => hn.2 rfl, fun _ => Nat.le_refl _⟩
    | cons y rest =>
      exact ⟨fun hn => absurd hn (Nat.not_succ_le_self 1), fun hn => absurd ⟨rfl, List.cons_ne_nil y rest⟩ hn⟩

/-- After a reply the queue is asked only when the handler has not sent. -/
theorem reply_oneMore {m : ReceivMess} {h : Host} (hfd : 3 ≤ h.fd)
    (hw : 0 < (h.world.write 0).nwritten) : OneMore h (dispatch m .reply h) := by
  have hreply := After.reply m h
  cases hc : chained m h with
  | none =>
    rw [hc] at hreply
    unfold dispatch
    simp only
    split
    · exact oneMore_of_after hreply (Nat.zero_le _)
    · refine oneMore_of_after (hreply.trans (After.putCmd _)) ?_
      cases (waiting (processPortInput m h).1).head? with
      | none => exact Nat.zero_le _
      | some z => exact Nat.le_refl _
  | some z =>
    obtain ⟨h', k, _, he⟩ := processPortInput_chained hc
    have hpos : (processPortInput m h).2 > 0 := by
      rw [he, gpSend_open z (k.fd ▸ hfd), k.write]
      exact hw
    rw [hc] at hreply
    unfold dispatch
    simp only
    rw [if_pos hpos]
    exact oneMore_of_after hreply (Nat.le_refl _)

/-! ## Runs -/

theorem dispatch_oneMore {m : ReceivMess} {k : RxKind} {h : Host} (hfd : 3 ≤ h.fd)
    (hw : 0 < (h.world.write 0).nwritten) (herr : k ≠ .readError) (heof : k ≠ .eof) :
    OneMore h (dispatch m k h) ↔
      ¬ (k = .ack ∧ (chained m h).isSome = true ∧ waiting h ≠ []) := by
  have hstill : ∀ h', sends h' = sends h → OneMore h h' := by
    intro h' hs
    rw [OneMore, hs]
    exact Nat.le_succ _
  have hother : ∀ h', OneMore h h' → k ≠ .ack →
      (OneMore h h' ↔ ¬ (k = .ack ∧ (chained m h).isSome = true ∧ waiting h ≠ [])) :=
    fun h' hone hk => ⟨fun _ hn => hk hn.1, fun _ => hone⟩
  cases k with
  | readError => exact absurd rfl herr
  | eof => exact absurd rfl heof
  | noBegin =>
    exact hother _ (hstill _ (gpReconnect_kept false h).2.2.2.2.2.1) (by decide)
  | incomplete => exact hother _ (hstill _ rfl) (by decide)
  | crcError => exact hother _ (hstill _ rfl) (by decide)
  | deviceError => exact hother _ (hstill _ rfl) (by decide)
  | nack => exact hother _ (putCmd_oneMore h) (by decide)
  | reply => exact hother _ (reply_oneMore hfd hw) (by decide)
  | ack =>
    rw [ack_oneMore]
    exact ⟨fun hn hk => hn hk.2, fun hn hk => hn ⟨rfl, hk⟩⟩

theorem read_oneMore {s : Link} (hr : Holds s.gate.rx s.acc) {r : ReadRes}
    (hs : Healthy (.read r) s) :
    OneMore s.gate.host (gpReceiv (.read r) s.gate).host ↔ ¬ Clash (.read r) s := by
  cases r with
  | error => exact hs.2.elim
  | data bs =>
    have k := receivAlive_heard s.gate.host
    obtain ⟨herr, heof⟩ := brings_ne hs.2.2
    have hone := dispatch_oneMore (m := brought (.data bs) s) (k := brings (.data bs) s)
      (h := receivAlive s.gate.host) (k.fd ▸ hs.2.1) (k.write ▸ hs.1 0 Nat.two_pos) herr heof
    rw [← gpReceiv_brings hr] at hone
    rw [OneMore, k.sends, chained_isSome, follows_receivAlive, waiting_receivAlive] at hone
    exact hone

theorem oneCommand_iff (e : Ev) (s : Link) (hr : Holds s.gate.rx s.acc) :
    OneCommand e s ↔ NoClash e s := by
  cases e with
  | adapter f => exact Iff.rfl
  | port e =>
    refine imp_congr_right ?_
    intro hs
    cases e with
    | timeout => exact ⟨fun _ hn => hn.elim, fun _ => timeout_oneMore hs⟩
    | read r => exact read_oneMore hr hs

/-- **An event sends at most one command exactly while no acknowledgement that
the handler answers meets a waiting command.** -/
theorem one_command_per_event (mess : ReceivMess) (host : Host) (es : List Ev) :
    Along step OneCommand es (start mess host) ↔ Along step NoClash es (start mess host) :=
  Along.iff_of_invariant (I := fun s => Holds s.gate.rx s.acc) (fun e s h _ => step_holds e s h)
    oneCommand_iff es (Holds.of_none rfl)

/-- Controller 1 is told to open and does not answer in time; the log is asked
for, and its bounds are there. -/
def slowAnswer : List Ev :=
  [.adapter fun h => (adGetBuffAddr AD_Q_SECOND 1 .cbLogRead (adTurnOn AD_Q_FIRST 1 0 h).1).1,
    .adapter fun h => { h with world := { h.world with now := ⟨1, 0⟩ } }, .port .timeout,
    .adapter fun h => { h with world := { h.world with now := ⟨2, 0⟩ } }, .port .timeout,
    .port (.read (.data [GP_INIT, 8, 0, 0x10, 1, 4, 0, 0x10, 0, 8, 0x0D, GP_END]))]

/-- The acknowledgement of the first command. -/
def lateAck : PortEvent := .read (.data [GP_INIT, 8, 0, 0x10, 1, 0x55, 0x55, 7, 0x16, GP_END])

/-- It is answered as if it were the block of the log asked for, and a command
from the queue follows. -/
theorem late_ack_sends_two : ¬ ∀ mess host es, Along step OneCommand es (start mess host) := by
  intro hall
  let s := run step slowAnswer
    (start ReceiverFrames.blankMess (gpInit (boot workingWorld Db.empty)))
  obtain ⟨_, _, _, _, _, _, hstep, _⟩ := hall ReceiverFrames.blankMess
    (gpInit (boot workingWorld Db.empty)) (slowAnswer ++ [.port lateAck])
  have hlast : OneCommand (.port lateAck) s := hstep
  have hholds : Holds s.gate.rx s.acc :=
    run_invariant step_holds slowAnswer (Holds.of_none rfl)
  have hhealthy : Healthy lateAck s := by
    refine ⟨?_, ?_, ?_⟩
    · decide
    · decide
    · decide
  refine (oneCommand_iff _ _ hholds).mp hlast hhealthy ⟨?_, ?_, ?_⟩
  · decide
  · decide
  · exact .inl (by decide)

end Libgate.HalfDuplex
