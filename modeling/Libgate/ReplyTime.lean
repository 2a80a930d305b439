import Libgate.Transmit
import Libgate.Lib.Run

/-! How long a command is waited for. The instant of a transmission is kept in
milliseconds with the seconds folded at 100000, and the timer takes the
difference of two such numbers modulo 2^32. Within one fold that is the time
that has passed; across two it is almost the whole range, however little time
has passed. -/

namespace Libgate.ReplyTime
open Lib Send Target Cmd Processor Receiver Layer HostFrame Handlers Transmit

/-! ## Two readings of the clock -/

/-- A reading of `gettimeofday` in microseconds. -/
def micros (tv : Timeval) : Nat := tv.sec * 1000000 + tv.usec

/-- The second reading is not earlier than the first and less than 100000
seconds later. -/
structure Window (t0 t1 : Timeval) : Prop where
  usec0 : t0.usec < 1000000
  usec1 : t1.usec < 1000000
  le : micros t0 ≤ micros t1
  lt : micros t1 < micros t0 + 100000 * 1000000

/-- More than `gp_timeout - 1` milliseconds lie between the readings. -/
def Late (t0 t1 : Timeval) : Prop := micros t0 + (GP_DELAY.toNat - 1) * 1000 < micros t1

/-- No multiple of 100000 seconds lies between the readings. -/
def SameFold (t0 t1 : Timeval) : Prop := t0.sec / 100000 = t1.sec / 100000

/-- The milliseconds of a reading with its seconds folded. -/
def folded (tv : Timeval) : Nat := tv.sec % 100000 * 1000 + tv.usec / 1000

section Folds
variable {t0 t1 tv : Timeval}

theorem folded_lt (hu : tv.usec < 1000000) : folded tv < 100000000 := by
  unfold folded
  omega

theorem micros_eq (tv : Timeval) :
    micros tv = tv.sec / 100000 * 100000000000 + folded tv * 1000 + tv.usec % 1000 := by
  unfold micros folded
  omega

theorem tv2ms_toNat (hu : tv.usec < 1000000) : (tv2ms tv).toNat = folded tv :=
  UInt32.toNat_ofNat_of_lt' (Nat.lt_trans (folded_lt hu) (by decide))

/-- The difference of two numbers of 32 bits, the second not below the first. -/
theorem sub_mod_of_le {a b : Nat} (hb : b < 2 ^ 32) (hab : a ≤ b) :
    (2 ^ 32 - a + b) % 2 ^ 32 = b - a := by
  have hsum : 2 ^ 32 - a + b = b - a + 2 ^ 32 := by omega
  rw [hsum, Nat.add_mod_right]
  exact Nat.mod_eq_of_lt (by omega)

theorem sub_mod_of_lt {a b : Nat} (ha : a ≤ 2 ^ 32) (hab : b < a) :
    (2 ^ 32 - a + b) % 2 ^ 32 = 2 ^ 32 - (a - b) := by
  have hsum : 2 ^ 32 - a + b = 2 ^ 32 - (a - b) := by omega
  rw [hsum]
  exact Nat.mod_eq_of_lt (by omega)

theorem late_iff : Late t0 t1 ↔ micros t0 + 139000 < micros t1 := Iff.rfl

/-- The test of the timer over the folded readings. -/
theorem overdue_iff (hw : Window t0 t1) : tv2ms t1 - tv2ms t0 ≥ GP_DELAY ↔
    140 ≤ (2 ^ 32 - folded t0 + folded t1) % 2 ^ 32 := by
  rw [← tv2ms_toNat hw.usec0, ← tv2ms_toNat hw.usec1, ← UInt32.toNat_sub]
  exact UInt32.le_iff_toNat_le

/-- Within one fold the difference is the time that has passed. -/
theorem late_of_sameFold (hw : Window t0 t1) (hf : SameFold t0 t1)
    (ho : tv2ms t1 - tv2ms t0 ≥ GP_DELAY) : Late t0 t1 := by
  have hle := hw.le
  have hlt := folded_lt hw.usec1
  have hlong := (overdue_iff hw).mp ho
  rw [SameFold] at hf
  rw [micros_eq, micros_eq, hf] at hle
  rw [sub_mod_of_le (by omega) (by omega)] at hlong
  rw [late_iff, micros_eq, micros_eq, hf]
  omega

/-- Across two folds the difference is above any reply time. -/
theorem overdue_of_folds (hw : Window t0 t1) (hf : ¬ SameFold t0 t1) (hl : ¬ Late t0 t1) :
    tv2ms t1 - tv2ms t0 ≥ GP_DELAY := by
  have hle := hw.le
  have hlt0 := folded_lt hw.usec0
  have hlt1 := folded_lt hw.usec1
  rw [overdue_iff hw]
  rw [SameFold] at hf
  rw [late_iff] at hl
  rw [micros_eq, micros_eq] at hle hl
  rw [sub_mod_of_lt (by omega) (by omega)]
  omega

/-- The test of the timer waits for the reply exactly within one fold, or when
the time is up anyway. -/
theorem test_waits_iff (hw : Window t0 t1) :
    (tv2ms t1 - tv2ms t0 ≥ GP_DELAY → Late t0 t1) ↔ SameFold t0 t1 ∨ Late t0 t1 := by
  constructor
  · intro htest
    by_contra hor
    obtain ⟨hf, hl⟩ := not_or.mp hor
    exact hl (htest (overdue_of_folds hw hf hl))
  · intro hor ho
    rcases hor with hf | hl
    · exact late_of_sameFold hw hf ho
    · exact hl

end Folds

/-! ## The stamp of the last transmission -/

/-- No time passes from the first host to the second, and the stamp in
`send_mess` is the old one or, after a transmission, that of the time. -/
structure Stamped (h h' : Host) : Prop where
  now : h'.world.now = h.world.now
  stamp : sends h' = sends h ∧ h'.sendMess.sentTime = h.sendMess.sentTime ∨
    (sends h).length < (sends h').length ∧ h'.sendMess.sentTime = tv2ms h.world.now

namespace Stamped
variable {h h' h'' : Host}

theorem refl (h : Host) : Stamped h h := ⟨rfl, .inl ⟨rfl, rfl⟩⟩

theorem trans (s : Stamped h h') (s' : Stamped h' h'') : Stamped h h'' := by
  refine ⟨s'.now.trans s.now, ?_⟩
  rcases s.stamp with ⟨hs, ht⟩ | ⟨hs, ht⟩
  · rcases s'.stamp with ⟨hs', ht'⟩ | ⟨hs', ht'⟩
    · exact .inl ⟨hs'.trans hs, ht'.trans ht⟩
    · exact .inr ⟨hs ▸ hs', s.now ▸ ht'⟩
  · rcases s'.stamp with ⟨hs', ht'⟩ | ⟨hs', ht'⟩
    · exact .inr ⟨hs' ▸ hs, ht'.trans ht⟩
    · exact .inr ⟨hs.trans hs', s.now ▸ ht'⟩

theorem kept (k : Kept h h') : Stamped h h' :=
  ⟨k.now, .inl ⟨k.sends, by rw [k.sendMess]⟩⟩

theorem send (z : CmdSend) (h : Host) : Stamped h (gpSend z h).1 := by
  obtain ⟨_, _, _, he⟩ := gpSend_rest z h
  refine ⟨by rw [he], .inr ⟨?_, by rw [he]; rfl⟩⟩
  rw [gpSend_sends, List.length_append]
  exact Nat.lt_succ_self _

theorem inCmd (z : CmdSend) (h : Host) : Stamped h (gpInCmd z h).1 := by
  obtain ⟨_, _, _, _, he⟩ := (gpInCmd_queued z h).rest
  have hs := (After.inCmd z h).sends
  rw [List.append_nil] at hs
  exact ⟨by rw [he], .inl ⟨hs, by rw [he]⟩⟩

theorem reconnect (b : Bool) (h : Host) : Stamped h (gpReconnect b h).1 := by
  obtain ⟨hm, hn, _, _, _, hs, _⟩ := gpReconnect_kept b h
  exact ⟨hn, .inl ⟨hs, by rw [hm]⟩⟩

theorem dequeue (h : Host) : Stamped h (dequeued h) := by
  obtain ⟨_, _, he⟩ := dequeued_rest h
  rw [he]
  exact ⟨rfl, .inl ⟨rfl, rfl⟩⟩

theorem putCmd (h : Host) : Stamped h (gpPutCmd h).1 := by
  rw [gpPutCmd_eq]
  cases (waiting h).head? with
  | none => exact refl h
  | some z => exact (dequeue h).trans (send z _)

theorem idle (h : Host) : Stamped h (gpSendIdle h).1 := by
  rw [gpSendIdle_eq]
  have hskip : ∀ d, Stamped h (skipTo d h) := fun _ => ⟨rfl, .inl ⟨rfl, rfl⟩⟩
  cases polled h with
  | some d => exact (hskip d).trans (send (pollCmd d) _)
  | none => exact (hskip (h.maxDevN + 1)).trans ⟨rfl, .inl ⟨rfl, rfl⟩⟩

theorem reply (m : ReceivMess) (h : Host) : Stamped h (processPortInput m h).1 := by
  obtain ⟨h', q, _, he⟩ := processPortInput_handles m h
  rw [he]
  cases chained m h with
  | none => exact kept q.kept
  | some z => exact (kept q.kept).trans (send z h')

theorem close (h : Host) : Stamped h (gpClose h) := ⟨rfl, .inl ⟨rfl, rfl⟩⟩

theorem charge (h : Host) : Stamped h (charge h) := by
  unfold Transmit.charge
  split
  · exact ⟨rfl, .inl ⟨rfl, rfl⟩⟩
  · exact refl h

theorem timeout (h : Host) : Stamped h (receivTimeout h) := by
  rw [receivTimeout_eq]
  have hnext : ∀ h', Stamped h' (sendNext h') := by
    intro h'
    unfold sendNext
    simp only
    split
    · exact putCmd h'
    · exact (putCmd h').trans (idle _)
  split
  · exact (reconnect false h).trans ((charge _).trans (hnext _))
  · exact reconnect false h

theorem alive (h : Host) : Stamped h (receivAlive h) := by
  have k := receivAlive_heard h
  exact ⟨k.now, .inl ⟨k.sends, by rw [k.sendMess]⟩⟩

theorem dispatched (m : ReceivMess) (k : RxKind) (h : Host) : Stamped h (dispatch m k h) := by
  cases k with
  | readError => exact (close h).trans (putCmd _)
  | eof => exact (send _ h).trans (close _)
  | noBegin => exact reconnect false h
  | incomplete => exact refl h
  | crcError => exact refl h
  | deviceError => exact refl h
  | nack => exact putCmd h
  | ack => exact (reply m h).trans (putCmd _)
  | reply =>
    unfold dispatch
    simp only
    split
    · exact reply m h
    · exact (reply m h).trans (putCmd _)

theorem receiv (e : PortEvent) (g : Gate) : Stamped g.host (gpReceiv e g).host := by
  cases e with
  | timeout => exact timeout g.host
  | read r => exact (alive g.host).trans (dispatched _ _ _)

end Stamped

/-! ## Runs -/

/-- The gate, and the instant of the last transmission. -/
structure Timed where
  gate : Gate
  sentAt : Option Timeval

/-- The gate goes on to `g` at the time it shows. -/
def Timed.goOn (s : Timed) (g : Gate) : Timed :=
  { gate := g
    sentAt := if sends g.host = sends s.gate.host then s.sentAt else some s.gate.host.world.now }

def step (e : Event) (s : Timed) : Timed := s.goOn (occur e s.gate)

/-- A gate whose transmissions have not been watched so far. -/
def start (g : Gate) : Timed := { gate := g, sentAt := none }

/-- The stamp is that of the last transmission. -/
def StampHolds (s : Timed) : Prop :=
  ∀ t0, s.sentAt = some t0 → s.gate.host.sendMess.sentTime = tv2ms t0

theorem Stamped.holds {s : Timed} {g : Gate} (hs : StampHolds s) (st : Stamped s.gate.host g.host) :
    StampHolds (s.goOn g) := by
  intro t0 ht
  change g.host.sendMess.sentTime = tv2ms t0
  change (if _ then _ else _) = _ at ht
  rcases st.stamp with ⟨hsame, hstamp⟩ | ⟨hmore, hstamp⟩
  · rw [if_pos hsame] at ht
    rw [hstamp]
    exact hs t0 ht
  · rw [if_neg (fun he => absurd (he ▸ hmore) (Nat.lt_irrefl _))] at ht
    rw [hstamp, Option.some.inj ht]

theorem step_stampHolds (e : Event) (s : Timed) (hs : StampHolds s) : StampHolds (step e s) := by
  cases e with
  | tick now =>
    intro t0 ht
    have hsame : (step (.tick now) s).sentAt = s.sentAt := if_pos rfl
    exact hs t0 (hsame ▸ ht)
  | send z => exact Stamped.holds hs (Stamped.send z s.gate.host)
  | inCmd z => exact Stamped.holds hs (Stamped.inCmd z s.gate.host)
  | setMaxDev n => exact Stamped.holds hs ⟨rfl, .inl ⟨rfl, rfl⟩⟩
  | quiet f hf => exact Stamped.holds hs (Stamped.kept (hf s.gate.host).kept)
  | devEnable =>
    have hmarks : Stamped (gpReconnect false s.gate.host).1 (gpAllDevEnable s.gate.host) :=
      ⟨rfl, .inl ⟨rfl, rfl⟩⟩
    exact Stamped.holds hs ((Stamped.reconnect false _).trans hmarks)
  | port e => exact Stamped.holds hs (Stamped.receiv e _)

/-- The timer gives nothing up before the reply time: its test fails, no
controller is charged and no command sent. -/
structure Waits (t0 : Timeval) (h : Host) : Prop where
  test : Overdue h → Late t0 h.world.now
  charged : ¬ Late t0 h.world.now →
    ∀ d, ((receivTimeout h).devices d).timeoutCount = (h.devices d).timeoutCount
  sent : ¬ Late t0 h.world.now → sends (receivTimeout h) = sends h

/-- A timer event leaves the last command its reply time. -/
def LeavesTime (e : Event) (s : Timed) : Prop :=
  match e with
  | .port .timeout => ∀ t0, s.sentAt = some t0 → Window t0 s.gate.host.world.now →
      Waits t0 s.gate.host
  | _ => True

/-- A timer event finds the last transmission in the same fold, or its reply
time over. -/
def WithinFold (e : Event) (s : Timed) : Prop :=
  match e with
  | .port .timeout => ∀ t0, s.sentAt = some t0 → Window t0 s.gate.host.world.now →
      SameFold t0 s.gate.host.world.now ∨ Late t0 s.gate.host.world.now
  | _ => True

theorem waits_of_test {t0 : Timeval} {h : Host} (htest : Overdue h → Late t0 h.world.now) :
    Waits t0 h := by
  have hearly : ¬ Late t0 h.world.now → receivTimeout h = (gpReconnect false h).1 := by
    intro hl
    rw [receivTimeout_eq, if_neg (mt htest hl)]
  obtain ⟨_, _, _, hdev, _, hs, _⟩ := gpReconnect_kept false h
  refine ⟨htest, ?_, ?_⟩
  · intro hl d
    rw [hearly hl, hdev]
  · intro hl
    rw [hearly hl, hs]

theorem leavesTime_iff (e : Event) (s : Timed) (hs : StampHolds s) :
    LeavesTime e s ↔ WithinFold e s := by
  match e with
  | .port .timeout =>
    refine forall₃_congr ?_
    intro t0 ht hw
    have hover : Overdue s.gate.host ↔
        tv2ms s.gate.host.world.now - tv2ms t0 ≥ GP_DELAY := by
      rw [Overdue, hs t0 ht]
    have htest := test_waits_iff hw
    rw [← hover] at htest
    exact ⟨fun hwaits => htest.mp hwaits.test, fun hor => waits_of_test (htest.mpr hor)⟩
  | .port (.read _) | .tick _ | .send _ | .inCmd _ | .setMaxDev _ | .quiet .. | .devEnable =>
    exact Iff.rfl

/-- **A command has its reply time exactly while no fold is crossed.** In every
run, at every timer event within 100000 seconds of the last transmission. -/
theorem reply_time_iff (g : Gate) (es : List Event) :
    Along step LeavesTime es (start g) ↔ Along step WithinFold es (start g) :=
  Along.iff_of_invariant (fun e s hs _ => step_stampHolds e s hs) leavesTime_iff es
    (fun _ ht => nomatch ht)

/-- A command one millisecond before the fold. -/
def atTheFold : List Event :=
  [.tick ⟨99999, 999000⟩, .send (adCmd AD_Q_SHORT 1 .info 0x09 0 []), .tick ⟨100000, 0⟩]

/-- It is given up one millisecond after it was sent. -/
theorem given_up_at_the_fold : ¬ ∀ g es, Along step LeavesTime es (start g) := by
  intro hall
  let g : Gate := ⟨⟨⟨0, 0, 0, fun _ => 0⟩, none⟩, gpInit (boot workingWorld Db.empty)⟩
  let s := run step atTheFold (start g)
  obtain ⟨_, _, _, hend, _⟩ := hall g (atTheFold ++ [.port .timeout])
  have hlast : LeavesTime (.port .timeout) s := hend
  have hsent : s.sentAt = some ⟨99999, 999000⟩ := by decide
  have hnow : s.gate.host.world.now = ⟨100000, 0⟩ := rfl
  have hover : Overdue s.gate.host := by decide
  have hw : Window ⟨99999, 999000⟩ s.gate.host.world.now := by
    rw [hnow]
    exact ⟨by decide, by decide, by simp [micros], by simp [micros]⟩
  have hlate := (hlast _ hsent hw).test hover
  rw [hnow] at hlate
  simp [late_iff, micros] at hlate

end Libgate.ReplyTime
