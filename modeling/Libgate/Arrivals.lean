import Libgate.ReceiverFrames
import Libgate.Transmit

/-! What a read brings, told from the bytes alone: one of the outcomes of
`gp_receiv`, and for a frame that passes the checks the message it decodes to.
Behind it, what a message has the handlers do with the command outstanding. -/

namespace Libgate.Arrivals
open Lib Lib.Memory Lib.Framing Util Send Target Processor Receiver Layer HostFrame Handlers Transmit
open ReceiverFrames (Link Holds Accepts accepted inputKind taken unescFrame receive_eq
  checkFrame_spec)

/-! ## Outcomes -/

/-- What the checks make of a decoded frame. -/
def judged (dev : UInt8) (r : (Nat → UInt8) × Int) : RxKind :=
  if crc8Xor r.1 ReceivMess.idCtrlOff r.2 ≠ 0 then .crcError
  else if dev ≠ r.1 4 then .deviceError
  else if r.1 5 ≠ GP_REPLY then .reply
  else if r.1 6 = GP_REPLY_ACK then .ack
  else .nack

theorem checkFrame_judged (dev : UInt8) (q : Nat) (rx : Rx) :
    (checkFrame dev q rx).2 = judged dev (unescFrame rx.mess.buf q) := by
  unfold checkFrame judged unescFrame
  generalize memcpyUnesc rx.mess.buf _ _ _ = r
  simp only
  split
  · next hc => rw [if_pos (UInt8.pos_iff_ne_zero.mp hc)]
  next hc =>
  rw [if_neg (fun hn => hc (UInt8.pos_iff_ne_zero.mpr hn))]
  split
  · next hd => rw [if_pos (show dev ≠ r.1 4 from hd)]
  next hd =>
  rw [if_neg (show ¬ dev ≠ r.1 4 from hd)]
  split
  · next hr =>
    rw [if_neg (not_not.mpr (show r.1 5 = GP_REPLY from hr))]
    split
    · next ha => rw [if_pos (show r.1 6 = GP_REPLY_ACK from ha)]
    · next ha =>
      rw [if_neg (show ¬ r.1 6 = GP_REPLY_ACK from ha)]
      split
      · rfl
      · rfl
  · next hr => rw [if_pos (show r.1 5 ≠ GP_REPLY from hr)]

/-- The frame the bytes finish, decoded in place. -/
def decoded (s : Link) (bs f : List UInt8) : (Nat → UInt8) × Int :=
  unescFrame (store s.gate.rx.mess.buf s.acc.length (s.chunk bs ++ [0])) f.length

/-- The outcome of a read. -/
def brings (r : ReadRes) (s : Link) : RxKind :=
  match r with
  | .error => .readError
  | .data bs =>
    if s.chunk bs = [] then .eof
    else
      match feed GP_INIT GP_END s.acc (s.chunk bs) with
      | .stray => .noBegin
      | .more _ => .incomplete
      | .frame f => judged s.gate.host.sendMess.dev (decoded s bs f)

/-- `receiv_mess` with the message a read brings, where it brings one. -/
def brought (r : ReadRes) (s : Link) : ReceivMess :=
  match r with
  | .error => s.gate.rx.mess
  | .data bs =>
    match feed GP_INIT GP_END s.acc (s.chunk bs) with
    | .frame f =>
      accepted (taken s.gate.rx.mess (tv2ms s.gate.host.world.now) s.acc (s.chunk bs))
        (decoded s bs f)
    | _ => s.gate.rx.mess

theorem judged_ne (dev : UInt8) (r : (Nat → UInt8) × Int) :
    judged dev r ≠ .readError ∧ judged dev r ≠ .eof := by
  unfold judged
  repeat' split
  all_goals exact ⟨RxKind.noConfusion, RxKind.noConfusion⟩

/-- A read that gets bytes neither fails nor finds the end of the file. -/
theorem brings_ne {s : Link} {bs : List UInt8} (hc : s.chunk bs ≠ []) :
    brings (.data bs) s ≠ .readError ∧ brings (.data bs) s ≠ .eof := by
  unfold brings
  simp only
  rw [if_neg hc]
  cases feed GP_INIT GP_END s.acc (s.chunk bs) with
  | frame f => exact judged_ne ..
  | stray => exact ⟨RxKind.noConfusion, RxKind.noConfusion⟩
  | more acc => exact ⟨RxKind.noConfusion, RxKind.noConfusion⟩

theorem receive_brings {s : Link} (hr : Holds s.gate.rx s.acc) (r : ReadRes) :
    let o := receive s.gate.host.sendMess.dev (tv2ms s.gate.host.world.now) r s.gate.rx
    o.2 = brings r s ∧ ((brings r s).isInput = true → o.1.mess = brought r s) := by
  cases r with
  | error => exact ⟨rfl, fun hn => Bool.noConfusion hn⟩
  | data bs =>
    simp only
    rw [receive_eq hr]
    unfold brings brought
    simp only
    change (if s.chunk bs = [] then _ else _ : Rx × RxKind).2 = _ ∧
      (_ → (if s.chunk bs = [] then _ else _ : Rx × RxKind).1.mess = _)
    by_cases hc : s.chunk bs = []
    · rw [if_pos hc, if_pos hc]
      exact ⟨rfl, fun hn => Bool.noConfusion hn⟩
    rw [if_neg hc, if_neg hc]
    change (match feed GP_INIT GP_END s.acc (s.chunk bs) with
        | .stray => _
        | .more acc' => _
        | .frame f => _ : Rx × RxKind).2 = _ ∧ (_ → (match feed GP_INIT GP_END s.acc (s.chunk bs) with
        | .stray => _
        | .more acc' => _
        | .frame f => _ : Rx × RxKind).1.mess = _)
    cases feed GP_INIT GP_END s.acc (s.chunk bs) with
    | stray => exact ⟨rfl, fun hn => Bool.noConfusion hn⟩
    | more acc => exact ⟨rfl, fun hn => Bool.noConfusion hn⟩
    | frame f =>
      have hkind := checkFrame_judged s.gate.host.sendMess.dev f.length
        ⟨taken s.gate.rx.mess (tv2ms s.gate.host.world.now) s.acc (s.chunk bs), none⟩
      refine ⟨hkind, ?_⟩
      intro hin
      rcases checkFrame_spec s.gate.host.sendMess.dev f.length
          ⟨taken s.gate.rx.mess (tv2ms s.gate.host.world.now) s.acc (s.chunk bs), none⟩ with
        ⟨_, _, hmess⟩ | ⟨_, hno⟩
      · exact hmess
      · have hyes : (judged s.gate.host.sendMess.dev (decoded s bs f)).isInput = true := hin
        rw [hkind] at hno
        exact absurd (hno.symm.trans hyes) Bool.false_ne_true

/-- A read does what its outcome asks for, once the controller is marked. -/
theorem gpReceiv_brings {s : Link} (hr : Holds s.gate.rx s.acc) (r : ReadRes) :
    (gpReceiv (.read r) s.gate).host =
      dispatch (brought r s) (brings r s) (receivAlive s.gate.host) := by
  have k := receivAlive_heard s.gate.host
  have hdev : (receivAlive s.gate.host).sendMess.dev = s.gate.host.sendMess.dev := by
    rw [k.sendMess]
  obtain ⟨hkind, hmess⟩ := receive_brings hr r
  unfold gpReceiv
  simp only [hdev, k.now, hkind]
  cases hin : (brings r s).isInput with
  | true => rw [hmess hin]
  | false => exact ReceiverFrames.dispatch_noInput hin ..

/-! ## Answers of the handlers -/

/-- The bounds of the log in a message are in range and there is something between them. -/
def SpansLog (m : ReceivMess) : Prop :=
  (be16toh m.buf (ReceivMess.cmdBuffOff + 2)).toNat ≤ GP_MAX_LOG_BOUND ∧
    (be16toh m.buf ReceivMess.cmdBuffOff).toNat ≤ GP_MAX_LOG_BOUND ∧
    logLength (be16toh m.buf ReceivMess.cmdBuffOff)
      (be16toh m.buf (ReceivMess.cmdBuffOff + 2)) ≠ 0

instance (m : ReceivMess) : Decidable (SpansLog m) := inferInstanceAs (Decidable (_ ∧ _))

/-- The handler of the command outstanding answers the message with another command. -/
def Follows (m : ReceivMess) (h : Host) : Prop :=
  match h.sendMess.evHandler with
  | .null => False
  | .cbGetPollResult => h.sendMess.target = .getCid ∧ m.cmdN = 0x04
  | .cbLogRead => h.sendMess.target = .getBuffAddr ∧ SpansLog m ∨ h.sendMess.target = .getBuffData

instance (m : ReceivMess) (h : Host) : Decidable (Follows m h) := by
  unfold Follows
  split
  all_goals infer_instance

theorem follows_receivAlive (m : ReceivMess) (h : Host) : Follows m (receivAlive h) ↔ Follows m h := by
  rw [Follows, ReceiverFrames.receivAlive_sendMess]
  exact Iff.rfl

theorem settled_receivAlive (m : ReceivMess) (h : Host) : settled m (receivAlive h) = settled m h := by
  rw [settled, ReceiverFrames.receivAlive_sendMess]
  exact rfl

theorem chained_isSome (m : ReceivMess) (h : Host) : (chained m h).isSome = true ↔ Follows m h := by
  unfold chained Follows
  cases h.sendMess.evHandler with
  | null => exact ⟨fun hn => Bool.noConfusion hn, fun hn => hn.elim⟩
  | cbGetPollResult =>
    simp only
    split
    · next hc => exact ⟨fun _ => hc, fun _ => rfl⟩
    · next hc => exact ⟨fun hn => Bool.noConfusion hn, fun hn => absurd hn hc⟩
  | cbLogRead =>
    simp only
    by_cases hadd : h.sendMess.target = .getBuffAddr
    · rw [if_pos hadd]
      have hother : h.sendMess.target ≠ .getBuffData := by rw [hadd]; decide
      split
      · next hout =>
        refine ⟨fun hn => Bool.noConfusion hn, ?_⟩
        intro hf
        obtain ⟨_, hdown, hup, hlen⟩ := hf.resolve_right hother
        rcases hout with hd | hu | hl
        · exact absurd hdown (Nat.not_le.mpr hd)
        · exact absurd hup (Nat.not_le.mpr hu)
        · exact absurd hl hlen
      · next hin =>
        rw [not_or, not_or] at hin
        exact ⟨fun _ => .inl ⟨hadd, Nat.le_of_not_gt hin.1, Nat.le_of_not_gt hin.2.1, hin.2.2⟩,
          fun _ => rfl⟩
    · rw [if_neg hadd]
      by_cases hdata : h.sendMess.target = .getBuffData
      · rw [if_pos hdata]
        exact ⟨fun _ => .inr hdata, fun _ => rfl⟩
      · rw [if_neg hdata]
        exact ⟨fun hn => Bool.noConfusion hn,
          fun hn => hn.elim (fun ha => absurd ha.1 hadd) fun hd => absurd hd hdata⟩

end Libgate.Arrivals
