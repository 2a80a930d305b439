import Libgate.Calls

/-! What moves the cursor of the poll cycle, and what opens the port. The cursor
belongs to `gp_send_idle` and the attempts to `gp_reconnect`; nothing else that
happens touches them. -/

namespace Libgate.Statics
open Lib DbLayer Send Processor Receiver Layer HostFrame Handlers Transmit LineSteps Calls

theorem kept_statics {h h' : Host} (k : Kept h h') : SameStatics h h' :=
  ⟨k.gpDst, k.lastTry, k.openPort⟩

theorem send_statics (z : CmdSend) (h : Host) : SameStatics h (gpSend z h).1 := by
  obtain ⟨_, _, _, he⟩ := gpSend_rest z h
  rw [he]
  exact ⟨rfl, rfl, rfl⟩

theorem putCmd_statics (h : Host) : SameStatics h (gpPutCmd h).1 := by
  rw [gpPutCmd_eq]
  cases (waiting h).head? with
  | none => exact SameStatics.refl h
  | some z =>
    obtain ⟨_, _, he⟩ := dequeued_rest h
    have htaken : SameStatics h (dequeued h) := by
      rw [he]
      exact ⟨rfl, rfl, rfl⟩
    exact htaken.trans (send_statics z _)

theorem close_statics (h : Host) : SameStatics h (gpClose h) := ⟨rfl, rfl, rfl⟩

theorem reply_statics (m : ReceivMess) (h : Host) : SameStatics h (processPortInput m h).1 := by
  obtain ⟨h', q, _, he⟩ := processPortInput_handles m h
  have hsmall := kept_statics q.kept
  rw [he]
  cases chained m h with
  | none => exact hsmall
  | some z => exact hsmall.trans (send_statics z h')

theorem charge_statics (h : Host) : SameStatics h (charge h) := by
  unfold charge
  split
  · exact ⟨rfl, rfl, rfl⟩
  · exact SameStatics.refl h

theorem alive_statics (h : Host) : SameStatics h (receivAlive h) := by
  have hmark : SameStatics h (marked h) := ⟨rfl, rfl, rfl⟩
  rw [receivAlive_eq]
  split
  · exact hmark
  · obtain ⟨h', q, he⟩ := gpDevInit_quiet h.sendMess.dev.toNat (marked h)
    have hsmall := hmark.trans (kept_statics q.kept)
    rw [he]
    exact ⟨hsmall.gpDst, hsmall.lastTry, hsmall.openPort⟩

/-- Only a reply that does not begin as one makes `gp_receiv` look after the port. -/
theorem dispatch_statics {k : RxKind} (hk : k ≠ .noBegin) (m : ReceivMess) (h : Host) :
    SameStatics h (dispatch m k h) := by
  cases k with
  | readError => exact (close_statics h).trans (putCmd_statics _)
  | eof => exact (send_statics _ h).trans (close_statics _)
  | noBegin => exact absurd rfl hk
  | nack => exact putCmd_statics h
  | ack => exact (reply_statics m h).trans (putCmd_statics _)
  | reply =>
    unfold dispatch
    simp only
    split
    · exact reply_statics m h
    · exact (reply_statics m h).trans (putCmd_statics _)
  | _ => exact SameStatics.refl h

theorem reconnect_gpDst (b : Bool) (h : Host) : (gpReconnect b h).1.gpDst = h.gpDst := by
  obtain ⟨_, _, _, he⟩ := gpReconnect_rest b h
  rw [he]

theorem dispatch_gpDst (m : ReceivMess) (k : RxKind) (h : Host) :
    (dispatch m k h).gpDst = h.gpDst := by
  by_cases hk : k = .noBegin
  · rw [hk]
    exact reconnect_gpDst false h
  · exact (dispatch_statics hk m h).gpDst

/-- Only the timer moves the cursor. -/
theorem perform_gpDst {c : Call} (hc : c ≠ .receiv .timeout) (g : Gate) :
    (perform c g).host.gpDst = g.host.gpDst := by
  rcases call_kinds c with ⟨r, rfl⟩ | rfl | rfl | hask
  · exact (dispatch_gpDst _ _ _).trans (alive_statics g.host).gpDst
  · exact absurd rfl hc
  · exact reconnect_gpDst false g.host
  · exact (perform_onlyQueues hask g).statics.gpDst

end Libgate.Statics
