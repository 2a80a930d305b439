import Libgate.Calls
import Libgate.Lib.Watch

/-! Reports of cards. The polls of a controller bring card numbers and, between
them, event codes. A card that lies at the reader is there in every answer; the
library names it once, and again only when another number has been read or the
event code has changed. -/

namespace Libgate.CardReports
open Lib Send Target Processor Receiver Layer HostFrame LineSteps Calls Readings
open ReceiverFrames (handed)

/-! ## What an event of the port does -/

theorem receiv_still {e : PortEvent} {g : Gate} (hm : handed e g = none) :
    Still g.host (gpReceiv e g).host := by
  cases e with
  | timeout => exact receivTimeout_still g.host
  | read r =>
    simp only [handed] at hm
    split at hm
    · cases hm
    next hk => exact (receivAlive_still g.host).trans (dispatch_still (Bool.not_eq_true _ ▸ hk) ..)

/-- A message changes the record of its controller alone, and names the card of the
record when its registers report one. -/
theorem receiv_learned {e : PortEvent} {g : Gate} {m : ReceivMess} (hm : handed e g = some m) :
    ∃ cs, Learned m.dev.toNat (learns m g.host) cs g.host (gpReceiv e g).host ∧
      (cs ≠ [] ↔ NamesCard m g.host) ∧ ∀ c ∈ cs, c = (g.host.devices m.dev.toNat).lastCid := by
  obtain ⟨cs, hlearned, hiff, hall⟩ := processPortInput_learned m (receivAlive g.host)
  have halive := receivAlive_still g.host
  have hbehind : Still (processPortInput m (receivAlive g.host)).1 (gpReceiv e g).host := by
    obtain ⟨_, heq | heq⟩ := ReceiverFrames.gpReceiv_handed hm
    · rw [heq]
      exact Still.putCmd _
    · rw [heq]
      exact Still.refl _
  have hread := ((Learned.of_still halive).after hlearned fun _ _ => learns_congr _ _).then_still hbehind
  rw [learns_receivAlive] at hread
  refine ⟨cs, hread, hiff.trans (namesCard_receivAlive ..), ?_⟩
  intro c hc
  rw [hall c hc]
  exact (halive.facts _).lastCid

/-! ## What the polls bring -/

/-- A card number or an event code. -/
abbrev Reading := UInt64 ⊕ UInt8

/-- What a message says of the controller that is polled. -/
def readingOf (m : ReceivMess) (h : Host) : List Reading :=
  if IsCid m h then [.inl (cidOf m (h.devices m.dev.toNat).cidRevert)]
  else if IsRegs m h then [.inr (m.cmdBuff 20)]
  else []

/-- What a call brings of controller `d`. -/
def readings (d : Nat) (c : Call) (g : Gate) : List Reading :=
  match c with
  | .receiv e => ((handed e g).toList.filter fun m => m.dev.toNat = d).flatMap
      fun m => readingOf m g.host
  | _ => []

/-- What a record keeps of the cards. -/
def watch (r : GpDev) : Watch UInt64 UInt8 := ⟨r.lastCid, r.newCidFlag, r.lastEv⟩

theorem watch_congr {r r' : GpDev} (s : SameFacts r r') : watch r' = watch r := by
  simp [watch, s.lastCid, s.newCidFlag, s.lastEv]

/-- A record learns from a message what a watcher sees in it. -/
theorem watch_learns (m : ReceivMess) (h : Host) :
    watch (learns m h (h.devices m.dev.toNat)) =
      (readingOf m h).foldl Watch.see (watch (h.devices m.dev.toNat)) := by
  unfold learns readingOf
  by_cases hinfo : IsInfo m h
  · obtain ⟨_, hpoll, _⟩ := not_of_handler (m := m) hinfo.1
    obtain ⟨hcid, hregs⟩ := hpoll (by decide)
    simp [hinfo, hcid, hregs, takeOrder, watch]
  · by_cases hcid : IsCid m h
    · simp [hinfo, hcid, takeCid, watch, Watch.see]
    · by_cases hregs : IsRegs m h
      · simp [hinfo, hcid, hregs, takeEv, watch, Watch.see]
      · simp only [if_neg hinfo, if_neg hcid, if_neg hregs, takeBounds, List.foldl_nil]
        repeat' split
        all_goals rfl

theorem perform_watch (d : Nat) (c : Call) (g : Gate) :
    watch ((perform c g).host.devices d) =
      (readings d c g).foldl Watch.see (watch (g.host.devices d)) := by
  rcases call_kinds c with ⟨r, rfl⟩ | rfl | rfl | hc
  · change watch ((gpReceiv (.read r) g).host.devices d) = _
    cases hm : handed (.read r) g with
    | none =>
      have hstill := ((receiv_still hm).facts d).toSameFacts
      simpa [readings, hm] using watch_congr hstill
    | some m =>
      obtain ⟨_, hlearned, _⟩ := receiv_learned hm
      have hfacts := watch_congr (hlearned.facts d)
      by_cases hd : m.dev.toNat = d
      · rw [← hd] at hfacts ⊢
        simp only [if_true] at hfacts
        simpa [readings, hm, watch_learns] using hfacts
      · rw [if_neg (Ne.symm hd)] at hfacts
        simpa [readings, hm, hd] using hfacts
  · exact watch_congr ((receivTimeout_still g.host).facts d).toSameFacts
  · exact watch_congr ((gpAllDevEnable_still g.host).facts d).toSameFacts
  · have hnone : readings d c g = [] := by
      cases c with
      | receiv e => exact absurd rfl (hc.1 e)
      | _ => rfl
    rw [hnone]
    exact watch_congr ((perform_onlyQueues hc g).facts d)

/-! ## Runs -/

theorem adapter_watch (mess : ReceivMess) (w : World) (db : Db) (d : Nat) :
    watch ((adapter mess w db).host.devices d) = ⟨0, false, 0⟩ := by
  let h0 : Host := { boot w db with gpHead := [], gpHead2 := [] }
  have hloops : ∀ g, Steps aside g (activDev.foldl (fun h dev => (adGetTimes AD_Q_SECOND dev h).1)
      (activDev.foldl (fun h dev => (adResetBuff AD_Q_SECOND dev h).1) g)) :=
    fun g => (foldl_steps resetBuff_steps _ g).trans (foldl_steps getTimes_steps _ _)
  have honly := (hloops (gpInit h0)).onlyQueues (fun _ _ hn => hn) fun hn => hn
  exact (watch_congr (honly.facts d)).trans (watch_congr (gpInit_facts h0 d))

/-- What a run has brought of controller `d`. -/
def history (d : Nat) (cs : List Call) (g : Gate) : List Reading := gather perform (readings d) cs g

/-- The event code tells of a card. -/
def CardEvent (ev : UInt8) : Prop := ev &&& 0xFE = 0x02 ∨ ev &&& 0xFE = 0x04

/-- A card is to be reported: a new one has been read since the last event code, or
the code is a new one. -/
def Due (rs : List Reading) (ev : UInt8) : Prop :=
  CardEvent ev ∧ (Fresh 0 rs ∨ (states rs).getLastD 0 ≠ ev)

/-- An event of the port names a card when the registers it brings make one due, and
then the card read last. -/
def ReportsChanges (seen : Nat → List Reading) (e : PortEvent) (g : Gate) : Prop :=
  ∃ cs, cards (gpReceiv e g).host = cards g.host ++ cs ∧
    (cs ≠ [] ↔ ∃ m ∈ handed e g, IsRegs m g.host ∧ Due (seen m.dev.toNat) (m.cmdBuff 20)) ∧
    ∀ c ∈ cs, ∃ m ∈ handed e g, c = (values (seen m.dev.toNat)).getLastD 0

/-- **A card is reported when it comes and not while it stays**, by each controller
for itself, in every run. -/
theorem cards_reported_on_change (mess : ReceivMess) (w : World) (db : Db) (before : List Call)
    (e : PortEvent) :
    ReportsChanges (fun d => history d before (adapter mess w db)) e
      (run perform before (adapter mess w db)) := by
  have hknows : ∀ d, (watch ((run perform before (adapter mess w db)).host.devices d)).Knows 0 0
      (history d before (adapter mess w db)) := by
    intro d
    have hrun := @run_foldl Gate Call perform Reading _ (readings d)
      (fun g => watch (g.host.devices d)) Watch.see (perform_watch d) before (adapter mess w db)
    rw [adapter_watch] at hrun
    exact hrun ▸ Watch.knows 0 0 _
  generalize run perform before (adapter mess w db) = g at hknows ⊢
  cases hm : handed e g with
  | none =>
    refine ⟨[], by simpa using (receiv_still hm).cards, ?_, by simp⟩
    simp [hm]
  | some m =>
    obtain ⟨cs, hlearned, hiff, hall⟩ := receiv_learned hm
    have k := hknows m.dev.toNat
    refine ⟨cs, hlearned.cards, ?_, ?_⟩
    · have hdue : NamesCard m g.host ↔
          IsRegs m g.host ∧ Due (history m.dev.toNat before (adapter mess w db)) (m.cmdBuff 20) := by
        rw [Due, ← k.fresh, ← k.state]
        exact and_congr_right fun _ => and_comm
      simpa [hm] using hiff.trans hdue
    · intro c hc
      exact ⟨m, by simp [hm], by rw [hall c hc]; exact k.last⟩

end Libgate.CardReports
