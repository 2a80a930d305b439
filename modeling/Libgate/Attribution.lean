import Libgate.Readings

/-! Which command a reply answers. A message says which controller sent it and
what command byte it answers, and is put where the command sent last wants its
answer; a reply that comes late meets another command of the same controller. -/

namespace Libgate.Attribution
open Lib Lib.Memory DbLayer Util Send Target Processor Receiver Layer HostFrame Handlers
open Arrivals Readings
open ReceiverFrames (Link Holds handed step_holds)

/-! ## The line -/

/-- The data bytes a command asks for, where it is answered with data. -/
def asked (z : CmdSend) : Option Nat :=
  if z.cmdN = 0x04 then some (z.cmdBuff.getD 2 0).toNat
  else if z.cmdN = 0x06 then some (z.cmdBuff.getD 0 0).toNat
  else if z.cmdN = 0x09 then some 4
  else none

/-- The message is the answer to the command: the data asked for, or an
acknowledgement. -/
def Answers (z : CmdSend) (k : RxKind) (m : ReceivMess) : Prop :=
  m.dev = z.dst ∧ m.cmdN = z.cmdN ∧ k = (if (asked z).isSome then .reply else .ack) ∧
    ∀ n ∈ asked z, m.len = n

instance (z : CmdSend) (k : RxKind) (m : ReceivMess) : Decidable (Answers z k m) :=
  inferInstanceAs (Decidable (_ ∧ _))

/-- The receiver, and the commands whose answers have not come. -/
structure Line where
  link : Link
  flight : List CmdSend

def Line.host (s : Line) : Host := s.link.gate.host

/-- The commands sent on the way from `h` to `h'`. -/
def sentNow (h h' : Host) : List CmdSend := (sends h').drop (sends h).length

/-- An answer completes in a read, or the event brings none. An answer that never
comes is lost. -/
inductive Ev where
  | answer (r : ReadRes) (z : CmdSend)
  | receiv (e : PortEvent)
  | allDevEnable
  | getDevLogs
  | aside (f : Aside)

def onPort (e : PortEvent) (s : Line) : Line :=
  { link := ReceiverFrames.step (.port e) s.link
    flight := s.flight ++ sentNow s.host (gpReceiv e s.link.gate).host }

def onHost (f : Host → Host) (s : Line) : Line :=
  { link := { s.link with gate := { s.link.gate with host := f s.host } }
    flight := s.flight ++ sentNow s.host (f s.host) }

def step (e : Ev) (s : Line) : Line :=
  match e with
  | .answer r z => onPort (.read r) { s with flight := s.flight.erase z }
  | .receiv e => onPort e s
  | .allDevEnable => onHost gpAllDevEnable s
  | .getDevLogs => onHost gpGetDevLogs s
  | .aside f => onHost f.run s

/-- The adapter after `gp_init`. -/
def start (mess : ReceivMess) (w : World) (db : Db) : Line :=
  { link := ReceiverFrames.start mess (gpInit (boot w db)), flight := sends (gpInit (boot w db)) }

/-- The controllers answer each command at most once, and say nothing else. -/
def OnLine (e : Ev) (s : Line) : Prop :=
  match e with
  | .answer r z => z ∈ s.flight ∧ (brings r s.link).isInput = true ∧
    Answers z (brings r s.link) (brought r s.link)
  | .receiv e => handed e s.link.gate = none
  | _ => True

instance (e : Ev) (s : Line) : Decidable (OnLine e s) := by
  unfold OnLine
  split
  all_goals infer_instance

/-! ## Attribution -/

/-- The record of controller `d` changes only in what `z` asked it for; a card
that is added may raise `bound_token`. -/
structure Earned (z : CmdSend) (m : ReceivMess) (h : Host) (d : Nat) (r r' : GpDev) : Prop where
  lastCid : r'.lastCid ≠ r.lastCid →
    (z.targetN = .getCid ∧ z.dst.toNat = d) ∧ r'.lastCid = cidOf m r.cidRevert
  bounds : r'.boundUp ≠ r.boundUp ∨ r'.boundDown ≠ r.boundDown →
    (z.targetN = .getBuffAddr ∧ z.dst.toNat = d) ∧
      r'.boundUp = be16toh m.buf ReceivMess.cmdBuffOff ∧
      r'.boundDown = be16toh m.buf (ReceivMess.cmdBuffOff + 2)
  boundToken : r'.boundToken ≠ r.boundToken → AddsCard m h ∨
    (z.targetN = .getTokenBound ∧ z.dst.toNat = d) ∧
      r'.boundToken = be16toh m.buf ReceivMess.cmdBuffOff

/-- What an event puts into the records comes from the answer to the command
that asked for it. -/
def Attributed (e : Ev) (s : Line) : Prop :=
  match e with
  | .answer r z => ∀ d, Earned z (brought r s.link) s.host d (s.host.devices d)
    ((gpReceiv (.read r) s.link.gate).host.devices d)
  | .receiv e => ∀ d, SameRecord (s.host.devices d) ((gpReceiv e s.link.gate).host.devices d)
  | _ => True

/-- Where an answer meets a command that wants a value, it is the answer to such
a command, or the value is known already. -/
structure Matched (z : CmdSend) (m : ReceivMess) (h : Host) : Prop where
  lastCid : IsCid m h → z.targetN = .getCid ∨
    cidOf m (h.devices m.dev.toNat).cidRevert = (h.devices m.dev.toNat).lastCid
  bounds : IsBounds h → InLog m → z.targetN = .getBuffAddr ∨
    be16toh m.buf ReceivMess.cmdBuffOff = (h.devices m.dev.toNat).boundUp ∧
      be16toh m.buf (ReceivMess.cmdBuffOff + 2) = (h.devices m.dev.toNat).boundDown
  boundToken : IsTokenBound m h → z.targetN = .getTokenBound ∨
    be16toh m.buf ReceivMess.cmdBuffOff = (h.devices m.dev.toNat).boundToken

def Matches (e : Ev) (s : Line) : Prop :=
  match e with
  | .answer r z => Matched z (brought r s.link) s.host
  | _ => True

/-! ## One answer -/

theorem learns_bounds (m : ReceivMess) (h : Host) (r : GpDev) :
    (learns m h r).boundUp =
        (if IsBounds h ∧ InLog m then be16toh m.buf ReceivMess.cmdBuffOff else r.boundUp) ∧
      (learns m h r).boundDown =
        (if IsBounds h ∧ InLog m then be16toh m.buf (ReceivMess.cmdBuffOff + 2)
          else r.boundDown) := by
  have hother : ∀ f, h.sendMess.evHandler = f → f ≠ .cbLogRead → ¬ (IsBounds h ∧ InLog m) :=
    fun f hf hne hn => (not_of_handler (m := m) hf).2.2 hne hn.1
  unfold learns
  split
  · next hinfo =>
    simp only [if_neg (hother _ hinfo.1 (by decide))]
    exact ⟨rfl, rfl⟩
  split
  · next hcid =>
    simp only [if_neg (hother _ hcid.1 (by decide))]
    exact ⟨rfl, rfl⟩
  split
  · next hregs =>
    simp only [if_neg (hother _ hregs.1 (by decide))]
    exact ⟨rfl, rfl⟩
  split
  · next hbounds =>
    unfold takeBounds
    by_cases hin : InLog m
    · rw [if_pos hin]
      exact ⟨(if_pos ⟨hbounds, hin⟩).symm, (if_pos ⟨hbounds, hin⟩).symm⟩
    · rw [if_neg hin]
      exact ⟨(if_neg fun hn => hin hn.2).symm, (if_neg fun hn => hin hn.2).symm⟩
  · next hno => exact ⟨(if_neg fun hn => hno hn.1).symm, (if_neg fun hn => hno hn.1).symm⟩

/-- The answer to the command sent last matches it. -/
theorem matched_of_newest {z : CmdSend} {h : Host} (m : ReceivMess) (hz : h.sendMess.target = z.targetN) :
    Matched z m h :=
  ⟨fun hc => .inl (hz.symm.trans hc.2.1), fun hb _ => .inl (hz.symm.trans hb.2),
    fun ht => .inl (hz.symm.trans ht.2.1)⟩

section Answer
variable {s : Line} (hr : Holds s.link.gate.rx s.link.acc) {r : ReadRes} {z : CmdSend}
include hr

/-- What an answer leaves in the records. -/
theorem answer_facts (hin : (brings r s.link).isInput = true) (d : Nat) :
    SameFacts
        (if d = (brought r s.link).dev.toNat then
          learns (brought r s.link) s.host (s.host.devices d) else s.host.devices d)
        ((gpReceiv (.read r) s.link.gate).host.devices d) ∧
      (¬ AddsCard (brought r s.link) s.host →
        ((gpReceiv (.read r) s.link.gate).host.devices d).boundToken =
          if d = (brought r s.link).dev.toNat ∧ IsTokenBound (brought r s.link) s.host then
            be16toh (brought r s.link).buf ReceivMess.cmdBuffOff
          else (s.host.devices d).boundToken) := by
  have hm : handed (.read r) s.link.gate = some (brought r s.link) := by
    rw [handed_read hr, if_pos hin]
  obtain ⟨cs, l, _⟩ := event_learned hr hm
  exact ⟨l.facts d, fun hadd => event_boundToken hr hm hadd d⟩

/-- The record of another controller keeps everything but the bound a card raises. -/
theorem earned_beside (hin : (brings r s.link).isInput = true) {d : Nat}
    (hd : d ≠ (brought r s.link).dev.toNat) :
    Earned z (brought r s.link) s.host d (s.host.devices d)
      ((gpReceiv (.read r) s.link.gate).host.devices d) := by
  obtain ⟨hfacts, htoken⟩ := answer_facts hr hin d
  rw [if_neg hd] at hfacts
  refine ⟨fun hne => absurd hfacts.lastCid hne, ?_, ?_⟩
  · intro hne
    exact (hne.elim (fun hn => hn hfacts.boundUp) fun hn => hn hfacts.boundDown).elim
  · intro hne
    by_cases hadd : AddsCard (brought r s.link) s.host
    · exact .inl hadd
    · have htok := htoken hadd
      rw [if_neg (fun hn => hd hn.1)] at htok
      exact absurd htok hne

/-- An answer that meets a command it matches earns what it changes. -/
theorem earned_of_matched (hin : (brings r s.link).isInput = true)
    (hz : (brought r s.link).dev = z.dst) (hm : Matched z (brought r s.link) s.host) (d : Nat) :
    Earned z (brought r s.link) s.host d (s.host.devices d)
      ((gpReceiv (.read r) s.link.gate).host.devices d) := by
  by_cases hd : d = (brought r s.link).dev.toNat
  · obtain ⟨hfacts, htoken⟩ := answer_facts hr hin d
    have hdst : z.dst.toNat = d := by rw [hd, hz]
    rw [if_pos hd] at hfacts
    have hcid := hfacts.lastCid
    have hup := hfacts.boundUp
    have hdown := hfacts.boundDown
    rw [learns_lastCid] at hcid
    rw [(learns_bounds ..).1] at hup
    rw [(learns_bounds ..).2] at hdown
    refine ⟨?_, ?_, ?_⟩
    · intro hne
      by_cases hc : IsCid (brought r s.link) s.host
      · rw [if_pos hc] at hcid
        rcases hm.lastCid hc with hget | hsame
        · exact ⟨⟨hget, hdst⟩, hcid⟩
        · rw [← hd, ← hcid] at hsame
          exact absurd hsame hne
      · rw [if_neg hc] at hcid
        exact absurd hcid hne
    · intro hne
      by_cases hb : IsBounds s.host ∧ InLog (brought r s.link)
      · rw [if_pos hb] at hup hdown
        rcases hm.bounds hb.1 hb.2 with hget | hsame
        · exact ⟨⟨hget, hdst⟩, hup, hdown⟩
        · rw [← hd, ← hup, ← hdown] at hsame
          exact (hne.elim (fun hn => hn hsame.1) fun hn => hn hsame.2).elim
      · rw [if_neg hb] at hup hdown
        exact (hne.elim (fun hn => hn hup) fun hn => hn hdown).elim
    · intro hne
      by_cases hadd : AddsCard (brought r s.link) s.host
      · exact .inl hadd
      · have htok := htoken hadd
        by_cases ht : IsTokenBound (brought r s.link) s.host
        · rw [if_pos ⟨hd, ht⟩] at htok
          rcases hm.boundToken ht with hget | hsame
          · exact .inr ⟨⟨hget, hdst⟩, htok⟩
          · rw [← hd, ← htok] at hsame
            exact absurd hsame hne
        · rw [if_neg (fun hn => ht hn.2)] at htok
          exact absurd htok hne
  · exact earned_beside hr hin hd

/-- What an answer changes in the record of its controller, it has to match. -/
theorem matched_of_earned (hin : (brings r s.link).isInput = true)
    (he : ∀ d, Earned z (brought r s.link) s.host d (s.host.devices d)
      ((gpReceiv (.read r) s.link.gate).host.devices d)) :
    Matched z (brought r s.link) s.host := by
  have hdev := he (brought r s.link).dev.toNat
  obtain ⟨hfacts, htoken⟩ := answer_facts hr hin (brought r s.link).dev.toNat
  rw [if_pos rfl] at hfacts
  refine ⟨?_, ?_, ?_⟩
  · intro hc
    have hcid := hfacts.lastCid
    rw [learns_lastCid, if_pos hc] at hcid
    rw [or_iff_not_imp_right, ← hcid]
    exact fun hne => (hdev.lastCid hne).1.1
  · intro hb hl
    have hup := hfacts.boundUp
    have hdown := hfacts.boundDown
    rw [(learns_bounds ..).1, if_pos ⟨hb, hl⟩] at hup
    rw [(learns_bounds ..).2, if_pos ⟨hb, hl⟩] at hdown
    rw [or_iff_not_imp_right, ← hup, ← hdown, not_and_or]
    exact fun hne => (hdev.bounds hne).1.1
  · intro ht
    have hadd : ¬ AddsCard (brought r s.link) s.host :=
      fun hn => EvCbFunc.noConfusion (ht.1.symm.trans hn.1.1)
    have htok := htoken hadd
    rw [if_pos ⟨rfl, ht⟩] at htok
    rw [or_iff_not_imp_right, ← htok]
    exact fun hne => ((hdev.boundToken hne).resolve_left hadd).1.1

end Answer

/-! ## Runs -/

theorem step_line (e : Ev) (s : Line) (hr : Holds s.link.gate.rx s.link.acc) :
    Holds (step e s).link.gate.rx (step e s).link.acc := by
  cases e with
  | answer r z => exact step_holds (.port (.read r)) s.link hr
  | receiv e => exact step_holds (.port e) s.link hr
  | _ => exact hr

theorem attributed_iff (e : Ev) (s : Line) (hr : Holds s.link.gate.rx s.link.acc) :
    OnLine e s ∧ Attributed e s ↔ OnLine e s ∧ Matches e s := by
  refine and_congr_right ?_
  intro hline
  cases e with
  | answer r z =>
    obtain ⟨_, hin, hz, _⟩ := hline
    exact ⟨matched_of_earned hr hin, earned_of_matched hr hin hz⟩
  | receiv e => exact ⟨fun _ => trivial, fun _ => (event_still hr hline).facts⟩
  | _ => exact Iff.rfl

/-- **Where the controllers answer each command at most once, late or not, the
records hold the answers to the commands that asked for them exactly while each
answer matches the command it meets.** -/
theorem replies_attributed (mess : ReceivMess) (w : World) (db : Db) (es : List Ev) :
    Along step (fun e s => OnLine e s ∧ Attributed e s) es (start mess w db) ↔
      Along step (fun e s => OnLine e s ∧ Matches e s) es (start mess w db) :=
  Along.iff_of_invariant (I := fun s => Holds s.link.gate.rx s.link.acc)
    (fun e s hr _ => step_line e s hr) attributed_iff es (Holds.of_none rfl)

/-- A relay is to be switched on. -/
def switchOn : CmdSend := adCmd AD_Q_FIRST 1 .turnOn 0x07 1 [0]

/-- Controller 1 is told to switch a relay on and does not answer in time; it is
asked for the bounds of its log. -/
def slowSwitch : List Ev :=
  [.aside (.queueing switchOn), .aside (.queueing (adGetBuffAddrCmd AD_Q_SECOND 1 .cbLogRead)),
    .aside (.clock ⟨1, 0⟩), .receiv .timeout, .aside (.clock ⟨2, 0⟩), .receiv .timeout]

/-- The acknowledgement of the relay command. -/
def lateAck : ReadRes := .data [GP_INIT, 8, 0, 0x10, 1, 0x55, 0x55, 7, 0x16, GP_END]

/-- The acknowledgement is stored as the bounds of the log. -/
theorem late_ack_stored : ¬ ∀ mess w db es, Along step OnLine es (start mess w db) →
    Along step Attributed es (start mess w db) := by
  intro hall
  let s := run step slowSwitch (start ReceiverFrames.blankMess workingWorld Db.empty)
  have hline : Along step OnLine (slowSwitch ++ [.answer lateAck switchOn])
      (start ReceiverFrames.blankMess workingWorld Db.empty) := by decide
  obtain ⟨_, _, _, _, _, _, hlast, _⟩ := hall _ _ _ _ hline
  have hstored : Attributed (.answer lateAck switchOn) s := hlast
  have hholds : Holds s.link.gate.rx s.link.acc :=
    run_invariant step_line slowSwitch (Holds.of_none rfl)
  have hin : (brings lateAck s.link).isInput = true := by decide
  have hbounds : IsBounds s.host ∧ InLog (brought lateAck s.link) := by decide
  have hnew : be16toh (brought lateAck s.link).buf ReceivMess.cmdBuffOff ≠
      (s.host.devices (brought lateAck s.link).dev.toNat).boundUp := by decide
  rcases (matched_of_earned hholds hin hstored).bounds hbounds.1 hbounds.2 with hget | hsame
  · exact absurd hget (by decide)
  · exact hnew hsame.1

end Libgate.Attribution
