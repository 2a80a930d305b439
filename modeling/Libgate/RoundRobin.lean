import Libgate.Transmit
import Libgate.Lib.Run

/-! The poll cycle over a whole run. The cursor of `gp_send_idle` outlives the
call, so a round is spread over many calls with anything in between that leaves
the cursor and the number of controllers alone. What the calls since the last
wrap have visited is always the controllers up to the cursor. -/

namespace Libgate.RoundRobin
open Lib Send Processor Receiver Layer HostFrame Handlers Transmit

/-! ## The turns of the loop -/

/-- One turn of the loop at a controller, which is asked or passed over. -/
structure Visit where
  dev : Nat
  asked : Bool
  deriving DecidableEq

/-- The turns `gpSendIdleLoop` takes before the cursor passes `max_dev_n`. -/
def idleVisits : Nat → Host → List Visit
  | 0, _ => []
  | n + 1, h =>
    let h := { h with gpDst := h.gpDst + 1 }
    if h.gpDst > h.maxDevN then []
    else if (h.devices h.gpDst).timeoutCount > maxTimeoutCount then
      ⟨h.gpDst, false⟩ :: idleVisits n (h.setDev h.gpDst fun d => { d with activ := false })
    else [⟨h.gpDst, true⟩]

/-- The turns of one call of `gp_send_idle`. -/
def visits (h : Host) : List Visit := idleVisits (h.maxDevN + 1) h

/-- Controllers passed over, `n` of them from `d` on. -/
def skips (d n : Nat) : List Visit := (List.range' d n).map fun i => ⟨i, false⟩

theorem mem_skips {d n : Nat} {v : Visit} :
    v ∈ skips d n ↔ d ≤ v.dev ∧ v.dev < d + n ∧ v.asked = false := by
  unfold skips
  constructor
  · intro hv
    obtain ⟨i, hi, rfl⟩ := List.mem_map.mp hv
    obtain ⟨hlo, hhi⟩ := List.mem_range'_1.mp hi
    exact ⟨hlo, hhi, rfl⟩
  · intro ⟨hlo, hhi, ha⟩
    refine List.mem_map.mpr ⟨v.dev, List.mem_range'_1.mpr ⟨hlo, hhi⟩, ?_⟩
    rw [← ha]

theorem map_dev_skips (d n : Nat) : (skips d n).map Visit.dev = List.range' d n := by
  unfold skips
  rw [List.map_map]
  exact List.map_id _

theorem filter_skips (d n : Nat) : (skips d n).filter Visit.asked = [] := by
  refine List.filter_eq_nil_iff.mpr ?_
  intro v hv
  rw [(mem_skips.mp hv).2.2]
  exact Bool.false_ne_true

/-- The turns once the controller to be asked is known. -/
def turns (d : Option Nat) (h : Host) : List Visit :=
  match d with
  | some d => skips (h.gpDst + 1) (d - (h.gpDst + 1)) ++ [⟨d, true⟩]
  | none => skips (h.gpDst + 1) (h.maxDevN - h.gpDst)

/-- Passing over one controller is the first turn of those that pass over it. -/
theorem turns_passed {h : Host} (hle : h.gpDst + 1 ≤ h.maxDevN) :
    turns (polled (passed h)) h = ⟨h.gpDst + 1, false⟩ :: turns (polled (passed h)) (passed h) := by
  cases hp : polled (passed h) with
  | some d =>
    have hlt : h.gpDst + 1 < d := (polled_some hp).1
    have hlen : d - (h.gpDst + 1) = d - (h.gpDst + 1 + 1) + 1 := by omega
    simp only [turns, skips, hlen, List.range'_succ, List.map_cons, List.cons_append]
    rfl
  | none =>
    have hlen : h.maxDevN - h.gpDst = h.maxDevN - (h.gpDst + 1) + 1 := by omega
    simp only [turns, skips, hlen, List.range'_succ, List.map_cons]
    rfl

theorem idleVisits_eq (n : Nat) (h : Host) (hn : h.maxDevN - h.gpDst < n) :
    idleVisits n h = turns (polled h) h := by
  induction n generalizing h with
  | zero => exact absurd hn (Nat.not_lt_zero _)
  | succ n ih =>
    unfold idleVisits
    simp only
    by_cases hend : h.gpDst + 1 > h.maxDevN
    · have hnone : h.maxDevN - h.gpDst = 0 := by omega
      rw [if_pos hend, polled_end hend, turns, hnone]
      rfl
    have hle : h.gpDst + 1 ≤ h.maxDevN := Nat.le_of_not_gt hend
    rw [if_neg hend, polled_succ hle]
    by_cases hcount : (h.devices (h.gpDst + 1)).timeoutCount > maxTimeoutCount
    · rw [if_pos hcount, if_pos hcount, turns_passed hle]
      exact congrArg _ (ih (passed h) (show h.maxDevN - (h.gpDst + 1) < n by omega))
    · rw [if_neg hcount, if_neg hcount]
      simp [turns, skips]

theorem visits_eq (h : Host) : visits h = turns (polled h) h := idleVisits_eq _ h (by omega)

/-! ## One call -/

/-- The cursor passes `max_dev_n` and starts over. -/
def Wraps (h : Host) : Prop := (gpSendIdle h).1.gpDst = 0

/-- What a call does with the controllers it visits: one whose count is not
above the limit is asked once, any other goes off, and nothing else changes. -/
structure Selects (vs : List Visit) (h h' : Host) : Prop where
  asked : ∀ v ∈ vs, v.asked = decide ((h.devices v.dev).timeoutCount ≤ maxTimeoutCount)
  address : ∀ v ∈ vs, (pollCmd v.dev).dst.toNat = v.dev
  sends : sends h' = sends h ++ (vs.filter Visit.asked).map fun v => pollCmd v.dev
  once : (vs.filter Visit.asked).length ≤ 1
  skipped : ∀ v ∈ vs, v.asked = false →
    h'.devices v.dev = { h.devices v.dev with activ := false }
  polled : ∀ v ∈ vs, v.asked = true →
    h'.devices v.dev = { h.devices v.dev with lastSent := tv2ms h.world.now }
  others : ∀ d ∉ vs.map Visit.dev, h'.devices d = h.devices d

section Call
variable {h : Host}

theorem dst_toNat {d : Nat} (hd : d ≤ 255) : (pollCmd d).dst.toNat = d :=
  UInt8.toNat_ofNat_of_lt' (Nat.lt_succ_of_le hd)

/-- No controller is to be asked: the rest of the round is passed over. -/
theorem selects_none (hn : h.maxDevN ≤ 255) (hp : polled h = none) :
    Selects (turns none h) h (pollNext none h).1 := by
  have hcount := polled_none hp
  have hmem : ∀ v ∈ turns none h, h.gpDst < v.dev ∧ v.dev < h.maxDevN + 1 ∧ v.asked = false := by
    intro v hv
    obtain ⟨hlo, hhi, ha⟩ := mem_skips.mp hv
    exact ⟨hlo, by omega, ha⟩
  refine ⟨?_, ?_, ?_, ?_, ?_, ?_, ?_⟩
  · intro v hv
    obtain ⟨hlo, hhi, ha⟩ := hmem v hv
    rw [ha, decide_eq_false (Nat.not_le.mpr (hcount _ hlo hhi))]
  · intro v hv
    exact dst_toNat (by have := (hmem v hv).2.1; omega)
  · rw [turns, filter_skips]
    exact (List.append_nil _).symm
  · rw [turns, filter_skips]
    exact Nat.zero_le _
  · intro v hv _
    obtain ⟨hlo, hhi, _⟩ := hmem v hv
    exact if_pos ⟨hlo, hhi⟩
  · intro v hv ha
    rw [(hmem v hv).2.2] at ha
    cases ha
  · intro d hd
    rw [turns, map_dev_skips, List.mem_range'_1] at hd
    exact if_neg (by omega)

/-- Controller `d` is asked, those before it are passed over. -/
theorem selects_some (hn : h.maxDevN ≤ 255) {d : Nat} (hp : polled h = some d) :
    Selects (turns (some d) h) h (pollNext (some d) h).1 := by
  obtain ⟨hlt, hle, hfew, hmany⟩ := polled_some hp
  have hdst : (pollCmd d).dst.toNat = d := dst_toNat (Nat.le_trans hle hn)
  have hmem : ∀ v ∈ turns (some d) h,
      h.gpDst < v.dev ∧ v.dev < d ∧ v.asked = false ∨ v = ⟨d, true⟩ := by
    intro v hv
    rcases List.mem_append.mp hv with hv | hv
    · obtain ⟨hlo, hhi, ha⟩ := mem_skips.mp hv
      exact .inl ⟨hlo, by omega, ha⟩
    · exact .inr (List.mem_singleton.mp hv)
  have hfilter : (turns (some d) h).filter Visit.asked = [⟨d, true⟩] := by
    rw [turns, List.filter_append, filter_skips]
    rfl
  have hdevices : (pollNext (some d) h).1.devices = ((skipTo d h).setDev d fun r =>
      { r with lastSent := tv2ms h.world.now }).devices := by
    have hsend := gpSend_devices (pollCmd d) (skipTo d h)
    rw [hdst] at hsend
    exact hsend
  have hself : (skipTo d h).devices d = h.devices d := if_neg fun hi => Nat.lt_irrefl d hi.2
  refine ⟨?_, ?_, ?_, ?_, ?_, ?_, ?_⟩
  · intro v hv
    rcases hmem v hv with ⟨hlo, hhi, ha⟩ | rfl
    · rw [ha, decide_eq_false (Nat.not_le.mpr (hmany _ hlo hhi))]
    · exact (decide_eq_true hfew).symm
  · intro v hv
    rcases hmem v hv with ⟨_, hhi, _⟩ | rfl
    · exact dst_toNat (by omega)
    · exact hdst
  · rw [hfilter]
    exact gpSend_sends (pollCmd d) (skipTo d h)
  · rw [hfilter]
    exact Nat.le_refl _
  · intro v hv ha
    rcases hmem v hv with ⟨hlo, hhi, _⟩ | rfl
    · rw [hdevices, Host.setDev_devices_ne _ _ (Nat.ne_of_lt hhi)]
      exact if_pos ⟨hlo, hhi⟩
    · cases ha
  · intro v hv ha
    rcases hmem v hv with ⟨_, _, hno⟩ | rfl
    · rw [hno] at ha
      cases ha
    · rw [hdevices, Host.setDev_devices_self, hself]
  · intro i hi
    have hout : ¬ (h.gpDst < i ∧ i < d) ∧ i ≠ d := by
      rw [turns, List.map_append, map_dev_skips, List.mem_append, List.mem_range'_1] at hi
      simp only [List.map_cons, List.map_nil, List.mem_singleton, not_or] at hi
      exact ⟨by omega, hi.2⟩
    rw [hdevices, Host.setDev_devices_ne _ _ hout.2]
    exact if_neg hout.1

theorem gpSendIdle_selects (hn : h.maxDevN ≤ 255) : Selects (visits h) h (gpSendIdle h).1 := by
  rw [visits_eq, gpSendIdle_eq]
  cases hp : polled h with
  | none => exact selects_none hn hp
  | some d => exact selects_some hn hp

/-- A transmission leaves the cursor and the number of controllers alone. -/
theorem gpSend_cursor (z : CmdSend) (h : Host) :
    (gpSend z h).1.gpDst = h.gpDst ∧ (gpSend z h).1.maxDevN = h.maxDevN := by
  obtain ⟨_, _, _, he⟩ := gpSend_rest z h
  rw [he]
  exact ⟨rfl, rfl⟩

theorem gpSendIdle_maxDevN (h : Host) : (gpSendIdle h).1.maxDevN = h.maxDevN := by
  rw [gpSendIdle_eq]
  cases polled h with
  | none => rfl
  | some d => exact (gpSend_cursor (pollCmd d) (skipTo d h)).2

/-- Where the cursor ends. -/
theorem gpSendIdle_gpDst (h : Host) : (gpSendIdle h).1.gpDst = (polled h).getD 0 := by
  rw [gpSendIdle_eq]
  cases polled h with
  | none => rfl
  | some d => exact (gpSend_cursor (pollCmd d) (skipTo d h)).1

theorem wraps_iff (h : Host) : Wraps h ↔ polled h = none := by
  rw [Wraps, gpSendIdle_gpDst]
  cases hp : polled h with
  | none => exact ⟨fun _ => rfl, fun _ => rfl⟩
  | some d =>
    have hlt := (polled_some hp).1
    exact ⟨fun hz => absurd hz (show d ≠ 0 by omega), fun hn => Option.noConfusion rfl (heq_of_eq hn)⟩

end Call

/-! ## Runs -/

/-- What the program does between two calls: anything but moving the cursor or
changing the number of controllers. -/
structure Between where
  run : Host → Host
  keeps : ∀ h, (run h).gpDst = h.gpDst ∧ (run h).maxDevN = h.maxDevN

inductive Call where
  | idle
  | other (f : Between)

def perform (c : Call) (h : Host) : Host :=
  match c with
  | .idle => (gpSendIdle h).1
  | .other f => f.run h

/-- The host, and the turns taken since the cursor last wrapped, if it has. -/
structure Cycle where
  host : Host
  round : Option (List Visit)

instance (h : Host) : Decidable (Wraps h) := inferInstanceAs (Decidable (_ = _))

def step (c : Call) (s : Cycle) : Cycle :=
  { host := perform c s.host
    round :=
      match c with
      | .idle => if Wraps s.host then some [] else s.round.map (· ++ visits s.host)
      | .other _ => s.round }

def start (h : Host) : Cycle := { host := h, round := none }

/-- A call ends however many turns it is given beyond `max_dev_n`, does with the
controllers it visits what it should, and if it ends a round has with the calls
since the last wrap visited every controller once, in increasing order. -/
structure Polls (s : Cycle) : Prop where
  ends : ∀ n, s.host.maxDevN < n → gpSendIdleLoop n s.host = gpSendIdle s.host
  selects : Selects (visits s.host) s.host (gpSendIdle s.host).1
  complete : Wraps s.host → ∀ vs, s.round = some vs →
    (vs ++ visits s.host).map Visit.dev = List.range' 1 s.host.maxDevN

def PollsInTurn (c : Call) (s : Cycle) : Prop :=
  match c with
  | .idle => Polls s
  | .other _ => True

/-- The round so far is the controllers up to the cursor. -/
structure InRound (s : Cycle) : Prop where
  few : s.host.maxDevN ≤ 255
  cursor : ∀ vs, s.round = some vs → s.host.gpDst ≤ s.host.maxDevN ∧
    vs.map Visit.dev = List.range' 1 s.host.gpDst

theorem range'_one_append {a b : Nat} (hab : a ≤ b) :
    List.range' 1 a ++ List.range' (a + 1) (b - a) = List.range' 1 b := by
  rw [Nat.add_comm a 1, List.range'_append_1, Nat.add_sub_of_le hab]

theorem map_dev_turns {d : Nat} {h : Host} (hlt : h.gpDst < d) :
    (turns (some d) h).map Visit.dev = List.range' (h.gpDst + 1) (d - h.gpDst) := by
  have hlen : d - h.gpDst = d - (h.gpDst + 1) + 1 := by omega
  have hlast : h.gpDst + 1 + (d - (h.gpDst + 1)) = d := by omega
  rw [turns, List.map_append, map_dev_skips, hlen, List.range'_1_concat, hlast]
  rfl

theorem step_inRound (c : Call) (s : Cycle) (hs : InRound s) : InRound (step c s) := by
  cases c with
  | other f =>
    obtain ⟨hdst, hmax⟩ := f.keeps s.host
    refine ⟨hmax ▸ hs.few, ?_⟩
    intro vs hvs
    obtain ⟨hle, hdev⟩ := hs.cursor vs hvs
    exact ⟨hdst ▸ hmax ▸ hle, hdst ▸ hdev⟩
  | idle =>
    have hmax : (step .idle s).host.maxDevN = s.host.maxDevN := gpSendIdle_maxDevN s.host
    have hdst : (step .idle s).host.gpDst = (polled s.host).getD 0 := gpSendIdle_gpDst s.host
    refine ⟨hmax ▸ hs.few, ?_⟩
    intro vs hvs
    rw [hmax, hdst]
    cases hp : polled s.host with
    | none =>
      have hround : (step .idle s).round = some [] := if_pos ((wraps_iff _).mpr hp)
      rw [hround] at hvs
      cases hvs
      exact ⟨Nat.zero_le _, rfl⟩
    | some d =>
      have hround : (step .idle s).round = s.round.map (· ++ visits s.host) :=
        if_neg (fun hw => by rw [(wraps_iff _).mp hw] at hp; cases hp)
      rw [hround] at hvs
      obtain ⟨vs0, hvs0, rfl⟩ := Option.map_eq_some_iff.mp hvs
      obtain ⟨_, hdev⟩ := hs.cursor vs0 hvs0
      obtain ⟨hlt, hle, _⟩ := polled_some hp
      refine ⟨hle, ?_⟩
      rw [List.map_append, hdev, visits_eq, hp, map_dev_turns hlt]
      exact range'_one_append (Nat.le_of_lt hlt)

theorem polls_of_inRound {s : Cycle} (hs : InRound s) : Polls s := by
  refine ⟨?_, gpSendIdle_selects hs.few, ?_⟩
  · intro n hn
    rw [gpSendIdle_eq]
    exact gpSendIdleLoop_eq n s.host (by omega)
  · intro hw vs hvs
    obtain ⟨hle, hdev⟩ := hs.cursor vs hvs
    rw [List.map_append, hdev, visits_eq, (wraps_iff _).mp hw, turns, map_dev_skips]
    exact range'_one_append hle

/-- **Polling is a complete round robin.** From any host with at most 255
controllers, in every run of calls of `gp_send_idle` with anything in between
that leaves the cursor and the number of controllers alone. -/
theorem polling_complete (h : Host) (cs : List Call) (hn : h.maxDevN ≤ 255) :
    Along step PollsInTurn cs (start h) := by
  refine Along.of_invariant (I := InRound) step_inRound ?_ cs ⟨hn, fun _ hvs => nomatch hvs⟩
  intro c s hs
  cases c with
  | idle => exact polls_of_inRound hs
  | other f => trivial

/-- Controller 2 answers nothing and drops out of the second round. -/
theorem polling_complete_dropout :
    Along step PollsInTurn
      [.idle, .other ⟨fun h => h.setDev 2 fun d => { d with timeoutCount := 7 }, fun _ => ⟨rfl, rfl⟩⟩,
        .idle, .idle, .idle, .idle]
      (start { boot workingWorld Db.empty with maxDevN := 3 }) :=
  polling_complete { boot workingWorld Db.empty with maxDevN := 3 } _ (by decide)

/-! ## The events of the adapter -/

/-- The second host comes from the first by calls of `gp_send_idle` and by what
leaves the cursor alone. -/
def Turns (h h' : Host) : Prop := ∃ cs : List Call, run perform cs h = h'

namespace Turns
variable {h h' h'' : Host}

theorem trans (t : Turns h h') (t' : Turns h' h'') : Turns h h'' := by
  obtain ⟨cs, rfl⟩ := t
  obtain ⟨cs', rfl⟩ := t'
  exact ⟨cs ++ cs', run_append cs cs' h⟩

theorem idle (h : Host) : Turns h (gpSendIdle h).1 := ⟨[.idle], rfl⟩

theorem between (hd : h'.gpDst = h.gpDst) (hm : h'.maxDevN = h.maxDevN) : Turns h h' := by
  refine ⟨[.other ⟨fun g => { h' with gpDst := g.gpDst, maxDevN := g.maxDevN },
    fun _ => ⟨rfl, rfl⟩⟩], ?_⟩
  change { h' with gpDst := h.gpDst, maxDevN := h.maxDevN } = h'
  rw [← hd, ← hm]

theorem refl (h : Host) : Turns h h := between rfl rfl

theorem kept (k : Kept h h') : Turns h h' := between k.gpDst k.maxDevN

theorem send (z : CmdSend) (h : Host) : Turns h (gpSend z h).1 :=
  between (gpSend_cursor z h).1 (gpSend_cursor z h).2

theorem putCmd (h : Host) : Turns h (gpPutCmd h).1 := by
  rw [gpPutCmd_eq]
  cases (waiting h).head? with
  | none => exact refl h
  | some z =>
    have hrest : Turns h (dequeued h) := by
      obtain ⟨_, _, he⟩ := dequeued_rest h
      rw [he]
      exact between rfl rfl
    exact hrest.trans (send z _)

theorem reconnect (b : Bool) (h : Host) : Turns h (gpReconnect b h).1 := by
  obtain ⟨_, _, _, he⟩ := gpReconnect_rest b h
  rw [he]
  exact between rfl rfl

theorem reply (m : ReceivMess) (h : Host) : Turns h (processPortInput m h).1 := by
  obtain ⟨h', q, _, he⟩ := processPortInput_handles m h
  rw [he]
  cases chained m h with
  | none => exact kept q.kept
  | some z => exact (kept q.kept).trans (send z h')

theorem timeout (h : Host) : Turns h (receivTimeout h) := by
  have hcharge : ∀ g, Turns g (charge g) := by
    intro g
    unfold charge
    split
    · exact between rfl rfl
    · exact refl g
  have hnext : ∀ g, Turns g (sendNext g) := by
    intro g
    unfold sendNext
    simp only
    split
    · exact putCmd g
    · exact (putCmd g).trans (idle _)
  rw [receivTimeout_eq]
  split
  · exact (reconnect false h).trans ((hcharge _).trans (hnext _))
  · exact reconnect false h

theorem alive (h : Host) : Turns h (receivAlive h) := by
  have hmark : Turns h ({ h with
      sendMess := { h.sendMess with isExpected := false } }.setDev h.sendMess.dev.toNat fun d =>
        { d with lastRead := tv2ms h.world.now, activ := true, timeoutCount := 0 }) :=
    between rfl rfl
  unfold receivAlive
  simp only
  split
  · exact hmark
  · refine hmark.trans ?_
    obtain ⟨h', q, he⟩ := gpDevInit_quiet h.sendMess.dev.toNat
      ({ h with sendMess := { h.sendMess with isExpected := false } }.setDev h.sendMess.dev.toNat
        fun d => { d with lastRead := tv2ms h.world.now, activ := true, timeoutCount := 0 })
    change Turns _ (gpDevInit h.sendMess.dev.toNat _)
    rw [he]
    exact (kept q.kept).trans (between rfl rfl)

theorem dispatched (m : ReceivMess) (k : RxKind) (h : Host) : Turns h (dispatch m k h) := by
  have hclose : ∀ g, Turns g (gpClose g) := fun g => between rfl rfl
  cases k with
  | readError => exact (hclose h).trans (putCmd _)
  | eof => exact (send _ h).trans (hclose _)
  | noBegin => exact reconnect false h
  | incomplete => exact refl h
  | crcError => exact refl h
  | deviceError => exact refl h
  | nack => exact putCmd h
  | ack => exact (reply m h).trans (putCmd _)
  | reply =>
    refine (reply m h).trans ?_
    unfold dispatch
    simp only
    split
    · exact refl _
    · exact putCmd _

end Turns

/-- Every event of the port moves the cursor by calls of `gp_send_idle` alone. -/
theorem gpReceiv_turns (e : PortEvent) (g : Gate) : Turns g.host (gpReceiv e g).host := by
  cases e with
  | timeout => exact Turns.timeout g.host
  | read r => exact (Turns.alive g.host).trans (Turns.dispatched ..)

end Libgate.RoundRobin
