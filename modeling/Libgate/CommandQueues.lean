import Libgate.Transmit
import Libgate.Lib.Fifo

/-! The two command queues over a whole run. `gp_in_cmd` and `gp_put_cmd` may be
called in any order, also from the reply handlers and `gp_dev_init`, with
anything in between that leaves the queues alone. The lists `gp_head` and
`gp_head2` simulate a pair of queue histories, and every event of the adapter is
a run of such calls. -/

namespace Libgate.CommandQueues
open Lib Send Processor Receiver Layer HostFrame Handlers Transmit

/-! ## Calls -/

/-- What the program does besides the two calls. -/
structure Elsewhere where
  run : Host → Host
  keeps : ∀ h, (run h).gpHead = h.gpHead ∧ (run h).gpHead2 = h.gpHead2

inductive Call where
  | inCmd (z : CmdSend)
  | putCmd
  | other (f : Elsewhere)

/-- `gp_queue_init` -/
def gpQueueInit (h : Host) : Host := { h with gpHead := [], gpHead2 := [] }

/-- The host, the commands `gp_in_cmd` has taken, and those `gp_put_cmd` has
passed to `gp_send`. -/
structure Ledger where
  host : Host
  queued : List CmdSend
  sent : List CmdSend

def perform (c : Call) (h : Host) : Host :=
  match c with
  | .inCmd z => (gpInCmd z h).1
  | .putCmd => (gpPutCmd h).1
  | .other f => f.run h

def step (c : Call) (s : Ledger) : Ledger :=
  let h := perform c s.host
  match c with
  | .inCmd z => { s with host := h, queued := if (gpInCmd z s.host).2 = 1 then s.queued ++ [z] else s.queued }
  | .putCmd => { s with host := h, sent := s.sent ++ (sends h).drop (sends s.host).length }
  | .other _ => { s with host := h }

def start (h : Host) : Ledger := { host := gpQueueInit h, queued := [], sent := [] }

/-- The command belongs to `gp_head`. -/
def isFirst (z : CmdSend) : Bool := decide (z.queue = AD_Q_FIRST)

def notFirst (z : CmdSend) : Bool := !isFirst z

/-! ## The simulation -/

/-- The queues hold what waits in the histories of the two classes. -/
structure Simulates (s : Ledger) (q : Priority CmdSend) : Prop where
  gpHead : s.host.gpHead = q.first.waiting
  gpHead2 : s.host.gpHead2 = q.second.waiting
  queuedFirst : s.queued.filter isFirst = q.first.arrived
  queuedSecond : s.queued.filter notFirst = q.second.arrived
  sentFirst : s.sent.filter isFirst = q.first.served
  sentSecond : s.sent.filter notFirst = q.second.served

theorem start_simulates (h : Host) : Simulates (start h) Priority.empty :=
  ⟨rfl, rfl, rfl, rfl, rfl, rfl⟩

/-- A command taken is at the end of the queue of its class. -/
theorem gpInCmd_cases (z : CmdSend) (h : Host) :
    ((gpInCmd z h).2 = 0 ∧ h.world.malloc 0 = false ∧ (gpInCmd z h).1.gpHead = h.gpHead ∧
        (gpInCmd z h).1.gpHead2 = h.gpHead2) ∨
      ((gpInCmd z h).2 = 1 ∧
        (gpInCmd z h).1.gpHead = (if isFirst z then h.gpHead ++ [z] else h.gpHead) ∧
        (gpInCmd z h).1.gpHead2 = if isFirst z then h.gpHead2 else h.gpHead2 ++ [z]) := by
  unfold gpInCmd isFirst
  cases hm : h.world.malloc 0 with
  | false => exact .inl ⟨rfl, rfl, rfl, rfl⟩
  | true =>
    right
    by_cases hq : z.queue = AD_Q_FIRST
    · simp only [Bool.not_true, Bool.false_eq_true, if_false, if_pos hq, decide_eq_true hq, if_true]
      exact ⟨trivial, rfl, rfl⟩
    · simp only [Bool.not_true, Bool.false_eq_true, if_false, if_neg hq, decide_eq_false hq]
      exact ⟨trivial, rfl, rfl⟩

/-- What waits in the first history is of the first class, and so on. -/
theorem Simulates.classes {s : Ledger} {q : Priority CmdSend} (hs : Simulates s q) :
    (∀ z ∈ s.host.gpHead, isFirst z = true) ∧ ∀ z ∈ s.host.gpHead2, isFirst z = false := by
  constructor
  · intro z hz
    rw [hs.gpHead] at hz
    have harr : z ∈ q.first.arrived := List.mem_of_mem_drop hz
    rw [← hs.queuedFirst] at harr
    exact (List.mem_filter.mp harr).2
  · intro z hz
    rw [hs.gpHead2] at hz
    have harr : z ∈ q.second.arrived := List.mem_of_mem_drop hz
    rw [← hs.queuedSecond] at harr
    simpa [notFirst] using (List.mem_filter.mp harr).2

theorem filter_isFirst_append (xs : List CmdSend) (z : CmdSend) :
    (xs ++ [z]).filter isFirst = xs.filter isFirst ++ (if isFirst z then [z] else []) ∧
      (xs ++ [z]).filter notFirst = xs.filter notFirst ++ (if isFirst z then [] else [z]) := by
  rw [List.filter_append, List.filter_append]
  unfold notFirst
  cases hz : isFirst z with
  | true => simp [hz]
  | false => simp [hz]

theorem gpPutCmd_sends (h : Host) : sends (gpPutCmd h).1 = sends h ++ (waiting h).head?.toList := by
  rw [gpPutCmd_eq]
  cases hw : (waiting h).head? with
  | none => exact (List.append_nil _).symm
  | some z =>
    obtain ⟨_, _, he⟩ := dequeued_rest h
    have hsame : sends (dequeued h) = sends h := by rw [he]; rfl
    exact (gpSend_sends z (dequeued h)).trans (by rw [hsame]; rfl)

theorem gpPutCmd_queues (h : Host) :
    (gpPutCmd h).1.gpHead = h.gpHead.tail ∧
      (gpPutCmd h).1.gpHead2 = if h.gpHead = [] then h.gpHead2.tail else h.gpHead2 := by
  rw [gpPutCmd_eq]
  cases hw : (waiting h).head? with
  | none =>
    obtain ⟨hh, hh2⟩ := List.append_eq_nil_iff.mp (List.head?_eq_none_iff.mp hw)
    change h.gpHead = _ ∧ h.gpHead2 = _
    rw [if_pos hh, hh, hh2]
    exact ⟨rfl, rfl⟩
  | some z =>
    obtain ⟨hh, hh2⟩ := dequeued_queues h
    obtain ⟨hs, hs2⟩ := gpSend_queues z (dequeued h)
    exact ⟨hs.trans hh, hs2.trans hh2⟩

theorem sent_putCmd (s : Ledger) :
    (step .putCmd s).sent = s.sent ++ (waiting s.host).head?.toList := by
  change s.sent ++ (sends (gpPutCmd s.host).1).drop (sends s.host).length = _
  rw [gpPutCmd_sends, List.drop_left]

theorem Simulates.waiting_eq {s : Ledger} {q : Priority CmdSend} (hs : Simulates s q) :
    waiting s.host = q.waiting := by
  rw [waiting, hs.gpHead, hs.gpHead2, Priority.waiting]

theorem inCmd_simulates {s : Ledger} {q : Priority CmdSend} (hs : Simulates s q) (z : CmdSend) :
    ∃ q', Simulates (step (.inCmd z) s) q' := by
  rcases gpInCmd_cases z s.host with ⟨hr, _, hh, hh2⟩ | ⟨hr, hh, hh2⟩
  · have hno : (gpInCmd z s.host).2 ≠ 1 := by rw [hr]; decide
    refine ⟨q, hh.trans hs.gpHead, hh2.trans hs.gpHead2, ?_, ?_, hs.sentFirst, hs.sentSecond⟩
    · simp only [step, if_neg hno]
      exact hs.queuedFirst
    · simp only [step, if_neg hno]
      exact hs.queuedSecond
  · have hqueued : (step (.inCmd z) s).queued = s.queued ++ [z] := if_pos hr
    obtain ⟨hfirst, hsecond⟩ := filter_isFirst_append s.queued z
    rw [← hqueued, hs.queuedFirst] at hfirst
    rw [← hqueued, hs.queuedSecond] at hsecond
    rw [hs.gpHead] at hh
    rw [hs.gpHead2] at hh2
    cases hz : isFirst z with
    | true =>
      rw [hz] at hh hh2 hfirst hsecond
      exact ⟨{ q with first := q.first.arrive z }, hh.trans (q.first.waiting_arrive z).symm, hh2,
        hfirst, hsecond.trans (List.append_nil _), hs.sentFirst, hs.sentSecond⟩
    | false =>
      rw [hz] at hh hh2 hfirst hsecond
      exact ⟨{ q with second := q.second.arrive z }, hh, hh2.trans (q.second.waiting_arrive z).symm,
        hfirst.trans (List.append_nil _), hsecond, hs.sentFirst, hs.sentSecond⟩

theorem putCmd_simulates {s : Ledger} {q : Priority CmdSend} (hs : Simulates s q) :
    Simulates (step .putCmd s) q.serve := by
  obtain ⟨hh, hh2⟩ := gpPutCmd_queues s.host
  obtain ⟨hw, hw2⟩ := q.waiting_serve
  obtain ⟨ha, ha2⟩ := q.serve_arrived
  have hsent := sent_putCmd s
  rw [hs.waiting_eq] at hsent
  rw [hs.gpHead] at hh
  rw [hs.gpHead, hs.gpHead2] at hh2
  have hfilter : ∀ p, (step .putCmd s).sent.filter p =
      s.sent.filter p ++ q.waiting.head?.toList.filter p := by
    intro p
    rw [hsent, List.filter_append]
  obtain ⟨hfirst, hsecond⟩ := hs.classes
  rw [hs.gpHead] at hfirst
  rw [hs.gpHead2] at hsecond
  rcases q.serve_spec with ⟨hs1, hs2, hne⟩ | ⟨hs1, hs2, hnil⟩
  · obtain ⟨z, rest, hz⟩ := List.exists_cons_of_ne_nil hne
    have hhead : q.waiting.head?.toList = [z] := by rw [Priority.waiting, hz]; rfl
    have hclass : isFirst z = true := hfirst z (by rw [hz]; exact List.mem_cons_self ..)
    refine ⟨hh.trans hw.symm, hh2.trans hw2.symm, hs.queuedFirst.trans ha.symm,
      hs.queuedSecond.trans ha2.symm, ?_, ?_⟩
    · rw [hfilter, hs1, hs.sentFirst, hhead, List.filter_cons_of_pos hclass]
      rfl
    · rw [hfilter, hs2, hs.sentSecond, hhead, List.filter_cons_of_neg (by simp [notFirst, hclass])]
      exact List.append_nil _
  · have hsub : ∀ z ∈ q.waiting.head?.toList, isFirst z = false := by
      intro z hz
      rw [Priority.waiting, hnil, List.nil_append] at hz
      exact hsecond z (List.mem_of_mem_head? (Option.mem_toList.mp hz))
    refine ⟨hh.trans hw.symm, hh2.trans hw2.symm, hs.queuedFirst.trans ha.symm,
      hs.queuedSecond.trans ha2.symm, ?_, ?_⟩
    · rw [hfilter, hs1, hs.sentFirst, List.filter_eq_nil_iff.mpr fun z hz => by simp [hsub z hz]]
      exact List.append_nil _
    · rw [hfilter, hs2, hs.sentSecond, List.filter_eq_self.mpr fun z hz => by
        simp [notFirst, hsub z hz]]

theorem step_simulates (c : Call) {s : Ledger} {q : Priority CmdSend} (hs : Simulates s q) :
    ∃ q', Simulates (step c s) q' := by
  cases c with
  | inCmd z => exact inCmd_simulates hs z
  | putCmd => exact ⟨q.serve, putCmd_simulates hs⟩
  | other f =>
    obtain ⟨hh, hh2⟩ := f.keeps s.host
    exact ⟨q, hh.trans hs.gpHead, hh2.trans hs.gpHead2, hs.queuedFirst, hs.queuedSecond,
      hs.sentFirst, hs.sentSecond⟩

/-! ## The discipline -/

/-- What is sent of each queue is the start of what was put into it, and nothing
is sent more often than it was put in. -/
structure InOrder (s : Ledger) : Prop where
  first : s.sent.filter isFirst <+: s.queued.filter isFirst
  second : s.sent.filter notFirst <+: s.queued.filter notFirst
  once : s.sent.Subperm s.queued

/-- The demands on one call: the order is kept; a call of `gp_in_cmd` for which
there is memory takes the command; a call of `gp_put_cmd` sends one command
unless none waits, and one of the second queue only when all of the first are
sent. -/
def Disciplined (c : Call) (s : Ledger) : Prop :=
  InOrder (step c s) ∧
    match c with
    | .inCmd z => s.host.world.malloc 0 = true → (step c s).queued = s.queued ++ [z]
    | .putCmd =>
      (waiting s.host = [] → (step c s).sent = s.sent) ∧
        (waiting s.host ≠ [] → ∃ z, (step c s).sent = s.sent ++ [z] ∧
          (isFirst z = false → s.sent.filter isFirst = s.queued.filter isFirst))
    | .other _ => (step c s).sent = s.sent ∧ (step c s).queued = s.queued

theorem Simulates.inOrder {s : Ledger} {q : Priority CmdSend} (hs : Simulates s q) : InOrder s := by
  have hfirst : s.sent.filter isFirst <+: s.queued.filter isFirst := by
    rw [hs.sentFirst, hs.queuedFirst]
    exact q.first.ordered
  have hsecond : s.sent.filter notFirst <+: s.queued.filter notFirst := by
    rw [hs.sentSecond, hs.queuedSecond]
    exact q.second.ordered
  exact ⟨hfirst, hsecond, subperm_of_classes isFirst hfirst hsecond⟩

theorem Simulates.disciplined {s : Ledger} {q : Priority CmdSend} (hs : Simulates s q) (c : Call) :
    Disciplined c s := by
  obtain ⟨q', hs'⟩ := step_simulates c hs
  refine ⟨hs'.inOrder, ?_⟩
  cases c with
  | other f => exact ⟨rfl, rfl⟩
  | inCmd z =>
    intro hm
    rcases gpInCmd_cases z s.host with ⟨_, hno, _⟩ | ⟨hr, _⟩
    · rw [hm] at hno
      cases hno
    · exact if_pos hr
  | putCmd =>
    have hsent := sent_putCmd s
    refine ⟨?_, ?_⟩
    · intro hnil
      rw [hsent, hnil]
      exact List.append_nil _
    · intro hne
      obtain ⟨z, rest, hz⟩ := List.exists_cons_of_ne_nil hne
      refine ⟨z, by rw [hsent, hz]; rfl, ?_⟩
      intro hclass
      obtain ⟨hfirst, _⟩ := hs.classes
      have hempty : s.host.gpHead = [] := by
        cases hq : s.host.gpHead with
        | nil => rfl
        | cons y ys =>
          rw [waiting, hq] at hz
          obtain ⟨rfl, _⟩ := List.cons.inj hz
          rw [hfirst y (hq ▸ List.mem_cons_self ..)] at hclass
          cases hclass
      have hall := q.first.served_append_waiting
      rw [← hs.gpHead, hempty, List.append_nil] at hall
      rw [hs.sentFirst, hs.queuedFirst, hall]

/-- **The queues are served in order, the first before the second, and each
command once**, in every interleaving of `gp_in_cmd` and `gp_put_cmd` with
whatever else the program does. -/
theorem queue_discipline (h : Host) (cs : List Call) : Along step Disciplined cs (start h) := by
  have hrun : ∀ s, (∃ q, Simulates s q) → Along step Disciplined cs s := by
    intro s hs
    refine Along.of_invariant (I := fun s => ∃ q, Simulates s q) ?_ ?_ cs hs
    · intro c s hs
      obtain ⟨q, hq⟩ := hs
      exact step_simulates c hq
    · intro c s hs
      obtain ⟨q, hq⟩ := hs
      exact hq.disciplined c
  exact hrun _ ⟨_, start_simulates h⟩

/-! ## The events of the adapter -/

/-- The second host comes from the first by calls of the two functions and by
what leaves the queues alone. -/
def Interleaved (h h' : Host) : Prop := ∃ cs : List Call, run perform cs h = h'

namespace Interleaved
variable {h h' h'' : Host}

theorem refl (h : Host) : Interleaved h h := ⟨[], rfl⟩

theorem trans (i : Interleaved h h') (i' : Interleaved h' h'') : Interleaved h h'' := by
  obtain ⟨cs, rfl⟩ := i
  obtain ⟨cs', rfl⟩ := i'
  exact ⟨cs ++ cs', run_append cs cs' h⟩

theorem inCmd (z : CmdSend) (h : Host) : Interleaved h (gpInCmd z h).1 := ⟨[.inCmd z], rfl⟩

theorem putCmd (h : Host) : Interleaved h (gpPutCmd h).1 := ⟨[.putCmd], rfl⟩

theorem elsewhere (hh : h'.gpHead = h.gpHead) (hh2 : h'.gpHead2 = h.gpHead2) : Interleaved h h' := by
  refine ⟨[.other ⟨fun g => { h' with gpHead := g.gpHead, gpHead2 := g.gpHead2 }, fun _ => ⟨rfl, rfl⟩⟩], ?_⟩
  change { h' with gpHead := h.gpHead, gpHead2 := h.gpHead2 } = h'
  rw [← hh, ← hh2]

theorem send (z : CmdSend) (h : Host) : Interleaved h (gpSend z h).1 :=
  elsewhere (gpSend_queues z h).1 (gpSend_queues z h).2

theorem quiet (q : Quiet h h') : Interleaved h h' := by
  induction q with
  | refl => exact refl h
  | tail _ s ih =>
    refine ih.trans ?_
    cases s with
    | queue z _ _ => exact inCmd z _
    | note e _ _ => exact elsewhere rfl rfl
    | setDev d f _ _ => exact elsewhere rfl rfl
    | rest => exact elsewhere rfl rfl

theorem reply (m : ReceivMess) (h : Host) : Interleaved h (processPortInput m h).1 := by
  obtain ⟨h', q, _, he⟩ := processPortInput_handles m h
  rw [he]
  cases chained m h with
  | none => exact quiet q
  | some z => exact (quiet q).trans (send z h')

theorem idle (h : Host) : Interleaved h (gpSendIdle h).1 := by
  rw [gpSendIdle_eq]
  cases polled h with
  | none => exact elsewhere rfl rfl
  | some d =>
    have hskip : Interleaved h (skipTo d h) := elsewhere rfl rfl
    exact hskip.trans (send (pollCmd d) _)

theorem reconnect (b : Bool) (h : Host) : Interleaved h (gpReconnect b h).1 := by
  obtain ⟨_, _, _, he⟩ := gpReconnect_rest b h
  rw [he]
  exact elsewhere rfl rfl

theorem devInit (dev : Nat) (h : Host) : Interleaved h (gpDevInit dev h) := by
  obtain ⟨h', q, he⟩ := gpDevInit_quiet dev h
  rw [he]
  exact (quiet q).trans (elsewhere rfl rfl)

theorem alive (h : Host) : Interleaved h (receivAlive h) := by
  have hmark : Interleaved h ({ h with
      sendMess := { h.sendMess with isExpected := false } }.setDev h.sendMess.dev.toNat fun d =>
        { d with lastRead := tv2ms h.world.now, activ := true, timeoutCount := 0 }) :=
    elsewhere rfl rfl
  unfold receivAlive
  simp only
  split
  · exact hmark
  · exact hmark.trans (devInit ..)

theorem timeout (h : Host) : Interleaved h (receivTimeout h) := by
  have hcharge : ∀ g, Interleaved g (charge g) := by
    intro g
    unfold charge
    split
    · exact elsewhere rfl rfl
    · exact refl g
  have hnext : ∀ g, Interleaved g (sendNext g) := by
    intro g
    unfold sendNext
    simp only
    split
    · exact putCmd g
    · exact (putCmd g).trans (idle _)
  rw [receivTimeout_eq]
  split
  · exact (reconnect false h).trans ((hcharge _).trans (hnext _))
  · exact reconnect false h

theorem dispatched (m : ReceivMess) (k : RxKind) (h : Host) : Interleaved h (dispatch m k h) := by
  have hclose : ∀ g, Interleaved g (gpClose g) := fun g => elsewhere rfl rfl
  cases k with
  | readError => exact (hclose h).trans (putCmd _)
  | eof => exact (send _ h).trans (hclose _)
  | noBegin => exact reconnect false h
  | incomplete => exact refl h
  | crcError => exact refl h
  | deviceError => exact refl h
  | nack => exact putCmd h
  | ack => exact (reply m h).trans (putCmd _)
  | reply =>
    refine (reply m h).trans ?_
    unfold dispatch
    simp only
    split
    · exact refl _
    · exact putCmd _

end Interleaved

/-- Every event of the adapter reaches the queues through the two calls alone. -/
theorem gpReceiv_interleaved (e : PortEvent) (g : Gate) :
    Interleaved g.host (gpReceiv e g).host := by
  cases e with
  | timeout => exact Interleaved.timeout g.host
  | read r => exact (Interleaved.alive g.host).trans (Interleaved.dispatched ..)

theorem gpGetDevLogs_interleaved (h : Host) : Interleaved h (gpGetDevLogs h) :=
  Interleaved.quiet (getDevLogsLoop_quiet ..)

theorem gpAllDevEnable_interleaved (h : Host) : Interleaved h (gpAllDevEnable h) :=
  (Interleaved.reconnect false h).trans (Interleaved.elsewhere rfl rfl)

end Libgate.CommandQueues
