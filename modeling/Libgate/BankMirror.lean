import Libgate.Queueing

/-! The two banks of the token memory. A two-bank builder queues its command for
either bank and or-s the results, so it reports success when one of the two
found no memory. While the two calls of `malloc` go alike, the banks are written
in the same order, in each queue however sending is interleaved, and over both
queues when it starts after the calls. -/

namespace Libgate.BankMirror
open Lib Send Target HostFrame Handlers Transmit CommandQueues Queueing

/-! ## Calls -/

/-- The builders that write both banks, with their arguments. -/
inductive BankWriter where
  | setToken (addr : UInt16) (data : List UInt8) (n : Nat)
  | setTokenBound (addr : UInt16)
  | setTimes (t : List UInt8)
  | setSchedRec (num : Int) (rec : List UInt8) (handler : EvCbFunc)

/-- A call for one of the two queues. -/
structure BankCall where
  writer : BankWriter
  queue : Int
  queued : queue = AD_Q_FIRST ∨ queue = AD_Q_SECOND
  gpDst : Nat

namespace BankCall

def issue (c : BankCall) : Host → Host × Int :=
  match c.writer with
  | .setToken addr data n => adSetToken c.queue c.gpDst addr data n
  | .setTokenBound addr => adSetTokenBound c.queue c.gpDst addr
  | .setTimes t => adSetTimes c.queue c.gpDst t
  | .setSchedRec num rec handler => adSetSchedRec c.queue c.gpDst num rec handler

/-- The command for the first bank. -/
def cmd (c : BankCall) : CmdSend :=
  match c.writer with
  | .setToken addr data n => adSetTokenCmd c.queue c.gpDst addr data n
  | .setTokenBound addr => adSetTokenBoundCmd c.queue c.gpDst addr
  | .setTimes t =>
    adCmd c.queue c.gpDst .setTimes 0x05 (5 + 4) ([0x00, 0xA0, 2, 0x00, 0x00] ++ t)
  | .setSchedRec num rec handler => { adCmd c.queue c.gpDst .setSched 0x05 (5 + 8)
      ([0x00, 0xA0, 8] ++ be16 (UInt16.ofInt (0x0078 + 8 * num)) ++ rec) with evHandler := handler }

theorem issue_eq (c : BankCall) (h : Host) : c.issue h = bothBanks c.cmd h := by
  unfold issue cmd
  cases c.writer with
  | _ => rfl

theorem cmd_queue (c : BankCall) : c.cmd.queue = c.queue := by
  unfold cmd
  cases c.writer with
  | _ => rfl

theorem cmd_bank (c : BankCall) : c.cmd.bank = 0 := by
  unfold cmd
  cases c.writer with
  | _ => rfl

theorem queue_ne_short (c : BankCall) : c.cmd.queue ≠ AD_Q_SHORT := by
  rw [cmd_queue]
  rcases c.queued with hq | hq
  · rw [hq]
    decide
  · rw [hq]
    decide

end BankCall

/-- The queue a call appends to, and the other one. -/
def own (c : BankCall) (h : Host) : List CmdSend := if c.queue = AD_Q_FIRST then h.gpHead else h.gpHead2

def other (c : BankCall) (h : Host) : List CmdSend := if c.queue = AD_Q_FIRST then h.gpHead2 else h.gpHead

/-- A call that returns non-zero has appended a command for the first bank, and
right behind it the same command but for `bank` and the first byte. -/
def AppendsPair (c : BankCall) (h : Host) : Prop :=
  (c.issue h).2 ≠ 0 → other c (c.issue h).1 = other c h ∧ ∃ z : CmdSend, z.bank = 0 ∧
    own c (c.issue h).1 = own c h ++ [z, { z with bank := 1, cmdBuff := z.cmdBuff.set 0 1 }]

/-- Both calls of `malloc` succeed, or both fail. -/
def MallocsAlike (h : Host) : Prop := h.world.malloc 0 = h.world.malloc 1

section OneCall
variable (c : BankCall) (h : Host)

/-- What a call appends: to its own queue what found memory, to the other nothing. -/
theorem issue_queues : own c (c.issue h).1 =
      own c h ++ takenBoth (h.world.malloc 0) (h.world.malloc 1) c.cmd ∧
    other c (c.issue h).1 = other c h := by
  obtain ⟨q, _⟩ := bothBanks_enqueued c.queue_ne_short h
  have hall : ∀ z ∈ takenBoth (h.world.malloc 0) (h.world.malloc 1) c.cmd, z.queue = c.queue := by
    intro z hz
    rcases mem_takenBoth hz with rfl | rfl
    · exact c.cmd_queue
    · exact c.cmd_queue
  rw [c.issue_eq]
  unfold own other
  by_cases hq : c.queue = AD_Q_FIRST
  · rw [if_pos hq, if_pos hq, if_pos hq, if_pos hq]
    exact q.first fun z hz => decide_eq_true ((hall z hz).trans hq)
  · obtain ⟨hhead, hhead2⟩ := q.second fun z hz => decide_eq_false (by rw [hall z hz]; exact hq)
    rw [if_neg hq, if_neg hq, if_neg hq, if_neg hq]
    exact ⟨hhead2, hhead⟩

/-- A call is mirrored exactly when its two calls of `malloc` go alike. -/
theorem appendsPair_iff : AppendsPair c h ↔ MallocsAlike h := by
  obtain ⟨hown, hother⟩ := issue_queues c h
  have hres : (c.issue h).2 = (result (h.world.malloc 0)).lor (result (h.world.malloc 1)) := by
    rw [c.issue_eq]
    exact (bothBanks_enqueued c.queue_ne_short h).2
  unfold AppendsPair MallocsAlike
  rw [hown, hother, hres]
  cases h0 : h.world.malloc 0 with
  | true =>
    cases h1 : h.world.malloc 1 with
    | true => exact ⟨fun _ => rfl, fun _ _ => ⟨rfl, c.cmd, c.cmd_bank, rfl⟩⟩
    | false =>
      refine ⟨?_, fun hn => Bool.noConfusion hn⟩
      intro hpair
      obtain ⟨_, z, _, hz⟩ := hpair (by decide)
      have hlen := congrArg List.length (List.append_cancel_left hz)
      exact absurd hlen (by decide : (1 : Nat) ≠ 2)
  | false =>
    cases h1 : h.world.malloc 1 with
    | true =>
      refine ⟨?_, fun hn => Bool.noConfusion hn⟩
      intro hpair
      obtain ⟨_, z, _, hz⟩ := hpair (by decide)
      have hlen := congrArg List.length (List.append_cancel_left hz)
      exact absurd hlen (by decide : (1 : Nat) ≠ 2)
    | false => exact ⟨fun _ => rfl, fun _ hne => absurd rfl hne⟩

end OneCall

/-! ## Sequences in pairs -/

/-- Each command with its copy for the second bank behind it. -/
def pairs (zs : List CmdSend) : List CmdSend := zs.flatMap fun z => [z, secondBank z]

/-- The writes to the second bank are those to the first, in the same order. -/
def BanksAgree (zs : List CmdSend) : Prop :=
  zs.filter (fun z => z.bank = 1) = (zs.filter fun z => z.bank = 0).map secondBank

theorem pairs_append (xs ys : List CmdSend) : pairs (xs ++ ys) = pairs xs ++ pairs ys :=
  List.flatMap_append ..

theorem pairs_banksAgree {zs : List CmdSend} (hz : ∀ z ∈ zs, z.bank = 0) : BanksAgree (pairs zs) := by
  induction zs with
  | nil => rfl
  | cons z zs ih =>
    have hrest := ih fun y hy => hz y (List.mem_cons_of_mem _ hy)
    have hzero : z.bank = 0 := hz z List.mem_cons_self
    have hone : (secondBank z).bank = 1 := rfl
    have hcons : pairs (z :: zs) = z :: secondBank z :: pairs zs := rfl
    unfold BanksAgree at *
    rw [hcons, List.filter_cons_of_neg (by rw [hzero]; decide), List.filter_cons_of_pos (by rw [hone]; decide),
      List.filter_cons_of_pos (by rw [hzero]; decide), List.filter_cons_of_neg (by rw [hone]; decide),
      hrest, List.map_cons]

theorem mem_pairs {zs : List CmdSend} {p : CmdSend → Bool} (hp : ∀ z, p (secondBank z) = p z)
    (hz : ∀ z ∈ zs, p z = true) : ∀ y ∈ pairs zs, p y = true := by
  intro y hy
  obtain ⟨z, hzs, hy⟩ := List.mem_flatMap.mp hy
  rcases List.mem_cons.mp hy with rfl | hy
  · exact hz y hzs
  · rw [List.mem_singleton.mp hy, hp]
    exact hz z hzs

/-! ## Runs -/

/-- A builder is called, or `gp_put_cmd` is. -/
inductive Event where
  | write (c : BankCall)
  | put

/-- The host, the commands sent from the queues, and whether a builder was
called after one had been sent. -/
structure Bus where
  host : Host
  sent : List CmdSend
  late : Bool

def step (e : Event) (s : Bus) : Bus :=
  match e with
  | .write c => { s with host := (c.issue s.host).1, late := s.late || !s.sent.isEmpty }
  | .put => { s with host := (gpPutCmd s.host).1, sent := s.sent ++ (waiting s.host).head?.toList }

/-- Empty queues. -/
def start (h : Host) : Bus := { host := gpQueueInit h, sent := [], late := false }

/-- The banks agree in what was sent and what waits: in each queue, and over
both when no builder was called after the sending had begun. -/
structure Mirrored (s : Bus) : Prop where
  first : BanksAgree (s.sent.filter isFirst ++ s.host.gpHead)
  second : BanksAgree (s.sent.filter notFirst ++ s.host.gpHead2)
  both : s.late = false → BanksAgree (s.sent ++ waiting s.host)

/-- A call is mirrored, and the banks agree after every event. -/
def KeepsMirror (e : Event) (s : Bus) : Prop :=
  match e with
  | .write c => AppendsPair c s.host ∧ Mirrored (step (.write c) s)
  | .put => Mirrored (step .put s)

/-- A call finds its two calls of `malloc` alike. -/
def Alike (e : Event) (s : Bus) : Prop :=
  match e with
  | .write _ => MallocsAlike s.host
  | .put => True

/-- What was sent and what waits, in pairs. -/
structure InPairs (s : Bus) (xs ys : List CmdSend) : Prop where
  xs_first : ∀ z ∈ xs, z.bank = 0 ∧ isFirst z = true
  ys_second : ∀ z ∈ ys, z.bank = 0 ∧ notFirst z = true
  first : s.sent.filter isFirst ++ s.host.gpHead = pairs xs
  second : s.sent.filter notFirst ++ s.host.gpHead2 = pairs ys
  both : s.late = false → s.sent ++ waiting s.host = pairs xs ++ pairs ys

theorem InPairs.mirrored {s : Bus} {xs ys : List CmdSend} (hp : InPairs s xs ys) : Mirrored s where
  first := hp.first ▸ pairs_banksAgree fun z hz => (hp.xs_first z hz).1
  second := hp.second ▸ pairs_banksAgree fun z hz => (hp.ys_second z hz).1
  both hl := by
    rw [hp.both hl, ← pairs_append]
    refine pairs_banksAgree ?_
    intro z hz
    rcases List.mem_append.mp hz with hz | hz
    · exact (hp.xs_first z hz).1
    · exact (hp.ys_second z hz).1

theorem start_inPairs (h : Host) : InPairs (start h) [] [] where
  xs_first z hz := by cases hz
  ys_second z hz := by cases hz
  first := rfl
  second := rfl
  both _ := rfl

/-- Before anything is sent the pairs are all in the queues. -/
theorem InPairs.unsent {s : Bus} {xs ys : List CmdSend} (hp : InPairs s xs ys) (hs : s.sent = []) :
    s.host.gpHead = pairs xs ∧ s.host.gpHead2 = pairs ys := by
  have hfirst := hp.first
  have hsecond := hp.second
  rw [hs] at hfirst hsecond
  exact ⟨hfirst, hsecond⟩

/-- Pairs added to the first queue. -/
theorem InPairs.add_first {s s' : Bus} {xs ys zs : List CmdSend} (hp : InPairs s xs ys)
    (hz : ∀ z ∈ zs, z.bank = 0 ∧ isFirst z = true) (hs : s'.sent = s.sent)
    (hlate : s'.late = false → s.sent = [])
    (hfirst : s'.host.gpHead = s.host.gpHead ++ pairs zs)
    (hsecond : s'.host.gpHead2 = s.host.gpHead2) : InPairs s' (xs ++ zs) ys where
  xs_first := List.forall_mem_append.mpr ⟨hp.xs_first, hz⟩
  ys_second := hp.ys_second
  first := by rw [hs, hfirst, ← List.append_assoc, hp.first, pairs_append]
  second := by rw [hs, hsecond, hp.second]
  both hl := by
    obtain ⟨hhead, hhead2⟩ := hp.unsent (hlate hl)
    change s'.sent ++ (s'.host.gpHead ++ s'.host.gpHead2) = _
    rw [hs, hlate hl, hfirst, hsecond, pairs_append, ← hhead, ← hhead2]
    rfl

/-- Pairs added to the second. -/
theorem InPairs.add_second {s s' : Bus} {xs ys zs : List CmdSend} (hp : InPairs s xs ys)
    (hz : ∀ z ∈ zs, z.bank = 0 ∧ notFirst z = true) (hs : s'.sent = s.sent)
    (hlate : s'.late = false → s.sent = [])
    (hfirst : s'.host.gpHead = s.host.gpHead)
    (hsecond : s'.host.gpHead2 = s.host.gpHead2 ++ pairs zs) : InPairs s' xs (ys ++ zs) where
  xs_first := hp.xs_first
  ys_second := List.forall_mem_append.mpr ⟨hp.ys_second, hz⟩
  first := by rw [hs, hfirst, hp.first]
  second := by rw [hs, hsecond, ← List.append_assoc, hp.second, pairs_append]
  both hl := by
    obtain ⟨hhead, hhead2⟩ := hp.unsent (hlate hl)
    change s'.sent ++ (s'.host.gpHead ++ s'.host.gpHead2) = _
    rw [hs, hlate hl, hfirst, hsecond, pairs_append, ← hhead, ← hhead2]
    exact (List.append_assoc ..).symm

/-- A mirrored call adds a pair, or nothing, to one of the sequences. -/
theorem write_inPairs (c : BankCall) {s : Bus} {xs ys : List CmdSend} (hp : InPairs s xs ys)
    (ha : MallocsAlike s.host) : ∃ xs' ys', InPairs (step (.write c) s) xs' ys' := by
  obtain ⟨hown, hother⟩ := issue_queues c s.host
  obtain ⟨zs, hz, hzs⟩ : ∃ zs : List CmdSend, (∀ z ∈ zs, z = c.cmd) ∧
      takenBoth (s.host.world.malloc 0) (s.host.world.malloc 1) c.cmd = pairs zs := by
    rw [← ha]
    cases s.host.world.malloc 0 with
    | true => exact ⟨[c.cmd], fun z hz => List.mem_singleton.mp hz, rfl⟩
    | false => exact ⟨[], fun z hz => absurd hz List.not_mem_nil, rfl⟩
  rw [hzs] at hown
  have hlate : (step (.write c) s).late = false → s.sent = [] := by
    intro hl
    obtain ⟨_, hs⟩ := Bool.or_eq_false_iff.mp hl
    rw [Bool.not_eq_false'] at hs
    exact List.isEmpty_iff.mp hs
  by_cases hq : c.queue = AD_Q_FIRST
  · rw [own, if_pos hq, own, if_pos hq] at hown
    rw [other, if_pos hq, other, if_pos hq] at hother
    refine ⟨xs ++ zs, ys, hp.add_first ?_ rfl hlate hown hother⟩
    intro z hm
    rw [hz z hm]
    exact ⟨c.cmd_bank, decide_eq_true (c.cmd_queue.trans hq)⟩
  · rw [own, if_neg hq, own, if_neg hq] at hown
    rw [other, if_neg hq, other, if_neg hq] at hother
    refine ⟨xs, ys ++ zs, hp.add_second ?_ rfl hlate hother hown⟩
    intro z hm
    rw [hz z hm, notFirst, isFirst, c.cmd_queue, decide_eq_false hq]
    exact ⟨c.cmd_bank, rfl⟩

/-- A command sent from the head of its queue leaves what was sent and waits of
that queue as it was. -/
theorem filter_sent {p : CmdSend → Bool} {z : CmdSend} (hz : p z = true)
    (sent rest : List CmdSend) :
    (sent ++ [z]).filter p ++ rest = sent.filter p ++ z :: rest := by
  rw [List.filter_append, List.filter_cons_of_pos hz, List.append_assoc]
  rfl

/-- It does not count for the other queue. -/
theorem filter_sent_other {p : CmdSend → Bool} {z : CmdSend} (hz : ¬ p z = true)
    (sent waits : List CmdSend) : (sent ++ [z]).filter p ++ waits = sent.filter p ++ waits := by
  rw [List.filter_append, List.filter_cons_of_neg hz, List.filter_nil, List.append_nil]

/-- The head of the first queue goes out. -/
theorem InPairs.sent_first {s s' : Bus} {xs ys rest : List CmdSend} {z : CmdSend}
    (hp : InPairs s xs ys) (hz : isFirst z = true) (hg : s.host.gpHead = z :: rest)
    (hs : s'.sent = s.sent ++ [z]) (hl : s'.late = s.late) (hfirst : s'.host.gpHead = rest)
    (hsecond : s'.host.gpHead2 = s.host.gpHead2) : InPairs s' xs ys where
  xs_first := hp.xs_first
  ys_second := hp.ys_second
  first := by
    rw [hs, hfirst, filter_sent hz, ← hg]
    exact hp.first
  second := by
    have hno : ¬ notFirst z = true := by rw [notFirst, hz]; exact Bool.false_ne_true
    rw [hs, hsecond, filter_sent_other hno]
    exact hp.second
  both hlate := by
    have hboth : s.sent ++ (s.host.gpHead ++ s.host.gpHead2) = _ := hp.both (hl.symm.trans hlate)
    change s'.sent ++ (s'.host.gpHead ++ s'.host.gpHead2) = _
    rw [hs, hfirst, hsecond, ← hboth, hg]
    exact List.append_assoc ..

/-- The head of the second queue goes out, the first being empty. -/
theorem InPairs.sent_second {s s' : Bus} {xs ys rest : List CmdSend} {z : CmdSend}
    (hp : InPairs s xs ys) (hz : notFirst z = true) (hg : s.host.gpHead = [])
    (hg2 : s.host.gpHead2 = z :: rest) (hs : s'.sent = s.sent ++ [z]) (hl : s'.late = s.late)
    (hfirst : s'.host.gpHead = []) (hsecond : s'.host.gpHead2 = rest) : InPairs s' xs ys where
  xs_first := hp.xs_first
  ys_second := hp.ys_second
  first := by
    have hno : ¬ isFirst z = true := by
      rw [notFirst, Bool.not_eq_true'] at hz
      rw [hz]
      exact Bool.false_ne_true
    rw [hs, hfirst, filter_sent_other hno, ← hg]
    exact hp.first
  second := by
    rw [hs, hsecond, filter_sent hz, ← hg2]
    exact hp.second
  both hlate := by
    have hboth : s.sent ++ (s.host.gpHead ++ s.host.gpHead2) = _ := hp.both (hl.symm.trans hlate)
    change s'.sent ++ (s'.host.gpHead ++ s'.host.gpHead2) = _
    rw [hs, hfirst, hsecond, ← hboth, hg, hg2]
    exact List.append_assoc ..

/-- Sending moves the first command that waits behind those sent. -/
theorem put_inPairs {s : Bus} {xs ys : List CmdSend} (hp : InPairs s xs ys) :
    InPairs (step .put s) xs ys := by
  obtain ⟨hq1, hq2⟩ := gpPutCmd_queues s.host
  have h1 : (step .put s).host.gpHead = s.host.gpHead.tail := hq1
  have h2 : (step .put s).host.gpHead2 =
      if s.host.gpHead = [] then s.host.gpHead2.tail else s.host.gpHead2 := hq2
  have hsent : (step .put s).sent = s.sent ++ (s.host.gpHead ++ s.host.gpHead2).head?.toList := rfl
  have hxs := mem_pairs (p := isFirst) (fun _ => rfl) fun z hz => (hp.xs_first z hz).2
  have hys := mem_pairs (p := notFirst) (fun _ => rfl) fun z hz => (hp.ys_second z hz).2
  rw [← hp.first] at hxs
  rw [← hp.second] at hys
  cases hg : s.host.gpHead with
  | cons z rest =>
    rw [hg] at h1 h2 hsent hxs
    rw [if_neg (List.cons_ne_nil z rest)] at h2
    exact hp.sent_first (hxs z (List.mem_append_right _ List.mem_cons_self)) hg hsent rfl h1 h2
  | nil =>
    rw [hg] at h1 h2 hsent
    rw [if_pos rfl] at h2
    cases hg2 : s.host.gpHead2 with
    | cons z rest =>
      rw [hg2] at h2 hsent hys
      exact hp.sent_second (hys z (List.mem_append_right _ List.mem_cons_self)) hg hg2 hsent rfl h1 h2
    | nil =>
      rw [hg2] at h2 hsent
      have hsame : (step .put s).sent = s.sent := hsent.trans (List.append_nil _)
      refine ⟨hp.xs_first, hp.ys_second, ?_, ?_, ?_⟩
      · rw [hsame, h1, ← hp.first, hg]
        rfl
      · rw [hsame, h2, ← hp.second, hg2]
        rfl
      · intro hl
        change (step .put s).sent ++ ((step .put s).host.gpHead ++ (step .put s).host.gpHead2) = _
        have hboth : s.sent ++ (s.host.gpHead ++ s.host.gpHead2) = _ := hp.both hl
        rw [hsame, h1, h2, ← hboth, hg, hg2]
        rfl

/-- **The banks are mirrored exactly while the two calls of `malloc` go alike.**
From empty queues, in every run of calls of the two-bank builders and of
`gp_put_cmd`, for any outcomes of `malloc`. -/
theorem banks_mirrored_iff (h : Host) (es : List Event) :
    Along step KeepsMirror es (start h) ↔ Along step Alike es (start h) := by
  refine Along.iff_of_invariant (I := fun s => ∃ xs ys, InPairs s xs ys) ?_ ?_ es
    ⟨[], [], start_inPairs h⟩
  · intro e s hs ha
    obtain ⟨xs, ys, hp⟩ := hs
    cases e with
    | write c => exact write_inPairs c hp ha
    | put => exact ⟨xs, ys, put_inPairs hp⟩
  · intro e s hs
    obtain ⟨xs, ys, hp⟩ := hs
    cases e with
    | put => exact ⟨fun _ => trivial, fun _ => (put_inPairs hp).mirrored⟩
    | write c =>
      constructor
      · intro hk
        exact (appendsPair_iff c s.host).mp hk.1
      · intro ha
        obtain ⟨xs', ys', hp'⟩ := write_inPairs c hp ha
        exact ⟨(appendsPair_iff c s.host).mpr ha, hp'.mirrored⟩

/-- There is memory for the command of the first bank only. -/
def memoryForOne : World := { Layer.workingWorld with malloc := fun n => n == 0 }

/-- A bound is reported as queued and reaches one bank. -/
theorem one_bank_reported : ¬ ∀ h es, Along step KeepsMirror es (start h) := by
  intro hall
  let c : BankCall := ⟨.setTokenBound 0x00C8, AD_Q_SECOND, .inr rfl, 1⟩
  have hpair : AppendsPair c (start (Layer.boot memoryForOne Db.empty)).host :=
    (hall (Layer.boot memoryForOne Db.empty) [.write c]).1.1
  have halike : MallocsAlike (start (Layer.boot memoryForOne Db.empty)).host :=
    (appendsPair_iff c _).mp hpair
  revert halike
  unfold MallocsAlike
  decide

end Libgate.BankMirror
