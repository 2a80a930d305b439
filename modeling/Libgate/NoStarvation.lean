import Libgate.Calls

/-! No command starves. Each time the line is found free, one waiting command is
handed on, so a command of the first queue goes out after as many turns as stand
before it, and one of the second queue is put off by the commands of the first
only, one turn for each. -/

namespace Libgate.NoStarvation
open Lib DbLayer Send Receiver Layer HostFrame Handlers Transmit LineSteps Calls
open CommandQueues (isFirst gpPutCmd_sends)

/-! ## Turns -/

/-- The timer goes off when the time of the last command is up. -/
def serves (c : Call) (g : Gate) : List Call :=
  match c with
  | .receiv .timeout => if Overdue g.host then [c] else []
  | _ => []

/-- The turns of a run. -/
def turns (cs : List Call) (g : Gate) : Nat := (gather perform serves cs g).length

/-- How many commands of a class have been sent. -/
def sentOf (p : CmdSend → Bool) (h : Host) : Nat := ((sends h).filter p).length

theorem sentOf_mono {p : CmdSend → Bool} {h h' : Host} (hs : sends h <+: sends h') :
    sentOf p h ≤ sentOf p h' := (hs.filter p).length_le

theorem sendNext_sends (h : Host) : sends h ++ (waiting h).head?.toList <+: sends (sendNext h) := by
  have hput := gpPutCmd_sends h
  unfold sendNext
  simp only
  split
  · exact hput ▸ List.prefix_rfl
  · rw [← hput]
    exact (gpSendIdle_steps _).sent

/-- A turn hands the first of the waiting commands on. -/
theorem turn_sends {h : Host} (ho : Overdue h) :
    sends h ++ (waiting h).head?.toList <+: sends (receivTimeout h) := by
  obtain ⟨_, _, _, _, _, hsends, hwait⟩ := gpReconnect_kept false h
  have hnext := sendNext_sends (charge (gpReconnect false h).1)
  rw [(charge_kept _).2.2.2.1, (charge_kept _).2.2.2.2, hsends, hwait] at hnext
  rw [receivTimeout_eq, if_pos ho]
  exact hnext

section Turn
variable {h : Host} (o : InOrder h)
include o

/-- While the first queue is not empty a turn is its own. -/
theorem turn_first (ho : Overdue h) (hne : h.gpHead ≠ []) :
    sentOf isFirst h + 1 ≤ sentOf isFirst (receivTimeout h) := by
  obtain ⟨z, rest, hq⟩ := List.exists_cons_of_ne_nil hne
  have hz : isFirst z = true := o.mem_first (by rw [hq]; exact List.mem_cons_self ..)
  have hhead : (waiting h).head?.toList = [z] := by
    rw [waiting, hq]
    rfl
  have hle := ((turn_sends ho).filter isFirst).length_le
  rw [hhead, List.filter_append, filter_single, hz, if_pos rfl, List.length_append] at hle
  exact hle

/-- While anything waits a turn is for one of the queues. -/
theorem turn_some (ho : Overdue h) (hne : waiting h ≠ []) :
    sentOf isFirst h + sentOf isSecond h + 1 ≤
      sentOf isFirst (receivTimeout h) + sentOf isSecond (receivTimeout h) := by
  have hmono : sends h <+: sends (receivTimeout h) := (receivTimeout_steps h).sent
  by_cases hq : h.gpHead = []
  · have hq2 : h.gpHead2 ≠ [] := by
      intro hn
      exact hne (by rw [waiting, hq, hn]; rfl)
    obtain ⟨z, rest, hq2⟩ := List.exists_cons_of_ne_nil hq2
    have hz : isSecond z = true := o.mem_second (by rw [hq2]; exact List.mem_cons_self ..)
    have hhead : (waiting h).head?.toList = [z] := by
      rw [waiting, hq, hq2]
      rfl
    have hle := ((turn_sends ho).filter isSecond).length_le
    rw [hhead, List.filter_append, filter_single, hz, if_pos rfl, List.length_append] at hle
    have hle1 : sentOf isFirst h ≤ sentOf isFirst (receivTimeout h) := sentOf_mono hmono
    have hle2 : sentOf isSecond h + 1 ≤ sentOf isSecond (receivTimeout h) := hle
    omega
  · have hle := turn_first o ho hq
    have hle2 : sentOf isSecond h ≤ sentOf isSecond (receivTimeout h) := sentOf_mono hmono
    omega

end Turn

/-! ## Counting -/

/-- How far the queues of `h` have been served after `k` turns. -/
structure Progress (h : Host) (k : Nat) (h' : Host) : Prop where
  order : InOrder h'
  sent : sends h <+: sends h'
  queued : queueds h <+: queueds h'
  first : sentOf isFirst h + min k h.gpHead.length ≤ sentOf isFirst h'
  second : sentOf isSecond h + h.gpHead2.length ≤ sentOf isSecond h' ∨
    sentOf isFirst h + sentOf isSecond h + k ≤ sentOf isFirst h' + sentOf isSecond h'

/-- What was queued in a class has been sent, or waits. -/
theorem queued_count {h : Host} (o : InOrder h) :
    ((queueds h).filter isFirst).length = sentOf isFirst h + h.gpHead.length ∧
      ((queueds h).filter isSecond).length = sentOf isSecond h + h.gpHead2.length := by
  rw [o.first, o.second, List.length_append, List.length_append]
  exact ⟨rfl, rfl⟩

theorem Progress.keep {h h' h'' : Host} {k : Nat} (p : Progress h k h') (s : Steps library h' h'') :
    Progress h k h'' := by
  have hfirst : sentOf isFirst h' ≤ sentOf isFirst h'' := sentOf_mono s.sent
  have hsecond : sentOf isSecond h' ≤ sentOf isSecond h'' := sentOf_mono s.sent
  obtain ⟨zs, _, hq⟩ := s.added
  refine ⟨s.inOrder library_classed p.order, p.sent.trans s.sent, ?_, p.first.trans hfirst, ?_⟩
  · rw [hq]
    exact p.queued.trans (List.prefix_append ..)
  · rcases p.second with hs | hs
    · exact .inl (hs.trans hsecond)
    · exact .inr (hs.trans (Nat.add_le_add hfirst hsecond))

theorem Progress.turn {h h' : Host} {k : Nat} (o : InOrder h) (p : Progress h k h')
    (ho : Overdue h') : Progress h (k + 1) (receivTimeout h') := by
  have hkeep := p.keep ((receivTimeout_steps h').mono ordinary_within)
  have hcount := queued_count o
  have hcount' := queued_count p.order
  have hall := (p.queued.filter isFirst).length_le
  have hall2 := (p.queued.filter isSecond).length_le
  refine ⟨hkeep.order, hkeep.sent, hkeep.queued, ?_, ?_⟩
  · by_cases hq : h'.gpHead = []
    · -- all that was queued in the class has been sent
      rw [hq, List.length_nil] at hcount'
      have hle := hkeep.first
      have hmono : sentOf isFirst h' ≤ sentOf isFirst (receivTimeout h') :=
        sentOf_mono (receivTimeout_steps h').sent
      omega
    · have hone := turn_first p.order ho hq
      have hle := p.first
      omega
  · by_cases hw : waiting h' = []
    · have hq2 : h'.gpHead2 = [] := (List.append_eq_nil_iff.mp hw).2
      rw [hq2, List.length_nil] at hcount'
      have hmono : sentOf isSecond h' ≤ sentOf isSecond (receivTimeout h') :=
        sentOf_mono (receivTimeout_steps h').sent
      exact .inl (by omega)
    · have hone := turn_some p.order ho hw
      rcases hkeep.second with hs | _
      · exact .inl hs
      · rcases p.second with hs | hs
        · exact .inl (hs.trans (sentOf_mono (receivTimeout_steps h').sent))
        · exact .inr (by omega)

theorem perform_progress {h : Host} (o : InOrder h) (c : Call) (k : Nat) (g : Gate)
    (p : Progress h k g.host) : Progress h (k + (serves c g).length) (perform c g).host := by
  have hkeep : Progress h k (perform c g).host := p.keep (perform_library c g)
  unfold serves
  split
  · by_cases ho : Overdue g.host
    · rw [if_pos ho]
      exact p.turn o ho
    · rw [if_neg ho]
      exact hkeep
  · exact hkeep

/-! ## Runs -/

/-- After `k` turns the first `k` commands of the first queue have been sent, in
order, and of the second queue as many as there were turns to spare from what was,
or has come, in the first. -/
structure Served (k : Nat) (h h' : Host) : Prop where
  first : (sends h).filter isFirst ++ h.gpHead.take k <+: (sends h').filter isFirst
  second : (sends h).filter isSecond ++ h.gpHead2.take (k - (h.gpHead.length +
      (((queueds h').filter isFirst).length - ((queueds h).filter isFirst).length))) <+:
    (sends h').filter isSecond

theorem Progress.served {h h' : Host} {k : Nat} (o : InOrder h) (p : Progress h k h') :
    Served k h h' := by
  obtain ⟨hcount, hcount2⟩ := queued_count o
  obtain ⟨hcount', hcount2'⟩ := queued_count p.order
  have htaken : ∀ (q : CmdSend → Bool) (xs ys : List CmdSend) (n : Nat),
      (queueds h).filter q = (sends h).filter q ++ xs →
      (queueds h').filter q = (sends h').filter q ++ ys →
      sentOf q h + min n xs.length ≤ sentOf q h' →
      (sends h).filter q ++ xs.take n <+: (sends h').filter q := by
    intro q xs ys n hx hy hle
    have hold : (sends h).filter q ++ xs.take n <+: (queueds h').filter q := by
      refine List.IsPrefix.trans ?_ (p.queued.filter q)
      rw [hx]
      exact (List.prefix_append_right_inj _).mpr (List.take_prefix n xs)
    have hnew : (sends h').filter q <+: (queueds h').filter q := by
      rw [hy]
      exact List.prefix_append ..
    refine List.prefix_of_prefix_length_le hold hnew ?_
    rw [List.length_append, List.length_take]
    exact hle
  have hall := (p.queued.filter isFirst).length_le
  refine ⟨htaken _ _ _ _ o.first p.order.first p.first, ?_⟩
  have hmono : sentOf isSecond h ≤ sentOf isSecond h' := sentOf_mono p.sent
  refine htaken _ _ _ _ o.second p.order.second ?_
  rcases p.second with hs | hs
  · omega
  · omega

/-- **No command starves.** From any point of any run, whatever else happens, each
turn serves one command that waits: those of the first queue in order, and those
of the second with the turns the first does not need. -/
theorem no_starvation (mess : ReceivMess) (w : World) (db : Db) (before cs : List Call) :
    Served (turns cs (run perform before (adapter mess w db)))
      (run perform before (adapter mess w db)).host
      (run perform (before ++ cs) (adapter mess w db)).host := by
  rw [run_append]
  have o := adapter_inOrder mess w db before
  generalize run perform before (adapter mess w db) = g at o ⊢
  have hstart : Progress g.host 0 g.host := by
    refine ⟨o, List.prefix_rfl, List.prefix_rfl, ?_, .inr (Nat.le_refl _)⟩
    rw [Nat.zero_min]
    exact Nat.le_refl _
  have hend := @run_gather_invariant Gate Call perform Call serves
    (fun k g' => Progress g.host k g'.host) (perform_progress o) cs 0 g hstart
  rw [Nat.zero_add] at hend
  exact hend.served o

end Libgate.NoStarvation
