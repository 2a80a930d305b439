import Libgate.CommandQueues

/-! Queueing told exactly: which commands a call of `gp_in_cmd` or of a two-bank
builder appends, to which queue and with which result, for given outcomes of
`malloc`. -/

namespace Libgate.Queueing
open Send HostFrame CommandQueues

/-- The second host is the first after `k` calls of `malloc` and the commands
`zs` queued, and nothing else is different. -/
structure Enqueued (k : Nat) (zs : List CmdSend) (h h' : Host) : Prop where
  rest : ∃ malloc head head2 trace, h' = { h with
    world := { h.world with malloc := malloc }
    gpHead := head
    gpHead2 := head2
    trace := trace }
  malloc : h'.world.malloc = fun n => h.world.malloc (n + k)
  gpHead : h'.gpHead = h.gpHead ++ zs.filter isFirst
  gpHead2 : h'.gpHead2 = h.gpHead2 ++ zs.filter notFirst
  trace : h'.trace = h.trace ++ zs.map Obs.queued

namespace Enqueued
variable {k k' : Nat} {zs zs' : List CmdSend} {h h' h'' : Host}

theorem refl (h : Host) : Enqueued 0 [] h h where
  rest := ⟨_, _, _, _, rfl⟩
  malloc := rfl
  gpHead := (List.append_nil _).symm
  gpHead2 := (List.append_nil _).symm
  trace := (List.append_nil _).symm

theorem trans (q : Enqueued k zs h h') (q' : Enqueued k' zs' h' h'') :
    Enqueued (k + k') (zs ++ zs') h h'' where
  rest := by
    obtain ⟨_, _, _, _, he⟩ := q.rest
    obtain ⟨_, _, _, _, he'⟩ := q'.rest
    exact ⟨_, _, _, _, by rw [he', he]⟩
  malloc := by
    rw [q'.malloc, q.malloc]
    funext n
    exact congrArg h.world.malloc (by omega)
  gpHead := by rw [q'.gpHead, q.gpHead, List.filter_append, List.append_assoc]
  gpHead2 := by rw [q'.gpHead2, q.gpHead2, List.filter_append, List.append_assoc]
  trace := by rw [q'.trace, q.trace, List.map_append, List.append_assoc]

theorem devices (q : Enqueued k zs h h') : h'.devices = h.devices := by
  obtain ⟨_, _, _, _, he⟩ := q.rest
  rw [he]

theorem db (q : Enqueued k zs h h') : h'.db = h.db := by
  obtain ⟨_, _, _, _, he⟩ := q.rest
  rw [he]

theorem maxBoundToken (q : Enqueued k zs h h') : h'.maxBoundToken = h.maxBoundToken := by
  obtain ⟨_, _, _, _, he⟩ := q.rest
  rw [he]

theorem maxDevN (q : Enqueued k zs h h') : h'.maxDevN = h.maxDevN := by
  obtain ⟨_, _, _, _, he⟩ := q.rest
  rw [he]

/-- Commands for the first queue all go there. -/
theorem first (q : Enqueued k zs h h') (hz : ∀ z ∈ zs, isFirst z = true) :
    h'.gpHead = h.gpHead ++ zs ∧ h'.gpHead2 = h.gpHead2 := by
  have hnone : zs.filter notFirst = [] := by
    refine List.filter_eq_nil_iff.mpr ?_
    intro z hm
    rw [notFirst, hz z hm]
    exact Bool.false_ne_true
  rw [q.gpHead, q.gpHead2, List.filter_eq_self.mpr hz, hnone]
  exact ⟨rfl, List.append_nil _⟩

/-- Others all go to the second. -/
theorem second (q : Enqueued k zs h h') (hz : ∀ z ∈ zs, isFirst z = false) :
    h'.gpHead = h.gpHead ∧ h'.gpHead2 = h.gpHead2 ++ zs := by
  have hall : zs.filter notFirst = zs := by
    refine List.filter_eq_self.mpr ?_
    intro z hm
    rw [notFirst, hz z hm]
    rfl
  have hnone : zs.filter isFirst = [] := by
    refine List.filter_eq_nil_iff.mpr ?_
    intro z hm
    rw [hz z hm]
    exact Bool.false_ne_true
  rw [q.gpHead, q.gpHead2, hall, hnone]
  exact ⟨List.append_nil _, rfl⟩

end Enqueued

/-- The commands of one `gp_in_cmd`, given whether `malloc` succeeds. -/
def taken (ok : Bool) (z : CmdSend) : List CmdSend := if ok then [z] else []

theorem mem_taken {ok : Bool} {y z : CmdSend} (hy : y ∈ taken ok z) : y = z := by
  unfold taken at hy
  split at hy
  · exact List.mem_singleton.mp hy
  · cases hy

/-- Its result. -/
def result (ok : Bool) : Int := if ok then 1 else 0

theorem gpInCmd_enqueued (z : CmdSend) (h : Host) :
    Enqueued 1 (taken (h.world.malloc 0) z) h (gpInCmd z h).1 ∧
      (gpInCmd z h).2 = result (h.world.malloc 0) := by
  unfold gpInCmd taken result
  cases hm : h.world.malloc 0 with
  | false =>
    refine ⟨⟨⟨_, _, _, _, rfl⟩, rfl, ?_, ?_, ?_⟩, rfl⟩
    · exact (List.append_nil _).symm
    · exact (List.append_nil _).symm
    · exact (List.append_nil _).symm
  | true =>
    by_cases hq : z.queue = AD_Q_FIRST
    · have hfirst : isFirst z = true := decide_eq_true hq
      have hnot : notFirst z = false := by rw [notFirst, hfirst]; rfl
      simp only [Bool.not_true, Bool.false_eq_true, if_false, if_pos hq, if_true,
        and_true]
      refine ⟨⟨_, _, _, _, rfl⟩, rfl, ?_, ?_, rfl⟩
      · rw [List.filter_cons_of_pos hfirst]; rfl
      · rw [List.filter_cons_of_neg (by rw [hnot]; exact Bool.false_ne_true)]
        exact (List.append_nil _).symm
    · have hfirst : isFirst z = false := decide_eq_false hq
      have hnot : notFirst z = true := by rw [notFirst, hfirst]; rfl
      simp only [Bool.not_true, Bool.false_eq_true, if_false, if_neg hq, if_true,
        and_true]
      refine ⟨⟨_, _, _, _, rfl⟩, rfl, ?_, ?_, rfl⟩
      · rw [List.filter_cons_of_neg (by rw [hfirst]; exact Bool.false_ne_true)]
        exact (List.append_nil _).symm
      · rw [List.filter_cons_of_pos hnot]; rfl

/-- A command for a queue is queued. -/
theorem sendOrQueue_enqueued {z : CmdSend} (hz : z.queue ≠ AD_Q_SHORT) (h : Host) :
    Enqueued 1 (taken (h.world.malloc 0) z) h (sendOrQueue z h).1 ∧
      (sendOrQueue z h).2 = result (h.world.malloc 0) := by
  rw [sendOrQueue, if_neg hz]
  exact gpInCmd_enqueued z h

/-- The commands of a two-bank builder, each bank with its own `malloc`. -/
def takenBoth (ok ok' : Bool) (z : CmdSend) : List CmdSend :=
  taken ok z ++ taken ok' (secondBank z)

theorem mem_takenBoth {ok ok' : Bool} {y z : CmdSend} (hy : y ∈ takenBoth ok ok' z) :
    y = z ∨ y = secondBank z := by
  rcases List.mem_append.mp hy with hy | hy
  · exact .inl (mem_taken hy)
  · exact .inr (mem_taken hy)

theorem bothBanks_enqueued {z : CmdSend} (hz : z.queue ≠ AD_Q_SHORT) (h : Host) :
    Enqueued 2 (takenBoth (h.world.malloc 0) (h.world.malloc 1) z) h (bothBanks z h).1 ∧
      (bothBanks z h).2 = (result (h.world.malloc 0)).lor (result (h.world.malloc 1)) := by
  obtain ⟨q, hr⟩ := sendOrQueue_enqueued hz h
  obtain ⟨q', hr'⟩ := sendOrQueue_enqueued (z := secondBank z) hz (sendOrQueue z h).1
  have hmalloc : (sendOrQueue z h).1.world.malloc 0 = h.world.malloc 1 := by rw [q.malloc]
  rw [hmalloc] at q' hr'
  exact ⟨q.trans q', by rw [← hr, ← hr']; rfl⟩

/-- There is memory for the next `n` commands. -/
def AllocatesNext (n : Nat) (h : Host) : Prop := ∀ i < n, h.world.malloc i = true

theorem AllocatesNext.enqueued {n k : Nat} {zs : List CmdSend} {h h' : Host}
    (ha : AllocatesNext (k + n) h) (q : Enqueued k zs h h') : AllocatesNext n h' := by
  intro i hi
  rw [q.malloc]
  exact ha (i + k) (by omega)

theorem sendOrQueue_next {h : Host} {n : Nat} (ha : AllocatesNext (1 + n) h) {z : CmdSend}
    (hz : z.queue ≠ AD_Q_SHORT) : Enqueued 1 [z] h (sendOrQueue z h).1 := by
  have q := (sendOrQueue_enqueued hz h).1
  rwa [ha 0 (by omega)] at q

theorem bothBanks_next {h : Host} {n : Nat} (ha : AllocatesNext (2 + n) h) {z : CmdSend}
    (hz : z.queue ≠ AD_Q_SHORT) : Enqueued 2 [z, secondBank z] h (bothBanks z h).1 := by
  have q := (bothBanks_enqueued hz h).1
  rwa [ha 0 (by omega), ha 1 (by omega)] at q

/-- Memory for every command still to come. -/
def Allocates (h : Host) : Prop := ∀ n, h.world.malloc n = true

theorem Allocates.next {h : Host} (ha : Allocates h) (n : Nat) : AllocatesNext n h :=
  fun i _ => ha i

end Libgate.Queueing
