import Libgate.SilentControllers
import Libgate.Statics

/-! Turns of the poll cycle. When the timer goes off and no command waits, the turn
is the poll cycle's: its cursor goes on to the next controller that has not been
charged too often. The cursor goes on at no other time, so a controller that is in
the cycle is asked again after at most one round of turns, whatever happens
between them. -/

namespace Libgate.PollTurns
open Lib DbLayer Send Receiver Layer HostFrame Handlers Transmit LineSteps Calls Statics
open TimeoutAccounting (expects)
open SilentControllers (isPoll pollsTo pollsTo_after maxDevN_charge noMemory)

/-! ## Turns -/

/-- The turn is the poll cycle's. -/
def polls (c : Call) (g : Gate) : List Call :=
  match c with
  | .receiv .timeout => if Overdue g.host ∧ waiting g.host = [] then [c] else []
  | _ => []

theorem polls_of_ne {c : Call} (hc : c ≠ .receiv .timeout) (g : Gate) : polls c g = [] := by
  unfold polls
  split
  · exact absurd rfl hc
  · rfl

/-- How many turns of a run are the poll cycle's. -/
def pollTurns (cs : List Call) (g : Gate) : Nat := (gather perform polls cs g).length

/-- When the timer goes off the controller is in a cycle of at most `n`, and not
charged too often, also when the command outstanding is. -/
def InCycle (d n : Nat) (c : Call) (g : Gate) : Prop :=
  c = .receiv .timeout → Overdue g.host → d ≤ g.host.maxDevN ∧ g.host.maxDevN ≤ n ∧
    (g.host.devices d).timeoutCount + (expects g.host d).toNat ≤ maxTimeoutCount

/-! ## The way of the cursor -/

/-- How many turns the cursor at `i` can take to come to `d` in a cycle of `n`. -/
def ahead (d n i : Nat) : Nat := if i < d then d - i else d + max 1 (n + 1 - i)

section Ahead
variable {d n : Nat}

theorem ahead_pos (hd : 1 ≤ d) (i : Nat) : 1 ≤ ahead d n i := by
  unfold ahead
  split
  · omega
  · omega

theorem ahead_le (hn : d ≤ n) (i : Nat) : ahead d n i ≤ n + 1 := by
  unfold ahead
  split
  · omega
  · omega

/-- The cursor comes nearer when it goes on without coming to `d` or past it. -/
theorem ahead_next {i j : Nat} (hij : i < j) (hj : j ≤ n) (hne : j ≠ d) (hpast : ¬ (i < d ∧ d < j)) :
    ahead d n j < ahead d n i := by
  unfold ahead
  by_cases hi : i < d
  · have hjd : j < d := by omega
    rw [if_pos hi, if_pos hjd]
    omega
  · have hjd : ¬ j < d := by omega
    rw [if_neg hi, if_neg hjd]
    omega

/-- So it does at the end of a round. -/
theorem ahead_wrap {i : Nat} (hd : 1 ≤ d) (hi : d ≤ i) : ahead d n 0 < ahead d n i := by
  unfold ahead
  rw [if_pos (show 0 < d from hd), if_neg (Nat.not_lt.mpr hi)]
  omega

end Ahead

/-! ## What a turn is worth -/

/-- After `k` turns since there were `p` polls: each round of turns has brought one,
and the cursor is on its way to the next. -/
def Paced (d n p k : Nat) (h : Host) : Prop :=
  p ≤ pollsTo d h ∧ k + ahead d n h.gpDst ≤ (n + 1) * (pollsTo d h - p + 1)

section Pace
variable {d n p k : Nat} {h h' : Host}

theorem Paced.keep (q : Paced d n p k h) (hcursor : h'.gpDst = h.gpDst)
    (hpolls : pollsTo d h ≤ pollsTo d h') : Paced d n p k h' := by
  refine ⟨q.1.trans hpolls, ?_⟩
  rw [hcursor]
  exact q.2.trans (Nat.mul_le_mul_left _ (by omega))

theorem Paced.of_succ (q : Paced d n p (k + 1) h) : Paced d n p k h :=
  ⟨q.1, Nat.le_trans (by omega) q.2⟩

theorem pollsTo_mono (hs : sends h <+: sends h') : pollsTo d h ≤ pollsTo d h' :=
  hs.sublist.countP_le

theorem isPoll_self (hd : d ≤ 255) : isPoll d (pollCmd d) = true := by
  have hdst : (UInt8.ofNat d).toNat = d := by
    rw [UInt8.toNat_ofNat']
    omega
  rw [isPoll, pollCmd, hdst]
  simp

/-- A turn polls the controller or brings the cursor nearer to it. -/
theorem Paced.idle (q : Paced d n p k h) (hd : 1 ≤ d) (hle : d ≤ h.maxDevN) (hn : h.maxDevN ≤ n)
    (hbyte : h.maxDevN ≤ 255) (hcount : (h.devices d).timeoutCount ≤ maxTimeoutCount) :
    Paced d n p (k + 1) (gpSendIdle h).1 := by
  obtain ⟨hp, hk⟩ := q
  have a := After.idle h
  have hmono : pollsTo d h ≤ pollsTo d (gpSendIdle h).1 := pollsTo_mono (gpSendIdle_steps h).sent
  -- a turn that does not poll the controller
  have hnear : ahead d n (gpSendIdle h).1.gpDst < ahead d n h.gpDst →
      Paced d n p (k + 1) (gpSendIdle h).1 := by
    intro hlt
    have hbound : (n + 1) * (pollsTo d h - p + 1) ≤
        (n + 1) * (pollsTo d (gpSendIdle h).1 - p + 1) := Nat.mul_le_mul_left _ (by omega)
    exact ⟨hp.trans hmono, by omega⟩
  cases hpolled : polled h with
  | none =>
    have hcursor : (gpSendIdle h).1.gpDst = 0 := by
      rw [gpSendIdle_eq, hpolled]
      rfl
    have hpast : d ≤ h.gpDst := by
      by_contra hlt
      have hover := polled_none hpolled d (Nat.lt_of_not_le hlt) (Nat.lt_succ_of_le hle)
      exact absurd hcount (Nat.not_le.mpr hover)
    rw [hcursor] at hnear
    exact hnear (ahead_wrap hd hpast)
  | some i =>
    obtain ⟨hlt, hi, _, hbetween⟩ := polled_some hpolled
    have hcursor : (gpSendIdle h).1.gpDst = i := by
      rw [gpSendIdle_eq, hpolled]
      exact (send_statics (pollCmd i) (skipTo i h)).gpDst
    by_cases heq : i = d
    · rw [hpolled] at a
      have hpolls : pollsTo d (gpSendIdle h).1 = pollsTo d h + 1 := by
        have hone := pollsTo_after (d := d) a
        rw [heq] at hone
        simpa [isPoll_self (hle.trans hbyte)] using hone
      have hpos := @ahead_pos d n hd h.gpDst
      have hnew := ahead_le (hle.trans hn) (gpSendIdle h).1.gpDst
      refine ⟨hp.trans hmono, ?_⟩
      rw [hpolls, show pollsTo d h + 1 - p + 1 = pollsTo d h - p + 1 + 1 by omega, Nat.mul_succ]
      omega
    · have hpast : ¬ (h.gpDst < d ∧ d < i) := by
        intro hskip
        exact absurd hcount (Nat.not_le.mpr (hbetween d hskip.1 hskip.2))
      rw [hcursor] at hnear
      exact hnear (ahead_next hlt (hi.trans hn) heq hpast)

end Pace

/-! ## The timer -/

theorem charge_timeoutCount (d : Nat) (h : Host) :
    ((charge h).devices d).timeoutCount = (h.devices d).timeoutCount + (expects h d).toNat := by
  unfold charge expects outstanding
  split
  · by_cases hd : d = h.sendMess.dev.toNat
    · rw [hd, Host.setDev_devices_self]
      simp
    · rw [Host.setDev_devices_ne _ _ hd]
      simp [Ne.symm hd]
  · rfl

theorem sendNext_paced {d n p k : Nat} {h : Host} (q : Paced d n p k h) (hd : 1 ≤ d)
    (hle : d ≤ h.maxDevN) (hn : h.maxDevN ≤ n) (hbyte : h.maxDevN ≤ 255)
    (hcount : (h.devices d).timeoutCount ≤ maxTimeoutCount) :
    Paced d n p k (sendNext h) ∧ (waiting h = [] → Paced d n p (k + 1) (sendNext h)) := by
  have hput : Paced d n p k (gpPutCmd h).1 :=
    q.keep (putCmd_statics h).gpDst (pollsTo_mono (Steps.putCmd (R := library) trivial h).sent)
  have hidle : Paced d n p (k + 1) (gpSendIdle (gpPutCmd h).1).1 := by
    have hmax := maxDevN_putCmd h
    refine hput.idle hd (hmax ▸ hle) (hmax ▸ hn) (hmax ▸ hbyte) ?_
    rw [(After.putCmd h).timeoutCount d]
    exact hcount
  unfold sendNext
  simp only
  split
  · next hput' =>
    refine ⟨hput, ?_⟩
    intro hw
    rw [gpPutCmd_none hw] at hput'
    exact absurd hput' (Int.lt_irrefl 0)
  · exact ⟨hidle.of_succ, fun _ => hidle⟩

theorem timeout_paced {d n p k : Nat} {g : Gate} (q : Paced d n p k g.host) (hd : 1 ≤ d)
    (hbyte : g.host.maxDevN ≤ 255) (hin : InCycle d n (.receiv .timeout) g) :
    Paced d n p (k + (polls (.receiv .timeout) g).length) (receivTimeout g.host) := by
  obtain ⟨t, fd, openPort, he⟩ := gpReconnect_rest false g.host
  have hopen : Paced d n p k (gpReconnect false g.host).1 := by
    rw [he]
    exact q.keep rfl (Nat.le_refl _)
  rw [receivTimeout_eq]
  by_cases ho : Overdue g.host
  · obtain ⟨hle, hn, hcount⟩ := hin rfl ho
    rw [if_pos ho]
    have hcharged : Paced d n p k (charge (gpReconnect false g.host).1) := by
      refine hopen.keep (charge_statics _).gpDst (pollsTo_mono ?_)
      exact (charge_kept _).2.2.2.1 ▸ List.prefix_rfl
    have hmax := maxDevN_charge g.host
    have hfew : ((charge (gpReconnect false g.host).1).devices d).timeoutCount ≤ maxTimeoutCount := by
      rw [charge_timeoutCount, he]
      exact hcount
    obtain ⟨hsame, hmore⟩ := sendNext_paced hcharged hd (hmax ▸ hle) (hmax ▸ hn) (hmax ▸ hbyte) hfew
    by_cases hw : waiting g.host = []
    · have hone : polls (.receiv .timeout) g = [.receiv .timeout] := if_pos ⟨ho, hw⟩
      rw [hone]
      refine hmore ?_
      rw [(charge_kept _).2.2.2.2, (gpReconnect_kept false g.host).2.2.2.2.2.2]
      exact hw
    · have hnone : polls (.receiv .timeout) g = [] := if_neg fun hfree => hw hfree.2
      rw [hnone]
      exact hsame
  · have hnone : polls (.receiv .timeout) g = [] := if_neg fun hfree => ho hfree.1
    rw [if_neg ho, hnone]
    exact hopen

/-! ## Runs -/

theorem perform_paced {d n p k : Nat} (c : Call) {g : Gate} (q : Paced d n p k g.host) (hd : 1 ≤ d)
    (hbyte : g.host.maxDevN ≤ 255) (hin : InCycle d n c g) :
    Paced d n p (k + (polls c g).length) (perform c g).host := by
  by_cases hc : c = .receiv .timeout
  · rw [hc] at hin ⊢
    exact timeout_paced q hd hbyte hin
  · rw [polls_of_ne hc]
    exact q.keep (perform_gpDst hc g) (pollsTo_mono (perform_library c g).sent)

/-- **Every controller gets its turn.** From any point of any run, while a controller
is in the cycle of at most `n` at each turn, it is polled once at least in every
`n + 1` turns that are the poll cycle's. -/
theorem every_controller_polled (mess : ReceivMess) (w : World) (db : Db) (before cs : List Call)
    (d n : Nat) (hd : 1 ≤ d) (hdn : d ≤ n)
    (hin : Along perform (InCycle d n) cs (run perform before (adapter mess w db))) :
    pollsTo d (run perform before (adapter mess w db)).host +
        pollTurns cs (run perform before (adapter mess w db)) / (n + 1) ≤
      pollsTo d (run perform (before ++ cs) (adapter mess w db)).host := by
  rw [run_append]
  have hbyte : (run perform before (adapter mess w db)).host.maxDevN ≤ 255 :=
    (adapter_library mess w db before).maxDevN (Nat.le_of_ble_eq_true rfl)
  generalize run perform before (adapter mess w db) = g at hin hbyte ⊢
  have hstart : Paced d n (pollsTo d g.host) 0 g.host := by
    refine ⟨Nat.le_refl _, ?_⟩
    rw [Nat.sub_self, Nat.zero_add, Nat.zero_add, Nat.mul_one]
    exact ahead_le hdn _
  have hstep : ∀ c turns g', (g'.host.maxDevN ≤ 255 ∧
        Paced d n (pollsTo d g.host) (turns : List Call).length g'.host) → InCycle d n c g' →
      (perform c g').host.maxDevN ≤ 255 ∧
        Paced d n (pollsTo d g.host) (turns ++ polls c g').length (perform c g').host := by
    intro c turns g' hg hc
    refine ⟨(perform_library c g').maxDevN hg.1, ?_⟩
    rw [List.length_append]
    exact perform_paced c hg.2 hd hg.1 hc
  obtain ⟨_, hmore, hk⟩ := @Along.gather_invariant Gate Call perform (InCycle d n) Call polls
    (fun turns g' => g'.host.maxDevN ≤ 255 ∧ Paced d n (pollsTo d g.host) turns.length g'.host)
    hstep cs [] g ⟨hbyte, hstart⟩ hin
  have hpos := @ahead_pos d n hd (run perform cs g).host.gpDst
  have hfew : pollTurns cs g / (n + 1) < pollsTo d (run perform cs g).host - pollsTo d g.host + 1 :=
    Nat.div_lt_of_lt_mul (Nat.lt_of_lt_of_le (Nat.lt_add_of_pos_right hpos) hk)
  omega

/-- Two controllers, and the timer goes off three times. -/
theorem polled_in_one_round :
    pollsTo 2 (run perform [.setMaxDev 2]
          (adapter ReceiverFrames.blankMess noMemory Db.empty)).host +
        pollTurns (timers 1 3) (run perform [.setMaxDev 2]
          (adapter ReceiverFrames.blankMess noMemory Db.empty)) / (2 + 1) ≤
      pollsTo 2 (run perform ([.setMaxDev 2] ++ timers 1 3)
        (adapter ReceiverFrames.blankMess noMemory Db.empty)).host := by
  have hcycle : Along perform (fun _ g => 2 ≤ g.host.maxDevN ∧ g.host.maxDevN ≤ 2 ∧
        (g.host.devices 2).timeoutCount + (expects g.host 2).toNat ≤ maxTimeoutCount) (timers 1 3)
      (run perform [.setMaxDev 2] (adapter ReceiverFrames.blankMess noMemory Db.empty)) := by
    decide +kernel
  have hin : Along perform (InCycle 2 2) (timers 1 3)
      (run perform [.setMaxDev 2] (adapter ReceiverFrames.blankMess noMemory Db.empty)) :=
    Along.mono_of_invariant (I := fun _ => True) (fun _ _ _ _ => trivial)
      (fun _ _ _ hc _ _ => hc) trivial hcycle
  exact every_controller_polled _ _ _ [.setMaxDev 2] (timers 1 3) 2 2 (by decide) (by decide) hin

end Libgate.PollTurns
