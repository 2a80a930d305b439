import Libgate.PollTurns

/-! A controller that gives no answer is given up. Each round of the poll cycle polls
it and the timer charges it for that, until it has been charged too often; the next
round passes over it and marks it off, whatever else goes on. -/

namespace Libgate.DeadControllers
open Lib DbLayer Send Receiver Layer HostFrame Handlers Transmit LineSteps Calls Statics PollTurns
open TimeoutAccounting (expects)
open SilentControllers (Unheard expects_false_of_ne maxDevN_charge noMemory)

/-! ## Charges -/

/-- The charges of the controller, with the one that is on the way. -/
def charged (d : Nat) (h : Host) : Nat := (h.devices d).timeoutCount + (expects h d).toNat

/-- The controller is charged too often and marked off. -/
def GivenUp (d : Nat) (h : Host) : Prop :=
  (h.devices d).activ = false ∧ (h.devices d).timeoutCount > maxTimeoutCount

/-- The controller is not heard, and its turn comes in a cycle of at most `n`. -/
def Dead (d n : Nat) (c : Call) (g : Gate) : Prop :=
  Unheard d c g ∧
    (c = .receiv .timeout → Overdue g.host → d ≤ g.host.maxDevN ∧ g.host.maxDevN ≤ n)

/-- After `k` turns with `t` charges and the cursor at `i`: each round of turns has
brought a charge, and the cursor is on its way to the next. -/
def Fading (d n k t i : Nat) : Prop :=
  k + ahead d n i ≤ (n + 1) * (min t (maxTimeoutCount + 1) + 1)

section Fade
variable {d n k t t' i j : Nat}

theorem Fading.more (f : Fading d n k t i) (ht : t ≤ t') : Fading d n k t' i :=
  Nat.le_trans f (Nat.mul_le_mul_left _ (by omega))

theorem Fading.of_succ (f : Fading d n (k + 1) t i) : Fading d n k t i := by
  unfold Fading at *
  omega

/-- A turn that brings the cursor nearer. -/
theorem Fading.nearer (f : Fading d n k t i) (hj : ahead d n j < ahead d n i) :
    Fading d n (k + 1) t j := by
  unfold Fading at *
  omega

/-- A turn that brings a charge. -/
theorem Fading.charge (f : Fading d n k t i) (hd : 1 ≤ d) (hn : d ≤ n) (ht : t ≤ maxTimeoutCount) :
    Fading d n (k + 1) (t + 1) j := by
  have hpos := ahead_pos (n := n) hd i
  have hnew := ahead_le hn j
  have hmin : min (t + 1) (maxTimeoutCount + 1) = min t (maxTimeoutCount + 1) + 1 := by omega
  unfold Fading at *
  rw [hmin, Nat.mul_succ]
  omega

end Fade

/-! ## Turns -/

/-- What is sent while nothing is expected of the controller takes no charge back. -/
theorem charged_after {d : Nat} {zs : List CmdSend} {h h' : Host} (a : After zs h h') :
    (h.devices d).timeoutCount ≤ charged d h' := by
  rw [← a.timeoutCount d]
  exact Nat.le_add_right _ _

theorem charged_poll {d : Nat} {h h' : Host} (a : After [pollCmd d] h h') (hd : d ≤ 255) :
    charged d h' = (h.devices d).timeoutCount + 1 := by
  have hexp : expects h' d = true := by
    rw [expects, a.outstanding]
    simp [pollCmd, Nat.mod_eq_of_lt (Nat.lt_succ_of_le hd)]
  rw [charged, a.timeoutCount d, hexp]
  rfl

/-- A controller that the cursor passes over is marked off. -/
theorem skipTo_off {d i : Nat} {h : Host} (hlo : h.gpDst < d) (hhi : d < i) :
    ((skipTo i h).devices d).activ = false := by
  simp [skipTo, hlo, hhi]

theorem idle_fading {d n k : Nat} {h : Host} (f : Fading d n k (h.devices d).timeoutCount h.gpDst)
    (hd : 1 ≤ d) (hle : d ≤ h.maxDevN) (hn : h.maxDevN ≤ n) (hbyte : h.maxDevN ≤ 255) :
    GivenUp d (gpSendIdle h).1 ∨
      Fading d n (k + 1) (charged d (gpSendIdle h).1) (gpSendIdle h).1.gpDst := by
  have a := After.idle h
  have hcharged := charged_after (d := d) a
  have hcount := a.timeoutCount d
  cases hpolled : polled h with
  | none =>
    have hidle : (gpSendIdle h).1 = { skipTo (h.maxDevN + 1) h with gpDst := 0 } := by
      rw [gpSendIdle_eq, hpolled]
      rfl
    by_cases hlt : h.gpDst < d
    · have hover := polled_none hpolled d hlt (Nat.lt_succ_of_le hle)
      refine .inl ⟨?_, hcount ▸ hover⟩
      rw [hidle]
      exact skipTo_off hlt (Nat.lt_succ_of_le hle)
    · have hcursor : (gpSendIdle h).1.gpDst = 0 := by rw [hidle]
      refine .inr (Fading.more ?_ hcharged)
      rw [hcursor]
      exact f.nearer (ahead_wrap hd (Nat.le_of_not_lt hlt))
  | some i =>
    obtain ⟨hlt, hi, hfew, hbetween⟩ := polled_some hpolled
    have hidle : (gpSendIdle h).1 = (gpSend (pollCmd i) (skipTo i h)).1 := by
      rw [gpSendIdle_eq, hpolled]
      rfl
    have hcursor : (gpSendIdle h).1.gpDst = i := by
      rw [hidle]
      exact (send_statics (pollCmd i) (skipTo i h)).gpDst
    by_cases heq : i = d
    · subst heq
      rw [hpolled] at a
      refine .inr ?_
      rw [charged_poll a (hle.trans hbyte)]
      exact f.charge hd (hle.trans hn) hfew
    by_cases hskip : h.gpDst < d ∧ d < i
    · refine .inl ⟨?_, hcount ▸ hbetween d hskip.1 hskip.2⟩
      rw [hidle, (gpSend_marks _ _ d).activ]
      exact skipTo_off hskip.1 hskip.2
    · refine .inr (Fading.more ?_ hcharged)
      rw [hcursor]
      exact f.nearer (ahead_next hlt (hi.trans hn) heq hskip)

/-- The timer has just charged what was outstanding. -/
theorem sendNext_fading {d n k : Nat} {h : Host}
    (f : Fading d n k (h.devices d).timeoutCount h.gpDst) (hd : 1 ≤ d) (hle : d ≤ h.maxDevN)
    (hn : h.maxDevN ≤ n) (hbyte : h.maxDevN ≤ 255) :
    GivenUp d (sendNext h) ∨ Fading d n k (charged d (sendNext h)) (sendNext h).gpDst ∧
      (waiting h = [] → Fading d n (k + 1) (charged d (sendNext h)) (sendNext h).gpDst) := by
  have a := After.putCmd h
  have hcursor := (putCmd_statics h).gpDst
  have hmax := maxDevN_putCmd h
  unfold sendNext
  simp only
  split
  · next hput =>
    refine .inr ⟨hcursor ▸ f.more (charged_after a), ?_⟩
    intro hw
    rw [gpPutCmd_none hw] at hput
    exact absurd hput (Int.lt_irrefl 0)
  · have hsame : Fading d n k ((gpPutCmd h).1.devices d).timeoutCount (gpPutCmd h).1.gpDst := by
      rw [a.timeoutCount d, hcursor]
      exact f
    rcases idle_fading hsame hd (hmax ▸ hle) (hmax ▸ hn) (hmax ▸ hbyte) with hup | hmore
    · exact .inl hup
    · exact .inr ⟨hmore.of_succ, fun _ => hmore⟩

theorem timeout_fading {d n k : Nat} {g : Gate}
    (f : Fading d n k (charged d g.host) g.host.gpDst) (hd : 1 ≤ d) (hbyte : g.host.maxDevN ≤ 255)
    (hin : Overdue g.host → d ≤ g.host.maxDevN ∧ g.host.maxDevN ≤ n) :
    GivenUp d (receivTimeout g.host) ∨ Fading d n (k + (polls (.receiv .timeout) g).length)
      (charged d (receivTimeout g.host)) (receivTimeout g.host).gpDst := by
  obtain ⟨t, fd, openPort, he⟩ := gpReconnect_rest false g.host
  have hopen : Fading d n k (charged d (gpReconnect false g.host).1)
      (gpReconnect false g.host).1.gpDst := by
    rw [he]
    exact f
  rw [receivTimeout_eq]
  by_cases ho : Overdue g.host
  · obtain ⟨hle, hn⟩ := hin ho
    rw [if_pos ho]
    have hcharged : Fading d n k ((charge (gpReconnect false g.host).1).devices d).timeoutCount
        (charge (gpReconnect false g.host).1).gpDst := by
      rw [charge_timeoutCount, (charge_statics _).gpDst]
      exact hopen
    have hmax := maxDevN_charge g.host
    have hwait : waiting (charge (gpReconnect false g.host).1) = waiting g.host :=
      (charge_kept _).2.2.2.2.trans (gpReconnect_kept false g.host).2.2.2.2.2.2
    rcases sendNext_fading hcharged hd (hmax ▸ hle) (hmax ▸ hn) (hmax ▸ hbyte) with
      hup | ⟨hsame, hmore⟩
    · exact .inl hup
    · refine .inr ?_
      by_cases hw : waiting g.host = []
      · have hone : polls (.receiv .timeout) g = [.receiv .timeout] := if_pos ⟨ho, hw⟩
        rw [hone]
        exact hmore (hwait.trans hw)
      · have hnone : polls (.receiv .timeout) g = [] := if_neg fun hfree => hw hfree.2
        rw [hnone]
        exact hsame
  · have hnone : polls (.receiv .timeout) g = [] := if_neg fun hfree => ho hfree.1
    rw [if_neg ho, hnone]
    exact .inr hopen

/-! ## Runs -/

/-- Only the timer charges; no other call takes a charge back. -/
theorem perform_charged {d n : Nat} {c : Call} (hc : c ≠ .receiv .timeout) {g : Gate}
    (hdead : Dead d n c g) : charged d g.host ≤ charged d (perform c g).host := by
  rcases call_kinds c with ⟨r, rfl⟩ | rfl | rfl | hask
  · have hdev : g.host.sendMess.dev.toNat ≠ d := hdead.1.2 ⟨r, rfl⟩
    have halive := ((receivAlive_heard g.host).others d (Ne.symm hdev)).timeoutCount
    have hafter : ∃ zs, After zs (receivAlive g.host) (perform (.receiv (.read r)) g).host :=
      After.dispatch ..
    obtain ⟨_, a⟩ := hafter
    have hle := charged_after (d := d) a
    rw [halive] at hle
    rw [charged, expects_false_of_ne hdev]
    exact hle
  · exact absurd rfl hc
  · exact absurd rfl hdead.1.1
  · have q := perform_onlyQueues hask g
    rw [charged, charged, (q.charges d).timeoutCount, expects, expects, outstanding, outstanding,
      q.sendMess]

theorem perform_fading {d n k : Nat} (c : Call) {g : Gate}
    (f : Fading d n k (charged d g.host) g.host.gpDst) (hd : 1 ≤ d) (hbyte : g.host.maxDevN ≤ 255)
    (hdead : Dead d n c g) :
    GivenUp d (perform c g).host ∨ Fading d n (k + (polls c g).length)
      (charged d (perform c g).host) (perform c g).host.gpDst := by
  by_cases hc : c = .receiv .timeout
  · rw [hc] at hdead ⊢
    exact timeout_fading f hd hbyte (hdead.2 rfl)
  · refine .inr ?_
    rw [polls_of_ne hc, perform_gpDst hc g]
    exact f.more (perform_charged hc hdead)

/-- **A dead controller is given up.** From any point of any run, while a controller of
a cycle of at most `n` is not heard and `gp_all_dev_enable` is not called, it is
charged too often and marked off at some moment within
`(max_timeout_count + 2) * (n + 1)` turns that are the poll cycle's. -/
theorem dead_given_up (mess : ReceivMess) (w : World) (db : Db) (before cs : List Call) (d n : Nat)
    (hd : 1 ≤ d) (hdn : d ≤ n)
    (hdead : Along perform (Dead d n) cs (run perform before (adapter mess w db)))
    (hturns : (maxTimeoutCount + 2) * (n + 1) ≤
      pollTurns cs (run perform before (adapter mess w db))) :
    ∃ cs', cs' <+: cs ∧ GivenUp d (run perform (before ++ cs') (adapter mess w db)).host := by
  simp only [run_append]
  have hbyte : (run perform before (adapter mess w db)).host.maxDevN ≤ 255 :=
    (adapter_library mess w db before).maxDevN (Nat.le_of_ble_eq_true rfl)
  generalize run perform before (adapter mess w db) = g at hdead hturns hbyte ⊢
  have hstart : Fading d n 0 (charged d g.host) g.host.gpDst := by
    have hnew := ahead_le hdn g.host.gpDst
    refine (Nat.le_of_eq (Nat.zero_add _)).trans (hnew.trans ?_)
    exact Nat.le_mul_of_pos_right (n + 1) (Nat.succ_pos _)
  have hstep : ∀ c turns g', (g'.host.maxDevN ≤ 255 ∧
        Fading d n (turns : List Call).length (charged d g'.host) g'.host.gpDst) → Dead d n c g' →
      GivenUp d (perform c g').host ∨ (perform c g').host.maxDevN ≤ 255 ∧
        Fading d n (turns ++ polls c g').length (charged d (perform c g').host)
          (perform c g').host.gpDst := by
    intro c turns g' hg hc
    rw [List.length_append]
    rcases perform_fading c hg.2 hd hg.1 hc with hup | hmore
    · exact .inl hup
    · exact .inr ⟨(perform_library c g').maxDevN hg.1, hmore⟩
  have hall := @Along.gather_until Gate Call perform (Dead d n) Call polls
    (fun turns g' => g'.host.maxDevN ≤ 255 ∧
      Fading d n turns.length (charged d g'.host) g'.host.gpDst)
    (fun g' => GivenUp d g'.host) hstep cs [] g ⟨hbyte, hstart⟩ hdead
  rcases hall with hup | ⟨_, hlate⟩
  · exact hup
  · -- so many turns would have brought more charges than count
    have hpos := @ahead_pos d n hd (run perform cs g).host.gpDst
    have hmost : (n + 1) * (min (charged d (run perform cs g).host) (maxTimeoutCount + 1) + 1) ≤
        (n + 1) * (maxTimeoutCount + 2) := Nat.mul_le_mul_left _ (by omega)
    have hfew : pollTurns cs g < (n + 1) * (maxTimeoutCount + 2) :=
      Nat.lt_of_lt_of_le (Nat.lt_add_of_pos_right hpos) (Nat.le_trans hlate hmost)
    rw [Nat.mul_comm] at hturns
    exact absurd hturns (Nat.not_le.mpr hfew)

/-- A cycle of one controller, that nobody hears. -/
theorem one_given_up : ∃ cs', cs' <+: timers 1 16 ∧
    GivenUp 1 (run perform ([.setMaxDev 1] ++ cs')
      (adapter ReceiverFrames.blankMess noMemory Db.empty)).host := by
  have hsilent : Along perform (Unheard 1) (timers 1 16)
      (run perform [.setMaxDev 1] (adapter ReceiverFrames.blankMess noMemory Db.empty)) := by
    refine Along.of_mem ?_ _
    intro c hc g
    rcases mem_timers hc with ⟨now, rfl⟩ | rfl
    · simp [Unheard]
    · simp [Unheard]
  have hcycle : Along perform (fun _ g => 1 ≤ g.host.maxDevN ∧ g.host.maxDevN ≤ 1) (timers 1 16)
      (run perform [.setMaxDev 1] (adapter ReceiverFrames.blankMess noMemory Db.empty)) := by
    decide +kernel
  have hdead : Along perform (Dead 1 1) (timers 1 16)
      (run perform [.setMaxDev 1] (adapter ReceiverFrames.blankMess noMemory Db.empty)) :=
    Along.mono_of_invariant (I := fun _ => True) (fun _ _ _ _ => trivial)
      (fun _ _ _ hc => ⟨hc.1, fun _ _ => hc.2⟩) trivial (hsilent.and hcycle)
  exact dead_given_up _ _ _ [.setMaxDev 1] (timers 1 16) 1 1 (by decide) (by decide) hdead
    (by decide +kernel)

end Libgate.DeadControllers
