import Libgate.Conversations
import Libgate.TimeoutAccounting

/-! A controller that gives no answer. Each poll of it is outstanding until the
timer charges it, and the poll cycle passes over a controller that has been
charged too often; so whatever goes on with the others, it is polled a few
times more and then left alone. -/

namespace Libgate.SilentControllers
open Lib DbLayer Send Target Receiver Layer HostFrame Handlers Transmit LineSteps Calls
open TimeoutAccounting (expects)
open Conversations (Stocked stocked boot_stocked SendsOnly)

/-! ## Polls -/

/-- A poll of the controller; the poll cycle alone gives its handler. -/
def isPoll (d : Nat) (z : CmdSend) : Bool :=
  z.evHandler = .cbGetPollResult && z.dst.toNat = d

/-- The polls of the controller so far. -/
def pollsTo (d : Nat) (h : Host) : Nat := (sends h).countP (isPoll d)

theorem not_poll_queueable {z : CmdSend} (hz : Queueable z) (d : Nat) : isPoll d z = false := by
  rcases hz.handler with hn | ⟨hn, _⟩
  · rw [isPoll, hn]
    rfl
  · rw [isPoll, hn]
    rfl

theorem not_poll_chained {m : ReceivMess} {h : Host} {z : CmdSend} (hz : chained m h = some z)
    (d : Nat) : isPoll d z = false := by
  have hnull : z.evHandler = .null := by
    unfold chained at hz
    split at hz
    · cases hz
    · split at hz
      · obtain rfl := Option.some.inj hz
        rfl
      · cases hz
    · split at hz
      · simp only at hz
        split at hz
        · cases hz
        · obtain rfl := Option.some.inj hz
          rfl
      · split at hz
        · obtain rfl := Option.some.inj hz
          rfl
        · cases hz
  rw [isPoll, hnull]
  rfl

theorem isPoll_pollCmd {d n : Nat} (hn : n ≤ 255) (hp : isPoll d (pollCmd n) = true) : n = d := by
  have hdst : (UInt8.ofNat n).toNat = d := of_decide_eq_true (Bool.and_eq_true _ _ ▸ hp).2
  rw [UInt8.toNat_ofNat'] at hdst
  omega

/-- The second host is the first after some transmissions that do not poll the controller. -/
abbrev NoPolls (d : Nat) : Host → Host → Prop := SendsOnly fun z => isPoll d z = false

theorem putCmd_noPolls {d : Nat} {h : Host} (hw : ∀ z ∈ waiting h, Queueable z) :
    NoPolls d h (gpPutCmd h).1 :=
  SendsOnly.putCmd (fun _ hz => not_poll_queueable hz d) hw

/-- No outcome of a read polls a controller. -/
theorem dispatch_noPolls {d : Nat} {m : ReceivMess} {k : RxKind} {h : Host} (hs : Stocked h)
    (hsrc : k.isInput = true → m.src = h.sendMess.dev) : NoPolls d h (dispatch m k h) :=
  SendsOnly.dispatch (fun _ hz => not_poll_queueable hz d) (fun _ => rfl)
    (fun hk => ⟨hsrc hk, fun _ hz => not_poll_chained hz d⟩) hs

/-! ## What is owed -/

/-- After `p` polls and with `t` charges to the controller: each poll since is
charged or outstanding, and there have been none or few. -/
structure Owed (d p t : Nat) (h : Host) : Prop where
  charged : pollsTo d h + t ≤ p + (h.devices d).timeoutCount + (expects h d).toNat
  few : pollsTo d h = p ∨ pollsTo d h + t ≤ p + maxTimeoutCount + 1

section Owing
variable {d p t : Nat} {h h' : Host}

theorem pollsTo_after {zs : List CmdSend} (a : After zs h h') :
    pollsTo d h' = pollsTo d h + zs.countP (isPoll d) := by
  rw [pollsTo, a.sends, List.countP_append]
  rfl

theorem NoPolls.pollsTo (n : NoPolls d h h') : pollsTo d h' = pollsTo d h := by
  obtain ⟨zs, a, hz⟩ := n
  have hnone : zs.countP (isPoll d) = 0 := by
    refine List.countP_eq_zero.mpr ?_
    intro z hm
    rw [hz z hm]
    exact Bool.false_ne_true
  rw [pollsTo_after a, hnone, Nat.add_zero]

theorem NoPolls.timeoutCount (n : NoPolls d h h') :
    (h'.devices d).timeoutCount = (h.devices d).timeoutCount := by
  obtain ⟨_, a, _⟩ := n
  exact a.timeoutCount d

/-- While nothing is expected of the controller, other transmissions owe nothing. -/
theorem Owed.noPolls (o : Owed d p t h) (he : expects h d = false) (n : NoPolls d h h') :
    Owed d p t h' := by
  have hcharged := o.charged
  rw [he] at hcharged
  refine ⟨?_, by rw [n.pollsTo]; exact o.few⟩
  rw [n.pollsTo, n.timeoutCount]
  exact hcharged.trans (Nat.le_add_right _ _)

theorem Owed.same (o : Owed d p t h) (hsends : sends h' = sends h) (hmess : h'.sendMess = h.sendMess)
    (hcount : (h'.devices d).timeoutCount = (h.devices d).timeoutCount) : Owed d p t h' := by
  have hpolls : SilentControllers.pollsTo d h' = SilentControllers.pollsTo d h := by
    rw [SilentControllers.pollsTo, hsends]
    rfl
  have hexp : expects h' d = expects h d := by
    rw [expects, outstanding, hmess]
    rfl
  exact ⟨by rw [hpolls, hcount, hexp]; exact o.charged, by rw [hpolls]; exact o.few⟩

theorem Owed.onlyQueues (o : Owed d p t h) (q : OnlyQueues h h') : Owed d p t h' :=
  o.same q.sends q.sendMess (q.charges d).timeoutCount

theorem expects_false_of_ne (hd : h.sendMess.dev.toNat ≠ d) : expects h d = false := by
  unfold expects outstanding
  split
  · simpa using hd
  · rfl

/-- The timer leaves the cycle as long as it was. -/
theorem maxDevN_charge (h : Host) : (Transmit.charge (gpReconnect false h).1).maxDevN = h.maxDevN := by
  obtain ⟨_, _, _, he⟩ := gpReconnect_rest false h
  rw [he]
  unfold Transmit.charge
  split
  · rfl
  · rfl

theorem expects_charge (d : Nat) (h : Host) : expects (Transmit.charge h) d = false := by
  unfold expects outstanding Transmit.charge
  split
  · rfl
  · simp

/-- The timer turns what is outstanding into a charge. -/
theorem owed_charge (o : Owed d p t h) : Owed d p t (charge h) ∧ expects (charge h) d = false := by
  have hpolls : SilentControllers.pollsTo d (Transmit.charge h) = SilentControllers.pollsTo d h := by
    rw [SilentControllers.pollsTo, (charge_kept h).2.2.2.1]
    rfl
  have hnone := expects_charge d h
  refine ⟨⟨?_, by rw [hpolls]; exact o.few⟩, hnone⟩
  have hcharged := o.charged
  rw [hpolls, hnone]
  by_cases he : expects h d = true
  · have hout : h.sendMess.isExpected = true ∧ h.sendMess.dev.toNat = d := by
      unfold expects outstanding at he
      cases hx : h.sendMess.isExpected with
      | false =>
        rw [hx] at he
        cases he
      | true =>
        rw [hx] at he
        exact ⟨rfl, by simpa using he⟩
    have hcount : ((Transmit.charge h).devices d).timeoutCount = (h.devices d).timeoutCount + 1 := by
      rw [Transmit.charge, if_pos hout.1, ← hout.2, Host.setDev_devices_self]
    rw [he] at hcharged
    rw [hcount]
    exact hcharged
  · have hle : (h.devices d).timeoutCount ≤ ((Transmit.charge h).devices d).timeoutCount := by
      unfold Transmit.charge
      split
      · by_cases hd : d = h.sendMess.dev.toNat
        · rw [hd, Host.setDev_devices_self]
          exact Nat.le_succ _
        · rw [Host.setDev_devices_ne _ _ hd]
      · exact Nat.le_refl _
    rw [Bool.not_eq_true _ |>.mp he] at hcharged
    exact hcharged.trans (Nat.add_le_add_right (Nat.add_le_add_left hle p) 0)

/-- A turn of the poll cycle polls a controller that has not been charged too often. -/
theorem Owed.idle (o : Owed d p t h) (hn : h.maxDevN ≤ 255)
    (hc : pollsTo d h + t ≤ p + (h.devices d).timeoutCount) : Owed d p t (gpSendIdle h).1 := by
  have a := After.idle h
  cases hp : polled h with
  | none =>
    rw [hp] at a
    refine ⟨?_, ?_⟩
    · rw [pollsTo_after a, a.timeoutCount d]
      exact hc.trans (Nat.le_add_right _ _)
    · rw [pollsTo_after a]
      exact o.few
  | some i =>
    rw [hp] at a
    have hpolls : pollsTo d (gpSendIdle h).1 =
        pollsTo d h + [pollCmd i].countP (isPoll d) := pollsTo_after a
    cases hi : isPoll d (pollCmd i) with
    | false =>
      rw [List.countP_singleton, hi, if_neg Bool.false_ne_true, Nat.add_zero] at hpolls
      refine ⟨?_, ?_⟩
      · rw [hpolls, a.timeoutCount d]
        exact hc.trans (Nat.le_add_right _ _)
      · rw [hpolls]
        exact o.few
    | true =>
      obtain ⟨_, hle, hcount, _⟩ := polled_some hp
      obtain rfl := isPoll_pollCmd (hle.trans hn) hi
      rw [List.countP_singleton, hi, if_pos rfl] at hpolls
      have hexp : expects (gpSendIdle h).1 i = true := by
        have hdst : (UInt8.ofNat i).toNat = i := of_decide_eq_true (Bool.and_eq_true _ _ ▸ hi).2
        rw [expects, a.outstanding]
        change (some (UInt8.ofNat i)).map UInt8.toNat == some i
        simp [hdst]
      refine ⟨?_, .inr ?_⟩
      · rw [hpolls, a.timeoutCount i, hexp, Bool.toNat_true]
        omega
      · rw [hpolls]
        omega

theorem Owed.timeout (o : Owed d p t h) (hw : ∀ z ∈ waiting h, Queueable z) (hn : h.maxDevN ≤ 255) :
    Owed d p t (receivTimeout h) := by
  obtain ⟨hmess, _, _, hdev, _, hsends, hwait⟩ := gpReconnect_kept false h
  have hopen : Owed d p t (gpReconnect false h).1 := o.same hsends hmess (by rw [hdev])
  have hmax := maxDevN_charge h
  rw [receivTimeout_eq]
  split
  · obtain ⟨hcharge, hnone⟩ := owed_charge hopen
    have hwait' : ∀ z ∈ waiting (charge (gpReconnect false h).1), Queueable z := by
      rw [(charge_kept _).2.2.2.2, hwait]
      exact hw
    have hput : NoPolls d _ (gpPutCmd (charge (gpReconnect false h).1)).1 := putCmd_noPolls hwait'
    have hafter := hcharge.noPolls hnone hput
    unfold sendNext
    simp only
    split
    · exact hafter
    · refine hafter.idle ?_ ?_
      · rw [maxDevN_putCmd, hmax]
        exact hn
      · rw [hput.pollsTo, hput.timeoutCount]
        have hcharged := hcharge.charged
        rw [hnone] at hcharged
        exact hcharged
  · exact hopen

end Owing

/-! ## Runs -/

/-- The controllers are not enabled, and the controller is not heard. -/
def Unheard (d : Nat) (c : Call) (g : Gate) : Prop :=
  c ≠ .allDevEnable ∧ ((∃ r, c = .receiv (.read r)) → g.host.sendMess.dev.toNat ≠ d)

/-- What a run keeps of the adapter beside what is owed. -/
structure Sound (g : Gate) : Prop where
  stocked : Stocked g.host
  maxDevN : g.host.maxDevN ≤ 255

theorem perform_sound (c : Call) (g : Gate) (s : Sound g) : Sound (perform c g) :=
  ⟨stocked (perform_library c g) s.stocked, (perform_library c g).maxDevN s.maxDevN⟩

theorem read_owed {d p t : Nat} (r : ReadRes) {g : Gate} (s : Sound g)
    (hd : g.host.sendMess.dev.toNat ≠ d) (o : Owed d p t g.host) :
    Owed d p t (gpReceiv (.read r) g).host := by
  have k := receivAlive_heard g.host
  have hdev : (receivAlive g.host).sendMess.dev = g.host.sendMess.dev := by rw [k.sendMess]
  have hnone : expects (receivAlive g.host) d = false :=
    expects_false_of_ne (by rw [hdev]; exact hd)
  have halive : Owed d p t (receivAlive g.host) := by
    have hpolls : pollsTo d (receivAlive g.host) = pollsTo d g.host := by
      rw [pollsTo, k.sends]
      rfl
    have hcharged := o.charged
    rw [expects_false_of_ne hd] at hcharged
    refine ⟨?_, by rw [hpolls]; exact o.few⟩
    rw [hpolls, hnone, (k.others d (Ne.symm hd)).timeoutCount]
    exact hcharged
  have hstocked := stocked (receivAlive_library g.host) s.stocked
  exact halive.noPolls hnone (dispatch_noPolls hstocked fun hk => (receive_src hk).1)

theorem perform_owed {d p t : Nat} (c : Call) {g : Gate} (s : Sound g) (hun : Unheard d c g)
    (o : Owed d p t g.host) : Owed d p t (perform c g).host := by
  rcases call_kinds c with ⟨r, rfl⟩ | rfl | rfl | hc
  · exact read_owed r s (hun.2 ⟨r, rfl⟩) o
  · exact o.timeout s.stocked.waiting s.maxDevN
  · exact absurd rfl hun.1
  · exact o.onlyQueues (perform_onlyQueues hc g)

theorem adapter_sound (mess : ReceivMess) (w : World) (db : Db) (cs : List Call) :
    Sound (run perform cs (adapter mess w db)) :=
  ⟨stocked (adapter_library mess w db cs) (boot_stocked w db),
    (adapter_library mess w db cs).maxDevN (Nat.le_of_ble_eq_true rfl)⟩

/-- **A controller that is silent is left alone.** From any point of any run, while
the controller is not heard and `gp_all_dev_enable` is not called, it is polled
only as often as its charges leave to `max_timeout_count`, and once more. -/
theorem silent_left_alone (mess : ReceivMess) (w : World) (db : Db) (before cs : List Call) (d : Nat)
    (hun : Along perform (Unheard d) cs (run perform before (adapter mess w db))) :
    pollsTo d (run perform (before ++ cs) (adapter mess w db)).host ≤
      pollsTo d (run perform before (adapter mess w db)).host +
        (maxTimeoutCount + 1 -
          ((run perform before (adapter mess w db)).host.devices d).timeoutCount) := by
  rw [run_append]
  have hsound := adapter_sound mess w db before
  generalize run perform before (adapter mess w db) = g at hun hsound ⊢
  have hstart : Owed d (pollsTo d g.host) (g.host.devices d).timeoutCount g.host :=
    ⟨Nat.le_add_right _ _, .inl rfl⟩
  obtain ⟨_, howed⟩ := Along.invariant
    (fun c g' (hg : Sound g' ∧ Owed d (pollsTo d g.host) (g.host.devices d).timeoutCount g'.host)
      hc => ⟨perform_sound c g' hg.1, perform_owed c hg.1 hc hg.2⟩) ⟨hsound, hstart⟩ hun
  rcases howed.few with hsame | hle
  · omega
  · omega

/-- An outside without memory, in which no command ever waits. -/
def noMemory : World := { workingWorld with malloc := fun _ => false }

/-- Nobody answers, and the timer goes off until controller 3 is passed over. -/
theorem silent_passed_over :
    pollsTo 3 (run perform ([] ++ timers 1 60)
        (adapter ReceiverFrames.blankMess noMemory Db.empty)).host ≤
      pollsTo 3 (run perform [] (adapter ReceiverFrames.blankMess noMemory Db.empty)).host +
        (maxTimeoutCount + 1 - ((run perform []
          (adapter ReceiverFrames.blankMess noMemory Db.empty)).host.devices 3).timeoutCount) := by
  refine silent_left_alone _ _ _ [] (timers 1 60) 3 (Along.of_mem ?_ _)
  intro c hc g
  rcases mem_timers hc with ⟨now, rfl⟩ | rfl
  · simp [Unheard]
  · simp [Unheard]

/-- The bound is met: seven polls, the last of them not in the last ten turns. -/
example : [50, 60].map (fun k => pollsTo 3 (run perform (timers 1 k)
    (adapter ReceiverFrames.blankMess noMemory Db.empty)).host) = [6, 7] := by decide +kernel

end Libgate.SilentControllers
