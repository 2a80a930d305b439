import Libgate.Calls

/-! Each controller is initialised once. The first word of a controller, of
whatever kind, has `gp_dev_init` called for it, and nothing else does, in a run
of any length; so the question about its properties is put to it once, unless
there was no memory for it. -/

namespace Libgate.Initialised
open Lib DbLayer Send Target Receiver Layer HostFrame Handlers Transmit LineSteps Calls
open Processor (processPortInput)
open CommandQueues (isFirst)
open Queueing (Allocates)
open Readings (IsRegs)

/-! ## The question -/

/-- The questions of initialisations queued so far. -/
def hellos (h : Host) : List CmdSend := (queueds h).filter isHello

/-- A read from a controller that is not initialised yet. -/
def Greets (c : Call) (g : Gate) : Prop :=
  (∃ r, c = .receiv (.read r)) ∧ (g.host.devices g.host.sendMess.dev.toNat).isInited = false

/-- The question a call queues: it is the sixth command of the initialisation. -/
def greets (c : Call) (g : Gate) : List CmdSend :=
  match c with
  | .receiv (.read _) =>
    if (g.host.devices g.host.sendMess.dev.toNat).isInited = false ∧
        g.host.world.malloc 5 = true then [helloCmd g.host.sendMess.dev.toNat] else []
  | _ => []

theorem hellos_of_steps {h h' : Host} (s : Steps ordinary h h') : hellos h' = hellos h :=
  Steps.filter_none (R := ordinary) (fun _ hz => hz.2.2) s

/-- A command that is not the question, queued or not. -/
theorem hellos_inCmd {z : CmdSend} (hz : isHello z = false) (h : Host) :
    hellos (gpInCmd z h).1 = hellos h := by
  rw [hellos, queueds_inCmd, List.filter_append]
  split
  · rw [filter_single, hz, if_neg Bool.false_ne_true]
    exact List.append_nil _
  · exact List.append_nil _

theorem hellos_helloCmd (dev : Nat) (h : Host) : hellos (gpInCmd (helloCmd dev) h).1 =
    hellos h ++ if h.world.malloc 0 = true then [helloCmd dev] else [] := by
  rw [hellos, queueds_inCmd, List.filter_append]
  congr 1
  split
  · rfl
  · rfl

theorem receivAlive_hellos (h : Host) : hellos (receivAlive h) = hellos h ++
    if (h.devices h.sendMess.dev.toNat).isInited = false ∧ h.world.malloc 5 = true then
      [helloCmd h.sendMess.dev.toNat] else [] := by
  have hmark : hellos (marked h) = hellos h :=
    hellos_of_steps (Steps.silent trivial (marked_silent h))
  rw [receivAlive_eq]
  cases hi : (h.devices h.sendMess.dev.toNat).isInited with
  | true =>
    rw [if_pos rfl, hmark]
    simp
  | false =>
    obtain ⟨h', hs, hm, hs'⟩ := gpDevInit_steps h.sendMess.dev.toNat (marked h)
    have hmalloc : h'.world.malloc 0 = h.world.malloc 5 := by
      rw [hm, (marked_silent h).malloc]
    rw [if_neg Bool.false_ne_true, hellos_of_steps hs', hellos_helloCmd, hellos_of_steps hs, hmark,
      hmalloc]
    simp

theorem processPortInput_hellos {m : ReceivMess} {h : Host} (hsrc : m.src = h.sendMess.dev) :
    hellos (processPortInput m h).1 = hellos h := by
  by_cases hregs : IsRegs m h
  · have hdoor : hellos (doorQueued m.dev.toNat (m.cmdBuff 20) h) = hellos h := by
      unfold doorQueued
      split
      · rw [hellos_inCmd rfl]
        exact hellos_of_steps (Steps.calm (Calm.note rfl h))
      · rfl
    rw [processPortInput_regs hregs, hellos_of_steps (pollRegs_steps m h)]
    split
    · exact hdoor
    · rfl
  · exact hellos_of_steps (processPortInput_steps hsrc hregs)

/-- **What one call asks.** -/
theorem perform_hellos (c : Call) (g : Gate) :
    hellos (perform c g).host = hellos g.host ++ greets c g := by
  rcases call_cases c with ⟨e, rfl⟩ | ⟨dev, subdev, rfl⟩ | hc
  · cases hm : ReceiverFrames.handed e g with
    | none =>
      rcases gpReceiv_quiet hm with ⟨rfl, hs⟩ | ⟨⟨r, rfl⟩, hs⟩
      · exact (hellos_of_steps hs).trans (List.append_nil _).symm
      · exact (hellos_of_steps hs).trans (receivAlive_hellos g.host)
    | some m =>
      have hsrc : m.src = (receivAlive g.host).sendMess.dev := by
        rw [ReceiverFrames.receivAlive_sendMess]
        exact (handed_src hm).1
      cases e with
      | timeout => cases hm
      | read r =>
        have hrest := (hellos_of_steps (gpReceiv_message hm)).trans (processPortInput_hellos hsrc)
        exact hrest.trans (receivAlive_hellos g.host)
  · exact (hellos_inCmd rfl g.host).trans (List.append_nil _).symm
  · have hnone : greets c g = [] := by
      cases c with
      | receiv e => exact hc.elim
      | _ => rfl
    rw [hnone, List.append_nil, perform_plain hc]
    exact hellos_of_steps (onHost_steps hc g.host)

/-! ## The mark -/

theorem charge_isInited (h : Host) (d : Nat) :
    ((charge h).devices d).isInited = (h.devices d).isInited := by
  unfold charge
  split
  · by_cases hd : d = h.sendMess.dev.toNat
    · rw [hd, Host.setDev_devices_self]
    · rw [Host.setDev_devices_ne _ _ hd]
  · rfl

theorem receivTimeout_isInited (h : Host) (d : Nat) :
    ((receivTimeout h).devices d).isInited = (h.devices d).isInited := by
  have hopen := (After.reconnect false h).isInited d
  rw [receivTimeout_eq]
  split
  · obtain ⟨zs, ha⟩ := After.sendNext (charge (gpReconnect false h).1)
    exact (ha.isInited d).trans ((charge_isInited _ d).trans hopen)
  · exact hopen

/-- A read marks the controller spoken to, and nothing else marks any. -/
theorem perform_isInited (c : Call) (g : Gate) (d : Nat) :
    ((perform c g).host.devices d).isInited = true ↔ (g.host.devices d).isInited = true ∨
      (∃ r, c = .receiv (.read r)) ∧ d = g.host.sendMess.dev.toNat := by
  rcases call_kinds c with ⟨r, rfl⟩ | rfl | rfl | hc
  · obtain ⟨zs, ha⟩ : ∃ zs, After zs (receivAlive g.host) (gpReceiv (.read r) g).host :=
      After.dispatch ..
    have k := receivAlive_heard g.host
    change ((gpReceiv (.read r) g).host.devices d).isInited = true ↔ _
    rw [ha.isInited d]
    by_cases hd : d = g.host.sendMess.dev.toNat
    · rw [hd, k.isInited]
      simp
    · rw [(k.others d hd).isInited]
      simp [hd]
  · change ((receivTimeout g.host).devices d).isInited = true ↔ _
    rw [receivTimeout_isInited]
    simp
  · have hopen := (After.reconnect false g.host).isInited d
    have hsame : ((gpAllDevEnable g.host).devices d).isInited = (g.host.devices d).isInited := by
      change (if 1 ≤ d ∧ d ≤ 255 then _ else _ : GpDev).isInited = _
      split
      · exact hopen
      · exact hopen
    change ((gpAllDevEnable g.host).devices d).isInited = true ↔ _
    rw [hsame]
    simp
  · have hno : ¬ ∃ r, c = .receiv (.read r) := fun ⟨r, hr⟩ => hc.1 (.read r) hr
    rw [((perform_onlyQueues hc g).charges d).isInited]
    simp [hno]

/-! ## Once -/

/-- Nobody has been asked twice, and who has been asked is marked. -/
structure AskedOnce (g : Gate) : Prop where
  once : (hellos g.host).Nodup
  marked : ∀ z ∈ hellos g.host, ∃ d : Nat, d ≤ 255 ∧ z = helloCmd d ∧
    (g.host.devices d).isInited = true

/-- There is always memory, and who is marked has been asked. -/
structure AskedAll (g : Gate) : Prop where
  memory : Allocates g.host
  asked : ∀ d, (g.host.devices d).isInited = true → helloCmd d ∈ hellos g.host

theorem helloCmd_inj {d d' : Nat} (hd : d ≤ 255) (hd' : d' ≤ 255) (he : helloCmd d = helloCmd d') :
    d = d' := by
  have hdst : UInt8.ofNat d = UInt8.ofNat d' := congrArg CmdSend.dst he
  have hval := congrArg UInt8.toNat hdst
  rw [UInt8.toNat_ofNat', UInt8.toNat_ofNat'] at hval
  omega

theorem spoken_le (g : Gate) : g.host.sendMess.dev.toNat ≤ 255 :=
  Nat.le_of_lt_succ (UInt8.toNat_lt _)

theorem mem_greets {c : Call} {g : Gate} {z : CmdSend} (hz : z ∈ greets c g) :
    z = helloCmd g.host.sendMess.dev.toNat ∧ Greets c g := by
  unfold greets at hz
  split at hz
  · split at hz
    · next hi => exact ⟨List.mem_singleton.mp hz, ⟨_, rfl⟩, hi.1⟩
    · cases hz
  · cases hz

theorem greets_nodup (c : Call) (g : Gate) : (greets c g).Nodup := by
  unfold greets
  split
  · split
    · exact List.nodup_singleton _
    · exact List.nodup_nil
  · exact List.nodup_nil

theorem perform_askedOnce (c : Call) {g : Gate} (ao : AskedOnce g) : AskedOnce (perform c g) := by
  refine ⟨?_, ?_⟩
  · rw [perform_hellos]
    refine List.nodup_append.mpr ⟨ao.once, greets_nodup c g, ?_⟩
    intro y hy z hz he
    -- who is asked now is not marked yet
    obtain ⟨hzd, hg⟩ := mem_greets hz
    obtain ⟨d, hd, hyd, hi⟩ := ao.marked y hy
    rw [he, hzd] at hyd
    rw [← helloCmd_inj (spoken_le g) hd hyd, hg.2] at hi
    cases hi
  · intro z hz
    rw [perform_hellos] at hz
    rcases List.mem_append.mp hz with hz | hz
    · obtain ⟨d, hd, he, hi⟩ := ao.marked z hz
      exact ⟨d, hd, he, (perform_isInited c g d).mpr (.inl hi)⟩
    · obtain ⟨hzd, hg⟩ := mem_greets hz
      exact ⟨_, spoken_le g, hzd, (perform_isInited c g _).mpr (.inr ⟨hg.1, rfl⟩)⟩

theorem perform_askedAll (c : Call) {g : Gate} (aa : AskedAll g) : AskedAll (perform c g) := by
  refine ⟨(perform_library c g).allocates aa.memory, ?_⟩
  intro d hi
  rw [perform_hellos]
  rcases (perform_isInited c g d).mp hi with hold | ⟨⟨r, rfl⟩, rfl⟩
  · exact List.mem_append_left _ (aa.asked d hold)
  · cases hb : (g.host.devices g.host.sendMess.dev.toNat).isInited with
    | true => exact List.mem_append_left _ (aa.asked _ hb)
    | false =>
      refine List.mem_append_right _ ?_
      change _ ∈ (if _ ∧ _ then _ else _)
      rw [if_pos ⟨hb, aa.memory 5⟩]
      exact List.mem_singleton_self _

/-! ## Runs -/

theorem gpInit_isInited (h : Host) (d : Nat) :
    ((gpInit h).devices d).isInited = (h.devices d).isInited := by
  have hlogs : ∀ ns g, OnlyQueues g (getDevLogsLoop ns g) :=
    fun ns g => (getDevLogsLoop_steps ns g).onlyQueues (fun _ _ hn => hn) fun hn => hn
  have hset : ∀ (g : Host) (f : GpDev → GpDev), (∀ r, (f r).isInited = r.isInited) →
      ({ g with devices := fun i => if 1 ≤ i ∧ i ≤ 255 then f (g.devices i) else g.devices i }.devices
        d).isInited = (g.devices d).isInited := by
    intro g f hf
    change (if 1 ≤ d ∧ d ≤ 255 then _ else _ : GpDev).isInited = _
    split
    · exact hf _
    · rfl
  unfold gpInit
  simp only
  refine ((After.reconnect true _).isInited d).trans ?_
  refine ((hlogs _ _).charges d).isInited.trans ?_
  refine (hset _ (fun r => { r with timeoutCount := 0 }) fun _ => rfl).trans ?_
  refine ((After.reconnect false _).isInited d).trans ?_
  exact hset h (fun r => { r with boundToken := GP_START_TICKET_BOUND }) fun _ => rfl

theorem adapterMain_isInited (h : Host) (d : Nat) :
    ((adapterMain h).devices d).isInited = (h.devices d).isInited := by
  unfold adapterMain
  refine ((foldl_onlyQueues getTimes_steps _ _).charges d).isInited.trans ?_
  refine ((foldl_onlyQueues resetBuff_steps _ _).charges d).isInited.trans ?_
  exact gpInit_isInited _ d

/-- The questions on the line and in the queue are each put to a controller that
is initialised, none twice, and to every one if memory never fails. -/
structure InitialisedOnce (w : World) (h : Host) : Prop where
  once : ((sends h).filter isHello ++ h.gpHead2.filter isHello).Nodup
  only : ∀ z ∈ (sends h).filter isHello ++ h.gpHead2.filter isHello, ∃ d : Nat, d ≤ 255 ∧
    z = helloCmd d ∧ (h.devices d).isInited = true
  all : (∀ n, w.malloc n = true) → ∀ d, (h.devices d).isInited = true →
    helloCmd d ∈ (sends h).filter isHello ++ h.gpHead2.filter isHello

theorem hellos_inOrder {h : Host} (o : InOrder h) :
    (sends h).filter isHello ++ h.gpHead2.filter isHello = hellos h := by
  have hclass : ∀ z, isHello z = true → isSecond z = true := by
    intro z hz
    exact (Bool.and_eq_true _ _ ▸ hz).2
  have hall : ∀ zs : List CmdSend, (zs.filter isSecond).filter isHello = zs.filter isHello := by
    intro zs
    rw [List.filter_filter]
    refine List.filter_congr ?_
    intro z _
    cases hz : isHello z with
    | true => rw [hclass z hz]; rfl
    | false => rfl
  rw [hellos, ← hall (queueds h), o.second, List.filter_append, hall]

/-- **Each controller is initialised once.** In every run the question that goes
with the initialisation is put at most once to each controller, to controllers
that are marked as initialised only, and to all of these if memory never fails. -/
theorem initialised_once (mess : ReceivMess) (w : World) (db : Db) (cs : List Call) :
    InitialisedOnce w (run perform cs (adapter mess w db)).host := by
  have hnone : hellos (adapter mess w db).host = [] :=
    hellos_of_steps (adapterMain_steps (h := boot w db) ⟨rfl, rfl⟩)
  have hunmarked : ∀ d, ((adapter mess w db).host.devices d).isInited = false :=
    fun d => adapterMain_isInited (boot w db) d
  have hstart : AskedOnce (adapter mess w db) := by
    refine ⟨?_, ?_⟩
    · rw [hnone]
      exact List.nodup_nil
    · intro z hz
      rw [hnone] at hz
      cases hz
  have honce : AskedOnce (run perform cs (adapter mess w db)) :=
    run_invariant (fun c _ ao => perform_askedOnce c ao) cs hstart
  have horder := hellos_inOrder (adapter_inOrder mess w db cs)
  refine ⟨by rw [horder]; exact honce.once, by rw [horder]; exact honce.marked, ?_⟩
  intro hmem d hi
  have hstartAll : AskedAll (adapter mess w db) := by
    refine ⟨(adapterMain_steps (h := boot w db) ⟨rfl, rfl⟩).allocates hmem, ?_⟩
    intro d hi
    rw [hunmarked d] at hi
    cases hi
  have hall : AskedAll (run perform cs (adapter mess w db)) :=
    run_invariant (fun c _ aa => perform_askedAll c aa) cs hstartAll
  rw [horder]
  exact hall.asked d hi

end Libgate.Initialised
