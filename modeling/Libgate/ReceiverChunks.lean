import Libgate.ReceiverFrames
import Libgate.Operations

/-! A frame delivered in several reads against the same frame in one. The
receiver itself makes no difference, and `gp_dev_init` and the marks of a live
controller are made by the first read and not undone. But `receiv_mess.len`
counts the bytes of an unfinished frame, and the branch for an acknowledgement
hands it on as the length of the data. -/

namespace Libgate.ReceiverChunks
open Lib Lib.Memory Lib.Framing DbLayer Util Send Target Cmd Processor Receiver Layer HostFrame
open Operations ReceiverFrames

/-! ## Reads at given times -/

def atTime (n : Timeval) (g : Gate) : Gate :=
  { g with host := { g.host with world := { g.host.world with now := n } } }

/-- One read of a chunk at a time. -/
def readAt (c : Timeval × List UInt8) (g : Gate) : Gate :=
  gpReceiv (.read (.data c.2)) (atTime c.1 g)

/-- What can be seen of the adapter: the devices, the commands waiting, the
database, and the handler calls and commands so far. -/
structure Same (h h' : Host) : Prop where
  devices : h'.devices = h.devices
  gpHead : h'.gpHead = h.gpHead
  gpHead2 : h'.gpHead2 = h.gpHead2
  db : h'.db = h.db
  trace : h'.trace = h.trace

theorem Same.refl (h : Host) : Same h h := ⟨rfl, rfl, rfl, rfl, rfl⟩

/-! ## The addressed controller -/

/-- The marks of a live controller at time `n`. -/
def alive (n : Timeval) (dev : Nat) (h : Host) : Host :=
  { h with
    world := { h.world with now := n }
    sendMess := { h.sendMess with isExpected := false } }.setDev dev
      fun d => { d with lastRead := tv2ms n, activ := true, timeoutCount := 0 }

def initOnce (dev : Nat) (h : Host) : Host :=
  if (h.devices dev).isInited then h else gpDevInit dev h

section Alive
variable (n n' : Timeval) (dev : Nat) (h : Host)

theorem gpInCmd_alive (z : CmdSend) :
    gpInCmd z (alive n dev h) = (alive n dev (gpInCmd z h).1, (gpInCmd z h).2) := by
  unfold gpInCmd
  cases hm : h.world.malloc 0 with
  | false =>
    have hm' : (alive n dev h).world.malloc 0 = false := hm
    rw [hm']
    rfl
  | true =>
    have hm' : (alive n dev h).world.malloc 0 = true := hm
    rw [hm']
    by_cases hz : z.queue = AD_Q_FIRST
    · simp only [Bool.not_true, Bool.false_eq_true, if_false, if_pos hz]
      rfl
    · simp only [Bool.not_true, Bool.false_eq_true, if_false, if_neg hz]
      rfl

theorem sendOrQueue_alive {z : CmdSend} (hz : z.queue ≠ AD_Q_SHORT) :
    sendOrQueue z (alive n dev h) = (alive n dev (sendOrQueue z h).1, (sendOrQueue z h).2) := by
  rw [sendOrQueue, sendOrQueue, if_neg hz, if_neg hz]
  exact gpInCmd_alive n dev h z

theorem bothBanks_alive {z : CmdSend} (hz : z.queue ≠ AD_Q_SHORT) :
    bothBanks z (alive n dev h) = (alive n dev (bothBanks z h).1, (bothBanks z h).2) := by
  simp only [bothBanks, sendOrQueue_alive n dev h hz]
  rw [sendOrQueue_alive n dev _ (show ({ z with bank := 1, cmdBuff := z.cmdBuff.set 0 1 } :
    CmdSend).queue ≠ AD_Q_SHORT from hz)]

/-- Initialising a controller does not look at its marks. -/
theorem gpDevInit_alive : gpDevInit dev (alive n dev h) = alive n dev (gpDevInit dev h) := by
  have hdate : (setRtcDate dev (alive n dev h)).1 = alive n dev (setRtcDate dev h).1 :=
    congrArg Prod.fst (gpInCmd_alive n dev (readLocaltime h) _)
  have htimes : ∀ h, (adSetTimes AD_Q_SECOND dev cfgTimes (alive n dev h)).1 =
      alive n dev (adSetTimes AD_Q_SECOND dev cfgTimes h).1 :=
    fun h => congrArg Prod.fst (bothBanks_alive n dev h (z := adCmd ..) second_ne_short)
  have hbound : ∀ a h, (adSetTokenBound AD_Q_SECOND dev a (alive n dev h)).1 =
      alive n dev (adSetTokenBound AD_Q_SECOND dev a h).1 :=
    fun a h => congrArg Prod.fst (bothBanks_alive n dev h (z := adSetTokenBoundCmd ..) second_ne_short)
  have hinfo : ∀ h, (adGetInfo AD_Q_SECOND dev (alive n dev h)).1 =
      alive n dev (adGetInfo AD_Q_SECOND dev h).1 :=
    fun h => congrArg Prod.fst (sendOrQueue_alive n dev h (z := adCmd ..) second_ne_short)
  have hgetBound : ∀ h, (adGetTokenBound AD_Q_SECOND dev .null (alive n dev h)).1 =
      alive n dev (adGetTokenBound AD_Q_SECOND dev .null h).1 :=
    fun h => congrArg Prod.fst (bothBanks_alive n dev h (z := { adCmd .. with evHandler := .null })
      second_ne_short)
  have hgetTimes : ∀ h, (adGetTimes AD_Q_SECOND dev (alive n dev h)).1 =
      alive n dev (adGetTimes AD_Q_SECOND dev h).1 :=
    fun h => congrArg Prod.fst (bothBanks_alive n dev h (z := adCmd ..) second_ne_short)
  have hgetDate : ∀ h, (adGetDate AD_Q_SECOND dev (alive n dev h)).1 =
      alive n dev (adGetDate AD_Q_SECOND dev h).1 :=
    fun h => congrArg Prod.fst (gpInCmd_alive n dev h _)
  have hmax : ∀ h, (alive n dev h).maxBoundToken = h.maxBoundToken := fun _ => rfl
  simp only [gpDevInit, hdate, htimes, hmax, hbound, hinfo, hgetBound, hgetTimes, hgetDate]
  simp [alive, Host.setDev]

theorem alive_alive : alive n' dev (alive n dev h) = alive n' dev h := by
  simp [alive, Host.setDev]

theorem initOnce_isInited : ((initOnce dev h).devices dev).isInited = true := by
  unfold initOnce
  split
  · next hi => exact hi
  · obtain ⟨h', _, he⟩ := gpDevInit_queued dev h
    rw [he, Host.setDev_devices_self]

theorem initOnce_of_isInited {dev : Nat} {h : Host} (hi : (h.devices dev).isInited = true) :
    initOnce dev h = h := if_pos hi

theorem initOnce_sendMess : (initOnce dev h).sendMess = h.sendMess := by
  unfold initOnce
  split
  · rfl
  · obtain ⟨h', hq, he⟩ := gpDevInit_queued dev h
    rw [he]
    exact hq.sendMess

/-- The host as a read at time `n` finds it. -/
def found (n : Timeval) (g : Gate) : Host :=
  alive n g.host.sendMess.dev.toNat (initOnce g.host.sendMess.dev.toNat g.host)

theorem found_sendMess (g : Gate) :
    (found n g).sendMess = { g.host.sendMess with isExpected := false } := by
  change { (initOnce _ g.host).sendMess with isExpected := false } = _
  rw [initOnce_sendMess]

theorem receivAlive_atTime (g : Gate) : receivAlive (atTime n g).host = found n g := by
  have hinit : ((alive n g.host.sendMess.dev.toNat g.host).devices
      g.host.sendMess.dev.toNat).isInited = (g.host.devices g.host.sendMess.dev.toNat).isInited := by
    simp [alive]
  change (if ((alive n g.host.sendMess.dev.toNat g.host).devices
      g.host.sendMess.dev.toNat).isInited then alive n g.host.sendMess.dev.toNat g.host
    else gpDevInit g.host.sendMess.dev.toNat (alive n g.host.sendMess.dev.toNat g.host)) = _
  rw [hinit, gpDevInit_alive, found, initOnce]
  split <;> rfl

/-- A second read finds the controller as the first one left it. -/
theorem alive_initOnce_again : alive n' dev (initOnce dev (alive n dev (initOnce dev h))) =
    alive n' dev (initOnce dev h) := by
  have hi : ((alive n dev (initOnce dev h)).devices dev).isInited = true := by
    rw [alive, Host.setDev_devices_self]
    exact initOnce_isInited dev h
  rw [initOnce_of_isInited hi, alive_alive]

end Alive

/-! ## The reads of one frame -/

/-- The adapter when the reads up to time `n` have given the bytes `acc` of a
frame. -/
def held (g : Gate) (n : Timeval) (acc : List UInt8) : Gate :=
  { rx :=
      { mess := { g.rx.mess with
          lastRead := tv2ms n, len := acc.length, buf := store g.rx.mess.buf 0 (acc ++ [0]) }
        bufP := some acc.length }
    host := found n g }

/-- The adapter when the last read of the frame `F` came at time `n` behind `k`
bytes. -/
def finished (g : Gate) (n : Timeval) (F : List UInt8) (k : Nat) : Gate :=
  let s := checkFrame g.host.sendMess.dev (F.length - 1)
    { mess := { g.rx.mess with
        lastRead := tv2ms n, len := k, buf := store g.rx.mess.buf 0 (F ++ [0]) }
      bufP := none }
  { rx := s.1, host := dispatch s.1.mess s.2 (found n g) }

/-- Writing on behind a block and over the zero at its end. -/
theorem store_behind (m : Nat → UInt8) (p : Nat) (xs : List UInt8) (z : UInt8) {ys : List UInt8}
    (hy : ys ≠ []) : store (store m p (xs ++ [z])) (p + xs.length) ys = store m p (xs ++ ys) := by
  have hlen : [z].length ≤ ys.length := List.length_pos_iff.mpr hy
  rw [store_append, store_store_of_le _ _ hlen, ← store_append]

theorem readBytes_fits {acc c : List UInt8}
    (hfit : (acc ++ c).length < GP_PORT_READ_BUF_LENGTH) : readBytes acc.length c = c := by
  rw [List.length_append] at hfit
  unfold readBytes
  simp only [GP_PORT_READ_BUF_LENGTH] at *
  rw [if_neg (by omega)]
  exact List.take_of_length_le (by omega)

theorem readAt_eq (n : Timeval) (c : List UInt8) (g : Gate) : readAt (n, c) g =
    { rx := (receive g.host.sendMess.dev (tv2ms n) (.data c) g.rx).1
      host := dispatch (receive g.host.sendMess.dev (tv2ms n) (.data c) g.rx).1.mess
        (receive g.host.sendMess.dev (tv2ms n) (.data c) g.rx).2 (found n g) } := by
  simp only [readAt, gpReceiv, receivAlive_atTime, found_sendMess]
  rfl

section Reads
variable {g : Gate} {n n' : Timeval} {acc c f : List UInt8}

theorem held_holds (he : GP_END ∉ acc) : Holds (held g n acc).rx acc :=
  ⟨.inl ⟨rfl, rfl⟩, load_store_append g.rx.mess.buf 0 acc [0], he⟩

theorem held_host_dev : (held g n acc).host.sendMess.dev = g.host.sendMess.dev := by
  change (found n g).sendMess.dev = _
  rw [found_sendMess]

theorem held_found (n' : Timeval) : found n' (held g n acc) = found n' g := by
  rw [found, held_host_dev]
  exact alive_initOnce_again ..

/-- A read of a chunk without the end, behind the bytes held. -/
theorem readAt_more (hr : Holds g.rx acc) (hc : c ≠ []) (hb : (acc ++ c).head? = some GP_INIT)
    (he : GP_END ∉ c) (hfit : (acc ++ c).length < GP_PORT_READ_BUF_LENGTH) :
    readAt (n, c) g =
      { rx :=
          { mess := { taken g.rx.mess (tv2ms n) acc c with len := (acc ++ c).length }
            bufP := some (acc ++ c).length }
        host := found n g } := by
  have hrec := receive_eq hr g.host.sendMess.dev (tv2ms n) c
  rw [readBytes_fits hfit, if_neg hc, feed_eq_more hb he] at hrec
  rw [readAt_eq, hrec]
  rfl

/-- The read of the chunk with the end. -/
theorem readAt_last (hr : Holds g.rx acc) (hc : c ≠ []) (hf : f.head? = some GP_INIT)
    (he : GP_END ∉ f) (hall : acc ++ c = f ++ [GP_END])
    (hfit : (acc ++ c).length < GP_PORT_READ_BUF_LENGTH) :
    readAt (n, c) g =
      { rx := (checkFrame g.host.sendMess.dev f.length
          { mess := taken g.rx.mess (tv2ms n) acc c, bufP := none }).1
        host := dispatch (checkFrame g.host.sendMess.dev f.length
            { mess := taken g.rx.mess (tv2ms n) acc c, bufP := none }).1.mess
          (checkFrame g.host.sendMess.dev f.length
            { mess := taken g.rx.mess (tv2ms n) acc c, bufP := none }).2 (found n g) } := by
  have hrec := receive_eq hr g.host.sendMess.dev (tv2ms n) c
  rw [readBytes_fits hfit, if_neg hc, feed_eq_frame hr.noEnd he hf hall] at hrec
  rw [readAt_eq, hrec]

theorem first_more (hp : g.rx.bufP = none) (hb : c.head? = some GP_INIT) (he : GP_END ∉ c)
    (hfit : c.length < GP_PORT_READ_BUF_LENGTH) : readAt (n, c) g = held g n c := by
  have hc : c ≠ [] := by rintro rfl; cases hb
  exact readAt_more (Holds.of_none hp) hc hb he hfit

theorem next_more (ha : GP_END ∉ acc) (hc : c ≠ []) (hb : (acc ++ c).head? = some GP_INIT)
    (he : GP_END ∉ c) (hfit : (acc ++ c).length < GP_PORT_READ_BUF_LENGTH) :
    readAt (n', c) (held g n acc) = held g n' (acc ++ c) := by
  have hbuf := store_behind g.rx.mess.buf 0 acc 0 (show c ++ [0] ≠ [] by simp)
  rw [readAt_more (held_holds ha) hc hb he hfit, held_found]
  simp only [held, taken]
  rw [Nat.zero_add, ← List.append_assoc] at hbuf
  rw [hbuf]

theorem first_last (hp : g.rx.bufP = none) (hf : f.head? = some GP_INIT) (he : GP_END ∉ f)
    (hfit : (f ++ [GP_END]).length < GP_PORT_READ_BUF_LENGTH) :
    readAt (n, f ++ [GP_END]) g = finished g n (f ++ [GP_END]) 0 := by
  have hlast := readAt_last (n := n) (Holds.of_none hp) (c := f ++ [GP_END]) (by simp) hf he
    (List.nil_append _) hfit
  rw [hlast]
  simp only [finished, List.length_append, List.length_singleton, Nat.add_sub_cancel]
  rfl

theorem next_last (ha : GP_END ∉ acc) (hc : c ≠ []) (hf : f.head? = some GP_INIT)
    (he : GP_END ∉ f) (hall : acc ++ c = f ++ [GP_END])
    (hfit : (f ++ [GP_END]).length < GP_PORT_READ_BUF_LENGTH) :
    readAt (n', c) (held g n acc) = finished g n' (f ++ [GP_END]) acc.length := by
  have hbuf := store_behind g.rx.mess.buf 0 acc 0 (show c ++ [0] ≠ [] by simp)
  rw [Nat.zero_add, ← List.append_assoc, hall] at hbuf
  rw [readAt_last (held_holds ha) hc hf he hall (by rwa [hall]), held_found, held_host_dev]
  simp only [finished, held, taken, hbuf, List.length_append, List.length_singleton,
    Nat.add_sub_cancel]

/-- Reads of the middle of a frame add up. -/
theorem run_held (cs : List (Timeval × List UInt8)) (hne : ∀ x ∈ cs, x.2 ≠ [])
    (hb : acc.head? = some GP_INIT) (he : GP_END ∉ acc ++ cs.flatMap Prod.snd)
    (hfit : (acc ++ cs.flatMap Prod.snd).length < GP_PORT_READ_BUF_LENGTH) :
    ∃ n', run readAt cs (held g n acc) = held g n' (acc ++ cs.flatMap Prod.snd) := by
  induction cs generalizing acc n with
  | nil => exact ⟨n, by simp⟩
  | cons x cs ih =>
    obtain ⟨n', c⟩ := x
    rw [List.flatMap_cons, ← List.append_assoc] at he hfit ⊢
    have hac : GP_END ∉ acc ++ c := fun hm => he (List.mem_append_left _ hm)
    have hb' : (acc ++ c).head? = some GP_INIT := by rw [List.head?_append, hb]; rfl
    have hnext : readAt (n', c) (held g n acc) = held g n' (acc ++ c) := by
      refine next_more (fun hm => hac (List.mem_append_left _ hm)) ?_ hb'
        (fun hm => hac (List.mem_append_right _ hm)) ?_
      · exact hne _ (List.mem_cons_self ..)
      · rw [List.length_append] at hfit
        exact Nat.lt_of_le_of_lt (Nat.le_add_right ..) hfit
    rw [run_cons, hnext]
    exact ih (fun x hx => hne x (List.mem_cons_of_mem _ hx)) hb' he hfit

/-- The reads of a frame finish it, with the bytes of all but the last one
counted in `receiv_mess.len`. -/
theorem run_finished (hp : g.rx.bufP = none) (n' : Timeval) (cs : List (Timeval × List UInt8)) (hc : c ≠ [])
    (hne : ∀ x ∈ cs, x.2 ≠ []) (hf : f.head? = some GP_INIT) (he : GP_END ∉ f)
    (hall : cs.flatMap Prod.snd ++ c = f ++ [GP_END])
    (hfit : (f ++ [GP_END]).length < GP_PORT_READ_BUF_LENGTH) :
    run readAt (cs ++ [(n', c)]) g =
      finished g n' (f ++ [GP_END]) (cs.flatMap Prod.snd).length := by
  cases cs with
  | nil =>
    rw [List.flatMap_nil, List.nil_append] at hall
    rw [hall]
    exact first_last hp hf he hfit
  | cons x cs =>
    obtain ⟨n, b⟩ := x
    obtain ⟨a, rfl, rfl⟩ : ∃ a, f = ((n, b) :: cs).flatMap Prod.snd ++ a ∧ c = a ++ [GP_END] := by
      rcases List.append_eq_append_iff.mp hall with ⟨a, hfa, hca⟩ | ⟨a, hfa, hca⟩
      · exact ⟨a, hfa, hca⟩
      · cases a with
        | nil => exact ⟨[], by simpa using hfa.symm, by simpa using hca.symm⟩
        | cons y a =>
          obtain ⟨_, hnil⟩ := List.cons.inj hca
          exact absurd (List.append_eq_nil_iff.mp hnil.symm).2 hc
    have hbne : b ≠ [] := hne _ (List.mem_cons_self ..)
    rw [List.flatMap_cons] at *
    have hb : b.head? = some GP_INIT := by
      rw [List.head?_append, List.head?_append] at hf
      cases b with
      | nil => exact absurd rfl hbne
      | cons y b => exact hf
    have hacc : GP_END ∉ b ++ cs.flatMap Prod.snd := fun hm => he (List.mem_append_left _ hm)
    have hlen : (b ++ cs.flatMap Prod.snd).length < GP_PORT_READ_BUF_LENGTH := by
      simp only [List.length_append] at hfit ⊢
      omega
    have hblen : b.length < GP_PORT_READ_BUF_LENGTH := by
      rw [List.length_append] at hlen
      omega
    have hfirst : readAt (n, b) g = held g n b :=
      first_more hp hb (fun hm => hacc (List.mem_append_left _ hm)) hblen
    obtain ⟨n1, hmid⟩ := run_held (g := g) (n := n) cs
      (fun x hx => hne x (List.mem_cons_of_mem _ hx)) hb hacc hlen
    rw [List.cons_append, run_cons, hfirst, run_append, hmid]
    exact next_last hacc hc hf he hall hfit

end Reads

/-! ## Where the length is read -/

/-- The branches of the two handlers that read `receiv_mess.len`. -/
def ReadsLen (m : ReceivMess) (h : Host) : Prop :=
  h.sendMess.evHandler = .cbGetPollResult ∧ h.sendMess.target = .getCid ∧ m.cmdN = 0x04 ∨
    h.sendMess.evHandler = .cbLogRead ∧ h.sendMess.target = .getBuffData

theorem processPortInput_len {m : ReceivMess} {h : Host} (hr : ¬ ReadsLen m h) (k : Int) :
    processPortInput { m with len := k } h = processPortInput m h := by
  unfold ReadsLen at hr
  rw [not_or] at hr
  unfold processPortInput
  cases hev : h.sendMess.evHandler with
  | cbGetPollResult =>
    have hno : ¬ (h.sendMess.target = .getCid ∧ m.cmdN = 0x04) := fun hn => hr.1 ⟨hev, hn⟩
    change (if h.sendMess.target = .getCid ∧ m.cmdN = 0x04 then _ else _) =
      if h.sendMess.target = .getCid ∧ m.cmdN = 0x04 then _ else _
    rw [if_neg hno, if_neg hno]
    rfl
  | cbLogRead =>
    have hno : h.sendMess.target ≠ .getBuffData := fun hn => hr.2 ⟨hev, hn⟩
    change (if h.sendMess.target = .getBuffAddr then _ else
        if h.sendMess.target = .getBuffData then _ else _) =
      if h.sendMess.target = .getBuffAddr then _ else
        if h.sendMess.target = .getBuffData then _ else _
    rw [if_neg hno, if_neg hno]
    rfl
  | null => rfl

theorem checkFrame_kind_len (dev : UInt8) (q : Nat) (m : ReceivMess) (k : Int) (p : Option Nat) :
    (checkFrame dev q { mess := { m with len := k }, bufP := p }).2 =
      (checkFrame dev q { mess := m, bufP := p }).2 := by
  simp only [checkFrame, apply_ite Prod.snd]
  rfl

/-- `receiv_mess` when the frame `F` is complete and `k` counts the bytes before
its last read. -/
def readMess (g : Gate) (n : Timeval) (F : List UInt8) (k : Nat) : ReceivMess :=
  { g.rx.mess with lastRead := tv2ms n, len := k, buf := store g.rx.mess.buf 0 (F ++ [0]) }

/-- The buffer and the length after `memcpy_unesc` on the frame `F`. -/
def decoded (g : Gate) (F : List UInt8) : (Nat → UInt8) × Int :=
  unescFrame (store g.rx.mess.buf 0 (F ++ [0])) (F.length - 1)

/-- The frame is taken for an acknowledgement from the addressed controller. -/
def Acknowledges (g : Gate) (F : List UInt8) : Prop :=
  Accepts g.host.sendMess.dev (decoded g F) ∧ (decoded g F).1 5 = GP_REPLY

instance (g : Gate) (F : List UInt8) : Decidable (Acknowledges g F) :=
  inferInstanceAs (Decidable (_ ∧ _))

/-- `receiv_mess` as an acknowledgement is handed on. -/
def ackMess (g : Gate) (n : Timeval) (F : List UInt8) (k : Nat) : ReceivMess :=
  { readMess g n F k with
    buf := Function.update (decoded g F).1 5 ((decoded g F).1 7), dev := (decoded g F).1 4 }

section Finish
variable {g : Gate} {n : Timeval} {F : List UInt8}

theorem finished_host (k : Nat) : (finished g n F k).host =
    dispatch (checkFrame g.host.sendMess.dev (F.length - 1) ⟨readMess g n F k, none⟩).1.mess
      (checkFrame g.host.sendMess.dev (F.length - 1) ⟨readMess g n F k, none⟩).2 (found n g) := rfl

/-- Only an acknowledgement shows how the frame was read. -/
theorem finished_eq (hno : ¬ Acknowledges g F) (k : Nat) :
    (finished g n F k).host = (finished g n F 0).host := by
  have hkind : (checkFrame g.host.sendMess.dev (F.length - 1) ⟨readMess g n F k, none⟩).2 = _ :=
    checkFrame_kind_len g.host.sendMess.dev (F.length - 1) (readMess g n F 0) k none
  rw [finished_host, finished_host, hkind]
  rcases checkFrame_spec g.host.sendMess.dev (F.length - 1) ⟨readMess g n F 0, none⟩ with
    ⟨hacc, _, hmess⟩ | ⟨_, hin⟩
  · have h5 : (decoded g F).1 5 ≠ GP_REPLY := fun he => hno ⟨hacc, he⟩
    have hmess' : (checkFrame g.host.sendMess.dev (F.length - 1)
        ⟨readMess g n F k, none⟩).1.mess = accepted (readMess g n F k) (decoded g F) := by
      rcases checkFrame_spec g.host.sendMess.dev (F.length - 1) ⟨readMess g n F k, none⟩ with
        ⟨_, _, hm⟩ | ⟨hn, _⟩
      · exact hm
      · exact absurd hacc hn
    have hsame : accepted (readMess g n F k) (decoded g F) =
        accepted (readMess g n F 0) (decoded g F) := by
      rw [accepted, accepted, if_neg h5, if_neg h5]
      rfl
    rw [hmess', hsame]
    exact congrArg (fun m => dispatch m _ _) hmess.symm
  · exact dispatch_noInput hin ..

theorem finished_ack (hack : Acknowledges g F) (k : Nat) :
    (finished g n F k).host =
      (gpPutCmd (processPortInput (ackMess g n F k) (found n g)).1).1 := by
  obtain ⟨hacc, h5⟩ := hack
  rcases checkFrame_spec g.host.sendMess.dev (F.length - 1) ⟨readMess g n F k, none⟩ with
    ⟨_, hkind, hmess⟩ | ⟨hn, _⟩
  · have hkind' : inputKind (unescFrame (readMess g n F k).buf (F.length - 1)) = .ack := if_pos h5
    have hmess' : accepted (readMess g n F k)
        (unescFrame (readMess g n F k).buf (F.length - 1)) = ackMess g n F k := if_pos h5
    rw [finished_host, hkind, hkind', hmess, hmess']
    rfl
  · exact absurd hacc hn

end Finish

/-! ## The two branches -/

/-- The poll handler keeps the number it read as the last card of the device. -/
theorem pollCid_lastCid (m : ReceivMess) (h : Host) :
    ((gpPutCmd (pollCid m h).1).1.devices m.dev.toNat).lastCid =
      bin2int m.buf ReceivMess.cmdBuffOff (sizeT m.len) (h.devices m.dev.toNat).cidRevert := by
  obtain ⟨t, hput⟩ := gpPutCmd_device (pollCid m h).1 m.dev.toNat
  rw [hput]
  unfold pollCid
  simp only
  generalize bin2int m.buf ReceivMess.cmdBuffOff (sizeT m.len) _ = a
  split
  · obtain ⟨t', hsend⟩ := gpSend_device { adCmd AD_Q_SHORT m.src.toNat .getRegs 0x06 2 [0x15, 0x28]
      with polling := true } (h.setDev m.dev.toNat fun d => { d with lastCid := a, newCidFlag := true })
      m.dev.toNat
    change ((gpSend _ _).1.devices m.dev.toNat).lastCid = a
    rw [hsend, Host.setDev_devices_self]
  · next hsame =>
    obtain ⟨t', hsend⟩ := gpSend_device { adCmd AD_Q_SHORT m.src.toNat .getRegs 0x06 2 [0x15, 0x28]
      with polling := true } h m.dev.toNat
    change ((gpSend _ _).1.devices m.dev.toNat).lastCid = a
    rw [hsend]
    exact not_not.mp hsame

/-- A block of records that all repeat the last one does nothing. -/
theorem logRecords_repeat {dev : Nat} {recs : List GpEvent} {h : Host}
    (hall : ∀ t ∈ recs, sameCodeAddr (h.devices dev).lastEvRec t = true) (c : Nat) :
    logRecords dev recs c h = h := by
  induction recs generalizing c with
  | nil => rfl
  | cons t recs ih =>
    rw [logRecords, logRecord_skipped c (hall t (List.mem_cons_self ..))]
    exact ih (fun t ht => hall t (List.mem_cons_of_mem _ ht)) (c + 1)

/-- Any other block shows. -/
theorem logRecords_shown {dev : Nat} {recs : List GpEvent} {h : Host} (c : Nat)
    (hnot : ¬ ∀ t ∈ recs, sameCodeAddr (h.devices dev).lastEvRec t = true) :
    ∃ es, es ≠ [] ∧ (logRecords dev recs c h).trace = h.trace ++ es := by
  induction recs generalizing c with
  | nil => exact absurd (by simp) hnot
  | cons t recs ih =>
    rw [logRecords]
    cases hs : sameCodeAddr (h.devices dev).lastEvRec t with
    | true =>
      rw [logRecord_skipped c hs]
      refine ih (c + 1) fun hall => hnot ?_
      intro t' ht'
      rcases List.mem_cons.mp ht' with rfl | ht'
      · exact hs
      · exact hall t' ht'
    | false =>
      obtain ⟨_, _, _, htr⟩ := logRecord_reported c hs
      obtain ⟨_, _, es, hes, _⟩ := logRecords_frame dev recs (logRecord dev t c h).2
        (logRecord dev t c h).1
      rw [hes, htr, List.append_assoc]
      exact ⟨_, by simp, rfl⟩

theorem logRecords_queues (dev : Nat) (recs : List GpEvent) (c : Nat) (h : Host) :
    (logRecords dev recs c h).gpHead = h.gpHead ∧ (logRecords dev recs c h).gpHead2 = h.gpHead2 := by
  induction recs generalizing c h with
  | nil => exact ⟨rfl, rfl⟩
  | cons t recs ih =>
    obtain ⟨h1, h2⟩ := ih (logRecord dev t c h).2 (logRecord dev t c h).1
    rw [logRecords, h1, h2]
    unfold logRecord
    split
    · exact ⟨rfl, rfl⟩
    · exact ⟨rfl, rfl⟩

theorem adSetBuffAddrDownCmd_inj {d : Nat} {a b : UInt16}
    (he : adSetBuffAddrDownCmd AD_Q_SHORT d a = adSetBuffAddrDownCmd AD_Q_SHORT d b) : a = b := by
  have ha : valAt (adSetBuffAddrDownCmd AD_Q_SHORT d a) 5 = a.toNat := be16_val a
  have hb : valAt (adSetBuffAddrDownCmd AD_Q_SHORT d b) 5 = b.toNat := be16_val b
  rw [he, hb] at ha
  exact (UInt16.toNat_inj.mp ha).symm

/-- The commands and handler calls of a data reply and the command after it. -/
theorem logData_trace (m : ReceivMess) (h : Host) :
    (gpPutCmd (logData m h).1).1.trace =
      (logRecords m.dev.toNat (blockRecords m) 0 h).trace ++
        [.sent (adSetBuffAddrDownCmd AD_Q_SHORT m.src.toNat
          (nextDown (h.devices m.dev.toNat).boundDown (blockRecords m).length))] ++ nextSent h := by
  have hnext : nextSent (logData m h).1 = nextSent h := by
    rw [logData_eq]
    obtain ⟨h1, h2⟩ := gpSend_queues (adSetBuffAddrDownCmd AD_Q_SHORT m.src.toNat
      (nextDown (h.devices m.dev.toNat).boundDown (blockRecords m).length))
      (logRecords m.dev.toNat (blockRecords m) 0 h)
    obtain ⟨h3, h4⟩ := logRecords_queues m.dev.toNat (blockRecords m) 0 h
    unfold nextSent
    rw [h1, h2, h3, h4]
  rw [gpPutCmd_trace, hnext, logData_eq, gpSend_trace]

/-- Data replies of two lengths, one of them none: they do the same exactly when
the records all repeat the last one and the pointer is written back alike. -/
theorem logData_same_iff (m m0 : ReceivMess) (h : Host) (hsrc : m.src = m0.src)
    (hdev : m.dev = m0.dev) (h0 : blockRecords m0 = []) :
    Same (gpPutCmd (logData m h).1).1 (gpPutCmd (logData m0 h).1).1 ↔
      (∀ t ∈ blockRecords m, sameCodeAddr (h.devices m.dev.toNat).lastEvRec t = true) ∧
        nextDown (h.devices m.dev.toNat).boundDown (blockRecords m).length =
          nextDown (h.devices m.dev.toNat).boundDown 0 := by
  constructor
  · intro hsame
    have htr := hsame.trace
    rw [logData_trace, logData_trace, h0, ← hsrc, ← hdev] at htr
    have hcut := List.append_cancel_right htr
    rw [logRecords] at hcut
    by_cases hall : ∀ t ∈ blockRecords m, sameCodeAddr (h.devices m.dev.toNat).lastEvRec t = true
    · rw [logRecords_repeat hall] at hcut
      have hcmd := List.append_cancel_left hcut
      exact ⟨hall, (adSetBuffAddrDownCmd_inj (by simpa using hcmd)).symm⟩
    · obtain ⟨es, hne, hes⟩ := logRecords_shown 0 hall
      rw [hes, List.append_assoc] at hcut
      have hlen := congrArg List.length (List.append_cancel_left hcut)
      exact absurd (by simpa using hlen) hne
  · intro hharm
    obtain ⟨hall, hnext⟩ := hharm
    have heq : logData m h = logData m0 h := by
      rw [logData_eq, logData_eq, logRecords_repeat hall, hnext, h0, ← hsrc, ← hdev]
      rfl
    rw [heq]
    exact Same.refl _

/-- A pointer inside the log memory moves past any record. -/
theorem nextDown_eq_iff {down : UInt16} {n : Nat} (hn : n ≤ 16) :
    nextDown down n = nextDown down 0 ↔ n = 0 ∨ GP_MAX_LOG_BOUND ≤ down.toNat := by
  have hdown := down.toNat_lt
  rw [← UInt16.toNat_inj]
  simp only [nextDown, UInt16.toNat_ofNat', GP_MAX_LOG_BOUND, sizeofEvent]
  split
  · split <;> omega
  · split <;> omega

/-! ## One frame, several reads -/

/-- The acknowledgement `F` is treated alike whatever `receiv_mess.len` says:
it is not taken for a card number, and not for a block of `k` bytes of the log
unless that is less than a record, or the records all repeat the last one and
the lower pointer is past the log memory. -/
def LenHarmless (g : Gate) (F : List UInt8) (k : Nat) : Prop :=
  ¬ (g.host.sendMess.evHandler = .cbGetPollResult ∧ g.host.sendMess.target = .getCid ∧
      (decoded g F).1 7 = 0x04) ∧
    (g.host.sendMess.evHandler = .cbLogRead ∧ g.host.sendMess.target = .getBuffData →
      k < sizeofEvent ∨
        GP_MAX_LOG_BOUND ≤ (g.host.devices g.host.sendMess.dev.toNat).boundDown.toNat ∧
          ∀ i < k / sizeofEvent, sameCodeAddr (g.host.devices g.host.sendMess.dev.toNat).lastEvRec
            (GpEvent.ofMem (decoded g F).1 (ReceivMess.cmdBuffOff + sizeofEvent * i)) = true)

instance (g : Gate) (F : List UInt8) (k : Nat) : Decidable (LenHarmless g F k) :=
  inferInstanceAs (Decidable (_ ∧ (_ → _)))

theorem initOnce_device (dev : Nat) (h : Host) :
    (initOnce dev h).devices dev = { h.devices dev with isInited := true } := by
  unfold initOnce
  split
  · next hi => rw [← hi]
  · obtain ⟨h', hq, he⟩ := gpDevInit_queued dev h
    rw [he, Host.setDev_devices_self, hq.devices]
    rfl

section Ack
variable {g : Gate} {n : Timeval} {F : List UInt8}

theorem found_device : (found n g).devices g.host.sendMess.dev.toNat =
    { g.host.devices g.host.sendMess.dev.toNat with
      isInited := true, lastRead := tv2ms n, activ := true, timeoutCount := 0 } := by
  have hdevice := initOnce_device g.host.sendMess.dev.toNat g.host
  rw [found, alive, Host.setDev_devices_self]
  simp only [hdevice]

theorem ackMess_cell {i : Nat} (hi : i ≠ 5) (k : Nat) :
    (ackMess g n F k).buf i = (decoded g F).1 i := by
  change Function.update _ 5 _ i = _
  exact Function.update_of_ne hi ..

theorem ackMess_cmdN (k : Nat) : (ackMess g n F k).cmdN = (decoded g F).1 7 := by
  change Function.update (decoded g F).1 5 ((decoded g F).1 7) 5 = _
  exact Function.update_self ..

theorem blockRecords_ackMess (k : Nat) : blockRecords (ackMess g n F k) =
    (List.range (k / sizeofEvent)).map fun i =>
      GpEvent.ofMem (decoded g F).1 (ReceivMess.cmdBuffOff + sizeofEvent * i) := by
  unfold blockRecords
  have hlen : ((ackMess g n F k).len / (sizeofEvent : Int)).toNat = k / sizeofEvent := by
    change ((k : Int) / (8 : Int)).toNat = k / 8
    omega
  rw [hlen]
  refine List.map_congr_left ?_
  intro i _
  have hcell : ∀ j, (ackMess g n F k).buf (ReceivMess.cmdBuffOff + j) =
      (decoded g F).1 (ReceivMess.cmdBuffOff + j) :=
    fun j => ackMess_cell (show 6 + j ≠ 5 by omega) k
  simp only [GpEvent.ofMem, Nat.add_assoc, hcell]

/-- An acknowledgement of `GET_CID` is taken for a card number that depends on
the length. -/
theorem ack_poll (hack : Acknowledges g F) {k : Nat} (hk0 : k ≠ 0) (hk : k < GP_PORT_READ_BUF_LENGTH)
    (hpoll : g.host.sendMess.evHandler = .cbGetPollResult ∧ g.host.sendMess.target = .getCid ∧
      (decoded g F).1 7 = 0x04) :
    ¬ Same (finished g n F k).host (finished g n F 0).host := by
  rw [finished_ack hack, finished_ack hack]
  intro hsame
  have hdev : ∀ k, (ackMess g n F k).dev = g.host.sendMess.dev := fun _ => hack.1.2.1.symm
  have hproc : ∀ k, processPortInput (ackMess g n F k) (found n g) =
      pollCid (ackMess g n F k) (found n g) := by
    intro k
    unfold processPortInput cbGetPollResult
    rw [found_sendMess, hpoll.1, hpoll.2.1, ackMess_cmdN, hpoll.2.2]
    exact if_pos ⟨rfl, rfl⟩
  have hcid := pollCid_lastCid (ackMess g n F k) (found n g)
  have hcid0 := pollCid_lastCid (ackMess g n F 0) (found n g)
  have hdevices := hsame.devices
  rw [hproc, hproc] at hdevices
  rw [hdev] at hcid hcid0
  rw [← hdevices, hcid0] at hcid
  have hfirst : (ackMess g n F k).buf ReceivMess.cmdBuffOff = GP_REPLY_ACK :=
    (ackMess_cell (by decide) k).trans (hack.1.2.2 hack.2)
  have hsize : sizeT (ackMess g n F k).len = k := by
    change ((k : Int) % 0x10000000000000000).toNat = k
    simp only [GP_PORT_READ_BUF_LENGTH] at hk
    omega
  have hzero : sizeT (ackMess g n F 0).len = 0 := rfl
  rw [hzero, bin2int_zero, hsize] at hcid
  exact bin2int_ne_zero hk0 (by rw [hfirst]; decide) _ hcid.symm

/-- An acknowledgement of `GET_BUFF_DATA` is taken for as many records as the
length holds. -/
theorem ack_log (hack : Acknowledges g F) {k : Nat} (hk : k < GP_PORT_READ_BUF_LENGTH)
    (hlog : g.host.sendMess.evHandler = .cbLogRead ∧ g.host.sendMess.target = .getBuffData) :
    Same (finished g n F k).host (finished g n F 0).host ↔
      k < sizeofEvent ∨
        GP_MAX_LOG_BOUND ≤ (g.host.devices g.host.sendMess.dev.toNat).boundDown.toNat ∧
          ∀ i < k / sizeofEvent, sameCodeAddr (g.host.devices g.host.sendMess.dev.toNat).lastEvRec
            (GpEvent.ofMem (decoded g F).1 (ReceivMess.cmdBuffOff + sizeofEvent * i)) = true := by
  rw [finished_ack hack, finished_ack hack]
  have hdev : ∀ k, (ackMess g n F k).dev = g.host.sendMess.dev := fun _ => hack.1.2.1.symm
  have hproc : ∀ k, processPortInput (ackMess g n F k) (found n g) =
      logData (ackMess g n F k) (found n g) := by
    intro k
    unfold processPortInput cbLogRead
    rw [found_sendMess, hlog.1, hlog.2]
    rfl
  have hblock : k / sizeofEvent ≤ 16 := by
    simp only [GP_PORT_READ_BUF_LENGTH, sizeofEvent] at hk ⊢
    omega
  have hnone : blockRecords (ackMess g n F 0) = [] := blockRecords_ackMess 0
  have hiff := logData_same_iff (ackMess g n F k) (ackMess g n F 0) (found n g) rfl rfl hnone
  rw [hdev, found_device, blockRecords_ackMess, List.length_map, List.length_range,
    nextDown_eq_iff hblock] at hiff
  have hsmall : k / sizeofEvent = 0 ↔ k < sizeofEvent := Nat.div_eq_zero_iff_lt (by decide)
  rw [hproc, hproc, hiff, hsmall]
  simp only [List.mem_map, List.mem_range, forall_exists_index, and_imp,
    forall_apply_eq_imp_iff₂]
  constructor
  · rintro ⟨hall, hsm | hpast⟩
    · exact .inl hsm
    · exact .inr ⟨hpast, hall⟩
  · rintro (hsm | ⟨hpast, hall⟩)
    · refine ⟨?_, .inl hsm⟩
      intro i hi
      rw [hsmall.mpr hsm] at hi
      exact absurd hi (Nat.not_lt_zero i)
    · exact ⟨hall, .inr hpast⟩

/-- Every other acknowledgement is treated without the length. -/
theorem ack_other (hack : Acknowledges g F) (k : Nat)
    (hpoll : ¬ (g.host.sendMess.evHandler = .cbGetPollResult ∧ g.host.sendMess.target = .getCid ∧
      (decoded g F).1 7 = 0x04))
    (hlog : ¬ (g.host.sendMess.evHandler = .cbLogRead ∧ g.host.sendMess.target = .getBuffData)) :
    (finished g n F k).host = (finished g n F 0).host := by
  have hno : ¬ ReadsLen (ackMess g n F 0) (found n g) := by
    rw [ReadsLen, found_sendMess, ackMess_cmdN]
    exact fun hr => hr.elim hpoll hlog
  have hproc : processPortInput (ackMess g n F k) (found n g) =
      processPortInput (ackMess g n F 0) (found n g) := processPortInput_len hno k
  rw [finished_ack hack, finished_ack hack, hproc]

/-- An acknowledgement behind `k` bytes does what it does behind none exactly
when the length is harmless. -/
theorem ack_same_iff (hack : Acknowledges g F) {k : Nat} (hk0 : k ≠ 0)
    (hk : k < GP_PORT_READ_BUF_LENGTH) :
    Same (finished g n F k).host (finished g n F 0).host ↔ LenHarmless g F k := by
  by_cases hpoll : g.host.sendMess.evHandler = .cbGetPollResult ∧
      g.host.sendMess.target = .getCid ∧ (decoded g F).1 7 = 0x04
  · exact iff_of_false (ack_poll hack hk0 hk hpoll) fun hharm => hharm.1 hpoll
  by_cases hlog : g.host.sendMess.evHandler = .cbLogRead ∧ g.host.sendMess.target = .getBuffData
  · rw [ack_log hack hk hlog]
    exact ⟨fun hc => ⟨hpoll, fun _ => hc⟩, fun hharm => hharm.2 hlog⟩
  · rw [ack_other hack k hpoll hlog]
    exact iff_of_true (Same.refl _) ⟨hpoll, fun hl => absurd hl hlog⟩

end Ack

/-- **How a frame is chopped shows exactly when it is an acknowledgement read
behind a harmful length.** The frame begins with `GP_INIT`, ends with its only
`GP_END` and fits the buffer; its reads come at any times, and the one read it is
compared with comes at the time of the last. -/
theorem chunks_same_iff (g : Gate) (cs : List (Timeval × List UInt8)) (n : Timeval)
    (c f : List UInt8) (hp : g.rx.bufP = none) (hne : ∀ x ∈ cs ++ [(n, c)], x.2 ≠ [])
    (hall : (cs ++ [(n, c)]).flatMap Prod.snd = f ++ [GP_END]) (hf : f.head? = some GP_INIT)
    (he : GP_END ∉ f) (hfit : (f ++ [GP_END]).length < GP_PORT_READ_BUF_LENGTH) :
    Same (run readAt (cs ++ [(n, c)]) g).host (run readAt [(n, f ++ [GP_END])] g).host ↔
      cs = [] ∨ ¬ Acknowledges g (f ++ [GP_END]) ∨
        LenHarmless g (f ++ [GP_END]) (cs.flatMap Prod.snd).length := by
  rw [List.flatMap_append, List.flatMap_singleton] at hall
  have hc : c ≠ [] := hne (n, c) (by simp)
  have hcs : ∀ x ∈ cs, x.2 ≠ [] := fun x hx => hne x (List.mem_append_left _ hx)
  have hmany := run_finished hp n cs hc hcs hf he hall hfit
  have hone : run readAt [(n, f ++ [GP_END])] g = finished g n (f ++ [GP_END]) 0 :=
    first_last hp hf he hfit
  rw [hmany, hone]
  by_cases hempty : cs = []
  · subst hempty
    exact iff_of_true (Same.refl _) (.inl rfl)
  by_cases hack : Acknowledges g (f ++ [GP_END])
  · have hk0 : (cs.flatMap Prod.snd).length ≠ 0 := by
      intro hz
      obtain ⟨x, cs, rfl⟩ := List.exists_cons_of_ne_nil hempty
      rw [List.flatMap_cons, List.length_append] at hz
      exact hcs x (List.mem_cons_self ..) (List.length_eq_zero_iff.mp (by omega))
    have hk : (cs.flatMap Prod.snd).length < GP_PORT_READ_BUF_LENGTH := by
      rw [← hall, List.length_append] at hfit
      omega
    rw [ack_same_iff hack hk0 hk]
    simp only [hempty, not_not.mpr hack, false_or]
  · rw [finished_eq hack]
    exact iff_of_true (Same.refl _) (.inr (.inl hack))

/-- The adapter after a command. -/
def asked (z : CmdSend) : Gate :=
  { rx := { mess := blankMess, bufP := none },
    host := (gpSend z (gpInit (boot workingWorld Db.empty))).1 }

/-- The acknowledgement of a new log pointer in three reads. -/
theorem chunks_same_ack :
    Same (run readAt [(⟨1, 0⟩, [GP_INIT, 8, 0]), (⟨2, 0⟩, [0x10, 3, GP_REPLY]),
        (⟨3, 0⟩, [GP_REPLY_ACK, 5, 0x16, GP_END])]
        (asked (adSetBuffAddrDownCmd AD_Q_SHORT 3 8))).host
      (run readAt [(⟨3, 0⟩, [GP_INIT, 8, 0, 0x10, 3, GP_REPLY, GP_REPLY_ACK, 5, 0x16, GP_END])]
        (asked (adSetBuffAddrDownCmd AD_Q_SHORT 3 8))).host :=
  (chunks_same_iff (asked (adSetBuffAddrDownCmd AD_Q_SHORT 3 8))
    [(⟨1, 0⟩, [GP_INIT, 8, 0]), (⟨2, 0⟩, [0x10, 3, GP_REPLY])] ⟨3, 0⟩
    [GP_REPLY_ACK, 5, 0x16, GP_END] [GP_INIT, 8, 0, 0x10, 3, GP_REPLY, GP_REPLY_ACK, 5, 0x16]
    rfl (by decide) (by decide) (by decide) (by decide) (by decide)).mpr (.inr (.inr (by decide)))

/-- Controller 3 acknowledges the poll for a card number in two reads, and the
frame's own bytes become the number of a new card. -/
theorem poll_ack_differs :
    ¬ ∀ (g : Gate) (cs : List (Timeval × List UInt8)) (n : Timeval) (c f : List UInt8),
      g.rx.bufP = none → (∀ x ∈ cs ++ [(n, c)], x.2 ≠ []) →
      (cs ++ [(n, c)]).flatMap Prod.snd = f ++ [GP_END] → f.head? = some GP_INIT → GP_END ∉ f →
      (f ++ [GP_END]).length < GP_PORT_READ_BUF_LENGTH →
      Same (run readAt (cs ++ [(n, c)]) g).host (run readAt [(n, f ++ [GP_END])] g).host := by
  intro hall
  have hsame := hall (asked (pollCmd 3)) [(⟨1, 0⟩, [GP_INIT, 8, 0])] ⟨1, 0⟩
    [0x10, 3, GP_REPLY, GP_REPLY_ACK, 4, 0x17, GP_END]
    [GP_INIT, 8, 0, 0x10, 3, GP_REPLY, GP_REPLY_ACK, 4, 0x17] rfl (by decide) (by decide)
    (by decide) (by decide) (by decide)
  have hcid := congrArg (fun d => (d 3).lastCid) hsame.devices
  revert hcid
  decide

end Libgate.ReceiverChunks
