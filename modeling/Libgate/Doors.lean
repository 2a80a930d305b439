import Libgate.Conversations

/-! Whom the doors open for. A door is opened by `cmd_open_dev`, or when the
reader of its controller shows a card that the database has. Every command to
open one that is seen on the line or waits in a queue is accounted for by such
an event, in order, once. A card that the database does not have is stored when
it is shown, and is let in from then on. -/

namespace Libgate.Doors
open Lib DbLayer Util Send Target Cmd Processor Receiver Layer HostFrame Operations Handlers
open Transmit LineSteps Calls
open CommandQueues (isFirst)
open ReceiverFrames (handed)
open Readings (IsRegs receivAlive_still)

/-! ## What opens a door -/

/-- The commands to open a door queued so far. -/
def doors (h : Host) : List CmdSend := (queueds h).filter isDoor

/-- The card a message shows at the reader of its controller is stored. -/
def ShowsStored (m : ReceivMess) (h : Host) : Prop :=
  IsRegs m h ∧ newCardDue m h ∧
    (dbGetTokenByC h.db (h.devices m.dev.toNat).lastCid).isSome = true

instance (m : ReceivMess) (h : Host) : Decidable (ShowsStored m h) :=
  inferInstanceAs (Decidable (_ ∧ _))

/-- The command a message has the door opened with, if it is queued. -/
def granted (m : ReceivMess) (h : Host) : List CmdSend :=
  if ShowsStored m h ∧ h.world.malloc 0 = true then [doorCmd m.dev.toNat (m.cmdBuff 20)] else []

/-- The commands to open a door that a call queues. -/
def opens (c : Call) (g : Gate) : List CmdSend :=
  match c with
  | .openDev dev subdev => if g.host.world.malloc 0 = true then [openCmd dev subdev] else []
  | .receiv e =>
    match handed e g with
    | some m => granted m (receivAlive g.host)
    | none => []
  | _ => []

section Event
variable {e : PortEvent} {g : Gate}

theorem opens_silent (hm : handed e g = none) : opens (.receiv e) g = [] := by
  simp only [opens, hm]

theorem opens_message {m : ReceivMess} (hm : handed e g = some m) :
    opens (.receiv e) g = granted m (receivAlive g.host) := by
  simp only [opens, hm]

end Event

/-! ## One call -/

/-- Nothing but an ordinary command, or the question of a controller's initialisation. -/
theorem doors_of_steps {h h' : Host} (s : Steps ordinary h h') : doors h' = doors h :=
  Steps.filter_none (R := ordinary) (fun _ hz => hz.2.1) s

theorem doors_inCmd (z : CmdSend) (h : Host) : doors (gpInCmd z h).1 =
    doors h ++ if isDoor z = true ∧ h.world.malloc 0 = true then [z] else [] := by
  rw [doors, queueds_inCmd, List.filter_append]
  congr 1
  cases h.world.malloc 0 with
  | false => simp
  | true =>
    rw [if_pos rfl, filter_single]
    simp

theorem receivAlive_doors (h : Host) : doors (receivAlive h) = doors h := by
  have hmark : doors (marked h) = doors h :=
    doors_of_steps (Steps.silent trivial (marked_silent h))
  rw [receivAlive_eq]
  split
  · exact hmark
  · obtain ⟨h', hs, _, hs'⟩ := gpDevInit_steps h.sendMess.dev.toNat (marked h)
    have hhello : doors (gpInCmd (helloCmd h.sendMess.dev.toNat) h').1 = doors h' := by
      rw [doors_inCmd, if_neg fun hn => Bool.false_ne_true hn.1, List.append_nil]
    rw [doors_of_steps hs', hhello, doors_of_steps hs, hmark]

theorem processPortInput_doors {m : ReceivMess} {h : Host} (hsrc : m.src = h.sendMess.dev) :
    doors (processPortInput m h).1 = doors h ++ granted m h := by
  unfold granted ShowsStored
  by_cases hregs : IsRegs m h
  · rw [processPortInput_regs hregs, doors_of_steps (pollRegs_steps m h)]
    by_cases hdue : newCardDue m h
    · rw [if_pos hdue]
      unfold doorQueued
      by_cases hstored : (dbGetTokenByC h.db (h.devices m.dev.toNat).lastCid).isSome = true
      · have hlook : doors (h.note (.dbGetTokenByC (h.devices m.dev.toNat).lastCid)) = doors h :=
          doors_of_steps (Steps.calm (Calm.note rfl h))
        rw [if_pos hstored, doors_inCmd, hlook]
        simp [hregs, hdue, hstored, isDoor, doorCmd, adCmd, Host.note]
      · rw [if_neg hstored, if_neg fun hn => hstored hn.1.2.2, List.append_nil]
    · rw [if_neg hdue, if_neg fun hn => hdue hn.1.2.1, List.append_nil]
  · rw [doors_of_steps (processPortInput_steps hsrc hregs), if_neg fun hn => hregs hn.1.1,
      List.append_nil]

/-- **What one call opens.** -/
theorem perform_doors (c : Call) (g : Gate) :
    doors (perform c g).host = doors g.host ++ opens c g := by
  rcases call_cases c with ⟨e, rfl⟩ | ⟨dev, subdev, rfl⟩ | hc
  · cases hm : handed e g with
    | none =>
      rw [opens_silent hm, List.append_nil]
      rcases gpReceiv_quiet hm with ⟨_, hs⟩ | ⟨_, hs⟩
      · exact doors_of_steps hs
      · exact (doors_of_steps hs).trans (receivAlive_doors g.host)
    | some m =>
      have hsrc : m.src = (receivAlive g.host).sendMess.dev := by
        rw [ReceiverFrames.receivAlive_sendMess]
        exact (handed_src hm).1
      rw [opens_message hm, ← receivAlive_doors g.host, ← processPortInput_doors hsrc]
      exact doors_of_steps (gpReceiv_message hm)
  · have hdoor : isDoor (openCmd dev subdev) = true := rfl
    have hopen := doors_inCmd (openCmd dev subdev) g.host
    simp only [hdoor, true_and] at hopen
    exact hopen
  · have hnone : opens c g = [] := by
      cases c with
      | receiv e => exact hc.elim
      | openDev dev subdev => exact hc.elim
      | _ => rfl
    rw [hnone, List.append_nil, perform_plain hc]
    exact doors_of_steps (onHost_steps hc g.host)

/-! ## Runs -/

/-- The commands that open doors, in each queue, sent and waiting, are those
queued, in order. -/
structure Accounted (opened : List CmdSend) (h : Host) : Prop where
  first : ((sends h).filter isFirst).filter isDoor ++ h.gpHead.filter isDoor = opened.filter isFirst
  second : ((sends h).filter isSecond).filter isDoor ++ h.gpHead2.filter isDoor =
    opened.filter isSecond

theorem accounted_of_inOrder {h : Host} (o : InOrder h) : Accounted (doors h) h := by
  have hcomm : ∀ p, (doors h).filter p = ((queueds h).filter p).filter isDoor :=
    fun _ => List.filter_comm ..
  refine ⟨?_, ?_⟩
  · rw [hcomm, o.first, List.filter_append]
  · rw [hcomm, o.second, List.filter_append]

/-- The program opens the door, or a card that is stored is shown at it. -/
def Admitted (c : Call) (g : Gate) (z : CmdSend) : Prop :=
  (∃ dev subdev, c = .openDev dev subdev ∧ z = openCmd dev subdev) ∨
    ∃ e m, c = .receiv e ∧ handed e g = some m ∧ ShowsStored m g.host ∧
      z = doorCmd m.dev.toNat (m.cmdBuff 20)

theorem receivAlive_db (h : Host) : (receivAlive h).db = h.db := by
  rw [receivAlive_eq]
  split
  · rfl
  · obtain ⟨h', q, he⟩ := gpDevInit_queued h.sendMess.dev.toNat (marked h)
    rw [he]
    exact q.db

theorem isRegs_receivAlive (m : ReceivMess) (h : Host) : IsRegs m (receivAlive h) ↔ IsRegs m h := by
  rw [IsRegs, ReceiverFrames.receivAlive_sendMess]
  rfl

theorem newCardDue_receivAlive (m : ReceivMess) (h : Host) :
    newCardDue m (receivAlive h) ↔ newCardDue m h := by
  have hfacts := (receivAlive_still h).facts m.dev.toNat
  rw [newCardDue, hfacts.newCidFlag, hfacts.lastEv]
  rfl

theorem showsStored_receivAlive (m : ReceivMess) (h : Host) :
    ShowsStored m (receivAlive h) ↔ ShowsStored m h := by
  have hfacts := (receivAlive_still h).facts m.dev.toNat
  rw [ShowsStored, isRegs_receivAlive, newCardDue_receivAlive, receivAlive_db, hfacts.lastCid]
  rfl

theorem admitted_of_opens {c : Call} {g : Gate} {z : CmdSend} (hz : z ∈ opens c g) :
    Admitted c g z := by
  cases c with
  | openDev dev subdev =>
    change z ∈ (if g.host.world.malloc 0 = true then [openCmd dev subdev] else []) at hz
    split at hz
    · exact .inl ⟨dev, subdev, rfl, List.mem_singleton.mp hz⟩
    · cases hz
  | receiv e =>
    cases hm : handed e g with
    | none =>
      rw [opens_silent hm] at hz
      cases hz
    | some m =>
      rw [opens_message hm] at hz
      unfold granted at hz
      split at hz
      · next hs =>
        exact .inr ⟨e, m, rfl, hm, (showsStored_receivAlive m g.host).mp hs.1,
          List.mem_singleton.mp hz⟩
      · cases hz
  | _ => cases hz

/-- The commands sent to open doors, each admitted by a call of the run. -/
def AllAdmitted (g : Gate) (cs : List Call) : Prop :=
  ∀ z ∈ sends (run perform cs g).host, isDoor z = true →
    ∃ before c after, cs = before ++ c :: after ∧ Admitted c (run perform before g) z

theorem isDoor_class {z : CmdSend} (hz : Conversations.Known z) (hd : isDoor z = true) :
    isFirst z = true ∨ isSecond z = true := by
  have htarget : z.targetN = .turnOn := of_decide_eq_true hd
  rcases hz with hz | ⟨_, hz⟩
  · exact hz.queue.imp (fun hq => (classes_first hq).1) fun hq => (classes_second hq).2
  · rcases Conversations.immediate_kind hz with ⟨d, rfl⟩ | hgo | hr
    · cases htarget
    · rcases hgo.2 with hn | hn | hn
      all_goals
        rw [htarget] at hn
        cases hn
    · rw [htarget] at hr
      cases hr

/-- **Every door opened is accounted for.** In every run, the commands that open a
door, those the program asks for in one queue and those for cards in the other,
are queued by the calls that admit them and leave in that order, each once; so
each one on the line was admitted. -/
theorem doors_accounted (mess : ReceivMess) (w : World) (db : Db) (cs : List Call) :
    Accounted (gather perform opens cs (adapter mess w db))
        (run perform cs (adapter mess w db)).host ∧
      AllAdmitted (adapter mess w db) cs := by
  have hsteps := adapter_library mess w db cs
  have hstart : doors (adapter mess w db).host = [] :=
    doors_of_steps (adapterMain_steps (h := boot w db) ⟨rfl, rfl⟩)
  have hall : doors (run perform cs (adapter mess w db)).host =
      gather perform opens cs (adapter mess w db) := by
    have hrun : doors (run perform cs (adapter mess w db)).host =
        doors (adapter mess w db).host ++ gather perform opens cs (adapter mess w db) :=
      @run_gather Gate Call perform CmdSend opens (fun g => doors g.host) perform_doors cs
        (adapter mess w db)
    simpa only [hstart, List.nil_append] using hrun
  have hacc := accounted_of_inOrder (adapter_inOrder mess w db cs)
  rw [hall] at hacc
  refine ⟨hacc, ?_⟩
  intro z hz hd
  have hopened : z ∈ gather perform opens cs (adapter mess w db) := by
    have hknown := (Conversations.stocked hsteps (Conversations.boot_stocked w db)).sends z hz
    rcases isDoor_class hknown hd with hc | hc
    · have hmem := List.mem_filter.mpr ⟨List.mem_filter.mpr ⟨hz, hc⟩, hd⟩
      exact (List.mem_filter.mp (hacc.first ▸ List.mem_append_left _ hmem)).1
    · have hmem := List.mem_filter.mpr ⟨List.mem_filter.mpr ⟨hz, hc⟩, hd⟩
      exact (List.mem_filter.mp (hacc.second ▸ List.mem_append_left _ hmem)).1
  obtain ⟨before, c, after, hsplit, hc⟩ := mem_gather hopened
  exact ⟨before, c, after, hsplit, admitted_of_opens hc⟩

/-! ## Cards that have been shown -/

/-- The card is in the database. -/
def Stored (cid : UInt64) (db : Db) : Prop := (dbGetTokenByC db cid).isSome = true

instance (cid : UInt64) (db : Db) : Decidable (Stored cid db) := inferInstanceAs (Decidable (_ = _))

/-- The slot at the global bound is free, or the card's own. -/
def HasRoom (cid : UInt64) (h : Host) : Prop :=
  dbGetCidByA h.db h.maxBoundToken.toUInt32 = 0 ∨ dbGetCidByA h.db h.maxBoundToken.toUInt32 = cid

instance (cid : UInt64) (h : Host) : Decidable (HasRoom cid h) := inferInstanceAs (Decidable (_ ∨ _))

theorem pushNewCid_stored {rec : ProcAddCid} {h : Host} (hz : rec.token.addr = 0)
    (hroom : HasRoom rec.token.cid h) : Stored rec.token.cid (pushNewCid rec h).db := by
  have haddr : (if (defaultRights rec).token.addr < GP_START_TICKET_BOUND.toUInt32 then
      h.maxBoundToken.toUInt32 else (defaultRights rec).token.addr) = h.maxBoundToken.toUInt32 := by
    rw [if_pos]
    change rec.token.addr < _
    rw [hz]
    decide
  let t : DbTokenRec := { (defaultRights rec).token with addr := h.maxBoundToken.toUInt32 }
  have hfree : dbConflict h.db t = false := by
    rw [← Bool.not_eq_true, dbConflict_iff]
    intro hn
    exact hroom.elim hn.1 hn.2
  have hadd : Stored rec.token.cid (addCidToAllRec (defaultRights rec) (h.note (.newCid rec))).1.db := by
    unfold addCidToAllRec
    simp only
    rw [show (h.note (.newCid rec)).maxBoundToken = h.maxBoundToken from rfl, haddr]
    exact dbAddToken_stored hfree
  exact (addCidLoop_steps _ _ _).grows.token _ hadd

theorem pollNewCard_stored {dev : Nat} {ev : UInt8} {h : Host}
    (hroom : HasRoom (h.devices dev).lastCid h) :
    Stored (h.devices dev).lastCid (pollNewCard dev ev h).db := by
  cases ht : dbGetTokenByC h.db (h.devices dev).lastCid with
  | some token =>
    have hstored : Stored (h.devices dev).lastCid h.db := by
      unfold Stored
      rw [ht]
      rfl
    have hgrows := (doorQueued_steps dev ev h).grows.trans (pollNewCard_steps dev ev h).grows
    exact hgrows.token _ hstored
  | none =>
    unfold pollNewCard
    simp only [ht]
    exact @pushNewCid_stored (pollRec dev ev (cidToken (h.devices dev).lastCid))
      (h.note (.dbGetTokenByC (h.devices dev).lastCid)) rfl hroom

/-- An event shows the card at the reader of some controller. -/
def ShowsCard (cid : UInt64) (e : PortEvent) (g : Gate) : Prop :=
  ∃ m ∈ handed e g, IsRegs m g.host ∧ newCardDue m g.host ∧
    (g.host.devices m.dev.toNat).lastCid = cid

instance (cid : UInt64) (e : PortEvent) (g : Gate) : Decidable (ShowsCard cid e g) :=
  inferInstanceAs (Decidable (∃ m ∈ handed e g, _))

/-- A card that is shown when there is room for it is stored behind the event. -/
theorem stored_of_shows {cid : UInt64} {e : PortEvent} {g : Gate} (hs : ShowsCard cid e g)
    (hroom : HasRoom cid g.host) : Stored cid (perform (.receiv e) g).host.db := by
  obtain ⟨m, hm, hregs, hdue, rfl⟩ := hs
  have hcid : ((receivAlive g.host).devices m.dev.toNat).lastCid =
      (g.host.devices m.dev.toNat).lastCid := ((receivAlive_still g.host).facts _).lastCid
  have hbound : (receivAlive g.host).maxBoundToken = g.host.maxBoundToken := by
    rw [receivAlive_eq]
    split
    · rfl
    · obtain ⟨h', q, he⟩ := gpDevInit_queued g.host.sendMess.dev.toNat (marked g.host)
      rw [he]
      exact q.maxBoundToken
  have hroom' : HasRoom ((receivAlive g.host).devices m.dev.toNat).lastCid (receivAlive g.host) := by
    rw [HasRoom, receivAlive_db, hbound, hcid]
    exact hroom
  have hstored := @pollNewCard_stored _ (m.cmdBuff 20) _ hroom'
  have hregs' := (isRegs_receivAlive m g.host).mpr hregs
  have hdb : (processPortInput m (receivAlive g.host)).1.db =
      (pollNewCard m.dev.toNat (m.cmdBuff 20) (receivAlive g.host)).db := by
    have hdue' := (newCardDue_receivAlive m g.host).mpr hdue
    rw [processPortInput_regs hregs', pollRegs]
    simp only [if_pos hdue'.1, if_pos hdue'.2]
    rfl
  rw [hcid, ← hdb] at hstored
  exact (gpReceiv_message hm).grows.token _ hstored

/-- What an event shows, by the bytes of its message. -/
theorem shows_of_bytes {cid : UInt64} {e : PortEvent} {g : Gate} {dev ev : UInt8}
    (hm : (handed e g).map (fun m => (m.dev, m.cmdN, m.cmdBuff 20)) = some (dev, 0x06, ev))
    (hasked : g.host.sendMess.evHandler = .cbGetPollResult ∧ g.host.sendMess.target = .getRegs)
    (hdue : ((g.host.devices dev.toNat).newCidFlag ∨ (g.host.devices dev.toNat).lastEv ≠ ev) ∧
      ev &&& 0xFE = 0x02)
    (hcid : (g.host.devices dev.toNat).lastCid = cid) : ShowsCard cid e g := by
  obtain ⟨m, hm, hbytes⟩ := Option.map_eq_some_iff.mp hm
  simp only [Prod.mk.injEq] at hbytes
  obtain ⟨hdev, hcmd, hev⟩ := hbytes
  refine ⟨m, hm, ⟨hasked.1, hasked.2, hcmd⟩, ?_, ?_⟩
  · rw [newCardDue, hdev, hev]
    exact hdue
  · rw [hdev]
    exact hcid

/-- **A card is let in from the second time it is shown.** Once a reader has shown
a card, and there was room to store it, every event of the run behind it that
shows the card again, at whatever controller, queues the command to open the door. -/
theorem let_in_once_shown {cid : UInt64} {e e' : PortEvent} {g : Gate} (cs : List Call)
    (hs : ShowsCard cid e g) (hroom : HasRoom cid g.host)
    (hs' : ShowsCard cid e' (run perform cs (perform (.receiv e) g)))
    (hmem : (receivAlive (run perform cs (perform (.receiv e) g)).host).world.malloc 0 = true) :
    ∃ m ∈ handed e' (run perform cs (perform (.receiv e) g)),
      opens (.receiv e') (run perform cs (perform (.receiv e) g)) =
        [doorCmd m.dev.toNat (m.cmdBuff 20)] := by
  have hstored := (run_library cs (perform (.receiv e) g)).grows.token cid (stored_of_shows hs hroom)
  generalize run perform cs (perform (.receiv e) g) = g' at hs' hmem hstored ⊢
  obtain ⟨m, hm, hregs, hdue, hcid⟩ := hs'
  have hshows : ShowsStored m g'.host := ⟨hregs, hdue, by rw [hcid]; exact hstored⟩
  refine ⟨m, hm, ?_⟩
  rw [opens_message hm, granted,
    if_pos ⟨(showsStored_receivAlive m g'.host).mpr hshows, hmem⟩]

/-- Controller 1 has been asked for its registers, and card 5 read at it. -/
def asked : Gate :=
  { rx := { mess := ReceiverFrames.blankMess, bufP := none }
    host := { boot workingWorld Db.empty with
      fd := 3
      sendMess := { dev := 1, target := .getRegs, evHandler := .cbGetPollResult, isExpected := true }
      devices := Function.update (fun _ => {}) 1
        { isInited := true, lastCid := 5, newCidFlag := true } } }

/-- The registers of controller 1, with event code `ev` and checksum `crc`. -/
def regs (ev crc : UInt8) : PortEvent :=
  .read (.data ([GP_INIT, 8, 0, 0x10, 1, 6] ++ List.replicate 20 0 ++ [ev, crc, GP_END]))

/-- The card is shown at one reader of the controller and then at the other. -/
theorem let_in_at_other_reader :
    ∃ m ∈ handed (regs 3 0x14) (run perform [.tick ⟨1, 0⟩] (perform (.receiv (regs 2 0x15)) asked)),
      opens (.receiv (regs 3 0x14))
          (run perform [.tick ⟨1, 0⟩] (perform (.receiv (regs 2 0x15)) asked)) =
        [doorCmd m.dev.toNat (m.cmdBuff 20)] := by
  have hshown : ShowsCard 5 (regs 2 0x15) asked :=
    @shows_of_bytes _ _ _ 1 2 rfl (by decide) (by decide) rfl
  have hagain : ShowsCard 5 (regs 3 0x14)
      (run perform [.tick ⟨1, 0⟩] (perform (.receiv (regs 2 0x15)) asked)) :=
    @shows_of_bytes _ _ _ 1 3 (by decide +kernel) (by decide +kernel) (by decide +kernel)
      (by decide +kernel)
  exact let_in_once_shown [.tick ⟨1, 0⟩] hshown (by decide) hagain (by decide +kernel)

end Libgate.Doors
