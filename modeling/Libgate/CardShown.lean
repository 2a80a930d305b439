import Libgate.CardAdded
import Libgate.Doors

/-! A card that is shown, from the reader to the controllers. Somebody shows a card
that the database does not have: it is stored, every active controller's commands
are queued for it, they leave in the order of the queue among whatever else there
is to send, and when they have, each of these controllers has the card. -/

namespace Libgate.CardShown
open Lib Lib.Memory DbLayer Util Send Target Cmd Processor Receiver Layer HostFrame Operations Handlers
open Queueing CardAtomicity CardImage CardAdded Transmit LineSteps Calls Doors
open CommandQueues (isFirst)
open Conversations (Known stocked boot_stocked)
open Readings (IsRegs receivAlive_still)
open ReceiverFrames (handed)
open Wire (line)

/-! ## What gets into the bank -/

section Bank
variable {d bank : UInt8}

theorem writesCards_inCards {z : CmdSend} (hz : writesCards d bank z = true) : inCards z = true := by
  unfold writesCards writeIn Wire.packet at hz
  simp only at hz
  split at hz
  · next b area _ _ _ _ hdata =>
    split at hz
    · next hw =>
      obtain ⟨_, hcmd, _, harea⟩ := hw
      simp [inCards, hcmd, hdata, harea]
    · cases hz
  · cases hz

/-- What is sent at once writes nothing there, so a command that does has waited. -/
theorem class_of_writesCards {z : CmdSend} (hk : Known z) (hz : writesCards d bank z = true) :
    isFirst z = true ∨ isSecond z = true := by
  rcases hk with hk | ⟨_, hk⟩
  · exact hk.queue.imp (fun hq => (classes_first hq).1) fun hq => (classes_second hq).2
  · have hcards := writesCards_inCards hz
    rw [hk.cards] at hcards
    cases hcards

/-- No command that writes in the bank waits. -/
def NoneWaiting (d bank : UInt8) (h : Host) : Prop := (waiting h).filter (writesCards d bank) = []

instance (d bank : UInt8) (h : Host) : Decidable (NoneWaiting d bank h) :=
  inferInstanceAs (Decidable (_ = _))

/-- None has been queued between the two. -/
def NoneQueued (d bank : UInt8) (h h' : Host) : Prop :=
  (queueds h').filter (writesCards d bank) = (queueds h).filter (writesCards d bank)

instance (d bank : UInt8) (h h' : Host) : Decidable (NoneQueued d bank h h') :=
  inferInstanceAs (Decidable (_ = _))

theorem noneWaiting_iff {h : Host} : NoneWaiting d bank h ↔
    h.gpHead.filter (writesCards d bank) = [] ∧ h.gpHead2.filter (writesCards d bank) = [] := by
  rw [NoneWaiting, Transmit.waiting, List.filter_append, List.append_eq_nil_iff]

/-- When only the second queue has writes for the bank, and in the end none, these
are what is sent to it, in order. -/
theorem filter_sent {h h' : Host} {sent : List CmdSend} (s : Steps library h h')
    (o : InOrder h) (o' : InOrder h') (hs : sends h' = sends h ++ sent)
    (hknown : ∀ z ∈ sent, Known z) (hfirst : h.gpHead.filter (writesCards d bank) = [])
    (hnone : NoneQueued d bank h h') (hafter : NoneWaiting d bank h') :
    sent.filter (writesCards d bank) = h.gpHead2.filter (writesCards d bank) := by
  obtain ⟨queued, _, hq⟩ := s.added
  obtain ⟨hone, htwo⟩ := o.passed o' hs hq
  obtain ⟨hafter1, hafter2⟩ := noneWaiting_iff.mp hafter
  have hqueued : queued.filter (writesCards d bank) = [] := by
    rw [NoneQueued, hq, List.filter_append] at hnone
    exact List.append_right_eq_self.mp hnone
  have hpick : ∀ p, (queued.filter p).filter (writesCards d bank) = [] := by
    intro p
    rw [List.filter_comm, hqueued]
    rfl
  -- nothing of the first class writes in the bank
  have hfirst' : (sent.filter isFirst).filter (writesCards d bank) = [] := by
    have hboth := congrArg (List.filter (writesCards d bank)) hone
    rw [List.filter_append, List.filter_append, hfirst, hafter1, hpick] at hboth
    simpa using hboth
  have hsecond : (sent.filter isSecond).filter (writesCards d bank) =
      h.gpHead2.filter (writesCards d bank) := by
    have hboth := congrArg (List.filter (writesCards d bank)) htwo
    rw [List.filter_append, List.filter_append, hafter2, hpick] at hboth
    simpa using hboth
  rw [← hsecond, List.filter_filter]
  refine List.filter_congr ?_
  intro z hz
  cases hw : writesCards d bank z with
  | false => rfl
  | true =>
    have hclass := class_of_writesCards (hknown z hz) hw
    have hnot : isFirst z ≠ true := by
      intro hf
      have hmem := List.mem_filter.mpr ⟨List.mem_filter.mpr ⟨hz, hf⟩, hw⟩
      rw [hfirst'] at hmem
      cases hmem
    rw [hclass.resolve_left hnot]
    rfl

end Bank

/-! ## What the handler queues -/

/-- A card that nobody knows is shown by an event, at a controller that is initialised.
There is room for it where the global bound lies in the card memory, and there is
memory for four commands a controller. -/
structure NewCard (cid : UInt64) (e : PortEvent) (g : Gate) : Prop where
  shown : ShowsCard cid e g
  unknown : ¬ Stored cid g.host.db
  room : HasRoom cid g.host
  bound : 0xC0 ≤ g.host.maxBoundToken.toNat
  inited : (g.host.devices g.host.sendMess.dev.toNat).isInited = true
  memory : AllocatesNext (4 * g.host.maxDevN) g.host

/-- The token of a new card: at the global bound, with the rights of everybody. -/
def newToken (cid : UInt64) (h : Host) : DbTokenRec :=
  { cid := cid, attr := 0, scheduleMask := 0xFF, addr := h.maxBoundToken.toUInt32, zoneMask := 0 }

/-- The record `cmd_add_cid_to_all` gets for a card that is shown. -/
def newRec (m : ReceivMess) (cid : UInt64) : ProcAddCid :=
  defaultRights (pollRec m.dev.toNat (m.cmdBuff 20) (cidToken cid))

/-- The host it gets. -/
def shownHost (m : ReceivMess) (cid : UInt64) (h : Host) : Host :=
  ((marked h).note (.dbGetTokenByC cid)).note
    (.newCid (pollRec m.dev.toNat (m.cmdBuff 20) (cidToken cid)))

section Shown
variable {m : ReceivMess} {cid : UInt64} {h : Host}

theorem tokenToStore_new : tokenToStore (newRec m cid) h = newToken cid h := by
  have hlow : (newRec m cid).token.addr < GP_START_TICKET_BOUND.toUInt32 := by
    change (0 : UInt32) < _
    decide
  rw [tokenToStore, if_pos hlow]
  rfl

theorem wireAddr_new (hb : 0xC0 ≤ h.maxBoundToken.toNat) (d : Nat) :
    wireAddr (newRec m cid) h d = h.maxBoundToken := by
  have haddr : (tokenToStore (newRec m cid) h).addr.toUInt16 = h.maxBoundToken := by
    rw [tokenToStore_new]
    exact UInt16.toUInt16_toUInt32 _
  have hhigh : ¬ h.maxBoundToken < GP_START_TICKET_BOUND := Nat.not_lt.mpr hb
  unfold wireAddr cmdAddr callFor
  simp only [haddr]
  exact if_neg hhigh

theorem free_of_room (hb : 0xC0 ≤ h.maxBoundToken.toNat) (hroom : HasRoom cid h) (d : Nat) :
    ¬ Blocked (newRec m cid) h d := by
  have haddr : cmdAddr (callFor (newRec m cid) h d) h = h.maxBoundToken := wireAddr_new hb d
  have hcid : (callFor (newRec m cid) h d).token.cid = cid := rfl
  unfold Blocked cmdConflict
  rw [haddr, hcid]
  simp only [Bool.and_eq_true, bne_iff_ne]
  exact fun hn => hroom.elim hn.1 hn.2

end Shown

/-! ## The event -/

section Event
variable {m : ReceivMess} {cid : UInt64} {g : Gate}

/-- The handler passes the card on to `cmd_add_cid_to_all`. -/
theorem processPortInput_new (hregs : IsRegs m g.host) (hdue : newCardDue m g.host)
    (hcid : (g.host.devices m.dev.toNat).lastCid = cid) (hno : ¬ Stored cid g.host.db)
    (hinit : (g.host.devices g.host.sendMess.dev.toNat).isInited = true) :
    ∃ f, (processPortInput m (receivAlive g.host)).1 =
      (cmdAddCidToAll (newRec m cid) (shownHost m cid g.host)).1.setDev m.dev.toNat f := by
  have hmark : receivAlive g.host = marked g.host := by
    rw [receivAlive_eq, if_pos hinit]
  have hregs' : IsRegs m (marked g.host) := hmark ▸ (isRegs_receivAlive m g.host).mpr hregs
  have hdue' : newCardDue m (marked g.host) := hmark ▸ (newCardDue_receivAlive m g.host).mpr hdue
  have hcid' : ((marked g.host).devices m.dev.toNat).lastCid = cid := by
    rw [← hmark, ← hcid]
    exact ((receivAlive_still g.host).facts _).lastCid
  have hnone : dbGetTokenByC (marked g.host).db cid = none := by
    have hdb : (marked g.host).db = g.host.db := hmark ▸ receivAlive_db g.host
    rw [hdb]
    simpa [Stored] using hno
  have hpush : pollNewCard m.dev.toNat (m.cmdBuff 20) (marked g.host) =
      (cmdAddCidToAll (newRec m cid) (shownHost m cid g.host)).1 := by
    unfold pollNewCard
    simp only [hcid', hnone]
    rfl
  rw [hmark, processPortInput_regs hregs', pollRegs]
  simp only [if_pos hdue'.1, if_pos hdue'.2, hpush]
  exact ⟨_, rfl⟩

/-- What the addition is made from is as before the event. -/
structure AsBefore (h h' : Host) : Prop where
  gpHead : h'.gpHead = h.gpHead
  gpHead2 : h'.gpHead2 = h.gpHead2
  sends : sends h' = sends h
  malloc : h'.world.malloc = h.world.malloc
  db : h'.db = h.db
  maxDevN : h'.maxDevN = h.maxDevN
  maxBoundToken : h'.maxBoundToken = h.maxBoundToken
  cidRevert : ∀ d, (h'.devices d).cidRevert = (h.devices d).cidRevert
  boundToken : ∀ d, (h'.devices d).boundToken = (h.devices d).boundToken
  activ : ∀ d, (h.devices d).activ = true → (h'.devices d).activ = true

theorem AsBefore.memory {h h' : Host} (a : AsBefore h h') (ha : AllocatesNext (4 * h.maxDevN) h) :
    AllocatesNext (4 * h'.maxDevN) h' := by
  rw [AllocatesNext, a.maxDevN, a.malloc]
  exact ha

theorem shownHost_asBefore (m : ReceivMess) (cid : UInt64) (h : Host) :
    AsBefore h (shownHost m cid h) := by
  have hdev : ∀ d, ((marked h).devices d).cidRevert = (h.devices d).cidRevert ∧
      ((marked h).devices d).boundToken = (h.devices d).boundToken ∧
      ((h.devices d).activ = true → ((marked h).devices d).activ = true) := by
    intro d
    unfold marked
    by_cases hd : d = h.sendMess.dev.toNat
    · rw [hd, Host.setDev_devices_self]
      exact ⟨rfl, rfl, fun _ => rfl⟩
    · rw [Host.setDev_devices_ne _ _ hd]
      exact ⟨rfl, rfl, id⟩
  have hnotes := (Silent.note (e := .dbGetTokenByC cid) rfl (marked h)).trans
    (Silent.note (e := .newCid (pollRec m.dev.toNat (m.cmdBuff 20) (cidToken cid))) rfl _)
  exact ⟨rfl, rfl, hnotes.sends.trans (marked_silent h).sends, rfl, rfl, rfl, rfl,
    fun d => (hdev d).1, fun d => (hdev d).2.1, fun d => (hdev d).2.2⟩

end Event

/-! ## From the reader to the controllers -/

/-- A state of some run. -/
def Reached (g : Gate) : Prop := ∃ mess w db cs, run perform cs (adapter mess w db) = g

theorem Reached.steps {g : Gate} (hg : Reached g) : ∃ w db, Steps library (boot w db) g.host := by
  obtain ⟨mess, w, db, cs, rfl⟩ := hg
  exact ⟨w, db, adapter_library mess w db cs⟩

section Run
variable {cid : UInt64} {e : PortEvent} {g : Gate} {m : ReceivMess} {d : Nat} {bank : UInt8}

/-- Nothing is in the way of the card at any controller. -/
theorem toAll_new (hnew : NewCard cid e g) (m : ReceivMess) :
    (cmdAddCidToAll (newRec m cid) (shownHost m cid g.host)).2 = 1 := by
  have a := shownHost_asBefore m cid g.host
  have hroom : HasRoom cid (shownHost m cid g.host) := by
    rw [HasRoom, a.db, a.maxBoundToken]
    exact hnew.room
  refine toAll_result.mpr ?_
  intro d _ _
  exact free_of_room (a.maxBoundToken ▸ hnew.bound) hroom d

theorem tokenToStore_shown (cid : UInt64) (m : ReceivMess) (h : Host) :
    tokenToStore (newRec m cid) (shownHost m cid h) = newToken cid h := by
  rw [tokenToStore_new, newToken, (shownHost_asBefore m cid h).maxBoundToken, newToken]

/-- What the commands for the card come to at an active controller. -/
theorem added_new (hnew : NewCard cid e g) (hbyte : g.host.maxDevN ≤ 255)
    (hd : d ∈ devNums g.host) (hact : (g.host.devices d).activ) (hbank : bank = 0 ∨ bank = 1)
    (m : ReceivMess) (mem : Nat → UInt8) :
    Added (g.host.devices d).cidRevert (newToken cid g.host) g.host.maxBoundToken
      (g.host.devices d).boundToken mem
      (storeAll mem (written (UInt8.ofNat d) bank
        (queuedToAll (newRec m cid) (shownHost m cid g.host)))) := by
  have a := shownHost_asBefore m cid g.host
  have hbound : 0xC0 ≤ (shownHost m cid g.host).maxBoundToken.toNat := by
    rw [a.maxBoundToken]
    exact hnew.bound
  have hmem := a.memory hnew.memory
  have hdev : d ∈ devNums (shownHost m cid g.host) := by
    rw [devNums, a.maxDevN]
    exact hd
  have hwritten := written_queuedToAll hmem (a.maxDevN ▸ hbyte) (toAll_new hnew m) hdev
    (a.activ d hact) hbank
  have hadded := @added_of_storeAll (callFor (newRec m cid) (shownHost m cid g.host) d)
    (shownHost m cid g.host) d _ hbound mem
  have htoken : (callFor (newRec m cid) (shownHost m cid g.host) d).token = newToken cid g.host :=
    tokenToStore_shown cid m g.host
  rw [a.cidRevert, a.boundToken, htoken] at hadded
  rw [hwritten, wireAddr_new hbound, ← a.maxBoundToken]
  exact hadded

section Handler
variable (hnew : NewCard cid e g) (hregs : IsRegs m g.host) (hdue : newCardDue m g.host)
  (hcid : (g.host.devices m.dev.toNat).lastCid = cid)
include hnew hregs hdue hcid

/-- The queues behind the handler: the commands for the card wait at the end of the
second, and nothing has been sent. -/
theorem handled_new :
    let h := (processPortInput m (receivAlive g.host)).1
    h.gpHead = g.host.gpHead ∧
      h.gpHead2 = g.host.gpHead2 ++ queuedToAll (newRec m cid) (shownHost m cid g.host) ∧
      sends h = sends g.host := by
  have a := shownHost_asBefore m cid g.host
  have hmem := a.memory hnew.memory
  have hone := toAll_new hnew m
  obtain ⟨f, hhost⟩ := processPortInput_new hregs hdue hcid hnew.unknown hnew.inited
  have honly := (cmdAddCidToAll_steps (newRec m cid) (shownHost m cid g.host)).onlyQueues
    (fun _ _ hn => hn) fun hn => hn
  have hhead := (toAll_appends hmem (toAll_result.mp hone)).gpHead
  have hqueue := toAll_queues hmem hone
  rw [a.gpHead2] at hqueue
  rw [hhost]
  exact ⟨hhead.trans a.gpHead, hqueue, honly.sends.trans a.sends⟩

/-- Behind it the database has the card at the global bound. -/
theorem stored_new :
    dbGetCidByA (processPortInput m (receivAlive g.host)).1.db g.host.maxBoundToken.toUInt32 = cid := by
  have a := shownHost_asBefore m cid g.host
  obtain ⟨f, hhost⟩ := processPortInput_new hregs hdue hcid hnew.unknown hnew.inited
  have hfree : dbConflict g.host.db (newToken cid g.host) = false := by
    rw [← Bool.not_eq_true, dbConflict_iff]
    exact fun hn => hnew.room.elim hn.1 hn.2
  have hdb : (cmdAddCidToAll (newRec m cid) (shownHost m cid g.host)).1.db =
      (dbAddToken g.host.db (newToken cid g.host)).1 := by
    rw [toAll_db, ← tokenToStore_shown, ← a.db]
    rfl
  have hstored : (processPortInput m (receivAlive g.host)).1.db =
      (dbAddToken g.host.db (newToken cid g.host)).1 := by
    rw [hhost]
    exact hdb
  rw [hstored, dbAddToken_ok hfree]
  simp [dbGetCidByA, newToken]

/-- What is sent behind the event to the bank is what the handler has queued. -/
theorem sent_of_shown {h : Host} {sent : List CmdSend} (hg : Reached g)
    (hm : handed e g = some m) (s : Steps library (perform (.receiv e) g).host h)
    (hsent : sends h = sends g.host ++ sent)
    (hbefore : NoneWaiting (UInt8.ofNat d) bank g.host)
    (hnone : NoneQueued (UInt8.ofNat d) bank (perform (.receiv e) g).host h)
    (hafter : NoneWaiting (UInt8.ofNat d) bank h) :
    sent.filter (writesCards (UInt8.ofNat d) bank) =
      (queuedToAll (newRec m cid) (shownHost m cid g.host)).filter
        (writesCards (UInt8.ofNat d) bank) := by
  obtain ⟨hhead, hhead2, hquiet⟩ := handled_new hnew hregs hdue hcid
  obtain ⟨w, db, hboot⟩ := hg.steps
  have hsrc : m.src = (receivAlive g.host).sendMess.dev := by
    rw [ReceiverFrames.receivAlive_sendMess]
    exact (handed_src hm).1
  have hto : Steps library (boot w db) (processPortInput m (receivAlive g.host)).1 :=
    hboot.trans ((receivAlive_library g.host).trans (processPortInput_library hsrc))
  have hon : Steps library (processPortInput m (receivAlive g.host)).1 h :=
    ((gpReceiv_message hm).mono ordinary_within).trans s
  have hsame : queueds (perform (.receiv e) g).host =
      queueds (processPortInput m (receivAlive g.host)).1 := by
    obtain ⟨_, heq | heq⟩ := ReceiverFrames.gpReceiv_handed hm
    · exact (congrArg queueds heq).trans (queueds_putCmd _)
    · exact congrArg queueds heq
  have hknown : ∀ z ∈ sent, Known z := by
    intro z hz
    refine (stocked (hto.trans hon) (boot_stocked w db)).sends z ?_
    rw [hsent]
    exact List.mem_append_right _ hz
  obtain ⟨hwait1, hwait2⟩ := noneWaiting_iff.mp hbefore
  rw [NoneQueued, hsame] at hnone
  rw [← hquiet] at hsent
  rw [← hhead] at hwait1
  have horder : ∀ {g : Host}, Steps library (boot w db) g → InOrder g :=
    fun s => s.inOrder library_classed ⟨rfl, rfl⟩
  rw [filter_sent hon (horder hto) (horder (hto.trans hon)) hsent hknown hwait1 hnone hafter, hhead2,
    List.filter_append, hwait2, List.nil_append]

end Handler

/-- What has been sent since. -/
def sentSince (g g' : Gate) : List CmdSend := (sends g'.host).drop (sends g.host).length

/-- **A card that is shown gets to every controller.** A reader shows a card that is
not in the database, and there is room for it. However the run goes on, the database
has it in the slot at the global bound; and as soon as no write to the card memory of
an active controller waits any more, if nobody has queued another one meanwhile, whoever
stores what is heard on the line has in either bank the card in that slot, with
everybody's rights, the controller's bound above it, and all else as it was. -/
theorem shown_card_reaches (cs : List Call) (hg : Reached g) (hnew : NewCard cid e g)
    (hd : d ∈ devNums g.host) (hact : (g.host.devices d).activ) (hbank : bank = 0 ∨ bank = 1)
    (hbefore : NoneWaiting (UInt8.ofNat d) bank g.host)
    (hnone : NoneQueued (UInt8.ofNat d) bank (perform (.receiv e) g).host
      (run perform cs (perform (.receiv e) g)).host)
    (hafter : NoneWaiting (UInt8.ofNat d) bank (run perform cs (perform (.receiv e) g)).host)
    (mem : Nat → UInt8) :
    (cid ≠ 0 → dbGetCidByA (run perform cs (perform (.receiv e) g)).host.db
        g.host.maxBoundToken.toUInt32 = cid) ∧
      Added (g.host.devices d).cidRevert (newToken cid g.host) g.host.maxBoundToken
        (g.host.devices d).boundToken mem
        (remembers (UInt8.ofNat d) bank
          (line (sentSince g (run perform cs (perform (.receiv e) g)))) mem) := by
  obtain ⟨m, hm, hregs, hdue, hcid⟩ := hnew.shown
  obtain ⟨w, db, hboot⟩ := hg.steps
  have s := run_library cs (perform (.receiv e) g)
  have hmore : Steps library g.host (run perform cs (perform (.receiv e) g)).host :=
    (perform_library (.receiv e) g).trans s
  have hsent : sends (run perform cs (perform (.receiv e) g)).host =
      sends g.host ++ sentSince g (run perform cs (perform (.receiv e) g)) :=
    (List.prefix_iff_eq_append.mp hmore.sent).symm
  refine ⟨?_, ?_⟩
  · intro hne
    have hstored := stored_new hnew hregs hdue hcid
    have hkept : Steps library (processPortInput m (receivAlive g.host)).1
        (run perform cs (perform (.receiv e) g)).host :=
      ((gpReceiv_message hm).mono ordinary_within).trans s
    rw [hkept.grows.slot _ (hstored ▸ hne), hstored]
  · have hbyte : g.host.maxDevN ≤ 255 := hboot.maxDevN (Nat.le_of_ble_eq_true rfl)
    have hwritten := sent_of_shown hnew hregs hdue hcid hg hm s hsent hbefore hnone hafter
    rw [remembers_sent hwritten]
    exact added_new hnew hbyte hd hact hbank m mem

end Run

/-- Controller 1 acknowledges a command. -/
def ack : Call := .receiv (.read (.data [GP_INIT, 8, 0, 0x10, 1, 0x55, 0x55, 7, 0x16, GP_END]))

/-- Controller 1 is polled, and initialised when it has answered; polled again, it names
a card. -/
def cardRead : Gate :=
  run perform ([.setMaxDev 1] ++ timers 1 10 ++ List.replicate 12 ack ++ timers 20 2 ++
      [.receiv (.read (.data [GP_INIT, 8, 0, 0x10, 1, 4, 1, 2, 3, 4, 5, 6, 0x12, GP_END]))])
    (adapter ReceiverFrames.blankMess workingWorld Db.empty)

/-- The card is shown, and four commands are acknowledged. -/
theorem shown_card_at_one :
    dbGetCidByA (run perform (List.replicate 4 ack)
        (perform (.receiv (regs 2 0x15)) cardRead)).host.db (0xC0 : UInt16).toUInt32 =
        0x060504030201 ∧
      Added false (newToken 0x060504030201 cardRead.host) 0xC0 0xC0 (fun _ => 0)
        (remembers 1 0 (line (sentSince cardRead
          (run perform (List.replicate 4 ack) (perform (.receiv (regs 2 0x15)) cardRead))))
          fun _ => 0) := by
  have hg : Reached cardRead := ⟨_, _, _, _, rfl⟩
  have hnew : NewCard 0x060504030201 (regs 2 0x15) cardRead :=
    ⟨by decide +kernel, by decide +kernel, by decide +kernel, by decide +kernel, by decide +kernel,
      (adapter_library ReceiverFrames.blankMess workingWorld Db.empty _).allocates (fun _ => rfl)
        |>.next _⟩
  have hadded := @shown_card_reaches _ _ _ 1 0 (List.replicate 4 ack) hg hnew (by decide +kernel)
    (by decide +kernel) (.inl rfl) (by decide +kernel) (by decide +kernel) (by decide +kernel)
    fun _ => 0
  have hrevert : (cardRead.host.devices 1).cidRevert = false := by decide +kernel
  have hmax : cardRead.host.maxBoundToken = 0xC0 := by decide +kernel
  have hbound : (cardRead.host.devices 1).boundToken = 0xC0 := by decide +kernel
  rw [hrevert, hmax, hbound] at hadded
  exact ⟨hadded.1 (by decide), hadded.2⟩

end Libgate.CardShown
