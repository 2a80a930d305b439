import Libgate.Arrivals

/-! What a controller's record holds of its replies: the last card number, the
byte order it is read in, the last event code and the bounds of the log. They
change only where a handler puts a reply into them, and a card number is named
outside only by the poll handler. -/

namespace Libgate.Readings
open Lib Lib.Memory DbLayer Util Send Target Cmd Processor Receiver Layer HostFrame Handlers
open Operations Transmit Arrivals
open ReceiverFrames (Link Holds handed)

/-! ## Records and card numbers -/

/-- The fields of a record that replies are put into, but `bound_token`. -/
structure SameFacts (r r' : GpDev) : Prop where
  lastCid : r'.lastCid = r.lastCid
  cidRevert : r'.cidRevert = r.cidRevert
  newCidFlag : r'.newCidFlag = r.newCidFlag
  lastEv : r'.lastEv = r.lastEv
  boundUp : r'.boundUp = r.boundUp
  boundDown : r'.boundDown = r.boundDown

theorem SameFacts.refl (r : GpDev) : SameFacts r r := ⟨rfl, rfl, rfl, rfl, rfl, rfl⟩

theorem SameFacts.trans {r r' r'' : GpDev} (s : SameFacts r r') (s' : SameFacts r' r'') :
    SameFacts r r'' :=
  ⟨s'.lastCid.trans s.lastCid, s'.cidRevert.trans s.cidRevert, s'.newCidFlag.trans s.newCidFlag,
    s'.lastEv.trans s.lastEv, s'.boundUp.trans s.boundUp, s'.boundDown.trans s.boundDown⟩

/-- A record that no reply is put into. -/
structure SameRecord (r r' : GpDev) : Prop extends SameFacts r r' where
  boundToken : r'.boundToken = r.boundToken

theorem SameRecord.refl (r : GpDev) : SameRecord r r := ⟨SameFacts.refl r, rfl⟩

theorem SameRecord.trans {r r' r'' : GpDev} (s : SameRecord r r') (s' : SameRecord r' r'') :
    SameRecord r r'' :=
  ⟨s.toSameFacts.trans s'.toSameFacts, s'.boundToken.trans s.boundToken⟩

/-- The card number a handler is called with or the database is asked for. -/
def cardOf : Obs → Option UInt64
  | .newCid rec => some rec.token.cid
  | .foundCid rec => some rec.token.cid
  | .dbGetTokenByC cid => some cid
  | _ => none

/-- The card numbers named so far. -/
def cards (h : Host) : List UInt64 := h.trace.filterMap cardOf

/-- No record has a new reading and no card is named. -/
structure Still (h h' : Host) : Prop where
  facts : ∀ d, SameRecord (h.devices d) (h'.devices d)
  cards : cards h' = cards h

namespace Still
variable {h h' h'' : Host}

theorem of_eq (hd : h'.devices = h.devices) (ht : h'.trace = h.trace) : Still h h' := by
  refine ⟨?_, ?_⟩
  · intro d
    rw [hd]
    exact SameRecord.refl _
  · rw [Readings.cards, ht]
    rfl

theorem refl (h : Host) : Still h h := of_eq rfl rfl

theorem trans (s : Still h h') (s' : Still h' h'') : Still h h'' :=
  ⟨fun d => (s.facts d).trans (s'.facts d), s'.cards.trans s.cards⟩

theorem note {e : Obs} (he : cardOf e = none) (h : Host) : Still h (h.note e) := by
  refine ⟨fun _ => SameRecord.refl _, ?_⟩
  rw [Readings.cards, Host.note, List.filterMap_append, List.filterMap_cons_none he]
  exact List.append_nil _

theorem queued {P : CmdSend → Prop} (q : Queued P h h') : Still h h' := by
  obtain ⟨zs, _, ht⟩ := q.trace
  refine ⟨?_, ?_⟩
  · intro d
    rw [q.devices]
    exact SameRecord.refl _
  · have hnone : (zs.map Obs.queued).filterMap cardOf = [] := by
      rw [List.filterMap_map]
      exact List.filterMap_eq_nil_iff.mpr fun _ _ => rfl
    rw [Readings.cards, ht, List.filterMap_append, hnone]
    exact List.append_nil _

theorem setDev (d : Nat) (f : GpDev → GpDev) (h : Host) (hf : ∀ r, SameRecord r (f r)) :
    Still h (h.setDev d f) := by
  refine ⟨?_, rfl⟩
  intro i
  by_cases hi : i = d
  · rw [hi, Host.setDev_devices_self]
    exact hf _
  · rw [Host.setDev_devices_ne _ _ hi]
    exact SameRecord.refl _

/-- The command outstanding is settled and a record marked. -/
theorem settle (d : Nat) (f : GpDev → GpDev) (h : Host) (hf : ∀ r, SameRecord r (f r)) :
    Still h ({ h with sendMess := { h.sendMess with isExpected := false } }.setDev d f) :=
  (setDev d f h hf).trans (of_eq rfl rfl)

theorem ite {c : Prop} [Decidable c] (s : Still h h') (s' : Still h h'') :
    Still h (if c then h' else h'') := by
  split
  · exact s
  · exact s'

theorem send (z : CmdSend) (h : Host) : Still h (gpSend z h).1 := by
  refine ⟨?_, ?_⟩
  · intro d
    obtain ⟨t, ht⟩ := gpSend_device z h d
    rw [ht]
    exact ⟨⟨rfl, rfl, rfl, rfl, rfl, rfl⟩, rfl⟩
  · rw [Readings.cards, gpSend_trace, List.filterMap_append]
    exact List.append_nil _

theorem orQueue (z : CmdSend) (h : Host) : Still h (sendOrQueue z h).1 := by
  unfold sendOrQueue
  split
  · exact send z h
  · exact queued (gpInCmd_queued z h)

theorem putCmd (h : Host) : Still h (gpPutCmd h).1 := by
  rw [gpPutCmd_eq]
  cases (waiting h).head? with
  | none => exact refl h
  | some z =>
    obtain ⟨_, _, he⟩ := dequeued_rest h
    have htaken : Still h (dequeued h) := by
      rw [he]
      exact of_eq rfl rfl
    exact htaken.trans (send z _)

theorem reconnect (b : Bool) (h : Host) : Still h (gpReconnect b h).1 := by
  obtain ⟨_, _, _, he⟩ := gpReconnect_rest b h
  rw [he]
  exact of_eq rfl rfl

theorem skip (d : Nat) (h : Host) : Still h (skipTo d h) := by
  refine ⟨?_, rfl⟩
  intro i
  change SameRecord (h.devices i) (if _ then _ else _)
  split
  · exact ⟨⟨rfl, rfl, rfl, rfl, rfl, rfl⟩, rfl⟩
  · exact SameRecord.refl _

theorem idle (h : Host) : Still h (gpSendIdle h).1 := by
  rw [gpSendIdle_eq]
  cases polled h with
  | some d => exact (skip d h).trans (send (pollCmd d) _)
  | none => exact (skip _ h).trans (of_eq rfl rfl)

theorem devInit (d : Nat) (h : Host) : Still h (gpDevInit d h) := by
  obtain ⟨h', q, he⟩ := gpDevInit_queued d h
  have htime : Still h (readLocaltime h) := of_eq rfl rfl
  rw [he]
  exact htime.trans ((queued q).trans
    (setDev d _ h' fun _ => ⟨⟨rfl, rfl, rfl, rfl, rfl, rfl⟩, rfl⟩))

end Still

/-! ## Events without a reply -/

theorem receivAlive_still (h : Host) : Still h (receivAlive h) := by
  have hmark := Still.settle h.sendMess.dev.toNat (fun d =>
    { d with lastRead := tv2ms h.world.now, activ := true, timeoutCount := 0 }) h
      fun _ => ⟨⟨rfl, rfl, rfl, rfl, rfl, rfl⟩, rfl⟩
  unfold receivAlive
  simp only
  exact Still.ite hmark (hmark.trans (Still.devInit ..))

theorem receivTimeout_still (h : Host) : Still h (receivTimeout h) := by
  have hcharge : ∀ g, Still g (charge g) := by
    intro g
    unfold charge
    exact Still.ite (Still.settle g.sendMess.dev.toNat
      (fun d => { d with timeoutCount := d.timeoutCount + 1 }) g
        fun _ => ⟨⟨rfl, rfl, rfl, rfl, rfl, rfl⟩, rfl⟩) (Still.refl g)
  have hnext : ∀ g, Still g (sendNext g) :=
    fun g => Still.ite (Still.putCmd g) ((Still.putCmd g).trans (Still.idle _))
  rw [receivTimeout_eq]
  exact Still.ite ((Still.reconnect false h).trans ((hcharge _).trans (hnext _)))
    (Still.reconnect false h)

/-- What an outcome does that is no message. -/
theorem dispatch_still {k : RxKind} (hk : k.isInput = false) (m : ReceivMess) (h : Host) :
    Still h (dispatch m k h) := by
  have hclose : ∀ g : Host, Still g (gpClose g) := fun _ => Still.of_eq rfl rfl
  cases k with
  | readError => exact (hclose h).trans (Still.putCmd _)
  | eof => exact (Still.send _ h).trans (hclose _)
  | noBegin => exact Still.reconnect false h
  | nack => exact Still.putCmd h
  | ack => cases hk
  | reply => cases hk
  | _ => exact Still.refl h

/-- A message is dealt with by its handler; what is sent behind it is still. -/
theorem dispatch_input {k : RxKind} (hk : k.isInput = true) (m : ReceivMess) (h : Host) :
    Still (processPortInput m h).1 (dispatch m k h) := by
  cases k with
  | ack => exact Still.putCmd _
  | reply =>
    unfold dispatch
    exact Still.ite (Still.refl _) (Still.putCmd _)
  | _ => cases hk

/-! ## Replies -/

/-- The card number in a `GET_CID` reply, read in a byte order. -/
def cidOf (m : ReceivMess) (revert : Bool) : UInt64 :=
  bin2int m.buf ReceivMess.cmdBuffOff (sizeT m.len) revert

/-- The byte order an information reply establishes. -/
def infoOrder (m : ReceivMess) : Bool :=
  decide ((if m.cmdBuff 2 &&& 0x08 ≠ 0 then m.cmdBuff 1 >>> 4 else m.cmdBuff 1 &&& 0x0F) > 0)

/-- The bounds in a message lie in the memory of the log. -/
def InLog (m : ReceivMess) : Prop :=
  (be16toh m.buf (ReceivMess.cmdBuffOff + 2)).toNat ≤ GP_MAX_LOG_BOUND ∧
    (be16toh m.buf ReceivMess.cmdBuffOff).toNat ≤ GP_MAX_LOG_BOUND

instance (m : ReceivMess) : Decidable (InLog m) := inferInstanceAs (Decidable (_ ∧ _))

/-- A card number is put into a record, and marked where it is a new one. -/
def takeCid (m : ReceivMess) (r : GpDev) : GpDev :=
  { r with
    lastCid := cidOf m r.cidRevert
    newCidFlag := r.newCidFlag || decide (r.lastCid ≠ cidOf m r.cidRevert) }

def takeEv (m : ReceivMess) (r : GpDev) : GpDev :=
  { r with lastEv := m.cmdBuff 20, newCidFlag := false }

def takeBounds (m : ReceivMess) (r : GpDev) : GpDev :=
  if InLog m then
    { r with
      boundUp := be16toh m.buf ReceivMess.cmdBuffOff
      boundDown := be16toh m.buf (ReceivMess.cmdBuffOff + 2) }
  else r

def takeOrder (m : ReceivMess) (r : GpDev) : GpDev := { r with cidRevert := infoOrder m }

/-- The message is an information reply, and is taken for one. -/
def IsInfo (m : ReceivMess) (h : Host) : Prop := h.sendMess.evHandler = .null ∧ m.cmdN = 0x09

/-- The message is a card number. -/
def IsCid (m : ReceivMess) (h : Host) : Prop :=
  h.sendMess.evHandler = .cbGetPollResult ∧ h.sendMess.target = .getCid ∧ m.cmdN = 0x04

/-- The message is the registers of a controller. -/
def IsRegs (m : ReceivMess) (h : Host) : Prop :=
  h.sendMess.evHandler = .cbGetPollResult ∧ h.sendMess.target = .getRegs ∧ m.cmdN = 0x06

/-- The message is the bounds of a log. -/
def IsBounds (h : Host) : Prop :=
  h.sendMess.evHandler = .cbLogRead ∧ h.sendMess.target = .getBuffAddr

instance (m : ReceivMess) (h : Host) : Decidable (IsInfo m h) := inferInstanceAs (Decidable (_ ∧ _))
instance (m : ReceivMess) (h : Host) : Decidable (IsCid m h) := inferInstanceAs (Decidable (_ ∧ _))
instance (m : ReceivMess) (h : Host) : Decidable (IsRegs m h) := inferInstanceAs (Decidable (_ ∧ _))
instance (h : Host) : Decidable (IsBounds h) := inferInstanceAs (Decidable (_ ∧ _))

/-- What a message puts into the record of its controller. -/
def learns (m : ReceivMess) (h : Host) (r : GpDev) : GpDev :=
  if IsInfo m h then takeOrder m r
  else if IsCid m h then takeCid m r
  else if IsRegs m h then takeEv m r
  else if IsBounds h then takeBounds m r
  else r

/-- One handler takes a message for one thing. -/
theorem not_of_handler {m : ReceivMess} {h : Host} {f : EvCbFunc} (hf : h.sendMess.evHandler = f) :
    (f ≠ .null → ¬ IsInfo m h) ∧ (f ≠ .cbGetPollResult → ¬ IsCid m h ∧ ¬ IsRegs m h) ∧
      (f ≠ .cbLogRead → ¬ IsBounds h) :=
  ⟨fun hne hn => hne (hf.symm.trans hn.1),
    fun hne => ⟨fun hn => hne (hf.symm.trans hn.1), fun hn => hne (hf.symm.trans hn.1)⟩,
    fun hne hn => hne (hf.symm.trans hn.1)⟩

theorem takeCid_congr (m : ReceivMess) {r r' : GpDev} (s : SameFacts r r') :
    SameFacts (takeCid m r) (takeCid m r') := by
  refine ⟨?_, s.cidRevert, ?_, s.lastEv, s.boundUp, s.boundDown⟩
  · exact congrArg (cidOf m) s.cidRevert
  · simp only [takeCid, s.lastCid, s.cidRevert, s.newCidFlag]

theorem takeEv_congr (m : ReceivMess) {r r' : GpDev} (s : SameFacts r r') :
    SameFacts (takeEv m r) (takeEv m r') :=
  ⟨s.lastCid, s.cidRevert, rfl, rfl, s.boundUp, s.boundDown⟩

theorem takeBounds_congr (m : ReceivMess) {r r' : GpDev} (s : SameFacts r r') :
    SameFacts (takeBounds m r) (takeBounds m r') := by
  unfold takeBounds
  split
  · exact ⟨s.lastCid, s.cidRevert, s.newCidFlag, s.lastEv, rfl, rfl⟩
  · exact s

theorem takeOrder_congr (m : ReceivMess) {r r' : GpDev} (s : SameFacts r r') :
    SameFacts (takeOrder m r) (takeOrder m r') :=
  ⟨s.lastCid, rfl, s.newCidFlag, s.lastEv, s.boundUp, s.boundDown⟩

theorem learns_congr (m : ReceivMess) (h : Host) {r r' : GpDev} (s : SameFacts r r') :
    SameFacts (learns m h r) (learns m h r') := by
  unfold learns
  split
  · exact takeOrder_congr m s
  split
  · exact takeCid_congr m s
  split
  · exact takeEv_congr m s
  split
  · exact takeBounds_congr m s
  · exact s

theorem learns_cidRevert (m : ReceivMess) (h : Host) (r : GpDev) :
    (learns m h r).cidRevert = if IsInfo m h then infoOrder m else r.cidRevert := by
  unfold learns takeBounds
  repeat' split
  all_goals rfl

theorem learns_lastCid (m : ReceivMess) (h : Host) (r : GpDev) :
    (learns m h r).lastCid = if IsCid m h then cidOf m r.cidRevert else r.lastCid := by
  unfold learns takeBounds
  split
  · next hinfo =>
    rw [if_neg ((not_of_handler hinfo.1).2.1 (by decide)).1]
    rfl
  repeat' split
  all_goals rfl

/-- The registers in a message report a card. -/
def CardShown (m : ReceivMess) (r : GpDev) : Prop :=
  (r.newCidFlag = true ∨ r.lastEv ≠ m.cmdBuff 20) ∧
    (m.cmdBuff 20 &&& 0xFE = 0x02 ∨ m.cmdBuff 20 &&& 0xFE = 0x04)

instance (m : ReceivMess) (r : GpDev) : Decidable (CardShown m r) :=
  inferInstanceAs (Decidable (_ ∧ _))

/-- The poll handler names the card of the controller the message comes from. -/
def NamesCard (m : ReceivMess) (h : Host) : Prop :=
  IsRegs m h ∧ CardShown m (h.devices m.dev.toNat)

instance (m : ReceivMess) (h : Host) : Decidable (NamesCard m h) :=
  inferInstanceAs (Decidable (_ ∧ _))

/-- One record has learnt something, and card numbers have been named. -/
structure Learned (d : Nat) (f : GpDev → GpDev) (cs : List UInt64) (h h' : Host) : Prop where
  facts : ∀ i, SameFacts (if i = d then f (h.devices i) else h.devices i) (h'.devices i)
  cards : cards h' = cards h ++ cs

namespace Learned
variable {d : Nat} {f : GpDev → GpDev} {cs : List UInt64} {h h' h'' : Host}

theorem of_still (s : Still h h') : Learned d id [] h h' := by
  refine ⟨?_, s.cards.trans (List.append_nil _).symm⟩
  intro i
  rw [id, ite_self]
  exact (s.facts i).toSameFacts

theorem then_id (l : Learned d f cs h h') (l' : Learned d id [] h' h'') : Learned d f cs h h'' := by
  refine ⟨?_, l'.cards.trans ((List.append_nil _).trans l.cards)⟩
  intro i
  have hi := l'.facts i
  rw [id, ite_self] at hi
  exact (l.facts i).trans hi

theorem then_still (l : Learned d f cs h h') (s : Still h' h'') : Learned d f cs h h'' :=
  l.then_id (of_still s)

/-- Only what `f` does to the record of the controller matters. -/
theorem congr {g : GpDev → GpDev} (l : Learned d f cs h h')
    (hg : SameFacts (g (h.devices d)) (f (h.devices d))) : Learned d g cs h h' := by
  refine ⟨?_, l.cards⟩
  intro i
  have hi := l.facts i
  split
  · next heq =>
    rw [if_pos heq] at hi
    rw [heq] at hi ⊢
    exact hg.trans hi
  · next hne =>
    rwa [if_neg hne] at hi

theorem setDev (d : Nat) (f : GpDev → GpDev) (h : Host) : Learned d f [] h (h.setDev d f) := by
  refine ⟨?_, (List.append_nil _).symm⟩
  intro i
  by_cases hi : i = d
  · rw [if_pos hi, hi, Host.setDev_devices_self]
    exact SameFacts.refl _
  · rw [if_neg hi, Host.setDev_devices_ne _ _ hi]
    exact SameFacts.refl _

/-- A card number is named. -/
theorem note (d : Nat) {e : Obs} {c : UInt64} (he : cardOf e = some c) (h : Host) :
    Learned d id [c] h (h.note e) := by
  refine ⟨?_, ?_⟩
  · intro i
    rw [id, ite_self]
    exact SameFacts.refl _
  · rw [Readings.cards, Host.note, List.filterMap_append, List.filterMap_cons_some he]
    rfl

/-- Cards may be named before the record learns something. -/
theorem after {cs' : List UInt64} (l : Learned d id cs h h') (l' : Learned d f cs' h' h'')
    (hf : ∀ r r', SameFacts r r' → SameFacts (f r) (f r')) :
    Learned d f (cs ++ cs') h h'' := by
  refine ⟨?_, ?_⟩
  · intro i
    have hfirst : SameFacts (h.devices i) (h'.devices i) := by
      have hi := l.facts i
      rwa [id, ite_self] at hi
    by_cases hi : i = d
    · have hsecond := l'.facts i
      rw [if_pos hi] at hsecond ⊢
      exact (hf _ _ hfirst).trans hsecond
    · have hsecond := l'.facts i
      rw [if_neg hi] at hsecond ⊢
      exact hfirst.trans hsecond
  · rw [l'.cards, l.cards, List.append_assoc]

end Learned

/-- Adding a card raises `bound_token` and does nothing else to a record. -/
theorem cmdAddCid_learned (d : Nat) (rec : ProcAddCid) (h : Host) :
    Learned d id [] h (cmdAddCid rec h).1 := by
  cases hc : cmdConflict rec h with
  | true =>
    rw [cmdAddCid_conflict hc]
    exact Learned.of_still (Still.note rfl h)
  | false =>
    have hadd := (cmdAddCid_ok hc).2
    obtain ⟨es, ht, hes⟩ := hadd.events
    refine ⟨?_, ?_⟩
    · intro i
      rw [id, ite_self, hadd.devices]
      split
      · by_cases hd : i = rec.dev
        · rw [hd, Function.update_self]
          exact ⟨rfl, rfl, rfl, rfl, rfl, rfl⟩
        · rw [Function.update_of_ne hd]
          exact SameFacts.refl _
      · exact SameFacts.refl _
    · have hnone : es.filterMap cardOf = [] := by
        refine List.filterMap_eq_nil_iff.mpr ?_
        intro e he
        rcases hes e he with heq | ⟨z, heq, _⟩
        · rw [heq]
          rfl
        · rw [heq]
          rfl
      rw [cards, ht, List.filterMap_append, hnone]
      rfl

theorem cmdAddCidToAll_learned (d : Nat) (rec : ProcAddCid) (h : Host) :
    Learned d id [] h (cmdAddCidToAll rec h).1 := by
  have hstore : ∀ t, Still h (addTokenLogged t h).1 :=
    fun t => (Still.note (e := .dbAddToken t) rfl h).trans (Still.of_eq rfl rfl)
  have hloop : ∀ s : Host × ProcAddCid,
      Learned d id [] s.1 (addCidLoop s.2 (devNums s.1) s.1).1 :=
    fun s => addCidLoop_rel (R := Learned d id []) (fun h => Learned.of_still (Still.refl h))
      Learned.then_id _ (fun _ _ => cmdAddCid_learned d _ _) _ _
  have hrec : Still h (addCidToAllRec rec h).1 := hstore _
  exact (Learned.of_still hrec).then_id (hloop _)

/-- A new card is looked up, and named again if it is not known. -/
theorem pollNewCard_learned (d : Nat) (ev : UInt8) (h : Host) : ∃ cs,
    Learned d id cs h (pollNewCard d ev h) ∧ cs ≠ [] ∧ ∀ c ∈ cs, c = (h.devices d).lastCid := by
  have hlook : Learned d id [(h.devices d).lastCid] h
      (h.note (.dbGetTokenByC (h.devices d).lastCid)) := Learned.note d rfl h
  unfold pollNewCard
  simp only
  cases dbGetTokenByC h.db (h.devices d).lastCid with
  | some token =>
    simp only
    have hon : ∀ g, Still g (adTurnOn AD_Q_SECOND d (ev &&& 1) g).1 :=
      fun g => Still.queued (gpInCmd_queued _ g)
    have hadd := (hlook.then_still (hon _)).then_id (cmdAddCid_learned d (pollRec d ev token) _)
    refine ⟨_, hadd.then_id ?_, List.cons_ne_nil _ _, ?_⟩
    · split
      · exact cmdAddCidToAll_learned d _ _
      · exact Learned.of_still (Still.refl _)
    · intro c hc
      exact List.mem_singleton.mp hc
  | none =>
    have hpush : ∀ g, Learned d id [(h.devices d).lastCid] g
        (pushNewCid (pollRec d ev (cidToken (h.devices d).lastCid)) g) :=
      fun g => (Learned.note d rfl g).then_id (cmdAddCidToAll_learned d _ _)
    refine ⟨_, hlook.after (hpush _) fun _ _ s => s, List.cons_ne_nil _ _, ?_⟩
    intro c hc
    rcases List.mem_cons.mp hc with hfirst | hsecond
    · exact hfirst
    · exact List.mem_singleton.mp hsecond

theorem pollRegs_learned (m : ReceivMess) (h : Host) : ∃ cs,
    Learned m.dev.toNat (takeEv m) cs h (pollRegs m h).1 ∧
      (cs ≠ [] ↔ CardShown m (h.devices m.dev.toNat)) ∧
      ∀ c ∈ cs, c = (h.devices m.dev.toNat).lastCid := by
  have hend : ∀ {cs g}, Learned m.dev.toNat id cs h g →
      Learned m.dev.toNat (takeEv m) cs h (g.setDev m.dev.toNat (takeEv m)) := by
    intro cs g l
    have hall := l.after (Learned.setDev m.dev.toNat (takeEv m) g) fun _ _ s => takeEv_congr m s
    rwa [List.append_nil] at hall
  have hnone := hend (Learned.of_still (Still.refl h))
  have hempty : ¬ ([] : List UInt64) ≠ [] := fun hn => hn rfl
  unfold pollRegs CardShown
  simp only
  split
  · next hflag =>
    split
    · next htwo =>
      obtain ⟨cs, l, hne, hall⟩ := pollNewCard_learned m.dev.toNat (m.cmdBuff 20) h
      exact ⟨cs, hend l, iff_of_true hne ⟨hflag, .inl htwo⟩, hall⟩
    · next htwo =>
      split
      · next hfour =>
        refine ⟨_, hend (Learned.note m.dev.toNat rfl h),
          iff_of_true (List.cons_ne_nil _ _) ⟨hflag, .inr hfour⟩, ?_⟩
        intro c hc
        exact List.mem_singleton.mp hc
      · next hfour =>
        refine ⟨[], hnone, iff_of_false hempty ?_, ?_⟩
        · intro hn
          exact hn.2.elim htwo hfour
        · intro c hc
          exact absurd hc List.not_mem_nil
  · next hflag =>
    refine ⟨[], hnone, iff_of_false hempty fun hn => hflag hn.1, ?_⟩
    intro c hc
    exact absurd hc List.not_mem_nil

theorem pollCid_learned (m : ReceivMess) (h : Host) :
    Learned m.dev.toNat (takeCid m) [] h (pollCid m h).1 := by
  have hsend : ∀ g, Still g (adGetRegs AD_Q_SHORT m.src.toNat g).1 := fun g => Still.orQueue _ g
  unfold pollCid
  simp only
  refine Learned.then_still ?_ (hsend _)
  split
  · next hne =>
    refine (Learned.setDev m.dev.toNat _ h).congr ⟨rfl, rfl, ?_, rfl, rfl, rfl⟩
    unfold takeCid
    exact (Bool.or_eq_true _ _).mpr (.inr (decide_eq_true hne)) |>.symm
  · next heq =>
    rw [not_not] at heq
    refine (Learned.of_still (Still.refl h)).congr ⟨heq, rfl, ?_, rfl, rfl, rfl⟩
    have hsame : decide ((h.devices m.dev.toNat).lastCid ≠
        cidOf m (h.devices m.dev.toNat).cidRevert) = false := decide_eq_false (not_not.mpr heq)
    unfold takeCid
    simp only [hsame, Bool.or_false, id]

theorem logAddr_learned (m : ReceivMess) (h : Host) :
    Learned m.dev.toNat (takeBounds m) [] h (logAddr m h).1 := by
  have hsend : ∀ down len g, Still g (adGetBuffData AD_Q_SHORT m.src.toNat down len g).1 :=
    fun _ _ g => Still.orQueue _ g
  unfold logAddr
  simp only
  split
  · next hout =>
    refine (Learned.of_still (Still.refl h)).congr ?_
    unfold takeBounds
    rw [if_neg]
    · exact SameFacts.refl _
    · intro hin
      exact hout.elim (Nat.not_lt.mpr hin.1) (Nat.not_lt.mpr hin.2)
  · next hin =>
    rw [not_or, Nat.not_lt, Nat.not_lt] at hin
    have hset : Learned m.dev.toNat (takeBounds m) [] h (h.setDev m.dev.toNat fun d =>
        { d with
          boundDown := be16toh m.buf (ReceivMess.cmdBuffOff + 2)
          boundUp := be16toh m.buf ReceivMess.cmdBuffOff }) := by
      refine (Learned.setDev m.dev.toNat _ h).congr ?_
      unfold takeBounds
      rw [if_pos (show InLog m from hin)]
      exact SameFacts.refl _
    split
    · exact hset.then_still (hsend _ _ _)
    · exact hset

theorem infoReply_learned (m : ReceivMess) (h : Host) :
    Learned m.dev.toNat (takeOrder m) [] h (infoReply m h) := by
  have hmax : ∀ g : Host, Still g (g.setDev m.dev.toNat fun d =>
      { d with maxBoundToken := 0xFFF0, maxBoundLog := 0x8000 }) :=
    fun g => Still.setDev _ _ g fun _ => ⟨⟨rfl, rfl, rfl, rfl, rfl, rfl⟩, rfl⟩
  unfold infoReply
  simp only
  have hset := Learned.setDev m.dev.toNat (takeOrder m) h
  refine (hset.then_still (Still.trans ?_ (Still.note rfl _)))
  split
  · exact hmax _
  · exact Still.refl _

theorem logData_still (m : ReceivMess) (h : Host) : Still h (logData m h).1 := by
  have hrecord : ∀ t c g, Still g (logRecord m.dev.toNat t c g).1 := by
    intro t c g
    unfold logRecord
    split
    · exact Still.refl g
    · have hset := Still.setDev m.dev.toNat (fun d => { d with lastEvRec := t }) g
        fun _ => ⟨⟨rfl, rfl, rfl, rfl, rfl, rfl⟩, rfl⟩
      have hlook := Still.note (e := .dbGetCidByA t.addrBe.toUInt32) rfl
        (g.setDev m.dev.toNat fun d => { d with lastEvRec := t })
      have htime : ∀ curtime k, Still k { k with curtime := curtime } := fun _ _ => Still.of_eq rfl rfl
      exact hset.trans (hlook.trans ((htime _ _).trans (Still.note rfl _)))
  have hrecords : ∀ recs c g, Still g (logRecords m.dev.toNat recs c g) := by
    intro recs
    induction recs with
    | nil => exact fun _ g => Still.refl g
    | cons t recs ih => exact fun c g => (hrecord t c g).trans (ih _ _)
  have hsend : ∀ b g, Still g (adSetBuffAddrDown AD_Q_SHORT m.src.toNat b g).1 :=
    fun _ g => Still.orQueue _ g
  exact (hrecords _ _ h).trans (hsend _ _)

/-- A message changes the record of its controller alone, and names cards only
when it is a polling answer with one, each as the record had it. -/
def LearnedFrom (m : ReceivMess) (h : Host) (f : GpDev → GpDev) (h' : Host) : Prop :=
  ∃ cs, Learned m.dev.toNat f cs h h' ∧ (cs ≠ [] ↔ NamesCard m h) ∧
    ∀ c ∈ cs, c = (h.devices m.dev.toNat).lastCid

section Handlers
variable {m : ReceivMess} {h : Host}

theorem LearnedFrom.quiet {f : GpDev → GpDev} {h' : Host} (l : Learned m.dev.toNat f [] h h')
    (hn : ¬ NamesCard m h) : LearnedFrom m h f h' :=
  ⟨[], l, iff_of_false (fun hne => hne rfl) hn, fun _ hc => absurd hc List.not_mem_nil⟩

theorem LearnedFrom.still {h' : Host} (s : Still h h') (hn : ¬ NamesCard m h) :
    LearnedFrom m h (fun r => r) h' :=
  .quiet (Learned.of_still s) hn

/-- `cb_get_poll_result` -/
theorem pollResult_learned (hev : h.sendMess.evHandler = .cbGetPollResult) :
    LearnedFrom m h (learns m h) (cbGetPollResult m h).1 := by
  obtain ⟨hinfo, _, hbounds⟩ := not_of_handler (m := m) hev
  unfold cbGetPollResult learns
  simp only [if_neg (hinfo (by decide)), if_neg (hbounds (by decide))]
  by_cases hcid : h.sendMess.target = .getCid ∧ m.cmdN = 0x04
  · rw [if_pos hcid]
    simp only [if_pos (show IsCid m h from ⟨hev, hcid⟩)]
    refine .quiet (pollCid_learned m h) ?_
    intro hn
    exact AdTarget.noConfusion (hcid.1.symm.trans hn.1.2.1)
  rw [if_neg hcid]
  simp only [if_neg (show ¬ IsCid m h from fun hn => hcid hn.2)]
  by_cases hregs : h.sendMess.target = .getRegs ∧ m.cmdN = 0x06
  · rw [if_pos hregs]
    simp only [if_pos (show IsRegs m h from ⟨hev, hregs⟩)]
    obtain ⟨cs, l, hiff, hall⟩ := pollRegs_learned m h
    exact ⟨cs, l, hiff.trans ⟨fun hc => ⟨⟨hev, hregs⟩, hc⟩, fun hn => hn.2⟩, hall⟩
  · rw [if_neg hregs]
    have hno : ¬ IsRegs m h := fun hn => hregs hn.2
    simp only [if_neg hno]
    exact .still (Still.refl h) fun hn => hno hn.1

/-- `cb_log_read` -/
theorem logRead_learned (hev : h.sendMess.evHandler = .cbLogRead) :
    LearnedFrom m h (learns m h) (cbLogRead m h).1 := by
  obtain ⟨hinfo, hpoll, _⟩ := not_of_handler (m := m) hev
  obtain ⟨hcid, hregs⟩ := hpoll (by decide)
  have hno : ¬ NamesCard m h := fun hn => hregs hn.1
  unfold cbLogRead learns
  simp only [if_neg (hinfo (by decide)), if_neg hcid, if_neg hregs]
  by_cases haddr : h.sendMess.target = .getBuffAddr
  · rw [if_pos haddr]
    simp only [if_pos (show IsBounds h from ⟨hev, haddr⟩)]
    exact .quiet (logAddr_learned m h) hno
  rw [if_neg haddr]
  simp only [if_neg (show ¬ IsBounds h from fun hn => haddr hn.2)]
  split
  · exact .still (logData_still m h) hno
  split
  · exact .still (Still.refl h) hno
  · exact .still (Still.refl h) hno

/-- A message changes the record of its controller alone. -/
theorem processPortInput_learned (m : ReceivMess) (h : Host) : ∃ cs,
    Learned m.dev.toNat (learns m h) cs h (processPortInput m h).1 ∧
      (cs ≠ [] ↔ NamesCard m h) ∧ ∀ c ∈ cs, c = (h.devices m.dev.toNat).lastCid := by
  unfold processPortInput
  cases hev : h.sendMess.evHandler with
  | cbGetPollResult => exact pollResult_learned hev
  | cbLogRead => exact logRead_learned hev
  | null =>
    obtain ⟨_, hpoll, hbounds⟩ := not_of_handler (m := m) hev
    obtain ⟨hcid, hregs⟩ := hpoll (by decide)
    have hno : ¬ NamesCard m h := fun hn => hregs hn.1
    change LearnedFrom m h (learns m h) _
    simp only
    unfold learns
    simp only [if_neg hcid, if_neg hregs, if_neg (hbounds (by decide))]
    by_cases hinfo : m.cmdN = 0x09
    · rw [if_pos hinfo]
      simp only [if_pos (show IsInfo m h from ⟨hev, hinfo⟩)]
      exact .quiet (infoReply_learned m h) hno
    rw [if_neg hinfo]
    simp only [if_neg (show ¬ IsInfo m h from fun hn => hinfo hn.2)]
    split
    · have hset := Learned.setDev m.dev.toNat
        (fun d => { d with boundToken := be16toh m.buf ReceivMess.cmdBuffOff }) h
      exact .quiet (hset.congr ⟨rfl, rfl, rfl, rfl, rfl, rfl⟩) hno
    · exact .still (Still.refl h) hno

end Handlers

/-! ## `bound_token` -/

/-- The message is the bound of the token memory. -/
def IsTokenBound (m : ReceivMess) (h : Host) : Prop :=
  h.sendMess.evHandler = .null ∧ h.sendMess.target = .getTokenBound ∧ m.cmdN = 0x04

instance (m : ReceivMess) (h : Host) : Decidable (IsTokenBound m h) :=
  inferInstanceAs (Decidable (_ ∧ _))

/-- The poll handler adds the card to the controllers, which may raise `bound_token`. -/
def AddsCard (m : ReceivMess) (h : Host) : Prop := IsRegs m h ∧ newCardDue m h

instance (m : ReceivMess) (h : Host) : Decidable (AddsCard m h) :=
  inferInstanceAs (Decidable (_ ∧ _))

theorem processPortInput_tokenBound {m : ReceivMess} {h : Host} (hm : IsTokenBound m h) :
    (processPortInput m h).1 = tokenBoundReply m h := by
  have hinfo : m.cmdN ≠ 0x09 := by rw [hm.2.2]; decide
  unfold processPortInput
  simp only [hm.1]
  rw [if_neg hinfo, if_pos ⟨hm.2.2, hm.2.1⟩]

/-- But for a card that is added, a message changes `bound_token` where it is
taken for the bound. -/
theorem processPortInput_boundToken {m : ReceivMess} {h : Host} (hadd : ¬ AddsCard m h) (d : Nat) :
    ((processPortInput m h).1.devices d).boundToken =
      if d = m.dev.toNat ∧ IsTokenBound m h then be16toh m.buf ReceivMess.cmdBuffOff
      else (h.devices d).boundToken := by
  by_cases hm : IsTokenBound m h
  · rw [processPortInput_tokenBound hm, tokenBoundReply]
    by_cases hd : d = m.dev.toNat
    · rw [if_pos ⟨hd, hm⟩, hd, Host.setDev_devices_self]
    · rw [if_neg (fun hn => hd hn.1), Host.setDev_devices_ne _ _ hd]
  · rw [if_neg (fun hn => hm hn.2)]
    rcases processPortInput_cases m h with ⟨_, _, heq⟩ | ⟨_, i | ⟨hregs, heq⟩ | ⟨htoken, _⟩⟩
    · rw [heq]
      exact ((logData_still m h).facts d).boundToken
    · exact i.boundToken d
    · rw [heq]
      rcases pollRegs_cases m h with ⟨hdue, _⟩ | ⟨_, i⟩
      · exact absurd ⟨hregs, hdue⟩ hadd
      · exact i.boundToken d
    · exact absurd htoken hm

/-! ## Events -/

theorem learns_receivAlive (m : ReceivMess) (h : Host) : learns m (receivAlive h) = learns m h := by
  have hmess := ReceiverFrames.receivAlive_sendMess h
  have hinfo : IsInfo m (receivAlive h) ↔ IsInfo m h := by rw [IsInfo, hmess]; rfl
  have hcid : IsCid m (receivAlive h) ↔ IsCid m h := by rw [IsCid, hmess]; rfl
  have hregs : IsRegs m (receivAlive h) ↔ IsRegs m h := by rw [IsRegs, hmess]; rfl
  have hbounds : IsBounds (receivAlive h) ↔ IsBounds h := by rw [IsBounds, hmess]; rfl
  funext r
  simp only [learns, hinfo, hcid, hregs, hbounds]

theorem namesCard_receivAlive (m : ReceivMess) (h : Host) :
    NamesCard m (receivAlive h) ↔ NamesCard m h := by
  have hfacts := (receivAlive_still h).facts m.dev.toNat
  unfold NamesCard IsRegs CardShown
  rw [ReceiverFrames.receivAlive_sendMess, hfacts.newCidFlag, hfacts.lastEv]

theorem gpAllDevEnable_still (h : Host) : Still h (gpAllDevEnable h) := by
  have hopen := Still.reconnect false h
  refine ⟨?_, hopen.cards⟩
  intro d
  refine (hopen.facts d).trans ?_
  change SameRecord _ (if 1 ≤ d ∧ d ≤ 255 then _ else _)
  split
  · exact ⟨⟨rfl, rfl, rfl, rfl, rfl, rfl⟩, rfl⟩
  · exact SameRecord.refl _

theorem gpGetDevLogs_still (h : Host) : Still h (gpGetDevLogs h) :=
  Still.queued (getDevLogsLoop_queued (devNums h) h)

theorem gpInit_facts (h : Host) (d : Nat) : SameFacts (h.devices d) ((gpInit h).devices d) := by
  let bounded : Nat → GpDev := fun i =>
    if 1 ≤ i ∧ i ≤ 255 then { h.devices i with boundToken := GP_START_TICKET_BOUND }
    else h.devices i
  let h' : Host := { h with devices := bounded }
  have hbound : SameFacts (h.devices d) (h'.devices d) := by
    change SameFacts _ (if 1 ≤ d ∧ d ≤ 255 then _ else _)
    split
    · exact ⟨rfl, rfl, rfl, rfl, rfl, rfl⟩
    · exact SameFacts.refl _
  have hlogs := (gpAllDevEnable_still h').trans (gpGetDevLogs_still (gpAllDevEnable h'))
  have hmax : ∀ a g, Still g { g with maxBoundToken := a } := fun _ _ => Still.of_eq rfl rfl
  have hopen : Still h' (gpInit h) := hlogs.trans ((hmax _ _).trans (Still.reconnect true _))
  exact hbound.trans (hopen.facts d).toSameFacts

/-- What the program does besides: no reply is put into a record. -/
structure Aside where
  run : Host → Host
  facts : ∀ h d, SameFacts (h.devices d) ((run h).devices d)

/-- A command is queued. -/
def Aside.queueing (z : CmdSend) : Aside where
  run h := (gpInCmd z h).1
  facts h d := ((Still.queued (gpInCmd_queued z h)).facts d).toSameFacts

/-- The clock is read again. -/
def Aside.clock (now : Timeval) : Aside where
  run h := { h with world := { h.world with now := now } }
  facts _ _ := SameFacts.refl _

section Event
variable {s : Link} (hr : Holds s.gate.rx s.acc)
include hr

theorem handed_read (r : ReadRes) :
    handed (.read r) s.gate = if (brings r s).isInput then some (brought r s) else none := by
  have hdev : (receivAlive s.gate.host).sendMess.dev = s.gate.host.sendMess.dev := by
    rw [ReceiverFrames.receivAlive_sendMess]
  obtain ⟨hkind, hmess⟩ := receive_brings hr r
  unfold handed
  simp only [hdev, (receivAlive_heard s.gate.host).now, hkind]
  split
  · next hin => rw [hmess hin]
  · rfl

/-- An event that hands on no message. -/
theorem event_still {e : PortEvent} (hm : handed e s.gate = none) :
    Still s.gate.host (gpReceiv e s.gate).host := by
  cases e with
  | timeout => exact receivTimeout_still s.gate.host
  | read r =>
    have hin : (brings r s).isInput = false := by
      rw [handed_read hr] at hm
      by_contra hn
      rw [Bool.not_eq_false] at hn
      rw [if_pos hn] at hm
      cases hm
    rw [gpReceiv_brings hr]
    exact (receivAlive_still _).trans (dispatch_still hin ..)

/-- An event that hands on a message changes the record of its controller, and
names the card there when the message reports one. -/
theorem event_learned {e : PortEvent} {m : ReceivMess} (hm : handed e s.gate = some m) : ∃ cs,
    Learned m.dev.toNat (learns m s.gate.host) cs s.gate.host (gpReceiv e s.gate).host ∧
      (cs ≠ [] ↔ NamesCard m s.gate.host) ∧
      ∀ c ∈ cs, c = (s.gate.host.devices m.dev.toNat).lastCid := by
  cases e with
  | timeout => cases hm
  | read r =>
    rw [handed_read hr] at hm
    obtain ⟨hin, hbrought⟩ := Option.ite_none_right_eq_some.mp hm
    obtain ⟨cs, l, hiff, hall⟩ := processPortInput_learned m (receivAlive s.gate.host)
    have halive := receivAlive_still s.gate.host
    have hread := ((Learned.of_still halive).after l fun _ _ => learns_congr _ _).then_still
      (dispatch_input hin m (receivAlive s.gate.host))
    rw [learns_receivAlive] at hread
    rw [gpReceiv_brings hr, Option.some.inj hbrought]
    refine ⟨cs, hread, hiff.trans (namesCard_receivAlive ..), ?_⟩
    intro c hc
    rw [hall c hc]
    exact (halive.facts _).lastCid

/-- But for a card that is added, the bound of the token memory changes only in
the controller whose message is taken for it. -/
theorem event_boundToken {e : PortEvent} {m : ReceivMess} (hm : handed e s.gate = some m)
    (hadd : ¬ AddsCard m s.gate.host) (d : Nat) :
    ((gpReceiv e s.gate).host.devices d).boundToken =
      if d = m.dev.toNat ∧ IsTokenBound m s.gate.host then be16toh m.buf ReceivMess.cmdBuffOff
      else (s.gate.host.devices d).boundToken := by
  cases e with
  | timeout => cases hm
  | read r =>
    rw [handed_read hr] at hm
    obtain ⟨hin, hbrought⟩ := Option.ite_none_right_eq_some.mp hm
    have halive := receivAlive_still s.gate.host
    have hmess := ReceiverFrames.receivAlive_sendMess s.gate.host
    have hsame : AddsCard m (receivAlive s.gate.host) ↔ AddsCard m s.gate.host := by
      unfold AddsCard IsRegs newCardDue
      rw [hmess, (halive.facts _).newCidFlag, (halive.facts _).lastEv]
    have htoken : IsTokenBound m (receivAlive s.gate.host) ↔ IsTokenBound m s.gate.host := by
      rw [IsTokenBound, hmess]
      rfl
    rw [gpReceiv_brings hr, Option.some.inj hbrought,
      ((dispatch_input hin m (receivAlive s.gate.host)).facts d).boundToken,
      processPortInput_boundToken (fun hn => hadd (hsame.mp hn)), (halive.facts d).boundToken]
    simp only [htoken]

end Event

end Libgate.Readings
