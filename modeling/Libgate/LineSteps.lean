import Libgate.Queueing
import Libgate.Readings
import Libgate.SendFrame

/-! What any operation of the library does on the line, in small steps: a
command is put into a queue, sent at once behind the one outstanding, or taken
from the queues, and everything else leaves the queues and the line alone; no
step takes a card from the database. What the operations may put on the line is
a parameter, so that each property of a run asks only which commands a step may
bring. -/

namespace Libgate.LineSteps
open DbLayer Send Target Processor Layer HostFrame Handlers Transmit CommandQueues
open Queueing (Allocates gpInCmd_enqueued)
open Readings (SameFacts)

/-! ## Steps -/

/-- The commands that may be queued, those that may be sent at once behind the
command outstanding, and whether the queues may be served and the marks of the
controllers may change. -/
structure Rules where
  queue : CmdSend → Prop
  send : SendMess → CmdSend → Prop
  acts : Prop

/-- Rules that allow no less. -/
structure Rules.Within (R R' : Rules) : Prop where
  queue : ∀ z, R.queue z → R'.queue z
  send : ∀ s z, R.send s z → R'.send s z
  acts : R.acts → R'.acts

def queuedCmd : Obs → Option CmdSend
  | .queued z => some z
  | _ => none

/-- The commands queued so far. -/
def queueds (h : Host) : List CmdSend := h.trace.filterMap queuedCmd

/-- Nothing is queued or sent; at most nothing is expected any more. -/
structure Silent (h h' : Host) : Prop where
  gpHead : h'.gpHead = h.gpHead
  gpHead2 : h'.gpHead2 = h.gpHead2
  sendMess : ∃ b, h'.sendMess = { h.sendMess with isExpected := b }
  queueds : queueds h' = queueds h
  sends : sends h' = sends h
  malloc : h'.world.malloc = h.world.malloc
  maxDevN : h.maxDevN ≤ 255 → h'.maxDevN ≤ 255
  db : Grows h.db h'.db

/-- The cursor of the poll cycle and the attempts to open the port are as before. -/
structure SameStatics (h h' : Host) : Prop where
  gpDst : h'.gpDst = h.gpDst
  lastTry : h'.lastTry = h.lastTry
  openPort : h'.world.openPort = h.world.openPort

theorem SameStatics.refl (h : Host) : SameStatics h h := ⟨rfl, rfl, rfl⟩

theorem SameStatics.trans {h h' h'' : Host} (s : SameStatics h h') (s' : SameStatics h' h'') :
    SameStatics h h'' :=
  ⟨s'.gpDst.trans s.gpDst, s'.lastTry.trans s.lastTry, s'.openPort.trans s.openPort⟩

/-- The count of charges and the mark of initialisation are as before. -/
structure SameCharges (r r' : GpDev) : Prop where
  timeoutCount : r'.timeoutCount = r.timeoutCount
  isInited : r'.isInited = r.isInited

theorem SameCharges.refl (r : GpDev) : SameCharges r r := ⟨rfl, rfl⟩

theorem SameCharges.trans {r r' r'' : GpDev} (s : SameCharges r r') (s' : SameCharges r' r'') :
    SameCharges r r'' :=
  ⟨s'.timeoutCount.trans s.timeoutCount, s'.isInited.trans s.isInited⟩

/-- Nor is anything changed in what is expected, charged and initialised, the port is
not opened, and no reply put into a record. -/
structure Calm (h h' : Host) : Prop extends Silent h h' where
  mess : h'.sendMess = h.sendMess
  charges : ∀ d, SameCharges (h.devices d) (h'.devices d)
  facts : ∀ d, SameFacts (h.devices d) (h'.devices d)
  statics : SameStatics h h'

inductive Step (R : Rules) : Host → Host → Prop
  | queue (z : CmdSend) (h : Host) (hz : R.queue z) : Step R h (gpInCmd z h).1
  | send (z : CmdSend) (h : Host) (hz : R.send h.sendMess z) : Step R h (gpSend z h).1
  | serve (h : Host) (ha : R.acts) : Step R h (gpPutCmd h).1
  | silent {h h' : Host} (hs : Silent h h') (ha : R.acts ∨ Calm h h') : Step R h h'

/-- A run of steps. -/
abbrev Steps (R : Rules) : Host → Host → Prop := Relation.ReflTransGen (Step R)

theorem Step.mono {R R' : Rules} (hr : R.Within R') {h h' : Host} (s : Step R h h') :
    Step R' h h' := by
  cases s with
  | queue z _ hz => exact .queue z h (hr.queue z hz)
  | send z _ hz => exact .send z h (hr.send _ z hz)
  | serve _ ha => exact .serve h (hr.acts ha)
  | silent hs ha => exact .silent hs (ha.imp_left hr.acts)

theorem Steps.mono {R R' : Rules} (hr : R.Within R') {h h' : Host} (s : Steps R h h') :
    Steps R' h h' :=
  Relation.ReflTransGen.mono (fun _ _ (hs : Step R _ _) => hs.mono hr) _ _ s

namespace Silent
variable {h h' h'' : Host}

theorem refl (h : Host) : Silent h h := ⟨rfl, rfl, ⟨_, rfl⟩, rfl, rfl, rfl, id, Grows.refl _⟩

theorem trans (s : Silent h h') (s' : Silent h' h'') : Silent h h'' := by
  obtain ⟨b, hb⟩ := s.sendMess
  obtain ⟨b', hb'⟩ := s'.sendMess
  exact ⟨s'.gpHead.trans s.gpHead, s'.gpHead2.trans s.gpHead2, ⟨b', by rw [hb', hb]⟩,
    s'.queueds.trans s.queueds, s'.sends.trans s.sends, s'.malloc.trans s.malloc,
    fun hn => s'.maxDevN (s.maxDevN hn), s.db.trans s'.db⟩

/-- A change elsewhere, the database growing. -/
theorem ofGrows (hq : h'.gpHead = h.gpHead) (hq2 : h'.gpHead2 = h.gpHead2)
    (hs : h'.sendMess = h.sendMess) (ht : h'.trace = h.trace)
    (hm : h'.world.malloc = h.world.malloc) (hn : h'.maxDevN = h.maxDevN)
    (hd : Grows h.db h'.db) : Silent h h' := by
  refine ⟨hq, hq2, ⟨h.sendMess.isExpected, hs⟩, ?_, ?_, hm, fun hle => hn ▸ hle, hd⟩
  · rw [LineSteps.queueds, ht]
    rfl
  · rw [Handlers.sends, ht]
    rfl

theorem ofEq (hq : h'.gpHead = h.gpHead) (hq2 : h'.gpHead2 = h.gpHead2)
    (hs : h'.sendMess = h.sendMess) (ht : h'.trace = h.trace)
    (hm : h'.world.malloc = h.world.malloc) (hn : h'.maxDevN = h.maxDevN) (hd : h'.db = h.db) :
    Silent h h' :=
  ofGrows hq hq2 hs ht hm hn (Grows.ofEq hd)

theorem note {e : Obs} (he : sideObs e = true) (h : Host) : Silent h (h.note e) := by
  refine ⟨rfl, rfl, ⟨_, rfl⟩, ?_, ?_, rfl, id, Grows.refl _⟩
  · rw [LineSteps.queueds, Host.note, List.filterMap_append]
    cases e with
    | queued z => cases he
    | _ => exact List.append_nil _
  · exact (Kept.note he h).sends

theorem setDev (d : Nat) (f : GpDev → GpDev) (h : Host) : Silent h (h.setDev d f) :=
  ofEq rfl rfl rfl rfl rfl rfl rfl

/-- The command outstanding is settled. -/
theorem settle (h : Host) (b : Bool) :
    Silent h { h with sendMess := { h.sendMess with isExpected := b } } :=
  ⟨rfl, rfl, ⟨b, rfl⟩, rfl, rfl, rfl, id, Grows.refl _⟩

theorem reconnect (b : Bool) (h : Host) : Silent h (gpReconnect b h).1 := by
  obtain ⟨_, _, _, he⟩ := gpReconnect_rest b h
  rw [he]
  exact ofEq rfl rfl rfl rfl rfl rfl rfl

end Silent

namespace Calm
variable {h h' h'' : Host}

theorem refl (h : Host) : Calm h h :=
  ⟨Silent.refl h, rfl, fun _ => SameCharges.refl _, fun _ => SameFacts.refl _, SameStatics.refl h⟩

theorem trans (c : Calm h h') (c' : Calm h' h'') : Calm h h'' :=
  ⟨c.toSilent.trans c'.toSilent, c'.mess.trans c.mess,
    fun d => (c.charges d).trans (c'.charges d), fun d => (c.facts d).trans (c'.facts d),
    c.statics.trans c'.statics⟩

/-- A change elsewhere, the database growing. -/
theorem ofGrows (hq : h'.gpHead = h.gpHead) (hq2 : h'.gpHead2 = h.gpHead2)
    (hs : h'.sendMess = h.sendMess) (ht : h'.trace = h.trace)
    (hm : h'.world.malloc = h.world.malloc) (hn : h'.maxDevN = h.maxDevN)
    (hdev : h'.devices = h.devices) (hd : Grows h.db h'.db) (ho : SameStatics h h') :
    Calm h h' := by
  refine ⟨Silent.ofGrows hq hq2 hs ht hm hn hd, hs, ?_, ?_, ho⟩
  · intro d
    rw [hdev]
    exact SameCharges.refl _
  · intro d
    rw [hdev]
    exact SameFacts.refl _

theorem ofEq (hq : h'.gpHead = h.gpHead) (hq2 : h'.gpHead2 = h.gpHead2)
    (hs : h'.sendMess = h.sendMess) (ht : h'.trace = h.trace)
    (hm : h'.world.malloc = h.world.malloc) (hn : h'.maxDevN = h.maxDevN)
    (hdev : h'.devices = h.devices) (hd : h'.db = h.db) (ho : SameStatics h h') : Calm h h' :=
  ofGrows hq hq2 hs ht hm hn hdev (Grows.ofEq hd) ho

theorem note {e : Obs} (he : sideObs e = true) (h : Host) : Calm h (h.note e) :=
  ⟨Silent.note he h, rfl, fun _ => SameCharges.refl _, fun _ => SameFacts.refl _, ⟨rfl, rfl, rfl⟩⟩

/-- What is noted of a controller beside its charges and its replies. -/
theorem setDev (d : Nat) (f : GpDev → GpDev) (h : Host)
    (hf : ∀ r, SameCharges r (f r) ∧ SameFacts r (f r)) : Calm h (h.setDev d f) := by
  have hsame : ∀ i, SameCharges (h.devices i) ((h.setDev d f).devices i) ∧
      SameFacts (h.devices i) ((h.setDev d f).devices i) := by
    intro i
    by_cases hi : i = d
    · rw [hi, Host.setDev_devices_self]
      exact hf _
    · rw [Host.setDev_devices_ne _ _ hi]
      exact ⟨SameCharges.refl _, SameFacts.refl _⟩
  exact ⟨Silent.setDev d f h, rfl, fun i => (hsame i).1, fun i => (hsame i).2, ⟨rfl, rfl, rfl⟩⟩

end Calm

/-! ## Operations in steps -/

namespace Steps
variable {R : Rules} {h h' : Host}

theorem silent (ha : R.acts) (hs : Silent h h') : Steps R h h' := .single (.silent hs (.inl ha))

theorem calm (hc : Calm h h') : Steps R h h' := .single (.silent hc.toSilent (.inr hc))

theorem inCmd {z : CmdSend} (hz : R.queue z) (h : Host) : Steps R h (gpInCmd z h).1 :=
  .single (.queue z h hz)

theorem orQueue {z : CmdSend} (hz : R.queue z) (hq : z.queue ≠ AD_Q_SHORT) (h : Host) :
    Steps R h (sendOrQueue z h).1 := by
  rw [sendOrQueue, if_neg hq]
  exact inCmd hz h

theorem banks {z : CmdSend} (hz : R.queue z ∧ R.queue (secondBank z)) (hq : z.queue ≠ AD_Q_SHORT)
    (h : Host) : Steps R h (bothBanks z h).1 :=
  (orQueue hz.1 hq h).trans (orQueue (z := secondBank z) hz.2 hq _)

theorem putCmd (ha : R.acts) (h : Host) : Steps R h (gpPutCmd h).1 := .single (.serve h ha)

theorem ite {c : Prop} [Decidable c] {h'' : Host} (s : Steps R h h') (s' : Steps R h h'') :
    Steps R h (if c then h' else h'') := by
  split
  · exact s
  · exact s'

/-- Commands queued one after another. -/
theorem queueAll {zs : List CmdSend} (hz : ∀ z ∈ zs, R.queue z) (h : Host) :
    Steps R h (queueAll zs h) := by
  induction zs generalizing h with
  | nil => exact .refl
  | cons z zs ih =>
    exact (inCmd (hz z (List.mem_cons_self ..)) h).trans
      (ih (fun y hy => hz y (List.mem_cons_of_mem _ hy)) _)

end Steps

/-! ## What a run of steps leaves -/

theorem queueds_inCmd (z : CmdSend) (h : Host) : queueds (gpInCmd z h).1 =
    queueds h ++ if h.world.malloc 0 then [z] else [] := by
  unfold gpInCmd
  cases h.world.malloc 0 with
  | false => exact (List.append_nil _).symm
  | true =>
    simp only [Bool.not_true, Bool.false_eq_true, if_false, if_true]
    have hnote : queueds (h.note (.queued z)) = queueds h ++ [z] := by
      rw [queueds, Host.note, List.filterMap_append]
      rfl
    split
    · exact hnote
    · exact hnote

theorem sends_inCmd (z : CmdSend) (h : Host) : sends (gpInCmd z h).1 = sends h :=
  (After.inCmd z h).sends.trans (List.append_nil _)

theorem sendMess_inCmd (z : CmdSend) (h : Host) : (gpInCmd z h).1.sendMess = h.sendMess :=
  (gpInCmd_queued z h).sendMess

theorem queueds_send (z : CmdSend) (h : Host) : queueds (gpSend z h).1 = queueds h := by
  rw [queueds, gpSend_trace, List.filterMap_append]
  exact List.append_nil _

theorem queueds_putCmd (h : Host) : queueds (gpPutCmd h).1 = queueds h := by
  rw [gpPutCmd_eq]
  cases (waiting h).head? with
  | none => rfl
  | some z =>
    obtain ⟨_, _, he⟩ := dequeued_rest h
    have hsame : queueds (dequeued h) = queueds h := by rw [he]; rfl
    exact (queueds_send z (dequeued h)).trans hsame

/-- The commands queued are those the rules allow. -/
theorem Steps.added {R : Rules} {h h' : Host} (s : Steps R h h') :
    ∃ zs, (∀ z ∈ zs, R.queue z) ∧ queueds h' = queueds h ++ zs := by
  induction s with
  | refl => exact ⟨[], by simp, (List.append_nil _).symm⟩
  | @tail b c _ step ih =>
    obtain ⟨zs, hzs, he⟩ := ih
    cases step with
    | queue z _ hz =>
      refine ⟨zs ++ if b.world.malloc 0 then [z] else [], ?_, ?_⟩
      · intro y hy
        rcases List.mem_append.mp hy with hy | hy
        · exact hzs y hy
        · split at hy
          · exact List.mem_singleton.mp hy ▸ hz
          · cases hy
      · rw [queueds_inCmd, he, List.append_assoc]
    | send z _ hz => exact ⟨zs, hzs, (queueds_send z b).trans he⟩
    | serve => exact ⟨zs, hzs, (queueds_putCmd b).trans he⟩
    | silent hs => exact ⟨zs, hzs, hs.queueds.trans he⟩

/-- What has been sent stays sent. -/
theorem Steps.sent {R : Rules} {h h' : Host} (s : Steps R h h') : sends h <+: sends h' := by
  induction s with
  | refl => exact List.prefix_rfl
  | tail _ step ih =>
    refine ih.trans ?_
    cases step with
    | queue z _ _ => exact sends_inCmd z _ ▸ List.prefix_rfl
    | send z _ _ =>
      rw [gpSend_sends]
      exact List.prefix_append ..
    | serve _ _ =>
      rw [gpPutCmd_sends]
      exact List.prefix_append ..
    | silent hs _ => exact hs.sends ▸ List.prefix_rfl

theorem db_putCmd (h : Host) : (gpPutCmd h).1.db = h.db := by
  have hsend : ∀ z g, (gpSend z g).1.db = g.db := by
    intro z g
    obtain ⟨_, _, _, he⟩ := gpSend_rest z g
    rw [he]
    rfl
  rw [gpPutCmd_eq]
  cases (waiting h).head? with
  | none => rfl
  | some z =>
    obtain ⟨_, _, he⟩ := dequeued_rest h
    exact (hsend z (dequeued h)).trans (by rw [he])

/-- No run of steps takes a card from the database. -/
theorem Steps.grows {R : Rules} {h h' : Host} (s : Steps R h h') : Grows h.db h'.db := by
  induction s with
  | refl => exact Grows.refl _
  | tail _ step ih =>
    refine ih.trans ?_
    cases step with
    | queue z _ _ => exact Grows.ofEq (gpInCmd_queued z _).db
    | send z g _ =>
      obtain ⟨_, _, _, he⟩ := gpSend_rest z _
      rw [he]
      exact Grows.refl _
    | serve => exact Grows.ofEq (db_putCmd _)
    | silent hs => exact hs.db

theorem maxDevN_send (z : CmdSend) (h : Host) : (gpSend z h).1.maxDevN = h.maxDevN := by
  obtain ⟨_, _, _, he⟩ := gpSend_rest z h
  rw [he]
  rfl

theorem maxDevN_putCmd (h : Host) : (gpPutCmd h).1.maxDevN = h.maxDevN := by
  rw [gpPutCmd_eq]
  cases (waiting h).head? with
  | none => rfl
  | some z =>
    obtain ⟨_, _, he⟩ := dequeued_rest h
    exact (maxDevN_send z (dequeued h)).trans (by rw [he])

/-- There are never more controllers than a byte can address. -/
theorem Steps.maxDevN {R : Rules} {h h' : Host} (s : Steps R h h') (hn : h.maxDevN ≤ 255) :
    h'.maxDevN ≤ 255 := by
  induction s with
  | refl => exact hn
  | tail _ step ih =>
    cases step with
    | queue z _ _ => exact le_of_eq_of_le (gpInCmd_queued z _).maxDevN ih
    | send z _ _ => exact le_of_eq_of_le (maxDevN_send z _) ih
    | serve _ _ => exact le_of_eq_of_le (maxDevN_putCmd _) ih
    | silent hs _ => exact hs.maxDevN ih

/-- Memory that never fails never does later. -/
theorem Steps.allocates {R : Rules} {h h' : Host} (s : Steps R h h') (ha : Allocates h) :
    Allocates h' := by
  have hsend : ∀ z g, (gpSend z g).1.world.malloc = g.world.malloc := by
    intro z g
    obtain ⟨_, _, _, he⟩ := gpSend_rest z g
    rw [he]
  induction s with
  | refl => exact ha
  | @tail b _ _ step ih =>
    cases step with
    | queue z _ _ =>
      intro n
      rw [(gpInCmd_enqueued z b).1.malloc]
      exact ih _
    | send z _ _ =>
      intro n
      rw [hsend]
      exact ih n
    | serve _ _ =>
      intro n
      have hserve : (gpPutCmd b).1.world.malloc = b.world.malloc := by
        rw [gpPutCmd_eq]
        cases (waiting b).head? with
        | none => rfl
        | some z =>
          obtain ⟨_, _, he⟩ := dequeued_rest b
          exact (hsend z (dequeued b)).trans (by rw [he])
      rw [hserve]
      exact ih n
    | silent hs _ =>
      intro n
      rw [hs.malloc]
      exact ih n

/-- Commands are queued, and nothing is sent or learned. -/
structure OnlyQueues (h h' : Host) : Prop where
  gpHead : h.gpHead <+: h'.gpHead
  gpHead2 : h.gpHead2 <+: h'.gpHead2
  sends : sends h' = sends h
  sendMess : h'.sendMess = h.sendMess
  charges : ∀ d, SameCharges (h.devices d) (h'.devices d)
  facts : ∀ d, SameFacts (h.devices d) (h'.devices d)
  statics : SameStatics h h'

theorem OnlyQueues.trans {h h' h'' : Host} (q : OnlyQueues h h') (q' : OnlyQueues h' h'') :
    OnlyQueues h h'' :=
  ⟨q.gpHead.trans q'.gpHead, q.gpHead2.trans q'.gpHead2, q'.sends.trans q.sends,
    q'.sendMess.trans q.sendMess, fun d => (q.charges d).trans (q'.charges d),
    fun d => (q.facts d).trans (q'.facts d),
    q.statics.trans q'.statics⟩

theorem statics_inCmd (z : CmdSend) (h : Host) : SameStatics h (gpInCmd z h).1 := by
  obtain ⟨_, _, _, _, he⟩ := (gpInCmd_queued z h).rest
  rw [he]
  exact ⟨rfl, rfl, rfl⟩

theorem onlyQueues_inCmd (z : CmdSend) (h : Host) : OnlyQueues h (gpInCmd z h).1 := by
  have hdev := (gpInCmd_queued z h).devices
  have hqueues : h.gpHead <+: (gpInCmd z h).1.gpHead ∧ h.gpHead2 <+: (gpInCmd z h).1.gpHead2 := by
    rcases gpInCmd_cases z h with ⟨_, _, hq, hq2⟩ | ⟨_, hq, hq2⟩
    · rw [hq, hq2]
      exact ⟨List.prefix_rfl, List.prefix_rfl⟩
    · rw [hq, hq2]
      cases isFirst z with
      | true => exact ⟨List.prefix_append .., List.prefix_rfl⟩
      | false => exact ⟨List.prefix_rfl, List.prefix_append ..⟩
  refine ⟨hqueues.1, hqueues.2, sends_inCmd z h, sendMess_inCmd z h, ?_, ?_, statics_inCmd z h⟩
  · intro d
    rw [hdev]
    exact SameCharges.refl _
  · intro d
    rw [hdev]
    exact SameFacts.refl _

/-- Under rules that neither send nor serve. -/
theorem Steps.onlyQueues {R : Rules} (hsend : ∀ s z, ¬ R.send s z) (ha : ¬ R.acts) {h h' : Host}
    (s : Steps R h h') : OnlyQueues h h' := by
  induction s with
  | refl =>
    exact ⟨List.prefix_rfl, List.prefix_rfl, rfl, rfl, fun _ => SameCharges.refl _,
      fun _ => SameFacts.refl _, SameStatics.refl _⟩
  | tail _ step ih =>
    refine ih.trans ?_
    cases step with
    | queue z _ _ => exact onlyQueues_inCmd z _
    | send z _ hz => exact absurd hz (hsend _ z)
    | serve _ hn => exact absurd hn ha
    | silent hs hc =>
      have hc := hc.resolve_left ha
      exact ⟨hs.gpHead ▸ List.prefix_rfl, hs.gpHead2 ▸ List.prefix_rfl, hs.sends, hc.mess,
        hc.charges, hc.facts, hc.statics⟩

/-- A property that no command the rules allow has: no such command is queued. -/
theorem Steps.filter_none {R : Rules} {p : CmdSend → Bool} (hp : ∀ z, R.queue z → p z = false)
    {h h' : Host} (s : Steps R h h') : (queueds h').filter p = (queueds h).filter p := by
  obtain ⟨zs, hzs, he⟩ := s.added
  have hnone : zs.filter p = [] := by
    refine List.filter_eq_nil_iff.mpr ?_
    intro z hz
    rw [hp z (hzs z hz)]
    exact Bool.false_ne_true
  rw [he, List.filter_append, hnone]
  exact List.append_nil _

/-! ## The order of the queues -/

/-- The command belongs to `gp_head2` by its class. -/
def isSecond (z : CmdSend) : Bool := decide (z.queue = AD_Q_SECOND)

/-- What was queued in a class is what has been sent of it and, behind that, what
still waits. -/
structure InOrder (h : Host) : Prop where
  first : (queueds h).filter isFirst = (sends h).filter isFirst ++ h.gpHead
  second : (queueds h).filter isSecond = (sends h).filter isSecond ++ h.gpHead2

/-- Queued commands are of one of the two classes, and the others of neither. -/
structure Rules.Classed (R : Rules) : Prop where
  queue : ∀ z, R.queue z → z.queue = AD_Q_FIRST ∨ z.queue = AD_Q_SECOND
  send : ∀ s z, R.send s z → z.queue = AD_Q_SHORT

theorem classes_first {z : CmdSend} (hz : z.queue = AD_Q_FIRST) :
    isFirst z = true ∧ isSecond z = false := by
  rw [isFirst, isSecond, hz]
  exact ⟨rfl, rfl⟩

theorem classes_second {z : CmdSend} (hz : z.queue = AD_Q_SECOND) :
    isFirst z = false ∧ isSecond z = true := by
  rw [isFirst, isSecond, hz]
  exact ⟨rfl, rfl⟩

theorem classes_short {z : CmdSend} (hz : z.queue = AD_Q_SHORT) :
    isFirst z = false ∧ isSecond z = false := by
  rw [isFirst, isSecond, hz]
  exact ⟨rfl, rfl⟩

theorem filter_single {p : CmdSend → Bool} (z : CmdSend) :
    [z].filter p = if p z then [z] else [] := by
  cases hz : p z with
  | true => rw [List.filter_cons_of_pos hz, if_pos rfl, List.filter_nil]
  | false =>
    rw [List.filter_cons_of_neg (by rw [hz]; exact Bool.false_ne_true), if_neg Bool.false_ne_true,
      List.filter_nil]

namespace InOrder
variable {h : Host}

theorem mem_first (o : InOrder h) {z : CmdSend} (hz : z ∈ h.gpHead) : isFirst z = true := by
  have hmem : z ∈ (queueds h).filter isFirst := by
    rw [o.first]
    exact List.mem_append_right _ hz
  exact (List.mem_filter.mp hmem).2

theorem mem_second (o : InOrder h) {z : CmdSend} (hz : z ∈ h.gpHead2) : isSecond z = true := by
  have hmem : z ∈ (queueds h).filter isSecond := by
    rw [o.second]
    exact List.mem_append_right _ hz
  exact (List.mem_filter.mp hmem).2

theorem queue (o : InOrder h) {z : CmdSend} (hz : z.queue = AD_Q_FIRST ∨ z.queue = AD_Q_SECOND) :
    InOrder (gpInCmd z h).1 := by
  have hqueued := queueds_inCmd z h
  have hsent := sends_inCmd z h
  cases hm : h.world.malloc 0 with
  | false =>
    rw [hm, if_neg Bool.false_ne_true, List.append_nil] at hqueued
    have hsame : (gpInCmd z h).1.gpHead = h.gpHead ∧ (gpInCmd z h).1.gpHead2 = h.gpHead2 := by
      simp [gpInCmd, hm]
    exact ⟨by rw [hqueued, hsent, hsame.1, o.first], by rw [hqueued, hsent, hsame.2, o.second]⟩
  | true =>
    rw [hm, if_pos rfl] at hqueued
    have hqueues : (gpInCmd z h).1.gpHead = h.gpHead ++ [z].filter isFirst ∧
        (gpInCmd z h).1.gpHead2 = h.gpHead2 ++ [z].filter isSecond := by
      rw [filter_single, filter_single]
      rcases hz with hz | hz
      · rw [(classes_first hz).1, (classes_first hz).2]
        simp [gpInCmd, hm, hz, Host.note]
      · rw [(classes_second hz).1, (classes_second hz).2]
        simp [gpInCmd, hm, hz, Host.note]
    refine ⟨?_, ?_⟩
    · rw [hqueued, hsent, hqueues.1, List.filter_append, o.first, List.append_assoc]
    · rw [hqueued, hsent, hqueues.2, List.filter_append, o.second, List.append_assoc]

theorem send (o : InOrder h) {z : CmdSend} (hz : z.queue = AD_Q_SHORT) :
    InOrder (gpSend z h).1 := by
  obtain ⟨hq, hq2⟩ := gpSend_queues z h
  obtain ⟨hfirst, hsecond⟩ := classes_short hz
  have hnone : ∀ p : CmdSend → Bool, p z = false →
      (sends (gpSend z h).1).filter p = (sends h).filter p := by
    intro p hp
    rw [gpSend_sends, List.filter_append, filter_single, hp, if_neg Bool.false_ne_true,
      List.append_nil]
  exact ⟨by rw [queueds_send, hnone _ hfirst, hq, o.first],
    by rw [queueds_send, hnone _ hsecond, hq2, o.second]⟩

theorem serve (o : InOrder h) : InOrder (gpPutCmd h).1 := by
  obtain ⟨hq, hq2⟩ := gpPutCmd_queues h
  have hsent := gpPutCmd_sends h
  refine ⟨?_, ?_⟩
  · rw [queueds_putCmd, hsent, hq, List.filter_append, o.first, List.append_assoc]
    congr 1
    unfold waiting
    cases hw : h.gpHead with
    | cons z rest =>
      have hz := o.mem_first (z := z) (by rw [hw]; exact List.mem_cons_self ..)
      rw [List.cons_append, List.head?_cons, Option.toList_some, filter_single, hz, if_pos rfl]
      rfl
    | nil =>
      cases hw2 : h.gpHead2 with
      | nil => rfl
      | cons z rest =>
        have hz := o.mem_second (z := z) (by rw [hw2]; exact List.mem_cons_self ..)
        have hfirst := (classes_second (of_decide_eq_true hz)).1
        rw [List.nil_append, List.head?_cons, Option.toList_some, filter_single, hfirst]
        rfl
  · rw [queueds_putCmd, hsent, hq2, List.filter_append, o.second, List.append_assoc]
    congr 1
    unfold waiting
    cases hw : h.gpHead with
    | cons z rest =>
      have hz := o.mem_first (z := z) (by rw [hw]; exact List.mem_cons_self ..)
      have hsecond := (classes_first (of_decide_eq_true hz)).2
      rw [List.cons_append, List.head?_cons, Option.toList_some, filter_single, hsecond]
      rfl
    | nil =>
      cases hw2 : h.gpHead2 with
      | nil => rfl
      | cons z rest =>
        have hz := o.mem_second (z := z) (by rw [hw2]; exact List.mem_cons_self ..)
        rw [List.nil_append, List.head?_cons, Option.toList_some, filter_single, hz, if_pos rfl,
          if_pos rfl]
        rfl

/-- What has passed through each queue between two states, in order. -/
theorem passed {h' : Host} {sent queued : List CmdSend} (o : InOrder h) (o' : InOrder h')
    (hs : sends h' = sends h ++ sent) (hq : queueds h' = queueds h ++ queued) :
    sent.filter isFirst ++ h'.gpHead = h.gpHead ++ queued.filter isFirst ∧
      sent.filter isSecond ++ h'.gpHead2 = h.gpHead2 ++ queued.filter isSecond := by
  have hfirst := o'.first
  have hsecond := o'.second
  rw [hs, hq, List.filter_append, List.filter_append, List.append_assoc] at hfirst hsecond
  rw [o.first, List.append_assoc] at hfirst
  rw [o.second, List.append_assoc] at hsecond
  exact ⟨(List.append_cancel_left hfirst).symm, (List.append_cancel_left hsecond).symm⟩

end InOrder

/-- Each queue is served in the order of arrival, each command once. -/
theorem Steps.inOrder {R : Rules} (hR : R.Classed) {h h' : Host} (s : Steps R h h')
    (o : InOrder h) : InOrder h' := by
  induction s with
  | refl => exact o
  | tail _ step ih =>
    cases step with
    | queue z _ hz => exact ih.queue (hR.queue z hz)
    | send z _ hz => exact ih.send (hR.send _ z hz)
    | serve => exact ih.serve
    | silent hs =>
      refine ⟨?_, ?_⟩
      · rw [hs.queueds, hs.sends, hs.gpHead]
        exact ih.first
      · rw [hs.queueds, hs.sends, hs.gpHead2]
        exact ih.second

end Libgate.LineSteps
