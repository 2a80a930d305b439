import Libgate.Handlers

/-! One transmission, and what can bring it about: a command that waits in a
queue, or the poll cycle. Each is an equation with the host before the
transmission written out, so that what an event does to the port, the queues and
the marks is read off rather than traced. -/

namespace Libgate.Transmit
open Send Target Processor Receiver Layer HostFrame Handlers

/-! ## The port -/

/-- The write closes the port: an error, or nothing written to a closed pipe. -/
def Breaks (r : WriteRes) : Prop := r.nwritten < 0 ∨ r.nwritten = 0 ∧ r.epipe = true

instance (r : WriteRes) : Decidable (Breaks r) := inferInstanceAs (Decidable (_ ∨ _))

/-- The host once the next write is made. -/
def written (h : Host) : Host :=
  { h with
    fd := if Breaks (h.world.write 0) then -1 else h.fd
    world := { h.world with write := fun n => h.world.write (n + 1) } }

section Port
variable (z : CmdSend) {h : Host}

/-- Without a port the process ends. -/
theorem gpSend_shut (hfd : h.fd < 3) : gpSend z h =
    ({ gpSendMess z h with exitCode := h.exitCode.or (some (100 + h.fd)) }, 0) :=
  if_pos (show (gpSendMess z h).fd < 3 from hfd)

theorem gpSend_open (hfd : 3 ≤ h.fd) :
    gpSend z h = (written (gpSendMess z h), (h.world.write 0).nwritten) := by
  have hbreaks : (gpSendMess z h).world.write 0 = h.world.write 0 := rfl
  unfold gpSend gpResend written gpClose
  rw [if_neg (show ¬ (gpSendMess z h).fd < 3 from Int.not_lt.mpr hfd), hbreaks]
  simp only
  by_cases hz : (h.world.write 0).nwritten = 0
  · rw [if_pos hz]
    cases he : (h.world.write 0).epipe with
    | true => rw [if_pos rfl, if_pos (show Breaks _ from .inr ⟨hz, he⟩)]
    | false =>
      rw [if_neg Bool.false_ne_true, if_neg (show ¬ Breaks (h.world.write 0) from fun hb =>
        hb.elim (fun hn => absurd hz (Int.ne_of_lt hn)) fun hp => by rw [he] at hp; cases hp.2)]
  rw [if_neg hz]
  by_cases hn : (h.world.write 0).nwritten < 0
  · rw [if_pos hn, if_pos (show Breaks _ from .inl hn)]
  · rw [if_neg hn, if_neg (show ¬ Breaks (h.world.write 0) from fun hb =>
      hb.elim hn fun hp => hz hp.1)]

variable (h)

theorem gpSend_sends : sends (gpSend z h).1 = sends h ++ [z] := by
  rw [sends, gpSend_trace, List.filterMap_append]
  rfl

theorem gpSend_marks (d : Nat) : SameMarks (h.devices d) ((gpSend z h).1.devices d) := by
  obtain ⟨t, ht⟩ := gpSend_device z h d
  rw [ht]
  exact ⟨rfl, rfl, rfl⟩

end Port

/-! ## The queues -/

/-- The commands that wait, in the order they will be sent. -/
def waiting (h : Host) : List CmdSend := h.gpHead ++ h.gpHead2

/-- The host with the first of them taken out. -/
def dequeued (h : Host) : Host :=
  match h.gpHead with
  | _ :: rest => { h with gpHead := rest }
  | [] => { h with gpHead2 := h.gpHead2.tail }

theorem dequeued_queues (h : Host) :
    (dequeued h).gpHead = h.gpHead.tail ∧
      (dequeued h).gpHead2 = if h.gpHead = [] then h.gpHead2.tail else h.gpHead2 := by
  unfold dequeued
  cases hq : h.gpHead with
  | nil => exact ⟨rfl, rfl⟩
  | cons z rest => exact ⟨rfl, rfl⟩

theorem dequeued_rest (h : Host) :
    ∃ head head2, dequeued h = { h with gpHead := head, gpHead2 := head2 } := by
  unfold dequeued
  split
  · exact ⟨_, _, rfl⟩
  · exact ⟨_, _, rfl⟩

theorem gpSend_waiting (z : CmdSend) (h : Host) : waiting (gpSend z h).1 = waiting h := by
  have hq := gpSend_queues z h
  rw [waiting, hq.1, hq.2]
  rfl

theorem gpPutCmd_eq (h : Host) : gpPutCmd h =
    ((waiting h).head?.map fun z => gpSend z (dequeued h)).getD (h, 0) := by
  unfold gpPutCmd waiting dequeued
  cases h.gpHead with
  | cons z rest => rfl
  | nil =>
    cases h.gpHead2 with
    | cons z rest => rfl
    | nil => rfl

theorem gpPutCmd_none {h : Host} (hw : waiting h = []) : gpPutCmd h = (h, 0) := by
  rw [gpPutCmd_eq, hw]
  rfl

theorem gpPutCmd_some {h : Host} {z : CmdSend} {rest : List CmdSend} (hw : waiting h = z :: rest) :
    gpPutCmd h = gpSend z (dequeued h) := by
  rw [gpPutCmd_eq, hw]
  rfl

/-! ## The poll cycle -/

/-- The controller `gp_send_idle` asks next. -/
def polled (h : Host) : Option Nat :=
  (List.range' (h.gpDst + 1) (h.maxDevN - h.gpDst)).find? fun d =>
    (h.devices d).timeoutCount ≤ maxTimeoutCount

theorem polled_some {h : Host} {d : Nat} (hp : polled h = some d) :
    h.gpDst < d ∧ d ≤ h.maxDevN ∧ (h.devices d).timeoutCount ≤ maxTimeoutCount ∧
      ∀ i, h.gpDst < i → i < d → (h.devices i).timeoutCount > maxTimeoutCount := by
  obtain ⟨hcount, hmem, hbefore⟩ := List.find?_range'_eq_some.mp hp
  obtain ⟨hlo, hhi⟩ := List.mem_range'_1.mp hmem
  refine ⟨hlo, by omega, of_decide_eq_true hcount, ?_⟩
  intro i hi hid
  simpa using hbefore i hi hid

theorem polled_none {h : Host} (hp : polled h = none) :
    ∀ i, h.gpDst < i → i < h.maxDevN + 1 → (h.devices i).timeoutCount > maxTimeoutCount := by
  intro i hi hid
  simpa using List.find?_range'_eq_none.mp hp i hi (by omega)

/-- The cursor of the poll cycle moved to `d`, the controllers passed over off. -/
def skipTo (d : Nat) (h : Host) : Host :=
  { h with
    gpDst := d
    devices := fun i => if h.gpDst < i ∧ i < d then { h.devices i with activ := false }
      else h.devices i }

/-- `gp_send_idle` once the next controller is known. -/
def pollNext (d : Option Nat) (h : Host) : Host × Int :=
  match d with
  | some d => gpSend (pollCmd d) (skipTo d h)
  | none => ({ skipTo (h.maxDevN + 1) h with gpDst := 0 }, 0)

theorem skipTo_succ (h : Host) : skipTo (h.gpDst + 1) h = { h with gpDst := h.gpDst + 1 } := by
  unfold skipTo
  congr 1
  funext i
  rw [if_neg (fun hi => Nat.not_le.mpr hi.1 (Nat.le_of_lt_succ hi.2))]

/-- The next controller is passed over. -/
def passed (h : Host) : Host :=
  { h with gpDst := h.gpDst + 1 }.setDev (h.gpDst + 1) fun r => { r with activ := false }

theorem passed_self (h : Host) :
    (passed h).devices (h.gpDst + 1) = { h.devices (h.gpDst + 1) with activ := false } :=
  Function.update_self ..

theorem passed_ne {d : Nat} {h : Host} (hd : d ≠ h.gpDst + 1) :
    (passed h).devices d = h.devices d :=
  Function.update_of_ne hd ..

theorem passed_timeoutCount (h : Host) (d : Nat) :
    ((passed h).devices d).timeoutCount = (h.devices d).timeoutCount := by
  by_cases hd : d = h.gpDst + 1
  · rw [hd, passed_self]
  · rw [passed_ne hd]

/-- Passing over one controller and then the others. -/
theorem skipTo_passed {d : Nat} {h : Host} (hd : h.gpDst + 1 < d) :
    skipTo d (passed h) = skipTo d h := by
  have hdevs : ∀ i, (if h.gpDst + 1 < i ∧ i < d then
        { (passed h).devices i with activ := false } else (passed h).devices i) =
      if h.gpDst < i ∧ i < d then { h.devices i with activ := false } else h.devices i := by
    intro i
    by_cases hi : i = h.gpDst + 1
    · rw [hi, if_neg (fun hn => Nat.lt_irrefl _ hn.1), if_pos ⟨Nat.lt_succ_self _, hd⟩,
        passed_self]
    · rw [passed_ne hi]
      by_cases hlt : h.gpDst + 1 < i ∧ i < d
      · rw [if_pos hlt, if_pos ⟨Nat.lt_of_succ_lt hlt.1, hlt.2⟩]
      · rw [if_neg hlt, if_neg (fun hn => hlt ⟨Nat.lt_of_le_of_ne hn.1 (Ne.symm hi), hn.2⟩)]
  exact congrArg (fun f => { h with gpDst := d, devices := f }) (funext hdevs)

theorem polled_end {h : Host} (hend : h.maxDevN < h.gpDst + 1) : polled h = none := by
  rw [polled, Nat.sub_eq_zero_of_le (Nat.le_of_lt_succ hend)]
  rfl

/-- Whom the search finds at the next controller or behind it. -/
theorem polled_succ {h : Host} (hle : h.gpDst + 1 ≤ h.maxDevN) : polled h =
    if (h.devices (h.gpDst + 1)).timeoutCount > maxTimeoutCount then polled (passed h)
    else some (h.gpDst + 1) := by
  have hlen : h.maxDevN - h.gpDst = h.maxDevN - (h.gpDst + 1) + 1 := by omega
  have hrest : polled (passed h) =
      (List.range' (h.gpDst + 1 + 1) (h.maxDevN - (h.gpDst + 1))).find? fun d =>
        (h.devices d).timeoutCount ≤ maxTimeoutCount := by
    simp only [polled, passed_timeoutCount]
    rfl
  rw [polled, hlen, List.range'_succ, List.find?_cons, hrest]
  by_cases hcount : (h.devices (h.gpDst + 1)).timeoutCount > maxTimeoutCount
  · rw [if_pos hcount, decide_eq_false (Nat.not_le.mpr hcount)]
  · rw [if_neg hcount, decide_eq_true (Nat.le_of_not_gt hcount)]

theorem pollNext_passed {h : Host} (hle : h.gpDst + 1 ≤ h.maxDevN) :
    pollNext (polled (passed h)) (passed h) = pollNext (polled (passed h)) h := by
  cases hp : polled (passed h) with
  | some d =>
    obtain ⟨hlt, _⟩ := polled_some hp
    have hskip : skipTo d (passed h) = skipTo d h := skipTo_passed hlt
    simp only [pollNext, hskip]
  | none =>
    have hskip := skipTo_passed (Nat.lt_succ_of_le hle)
    exact Prod.ext (congrArg (fun g : Host => { g with gpDst := 0 }) hskip) rfl

theorem gpSendIdleLoop_eq (n : Nat) (h : Host) (hn : h.maxDevN - h.gpDst < n) :
    gpSendIdleLoop n h = pollNext (polled h) h := by
  induction n generalizing h with
  | zero => exact absurd hn (Nat.not_lt_zero _)
  | succ n ih =>
    unfold gpSendIdleLoop
    simp only
    by_cases hend : h.gpDst + 1 > h.maxDevN
    · have hskip : ∀ i, ¬ (h.gpDst < i ∧ i < h.maxDevN + 1) := by
        intro i hi
        omega
      rw [if_pos hend, polled_end hend]
      simp only [pollNext, skipTo, if_neg (hskip _)]
    have hle : h.gpDst + 1 ≤ h.maxDevN := Nat.le_of_not_gt hend
    rw [if_neg hend, polled_succ hle]
    by_cases hcount : (h.devices (h.gpDst + 1)).timeoutCount > maxTimeoutCount
    · rw [if_pos hcount, if_pos hcount, ← pollNext_passed hle]
      exact ih (passed h) (show h.maxDevN - (h.gpDst + 1) < n by omega)
    · rw [if_neg hcount, if_neg hcount]
      simp only [pollNext, skipTo_succ]

/-- `gp_send_idle` asks the next controller that may be asked, or ends the round. -/
theorem gpSendIdle_eq (h : Host) : gpSendIdle h = pollNext (polled h) h :=
  gpSendIdleLoop_eq _ h (by omega)

/-! ## The timer -/

/-- The command outstanding is given up and charged to its controller. -/
def charge (h : Host) : Host :=
  if h.sendMess.isExpected then
    { h with sendMess := { h.sendMess with isExpected := false } }.setDev h.sendMess.dev.toNat
      fun d => { d with timeoutCount := d.timeoutCount + 1 }
  else h

/-- A charge is entered in the record of the controller and nowhere else. -/
theorem charge_kept (h : Host) :
    (charge h).fd = h.fd ∧ (charge h).world = h.world ∧ (charge h).exitCode = h.exitCode ∧
      sends (charge h) = sends h ∧ waiting (charge h) = waiting h := by
  unfold charge
  split
  · exact ⟨rfl, rfl, rfl, rfl, rfl⟩
  · exact ⟨rfl, rfl, rfl, rfl, rfl⟩

/-- A command from the queues, or else the poll cycle. -/
def sendNext (h : Host) : Host :=
  let r := gpPutCmd h
  if r.2 > 0 then r.1 else (gpSendIdle r.1).1

/-- The time since the last transmission is up. -/
def Overdue (h : Host) : Prop := tv2ms h.world.now - h.sendMess.sentTime ≥ GP_DELAY

instance (h : Host) : Decidable (Overdue h) := inferInstanceAs (Decidable (_ ≥ _))

theorem gpReconnect_kept (b : Bool) (h : Host) :
    (gpReconnect b h).1.sendMess = h.sendMess ∧ (gpReconnect b h).1.world.now = h.world.now ∧
      (gpReconnect b h).1.world.write = h.world.write ∧
      (gpReconnect b h).1.devices = h.devices ∧ (gpReconnect b h).1.exitCode = h.exitCode ∧
      sends (gpReconnect b h).1 = sends h ∧ waiting (gpReconnect b h).1 = waiting h := by
  obtain ⟨_, _, _, he⟩ := gpReconnect_rest b h
  rw [he]
  exact ⟨rfl, rfl, rfl, rfl, rfl, rfl, rfl⟩

theorem overdue_gpReconnect (b : Bool) (h : Host) : Overdue (gpReconnect b h).1 ↔ Overdue h := by
  obtain ⟨hs, hn, _⟩ := gpReconnect_kept b h
  rw [Overdue, hs, hn]
  rfl

theorem receivTimeout_eq (h : Host) : receivTimeout h =
    if Overdue h then sendNext (charge (gpReconnect false h).1) else (gpReconnect false h).1 := by
  by_cases ho : Overdue h
  · rw [if_pos ho]
    exact if_pos ((overdue_gpReconnect false h).mpr ho)
  · rw [if_neg ho]
    exact if_neg fun hn => ho ((overdue_gpReconnect false h).mp hn)

/-! ## What has been sent and what is outstanding -/

/-- The controller the command outstanding was sent to, if one is expected to answer. -/
def outstanding (h : Host) : Option UInt8 :=
  if h.sendMess.isExpected then some h.sendMess.dev else none

/-- The second host is the first after the transmissions `zs`: the last of them
is outstanding, the counts are the same, and a controller goes off only by its
count. -/
structure After (zs : List CmdSend) (h h' : Host) : Prop where
  sends : sends h' = sends h ++ zs
  outstanding : outstanding h' = (zs.getLast?.map CmdSend.dst).or (outstanding h)
  timeoutCount : ∀ d, (h'.devices d).timeoutCount = (h.devices d).timeoutCount
  isInited : ∀ d, (h'.devices d).isInited = (h.devices d).isInited
  activ : ∀ d, (h'.devices d).activ = (h.devices d).activ ∨
    (h'.devices d).activ = false ∧ (h.devices d).timeoutCount > maxTimeoutCount

namespace After
variable {zs zs' : List CmdSend} {h h' h'' : Host}

theorem ofMarks (hs : Handlers.sends h' = Handlers.sends h) (ho : h'.sendMess = h.sendMess)
    (hm : ∀ d, SameMarks (h.devices d) (h'.devices d)) : After [] h h' where
  sends := hs.trans (List.append_nil _).symm
  outstanding := by rw [Transmit.outstanding, ho]; rfl
  timeoutCount d := (hm d).timeoutCount
  isInited d := (hm d).isInited
  activ d := .inl (hm d).activ

theorem refl (h : Host) : After [] h h := ofMarks rfl rfl fun _ => SameMarks.refl _

theorem trans (a : After zs h h') (a' : After zs' h' h'') : After (zs ++ zs') h h'' where
  sends := by rw [a'.sends, a.sends, List.append_assoc]
  outstanding := by
    rw [a'.outstanding, a.outstanding, List.getLast?_append]
    cases zs'.getLast? with
    | none => rfl
    | some z => rfl
  timeoutCount d := (a'.timeoutCount d).trans (a.timeoutCount d)
  isInited d := (a'.isInited d).trans (a.isInited d)
  activ d := by
    rcases a'.activ d with hsame | ⟨hoff, hcount⟩
    · rw [hsame]
      exact a.activ d
    · rw [a.timeoutCount d] at hcount
      exact .inr ⟨hoff, hcount⟩

theorem send (z : CmdSend) (h : Host) : After [z] h (gpSend z h).1 where
  sends := gpSend_sends z h
  outstanding := by rw [Transmit.outstanding, gpSend_sendMess]; rfl
  timeoutCount d := (gpSend_marks z h d).timeoutCount
  isInited d := (gpSend_marks z h d).isInited
  activ d := .inl (gpSend_marks z h d).activ

theorem kept (k : Kept h h') : After [] h h' := ofMarks k.sends k.sendMess k.marks

/-- Queueing any command, also one of the first queue. -/
theorem inCmd (z : CmdSend) (h : Host) : After [] h (gpInCmd z h).1 := by
  have q := gpInCmd_queued z h
  obtain ⟨zs, _, ht⟩ := q.trace
  refine ofMarks ?_ q.sendMess fun d => by rw [q.devices]; exact SameMarks.refl _
  rw [Handlers.sends, ht, List.filterMap_append, List.filterMap_map]
  have hnone : zs.filterMap (sentCmd ∘ Obs.queued) = [] :=
    List.filterMap_eq_nil_iff.mpr fun _ _ => rfl
  rw [hnone]
  exact List.append_nil _

theorem reconnect (b : Bool) (h : Host) : After [] h (gpReconnect b h).1 := by
  obtain ⟨_, _, _, he⟩ := gpReconnect_rest b h
  rw [he]
  exact ofMarks rfl rfl fun _ => SameMarks.refl _

theorem dequeue (h : Host) : After [] h (dequeued h) := by
  obtain ⟨_, _, he⟩ := dequeued_rest h
  rw [he]
  exact ofMarks rfl rfl fun _ => SameMarks.refl _

theorem putCmd (h : Host) : After (waiting h).head?.toList h (gpPutCmd h).1 := by
  rw [gpPutCmd_eq]
  cases (waiting h).head? with
  | none => exact refl h
  | some z => exact (dequeue h).trans (send z _)

theorem skip (d : Nat) (h : Host) (hd : ∀ i, h.gpDst < i → i < d →
    (h.devices i).timeoutCount > maxTimeoutCount) : After [] h (skipTo d h) := by
  refine ⟨(List.append_nil _).symm, rfl, ?_, ?_, ?_⟩
  · intro i
    change (if _ then _ else _ : GpDev).timeoutCount = _
    split
    · rfl
    · rfl
  · intro i
    change (if _ then _ else _ : GpDev).isInited = _
    split
    · rfl
    · rfl
  · intro i
    change (if _ then _ else _ : GpDev).activ = _ ∨ (if _ then _ else _ : GpDev).activ = _ ∧ _
    split
    · next hi => exact .inr ⟨rfl, hd i hi.1 hi.2⟩
    · exact .inl rfl

theorem idle (h : Host) : After ((polled h).toList.map pollCmd) h (gpSendIdle h).1 := by
  rw [gpSendIdle_eq]
  cases hp : polled h with
  | some d => exact (skip d h (polled_some hp).2.2.2).trans (send (pollCmd d) _)
  | none =>
    have hwrap : After [] (skipTo (h.maxDevN + 1) h) (pollNext none h).1 :=
      ofMarks rfl rfl fun _ => SameMarks.refl _
    exact (skip _ h (polled_none hp)).trans hwrap

/-- A reply is answered by at most one transmission. -/
theorem reply (m : ReceivMess) (h : Host) :
    After (chained m h).toList h (processPortInput m h).1 := by
  obtain ⟨h', q, _, he⟩ := processPortInput_handles m h
  rw [he]
  cases chained m h with
  | none => exact kept q.kept
  | some z => exact (kept q.kept).trans (send z h')

theorem close (h : Host) : After [] h (gpClose h) := ofMarks rfl rfl fun _ => SameMarks.refl _

theorem sendNext (h : Host) : ∃ zs, After zs h (sendNext h) := by
  unfold Transmit.sendNext
  simp only
  split
  · exact ⟨_, putCmd h⟩
  · exact ⟨_, (putCmd h).trans (idle _)⟩

theorem dispatch (m : ReceivMess) (k : RxKind) (h : Host) : ∃ zs, After zs h (dispatch m k h) := by
  cases k with
  | readError => exact ⟨_, (close h).trans (putCmd _)⟩
  | eof => exact ⟨_, (send _ h).trans (close _)⟩
  | noBegin => exact ⟨_, reconnect false h⟩
  | incomplete => exact ⟨_, refl h⟩
  | crcError => exact ⟨_, refl h⟩
  | deviceError => exact ⟨_, refl h⟩
  | nack => exact ⟨_, putCmd h⟩
  | ack => exact ⟨_, (reply m h).trans (putCmd _)⟩
  | reply =>
    unfold Layer.dispatch
    simp only
    split
    · exact ⟨_, reply m h⟩
    · exact ⟨_, (reply m h).trans (putCmd _)⟩

end After

/-! ## The controller that is heard -/

/-- What the start of a read does: the addressed controller is live and
initialised, nothing is outstanding, and at most commands are queued. -/
structure Heard (h h' : Host) : Prop where
  now : h'.world.now = h.world.now
  write : h'.world.write = h.world.write
  fd : h'.fd = h.fd
  exitCode : h'.exitCode = h.exitCode
  sendMess : h'.sendMess = { h.sendMess with isExpected := false }
  gpHead : h'.gpHead = h.gpHead
  gpHead2 : h.gpHead2 <+: h'.gpHead2
  sends : sends h' = sends h
  activ : (h'.devices h.sendMess.dev.toNat).activ = true
  timeoutCount : (h'.devices h.sendMess.dev.toNat).timeoutCount = 0
  isInited : (h'.devices h.sendMess.dev.toNat).isInited = true
  others : ∀ d ≠ h.sendMess.dev.toNat, SameMarks (h.devices d) (h'.devices d)

theorem receivAlive_heard (h : Host) : Heard h (receivAlive h) := by
  unfold receivAlive
  simp only
  have hother : ∀ f, ∀ d ≠ h.sendMess.dev.toNat, SameMarks (h.devices d)
      (({ h with sendMess := { h.sendMess with isExpected := false } }.setDev h.sendMess.dev.toNat
        f).devices d) := by
    intro f d hd
    rw [Host.setDev_devices_ne _ _ hd]
    exact SameMarks.refl _
  split
  · next hi =>
    exact ⟨rfl, rfl, rfl, rfl, rfl, rfl, List.prefix_rfl, rfl, by simp, by simp, hi, hother _⟩
  · obtain ⟨h', q, he⟩ := gpDevInit_quiet h.sendMess.dev.toNat
      ({ h with sendMess := { h.sendMess with isExpected := false } }.setDev h.sendMess.dev.toNat
        fun d => { d with lastRead := tv2ms h.world.now, activ := true, timeoutCount := 0 })
    have k := q.kept
    change Heard h (gpDevInit h.sendMess.dev.toNat _)
    rw [he]
    refine ⟨k.now, k.write, k.fd, k.exitCode, k.sendMess, k.gpHead, k.gpHead2, k.sends, ?_, ?_, ?_,
      ?_⟩
    · rw [Host.setDev_devices_self]
      exact (k.marks _).activ.trans (by simp)
    · rw [Host.setDev_devices_self]
      exact (k.marks _).timeoutCount.trans (by simp)
    · rw [Host.setDev_devices_self]
    · intro d hd
      rw [Host.setDev_devices_ne _ _ hd]
      exact (hother _ d hd).trans (k.marks d)

/-- A command will wait once the start of a read is done: one does already, or
one of the controller's first commands finds memory. -/
def WillWait (h : Host) : Prop :=
  waiting h ≠ [] ∨ (h.devices h.sendMess.dev.toNat).isInited = false ∧
    ∃ n < 11, h.world.malloc n = true

theorem waiting_receivAlive (h : Host) : waiting (receivAlive h) ≠ [] ↔ WillWait h := by
  have hfirst := (receivAlive_heard h).gpHead
  have hnil : ∀ g : Host, waiting g = [] ↔ g.gpHead = [] ∧ g.gpHead2 = [] :=
    fun g => List.append_eq_nil_iff
  unfold WillWait
  cases hi : (h.devices h.sendMess.dev.toNat).isInited with
  | true =>
    have hinit : receivAlive h = { h with
        sendMess := { h.sendMess with isExpected := false } }.setDev h.sendMess.dev.toNat fun d =>
          { d with lastRead := tv2ms h.world.now, activ := true, timeoutCount := 0 } :=
      if_pos (by rw [Host.setDev_devices_self]; exact hi)
    rw [hinit]
    exact ⟨.inl, fun hw => hw.elim id fun hn => Bool.noConfusion hn.1⟩
  | false =>
    have hinit : receivAlive h = gpDevInit h.sendMess.dev.toNat ({ h with
        sendMess := { h.sendMess with isExpected := false } }.setDev h.sendMess.dev.toNat fun d =>
          { d with lastRead := tv2ms h.world.now, activ := true, timeoutCount := 0 }) :=
      if_neg (by rw [Host.setDev_devices_self]; simp [hi])
    have hsecond : (receivAlive h).gpHead2 = [] ↔
        h.gpHead2 = [] ∧ ∀ n < 11, h.world.malloc n = false := by
      rw [hinit, gpDevInit_eq]
      exact queueAll_gpHead2 (initCmds_routine _ _ _) _
    rw [ne_eq, ne_eq, hnil, hnil, hfirst, hsecond]
    simp only [true_and, ← Bool.not_eq_true]
    constructor
    · intro hno
      by_contra hor
      rw [not_or, not_not] at hor
      exact hno ⟨hor.1.1, hor.1.2, fun n hn hm => hor.2 ⟨n, hn, hm⟩⟩
    · intro hor hall
      rcases hor with hw | hm
      · exact hw ⟨hall.1, hall.2.1⟩
      · obtain ⟨n, hn, hm⟩ := hm
        exact hall.2.2 n hn hm

/-! ## Events -/

/-- What happens to the adapter: time passes, the program sends or queues a
command, sets the number of controllers or does something quiet, a timer fires,
the port has an event. -/
inductive Event where
  | tick (now : Timeval)
  | send (z : CmdSend)
  | inCmd (z : CmdSend)
  | setMaxDev (n : Int)
  | quiet (f : Host → Host) (hf : ∀ h, Quiet h (f h))
  | devEnable
  | port (e : PortEvent)

def occur (e : Event) (g : Gate) : Gate :=
  match e with
  | .tick now => { g with host := { g.host with world := { g.host.world with now := now } } }
  | .send z => { g with host := (gpSend z g.host).1 }
  | .inCmd z => { g with host := (gpInCmd z g.host).1 }
  | .setMaxDev n => { g with host := (Cmd.cmdSetMaxDev n g.host).1 }
  | .quiet f _ => { g with host := f g.host }
  | .devEnable => { g with host := gpAllDevEnable g.host }
  | .port e => gpReceiv e g

end Libgate.Transmit
