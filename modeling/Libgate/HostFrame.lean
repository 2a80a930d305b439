import Libgate.Layer

/-! What the senders leave alone. A queued command changes nothing but the two
queues, the outcome of the next `malloc` and the trace; a sent one changes
nothing but `send_mess` and what belongs to it. The operations of `ad_cmd.c`
and `gp_layer.c` are put together from these two and from single writes to the
device table. -/

namespace Libgate.HostFrame
open DbLayer Send Target Cmd Layer

/-! ## What a command carries -/

/-- The 16-bit value at `i` of a command's data. -/
def valAt (z : CmdSend) (i : Nat) : Nat :=
  (z.cmdBuff.getD i 0).toNat * 256 + (z.cmdBuff.getD (i + 1) 0).toNat

theorem toNat_shiftRight_eight (a : UInt16) : (a >>> 8).toNat = a.toNat / 256 := by
  rw [UInt16.toNat_shiftRight, Nat.shiftRight_eq_div_pow]; rfl

theorem be16_val (a : UInt16) : (a >>> 8).toUInt8.toNat * 256 + a.toUInt8.toNat = a.toNat := by
  have ha := a.toNat_lt
  rw [UInt16.toNat_toUInt8, UInt16.toNat_toUInt8, toNat_shiftRight_eight]
  omega

/-- `be16toh` reads back what `htobe16` wrote. -/
theorem be16toh_of_be16 {m : Nat → UInt8} {p : Nat} {a : UInt16} (h0 : m p = (a >>> 8).toUInt8)
    (h1 : m (p + 1) = a.toUInt8) : be16toh m p = a := by
  have ha := a.toNat_lt
  have hhi : a.toNat / 256 % 2 ^ 8 * 2 ^ 8 % 2 ^ 16 = 2 ^ 8 * (a.toNat / 256) := by omega
  rw [be16toh, h0, h1]
  apply UInt16.toNat_inj.mp
  rw [UInt16.toNat_or, UInt16.toNat_shiftLeft, UInt8.toNat_toUInt16, UInt8.toNat_toUInt16,
    UInt16.toNat_toUInt8, UInt16.toNat_toUInt8, toNat_shiftRight_eight, Nat.shiftLeft_eq]
  change a.toNat / 256 % 2 ^ 8 * 2 ^ 8 % 2 ^ 16 ||| a.toNat % 2 ^ 8 = a.toNat
  rw [hhi, ← Nat.two_pow_add_eq_or_of_lt (Nat.mod_lt _ (by decide))]
  omega

/-! ## Queueing -/

/-- `h'` is `h` after some commands that satisfy `P` were queued. -/
structure Queued (P : CmdSend → Prop) (h h' : Host) : Prop where
  rest : ∃ malloc head head2 trace, h' = { h with
    world := { h.world with malloc := malloc }
    gpHead := head
    gpHead2 := head2
    trace := trace }
  trace : ∃ zs : List CmdSend, (∀ z ∈ zs, P z) ∧ h'.trace = h.trace ++ zs.map Obs.queued

namespace Queued
variable {P Q : CmdSend → Prop} {h h' h'' : Host}

theorem refl (h : Host) : Queued P h h := ⟨⟨_, _, _, _, rfl⟩, [], by simp, by simp⟩

theorem trans (q : Queued P h h') (q' : Queued P h' h'') : Queued P h h'' := by
  obtain ⟨⟨ma, hd, hd2, tr, he⟩, zs, hz, ht⟩ := q
  obtain ⟨⟨ma', hd', hd2', tr', he'⟩, zs', hz', ht'⟩ := q'
  refine ⟨⟨ma', hd', hd2', tr', by rw [he', he]⟩, zs ++ zs', ?_, by rw [ht', ht]; simp⟩
  intro z hm
  rcases List.mem_append.mp hm with hm | hm
  · exact hz z hm
  · exact hz' z hm

theorem mono (hPQ : ∀ z, P z → Q z) (q : Queued P h h') : Queued Q h h' := by
  obtain ⟨hr, zs, hz, ht⟩ := q
  exact ⟨hr, zs, fun z hm => hPQ z (hz z hm), ht⟩

theorem devices (q : Queued P h h') : h'.devices = h.devices := by
  obtain ⟨⟨_, _, _, _, rfl⟩, _⟩ := q; rfl

theorem db (q : Queued P h h') : h'.db = h.db := by
  obtain ⟨⟨_, _, _, _, rfl⟩, _⟩ := q; rfl

theorem maxBoundToken (q : Queued P h h') : h'.maxBoundToken = h.maxBoundToken := by
  obtain ⟨⟨_, _, _, _, rfl⟩, _⟩ := q; rfl

theorem maxDevN (q : Queued P h h') : h'.maxDevN = h.maxDevN := by
  obtain ⟨⟨_, _, _, _, rfl⟩, _⟩ := q; rfl

theorem sendMess (q : Queued P h h') : h'.sendMess = h.sendMess := by
  obtain ⟨⟨_, _, _, _, rfl⟩, _⟩ := q; rfl

end Queued

theorem gpInCmd_queued (z : CmdSend) (h : Host) : Queued (· = z) h (gpInCmd z h).1 := by
  unfold gpInCmd
  cases hm : h.world.malloc 0 with
  | false => exact ⟨⟨_, _, _, _, rfl⟩, [], by simp, by simp⟩
  | true =>
    simp only [Bool.not_true, Bool.false_eq_true, if_false]
    split
    · exact ⟨⟨_, _, _, _, rfl⟩, [z], by simp, by simp [Host.note]⟩
    · exact ⟨⟨_, _, _, _, rfl⟩, [z], by simp, by simp [Host.note]⟩

theorem sendOrQueue_queued {z : CmdSend} (hz : z.queue ≠ AD_Q_SHORT) (h : Host) :
    Queued (· = z) h (sendOrQueue z h).1 := by
  rw [sendOrQueue, if_neg hz]
  exact gpInCmd_queued z h

/-- Commands of the second queue are not sent at once. -/
theorem second_ne_short : AD_Q_SECOND ≠ AD_Q_SHORT := by decide

/-- The command for the second bank. -/
def secondBank (z : CmdSend) : CmdSend := { z with bank := 1, cmdBuff := z.cmdBuff.set 0 1 }

theorem bothBanks_queued {z : CmdSend} (hz : z.queue ≠ AD_Q_SHORT) (h : Host) :
    Queued (fun c => c = z ∨ c = secondBank z) h (bothBanks z h).1 := by
  have h1 := sendOrQueue_queued hz h
  have h2 := sendOrQueue_queued (z := secondBank z) hz (sendOrQueue z h).1
  exact (h1.mono fun _ hc => .inl hc).trans (h2.mono fun _ hc => .inr hc)

theorem adSetToken_queued (d : Nat) (addr : UInt16) (data : List UInt8) (n : Nat) (h : Host) :
    Queued (fun c => c = adSetTokenCmd AD_Q_SECOND d addr data n ∨
        c = secondBank (adSetTokenCmd AD_Q_SECOND d addr data n)) h
      (adSetToken AD_Q_SECOND d addr data n h).1 :=
  bothBanks_queued (z := _) second_ne_short h

theorem adSetTokenBound_queued (d : Nat) (addr : UInt16) (h : Host) :
    Queued (fun c => c = adSetTokenBoundCmd AD_Q_SECOND d addr ∨
        c = secondBank (adSetTokenBoundCmd AD_Q_SECOND d addr)) h
      (adSetTokenBound AD_Q_SECOND d addr h).1 :=
  bothBanks_queued (z := _) second_ne_short h

/-! ## Sending -/

section Sending
variable (cmd : CmdSend) (h : Host)

theorem gpResend_rest : ∃ fd write code, (gpResend h).1 = { h with
    fd := fd, exitCode := code, world := { h.world with write := write } } := by
  unfold gpResend gpClose
  split
  · exact ⟨_, _, _, rfl⟩
  · simp only
    split
    · split
      · exact ⟨_, _, _, rfl⟩
      · exact ⟨_, _, _, rfl⟩
    · split
      · exact ⟨_, _, _, rfl⟩
      · exact ⟨_, _, _, rfl⟩

theorem gpSend_rest : ∃ fd write code, (gpSend cmd h).1 = { gpSendMess cmd h with
    fd := fd, exitCode := code, world := { h.world with write := write } } :=
  gpResend_rest (gpSendMess cmd h)

@[simp] theorem gpSend_devices : (gpSend cmd h).1.devices =
    (h.setDev cmd.dst.toNat fun d => { d with lastSent := tv2ms h.world.now }).devices := by
  obtain ⟨_, _, _, he⟩ := gpSend_rest cmd h
  rw [he]; rfl

@[simp] theorem gpSend_maxBoundToken : (gpSend cmd h).1.maxBoundToken = h.maxBoundToken := by
  obtain ⟨_, _, _, he⟩ := gpSend_rest cmd h
  rw [he]; rfl

@[simp] theorem gpSend_trace : (gpSend cmd h).1.trace = h.trace ++ [.sent cmd] := by
  obtain ⟨_, _, _, he⟩ := gpSend_rest cmd h
  rw [he]; rfl

theorem gpSend_queues : (gpSend cmd h).1.gpHead = h.gpHead ∧ (gpSend cmd h).1.gpHead2 = h.gpHead2 := by
  obtain ⟨_, _, _, he⟩ := gpSend_rest cmd h
  rw [he]
  exact ⟨rfl, rfl⟩

@[simp] theorem gpSend_sendMess : (gpSend cmd h).1.sendMess = (gpSendMess cmd h).sendMess := by
  obtain ⟨_, _, _, he⟩ := gpSend_rest cmd h
  rw [he]

/-- Sending changes nothing of a device but the time it was last sent to. -/
theorem gpSend_device (d : Nat) :
    ∃ t, (gpSend cmd h).1.devices d = { h.devices d with lastSent := t } := by
  rw [gpSend_devices]
  by_cases hd : d = cmd.dst.toNat
  · subst hd
    exact ⟨_, Host.setDev_devices_self ..⟩
  · exact ⟨(h.devices d).lastSent, Host.setDev_devices_ne _ _ hd⟩

/-- What `gp_put_cmd` sends. -/
def nextSent (h : Host) : List Obs :=
  match h.gpHead with
  | z :: _ => [.sent z]
  | [] =>
    match h.gpHead2 with
    | z :: _ => [.sent z]
    | [] => []

theorem gpPutCmd_trace : (gpPutCmd h).1.trace = h.trace ++ nextSent h := by
  unfold gpPutCmd nextSent
  cases h.gpHead with
  | cons z rest => exact gpSend_trace ..
  | nil =>
    cases h.gpHead2 with
    | cons z rest => exact gpSend_trace ..
    | nil => exact (List.append_nil _).symm

theorem gpPutCmd_device (d : Nat) :
    ∃ t, (gpPutCmd h).1.devices d = { h.devices d with lastSent := t } := by
  unfold gpPutCmd
  cases h.gpHead with
  | cons z rest => exact gpSend_device z _ d
  | nil =>
    cases h.gpHead2 with
    | cons z rest => exact gpSend_device z _ d
    | nil => exact ⟨_, rfl⟩

end Sending

/-! ## Timers and initialisation -/

theorem gpReconnect_rest (b : Bool) (h : Host) : ∃ t fd openPort, (gpReconnect b h).1 =
    { h with lastTry := t, fd := fd, world := { h.world with openPort := openPort } } := by
  unfold gpReconnect
  simp only
  split
  · split
    · exact ⟨_, _, _, rfl⟩
    · exact ⟨_, _, _, rfl⟩
  · exact ⟨_, _, _, rfl⟩

/-- `gp_dev_init` queues commands and marks the device, with the local time read
first. -/
theorem gpDevInit_queued (dev : Nat) (h : Host) :
    ∃ h', Queued (fun _ => True) (readLocaltime h) h' ∧
      gpDevInit dev h = h'.setDev dev fun d => { d with isInited := true } := by
  refine ⟨_, ?_, rfl⟩
  have one : ∀ z h', Queued (fun _ => True) h' (gpInCmd z h').1 :=
    fun z h' => (gpInCmd_queued z h').mono fun _ _ => trivial
  have two : ∀ z h', z.queue = AD_Q_SECOND → Queued (fun _ => True) h' (bothBanks z h').1 :=
    fun z h' hz => (bothBanks_queued (hz ▸ second_ne_short) h').mono fun _ _ => trivial
  have info : ∀ h', Queued (fun _ => True) h' (adGetInfo AD_Q_SECOND dev h').1 :=
    fun h' => (sendOrQueue_queued second_ne_short h').mono fun _ _ => trivial
  refine Queued.trans ?_ (one _ _)
  refine Queued.trans ?_ (two _ _ rfl)
  refine Queued.trans ?_ (two _ _ rfl)
  refine Queued.trans ?_ (info _)
  refine Queued.trans ?_ (two _ _ rfl)
  refine Queued.trans ?_ (two _ _ rfl)
  exact one _ _

theorem getDevLogsLoop_queued (ns : List Nat) (h : Host) :
    Queued (fun z => ∃ d, z = adGetBuffAddrCmd AD_Q_SECOND d .cbLogRead) h (getDevLogsLoop ns h) := by
  induction ns generalizing h with
  | nil => exact Queued.refl h
  | cons d ns ih =>
    unfold getDevLogsLoop
    split
    · exact ((gpInCmd_queued _ h).mono fun _ hz => ⟨d, hz⟩).trans (ih _)
    · exact ih h

theorem gpInit_db (h : Host) : (gpInit h).db = h.db := by
  unfold gpInit gpAllDevEnable gpGetDevLogs
  obtain ⟨_, _, _, he⟩ := gpReconnect_rest true _
  obtain ⟨_, _, _, he'⟩ := gpReconnect_rest false _
  rw [he, (getDevLogsLoop_queued ..).db, he']

theorem gpInit_maxBoundToken (h : Host) :
    (gpInit h).maxBoundToken = UInt16.ofNat (dbGetMaxAddr h.db + sizeofTokenRec) := by
  have hdb := gpInit_db h
  unfold gpInit at *
  obtain ⟨_, _, _, he⟩ := gpReconnect_rest true _
  rw [he] at hdb ⊢
  simp only at hdb ⊢
  rw [hdb]

/-! ## Adding a card to one controller -/

theorem toNat_max (a b : UInt16) : (max a b).toNat = max a.toNat b.toNat := by
  simp only [max, UInt16.le_iff_toNat_le]
  split <;> omega

theorem cmdAddCid_conflict {rec : ProcAddCid} {h : Host} (hc : cmdConflict rec h = true) :
    cmdAddCid rec h = (h.note (.dbGetCidByA (cmdAddr rec h).toUInt32), 0) := by
  simp [cmdAddCid, hc]

theorem cmdAddCid_result (rec : ProcAddCid) (h : Host) :
    (cmdAddCid rec h).2 = if cmdConflict rec h then 0 else 1 := by
  unfold cmdAddCid
  split
  · next hc => simp [hc]
  · next hc => simp [hc]

/-- The commands for a token at `addr`, and those for a bound. -/
def IsSetToken (d : Nat) (addr : UInt16) (c : CmdSend) : Prop :=
  ∃ data, c = adSetTokenCmd AD_Q_SECOND d addr data 1 ∨
    c = secondBank (adSetTokenCmd AD_Q_SECOND d addr data 1)

def IsSetBound (d : Nat) (addr : UInt16) (c : CmdSend) : Prop :=
  c = adSetTokenBoundCmd AD_Q_SECOND d addr ∨
    c = secondBank (adSetTokenBoundCmd AD_Q_SECOND d addr)

/-- What `cmd_add_cid` does when there is no conflict: only the controller's
record and the global bound change, and only when the address reaches the
controller's bound; a bound is queued only then, behind the token. -/
structure AddedCid (d : Nat) (addr : UInt16) (h h' : Host) : Prop where
  db : h'.db = h.db
  maxDevN : h'.maxDevN = h.maxDevN
  sendMess : h'.sendMess = h.sendMess
  devices : h'.devices = if (h.devices d).boundToken ≤ addr then
    Function.update h.devices d { h.devices d with boundToken := addr + 8 } else h.devices
  maxBoundToken : h'.maxBoundToken = if (h.devices d).boundToken ≤ addr then
    max h.maxBoundToken (addr + 8) else h.maxBoundToken
  trace : ∃ ts bs : List CmdSend, (∀ z ∈ ts, IsSetToken d addr z) ∧
    (∀ z ∈ bs, IsSetBound d (addr + 8) z ∧ (h.devices d).boundToken ≤ addr) ∧
    h'.trace = h.trace ++ Obs.dbGetCidByA addr.toUInt32 :: (ts ++ bs).map Obs.queued

theorem raiseBound_added {d : Nat} {addr : UInt16} {h h1 : Host}
    (q : Queued (IsSetToken d addr) (h.note (.dbGetCidByA addr.toUInt32)) h1) :
    AddedCid d addr h (raiseBound d addr h1) := by
  have hdev : h1.devices = h.devices := q.devices
  obtain ⟨ts, hts, htr⟩ := q.trace
  by_cases hb : (h.devices d).boundToken ≤ addr
  · have hr := adSetTokenBound_queued d (addr + 8)
      { h1.setDev d fun r => { r with boundToken := addr + 8 } with
        maxBoundToken := max h1.maxBoundToken (addr + 8) }
    have heq : raiseBound d addr h1 = _ := if_pos (by rw [hdev]; exact hb)
    rw [heq]
    obtain ⟨bs, hbs, htr2⟩ := hr.trace
    refine ⟨hr.db.trans q.db, hr.maxDevN.trans q.maxDevN, hr.sendMess.trans q.sendMess,
      hr.devices.trans ?_, hr.maxBoundToken.trans ?_, ts, bs, hts, fun z hz => ⟨hbs z hz, hb⟩,
      htr2.trans ?_⟩
    · simp [Host.setDev, hdev, hb]
    · rw [if_pos hb, q.maxBoundToken]; rfl
    · simp [Host.setDev, htr, Host.note]
  · have heq : raiseBound d addr h1 = h1 := if_neg (by rw [hdev]; exact hb)
    rw [heq]
    refine ⟨q.db, q.maxDevN, q.sendMess, ?_, ?_, ts, [], hts, by simp, ?_⟩
    · rw [hdev, if_neg hb]
    · rw [q.maxBoundToken, if_neg hb]; rfl
    · simp [htr, Host.note]

theorem cmdAddCid_ok {rec : ProcAddCid} {h : Host} (hc : cmdConflict rec h = false) :
    (cmdAddCid rec h).2 = 1 ∧ AddedCid rec.dev (cmdAddr rec h) h (cmdAddCid rec h).1 := by
  simp only [cmdAddCid, hc, Bool.false_eq_true, if_false, true_and]
  exact raiseBound_added ((adSetToken_queued ..).mono fun z hz => ⟨_, hz⟩)

/-- The events of `cmd_add_cid`: the look for a conflict, the token, and a bound
when the address reaches the old one. -/
theorem AddedCid.events {d : Nat} {addr : UInt16} {h h' : Host} (hadd : AddedCid d addr h h') :
    ∃ es, h'.trace = h.trace ++ es ∧ ∀ e ∈ es, e = .dbGetCidByA addr.toUInt32 ∨
      ∃ z, e = .queued z ∧ (IsSetToken d addr z ∨
        IsSetBound d (addr + 8) z ∧ (h.devices d).boundToken ≤ addr) := by
  obtain ⟨ts, bs, hts, hbs, ht⟩ := hadd.trace
  refine ⟨_, ht, ?_⟩
  intro e he
  rcases List.mem_cons.mp he with rfl | he
  · exact .inl rfl
  · obtain ⟨z, hz, rfl⟩ := List.mem_map.mp he
    refine .inr ⟨z, rfl, ?_⟩
    rcases List.mem_append.mp hz with hz | hz
    · exact .inl (hts z hz)
    · exact .inr (hbs z hz)

/-! ## Adding a card to all controllers -/

section Turn
variable {rec : ProcAddCid} {h : Host} {d : Nat} {ns : List Nat}

/-- The loop passes over a controller that is not active. -/
theorem addCidLoop_skip (hi : (h.devices d).activ = false) :
    addCidLoop rec (d :: ns) h = addCidLoop rec ns h := by
  rw [addCidLoop, hi, if_neg Bool.false_ne_true]

/-- A conflict ends it. -/
theorem addCidLoop_stop (hi : (h.devices d).activ = true)
    (hc : cmdConflict { rec with dev := d } h = true) :
    addCidLoop rec (d :: ns) h = ((cmdAddCid { rec with dev := d } h).1, 0) := by
  have hzero : (cmdAddCid { rec with dev := d } h).2 = 0 := by rw [cmdAddCid_result, hc, if_pos rfl]
  rw [addCidLoop, if_pos hi]
  exact if_pos hzero

/-- Without one it goes on behind the addition. -/
theorem addCidLoop_next (hi : (h.devices d).activ = true)
    (hc : cmdConflict { rec with dev := d } h = false) :
    addCidLoop rec (d :: ns) h = addCidLoop rec ns (cmdAddCid { rec with dev := d } h).1 := by
  have hone : (cmdAddCid { rec with dev := d } h).2 = 1 := by
    rw [cmdAddCid_result, hc, if_neg Bool.false_ne_true]
  have hzero : ¬ (cmdAddCid { rec with dev := d } h).2 = 0 := by
    rw [hone]
    exact one_ne_zero
  rw [addCidLoop, if_pos hi]
  exact if_neg hzero

end Turn

/-- What each `cmd_add_cid` keeps, the loop over the controllers keeps. -/
theorem addCidLoop_rel {R : Host → Host → Prop} (hrefl : ∀ h, R h h)
    (htrans : ∀ {h h' h''}, R h h' → R h' h'' → R h h'') (rec : ProcAddCid)
    (hstep : ∀ d h, R h (cmdAddCid { rec with dev := d } h).1) (ns : List Nat) (h : Host) :
    R h (addCidLoop rec ns h).1 := by
  induction ns generalizing h with
  | nil => exact hrefl h
  | cons d ns ih =>
    unfold addCidLoop
    split
    · simp only
      split
      · exact hstep d h
      · exact htrans (hstep d h) (ih _)
    · exact ih h

theorem cmdAddCid_db (rec : ProcAddCid) (h : Host) : (cmdAddCid rec h).1.db = h.db := by
  cases hc : cmdConflict rec h with
  | true => rw [cmdAddCid_conflict hc]; rfl
  | false => exact (cmdAddCid_ok hc).2.db

theorem addCidLoop_db (rec : ProcAddCid) (ns : List Nat) (h : Host) :
    (addCidLoop rec ns h).1.db = h.db :=
  addCidLoop_rel (R := fun h h' => h'.db = h.db) (fun _ => rfl) (fun h1 h2 => h2.trans h1) rec
    (fun _ _ => cmdAddCid_db _ _) ns h

theorem cmdAddCid_devices_ne {rec : ProcAddCid} {h : Host} {i : Nat} (hi : i ≠ rec.dev) :
    (cmdAddCid rec h).1.devices i = h.devices i := by
  cases hc : cmdConflict rec h with
  | true => rw [cmdAddCid_conflict hc]; rfl
  | false =>
    rw [(cmdAddCid_ok hc).2.devices]
    split
    · exact Function.update_of_ne hi ..
    · rfl

theorem cmdConflict_congr {rec : ProcAddCid} {h h' : Host} (hdb : h'.db = h.db)
    (hdev : h'.devices rec.dev = h.devices rec.dev) : cmdConflict rec h' = cmdConflict rec h := by
  simp [cmdConflict, cmdAddr, hdb, hdev]

/-- The loop succeeds when no active controller meets a conflict in the state
the loop starts from. -/
theorem addCidLoop_result (rec : ProcAddCid) {ns : List Nat} (hn : ns.Nodup) (h : Host) :
    (addCidLoop rec ns h).2 = 1 ↔
      ∀ d ∈ ns, (h.devices d).activ → cmdConflict { rec with dev := d } h = false := by
  induction ns generalizing h with
  | nil => simp [addCidLoop]
  | cons d ns ih =>
    obtain ⟨hd, hns⟩ := List.nodup_cons.mp hn
    cases ha : (h.devices d).activ with
    | false => simp [addCidLoop_skip ha, ih hns, ha]
    | true =>
      cases hc : cmdConflict { rec with dev := d } h with
      | true => simp [addCidLoop_stop ha hc, hc, ha]
      | false =>
        have hkeep : ∀ i ∈ ns, (cmdAddCid { rec with dev := d } h).1.devices i = h.devices i :=
          fun i hi => cmdAddCid_devices_ne fun he => hd ((show i = d from he) ▸ hi)
        simp only [addCidLoop_next ha hc, ih hns, List.mem_cons, forall_eq_or_imp, ha, hc,
          forall_const, true_and]
        refine forall₂_congr ?_
        intro i hi
        rw [hkeep i hi, cmdConflict_congr (cmdAddCid_db _ _) (hkeep i hi)]

theorem devNums_nodup (h : Host) : (devNums h).Nodup := List.nodup_range'

/-- The record of a new card in `cmd_add_tocken_to_all`: its address is the
global bound. -/
def newToken (inRec : AdTokenRec) (h : Host) : DbTokenRec :=
  { cid := inRec.cid, attr := inRec.attr, scheduleMask := inRec.scheduleMask,
    addr := h.maxBoundToken.toUInt32, zoneMask := 0 }

theorem cmdAddTockenToAll_new {inRec : AdTokenRec} {h : Host}
    (ht : dbGetTokenByC h.db inRec.cid = none) :
    cmdAddTockenToAll inRec h = addCidLoop
      { dev := 0, subdev := 0, token := (dbAddToken h.db (newToken inRec h)).2.1, ev := 0 }
      (devNums h)
      (addTokenLogged (newToken inRec h) (h.note (.dbGetTokenByC inRec.cid))).1 := by
  simp only [cmdAddTockenToAll, addTockenRec, ht]; rfl

end Libgate.HostFrame
