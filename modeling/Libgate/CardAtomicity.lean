import Libgate.Queueing

/-! What an addition that fails leaves behind. `db_add_token` writes two tables
one after the other without a transaction. `cmd_add_cid_to_all` stores the card
first and asks each controller's address afterwards, with the address cut to 16
bits, so that the address stored and the ones written may part. -/

namespace Libgate.CardAtomicity
open DbLayer Send Target Cmd Layer HostFrame Queueing

/-! ## `db_add_token` -/

/-- The tables hold the same. -/
def SameTable {κ ν : Type} [DecidableEq κ] (t t' : Table κ ν) : Prop :=
  ∀ k, t'.lookup k = t.lookup k

/-- The second table holds `v` under `k`, and otherwise what the first does. -/
def PutInto {κ ν : Type} [DecidableEq κ] (t t' : Table κ ν) (k : κ) (v : ν) : Prop :=
  t'.lookup k = some v ∧ ∀ k' ≠ k, t'.lookup k' = t.lookup k'

theorem putInto_insert {κ ν : Type} [DecidableEq κ] (t : Table κ ν) (k : κ) (v : ν) :
    PutInto t (t.insert k v) k v :=
  ⟨AList.lookup_insert .., fun _ hk => AList.lookup_insert_ne hk⟩

/-- The record as it is stored. -/
def storedRec (rec : DbTokenRec) : DbTokenRec := { rec with zoneMask := 1 }

/-- The check passes and the first of the two puts is done, the second fails. -/
def HalfDone (db : Db) (rec : DbTokenRec) (f : AddTokenFaults) : Prop :=
  dbConflict db rec f.getMapping = false ∧ f.putToken = false ∧ f.putMapping = true

/-- A call that fails: the mapping is as it was, and so is the token table but
for a card half done, which it has under its number. -/
structure Refuses (db : Db) (rec : DbTokenRec) (f : AddTokenFaults) (db' : Db) : Prop where
  mapping : SameTable db.mapping db'.mapping
  token : ¬ HalfDone db rec f → SameTable db.token db'.token
  half : HalfDone db rec f → PutInto db.token db'.token rec.cid (storedRec rec)

/-- A call that succeeds: the card is in both tables and nothing else is new. -/
structure Stores (db : Db) (rec : DbTokenRec) (db' : Db) : Prop where
  token : PutInto db.token db'.token rec.cid (storedRec rec)
  mapping : PutInto db.mapping db'.mapping rec.addr rec.cid

theorem dbAddToken_cases (db : Db) (rec : DbTokenRec) (f : AddTokenFaults) :
    (dbAddToken db rec f).2.2 = 0 ∧ Refuses db rec f (dbAddToken db rec f).1 ∨
      (dbAddToken db rec f).2.2 = 1 ∧ Stores db rec (dbAddToken db rec f).1 := by
  unfold dbAddToken
  by_cases hc : dbConflict db rec f.getMapping = true
  · rw [if_pos hc]
    refine .inl ⟨rfl, fun _ => rfl, fun _ _ => rfl, ?_⟩
    intro hh
    rw [hh.1] at hc
    cases hc
  rw [if_neg hc]
  simp only
  by_cases ht : f.putToken = true
  · rw [if_pos ht]
    refine .inl ⟨rfl, fun _ => rfl, fun _ _ => rfl, ?_⟩
    intro hh
    rw [hh.2.1] at ht
    cases ht
  rw [if_neg ht]
  by_cases hm : f.putMapping = true
  · rw [if_pos hm]
    refine .inl ⟨rfl, fun _ => rfl, ?_, fun _ => putInto_insert ..⟩
    intro hh
    exact absurd ⟨Bool.eq_false_iff.mpr hc, Bool.eq_false_iff.mpr ht, hm⟩ hh
  · rw [if_neg hm]
    exact .inr ⟨rfl, putInto_insert .., putInto_insert ..⟩

/-- **What `db_add_token` has done when it returns**, for every database and
every outcome of its calls: with 1 it has stored the card in both tables, with 0
it has changed nothing, or the token table alone when only the second put failed. -/
theorem dbAddToken_outcome (db : Db) (rec : DbTokenRec) (f : AddTokenFaults) :
    ((dbAddToken db rec f).2.2 = 0 ∨ (dbAddToken db rec f).2.2 = 1) ∧
      ((dbAddToken db rec f).2.2 = 0 → Refuses db rec f (dbAddToken db rec f).1) ∧
      ((dbAddToken db rec f).2.2 = 1 → Stores db rec (dbAddToken db rec f).1) := by
  rcases dbAddToken_cases db rec f with ⟨hr, hrefuses⟩ | ⟨hr, hstores⟩
  · rw [hr]
    exact ⟨.inl rfl, fun _ => hrefuses, fun hn => absurd hn (by decide)⟩
  · rw [hr]
    exact ⟨.inr rfl, fun hn => absurd hn (by decide), fun _ => hstores⟩

/-- A card whose mapping cannot be written stays in the token table. -/
theorem half_done_card : ¬ ∀ (db : Db) (rec : DbTokenRec) (f : AddTokenFaults),
    (dbAddToken db rec f).2.2 = 0 → SameTable db.token (dbAddToken db rec f).1.token ∧
      SameTable db.mapping (dbAddToken db rec f).1.mapping := by
  intro hall
  have hsame := (hall Db.empty ⟨7, 0, 0xFF, 0xC0, 0⟩ { putMapping := true } (by decide)).1 7
  revert hsame; decide

/-! ## What additions queue -/

/-- The two commands that write a card at `addr`. -/
def cidCmds (rec : ProcAddCid) (h : Host) (addr : UInt16) : List CmdSend :=
  let z := adSetTokenCmd AD_Q_SECOND rec.dev addr (tokenRecBytes rec.token.cid rec.token.attr
    rec.token.scheduleMask (h.devices rec.dev).cidRevert) 1
  [z, secondBank z]

/-- Those that raise the bound above it, where it reaches the bound. -/
def boundCmds (d : Nat) (h : Host) (addr : UInt16) : List CmdSend :=
  if (h.devices d).boundToken ≤ addr then
    let z := adSetTokenBoundCmd AD_Q_SECOND d (addr + 8)
    [z, secondBank z]
  else []

/-- Those of one `cmd_add_cid`. -/
def addCmds (rec : ProcAddCid) (h : Host) : List CmdSend :=
  cidCmds rec h (cmdAddr rec h) ++ boundCmds rec.dev h (cmdAddr rec h)

/-- What an addition does to the queues, when after it there is memory for `n` more
commands. -/
structure Appends (n : Nat) (zs : List CmdSend) (h h' : Host) : Prop where
  gpHead : h'.gpHead = h.gpHead
  gpHead2 : h'.gpHead2 = h.gpHead2 ++ zs
  room : AllocatesNext n h'

theorem Appends.of_enqueued {k n : Nat} {zs : List CmdSend} {h h' : Host}
    (ha : AllocatesNext (k + n) h) (q : Enqueued k zs h h')
    (hz : ∀ z ∈ zs, CommandQueues.isFirst z = false) : Appends n zs h h' where
  gpHead := (q.second hz).1
  gpHead2 := (q.second hz).2
  room := ha.enqueued q

theorem Appends.none {k n : Nat} {h h' : Host} (ha : AllocatesNext (k + n) h)
    (hhead : h'.gpHead = h.gpHead) (hhead2 : h'.gpHead2 = h.gpHead2)
    (hmalloc : h'.world.malloc = h.world.malloc) : Appends n [] h h' where
  gpHead := hhead
  gpHead2 := by rw [hhead2, List.append_nil]
  room := by
    intro i hi
    rw [hmalloc]
    exact ha i (by omega)

theorem Appends.trans {m n : Nat} {zs zs' : List CmdSend} {h h' h'' : Host}
    (a : Appends m zs h h') (a' : Appends n zs' h' h'') : Appends n (zs ++ zs') h h'' where
  gpHead := a'.gpHead.trans a.gpHead
  gpHead2 := by rw [a'.gpHead2, a.gpHead2, List.append_assoc]
  room := a'.room

/-- A two-bank builder for the second queue. -/
theorem bothBanks_appends {n : Nat} {h : Host} (ha : AllocatesNext (2 + n) h) {z : CmdSend}
    (hz : z.queue = AD_Q_SECOND) : Appends n [z, secondBank z] h (bothBanks z h).1 := by
  have hfirst : CommandQueues.isFirst z = false := decide_eq_false (by rw [hz]; decide)
  refine .of_enqueued ha (bothBanks_next ha (by rw [hz]; decide)) ?_
  intro y hy
  rcases List.mem_cons.mp hy with rfl | hy
  · exact hfirst
  · rw [List.mem_singleton.mp hy]
    exact hfirst

theorem raiseBound_appends {n d : Nat} {addr : UInt16} {h : Host} (ha : AllocatesNext (2 + n) h) :
    Appends n (boundCmds d h addr) h (raiseBound d addr h) := by
  unfold raiseBound boundCmds
  by_cases hb : (h.devices d).boundToken ≤ addr
  · have hset := bothBanks_appends (h := { h.setDev d fun r => { r with boundToken := addr + 8 } with
      maxBoundToken := max h.maxBoundToken (addr + 8) }) ha
      (z := adSetTokenBoundCmd AD_Q_SECOND d (addr + 8)) rfl
    rw [if_pos hb, if_pos hb]
    exact ⟨hset.gpHead, hset.gpHead2, hset.room⟩
  · rw [if_neg hb, if_neg hb]
    exact .none ha rfl rfl rfl

/-- What `cmd_add_cid` queues when there is no conflict. -/
theorem cmdAddCid_appends {n : Nat} {rec : ProcAddCid} {h : Host} (ha : AllocatesNext (4 + n) h)
    (hc : cmdConflict rec h = false) : Appends n (addCmds rec h) h (cmdAddCid rec h).1 := by
  let z := adSetTokenCmd AD_Q_SECOND rec.dev (cmdAddr rec h) (tokenRecBytes rec.token.cid
    rec.token.attr rec.token.scheduleMask (h.devices rec.dev).cidRevert) 1
  let h1 := (bothBanks z (h.note (.dbGetCidByA (cmdAddr rec h).toUInt32))).1
  have hnote : AllocatesNext (2 + (2 + n)) (h.note (.dbGetCidByA (cmdAddr rec h).toUInt32)) :=
    fun i hi => ha i (by omega)
  have hset : Appends (2 + n) [z, secondBank z] h h1 := by
    have hz := bothBanks_appends hnote (z := z) rfl
    exact ⟨hz.gpHead, hz.gpHead2, hz.room⟩
  have hdev : h1.devices = h.devices :=
    (bothBanks_next hnote (z := z) second_ne_short).devices
  have hraise : Appends n (boundCmds rec.dev h1 (cmdAddr rec h)) h1
      (raiseBound rec.dev (cmdAddr rec h) h1) := raiseBound_appends hset.room
  have hbound : boundCmds rec.dev h1 (cmdAddr rec h) = boundCmds rec.dev h (cmdAddr rec h) := by
    rw [boundCmds, hdev]
    rfl
  have heq : (cmdAddCid rec h).1 = raiseBound rec.dev (cmdAddr rec h) h1 := by
    unfold cmdAddCid
    simp only [hc]
    rfl
  rw [hbound] at hraise
  rw [heq]
  exact hset.trans hraise

/-! With or without memory the second queue only grows. -/

theorem bothBanks_grows {z : CmdSend} (hz : z.queue ≠ AD_Q_SHORT) (h : Host) :
    h.gpHead2 <+: (bothBanks z h).1.gpHead2 :=
  ⟨_, (bothBanks_enqueued hz h).1.gpHead2.symm⟩

theorem raiseBound_grows (d : Nat) (addr : UInt16) (h : Host) :
    h.gpHead2 <+: (raiseBound d addr h).gpHead2 := by
  let h1 := { h.setDev d fun r => { r with boundToken := addr + 8 } with
    maxBoundToken := max h.maxBoundToken (addr + 8) }
  have hset : h.gpHead2 <+: (bothBanks (adSetTokenBoundCmd AD_Q_SECOND d (addr + 8)) h1).1.gpHead2 :=
    bothBanks_grows second_ne_short h1
  unfold raiseBound
  split
  · exact hset
  · exact List.prefix_rfl

theorem cmdAddCid_grows (rec : ProcAddCid) (h : Host) :
    h.gpHead2 <+: (cmdAddCid rec h).1.gpHead2 := by
  cases hc : cmdConflict rec h with
  | true =>
    rw [cmdAddCid_conflict hc]
    exact List.prefix_rfl
  | false =>
    let z := adSetTokenCmd AD_Q_SECOND rec.dev (cmdAddr rec h) (tokenRecBytes rec.token.cid
      rec.token.attr rec.token.scheduleMask (h.devices rec.dev).cidRevert) 1
    let g := h.note (.dbGetCidByA (cmdAddr rec h).toUInt32)
    let h1 := (bothBanks z g).1
    have hset : h.gpHead2 <+: h1.gpHead2 := bothBanks_grows (z := z) second_ne_short g
    have hraise := raiseBound_grows rec.dev (cmdAddr rec h) h1
    unfold cmdAddCid
    simp only [hc]
    exact hset.trans hraise

section Loop
variable {rec : ProcAddCid} {h : Host}

theorem addCidLoop_grows (rec : ProcAddCid) (ns : List Nat) (h : Host) :
    h.gpHead2 <+: (addCidLoop rec ns h).1.gpHead2 :=
  addCidLoop_rel (R := fun h h' => h.gpHead2 <+: h'.gpHead2) (fun _ => List.prefix_rfl)
    List.IsPrefix.trans rec (fun d => cmdAddCid_grows { rec with dev := d }) ns h

theorem addCidLoop_zero_or_one (ns : List Nat) (h : Host) :
    (addCidLoop rec ns h).2 = 0 ∨ (addCidLoop rec ns h).2 = 1 := by
  induction ns generalizing h with
  | nil => exact .inr rfl
  | cons d ns ih =>
    unfold addCidLoop
    split
    · simp only
      split
      · exact .inl rfl
      · exact ih _
    · exact ih h

/-- The first active controller of a list. -/
def firstActive (h : Host) (ns : List Nat) : Option Nat := ns.find? fun d => (h.devices d).activ

theorem firstActive_cons (h : Host) (d : Nat) (ns : List Nat) : firstActive h (d :: ns) =
    if (h.devices d).activ then some d else firstActive h ns := by
  unfold firstActive
  rw [List.find?_cons]
  cases (h.devices d).activ with
  | true => rfl
  | false => rfl

/-- A conflict at the first active controller ends the loop at once. -/
theorem addCidLoop_blocked {ns : List Nat} {d : Nat} (hd : firstActive h ns = some d)
    (hc : cmdConflict { rec with dev := d } h = true) : addCidLoop rec ns h =
      (h.note (.dbGetCidByA (cmdAddr { rec with dev := d } h).toUInt32), 0) := by
  induction ns with
  | nil => cases hd
  | cons i ns ih =>
    rw [firstActive_cons] at hd
    cases hi : (h.devices i).activ with
    | true =>
      rw [hi, if_pos rfl] at hd
      obtain rfl := Option.some.inj hd
      rw [addCidLoop_stop hi hc, cmdAddCid_conflict hc]
    | false =>
      rw [hi, if_neg Bool.false_ne_true] at hd
      rw [addCidLoop_skip hi]
      exact ih hd

/-- Without one there the queue gets commands whatever comes after. -/
theorem addCidLoop_started (ha : AllocatesNext 4 h) {ns : List Nat} {d : Nat}
    (hd : firstActive h ns = some d) (hc : cmdConflict { rec with dev := d } h = false) :
    (addCidLoop rec ns h).1.gpHead2 ≠ h.gpHead2 := by
  induction ns with
  | nil => cases hd
  | cons i ns ih =>
    rw [firstActive_cons] at hd
    cases hi : (h.devices i).activ with
    | true =>
      rw [hi, if_pos rfl] at hd
      obtain rfl := Option.some.inj hd
      have hone := (cmdAddCid_appends (n := 0) ha hc).gpHead2
      have hrest := (addCidLoop_grows rec ns (cmdAddCid { rec with dev := i } h).1).length_le
      rw [addCidLoop_next hi hc]
      intro hsame
      rw [hsame, hone, List.length_append] at hrest
      have hcard : 2 ≤ (addCmds { rec with dev := i } h).length := by
        rw [addCmds, List.length_append]
        exact Nat.le_add_right 2 _
      omega
    | false =>
      rw [hi, if_neg Bool.false_ne_true] at hd
      rw [addCidLoop_skip hi]
      exact ih hd

/-- The commands of the loop when no active controller meets a conflict. -/
def loopCmds (rec : ProcAddCid) (h : Host) (ns : List Nat) : List CmdSend :=
  ns.flatMap fun d => if (h.devices d).activ then addCmds { rec with dev := d } h else []

theorem addCmds_congr {h' : Host} (hdev : h'.devices rec.dev = h.devices rec.dev) :
    addCmds rec h' = addCmds rec h := by
  have haddr : cmdAddr rec h' = cmdAddr rec h := by
    unfold cmdAddr
    rw [hdev]
  rw [addCmds, addCmds, haddr, cidCmds, boundCmds, hdev]
  rfl

theorem loopCmds_congr {h' : Host} {ns : List Nat} (hdev : ∀ d ∈ ns, h'.devices d = h.devices d) :
    loopCmds rec h' ns = loopCmds rec h ns := by
  refine List.flatMap_congr ?_
  intro d hd
  have hcmds : addCmds { rec with dev := d } h' = addCmds { rec with dev := d } h :=
    addCmds_congr (hdev d hd)
  rw [hdev d hd, hcmds]

theorem addCidLoop_appends {n : Nat} {ns : List Nat} (ha : AllocatesNext (4 * ns.length + n) h)
    (hn : ns.Nodup)
    (hc : ∀ d ∈ ns, (h.devices d).activ → cmdConflict { rec with dev := d } h = false) :
    Appends n (loopCmds rec h ns) h (addCidLoop rec ns h).1 := by
  induction ns generalizing h with
  | nil => exact .none ha rfl rfl rfl
  | cons d ns ih =>
    obtain ⟨hd, hns⟩ := List.nodup_cons.mp hn
    have hroom : AllocatesNext (4 + (4 * ns.length + n)) h := by
      intro i hi
      exact ha i (by rw [List.length_cons]; omega)
    cases hact : (h.devices d).activ with
    | false =>
      have hskip : loopCmds rec h (d :: ns) = loopCmds rec h ns := by
        rw [loopCmds, List.flatMap_cons, hact]
        rfl
      rw [addCidLoop_skip hact, hskip]
      exact ih (fun i hi => hroom i (by omega)) hns fun i hi => hc i (List.mem_cons_of_mem _ hi)
    | true =>
      have hfree := hc d List.mem_cons_self hact
      have hone := cmdAddCid_appends hroom hfree
      have hkeep : ∀ i ∈ ns, (cmdAddCid { rec with dev := d } h).1.devices i = h.devices i :=
        fun i hi => cmdAddCid_devices_ne fun he => hd ((show i = d from he) ▸ hi)
      have hrest := ih (h := (cmdAddCid { rec with dev := d } h).1) hone.room hns ?_
      · rw [loopCmds_congr hkeep] at hrest
        have hfirst : loopCmds rec h (d :: ns) =
            addCmds { rec with dev := d } h ++ loopCmds rec h ns := by
          rw [loopCmds, List.flatMap_cons, hact]
          rfl
        rw [addCidLoop_next hact hfree, hfirst]
        exact hone.trans hrest
      · intro i hi hi'
        rw [hkeep i hi] at hi'
        rw [cmdConflict_congr (cmdAddCid_db _ _) (hkeep i hi)]
        exact hc i (List.mem_cons_of_mem _ hi) hi'

/-- The token among the commands of a loop that is for one controller and address. -/
theorem mem_loopCmds {ns : List Nat} (hns : ∀ d ∈ ns, d ≤ 255) {d : Nat} (hd : d ≤ 255)
    {addr : UInt16} {data : List UInt8}
    (hm : adSetTokenCmd AD_Q_SECOND d addr data 1 ∈ loopCmds rec h ns) :
    addr = cmdAddr { rec with dev := d } h := by
  obtain ⟨i, hi, hm⟩ := List.mem_flatMap.mp hm
  have hset : ∀ i' addr' data', adSetTokenCmd AD_Q_SECOND d addr data 1 =
      adSetTokenCmd AD_Q_SECOND i' addr' data' 1 → i' ≤ 255 → d = i' ∧ addr = addr' := by
    intro i' addr' data' he hi'
    have hdst : UInt8.ofNat d = UInt8.ofNat i' := congrArg CmdSend.dst he
    have hval : valAt (adSetTokenCmd AD_Q_SECOND d addr data 1) 3 =
        valAt (adSetTokenCmd AD_Q_SECOND i' addr' data' 1) 3 := by rw [he]
    refine ⟨?_, UInt16.toNat_inj.mp ((be16_val addr).symm.trans (hval.trans (be16_val addr')))⟩
    have hnat := congrArg UInt8.toNat hdst
    rwa [UInt8.toNat_ofNat_of_lt' (Nat.lt_succ_of_le hd),
      UInt8.toNat_ofNat_of_lt' (Nat.lt_succ_of_le hi')] at hnat
  split at hm
  · rcases List.mem_append.mp hm with hm | hm
    · rcases List.mem_cons.mp hm with he | hm
      · obtain ⟨rfl, haddr⟩ := hset _ _ _ he (hns i hi)
        exact haddr
      · have hbank := congrArg CmdSend.bank (List.mem_singleton.mp hm)
        exact absurd hbank (by decide : (0 : Nat) ≠ 1)
    · unfold boundCmds at hm
      split at hm
      · have htarget : AdTarget.setToken = AdTarget.setTokenBound := by
          rcases List.mem_cons.mp hm with he | hm
          · exact congrArg CmdSend.targetN he
          · exact congrArg CmdSend.targetN (List.mem_singleton.mp hm)
        cases htarget
      · cases hm
  · cases hm

end Loop

/-! ## `cmd_add_cid_to_all` -/

section ToAll
variable (rec : ProcAddCid) (h : Host)

/-- The record to be stored: at its address, or at the global bound when that
lies below the token memory. -/
def tokenToStore : DbTokenRec :=
  { rec.token with addr :=
      if rec.token.addr < GP_START_TICKET_BOUND.toUInt32 then h.maxBoundToken.toUInt32
      else rec.token.addr }

/-- The call of `cmd_add_cid` for controller `d`. -/
def callFor (d : Nat) : ProcAddCid := { rec with dev := d, token := tokenToStore rec h }

/-- The address the card is written to in controller `d`. -/
def wireAddr (d : Nat) : UInt16 := cmdAddr (callFor rec h d) h

/-- That address belongs to another card. -/
def Blocked (d : Nat) : Prop := cmdConflict (callFor rec h d) h = true

instance (d : Nat) : Decidable (Blocked rec h d) := inferInstanceAs (Decidable (_ = _))

/-- Storing the card changes nothing: it is refused, or all there already. -/
def Settled : Prop :=
  dbConflict h.db (tokenToStore rec h) = true ∨
    h.db.token.lookup rec.token.cid = some (storedRec (tokenToStore rec h)) ∧
      h.db.mapping.lookup (tokenToStore rec h).addr = some rec.token.cid

/-- The card is going to be stored at `addr`: there now if the new address is
refused, or else at the new address. -/
def StoredAt (addr : UInt32) : Prop :=
  if dbConflict h.db (tokenToStore rec h) = true then
    ∃ t, h.db.token.lookup rec.token.cid = some t ∧ t.addr = addr
  else (tokenToStore rec h).addr = addr

/-- The first active controller refuses the card when storing it changes
nothing, or none refuses it and each writes it where it is stored. -/
def Fits : Prop :=
  (∃ d, firstActive h (devNums h) = some d ∧ Blocked rec h d ∧ Settled rec h) ∨
    ∀ d ∈ devNums h, (h.devices d).activ →
      ¬ Blocked rec h d ∧ StoredAt rec h (wireAddr rec h d).toUInt32

theorem storedAt_unique {rec : ProcAddCid} {h : Host} {a b : UInt16}
    (ha : StoredAt rec h a.toUInt32) (hb : StoredAt rec h b.toUInt32) : a = b := by
  have hinj : a.toUInt32 = b.toUInt32 := by
    unfold StoredAt at ha hb
    split at ha
    · next hc =>
      rw [if_pos hc] at hb
      obtain ⟨t, ht, hta⟩ := ha
      obtain ⟨t', ht', htb⟩ := hb
      rw [ht] at ht'
      rw [← hta, ← htb, Option.some.inj ht']
    · next hc =>
      rw [if_neg hc] at hb
      exact ha.symm.trans hb
  have hnat := congrArg UInt32.toNat hinj
  rw [UInt16.toNat_toUInt32, UInt16.toNat_toUInt32] at hnat
  exact UInt16.toNat_inj.mp hnat

/-- The database, the queues and the bounds are the same. -/
structure SameState (h h' : Host) : Prop where
  token : SameTable h.db.token h'.db.token
  mapping : SameTable h.db.mapping h'.db.mapping
  param : SameTable h.db.param h'.db.param
  gpHead : h'.gpHead = h.gpHead
  gpHead2 : h'.gpHead2 = h.gpHead2
  boundToken : ∀ d, (h'.devices d).boundToken = (h.devices d).boundToken
  maxBoundToken : h'.maxBoundToken = h.maxBoundToken

/-- Every active controller gets the card at one address, at which it is stored. -/
def Everywhere (h' : Host) : Prop :=
  ∃ zs, h'.gpHead2 = h.gpHead2 ++ zs ∧ ∃ addr : UInt16, ∀ d ∈ devNums h, (h.devices d).activ →
    (∃ t, h'.db.token.lookup rec.token.cid = some t ∧ t.addr = addr.toUInt32) ∧
      ∀ z ∈ cidCmds { rec with dev := d } h addr, z ∈ zs

/-- With 0 nothing has changed, with 1 the card is everywhere. -/
structure Atomic (r : Host × Int) : Prop where
  refused : r.2 = 0 → SameState h r.1
  done : r.2 = 1 → Everywhere rec h r.1

end ToAll

section Proof
variable {rec : ProcAddCid} {h : Host}

/-- The stored record differs from the one given in what `cmd_add_cid` does not read. -/
theorem addCidLoop_zoneMask (t : DbTokenRec) (n : UInt64) (ns : List Nat) (h : Host) :
    addCidLoop { rec with token := { t with zoneMask := n } } ns h =
      addCidLoop { rec with token := t } ns h := by
  induction ns generalizing h with
  | nil => rfl
  | cons d ns ih =>
    unfold addCidLoop
    split
    · have hsame : cmdAddCid { rec with dev := d, token := { t with zoneMask := n } } h =
          cmdAddCid { rec with dev := d, token := t } h := rfl
      simp only [hsame, ih]
    · exact ih h

/-- The host the loop starts from. -/
def afterStore (rec : ProcAddCid) (h : Host) : Host := (addTokenLogged (tokenToStore rec h) h).1

theorem cmdAddCidToAll_eq (rec : ProcAddCid) (h : Host) : cmdAddCidToAll rec h =
    addCidLoop { rec with token := tokenToStore rec h } (devNums h) (afterStore rec h) := by
  have hrec : (dbAddToken h.db (tokenToStore rec h)).2.1 = tokenToStore rec h ∨
      (dbAddToken h.db (tokenToStore rec h)).2.1 = { tokenToStore rec h with zoneMask := 1 } := by
    cases hc : dbConflict h.db (tokenToStore rec h) with
    | true =>
      rw [dbAddToken_conflict hc]
      exact .inl rfl
    | false =>
      rw [dbAddToken_ok hc]
      exact .inr rfl
  have hall : cmdAddCidToAll rec h = addCidLoop
      { rec with token := (dbAddToken h.db (tokenToStore rec h)).2.1 } (devNums h)
      (afterStore rec h) := rfl
  rw [hall]
  rcases hrec with he | he
  · rw [he]
  · rw [he]
    exact addCidLoop_zoneMask ..

/-- Storing the card does not decide who refuses it. -/
theorem blocked_afterStore (d : Nat) :
    cmdConflict (callFor rec h d) (afterStore rec h) = cmdConflict (callFor rec h d) h := by
  cases hc : dbConflict h.db (tokenToStore rec h) with
  | true =>
    refine cmdConflict_congr ?_ rfl
    exact congrArg Prod.fst (dbAddToken_conflict hc)
  | false =>
    have hdb : (afterStore rec h).db.mapping =
        h.db.mapping.insert (tokenToStore rec h).addr rec.token.cid :=
      congrArg (fun r => r.1.mapping) (dbAddToken_ok hc)
    have haddr : cmdAddr (callFor rec h d) (afterStore rec h) = cmdAddr (callFor rec h d) h := rfl
    unfold cmdConflict
    rw [haddr]
    by_cases hw : (cmdAddr (callFor rec h d) h).toUInt32 = (tokenToStore rec h).addr
    · have hnew : dbGetCidByA (afterStore rec h).db (tokenToStore rec h).addr = rec.token.cid := by
        simp [dbGetCidByA, hdb]
      have hold := mt (dbConflict_iff h.db (tokenToStore rec h)).mpr (by simp [hc])
      rw [hw, hnew]
      change (_ && rec.token.cid != rec.token.cid) = (_ && dbGetCidByA _ _ != rec.token.cid)
      rw [bne_self_eq_false, Bool.and_false]
      symm
      rw [Bool.and_eq_false_iff, bne_eq_false_iff_eq, bne_eq_false_iff_eq]
      exact not_and_or.mp hold |>.imp not_not.mp not_not.mp
    · have hsame : dbGetCidByA (afterStore rec h).db (cmdAddr (callFor rec h d) h).toUInt32 =
          dbGetCidByA h.db (cmdAddr (callFor rec h d) h).toUInt32 := by
        simp [dbGetCidByA, hdb, AList.lookup_insert_ne hw]
      rw [hsame]

/-- Where the card is stored in the end. -/
theorem stored_afterStore (addr : UInt32) :
    (∃ t, (afterStore rec h).db.token.lookup rec.token.cid = some t ∧ t.addr = addr) ↔
      StoredAt rec h addr := by
  unfold StoredAt
  cases hc : dbConflict h.db (tokenToStore rec h) with
  | true =>
    have hdb : (afterStore rec h).db = h.db := congrArg Prod.fst (dbAddToken_conflict hc)
    rw [hdb, if_pos rfl]
  | false =>
    have hdb : (afterStore rec h).db.token =
        h.db.token.insert rec.token.cid (storedRec (tokenToStore rec h)) :=
      congrArg (fun r => r.1.token) (dbAddToken_ok hc)
    rw [hdb, AList.lookup_insert, if_neg Bool.false_ne_true]
    constructor
    · intro ⟨t, ht, ha⟩
      obtain rfl := Option.some.inj ht
      exact ha
    · exact fun ha => ⟨_, rfl, ha⟩

theorem settled_iff : (SameTable h.db.token (afterStore rec h).db.token ∧
      SameTable h.db.mapping (afterStore rec h).db.mapping) ↔ Settled rec h := by
  unfold Settled
  cases hc : dbConflict h.db (tokenToStore rec h) with
  | true =>
    have hdb : (afterStore rec h).db = h.db := congrArg Prod.fst (dbAddToken_conflict hc)
    rw [hdb]
    exact ⟨fun _ => .inl rfl, fun _ => ⟨fun _ => rfl, fun _ => rfl⟩⟩
  | false =>
    have hdb : (afterStore rec h).db.token =
        h.db.token.insert rec.token.cid (storedRec (tokenToStore rec h)) :=
      congrArg (fun r => r.1.token) (dbAddToken_ok hc)
    have hdb2 : (afterStore rec h).db.mapping =
        h.db.mapping.insert (tokenToStore rec h).addr rec.token.cid :=
      congrArg (fun r => r.1.mapping) (dbAddToken_ok hc)
    rw [hdb, hdb2]
    constructor
    · intro ⟨ht, hm⟩
      have htoken := ht rec.token.cid
      have hmapping := hm (tokenToStore rec h).addr
      rw [AList.lookup_insert] at htoken hmapping
      exact .inr ⟨htoken.symm, hmapping.symm⟩
    · intro hor
      obtain ⟨ht, hm⟩ := hor.resolve_left Bool.false_ne_true
      refine ⟨?_, ?_⟩
      · intro k
        by_cases hk : k = rec.token.cid
        · rw [hk, AList.lookup_insert, ht]
        · rw [AList.lookup_insert_ne hk]
      · intro k
        by_cases hk : k = (tokenToStore rec h).addr
        · rw [hk, AList.lookup_insert, hm]
        · rw [AList.lookup_insert_ne hk]

theorem firstActive_some {ns : List Nat} {d : Nat} (hd : firstActive h ns = some d) :
    d ∈ ns ∧ (h.devices d).activ = true :=
  ⟨List.mem_of_find?_eq_some hd, by simpa using List.find?_some hd⟩

theorem firstActive_none {ns : List Nat} (hd : firstActive h ns = none) :
    ∀ d ∈ ns, ¬ (h.devices d).activ = true :=
  fun d hm => by simpa using List.find?_eq_none.mp hd d hm

/-- The loop's last host has the database of its first. -/
theorem toAll_db (rec : ProcAddCid) (h : Host) :
    (cmdAddCidToAll rec h).1.db = (afterStore rec h).db := by
  rw [cmdAddCidToAll_eq, addCidLoop_db]

theorem toAll_result : (cmdAddCidToAll rec h).2 = 1 ↔
    ∀ d ∈ devNums h, (h.devices d).activ → ¬ Blocked rec h d := by
  rw [cmdAddCidToAll_eq, addCidLoop_result _ (devNums_nodup h)]
  refine forall₃_congr ?_
  intro d _ _
  rw [Blocked, ← blocked_afterStore, Bool.not_eq_true]
  rfl

/-- The first active controller refuses the card. -/
theorem toAll_blocked {d : Nat} (hd : firstActive h (devNums h) = some d)
    (hb : Blocked rec h d) : Atomic rec h (cmdAddCidToAll rec h) ↔ Settled rec h := by
  have hb' : cmdConflict { rec with dev := d, token := tokenToStore rec h } (afterStore rec h) = true :=
    (blocked_afterStore d).trans hb
  have heq := @addCidLoop_blocked { rec with token := tokenToStore rec h } (afterStore rec h)
    (devNums h) d hd hb'
  rw [cmdAddCidToAll_eq, heq, ← settled_iff]
  constructor
  · intro hatomic
    have hsame := hatomic.refused rfl
    exact ⟨hsame.token, hsame.mapping⟩
  · intro ⟨ht, hm⟩
    refine ⟨fun _ => ⟨ht, hm, ?_, rfl, rfl, fun _ => rfl, rfl⟩,
      fun hn => absurd hn (by decide : (0 : Int) ≠ 1)⟩
    have hparam : (afterStore rec h).db.param = h.db.param := by
      cases hc : dbConflict h.db (tokenToStore rec h) with
      | true => exact congrArg (fun r => r.1.param) (dbAddToken_conflict hc)
      | false => exact congrArg (fun r => r.1.param) (dbAddToken_ok hc)
    intro k
    change (afterStore rec h).db.param.lookup k = _
    rw [hparam]

/-- The first active controller takes the card and a later one refuses it. -/
theorem toAll_started (ha : AllocatesNext 4 h) {d : Nat} (hd : firstActive h (devNums h) = some d)
    (hb : ¬ Blocked rec h d) (hsome : ∃ i ∈ devNums h, (h.devices i).activ ∧ Blocked rec h i) :
    ¬ Atomic rec h (cmdAddCidToAll rec h) := by
  intro hatomic
  have hone : (cmdAddCidToAll rec h).2 ≠ 1 := by
    intro hr
    obtain ⟨i, hi, hact, hblocked⟩ := hsome
    exact toAll_result.mp hr i hi hact hblocked
  have hzero : (cmdAddCidToAll rec h).2 = 0 := by
    rw [cmdAddCidToAll_eq] at hone ⊢
    exact (addCidLoop_zero_or_one ..).resolve_right hone
  have hfree : cmdConflict { rec with dev := d, token := tokenToStore rec h } (afterStore rec h) = false :=
    (blocked_afterStore d).trans (Bool.eq_false_iff.mpr hb)
  have hgrown := @addCidLoop_started { rec with token := tokenToStore rec h } (afterStore rec h)
    ha (devNums h) d hd hfree
  rw [← cmdAddCidToAll_eq] at hgrown
  exact hgrown (hatomic.refused hzero).gpHead2

/-- When no active controller refuses the card, each gets its commands. -/
theorem toAll_appends (ha : AllocatesNext (4 * h.maxDevN) h)
    (hfree : ∀ d ∈ devNums h, (h.devices d).activ → ¬ Blocked rec h d) :
    Appends 0 (loopCmds { rec with token := tokenToStore rec h } h (devNums h)) h
      (cmdAddCidToAll rec h).1 := by
  have hroom : AllocatesNext (4 * (devNums h).length + 0) (afterStore rec h) := by
    rw [devNums, List.length_range']
    exact ha
  have happ := @addCidLoop_appends { rec with token := tokenToStore rec h } (afterStore rec h)
    0 (devNums h) hroom (devNums_nodup h) fun d hd hact =>
      (blocked_afterStore d).trans (Bool.eq_false_iff.mpr (hfree d hd hact))
  have hcmds := @loopCmds_congr { rec with token := tokenToStore rec h } h (afterStore rec h)
    (devNums h) fun _ _ => rfl
  rw [← cmdAddCidToAll_eq, hcmds] at happ
  exact ⟨happ.gpHead, happ.gpHead2, happ.room⟩

/-- The address at which it is stored is then where each of them has it. -/
theorem stored_of_atomic (ha : AllocatesNext (4 * h.maxDevN) h) (hn : h.maxDevN ≤ 255)
    (hfree : ∀ d ∈ devNums h, (h.devices d).activ → ¬ Blocked rec h d)
    (hatomic : Atomic rec h (cmdAddCidToAll rec h)) :
    ∀ d ∈ devNums h, (h.devices d).activ → StoredAt rec h (wireAddr rec h d).toUInt32 := by
  intro d hd hact
  have hfew : ∀ d ∈ devNums h, d ≤ 255 := by
    intro d hd
    have hle := (List.mem_range'_1.mp hd).2
    omega
  obtain ⟨zs, hzs, addr, hall⟩ := hatomic.done (toAll_result.mpr hfree)
  obtain ⟨hstored, hcmds⟩ := hall d hd hact
  have hqueued := List.append_cancel_left ((toAll_appends ha hfree).gpHead2.symm.trans hzs)
  have hmem := hcmds _ List.mem_cons_self
  rw [← hqueued] at hmem
  have haddr : addr = wireAddr rec h d :=
    @mem_loopCmds { rec with token := tokenToStore rec h } _ _ hfew d (hfew d hd) _ _ hmem
  rw [toAll_db, stored_afterStore, haddr] at hstored
  exact hstored

theorem atomic_of_stored (ha : AllocatesNext (4 * h.maxDevN) h)
    (hfree : ∀ d ∈ devNums h, (h.devices d).activ → ¬ Blocked rec h d)
    (hstored : ∀ d ∈ devNums h, (h.devices d).activ →
      StoredAt rec h (wireAddr rec h d).toUInt32) : Atomic rec h (cmdAddCidToAll rec h) := by
  have hone : (cmdAddCidToAll rec h).2 = 1 := toAll_result.mpr hfree
  refine ⟨fun hz => absurd (hone.symm.trans hz) (by decide), fun _ => ?_⟩
  refine ⟨_, (toAll_appends ha hfree).gpHead2, ?_⟩
  cases hd0 : firstActive h (devNums h) with
  | none => exact ⟨0, fun d hd hact => absurd hact (firstActive_none hd0 d hd)⟩
  | some d0 =>
    obtain ⟨hm0, hact0⟩ := firstActive_some hd0
    have hat0 := hstored d0 hm0 hact0
    refine ⟨wireAddr rec h d0, ?_⟩
    intro d hd hact
    have hsame : wireAddr rec h d = wireAddr rec h d0 := storedAt_unique (hstored d hd hact) hat0
    rw [toAll_db, stored_afterStore]
    refine ⟨hat0, ?_⟩
    intro z hz
    refine List.mem_flatMap.mpr ⟨d, hd, ?_⟩
    rw [if_pos hact]
    refine List.mem_append_left _ ?_
    rw [← hsame] at hz
    exact hz

/-- No active controller refuses the card. -/
theorem toAll_free (ha : AllocatesNext (4 * h.maxDevN) h) (hn : h.maxDevN ≤ 255)
    (hfree : ∀ d ∈ devNums h, (h.devices d).activ → ¬ Blocked rec h d) :
    Atomic rec h (cmdAddCidToAll rec h) ↔
      ∀ d ∈ devNums h, (h.devices d).activ → StoredAt rec h (wireAddr rec h d).toUInt32 :=
  ⟨stored_of_atomic ha hn hfree, atomic_of_stored ha hfree⟩

/-- An address the cut keeps is the one written, in every controller. -/
theorem wireAddr_of_range (hlo : GP_START_TICKET_BOUND.toUInt32 ≤ (tokenToStore rec h).addr)
    (hhi : (tokenToStore rec h).addr.toNat < 65536) (d : Nat) :
    (wireAddr rec h d).toUInt32 = (tokenToStore rec h).addr := by
  have hcut : (tokenToStore rec h).addr.toUInt16.toUInt32 = (tokenToStore rec h).addr := by
    refine UInt32.toNat_inj.mp ?_
    rw [UInt16.toNat_toUInt32, UInt32.toNat_toUInt16]
    exact Nat.mod_eq_of_lt hhi
  have hge : ¬ (tokenToStore rec h).addr.toUInt16 < GP_START_TICKET_BOUND := by
    intro hlt
    have hlt' := UInt16.lt_iff_toNat_lt.mp hlt
    have hlo' := UInt32.le_iff_toNat_le.mp hlo
    rw [← hcut, UInt16.toNat_toUInt32, UInt16.toNat_toUInt32] at hlo'
    exact absurd hlt' (Nat.not_lt.mpr hlo')
  have hwire : wireAddr rec h d = (tokenToStore rec h).addr.toUInt16 := if_neg hge
  rw [hwire, hcut]

/-- With such an address an addition is atomic. -/
theorem fits_of_range (hlo : GP_START_TICKET_BOUND.toUInt32 ≤ (tokenToStore rec h).addr)
    (hhi : (tokenToStore rec h).addr.toNat < 65536) : Fits rec h := by
  have hwire := wireAddr_of_range hlo hhi
  have hblocked : ∀ d, Blocked rec h d ↔ dbConflict h.db (tokenToStore rec h) = true := by
    intro d
    have hc : cmdConflict (callFor rec h d) h = dbConflict h.db (tokenToStore rec h) := by
      change (dbGetCidByA h.db (wireAddr rec h d).toUInt32 != 0 &&
        dbGetCidByA h.db (wireAddr rec h d).toUInt32 != rec.token.cid) = _
      rw [hwire d]
      rfl
    rw [Blocked, hc]
  unfold Fits
  by_cases hc : dbConflict h.db (tokenToStore rec h) = true
  · cases hd : firstActive h (devNums h) with
    | none => exact .inr fun d hm hact => absurd hact (firstActive_none hd d hm)
    | some d => exact .inl ⟨d, rfl, (hblocked d).mpr hc, .inl hc⟩
  · refine .inr fun d _ _ => ⟨fun hb => hc ((hblocked d).mp hb), ?_⟩
    rw [StoredAt, if_neg hc]
    exact (hwire d).symm

end Proof

/-- **When adding a card everywhere is atomic.** For any record, database and
active controllers, as long as there is memory for the commands. -/
theorem cmdAddCidToAll_atomic_iff (rec : ProcAddCid) (h : Host) (ha : Allocates h)
    (hn : h.maxDevN ≤ 255) : Atomic rec h (cmdAddCidToAll rec h) ↔ Fits rec h := by
  have hroom := ha.next
  unfold Fits
  cases hd : firstActive h (devNums h) with
  | none =>
    have hidle := firstActive_none hd
    rw [toAll_free (hroom _) hn fun d hm hact => absurd hact (hidle d hm)]
    constructor
    · exact fun _ => .inr fun d hm hact => absurd hact (hidle d hm)
    · exact fun _ d hm hact => absurd hact (hidle d hm)
  | some d =>
    obtain ⟨hm, hact⟩ := firstActive_some hd
    by_cases hb : Blocked rec h d
    · rw [toAll_blocked hd hb]
      constructor
      · exact fun hs => .inl ⟨d, rfl, hb, hs⟩
      · intro hor
        rcases hor with ⟨_, _, _, hs⟩ | hall
        · exact hs
        · exact absurd hb (hall d hm hact).1
    have hfirst : ¬ ∃ i, some d = some i ∧ Blocked rec h i ∧ Settled rec h := by
      intro ⟨i, hi, hbi, _⟩
      exact hb (Option.some.inj hi ▸ hbi)
    by_cases hsome : ∃ i ∈ devNums h, (h.devices i).activ ∧ Blocked rec h i
    · refine ⟨fun hatomic => absurd hatomic (toAll_started (hroom 4) hd hb hsome), ?_⟩
      intro hor
      obtain ⟨i, hi, hacti, hbi⟩ := hsome
      exact absurd hbi ((hor.resolve_left hfirst) i hi hacti).1
    · have hfree : ∀ i ∈ devNums h, (h.devices i).activ → ¬ Blocked rec h i :=
        fun i hi hacti hbi => hsome ⟨i, hi, hacti, hbi⟩
      rw [toAll_free (hroom _) hn hfree]
      constructor
      · exact fun hall => .inr fun i hi hacti => ⟨hfree i hi hacti, hall i hi hacti⟩
      · exact fun hor i hi hacti => ((hor.resolve_left hfirst) i hi hacti).2

/-- Card 7 at `addr`. -/
def cardAt (addr : UInt32) : ProcAddCid :=
  { dev := 0, subdev := 0, token := ⟨7, 0, 0xFF, addr, 0⟩, ev := 0 }

/-- One active controller and an empty database. -/
def oneController : Host :=
  { (boot workingWorld Db.empty).setDev 1 fun r => { r with activ := true } with maxDevN := 1 }

theorem low_address_atomic : Atomic (cardAt 0xC8) oneController (cmdAddCidToAll (cardAt 0xC8) oneController) :=
  (cmdAddCidToAll_atomic_iff (cardAt 0xC8) oneController (fun _ => rfl) (by decide)).mpr
    (fits_of_range (by decide) (by decide))

/-- It is stored at 0x100C8 and written at 0x00C8. -/
theorem wide_card_split : ¬ ∀ (rec : ProcAddCid) (h : Host), Allocates h → h.maxDevN ≤ 255 →
    Atomic rec h (cmdAddCidToAll rec h) := by
  intro hall
  have hatomic := hall (cardAt 0x100C8) oneController (fun _ => rfl) (by decide)
  obtain ⟨zs, hzs, addr, hdevs⟩ := hatomic.done (by decide)
  obtain ⟨⟨t, ht, haddr⟩, _⟩ := hdevs 1 (by decide) (by decide)
  have hrec : (cmdAddCidToAll (cardAt 0x100C8) oneController).1.db.token.lookup 7 =
      some (storedRec (cardAt 0x100C8).token) := by decide
  obtain rfl := Option.some.inj (hrec.symm.trans ht)
  have hnat := congrArg UInt32.toNat haddr
  rw [UInt16.toNat_toUInt32] at hnat
  have hlt := addr.toNat_lt
  rw [← hnat] at hlt
  exact absurd hlt (by decide)

end Libgate.CardAtomicity
