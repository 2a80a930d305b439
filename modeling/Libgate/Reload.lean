import Libgate.CardNumbers
import Libgate.MemoryWrites

/-! Reloading a controller. `cmd_reload_dev` queues a write of every stored card
for either bank, between a prep-load on and one off. A record on the wire has 48
bits of the card number, its address 16, and where two records overlap the one
written later is whole. -/

namespace Libgate.Reload
open Lib.Memory Util DbLayer Send Target Cmd Layer HostFrame Queueing MemoryWrites CardNumbers

/-! ## The stored cards -/

/-- The database after some additions, each with the faults of its calls. -/
def stored (calls : List (DbTokenRec × AddTokenFaults)) : Db :=
  calls.foldl (fun db c => (dbAddToken db c.1 c.2).1) Db.empty

/-- Every record lies under its own card number. -/
def KeyedByCid (db : Db) : Prop := ∀ c t, dbGetTokenByC db c = some t → t.cid = c

theorem keyed_add {db : Db} (hk : KeyedByCid db) (rec : DbTokenRec) (f : AddTokenFaults) :
    KeyedByCid (dbAddToken db rec f).1 := by
  have hput : ∀ c t, (db.token.insert rec.cid { rec with zoneMask := 1 }).lookup c = some t →
      t.cid = c := by
    intro c t ht
    by_cases hc : c = rec.cid
    · rw [hc, AList.lookup_insert] at ht
      rw [hc, ← Option.some.inj ht]
    · rw [AList.lookup_insert_ne hc] at ht
      exact hk c t ht
  unfold dbAddToken
  split
  · exact hk
  · simp only
    split
    · exact hk
    · split
      · exact hput
      · exact hput

theorem keyed_stored (calls : List (DbTokenRec × AddTokenFaults)) : KeyedByCid (stored calls) := by
  have hrun : ∀ {db}, KeyedByCid db →
      KeyedByCid (calls.foldl (fun db c => (dbAddToken db c.1 c.2).1) db) := by
    induction calls with
    | nil => exact fun hk => hk
    | cons c calls ih => exact fun hk => ih (keyed_add hk c.1 c.2)
  refine hrun ?_
  intro c t ht
  exact absurd ht (by simp [dbGetTokenByC, Db.empty])

theorem mem_dbTokens {db : Db} (hk : KeyedByCid db) (t : DbTokenRec) :
    t ∈ dbTokens db ↔ dbGetTokenByC db t.cid = some t := by
  constructor
  · intro ht
    obtain ⟨⟨c, t'⟩, hentry, rfl⟩ := List.mem_map.mp ht
    have hlookup : dbGetTokenByC db c = some t' := AList.mem_lookup_iff.mpr hentry
    rwa [← hk c t' hlookup] at hlookup
  · intro ht
    exact List.mem_map.mpr ⟨⟨t.cid, t⟩, AList.mem_lookup_iff.mp ht, rfl⟩

theorem dbTokens_nodup {db : Db} (hk : KeyedByCid db) :
    ((dbTokens db).map DbTokenRec.cid).Nodup := by
  have hkeys : (dbTokens db).map DbTokenRec.cid = db.token.keys := by
    rw [dbTokens, List.map_map]
    refine List.map_congr_left ?_
    intro ⟨c, t⟩ hentry
    exact hk c t (AList.mem_lookup_iff.mpr hentry)
  rw [hkeys]
  exact db.token.keys_nodup

/-! ## What a reload queues -/

/-- The write of one card, for the first bank. -/
def tokenCmd (dev : Nat) (revert : Bool) (t : DbTokenRec) : CmdSend :=
  adSetTokenCmd AD_Q_FIRST dev t.addr.toUInt16
    (tokenRecBytes t.cid t.attr t.scheduleMask revert) 1

def prepLoadCmd (dev : Nat) (enable : Bool) : CmdSend :=
  adCmd AD_Q_FIRST dev .prepLoad 0x66 1 [if enable then 0x73 else 0]

/-- One write for either bank, card by card. -/
def cardCmds (dev : Nat) (revert : Bool) (tokens : List DbTokenRec) : List CmdSend :=
  tokens.flatMap fun t => [tokenCmd dev revert t, secondBank (tokenCmd dev revert t)]

def reloadCmds (dev : Nat) (revert : Bool) (tokens : List DbTokenRec) : List CmdSend :=
  [prepLoadCmd dev true] ++ cardCmds dev revert tokens ++ [prepLoadCmd dev false]

theorem first_ne_short : AD_Q_FIRST ≠ AD_Q_SHORT := by decide

theorem reloadLoop_enqueued (dev : Nat) (tokens : List DbTokenRec) {n : Nat} {h : Host}
    (hmem : AllocatesNext (2 * tokens.length + n) h) :
    Enqueued (2 * tokens.length) (cardCmds dev (h.devices dev).cidRevert tokens) h
      (reloadLoop dev tokens h) := by
  induction tokens generalizing h with
  | nil => exact .refl h
  | cons t tokens ih =>
    have hroom : AllocatesNext (2 + (2 * tokens.length + n)) h := by
      intro i hi
      exact hmem i (by rw [List.length_cons]; omega)
    have q := bothBanks_next hroom (z := tokenCmd dev (h.devices dev).cidRevert t) first_ne_short
    have q' := ih (hroom.enqueued q)
    rw [q.devices] at q'
    have hlen : 2 * (t :: tokens).length = 2 + 2 * tokens.length := by
      rw [List.length_cons]
      omega
    rw [hlen]
    exact q.trans q'

theorem cmdReloadDev_enqueued (dev : Nat) (tokens : List DbTokenRec) {h : Host}
    (hmem : AllocatesNext (2 * tokens.length + 2) h) :
    Enqueued (1 + 2 * tokens.length + 1) (reloadCmds dev (h.devices dev).cidRevert tokens) h
      (cmdReloadDev dev tokens h).1 := by
  have hroom : AllocatesNext (1 + (2 * tokens.length + 1)) h := fun i hi => hmem i (by omega)
  have q := sendOrQueue_next hroom (z := prepLoadCmd dev true) first_ne_short
  have hroom' := hroom.enqueued q
  have q' := reloadLoop_enqueued dev tokens hroom'
  rw [q.devices] at q'
  have q'' := sendOrQueue_next (n := 0) (hroom'.enqueued q') (z := prepLoadCmd dev false)
    first_ne_short
  exact (q.trans q').trans q''

theorem reloadCmds_first (dev : Nat) (revert : Bool) (tokens : List DbTokenRec) :
    ∀ z ∈ reloadCmds dev revert tokens, z.queue = AD_Q_FIRST := by
  intro z hz
  rcases List.mem_append.mp hz with hz | hz
  · rcases List.mem_append.mp hz with hz | hz
    · rw [List.mem_singleton.mp hz]
      rfl
    · obtain ⟨t, _, hz⟩ := List.mem_flatMap.mp hz
      rcases List.mem_pair.mp hz with hz | hz
      · rw [hz]
        rfl
      · rw [hz]
        rfl
  · rw [List.mem_singleton.mp hz]
    rfl

/-- The commands of a reload of `dev`, as they come to stand in the queue. -/
def queuedBy (dev : Nat) (tokens : List DbTokenRec) (h : Host) : List CmdSend :=
  (cmdReloadDev dev tokens h).1.gpHead.drop h.gpHead.length

/-- A reload returns, and it has queued each stored card once for either bank,
behind whatever was queued before. -/
structure Queues (dev : Nat) (tokens : List DbTokenRec) (h : Host) : Prop where
  returns : (cmdReloadDev dev tokens h).2 = 1
  once : (tokens.map DbTokenRec.cid).Nodup
  all : ∀ t, t ∈ tokens ↔ dbGetTokenByC h.db t.cid = some t
  gpHead : (cmdReloadDev dev tokens h).1.gpHead =
    h.gpHead ++ reloadCmds dev (h.devices dev).cidRevert tokens
  gpHead2 : (cmdReloadDev dev tokens h).1.gpHead2 = h.gpHead2

theorem Queues.queuedBy {dev : Nat} {tokens : List DbTokenRec} {h : Host}
    (q : Queues dev tokens h) :
    queuedBy dev tokens h = reloadCmds dev (h.devices dev).cidRevert tokens := by
  rw [Reload.queuedBy, q.gpHead, List.drop_left]

theorem reload_queues {calls : List (DbTokenRec × AddTokenFaults)} {tokens : List DbTokenRec}
    {h : Host} (dev : Nat) (hdb : h.db = stored calls) (hcur : tokens.Perm (dbTokens h.db))
    (hmem : AllocatesNext (2 * tokens.length + 2) h) : Queues dev tokens h := by
  have hk : KeyedByCid h.db := hdb ▸ keyed_stored calls
  have q := cmdReloadDev_enqueued dev tokens hmem
  obtain ⟨hhead, hhead2⟩ := q.first fun z hz => decide_eq_true (reloadCmds_first _ _ _ z hz)
  refine ⟨rfl, ?_, ?_, hhead, hhead2⟩
  · exact (hcur.map _).nodup_iff.mpr (dbTokens_nodup hk)
  · intro t
    rw [hcur.mem_iff, mem_dbTokens hk]

/-! ## What the controller then holds -/

/-- The memory writes for one bank. -/
def bankWrites (bank : Nat) (zs : List CmdSend) : List CmdSend :=
  zs.filter fun z => z.cmdN = 0x05 ∧ z.bank = bank

theorem bankWrites_append (bank : Nat) (zs zs' : List CmdSend) :
    bankWrites bank (zs ++ zs') = bankWrites bank zs ++ bankWrites bank zs' :=
  List.filter_append ..

/-- A bank's memory after some writes, the first one first. -/
def applyAll (zs : List CmdSend) (m : Nat → UInt8) : Nat → UInt8 :=
  zs.foldl (fun m z => applyWrite z m) m

/-- What the eight bytes at an address say: card number, attributes and schedules. -/
def slotOf (m : Nat → UInt8) (a : Nat) (revert : Bool) : UInt64 × UInt8 × UInt8 :=
  (bin2int m a 6 revert, m (a + 6), m (a + 7))

/-- Where a card's record goes. -/
def place (t : DbTokenRec) : Nat := t.addr.toUInt16.toNat

/-- The records of two cards have no byte in common. -/
def Apart (t t' : DbTokenRec) : Prop := place t + 8 ≤ place t' ∨ place t' + 8 ≤ place t

instance (t t' : DbTokenRec) : Decidable (Apart t t') := inferInstanceAs (Decidable (_ ∨ _))

theorem length_tokenRecBytes (cid : UInt64) (attr scheduleMask : UInt8) (revert : Bool) :
    (tokenRecBytes cid attr scheduleMask revert).length = 8 := by
  rw [tokenRecBytes, List.length_append, length_int2bin cid (by decide)]
  rfl

/-- A record is read back, with as much of the card number as it holds. -/
theorem slotOf_record {m : Nat → UInt8} {a : Nat} {cid : UInt64} {attr scheduleMask : UInt8}
    {revert : Bool} (hm : load m a 8 = tokenRecBytes cid attr scheduleMask revert) :
    slotOf m a revert = (cid % 0x1000000000000, attr, scheduleMask) := by
  have hsplit : load m a 6 ++ load m (a + 6) 2 = int2bin cid 6 revert ++ [attr, scheduleMask] :=
    (load_append m a 6 2).symm.trans hm
  have hlen : (load m a 6).length = (int2bin cid 6 revert).length := by
    rw [length_load, length_int2bin cid (by decide)]
  obtain ⟨hcid, htail⟩ := List.append_inj hsplit hlen
  obtain ⟨hattr, htail⟩ := List.cons.inj htail
  have hnum : bin2int m a 6 revert = cid % 0x1000000000000 := by
    apply UInt64.toNat_inj.mp
    rw [bin2int_int2bin (by decide) (by decide) hcid, UInt64.toNat_mod]
    rfl
  rw [slotOf, hnum, hattr, (List.cons.inj htail).1]

section Writes
variable (dev : Nat) (revert : Bool)

/-- The record of a card as it travels. -/
def record (t : DbTokenRec) : List UInt8 := tokenRecBytes t.cid t.attr t.scheduleMask revert

theorem length_record (t : DbTokenRec) : (record revert t).length = 8 := length_tokenRecBytes ..

/-- The write of one card for the given bank. -/
def bankCmd (bank : Nat) (t : DbTokenRec) : CmdSend :=
  if bank = 0 then tokenCmd dev revert t else secondBank (tokenCmd dev revert t)

theorem bankWrites_cards {bank : Nat} (hb : bank < 2) (tokens : List DbTokenRec) :
    bankWrites bank (cardCmds dev revert tokens) = tokens.map (bankCmd dev revert bank) := by
  induction tokens with
  | nil => rfl
  | cons t tokens ih =>
    have hone : bankWrites bank [tokenCmd dev revert t, secondBank (tokenCmd dev revert t)] =
        [bankCmd dev revert bank t] := by
      match bank, hb with
      | 0, _ => rfl
      | 1, _ => rfl
    rw [cardCmds, List.flatMap_cons, bankWrites_append, hone, ← cardCmds, ih]
    rfl

/-- Prep-load commands write nothing. -/
theorem bankWrites_reload {bank : Nat} (hb : bank < 2) (tokens : List DbTokenRec) :
    bankWrites bank (reloadCmds dev revert tokens) = tokens.map (bankCmd dev revert bank) := by
  have hprep : ∀ enable, bankWrites bank [prepLoadCmd dev enable] = [] := fun _ => rfl
  rw [reloadCmds, bankWrites_append, bankWrites_append, hprep, hprep,
    bankWrites_cards dev revert hb, List.append_nil]
  rfl

/-- Either bank gets the record whole. -/
theorem applyWrite_card (bank : Nat) (t : DbTokenRec) (m : Nat → UInt8) :
    applyWrite (bankCmd dev revert bank t) m = store m (place t) (record revert t) := by
  have hsize := length_record revert t
  let w : MemWrite := .setToken t.addr.toUInt16 (record revert t) 1 (by decide) hsize
  have hz : Headed w (tokenCmd dev revert t) 8 := by
    refine ⟨⟨0x00, 0xA0, ?_⟩, ?_⟩
    · change [0x00, 0xA0, 8] ++ be16 t.addr.toUInt16 ++ (record revert t).takeD 8 0 = _
      rw [data_takeD hsize]
      rfl
    · exact congrArg (· + 5) hsize.symm
  have hbank : Headed w (bankCmd dev revert bank t) 8 := by
    unfold bankCmd
    split
    · exact hz
    · exact hz.secondBank
  have htake : w.payload.take (8 : UInt8).toNat = w.payload :=
    List.take_of_length_le (Nat.le_of_eq hsize)
  rw [hbank.apply m, htake]
  rfl

/-- The writes of a bank put the records of the cards one after another. -/
theorem applyAll_cards (bank : Nat) (tokens : List DbTokenRec) (m : Nat → UInt8) :
    applyAll (tokens.map (bankCmd dev revert bank)) m =
      storeAll m (tokens.map fun t => (place t, record revert t)) := by
  rw [applyAll, storeAll, List.foldl_map, List.foldl_map]
  simp only [applyWrite_card]

/-- A record that no later one touches is whole. -/
theorem load_applyAll_cards (bank : Nat) (pre : List DbTokenRec) (t : DbTokenRec)
    {post : List DbTokenRec} (hap : ∀ t' ∈ post, Apart t' t) (m : Nat → UInt8) :
    load (applyAll ((pre ++ t :: post).map (bankCmd dev revert bank)) m) (place t) 8 =
      record revert t := by
  have hlast : ∀ w ∈ post.map fun t' => (place t', record revert t'),
      place t + (record revert t).length ≤ w.1 ∨ w.1 + w.2.length ≤ place t := by
    intro w hw
    obtain ⟨t', ht', rfl⟩ := List.mem_map.mp hw
    rw [length_record, length_record]
    exact (hap t' ht').symm
  have hload := load_storeAll_last m (pre.map fun t' => (place t', record revert t')) hlast
  rw [length_record] at hload
  rw [applyAll_cards, List.map_append, List.map_cons]
  exact hload

end Writes

/-- **A reload reproduces the database.** With memory for its commands it queues
each stored card once for either bank; and whatever a bank held before, a card
whose record no later one touches is then found in its place, with the low 48
bits of its number. -/
theorem reload_reproduces {calls : List (DbTokenRec × AddTokenFaults)} {tokens : List DbTokenRec}
    {h : Host} (dev : Nat) (hdb : h.db = stored calls) (hcur : tokens.Perm (dbTokens h.db))
    (hmem : AllocatesNext (2 * tokens.length + 2) h) :
    Queues dev tokens h ∧ ∀ bank < 2, ∀ m pre t post, tokens = pre ++ t :: post →
      (∀ t' ∈ post, Apart t' t) →
        slotOf (applyAll (bankWrites bank (queuedBy dev tokens h)) m) (place t)
          (h.devices dev).cidRevert = (t.cid % 0x1000000000000, t.attr, t.scheduleMask) := by
  have q := reload_queues dev hdb hcur hmem
  refine ⟨q, ?_⟩
  intro bank hb m pre t post hsplit hap
  rw [q.queuedBy, bankWrites_reload dev _ hb, hsplit]
  exact slotOf_record (load_applyAll_cards dev _ bank pre t hap m)

/-- Two cards side by side. -/
def twoCards : List (DbTokenRec × AddTokenFaults) :=
  [(⟨7, 1, 0x0F, 0xC8, 1⟩, {}), (⟨5, 0, 0xFF, 0xC0, 1⟩, {})]

theorem reload_two_cards :
    slotOf (applyAll (bankWrites 1 (queuedBy 1 (dbTokens (stored twoCards))
      (boot workingWorld (stored twoCards)))) fun _ => 0x55) 0xC0 false = (5, 0, 0xFF) :=
  (reload_reproduces 1 rfl (List.Perm.refl _) (fun _ _ => rfl)).2 1 (by decide) (fun _ => 0x55)
    [] ⟨5, 0, 0xFF, 0xC0, 1⟩ [⟨7, 1, 0x0F, 0xC8, 1⟩] (by decide) (by decide)

/-- A reload after which every stored card is found whole at its address. -/
def Reproduces (dev : Nat) (tokens : List DbTokenRec) (h : Host) : Prop :=
  Queues dev tokens h ∧ ∀ bank < 2, ∀ m, ∀ t ∈ tokens,
    slotOf (applyAll (bankWrites bank (queuedBy dev tokens h)) m) t.addr.toNat
      (h.devices dev).cidRevert = (t.cid, t.attr, t.scheduleMask)

/-- A reload of all that some additions stored. -/
def ReproducesStored (w : World) (calls : List (DbTokenRec × AddTokenFaults)) : Prop :=
  Reproduces 1 (dbTokens (stored calls)) (boot w (stored calls))

/-- Lost are a card number of 49 bits, a card behind the 16-bit addresses, a card
another one overlaps, and one for which there is no memory. -/
theorem reload_loses :
    ¬ ReproducesStored workingWorld [(⟨0x1000000000005, 0, 0xFF, 0xC0, 1⟩, {})] ∧
      ¬ ReproducesStored workingWorld [(⟨5, 0, 0xFF, 0x100C0, 1⟩, {})] ∧
      ¬ ReproducesStored workingWorld
        [(⟨7, 0, 0xFF, 0xC4, 1⟩, {}), (⟨5, 0, 0xFF, 0xC0, 1⟩, {})] ∧
      ¬ ReproducesStored { workingWorld with malloc := fun _ => false }
        [(⟨5, 0, 0xFF, 0xC0, 1⟩, {})] := by
  refine ⟨?_, ?_, ?_, ?_⟩
  · intro hr
    have hslot := hr.2 0 (by decide) (fun _ => 0) ⟨0x1000000000005, 0, 0xFF, 0xC0, 1⟩ (by decide)
    revert hslot; decide
  · intro hr
    have hslot := hr.2 0 (by decide) (fun _ => 0) ⟨5, 0, 0xFF, 0x100C0, 1⟩ (by decide)
    revert hslot; decide
  · intro hr
    have hslot := hr.2 0 (by decide) (fun _ => 0) ⟨5, 0, 0xFF, 0xC0, 1⟩ (by decide)
    revert hslot; decide
  · intro hr
    have hhead := congrArg List.length hr.1.gpHead
    revert hhead; decide

end Libgate.Reload
