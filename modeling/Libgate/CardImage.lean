import Libgate.Reload
import Libgate.TokenMemory
import Libgate.Transmit
import Libgate.Wire

/-! The card memory of a controller that is cleared and loaded. What
`cmd_clear_dev` and `cmd_reload_dev` put into the queue is followed to the line
and from there into the memory of the controller that hears it: afterwards it
holds the cards of the database, and nothing of what it held before. -/

namespace Libgate.CardImage
open Lib.Memory Util DbLayer Send Target Cmd Layer HostFrame Queueing MemoryWrites Reload
open TokenMemory Transmit Wire
open CommandQueues (isFirst)

/-! ## A controller's memory -/

/-- What a command writes in one bank of a controller's card memory, and where. -/
def writeIn (d bank : UInt8) (p : Packet) : Option (Nat × List UInt8) :=
  match p.data with
  | b :: area :: len :: hi :: lo :: rest =>
    if p.dst = d ∧ p.cmdN = 0x05 ∧ b = bank ∧ area = 0xA0 then
      some (hi.toNat * 256 + lo.toNat, rest.take len.toNat)
    else none
  | _ => none

/-- The writes among what a controller reads off the line. -/
def writes (d bank : UInt8) (heard : List (Option Packet)) : List (Nat × List UInt8) :=
  heard.filterMap fun p => p.bind (writeIn d bank)

/-- A bank of the memory of a controller that has heard the bytes. -/
def remembers (d bank : UInt8) (bytes : List UInt8) (m : Nat → UInt8) : Nat → UInt8 :=
  storeAll m (writes d bank (listen bytes))

/-- The writes of some commands, as they get to a controller. -/
def written (d bank : UInt8) (zs : List CmdSend) : List (Nat × List UInt8) :=
  zs.filterMap fun z => writeIn d bank (packet z)

theorem remembers_line (d bank : UInt8) (zs : List CmdSend) (m : Nat → UInt8) :
    remembers d bank (line zs) m = storeAll m (written d bank zs) := by
  rw [remembers, writes, listen_line, List.filterMap_map]
  rfl

theorem written_append (d bank : UInt8) (zs zs' : List CmdSend) :
    written d bank (zs ++ zs') = written d bank zs ++ written d bank zs' :=
  List.filterMap_append ..

/-- Commands for others write nothing. -/
theorem written_elsewhere {d bank : UInt8} {zs : List CmdSend} (hz : ∀ z ∈ zs, z.dst ≠ d) :
    written d bank zs = [] := by
  refine List.filterMap_eq_nil_iff.mpr ?_
  intro z hm
  unfold writeIn
  split
  · exact if_neg fun hn => hz z hm hn.1
  · rfl

/-- A command that writes `bytes` in its bank of the card memory. -/
structure Writes (z : CmdSend) (d : UInt8) (a : UInt16) (bytes : List UInt8) : Prop where
  dst : z.dst = d
  cmdN : z.cmdN = 0x05
  buff : ∃ len : UInt8, len.toNat = bytes.length ∧ ∃ b, z.cmdBuff = b :: 0xA0 :: len ::
    (be16 a ++ bytes)
  bank : z.cmdBuff.head? = some 0
  dataLen : z.dataLen = bytes.length + 5

section One
variable {z : CmdSend} {d : UInt8} {a : UInt16} {bytes : List UInt8}

theorem writeIn_of_buff {b len : UInt8} (bank : UInt8) (hd : z.dst = d) (hc : z.cmdN = 0x05)
    (hb : z.cmdBuff = b :: 0xA0 :: len :: (be16 a ++ bytes)) (hl : len.toNat = bytes.length)
    (hn : z.dataLen = bytes.length + 5) :
    writeIn d bank (packet z) = if b = bank then some (a.toNat, bytes) else none := by
  have hdata : z.data = b :: 0xA0 :: len :: (be16 a ++ bytes) := by
    rw [CmdSend.data, hb]
    exact data_takeD hn.symm
  have haddr : (a >>> 8).toUInt8.toNat * 256 + a.toUInt8.toNat = a.toNat := be16_val a
  unfold writeIn packet
  rw [hdata]
  change (if z.dst = d ∧ z.cmdN = 0x05 ∧ b = bank ∧ (0xA0 : UInt8) = 0xA0 then
    some ((a >>> 8).toUInt8.toNat * 256 + a.toUInt8.toNat, bytes.take len.toNat) else none) = _
  rw [haddr, hl, List.take_length, hd, hc]
  simp

/-- Of a command for either bank each bank takes its own. -/
theorem written_pair (w : Writes z d a bytes) {bank : UInt8} (hbank : bank = 0 ∨ bank = 1) :
    written d bank [z, secondBank z] = [(a.toNat, bytes)] := by
  obtain ⟨len, hl, b, hb⟩ := w.buff
  have hzero : b = 0 := by
    have hhead := w.bank
    rw [hb] at hhead
    exact Option.some.inj hhead
  have hsecond : (secondBank z).cmdBuff = 1 :: 0xA0 :: len :: (be16 a ++ bytes) := by
    change z.cmdBuff.set 0 1 = _
    rw [hb]
    rfl
  have h1 := writeIn_of_buff bank w.dst w.cmdN hb hl w.dataLen
  have h2 := writeIn_of_buff (z := secondBank z) bank w.dst w.cmdN hsecond hl w.dataLen
  rw [written, List.filterMap_cons, List.filterMap_cons, h1, h2, hzero]
  rcases hbank with rfl | rfl
  · rfl
  · rfl

/-- A command that is no write. -/
theorem written_none {z : CmdSend} (hz : z.cmdN ≠ 0x05) (d bank : UInt8) : written d bank [z] = [] := by
  have hnone : writeIn d bank (packet z) = none := by
    unfold writeIn
    split
    · exact if_neg fun hn => hz hn.2.1
    · rfl
  rw [written, List.filterMap_cons, hnone]
  rfl

end One

/-! ## Clearing -/

/-- The write of one block of cleared cards. -/
def blockCmd (dev n : Nat) : CmdSend :=
  adSetTokenCmd AD_Q_FIRST dev (blockAddr (n + 1)) clearData GP_MAX_TICKET_NUM

/-- The last `n` blocks, for either bank. -/
def blockCmds (dev : Nat) : Nat → List CmdSend
  | 0 => []
  | n + 1 => blockCmd dev n :: secondBank (blockCmd dev n) :: blockCmds dev n

/-- What `cmd_clear_dev` queues behind its blocks. -/
def endCmds (dev : Nat) : List CmdSend :=
  let bound := adSetTokenBoundCmd AD_Q_FIRST dev GP_MAX_TICKET_BOUND
  let ask := adCmd AD_Q_FIRST dev .getTokenBound 0x04 5 [0x00, 0xA0, 2, 0x00, 0xBE]
  [bound, secondBank bound, prepLoadCmd dev false, ask, secondBank ask,
    adCmd AD_Q_FIRST dev .getDate 0x04 5 [0x00, 0xD0, 7, 0x00, 0x00]]

def clearCmds (dev : Nat) : List CmdSend :=
  [prepLoadCmd dev true] ++ blockCmds dev 340 ++ endCmds dev

theorem clearLoop_enqueued (dev : Nat) {n k : Nat} (hn : n ≤ 340) {h : Host}
    (hmem : AllocatesNext (2 * n + k) h) :
    Enqueued (2 * n) (blockCmds dev n) h (clearLoop dev (blockAddr n) h) := by
  induction n generalizing h with
  | zero =>
    rw [clearLoop, if_neg (by decide)]
    exact .refl h
  | succ n ih =>
    have hroom : AllocatesNext (2 + (2 * n + k)) h := fun i hi => hmem i (by omega)
    have q := bothBanks_next hroom (z := blockCmd dev n) first_ne_short
    have q' := ih (Nat.le_of_succ_le hn) (hroom.enqueued q)
    rw [clearLoop_step hn, show 2 * (n + 1) = 2 + 2 * n by omega]
    exact q.trans q'

theorem gpInCmd_next {h : Host} {n : Nat} (ha : AllocatesNext (1 + n) h) (z : CmdSend) :
    Enqueued 1 [z] h (gpInCmd z h).1 := by
  have q := (gpInCmd_enqueued z h).1
  rwa [ha 0 (by omega)] at q

theorem clearBounds_enqueued (dev : Nat) {k : Nat} {h : Host} (hmem : AllocatesNext (6 + k) h) :
    Enqueued 6 (endCmds dev)
      ({ h with maxBoundToken := GP_MAX_TICKET_BOUND }.setDev dev fun d =>
        { d with boundToken := GP_MAX_TICKET_BOUND }) (clearBounds dev h) := by
  let h1 := { h with maxBoundToken := GP_MAX_TICKET_BOUND }.setDev dev fun d =>
    { d with boundToken := GP_MAX_TICKET_BOUND }
  let h2 := (adSetTokenBound AD_Q_FIRST dev GP_MAX_TICKET_BOUND h1).1
  let h3 := (adPrepLoad AD_Q_FIRST dev false h2).1
  let h4 := (adGetTokenBound AD_Q_FIRST dev .null h3).1
  have hbound : (h1.devices dev).boundToken = GP_MAX_TICKET_BOUND := by
    change ((Host.setDev dev _ _).devices dev).boundToken = _
    rw [Host.setDev_devices_self]
  have hlast : clearBounds dev h = (adGetDate AD_Q_FIRST dev h4).1 := by
    change (adGetDate AD_Q_FIRST dev (adGetTokenBound AD_Q_FIRST dev .null
      (adPrepLoad AD_Q_FIRST dev false
        (adSetTokenBound AD_Q_FIRST dev (h1.devices dev).boundToken h1).1).1).1).1 = _
    rw [hbound]
  have hmem1 : AllocatesNext (2 + (1 + (2 + (1 + k)))) h1 := fun i hi => hmem i (by omega)
  have q1 : Enqueued 2 _ h1 h2 := bothBanks_next hmem1 first_ne_short
  have hmem2 := hmem1.enqueued q1
  have q2 : Enqueued 1 _ h2 h3 := sendOrQueue_next hmem2 first_ne_short
  have hmem3 := hmem2.enqueued q2
  have q3 : Enqueued 2 _ h3 h4 := bothBanks_next hmem3 first_ne_short
  have hmem4 := hmem3.enqueued q3
  have q4 : Enqueued 1 _ h4 (adGetDate AD_Q_FIRST dev h4).1 := gpInCmd_next hmem4 _
  rw [hlast]
  exact ((q1.trans q2).trans q3).trans q4

theorem blockCmds_first (dev n : Nat) : ∀ z ∈ blockCmds dev n, isFirst z = true := by
  induction n with
  | zero => simp [blockCmds]
  | succ n ih =>
    intro z hz
    rcases List.mem_cons.mp hz with rfl | hz
    · rfl
    rcases List.mem_cons.mp hz with rfl | hz
    · rfl
    · exact ih z hz

theorem endCmds_first (dev : Nat) : ∀ z ∈ endCmds dev, isFirst z = true := by
  intro z hz
  simp only [endCmds, List.mem_cons, List.not_mem_nil, or_false] at hz
  rcases hz with rfl | rfl | rfl | rfl | rfl | rfl
  all_goals rfl

theorem clearBounds_queues (dev : Nat) {k : Nat} {h : Host} (hmem : AllocatesNext (6 + k) h) :
    (clearBounds dev h).gpHead = h.gpHead ++ endCmds dev ∧
      AllocatesNext k (clearBounds dev h) ∧
      ((clearBounds dev h).devices dev).cidRevert = (h.devices dev).cidRevert := by
  have q := clearBounds_enqueued dev hmem
  have hmem' : AllocatesNext (6 + k)
      ({ h with maxBoundToken := GP_MAX_TICKET_BOUND }.setDev dev fun d =>
        { d with boundToken := GP_MAX_TICKET_BOUND }) := fun i hi => hmem i hi
  have hsame : ∀ a f, ({ h with maxBoundToken := a }.setDev dev f).gpHead = h.gpHead :=
    fun _ _ => rfl
  refine ⟨?_, hmem'.enqueued q, ?_⟩
  · rw [(q.first (endCmds_first dev)).1, hsame]
  · rw [q.devices, Host.setDev_devices_self]

/-- `cmd_clear_dev` queues its commands behind what waits, and uses 687 times the
memory of one. -/
theorem cmdClearDev_queues (dev : Nat) {k : Nat} {h : Host} (hmem : AllocatesNext (687 + k) h) :
    (cmdClearDev dev h).1.gpHead = h.gpHead ++ clearCmds dev ∧
      AllocatesNext k (cmdClearDev dev h).1 ∧
      ((cmdClearDev dev h).1.devices dev).cidRevert = (h.devices dev).cidRevert := by
  have hmem0 : AllocatesNext (1 + (2 * 340 + (6 + k))) h := fun i hi => hmem i (by omega)
  have q1 := sendOrQueue_next hmem0 (z := prepLoadCmd dev true) first_ne_short
  have hmem1 := hmem0.enqueued q1
  have q2 := clearLoop_enqueued dev (Nat.le_refl 340) hmem1
  have hmem2 := hmem1.enqueued q2
  have hfirst : ∀ z ∈ [prepLoadCmd dev true] ++ blockCmds dev 340, isFirst z = true := by
    intro z hz
    rcases List.mem_append.mp hz with hz | hz
    · rw [List.mem_singleton.mp hz]
      rfl
    · exact blockCmds_first dev 340 z hz
  have hhead := ((q1.trans q2).first hfirst).1
  have hdev := (q1.trans q2).devices
  have hlast : (cmdClearDev dev h).1 = clearBounds dev
      (clearLoop dev (blockAddr 340) (sendOrQueue (prepLoadCmd dev true) h).1) := by
    rw [show blockAddr 340 = GP_START_TICKET_BOUND by decide]
    rfl
  rw [hlast]
  generalize clearLoop dev (blockAddr 340) (sendOrQueue (prepLoadCmd dev true) h).1 = h2 at *
  obtain ⟨hhead', hmem', hrev⟩ := clearBounds_queues dev hmem2
  refine ⟨?_, hmem', by rw [hrev, hdev]⟩
  rw [hhead', hhead, List.append_assoc]
  rfl

/-! ## What a bank is written -/

theorem adSetTokenCmd_writes (q : Int) (dev : Nat) (a : UInt16) {data : List UInt8} {n : Nat}
    (hn : n ≤ 12) (hd : data.length = 8 * n) :
    Writes (adSetTokenCmd q dev a data n) (UInt8.ofNat dev) a data := by
  refine ⟨rfl, rfl, ⟨UInt8.ofNat (8 * n), ?_, 0, ?_⟩, rfl, ?_⟩
  · rw [UInt8.toNat_ofNat', hd]
    exact Nat.mod_eq_of_lt (by omega)
  · change [0x00, 0xA0, UInt8.ofNat (8 * n)] ++ be16 a ++ data.takeD (8 * n) 0 = _
    rw [data_takeD hd]
    rfl
  · rw [hd]
    exact Nat.add_comm 5 (8 * n)

theorem boundCmd_writes (q : Int) (dev : Nat) (a : UInt16) :
    Writes (adSetTokenBoundCmd q dev a) (UInt8.ofNat dev) 0xBE (be16 a) :=
  ⟨rfl, rfl, ⟨2, rfl, 0, rfl⟩, rfl, rfl⟩

section Bank
variable {bank : UInt8} (hbank : bank = 0 ∨ bank = 1) (dev : Nat)
include hbank

/-- The blocks leave no gap. -/
theorem storeAll_blocks {n : Nat} (hn : n ≤ 340) (m : Nat → UInt8) :
    storeAll m (written (UInt8.ofNat dev) bank (blockCmds dev n)) =
      store m (32832 - 96 * n) (List.replicate (96 * n) 0x55) := by
  induction n generalizing m with
  | zero => exact (store_nil ..).symm
  | succ n ih =>
    have hw : Writes (blockCmd dev n) (UInt8.ofNat dev) (blockAddr (n + 1)) clearData :=
      adSetTokenCmd_writes _ dev _ (Nat.le_refl 12) List.length_replicate
    have hone := written_pair hw hbank
    rw [blockAddr_toNat] at hone
    have hsplit : blockCmds dev (n + 1) =
        [blockCmd dev n, secondBank (blockCmd dev n)] ++ blockCmds dev n := rfl
    have hnext : 32832 - 96 * n = 32832 - 96 * (n + 1) + (List.replicate 96 (0x55 : UInt8)).length := by
      rw [List.length_replicate]
      omega
    have hall : List.replicate (96 * (n + 1)) (0x55 : UInt8) =
        List.replicate 96 0x55 ++ List.replicate (96 * n) 0x55 := by
      rw [List.replicate_append_replicate, Nat.mul_succ, Nat.add_comm]
    rw [hsplit, written_append, hone, storeAll_append, ih (Nat.le_of_succ_le hn), hall, store_append,
      hnext]
    rfl

theorem written_end : written (UInt8.ofNat dev) bank (endCmds dev) =
    [(0xBE, be16 GP_MAX_TICKET_BOUND)] := by
  let bound := adSetTokenBoundCmd AD_Q_FIRST dev GP_MAX_TICKET_BOUND
  let ask := adCmd AD_Q_FIRST dev .getTokenBound 0x04 5 [0x00, 0xA0, 2, 0x00, 0xBE]
  have hask : (0x04 : UInt8) ≠ 0x05 := by decide
  have hsplit : endCmds dev = [bound, secondBank bound] ++ ([prepLoadCmd dev false] ++ ([ask] ++
      ([secondBank ask] ++ [adCmd AD_Q_FIRST dev .getDate 0x04 5 [0x00, 0xD0, 7, 0x00, 0x00]]))) := rfl
  rw [hsplit, written_append, written_append, written_append, written_append,
    written_pair (boundCmd_writes _ dev _) hbank, written_none (by decide : (0x66 : UInt8) ≠ 0x05),
    written_none (z := ask) hask, written_none (z := secondBank ask) hask, written_none hask]
  rfl

theorem written_cards (revert : Bool) (tokens : List DbTokenRec) :
    written (UInt8.ofNat dev) bank (cardCmds dev revert tokens) =
      tokens.map fun t => (place t, record revert t) := by
  induction tokens with
  | nil => rfl
  | cons t tokens ih =>
    have hw : Writes (tokenCmd dev revert t) (UInt8.ofNat dev) t.addr.toUInt16 (record revert t) :=
      adSetTokenCmd_writes _ dev _ (by decide) (length_record revert t)
    rw [cardCmds, List.flatMap_cons, written_append, written_pair hw hbank, ← cardCmds, ih]
    rfl

/-- Cleared, the bound set, and the cards written one after another. -/
theorem storeAll_clear_reload (revert : Bool) (tokens : List DbTokenRec) (m : Nat → UInt8) :
    storeAll m (written (UInt8.ofNat dev) bank (clearCmds dev ++ reloadCmds dev revert tokens)) =
      storeAll (store (store m 0xC0 (List.replicate 32640 0x55)) 0xBE (be16 GP_MAX_TICKET_BOUND))
        (tokens.map fun t => (place t, record revert t)) := by
  have hprep : ∀ enable, written (UInt8.ofNat dev) bank [prepLoadCmd dev enable] = [] :=
    fun enable => written_none (by decide : (0x66 : UInt8) ≠ 0x05) ..
  have hblocks := storeAll_blocks hbank dev (Nat.le_refl 340) m
  rw [clearCmds, reloadCmds, written_append, written_append, written_append, written_append,
    written_append, hprep, hprep, written_end hbank, written_cards hbank, List.nil_append,
    List.nil_append, List.append_nil, storeAll_append, storeAll_append, hblocks]
  rfl

end Bank

/-! ## What the bank then holds -/

/-- No card's record lies on the cell. -/
def Uncovered (tokens : List DbTokenRec) (i : Nat) : Prop :=
  ∀ t ∈ tokens, i < place t ∨ place t + 8 ≤ i

/-- A bank that held `m` before the controller was cleared and loaded: a card that
no later one touches is in its place, the other cells that are cleared read 0x55,
the bound is the last record, and the rest is as it was. -/
structure Image (revert : Bool) (tokens : List DbTokenRec) (m m' : Nat → UInt8) : Prop where
  card : ∀ pre t post, tokens = pre ++ t :: post → (∀ t' ∈ post, Apart t' t) →
    slotOf m' (place t) revert = (t.cid % 0x1000000000000, t.attr, t.scheduleMask)
  free : ∀ i, 0xC0 ≤ i → i < 0x8040 → Uncovered tokens i → m' i = 0x55
  bound : (∀ t ∈ tokens, 0xC0 ≤ place t) → load m' 0xBE 2 = be16 GP_MAX_TICKET_BOUND
  rest : ∀ i, i < 0xBE ∨ 0x8040 ≤ i → Uncovered tokens i → m' i = m i

theorem uncovered_beside {revert : Bool} {tokens : List DbTokenRec} {i : Nat}
    (hi : Uncovered tokens i) :
    ∀ w ∈ tokens.map fun t => (place t, record revert t), i < w.1 ∨ w.1 + w.2.length ≤ i := by
  intro w hw
  obtain ⟨t, ht, rfl⟩ := List.mem_map.mp hw
  rw [length_record]
  exact hi t ht

theorem image_of_storeAll (revert : Bool) (tokens : List DbTokenRec) (m : Nat → UInt8) :
    Image revert tokens m
      (storeAll (store (store m 0xC0 (List.replicate 32640 0x55)) 0xBE (be16 GP_MAX_TICKET_BOUND))
        (tokens.map fun t => (place t, record revert t))) := by
  have hlen : (List.replicate 32640 (0x55 : UInt8)).length = 32640 := List.length_replicate
  have hbe : (be16 GP_MAX_TICKET_BOUND).length = 2 := rfl
  refine ⟨?_, ?_, ?_, ?_⟩
  · intro pre t post hsplit hap
    have hlast : ∀ w ∈ post.map fun t' => (place t', record revert t'),
        place t + (record revert t).length ≤ w.1 ∨ w.1 + w.2.length ≤ place t := by
      intro w hw
      obtain ⟨t', ht', rfl⟩ := List.mem_map.mp hw
      rw [length_record, length_record]
      exact (hap t' ht').symm
    have hload := load_storeAll_last
      (store (store m 0xC0 (List.replicate 32640 0x55)) 0xBE (be16 GP_MAX_TICKET_BOUND))
      (pre.map fun t' => (place t', record revert t')) hlast
    rw [length_record] at hload
    rw [hsplit, List.map_append, List.map_cons]
    exact slotOf_record hload
  · intro i hlo hhi hi
    rw [storeAll_beside (uncovered_beside hi), store_ge (by rw [hbe]; omega),
      store_replicate hlo (by omega)]
  · intro hplace
    have hbeside : ∀ w ∈ tokens.map fun t => (place t, record revert t),
        0xBE + 2 ≤ w.1 ∨ w.1 + w.2.length ≤ 0xBE := by
      intro w hw
      obtain ⟨t, ht, rfl⟩ := List.mem_map.mp hw
      exact .inl (hplace t ht)
    have hown := load_store_append (store m 0xC0 (List.replicate 32640 0x55)) 0xBE
      (be16 GP_MAX_TICKET_BOUND) []
    rw [List.append_nil] at hown
    rw [load_storeAll_beside hbeside]
    exact hown
  · intro i hout hi
    rw [storeAll_beside (uncovered_beside hi)]
    rcases hout with hbelow | habove
    · rw [store_lt hbelow, store_lt (by omega)]
    · rw [store_ge (by rw [hbe]; omega), store_ge (by rw [hlen]; omega)]

/-- A controller cleared and then loaded. -/
def clearAndReload (dev : Nat) (tokens : List DbTokenRec) (h : Host) : Host :=
  (cmdReloadDev dev tokens (cmdClearDev dev h).1).1

/-- Its commands, as they come to stand in the queue. -/
def queuedBoth (dev : Nat) (tokens : List DbTokenRec) (h : Host) : List CmdSend :=
  (clearAndReload dev tokens h).gpHead.drop h.gpHead.length

theorem queuedBoth_eq {dev : Nat} {tokens : List DbTokenRec} {h : Host}
    (hmem : AllocatesNext (687 + (2 * tokens.length + 2)) h) :
    queuedBoth dev tokens h =
      clearCmds dev ++ reloadCmds dev (h.devices dev).cidRevert tokens := by
  obtain ⟨hclear, hroom, hrev⟩ := cmdClearDev_queues dev hmem
  have q := cmdReloadDev_enqueued dev tokens hroom
  rw [hrev] at q
  have hload := (q.first fun z hz => decide_eq_true (reloadCmds_first _ _ _ z hz)).1
  rw [queuedBoth, clearAndReload, hload, hclear, List.append_assoc, List.drop_left]

/-- The command writes in the card memory of that bank. -/
def writesCards (d bank : UInt8) (z : CmdSend) : Bool := (writeIn d bank (packet z)).isSome

theorem written_filter (d bank : UInt8) (zs : List CmdSend) :
    written d bank (zs.filter (writesCards d bank)) = written d bank zs := by
  induction zs with
  | nil => rfl
  | cons z zs ih =>
    cases hz : writeIn d bank (packet z) with
    | none =>
      have hno : ¬ writesCards d bank z = true := by simp [writesCards, hz]
      rw [List.filter_cons_of_neg hno, ih, written, written, List.filterMap_cons, hz]
    | some w =>
      have hyes : writesCards d bank z = true := by simp [writesCards, hz]
      have ih' : (zs.filter (writesCards d bank)).filterMap (fun z => writeIn d bank (packet z)) =
          zs.filterMap fun z => writeIn d bank (packet z) := ih
      rw [List.filter_cons_of_pos hyes, written, written, List.filterMap_cons, List.filterMap_cons,
        hz, ih']

/-- Sent among what writes nothing in the bank, some commands have written theirs. -/
theorem remembers_sent {d bank : UInt8} {sent zs : List CmdSend}
    (hsent : sent.filter (writesCards d bank) = zs.filter (writesCards d bank)) (m : Nat → UInt8) :
    remembers d bank (line sent) m = storeAll m (written d bank zs) := by
  rw [remembers_line, ← written_filter, hsent, written_filter]

/-- **Clearing and loading a controller leaves the cards of the database and nothing
else.** The commands queued may be sent among any others, to that controller or to
others, as long as these write nothing in the card memory of the bank. Whoever stores
what he hears on the line has in either bank, whatever it held, just the image of the
cards. -/
theorem clear_reload_image {dev : Nat} {tokens : List DbTokenRec} {h : Host} {sent : List CmdSend}
    {bank : UInt8} (hmem : AllocatesNext (687 + (2 * tokens.length + 2)) h)
    (hbank : bank = 0 ∨ bank = 1)
    (hsent : sent.filter (writesCards (UInt8.ofNat dev) bank) =
      (queuedBoth dev tokens h).filter (writesCards (UInt8.ofNat dev) bank))
    (m : Nat → UInt8) :
    Image (h.devices dev).cidRevert tokens m
      (remembers (UInt8.ofNat dev) bank (line sent) m) := by
  rw [queuedBoth_eq hmem] at hsent
  rw [remembers_sent hsent, storeAll_clear_reload hbank]
  exact image_of_storeAll ..

/-- With a poll of another controller in front. -/
theorem clear_reload_one_card :
    Image false [⟨5, 0, 0xFF, 0xC8, 1⟩] (fun _ => 0) (remembers 1 1 (line (pollCmd 2 ::
      queuedBoth 1 [⟨5, 0, 0xFF, 0xC8, 1⟩] (boot workingWorld Db.empty))) fun _ => 0) := by
  have hpoll : ¬ writesCards 1 1 (pollCmd 2) = true := by decide
  exact @clear_reload_image 1 _ (boot workingWorld Db.empty) _ 1 (fun _ _ => rfl) (.inr rfl)
    (List.filter_cons_of_neg hpoll) fun _ => 0

end Libgate.CardImage
