import Libgate.CardAtomicity
import Libgate.CardImage

/-! What an addition comes to. `cmd_add_cid_to_all` queues commands for each active
controller; followed over the line into the memories of the controllers, they are
one record in each of them, and the bound above it where it was not. -/

namespace Libgate.CardAdded
open Lib.Memory DbLayer Send Target Cmd Layer HostFrame Queueing CardAtomicity Wire CardImage
open Reload (slotOf slotOf_record length_tokenRecBytes)

/-! ## The writes of one controller -/

section Writes
variable {rec : ProcAddCid} {h : Host} {d : Nat} {bank : UInt8}

/-- The record of the card for controller `d`. -/
def cardBytes (rec : ProcAddCid) (h : Host) (d : Nat) : List UInt8 :=
  tokenRecBytes rec.token.cid rec.token.attr rec.token.scheduleMask (h.devices d).cidRevert

/-- Where the memory of `d` is written for a card at `addr`. -/
def addWrites (rec : ProcAddCid) (h : Host) (d : Nat) (addr : UInt16) : List (Nat × List UInt8) :=
  (addr.toNat, cardBytes rec h d) ::
    if (h.devices d).boundToken ≤ addr then [(0xBE, be16 (addr + 8))] else []

theorem written_addCmds (hbank : bank = 0 ∨ bank = 1) :
    written (UInt8.ofNat rec.dev) bank (addCmds rec h) = addWrites rec h rec.dev (cmdAddr rec h) := by
  have hlen : (cardBytes rec h rec.dev).length = 8 * 1 := length_tokenRecBytes ..
  have hcard := written_pair (adSetTokenCmd_writes AD_Q_SECOND rec.dev (cmdAddr rec h)
    (Nat.le_of_ble_eq_true rfl) hlen) hbank
  have hbound := written_pair (boundCmd_writes AD_Q_SECOND rec.dev (cmdAddr rec h + 8)) hbank
  rw [cardBytes] at hcard
  rw [addCmds, written_append, cidCmds, boundCmds, addWrites, hcard]
  split
  · rw [hbound]
    rfl
  · rfl

theorem addCmds_dst (rec : ProcAddCid) (h : Host) :
    ∀ z ∈ addCmds rec h, z.dst = UInt8.ofNat rec.dev := by
  intro z hz
  simp only [addCmds, cidCmds, boundCmds, List.mem_append, List.mem_cons, List.not_mem_nil,
    or_false] at hz
  rcases hz with (rfl | rfl) | hz
  · rfl
  · rfl
  · split at hz
    · simp only [List.mem_cons, List.not_mem_nil, or_false] at hz
      rcases hz with rfl | rfl
      · rfl
      · rfl
    · cases hz

/-- Of the commands for all a controller takes its own. -/
theorem written_loopCmds (hbank : bank = 0 ∨ bank = 1) {ns : List Nat} (hn : ns.Nodup)
    (hle : ∀ i ∈ ns, i ≤ 255) (hd : d ∈ ns) (hact : (h.devices d).activ) :
    written (UInt8.ofNat d) bank (loopCmds rec h ns) =
      addWrites { rec with dev := d } h d (cmdAddr { rec with dev := d } h) := by
  induction ns with
  | nil => cases hd
  | cons i ns ih =>
    obtain ⟨hi, hns⟩ := List.nodup_cons.mp hn
    have hsplit : loopCmds rec h (i :: ns) =
        (if (h.devices i).activ then addCmds { rec with dev := i } h else []) ++ loopCmds rec h ns := rfl
    have hrest : ∀ j ∈ ns, j ≤ 255 := fun j hj => hle j (List.mem_cons_of_mem _ hj)
    have hother : ∀ j k, j ≤ 255 → k ≤ 255 → j ≠ k → UInt8.ofNat j ≠ UInt8.ofNat k := by
      intro j k hj hk hne he
      have hnat := congrArg UInt8.toNat he
      rw [UInt8.toNat_ofNat_of_lt' (Nat.lt_succ_of_le hj),
        UInt8.toNat_ofNat_of_lt' (Nat.lt_succ_of_le hk)] at hnat
      exact hne hnat
    rw [hsplit, written_append]
    rcases List.mem_cons.mp hd with rfl | hd
    · -- the rest is for others
      have hnone : written (UInt8.ofNat d) bank (loopCmds rec h ns) = [] := by
        refine written_elsewhere ?_
        intro z hz
        obtain ⟨j, hj, hz⟩ := List.mem_flatMap.mp hz
        split at hz
        · have hdst : z.dst = UInt8.ofNat j := addCmds_dst _ h z hz
          rw [hdst]
          exact hother j d (hrest j hj) (hle d List.mem_cons_self) fun he => hi (he ▸ hj)
        · cases hz
      rw [hnone, List.append_nil, if_pos hact]
      exact @written_addCmds { rec with dev := d } h bank hbank
    · have hne : i ≠ d := fun he => hi (he ▸ hd)
      have hnone : written (UInt8.ofNat d) bank
          (if (h.devices i).activ then addCmds { rec with dev := i } h else []) = [] := by
        refine written_elsewhere ?_
        intro z hz
        split at hz
        · have hdst : z.dst = UInt8.ofNat i := addCmds_dst _ h z hz
          rw [hdst]
          exact hother i d (hle i List.mem_cons_self) (hrest d hd) hne
        · cases hz
      rw [hnone, List.nil_append]
      exact ih hns hrest hd

end Writes

/-! ## The memory -/

/-- A bank that was `m` before the card `t` was added at `addr`, the bound being
taken for `bound`. -/
structure Added (revert : Bool) (t : DbTokenRec) (addr bound : UInt16) (m m' : Nat → UInt8) : Prop where
  card : slotOf m' addr.toNat revert = (t.cid % 0x1000000000000, t.attr, t.scheduleMask)
  bound : load m' 0xBE 2 = if bound ≤ addr then be16 (addr + 8) else load m 0xBE 2
  rest : ∀ i, i < 0xBE ∨ 0xC0 ≤ i → i < addr.toNat ∨ addr.toNat + 8 ≤ i → m' i = m i

theorem added_of_storeAll {rec : ProcAddCid} {h : Host} {d : Nat} {addr : UInt16}
    (ha : 0xC0 ≤ addr.toNat) (m : Nat → UInt8) :
    Added (h.devices d).cidRevert rec.token addr (h.devices d).boundToken m
      (storeAll m (addWrites rec h d addr)) := by
  have hlen : (cardBytes rec h d).length = 8 := length_tokenRecBytes ..
  have hcard : load (store m addr.toNat (cardBytes rec h d)) addr.toNat 8 = cardBytes rec h d := by
    have hown := load_store_append m addr.toNat (cardBytes rec h d) []
    rwa [List.append_nil, hlen] at hown
  have hbe : ∀ a : UInt16, (be16 a).length = 2 := fun _ => rfl
  unfold addWrites
  split
  · next hle =>
    change Added _ _ _ _ m (store (store m addr.toNat (cardBytes rec h d)) 0xBE (be16 (addr + 8)))
    refine ⟨?_, ?_, ?_⟩
    · refine slotOf_record ?_
      rw [load_store_beside (.inr (by rw [hbe]; omega))]
      exact hcard
    · rw [if_pos hle]
      have hown := load_store_append (store m addr.toNat (cardBytes rec h d)) 0xBE (be16 (addr + 8)) []
      rwa [List.append_nil] at hown
    · intro i hout hi
      have hcell : store (store m addr.toNat (cardBytes rec h d)) 0xBE (be16 (addr + 8)) i =
          store m addr.toNat (cardBytes rec h d) i :=
        hout.elim store_lt fun hge => store_ge (by rw [hbe]; omega)
      rw [hcell]
      exact hi.elim store_lt fun hge => store_ge (by rw [hlen]; omega)
  · next hlt =>
    change Added _ _ _ _ m (store m addr.toNat (cardBytes rec h d))
    refine ⟨slotOf_record hcard, ?_, ?_⟩
    · rw [if_neg hlt, load_store_of_le (by omega)]
    · intro i _ hi
      exact hi.elim store_lt fun hge => store_ge (by rw [hlen]; omega)

/-! ## The call -/

/-- What `cmd_add_cid_to_all` queues. -/
def queuedToAll (rec : ProcAddCid) (h : Host) : List CmdSend :=
  (cmdAddCidToAll rec h).1.gpHead2.drop h.gpHead2.length

section ToAll
variable {rec : ProcAddCid} {h : Host} {d : Nat} {bank : UInt8}

theorem toAll_queues (hmem : AllocatesNext (4 * h.maxDevN) h) (hr : (cmdAddCidToAll rec h).2 = 1) :
    (cmdAddCidToAll rec h).1.gpHead2 = h.gpHead2 ++ queuedToAll rec h := by
  have happ := toAll_appends hmem (toAll_result.mp hr)
  rw [queuedToAll, happ.gpHead2, List.drop_left]

/-- What it comes to for one controller. -/
theorem written_queuedToAll (hmem : AllocatesNext (4 * h.maxDevN) h) (hn : h.maxDevN ≤ 255)
    (hr : (cmdAddCidToAll rec h).2 = 1) (hd : d ∈ devNums h) (hact : (h.devices d).activ)
    (hbank : bank = 0 ∨ bank = 1) : written (UInt8.ofNat d) bank (queuedToAll rec h) =
      addWrites (callFor rec h d) h d (wireAddr rec h d) := by
  have hle : ∀ i ∈ devNums h, i ≤ 255 := by
    intro i hi
    have hlt := (List.mem_range'_1.mp hi).2
    omega
  have hqueued : queuedToAll rec h =
      loopCmds { rec with token := tokenToStore rec h } h (devNums h) := by
    rw [queuedToAll, (toAll_appends hmem (toAll_result.mp hr)).gpHead2, List.drop_left]
  rw [hqueued]
  exact @written_loopCmds { rec with token := tokenToStore rec h } h d bank hbank
    (devNums h) (devNums_nodup h) hle hd hact

end ToAll

/-- **An added card is in the memory of every active controller.** When
`cmd_add_cid_to_all` returns 1, there is memory for its commands, at most four for each
controller, and what it has queued is sent among whatever else writes nothing in the
card memory of the bank, each active controller has in either bank the record at the
address it was given, the bound above it where it did not reach so far, and all else
as it was. -/
theorem added_card_reaches {rec : ProcAddCid} {h : Host} {d : Nat} {bank : UInt8}
    {sent : List CmdSend} (hmem : AllocatesNext (4 * h.maxDevN) h) (hn : h.maxDevN ≤ 255)
    (hr : (cmdAddCidToAll rec h).2 = 1) (hd : d ∈ devNums h) (hact : (h.devices d).activ)
    (haddr : 0xC0 ≤ (wireAddr rec h d).toNat) (hbank : bank = 0 ∨ bank = 1)
    (hsent : sent.filter (writesCards (UInt8.ofNat d) bank) =
      (queuedToAll rec h).filter (writesCards (UInt8.ofNat d) bank)) (m : Nat → UInt8) :
    Added (h.devices d).cidRevert (tokenToStore rec h) (wireAddr rec h d) (h.devices d).boundToken m
      (remembers (UInt8.ofNat d) bank (line sent) m) := by
  rw [remembers_sent hsent, written_queuedToAll hmem hn hr hd hact hbank]
  exact @added_of_storeAll (callFor rec h d) h d (wireAddr rec h d) haddr m

/-- A card at 0xC8, for a controller whose bound has not been set. -/
theorem added_card_at_one :
    Added false (cardAt 0xC8).token 0xC8 0 (fun _ => 0)
      (remembers 1 0 (line (queuedToAll (cardAt 0xC8) oneController)) fun _ => 0) := by
  have haddr : wireAddr (cardAt 0xC8) oneController 1 = 0xC8 := by decide
  have htoken : tokenToStore (cardAt 0xC8) oneController = (cardAt 0xC8).token := by decide
  have hadded := @added_card_reaches (cardAt 0xC8) oneController 1 0 _ (fun _ _ => rfl) (by decide)
    (by decide) (by decide) (by decide) (by decide) (.inl rfl) rfl fun _ => 0
  rw [haddr, htoken] at hadded
  exact hadded

end Libgate.CardAdded
