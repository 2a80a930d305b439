import Libgate.HostFrame
import Libgate.Lib.Run

/-! The token addresses handed out from `gp_cfg.max_bound_token`. An address is
free when the bound lies a record's size above every mapped address. The bound
is raised only by `cmd_add_cid`, for an active controller whose own bound the
address reaches; when an address is taken and no controller is like that, the
next card gets the same address. -/

namespace Libgate.AddressAllocator
open Lib DbLayer Send Cmd Processor Layer HostFrame

/-! ## The global bound and the database -/

/-- Every mapped address lies a record below the global bound. -/
def FreeAbove (h : Host) : Prop :=
  ∀ a c, h.db.mapping.lookup a = some c → a.toNat + sizeofTokenRec ≤ h.maxBoundToken.toNat

structure Allocating (h : Host) : Prop where
  free : FreeAbove h
  start : GP_START_TICKET_BOUND.toNat ≤ h.maxBoundToken.toNat

theorem FreeAbove.unmapped {h : Host} (hf : FreeAbove h) :
    h.db.mapping.lookup h.maxBoundToken.toUInt32 = none := by
  cases hl : h.db.mapping.lookup h.maxBoundToken.toUInt32 with
  | none => rfl
  | some c =>
    have := hf _ _ hl
    rw [UInt16.toNat_toUInt32, sizeofTokenRec] at this
    omega

/-- A card at the global bound meets no conflict. -/
theorem FreeAbove.no_conflict {h : Host} (hf : FreeAbove h) {t : DbTokenRec}
    (ht : t.addr = h.maxBoundToken.toUInt32) : dbConflict h.db t = false := by
  have hc : dbGetCidByA h.db t.addr = 0 := by rw [ht]; simp [dbGetCidByA, hf.unmapped]
  simp [dbConflict, hc]

theorem Allocating.mono {h h' : Host} (ha : Allocating h) (hdb : h'.db = h.db)
    (hle : h.maxBoundToken.toNat ≤ h'.maxBoundToken.toNat) : Allocating h' := by
  refine ⟨?_, le_trans ha.start hle⟩
  intro a c hl
  rw [hdb] at hl
  exact le_trans (ha.free a c hl) hle

/-! ## Raising the bound -/

theorem cmdAddCid_maxBoundToken_le (rec : ProcAddCid) (h : Host) :
    h.maxBoundToken.toNat ≤ (cmdAddCid rec h).1.maxBoundToken.toNat := by
  cases hc : cmdConflict rec h with
  | true => rw [cmdAddCid_conflict hc]; exact le_refl _
  | false =>
    rw [(cmdAddCid_ok hc).2.maxBoundToken]
    split
    · rw [toNat_max]; exact le_max_left ..
    · exact le_refl _

theorem addCidLoop_maxBoundToken_le (rec : ProcAddCid) (ns : List Nat) (h : Host) :
    h.maxBoundToken.toNat ≤ (addCidLoop rec ns h).1.maxBoundToken.toNat :=
  addCidLoop_rel (R := fun h h' => h.maxBoundToken.toNat ≤ h'.maxBoundToken.toNat)
    (fun _ => le_refl _) (fun h1 h2 => le_trans h1 h2) rec (fun _ _ => cmdAddCid_maxBoundToken_le _ _) ns h

/-- The address is `a` on every controller, and the database gives it to the
card itself, so no controller meets a conflict. -/
structure Placed (rec : ProcAddCid) (a : UInt16) (h : Host) : Prop where
  addr : rec.token.addr = a.toUInt32
  start : GP_START_TICKET_BOUND.toNat ≤ a.toNat
  owner : dbGetCidByA h.db a.toUInt32 = rec.token.cid

theorem Placed.cmdAddr {rec : ProcAddCid} {a : UInt16} {h : Host} (hp : Placed rec a h) :
    cmdAddr rec h = a := by
  have : ¬ a < GP_START_TICKET_BOUND := by
    rw [UInt16.lt_iff_toNat_lt]; exact not_lt.mpr hp.start
  simp [Cmd.cmdAddr, hp.addr, this]

theorem Placed.no_conflict {rec : ProcAddCid} {a : UInt16} {h : Host} (hp : Placed rec a h) :
    cmdConflict rec h = false := by
  simp [cmdConflict, hp.cmdAddr, hp.owner]

/-- The controller is active and its own bound lies at or below the address. -/
def Reached (a : UInt16) (h : Host) (d : Nat) : Prop :=
  (h.devices d).activ = true ∧ (h.devices d).boundToken ≤ a

/-- One controller reached is enough for the loop to raise the global bound. -/
theorem addCidLoop_raises {rec : ProcAddCid} {a : UInt16} {ns : List Nat} {h : Host}
    (hp : Placed rec a h) {d : Nat} (hd : d ∈ ns) (hr : Reached a h d) :
    (a + 8).toNat ≤ (addCidLoop rec ns h).1.maxBoundToken.toNat := by
  induction ns generalizing h with
  | nil => cases hd
  | cons i ns ih =>
    have hpi : Placed { rec with dev := i } a h := ⟨hp.addr, hp.start, hp.owner⟩
    have hadd := (cmdAddCid_ok hpi.no_conflict).2
    rw [hpi.cmdAddr] at hadd
    have hp' : Placed rec a (cmdAddCid { rec with dev := i } h).1 :=
      ⟨hp.addr, hp.start, by rw [hadd.db]; exact hp.owner⟩
    by_cases hi : i = d
    · subst hi
      rw [addCidLoop_next hr.1 hpi.no_conflict]
      refine le_trans ?_ (addCidLoop_maxBoundToken_le ..)
      rw [hadd.maxBoundToken, if_pos hr.2, toNat_max]
      exact le_max_right ..
    · have hd' : d ∈ ns := (List.mem_cons.mp hd).resolve_left fun he => hi he.symm
      cases ha : (h.devices i).activ with
      | true =>
        rw [addCidLoop_next ha hpi.no_conflict]
        refine ih hp' hd' ?_
        unfold Reached
        rw [cmdAddCid_devices_ne (Ne.symm hi)]
        exact hr
      | false =>
        rw [addCidLoop_skip ha]
        exact ih hp hd' hr

/-- A card put at the global bound leaves the allocator ready for the next
one, if some controller is reached. -/
theorem Allocating.add {h : Host} (ha : Allocating h) (hmax : h.maxBoundToken ≤ 0x7FF0)
    {t : DbTokenRec} (ht : t.addr = h.maxBoundToken.toUInt32) (h1 : Host) (rec : ProcAddCid)
    (hdb : h1.db = (dbAddToken h.db t).1) (hdev : h1.devices = h.devices)
    (hbound : h1.maxBoundToken = h.maxBoundToken) (hrec : rec.token = (dbAddToken h.db t).2.1)
    {ns : List Nat} {d : Nat} (hd : d ∈ ns) (hr : Reached h.maxBoundToken h d) :
    Allocating (addCidLoop rec ns h1).1 := by
  rw [dbAddToken_ok (ha.free.no_conflict ht)] at hdb hrec
  have hp : Placed rec h.maxBoundToken h1 := by
    refine ⟨by rw [hrec]; exact ht, ha.start, ?_⟩
    rw [hdb, ← ht, hrec]
    simp [dbGetCidByA]
  have hraise := addCidLoop_raises hp hd (by rw [Reached, hdev]; exact hr)
  have hle := addCidLoop_maxBoundToken_le rec ns h1
  rw [hbound] at hle
  have h8 : (h.maxBoundToken + 8).toNat = h.maxBoundToken.toNat + 8 := by
    have : h.maxBoundToken.toNat ≤ 0x7FF0 := hmax
    rw [UInt16.toNat_add, Nat.mod_eq_of_lt]
    · rfl
    · change h.maxBoundToken.toNat + 8 < 65536
      omega
  rw [h8] at hraise
  refine ⟨?_, le_trans ha.start hle⟩
  intro a c hl
  rw [addCidLoop_db, hdb] at hl
  by_cases hat : a = t.addr
  · rw [hat, ht, UInt16.toNat_toUInt32]
    exact hraise
  · rw [AList.lookup_insert_ne hat] at hl
    exact le_trans (ha.free a c hl) hle

/-! ## The start -/

theorem foldl_max_le_iff {α : Type} {f : α → Nat} {l : List α} {b n : Nat} :
    l.foldl (fun a k => max a (f k)) b ≤ n ↔ b ≤ n ∧ ∀ k ∈ l, f k ≤ n := by
  induction l generalizing b with
  | nil => simp
  | cons k l ih => rw [List.foldl_cons, ih, Nat.max_le, List.forall_mem_cons, and_assoc]

/-- `db_get_max_addr` is the least bound of what the cursor shows, from the slot
before the token memory on. -/
theorem dbGetMaxAddr_le_iff {db : Db} {n : Nat} : dbGetMaxAddr db ≤ n ↔
    GP_START_TICKET_BOUND.toNat - sizeofTokenRec ≤ n ∧
      ∀ k ∈ db.mapping.keys, k.toUInt16.toNat ≤ n := foldl_max_le_iff

/-- `gp_init` puts the bound above all mapped addresses, as long as they are
16-bit addresses a record below the end. -/
theorem gpInit_allocating (w : World) (db : Db)
    (hdb : ∀ a c, db.mapping.lookup a = some c → a.toNat + sizeofTokenRec < 2 ^ 16) :
    Allocating (gpInit (boot w db)) := by
  have hkeys : ∀ k ∈ db.mapping.keys, k.toNat + sizeofTokenRec < 2 ^ 16 := by
    intro k hk
    obtain ⟨c, hc⟩ := Option.isSome_iff_exists.mp (AList.lookup_isSome.mpr (AList.mem_keys.mp hk))
    exact hdb k c hc
  have hcut : ∀ k ∈ db.mapping.keys, k.toUInt16.toNat = k.toNat := by
    intro k hk
    have hlt := hkeys k hk
    rw [UInt32.toNat_toUInt16]
    exact Nat.mod_eq_of_lt (by omega)
  have hmax : dbGetMaxAddr db ≤ 2 ^ 16 - 1 - sizeofTokenRec := by
    refine dbGetMaxAddr_le_iff.mpr ⟨by decide, ?_⟩
    intro k hk
    rw [hcut k hk]
    exact Nat.le_sub_of_add_le (Nat.le_pred_of_lt (hkeys k hk))
  have hb : (gpInit (boot w db)).maxBoundToken.toNat = dbGetMaxAddr db + sizeofTokenRec := by
    rw [gpInit_maxBoundToken, UInt16.toNat_ofNat']
    refine Nat.mod_eq_of_lt ?_
    change dbGetMaxAddr db + sizeofTokenRec < 65536
    simp only [sizeofTokenRec] at *
    omega
  obtain ⟨hstart, hle⟩ := dbGetMaxAddr_le_iff.mp (le_refl (dbGetMaxAddr db))
  constructor
  · intro a c hl
    rw [gpInit_db] at hl
    have hmem : a ∈ db.mapping.keys := by
      refine AList.mem_keys.mpr (AList.lookup_isSome.mp ?_)
      rw [show db.mapping.lookup a = some c from hl]
      rfl
    rw [hb, ← hcut a hmem]
    exact Nat.add_le_add_right (hle a hmem) _
  · rw [hb]
    exact Nat.le_add_of_sub_le hstart

/-! ## Runs -/

/-- What happens to the allocator: the two calls that take an address, a change
of the active controllers, a `GET_TOKEN_BOUND` reply, and a restart. -/
inductive AllocOp where
  | addTocken (inRec : AdTokenRec)
  | addCidToAll (rec : ProcAddCid)
  | setActive (on : Nat → Bool)
  | boundReply (m : ReceivMess)
  | restart (w : World)

/-- `cmd_add_cid_to_all` is called with `token.addr` 0. -/
def noAddr (rec : ProcAddCid) : ProcAddCid := { rec with token := { rec.token with addr := 0 } }

theorem cmdAddCidToAll_noAddr (rec : ProcAddCid) (h : Host) :
    cmdAddCidToAll (noAddr rec) h = addCidLoop
      { noAddr rec with token :=
          (dbAddToken h.db { rec.token with addr := h.maxBoundToken.toUInt32 }).2.1 }
      (devNums h)
      (addTokenLogged { rec.token with addr := h.maxBoundToken.toUInt32 } h).1 := rfl

def allocStep (op : AllocOp) (h : Host) : Host :=
  match op with
  | .addTocken inRec => (cmdAddTockenToAll inRec h).1
  | .addCidToAll rec => (cmdAddCidToAll (noAddr rec) h).1
  | .setActive on => { h with devices := fun i => { h.devices i with activ := on i } }
  | .boundReply m => tokenBoundReply m h
  | .restart w => gpInit (boot w h.db)

/-- The record for which the step calls `db_add_token` with an address taken
from the global bound. -/
def allocated (op : AllocOp) (h : Host) : Option DbTokenRec :=
  match op with
  | .addTocken inRec =>
    if (dbGetTokenByC h.db inRec.cid).isSome then none else some (newToken inRec h)
  | .addCidToAll rec => some { rec.token with addr := h.maxBoundToken.toUInt32 }
  | _ => none

/-- No address that is taken exceeds 0x7FF0. -/
def InRange (op : AllocOp) (h : Host) : Prop :=
  (allocated op h).isSome → h.maxBoundToken ≤ 0x7FF0

/-- A step that takes an address finds a controller that it reaches. -/
def Reaches (op : AllocOp) (h : Host) : Prop :=
  (allocated op h).isSome → ∃ d ∈ devNums h, Reached h.maxBoundToken h d

instance (op : AllocOp) (h : Host) : Decidable (InRange op h) :=
  inferInstanceAs (Decidable (_ → _ ≤ _))

instance (op : AllocOp) (h : Host) : Decidable (Reaches op h) :=
  inferInstanceAs (Decidable (_ → ∃ d ∈ devNums h, _ ∧ _))

/-- The address taken is free: a record's size above every mapped one, and the
conflict branch of `db_add_token` is not met. -/
def HandsOutFree (op : AllocOp) (h : Host) : Prop :=
  ∀ t, allocated op h = some t →
    (∀ a c, h.db.mapping.lookup a = some c → a.toNat + sizeofTokenRec ≤ t.addr.toNat) ∧
      dbConflict h.db t = false

theorem allocated_addr {op : AllocOp} {h : Host} {t : DbTokenRec}
    (ht : allocated op h = some t) : t.addr = h.maxBoundToken.toUInt32 := by
  cases op with
  | addTocken inRec =>
    simp only [allocated] at ht
    split at ht
    · cases ht
    · cases ht; rfl
  | addCidToAll rec => cases ht; rfl
  | _ => cases ht

theorem allocStep_allocating (op : AllocOp) (h : Host) (ha : Allocating h)
    (hc : InRange op h ∧ Reaches op h) : Allocating (allocStep op h) := by
  cases op with
  | addTocken inRec =>
    cases ht : dbGetTokenByC h.db inRec.cid with
    | some t =>
      simp only [allocStep, cmdAddTockenToAll, addTockenRec, ht]
      refine ha.mono ((addCidLoop_db ..).trans ?_) (le_trans ?_ (addCidLoop_maxBoundToken_le ..))
      · rfl
      · exact le_refl _
    | none =>
      have hal : (allocated (.addTocken inRec) h).isSome := by simp [allocated, ht]
      obtain ⟨d, hd, hr⟩ := hc.2 hal
      rw [allocStep, cmdAddTockenToAll_new ht]
      refine ha.add (hc.1 hal) (t := newToken inRec h) rfl _ _ ?_ ?_ ?_ ?_ hd hr <;> rfl
  | addCidToAll rec =>
    have hal : (allocated (.addCidToAll rec) h).isSome := rfl
    obtain ⟨d, hd, hr⟩ := hc.2 hal
    rw [allocStep, cmdAddCidToAll_noAddr]
    refine ha.add (hc.1 hal) (t := { rec.token with addr := h.maxBoundToken.toUInt32 }) rfl _ _
      ?_ ?_ ?_ ?_ hd hr <;> rfl
  | setActive on => exact ha.mono rfl (le_refl _)
  | boundReply m => exact ha.mono rfl (le_refl _)
  | restart w =>
    refine gpInit_allocating w h.db ?_
    intro a c hl
    exact lt_of_le_of_lt (ha.free a c hl) h.maxBoundToken.toNat_lt

/-- **The allocator hands out free slots while every address taken reaches a
controller.** From `gp_init` over a database with addresses between the start of
the token memory and 0x7000, in every run of additions, activity changes,
bound replies and restarts whose addresses stay at most 0x7FF0. -/
theorem allocator_hands_out_free (w : World) (db : Db) (ops : List AllocOp)
    (hdb : ∀ a c, db.mapping.lookup a = some c → 0x00C0 ≤ a.toNat ∧ a.toNat ≤ 0x7000)
    (hrange : Along allocStep InRange ops (gpInit (boot w db)))
    (hreach : Along allocStep Reaches ops (gpInit (boot w db))) :
    Along allocStep HandsOutFree ops (gpInit (boot w db)) := by
  have hstart := gpInit_allocating w db fun a c hl => by
    have := (hdb a c hl).2
    simp only [sizeofTokenRec]
    omega
  refine Along.mono_of_invariant allocStep_allocating ?_ hstart (hrange.and hreach)
  intro op h ha _ t ht
  have haddr := allocated_addr ht
  refine ⟨?_, ha.free.no_conflict haddr⟩
  intro a c hl
  rw [haddr, UInt16.toNat_toUInt32]
  exact ha.free a c hl

/-- Two cards with one controller found, and a third after a restart. -/
theorem allocator_one_controller :
    Along allocStep HandsOutFree
      [.setActive fun i => i == 1, .addTocken ⟨7, 0, 0xFF⟩, .addTocken ⟨9, 0, 0xFF⟩,
        .restart workingWorld, .setActive fun i => i == 1, .addTocken ⟨11, 0, 0xFF⟩]
      (gpInit (boot workingWorld Db.empty)) :=
  allocator_hands_out_free workingWorld Db.empty _ (fun a c hl => by simp [Db.empty] at hl)
    (by decide) (by decide)

/-- Without an active controller two cards in a row get the same address, and
the second is refused by the database. -/
theorem allocator_without_controller :
    ¬ ∀ (w : World) (db : Db) (ops : List AllocOp),
      (∀ a c, db.mapping.lookup a = some c → 0x00C0 ≤ a.toNat ∧ a.toNat ≤ 0x7000) →
      Along allocStep InRange ops (gpInit (boot w db)) →
      Along allocStep HandsOutFree ops (gpInit (boot w db)) := by
  intro hall
  have hrun := hall workingWorld Db.empty [.addTocken ⟨7, 0, 0xFF⟩, .addTocken ⟨9, 0, 0xFF⟩]
    (fun a c hl => by simp [Db.empty] at hl) (by decide)
  have hsecond := (hrun.2.1 ⟨9, 0, 0xFF, 0xC0, 0⟩ (by decide)).2
  revert hsecond; decide

end Libgate.AddressAllocator
