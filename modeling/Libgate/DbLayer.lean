import Libgate.Basic

/-! `db_layer.c`. Each Berkeley DB call either does its work or fails and
leaves its table alone; the outcome is an argument where a caller can see the
difference, and success where none is given. `db_sync` has no effect here. -/

namespace Libgate.DbLayer

/-- `db_get_cid_by_a`. A failed get and a missing key both give 0. -/
def dbGetCidByA (db : Db) (addr : UInt32) (fails : Bool := false) : UInt64 :=
  if fails then 0 else (db.mapping.lookup addr).getD 0

/-- `db_get_token_by_c` -/
def dbGetTokenByC (db : Db) (cid : UInt64) : Option DbTokenRec := db.token.lookup cid

/-- `db_get_token_by_a` -/
def dbGetTokenByA (db : Db) (addr : UInt32) : Option DbTokenRec :=
  dbGetTokenByC db (dbGetCidByA db addr)

/-- Which of the three Berkeley DB calls of `db_add_token` fail. -/
structure AddTokenFaults where
  getMapping : Bool := false
  putToken : Bool := false
  putMapping : Bool := false

/-- The conflict check: the slot belongs to another card. -/
def dbConflict (db : Db) (rec : DbTokenRec) (fails : Bool := false) : Bool :=
  let cid := dbGetCidByA db rec.addr fails
  cid != 0 && cid != rec.cid

/-- `db_add_token`: the tables, the record with its `zone_mask` set, and the
returned flag. -/
def dbAddToken (db : Db) (rec : DbTokenRec) (f : AddTokenFaults := {}) : Db × DbTokenRec × Int :=
  if dbConflict db rec f.getMapping then (db, rec, 0)
  else
    let t := { rec with zoneMask := 1 }
    if f.putToken then (db, t, 0)
    else
      let db := { db with token := db.token.insert t.cid t }
      if f.putMapping then (db, t, 0)
      else ({ db with mapping := db.mapping.insert t.addr t.cid }, t, 1)

/-- `db_get_max_addr`. The cursor shows the first two bytes of each key, the
low half of the address on this host. -/
def dbGetMaxAddr (db : Db) : Nat :=
  db.mapping.keys.foldl (fun a k => max a k.toUInt16.toNat)
    (GP_START_TICKET_BOUND.toNat - sizeofTokenRec)

/-- The stored records. The cursor of `db_get_next_token` comes to each once, in
the order of the keys' bytes. -/
def dbTokens (db : Db) : List DbTokenRec := db.token.entries.map Sigma.snd

/-- `db_add_param`, the put always succeeding. -/
def dbAddParam (db : Db) (k : DbParamKey) (d : DbParamValue) : Db :=
  { db with param := db.param.insert k d }

/-- `db_add_param_rule` -/
def dbAddParamRule (db : Db) (ruleId : UInt16) (zoneId scheduleMask : UInt8) : Db :=
  dbAddParam db (.rule ruleId zoneId) (.rule scheduleMask)

/-- `db_add_param_sched`. The slot number is cut to a byte in the key. -/
def dbAddParamSched (db : Db) (zoneId : UInt8) (d : AdSchedRec) : Db :=
  dbAddParam db (.sched zoneId (UInt8.ofInt d.num)) (.sched d)

/-! ## What one addition does -/

theorem dbConflict_iff (db : Db) (rec : DbTokenRec) :
    dbConflict db rec = true ↔ dbGetCidByA db rec.addr ≠ 0 ∧ dbGetCidByA db rec.addr ≠ rec.cid := by
  simp [dbConflict]

theorem dbAddToken_conflict {db : Db} {rec : DbTokenRec} (h : dbConflict db rec = true) :
    dbAddToken db rec = (db, rec, 0) := by simp [dbAddToken, h]

theorem dbAddToken_ok {db : Db} {rec : DbTokenRec} (h : dbConflict db rec = false) :
    dbAddToken db rec =
      ({ db with token := db.token.insert rec.cid { rec with zoneMask := 1 }
                 mapping := db.mapping.insert rec.addr rec.cid },
        { rec with zoneMask := 1 }, 1) := by
  simp [dbAddToken, h]

/-! ## What is never lost -/

/-- Each record has its card's number, the slot at its address is its own if the
card has a number, and every card that has a slot is stored. -/
structure Housed (db : Db) : Prop where
  number : ∀ cid t, dbGetTokenByC db cid = some t → t.cid = cid
  slot : ∀ cid t, cid ≠ 0 → dbGetTokenByC db cid = some t → dbGetCidByA db t.addr = cid
  known : ∀ addr, dbGetCidByA db addr ≠ 0 → (dbGetTokenByA db addr).isSome = true

/-- Where there is no conflict the slot is free or the card's own. -/
theorem slot_of_no_conflict {db : Db} {rec : DbTokenRec} (hc : dbConflict db rec = false)
    (hne : dbGetCidByA db rec.addr ≠ 0) : dbGetCidByA db rec.addr = rec.cid := by
  by_contra hn
  rw [(dbConflict_iff db rec).mpr ⟨hne, hn⟩] at hc
  cases hc

theorem Housed.addToken {db : Db} (hh : Housed db) (rec : DbTokenRec) :
    Housed (dbAddToken db rec).1 := by
  cases hc : dbConflict db rec with
  | true =>
    rw [dbAddToken_conflict hc]
    exact hh
  | false =>
    rw [dbAddToken_ok hc]
    refine ⟨?_, ?_, ?_⟩
    · intro cid t ht
      change AList.lookup cid (AList.insert rec.cid _ db.token) = some t at ht
      by_cases heq : cid = rec.cid
      · rw [heq, AList.lookup_insert] at ht
        rw [heq, ← Option.some.inj ht]
      · rw [AList.lookup_insert_ne heq] at ht
        exact hh.number cid t ht
    · intro cid t hne ht
      change AList.lookup cid (AList.insert rec.cid _ db.token) = some t at ht
      change (AList.lookup t.addr (AList.insert rec.addr rec.cid db.mapping)).getD 0 = cid
      by_cases heq : cid = rec.cid
      · rw [heq, AList.lookup_insert] at ht
        rw [← Option.some.inj ht, heq, AList.lookup_insert, Option.getD_some]
      · rw [AList.lookup_insert_ne heq] at ht
        have hown := hh.slot cid t hne ht
        have haddr : t.addr ≠ rec.addr := by
          -- the slot of another card would have been a conflict
          intro hsame
          rw [hsame] at hown
          exact heq (hown.symm.trans (slot_of_no_conflict hc (by rw [hown]; exact hne)))
        rw [AList.lookup_insert_ne haddr]
        exact hown
    · intro addr hne
      change (AList.lookup addr (AList.insert rec.addr rec.cid db.mapping)).getD 0 ≠ 0 at hne
      change (AList.lookup ((AList.lookup addr (AList.insert rec.addr rec.cid db.mapping)).getD 0)
        (AList.insert rec.cid _ db.token)).isSome = true
      by_cases heq : addr = rec.addr
      · rw [heq, AList.lookup_insert, Option.getD_some, AList.lookup_insert, Option.isSome_some]
      · rw [AList.lookup_insert_ne heq] at hne ⊢
        by_cases hcid : (AList.lookup addr db.mapping).getD 0 = rec.cid
        · rw [hcid, AList.lookup_insert, Option.isSome_some]
        · rw [AList.lookup_insert_ne hcid]
          exact hh.known addr hne

/-- No card is forgotten, no slot that a card has goes to another one, and the cards
stay in their slots. -/
structure Grows (db db' : Db) : Prop where
  token : ∀ cid, (dbGetTokenByC db cid).isSome = true → (dbGetTokenByC db' cid).isSome = true
  slot : ∀ addr, dbGetCidByA db addr ≠ 0 → dbGetCidByA db' addr = dbGetCidByA db addr
  housed : Housed db → Housed db'

namespace Grows
variable {db db' db'' : Db}

theorem refl (db : Db) : Grows db db := ⟨fun _ h => h, fun _ _ => rfl, id⟩

theorem ofEq (h : db' = db) : Grows db db' := h ▸ refl db

/-- The schedules and rules are not cards. -/
theorem ofCards (ht : db'.token = db.token) (hm : db'.mapping = db.mapping) : Grows db db' := by
  obtain ⟨token, mapping, param⟩ := db'
  subst ht hm
  exact ⟨fun _ h => h, fun _ _ => rfl, fun hh => ⟨hh.number, hh.slot, hh.known⟩⟩

theorem trans (g : Grows db db') (g' : Grows db' db'') : Grows db db'' := by
  refine ⟨fun cid h => g'.token cid (g.token cid h), ?_, fun hh => g'.housed (g.housed hh)⟩
  intro addr hne
  have hsame := g.slot addr hne
  rw [g'.slot addr (by rw [hsame]; exact hne), hsame]

theorem addToken (db : Db) (rec : DbTokenRec) : Grows db (dbAddToken db rec).1 := by
  cases hc : dbConflict db rec with
  | true =>
    rw [dbAddToken_conflict hc]
    exact refl db
  | false =>
    have hhoused := fun hh : Housed db => hh.addToken rec
    rw [dbAddToken_ok hc] at hhoused ⊢
    refine ⟨?_, ?_, hhoused⟩
    · intro cid h
      change (AList.lookup cid (AList.insert rec.cid _ db.token)).isSome = true
      by_cases heq : cid = rec.cid
      · rw [heq, AList.lookup_insert, Option.isSome_some]
      · rw [AList.lookup_insert_ne heq]
        exact h
    · intro addr hne
      change (AList.lookup addr (AList.insert rec.addr rec.cid db.mapping)).getD 0 = _
      by_cases heq : addr = rec.addr
      · -- no conflict: the slot is the card's own already
        rw [heq] at hne ⊢
        rw [slot_of_no_conflict hc hne, AList.lookup_insert, Option.getD_some]
      · rw [AList.lookup_insert_ne heq]
        rfl

end Grows

/-- A card that is added without a conflict is stored. -/
theorem dbAddToken_stored {db : Db} {rec : DbTokenRec} (hc : dbConflict db rec = false) :
    (dbGetTokenByC (dbAddToken db rec).1 rec.cid).isSome = true := by
  rw [dbAddToken_ok hc]
  change (AList.lookup rec.cid (AList.insert rec.cid _ db.token)).isSome = true
  rw [AList.lookup_insert, Option.isSome_some]

end Libgate.DbLayer
