import Libgate.HostFrame

/-! Whether the rights `cmd_add_tocken_to_all` grants are in the database when
it returns 1. The branch for a known card never writes the database, and the
branch for a new card only logs a refused `db_add_token`; the result comes from
the loop over the active controllers, which stops at a conflict. -/

namespace Libgate.CardDurability
open DbLayer Cmd HostFrame

/-- The card is stored with the rights of the request. -/
def Stored (inRec : AdTokenRec) (db : Db) : Prop :=
  ∃ t, dbGetTokenByC db inRec.cid = some t ∧
    t.cid = inRec.cid ∧ t.attr = inRec.attr ∧ t.scheduleMask = inRec.scheduleMask

/-- The card is known with these rights already, or new with a free address. -/
def Saves (inRec : AdTokenRec) (h : Host) : Prop :=
  Stored inRec h.db ∨
    dbGetTokenByC h.db inRec.cid = none ∧ dbConflict h.db (newToken inRec h) = false

/-- The token the controllers get while the database stays as it is. -/
def sentToken (inRec : AdTokenRec) (h : Host) : DbTokenRec :=
  match dbGetTokenByC h.db inRec.cid with
  | some t => { t with attr := inRec.attr, scheduleMask := inRec.scheduleMask }
  | none => newToken inRec h

/-- Some active controller's address for the card belongs to another card, so
that the command is answered with 0. -/
def Blocked (inRec : AdTokenRec) (h : Host) : Prop :=
  ∃ d ∈ devNums h, (h.devices d).activ ∧
    cmdConflict { dev := d, subdev := 0, token := sentToken inRec h, ev := 0 } h = true

/-- Where the database is not written, the result is that of the loop. -/
theorem addCidLoop_blocked (inRec : AdTokenRec) {h h' : Host} (hdb : h'.db = h.db)
    (hdev : h'.devices = h.devices) :
    (addCidLoop { dev := 0, subdev := 0, token := sentToken inRec h, ev := 0 }
      (devNums h) h').2 = 1 ↔ ¬ Blocked inRec h := by
  rw [addCidLoop_result _ (devNums_nodup h)]
  unfold Blocked
  constructor
  · intro hall ⟨d, hd, ha, hc⟩
    have := hall d hd (by rw [hdev]; exact ha)
    rw [cmdConflict_congr hdb (by rw [hdev]), hc] at this
    cases this
  · intro hnone d hd ha
    rw [cmdConflict_congr hdb (by rw [hdev])]
    by_contra hc
    exact hnone ⟨d, hd, by rwa [hdev] at ha, by simpa using hc⟩

theorem known_card {inRec : AdTokenRec} {h : Host} {t : DbTokenRec}
    (ht : dbGetTokenByC h.db inRec.cid = some t) :
    (cmdAddTockenToAll inRec h).1.db = h.db ∧
      ((cmdAddTockenToAll inRec h).2 = 1 ↔ ¬ Blocked inRec h) := by
  have hs : sentToken inRec h =
      { t with attr := inRec.attr, scheduleMask := inRec.scheduleMask } := by
    simp [sentToken, ht]
  simp only [cmdAddTockenToAll, addTockenRec, ht, ← hs]
  refine ⟨addCidLoop_db .., ?_⟩
  exact addCidLoop_blocked inRec rfl rfl

theorem refused_card {inRec : AdTokenRec} {h : Host}
    (ht : dbGetTokenByC h.db inRec.cid = none)
    (hc : dbConflict h.db (newToken inRec h) = true) :
    (cmdAddTockenToAll inRec h).1.db = h.db ∧
      ((cmdAddTockenToAll inRec h).2 = 1 ↔ ¬ Blocked inRec h) := by
  have hs : sentToken inRec h = newToken inRec h := by simp [sentToken, ht]
  rw [cmdAddTockenToAll_new ht, ← hs]
  rw [← hs] at hc
  simp only [addTokenLogged, Host.note, dbAddToken_conflict hc]
  refine ⟨addCidLoop_db .., ?_⟩
  exact addCidLoop_blocked inRec rfl rfl

theorem stored_of_new_card {inRec : AdTokenRec} {h : Host}
    (ht : dbGetTokenByC h.db inRec.cid = none)
    (hc : dbConflict h.db (newToken inRec h) = false) :
    Stored inRec (cmdAddTockenToAll inRec h).1.db := by
  rw [cmdAddTockenToAll_new ht, addCidLoop_db]
  simp only [addTokenLogged, Host.note, dbAddToken_ok hc]
  exact ⟨{ newToken inRec h with zoneMask := 1 }, AList.lookup_insert .., rfl, rfl, rfl⟩

/-- **When a successful update is durable.** If `cmd_add_tocken_to_all` returns
1 the rights are stored, exactly when the card was stored with them before, or
is new and its address free, or else some active controller blocks the command. -/
theorem cmdAddTockenToAll_durable_iff (inRec : AdTokenRec) (h : Host) :
    ((cmdAddTockenToAll inRec h).2 = 1 → Stored inRec (cmdAddTockenToAll inRec h).1.db) ↔
      Saves inRec h ∨ Blocked inRec h := by
  cases ht : dbGetTokenByC h.db inRec.cid with
  | some t =>
    obtain ⟨hdb, hres⟩ := known_card ht
    have hsaves : Saves inRec h ↔ Stored inRec h.db := by simp [Saves, ht]
    rw [hdb, hres, hsaves]
    tauto
  | none =>
    cases hc : dbConflict h.db (newToken inRec h) with
    | false =>
      have hst := stored_of_new_card ht hc
      exact ⟨fun _ => .inl (.inr ⟨ht, hc⟩), fun _ _ => hst⟩
    | true =>
      obtain ⟨hdb, hres⟩ := refused_card ht hc
      have hno : ¬ Stored inRec h.db := by
        intro ⟨t, h1, _⟩
        rw [ht] at h1; cases h1
      have hsaves : ¬ Saves inRec h := by
        rintro (h1 | ⟨_, h1⟩)
        · exact hno h1
        · rw [hc] at h1; cases h1
      rw [hdb, hres]
      tauto

/-- A database with card 7 and all its schedules. -/
def oneCard : Db := (dbAddToken Db.empty ⟨7, 0, 0xFF, 0xC0, 0⟩).1

/-- The rights of a known card are cut down to one schedule on the controllers
and left as they were in the database. -/
theorem known_card_not_durable :
    ¬ ∀ (inRec : AdTokenRec) (h : Host), (cmdAddTockenToAll inRec h).2 = 1 →
      Stored inRec (cmdAddTockenToAll inRec h).1.db := by
  intro hall
  obtain ⟨t, ht, _, _, hmask⟩ := hall ⟨7, 0, 1⟩
    ((Layer.boot Layer.workingWorld oneCard).setDev 1 fun d => { d with activ := true }) (by decide)
  have hold : t = ⟨7, 0, 0xFF, 0xC0, 1⟩ := by
    rw [(known_card (t := ⟨7, 0, 0xFF, 0xC0, 1⟩) (by decide)).1] at ht
    exact Option.some.inj (ht.symm.trans (by decide))
  rw [hold] at hmask
  revert hmask; decide

end Libgate.CardDurability
