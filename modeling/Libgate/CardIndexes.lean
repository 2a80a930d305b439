import Libgate.DbLayer
import Libgate.Lib.Pairing
import Libgate.Lib.Run

/-! The two card indexes of `db_layer.c` over runs of `db_add_token`. The table
`token` and the table `mapping` together stand for a partial bijection between
cards and token addresses. An addition keeps them one as long as the card has a
number and does not move to another address; nothing removes the old mapping of
a card that does. -/

namespace Libgate.CardIndexes
open Lib DbLayer

/-- Which card has which token address. -/
abbrev CardIndex := UInt64 ≃. UInt32

/-- The two tables hold the same pairs, and every record its own card number. -/
structure Represents (db : Db) (f : CardIndex) : Prop where
  token_addr : ∀ c, (db.token.lookup c).map DbTokenRec.addr = f c
  mapping : ∀ a, db.mapping.lookup a = f.symm a
  token_cid : ∀ c t, db.token.lookup c = some t → t.cid = c ∧ c ≠ 0

/-- A stored record is found under its address, and an address leads to a
record that lies there. -/
structure Inverse (db : Db) : Prop where
  cid_of_addr : ∀ c t, dbGetTokenByC db c = some t → dbGetCidByA db t.addr = t.cid
  addr_of_token : ∀ a t, dbGetTokenByA db a = some t → t.addr = a

/-- One call of `db_add_token`. -/
def addStep (rec : DbTokenRec) (db : Db) : Db := (dbAddToken db rec).1

/-- The addition is refused, or it is for a card with a number that is not
stored at another address. -/
def KeepsSlot (rec : DbTokenRec) (db : Db) : Prop :=
  dbConflict db rec = true ∨
    rec.cid ≠ 0 ∧ ∀ t, dbGetTokenByC db rec.cid = some t → t.addr = rec.addr

theorem Represents.empty : Represents Db.empty ⊥ where
  token_addr _ := rfl
  mapping _ := rfl
  token_cid c t h := by simp [Db.empty] at h

theorem Represents.inverse {db : Db} {f : CardIndex} (h : Represents db f) : Inverse db where
  cid_of_addr c t ht := by
    have hc := (h.token_cid c t ht).1
    have ha : f c = some t.addr := by
      rw [← h.token_addr c, show db.token.lookup c = some t from ht]; rfl
    simp [dbGetCidByA, h.mapping, f.eq_some_iff.mpr ha, hc]
  addr_of_token a t ht := by
    unfold dbGetTokenByA dbGetTokenByC at ht
    have hne := (h.token_cid _ t ht).2
    cases hm : db.mapping.lookup a with
    | none => simp [dbGetCidByA, hm] at hne
    | some c =>
      have hc : dbGetCidByA db a = c := by simp [dbGetCidByA, hm]
      have hf : f c = some a := f.eq_some_iff.mp (by rw [← h.mapping a, hm])
      rw [hc] at ht
      have := h.token_addr c
      rw [ht, hf] at this
      simpa using this

/-- Where the check passes, the slot is free or the card's own. -/
theorem Represents.slot_of_no_conflict {db : Db} {f : CardIndex} (h : Represents db f)
    {rec : DbTokenRec} (hok : dbConflict db rec = false) :
    ∀ c, f.symm rec.addr = some c → c = rec.cid := by
  intro c hc
  have hne : c ≠ 0 := by
    have hf := f.eq_some_iff.mp hc
    rw [← h.token_addr c] at hf
    obtain ⟨t, ht, _⟩ := Option.map_eq_some_iff.mp hf
    exact (h.token_cid c t ht).2
  have hget : dbGetCidByA db rec.addr = c := by simp [dbGetCidByA, h.mapping, hc]
  have hconf := mt (dbConflict_iff db rec).mpr (by simp [hok])
  rw [hget] at hconf
  by_contra hcid
  exact hconf ⟨hne, hcid⟩

/-- An addition that keeps the card's slot pairs the card with the address. -/
theorem Represents.addToken {db : Db} {f : CardIndex} (h : Represents db f) {rec : DbTokenRec}
    (hk : KeepsSlot rec db) : ∃ f', Represents (addStep rec db) f' := by
  cases hconf : dbConflict db rec with
  | true => exact ⟨f, by rwa [addStep, dbAddToken_conflict hconf]⟩
  | false =>
    obtain ⟨hcid, hslot⟩ := hk.resolve_left (by simp [hconf])
    have hpair : Pairable f rec.cid rec.addr := by
      refine ⟨?_, h.slot_of_no_conflict hconf⟩
      intro b hb
      rw [← h.token_addr rec.cid] at hb
      obtain ⟨t, ht, rfl⟩ := Option.map_eq_some_iff.mp hb
      exact hslot t ht
    refine ⟨pair f rec.cid rec.addr hpair, ?_⟩
    rw [addStep, dbAddToken_ok hconf]
    refine ⟨?_, ?_, ?_⟩
    · intro c
      rw [pair_apply]
      by_cases hc : c = rec.cid
      · subst hc; simp
      · simp [AList.lookup_insert_ne hc, hc, h.token_addr]
    · intro a
      rw [pair_symm_apply]
      by_cases ha : a = rec.addr
      · subst ha; simp
      · simp [AList.lookup_insert_ne ha, ha, h.mapping]
    · intro c t ht
      by_cases hc : c = rec.cid
      · subst hc
        simp only [AList.lookup_insert, Option.some.injEq] at ht
        exact ⟨ht ▸ rfl, hcid⟩
      · rw [AList.lookup_insert_ne hc] at ht
        exact h.token_cid c t ht

/-- **The indexes stay inverse while no card moves.** In every run of
`db_add_token` from the empty tables in which each addition is refused or keeps
the slot of its card, the tables are inverse to each other in the end, and so
after every step. -/
theorem inverse_of_keepsSlot (recs : List DbTokenRec) (h : Along addStep KeepsSlot recs Db.empty) :
    Inverse (run addStep recs Db.empty) := by
  have hinv : ∃ f, Represents (run addStep recs Db.empty) f := by
    refine Along.invariant (I := fun db => ∃ f, Represents db f) ?_ ⟨⊥, .empty⟩ h
    rintro rec db ⟨f, hf⟩ hk
    exact hf.addToken hk
  obtain ⟨f, hf⟩ := hinv
  exact hf.inverse

/-- Two cards, and the first one again with other rights. -/
theorem inverse_two_cards :
    Inverse (run addStep [⟨7, 0, 0xFF, 0xC0, 0⟩, ⟨9, 0, 0xFF, 0xC8, 0⟩, ⟨7, 0, 1, 0xC0, 0⟩]
      Db.empty) :=
  inverse_of_keepsSlot _ (by
    refine ⟨.inr ⟨by decide, ?_⟩, .inr ⟨by decide, ?_⟩, .inr ⟨by decide, ?_⟩, trivial⟩ <;>
      intro t ht <;> revert ht <;> revert t <;> decide)

/-- A card stored again at another address stays reachable under the old one. -/
theorem moved_card_not_inverse :
    ¬ ∀ recs : List DbTokenRec, Inverse (run addStep recs Db.empty) := by
  intro h
  have := (h [⟨7, 0, 0xFF, 0xC0, 0⟩, ⟨7, 0, 0xFF, 0xC8, 0⟩]).addr_of_token 0xC0
    ⟨7, 0, 0xFF, 0xC8, 1⟩ (by decide)
  revert this; decide

end Libgate.CardIndexes
