import Libgate.Calls

/-! The cards of an installation. The adapter is started again and again on one
database, and cards come to it from the program and from the readers; the tables
are never cleared. Over all of it a card that is stored stays stored, in a slot of
its own. -/

namespace Libgate.CardSlots
open Lib DbLayer Layer LineSteps Calls

/-! ## An installation -/

/-- Something happens to the adapter, or it ends and is started again. -/
inductive Event where
  | call (c : Call)
  | restart (mess : ReceivMess) (w : World)

/-- The database is all that a new start finds. -/
def live (e : Event) (g : Gate) : Gate :=
  match e with
  | .call c => perform c g
  | .restart mess w => adapter mess w g.host.db

/-! ## The tables -/

/-- Cards with a number: each is found under its address, no two have the same
address, and every address that is taken leads to a card. -/
structure InSlots (db : Db) : Prop where
  found : ∀ cid t, cid ≠ 0 → dbGetTokenByC db cid = some t →
    dbGetTokenByA db t.addr = some t ∧ t.cid = cid
  apart : ∀ cid cid' t t', cid ≠ 0 → cid' ≠ 0 → dbGetTokenByC db cid = some t →
    dbGetTokenByC db cid' = some t' → t.addr = t'.addr → cid = cid'
  taken : ∀ addr, dbGetCidByA db addr ≠ 0 → (dbGetTokenByA db addr).isSome = true

/-- A stored card stays stored, and an address that is taken stays that card's. -/
structure Remembers (db db' : Db) : Prop where
  card : ∀ cid, (dbGetTokenByC db cid).isSome = true → (dbGetTokenByC db' cid).isSome = true
  slot : ∀ addr, dbGetCidByA db addr ≠ 0 → dbGetCidByA db' addr = dbGetCidByA db addr

theorem housed_empty : Housed Db.empty := by
  refine ⟨?_, ?_, ?_⟩
  · intro cid t ht
    cases ht
  · intro cid t _ ht
    cases ht
  · intro addr hne
    exact absurd rfl hne

theorem Housed.inSlots {db : Db} (hh : Housed db) : InSlots db := by
  refine ⟨?_, ?_, hh.known⟩
  · intro cid t hne ht
    refine ⟨?_, hh.number cid t ht⟩
    rw [dbGetTokenByA, hh.slot cid t hne ht]
    exact ht
  · intro cid cid' t t' hne hne' ht ht' haddr
    rw [← hh.slot cid t hne ht, haddr]
    exact hh.slot cid' t' hne' ht'

/-! ## Runs -/

theorem live_grows (e : Event) (g : Gate) : Grows g.host.db (live e g).host.db := by
  cases e with
  | call c => exact (perform_library c g).grows
  | restart mess w => exact (adapter_library mess w g.host.db []).grows

theorem run_grows (es : List Event) (g : Gate) : Grows g.host.db (run live es g).host.db := by
  induction es generalizing g with
  | nil => exact Grows.refl _
  | cons e es ih => exact (live_grows e g).trans (ih _)

/-- **Every card keeps a slot of its own.** In every installation, at every moment, each
stored card with a number is found under its address and under no other card's; and
from every moment on no card is forgotten, and no address goes to another card. -/
theorem cards_keep_slots (mess : ReceivMess) (w : World) (before later : List Event) :
    InSlots (run live before (adapter mess w Db.empty)).host.db ∧
      Remembers (run live before (adapter mess w Db.empty)).host.db
        (run live (before ++ later) (adapter mess w Db.empty)).host.db := by
  have hstart : Grows Db.empty (adapter mess w Db.empty).host.db :=
    (adapter_library mess w Db.empty []).grows
  have hnow := hstart.trans (run_grows before (adapter mess w Db.empty))
  rw [run_append]
  have hlater := run_grows later (run live before (adapter mess w Db.empty))
  exact ⟨Housed.inSlots (hnow.housed housed_empty), hlater.token, hlater.slot⟩

end Libgate.CardSlots
