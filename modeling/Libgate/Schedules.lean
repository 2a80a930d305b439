import Libgate.Lib.Latest
import Libgate.MemoryWrites

/-! Schedules stored and schedules programmed. `cmd_saving_sched` puts each
record into the database under its number, cut to a byte, and sends those with
a number from 1 to 7 to every active controller. -/

namespace Libgate.Schedules
open Lib Util DbLayer Send Target Cmd Layer HostFrame Queueing MemoryWrites

/-! ## What the two sides should hold -/

/-- A controller has seven slots for schedules. -/
def IsSlot (n : Int) : Prop := 1 ≤ n ∧ n ≤ 7

instance (n : Int) : Decidable (IsSlot n) := inferInstanceAs (Decidable (_ ∧ _))

/-- Both times are seconds of one day. -/
def InDay (r : AdSchedRec) : Prop :=
  (0 ≤ r.begin_ ∧ r.begin_ ≤ 86399) ∧ 0 ≤ r.end_ ∧ r.end_ ≤ 86399

/-- The last record of a batch for a slot. -/
def lastFor (n : Int) (recs : List AdSchedRec) : Option AdSchedRec :=
  latest (fun r => r.num = n) recs

theorem num_of_lastFor {n : Int} {recs : List AdSchedRec} {r : AdSchedRec}
    (hr : lastFor n recs = some r) : r.num = n :=
  of_latest (p := fun r : AdSchedRec => r.num = n) hr

/-- The slot is one of a record of the batch. -/
def Occurs (recs : List AdSchedRec) (n : Int) : Prop := IsSlot n ∧ ∃ r ∈ recs, r.num = n

/-- The database has the last record of each slot that occurs, and nothing else
is different but for the rule. -/
structure Stored (ruleId : UInt16) (zoneId : UInt8) (recs : List AdSchedRec) (db db' : Db) :
    Prop where
  slots : ∀ n, IsSlot n → ∀ r, lastFor n recs = some r →
    db'.param.lookup (.sched zoneId (UInt8.ofInt n)) = some (.sched r)
  others : ∀ k, k ≠ .rule ruleId zoneId →
    (∀ n, Occurs recs n → k ≠ .sched zoneId (UInt8.ofInt n)) →
    db'.param.lookup k = db.param.lookup k
  token : db'.token = db.token
  mapping : db'.mapping = db.mapping

/-- The byte is the number in two decimal digits. -/
def Bcd (b : UInt8) (x : Int) : Prop := (b.toNat : Int) = x / 10 * 16 + x % 10

/-- The bytes of a schedule are those of a record. -/
structure Encodes (r : AdSchedRec) (t : List UInt8) : Prop where
  wmask : t.getD 0 0 = r.wmask
  beginHour : Bcd (t.getD 1 0) (r.begin_ / 60 / 60)
  beginMin : Bcd (t.getD 2 0) (r.begin_ / 60 % 60)
  endHour : Bcd (t.getD 3 0) (r.end_ / 60 / 60)
  endMin : Bcd (t.getD 4 0) (r.end_ / 60 % 60)

/-- A schedule command to a controller for a slot. -/
def SchedFor (d : Nat) (n : Int) (z : CmdSend) : Prop :=
  z.targetN = .setSched ∧ z.dst = UInt8.ofNat d ∧ (valAt z 3 : Int) = 0x78 + 8 * (n - 1)

instance (d : Nat) (n : Int) (z : CmdSend) : Decidable (SchedFor d n z) :=
  inferInstanceAs (Decidable (_ ∧ _ ∧ _))

/-- The controllers a schedule goes to. -/
def activeDevs (h : Host) : List Nat := (devNums h).filter fun d => (h.devices d).activ

/-- The last command to each active controller for each slot that occurs has the
last record of the slot, and there are no commands but those for the slots. -/
structure Programmed (recs : List AdSchedRec) (h h' : Host) : Prop where
  devices : h'.devices = h.devices
  slots : ∀ n, IsSlot n → ∀ r, lastFor n recs = some r → ∀ d ∈ activeDevs h,
    ∃ z, latest (SchedFor d n) (newlyIssued h h') = some z ∧ Encodes r (z.data.drop 5)
  only : ∀ z ∈ newlyIssued h h', ∃ r ∈ recs, ∃ d ∈ activeDevs h,
    IsSlot r.num ∧ SchedFor d r.num z ∧ Encodes r (z.data.drop 5)

/-! ## The calls -/

/-- The calls of `ad_set_sched_rec` for a record. -/
def callsTo (h : Host) (r : AdSchedRec) : List (AdSchedRec × Nat) :=
  if IsSlot r.num then (activeDevs h).map fun d => (r, d) else []

/-- The calls for a batch. -/
def schedCalls (h : Host) (recs : List AdSchedRec) : List (AdSchedRec × Nat) :=
  recs.flatMap (callsTo h)

/-- The command of a call, for the first bank. -/
def schedCmd (c : AdSchedRec × Nat) : CmdSend :=
  adCmd AD_Q_FIRST c.2 .setSched 0x05 (5 + 8)
    ([0x00, 0xA0, 8] ++ be16 (UInt16.ofInt (0x0078 + 8 * (c.1.num - 1))) ++ schedZone c.1)

theorem adSetSchedRec_eq (r : AdSchedRec) (d : Nat) :
    adSetSchedRec AD_Q_FIRST d (r.num - 1) (schedZone r) .null = bothBanks (schedCmd (r, d)) := rfl

/-- The commands queued by calls; each asks twice for memory. -/
def queuedFrom (malloc : Nat → Bool) : List (AdSchedRec × Nat) → List CmdSend
  | [] => []
  | c :: cs => takenBoth (malloc 0) (malloc 1) (schedCmd c) ++ queuedFrom (fun k => malloc (k + 2)) cs

theorem queuedFrom_append (malloc : Nat → Bool) (cs cs' : List (AdSchedRec × Nat)) :
    queuedFrom malloc (cs ++ cs') =
      queuedFrom malloc cs ++ queuedFrom (fun k => malloc (k + 2 * cs.length)) cs' := by
  induction cs generalizing malloc with
  | nil => rfl
  | cons c cs ih =>
    have hshift : (fun k => malloc (k + 2 * cs.length + 2)) =
        fun k => malloc (k + 2 * (c :: cs).length) := by
      funext k
      rw [List.length_cons, Nat.mul_succ, Nat.add_assoc]
    rw [List.cons_append, queuedFrom, queuedFrom, ih, List.append_assoc, hshift]

theorem activeDevs_enqueued {k : Nat} {zs : List CmdSend} {h h' : Host} (q : Enqueued k zs h h') :
    activeDevs h' = activeDevs h := by
  rw [activeDevs, activeDevs, devNums, devNums, q.devices, q.maxDevN]

theorem schedCalls_enqueued {k : Nat} {zs : List CmdSend} {h h' : Host} (q : Enqueued k zs h h')
    (recs : List AdSchedRec) : schedCalls h' recs = schedCalls h recs := by
  have hcalls : callsTo h' = callsTo h := by
    funext r
    rw [callsTo, callsTo, activeDevs_enqueued q]
  rw [schedCalls, schedCalls, hcalls]

theorem savingSchedLoop_enqueued (r : AdSchedRec) (ds : List Nat) (h : Host) :
    let cs := (ds.filter fun d => (h.devices d).activ).map fun d => (r, d)
    Enqueued (2 * cs.length) (queuedFrom h.world.malloc cs) h
      (savingSchedLoop (r.num - 1) (schedZone r) ds h) := by
  induction ds generalizing h with
  | nil => exact .refl h
  | cons d ds ih =>
    simp only
    unfold savingSchedLoop
    cases hd : (h.devices d).activ with
    | false =>
      rw [List.filter_cons_of_neg (by simp [hd]), if_neg Bool.false_ne_true]
      exact ih h
    | true =>
      have q := (bothBanks_enqueued (z := schedCmd (r, d)) (by decide : AD_Q_FIRST ≠ AD_Q_SHORT) h).1
      rw [← adSetSchedRec_eq] at q
      have q' := ih (adSetSchedRec AD_Q_FIRST d (r.num - 1) (schedZone r) .null h).1
      simp only [q.devices, q.malloc] at q'
      rw [List.filter_cons_of_pos (p := fun d => (h.devices d).activ) hd, if_pos rfl, List.map_cons, List.length_cons, Nat.mul_succ,
        Nat.add_comm]
      exact q.trans q'

theorem toAll_enqueued (r : AdSchedRec) (h : Host) :
    Enqueued (2 * (callsTo h r).length) (queuedFrom h.world.malloc (callsTo h r)) h
      (cmdSavingSchedToAll r h).1 := by
  unfold cmdSavingSchedToAll callsTo
  by_cases hn : IsSlot r.num
  · obtain ⟨h1, h7⟩ := hn
    rw [if_pos ⟨h1, h7⟩, if_neg (by omega)]
    exact savingSchedLoop_enqueued r (devNums h) h
  · have hout : r.num - 1 < 0 ∨ r.num - 1 > 6 := by
      unfold IsSlot at hn
      omega
    rw [if_neg hn, if_pos hout]
    exact .refl h

/-- A change of the database before and after. -/
theorem enqueued_withDb {k : Nat} {zs : List CmdSend} {h h' : Host} (q : Enqueued k zs h h')
    (db : Db) : Enqueued k zs { h with db := db } { h' with db := db } where
  rest := by
    obtain ⟨_, _, _, _, he⟩ := q.rest
    exact ⟨_, _, _, _, by rw [he]⟩
  malloc := q.malloc
  gpHead := q.gpHead
  gpHead2 := q.gpHead2
  trace := q.trace

/-- The commands of a batch; the database aside nothing else is different. -/
theorem recs_enqueued (zoneId : UInt8) (recs : List AdSchedRec) (h : Host) (db : Db) :
    Enqueued (2 * (schedCalls h recs).length) (queuedFrom h.world.malloc (schedCalls h recs))
      { h with db := db } { savingSchedRecs zoneId recs h with db := db } := by
  induction recs generalizing h with
  | nil => exact .refl _
  | cons r recs ih =>
    have q := toAll_enqueued r { h with db := dbAddParamSched h.db zoneId r }
    have q' := ih (cmdSavingSchedToAll r { h with db := dbAddParamSched h.db zoneId r }).1
    rw [schedCalls_enqueued q, q.malloc] at q'
    have hall := (enqueued_withDb q db).trans q'
    rw [← Nat.mul_add, ← List.length_append] at hall
    rw [schedCalls, List.flatMap_cons, queuedFrom_append]
    exact hall

theorem saving_enqueued (ruleId : UInt16) (zoneId scheduleMask : UInt8) (recs : List AdSchedRec)
    (h : Host) :
    let h' := (cmdSavingSched ruleId zoneId scheduleMask recs h).1
    Enqueued (2 * (schedCalls h recs).length) (queuedFrom h.world.malloc (schedCalls h recs))
      { h with db := h'.db } h' :=
  recs_enqueued zoneId recs h _

theorem newlyIssued_saving (ruleId : UInt16) (zoneId scheduleMask : UInt8) (recs : List AdSchedRec)
    (h : Host) : newlyIssued h (cmdSavingSched ruleId zoneId scheduleMask recs h).1 =
      queuedFrom h.world.malloc (schedCalls h recs) := by
  have hi := issued_enqueued (saving_enqueued ruleId zoneId scheduleMask recs h)
  exact newlyIssued_eq hi

/-! ## The database -/

theorem recs_db (zoneId : UInt8) (recs : List AdSchedRec) (h : Host) :
    (savingSchedRecs zoneId recs h).db =
      { h.db with param := recs.foldl (fun t r =>
          t.insert (.sched zoneId (UInt8.ofInt r.num)) (.sched r)) h.db.param } := by
  induction recs generalizing h with
  | nil => rfl
  | cons r recs ih =>
    rw [savingSchedRecs, ih, (toAll_enqueued r _).db]
    rfl

/-- The last record of a batch whose number is cut to the byte. -/
def lastKeyed (b : UInt8) (recs : List AdSchedRec) : Option AdSchedRec :=
  latest (fun r => UInt8.ofInt r.num = b) recs

theorem byte_of_lastKeyed {b : UInt8} {recs : List AdSchedRec} {r : AdSchedRec}
    (hr : lastKeyed b recs = some r) : UInt8.ofInt r.num = b :=
  of_latest (p := fun r : AdSchedRec => UInt8.ofInt r.num = b) hr

section Entries
variable (ruleId : UInt16) (zoneId scheduleMask : UInt8) (recs : List AdSchedRec) (h : Host)

theorem lookup_saving {k : DbParamKey} (hk : k ≠ .rule ruleId zoneId) :
    (cmdSavingSched ruleId zoneId scheduleMask recs h).1.db.param.lookup k =
      ((latest (fun r => .sched zoneId (UInt8.ofInt r.num) = k) recs).map DbParamValue.sched).or
        (h.db.param.lookup k) := by
  change ((savingSchedRecs zoneId recs h).db.param.insert (.rule ruleId zoneId) _).lookup k = _
  rw [AList.lookup_insert_ne hk, recs_db]
  exact lookup_foldl_insert (fun r => .sched zoneId (UInt8.ofInt r.num)) _ recs h.db.param k

/-- What the zone has under a byte: the last record cut to it. -/
theorem lookup_sched (b : UInt8) :
    (cmdSavingSched ruleId zoneId scheduleMask recs h).1.db.param.lookup (.sched zoneId b) =
      ((lastKeyed b recs).map DbParamValue.sched).or (h.db.param.lookup (.sched zoneId b)) := by
  rw [lookup_saving ruleId zoneId scheduleMask recs h (by simp), lastKeyed,
    latest_congr (fun r => by simp : ∀ r : AdSchedRec, _ ↔ UInt8.ofInt r.num = b)]

/-- Nothing else is written but the rule. -/
theorem lookup_other {k : DbParamKey} (hk : k ≠ .rule ruleId zoneId)
    (hz : ∀ b, k ≠ .sched zoneId b) :
    (cmdSavingSched ruleId zoneId scheduleMask recs h).1.db.param.lookup k =
      h.db.param.lookup k := by
  have hnone : latest (fun r => .sched zoneId (UInt8.ofInt r.num) = k) recs = none :=
    latest_eq_none.mpr fun r _ he => hz _ he.symm
  rw [lookup_saving ruleId zoneId scheduleMask recs h hk, hnone]
  rfl

end Entries

/-- Under every byte the zone gets a record whose number is that of a slot, unless
it had the last record there already, and no slot that occurs is cut to the byte. -/
def NumbersFit (zoneId : UInt8) (recs : List AdSchedRec) (db : Db) : Prop :=
  ∀ b r, lastKeyed b recs = some r → IsSlot r.num ∨
    (∀ n, Occurs recs n → UInt8.ofInt n ≠ b) ∧
      db.param.lookup (.sched zoneId b) = some (.sched r)

/-- A slot's number is not cut. -/
theorem ofInt_slot_inj {n n' : Int} (hn : IsSlot n) (hn' : IsSlot n')
    (he : UInt8.ofInt n = UInt8.ofInt n') : n = n' := by
  obtain ⟨h1, h7⟩ := hn
  obtain ⟨h1', h7'⟩ := hn'
  rw [← toNat_ofInt (by omega : 0 ≤ n) (by omega), he, toNat_ofInt (by omega) (by omega)]

theorem numbersFit_of_slots {recs : List AdSchedRec} (hslots : ∀ r ∈ recs, IsSlot r.num)
    (zoneId : UInt8) (db : Db) : NumbersFit zoneId recs db :=
  fun _ r hr => .inl (hslots r (mem_of_latest hr))

section Fit
variable {ruleId : UInt16} {zoneId scheduleMask : UInt8} {recs : List AdSchedRec} {h : Host}

theorem fit_of_stored (hs : Stored ruleId zoneId recs h.db
    (cmdSavingSched ruleId zoneId scheduleMask recs h).1.db) : NumbersFit zoneId recs h.db := by
  intro b r hr
  have hafter := lookup_sched ruleId zoneId scheduleMask recs h b
  rw [hr, Option.map_some, Option.some_or] at hafter
  by_cases hslot : IsSlot r.num
  · exact .inl hslot
  · have hfree : ∀ n, Occurs recs n → UInt8.ofInt n ≠ b := by
      intro n hocc hb
      obtain ⟨hn, r', hr', hnum⟩ := hocc
      obtain ⟨s, hlast⟩ := exists_latest (p := fun r : AdSchedRec => r.num = n) hr' hnum
      have hstored := hs.slots n hn s hlast
      rw [hb, hafter] at hstored
      have hsame : r = s := by simpa using hstored
      rw [hsame, num_of_lastFor hlast] at hslot
      exact hslot hn
    refine .inr ⟨hfree, ?_⟩
    rw [← hs.others (.sched zoneId b) (by simp), hafter]
    intro n hocc hk
    exact hfree n hocc (by simpa using hk.symm)

/-- The last record cut to the byte of a slot that occurs is the last for the slot. -/
theorem lastKeyed_slot (hfit : NumbersFit zoneId recs h.db) {n : Int} (hn : IsSlot n)
    {r : AdSchedRec} (hr : lastFor n recs = some r) :
    lastKeyed (UInt8.ofInt n) recs = some r := by
  have hnum := num_of_lastFor hr
  have hmem : r ∈ recs := mem_of_latest hr
  obtain ⟨s, hs⟩ := exists_latest (p := fun s : AdSchedRec => UInt8.ofInt s.num = UInt8.ofInt n)
    hmem (congrArg UInt8.ofInt hnum)
  rcases hfit _ s hs with hslot | ⟨hfree, _⟩
  · have hsnum := ofInt_slot_inj hslot hn (byte_of_lastKeyed hs)
    have hlast : lastFor n recs = some s :=
      latest_of_imp (fun y hy => congrArg UInt8.ofInt hy) hs hsnum
    rw [← hr, hlast]
    exact hs
  · exact absurd rfl (hfree n ⟨hn, r, hmem, hnum⟩)

theorem stored_of_fit (hfit : NumbersFit zoneId recs h.db) : Stored ruleId zoneId recs h.db
    (cmdSavingSched ruleId zoneId scheduleMask recs h).1.db where
  slots := by
    intro n hn r hr
    rw [lookup_sched, lastKeyed_slot hfit hn hr]
    rfl
  others := by
    intro k hk hother
    cases k with
    | rule ruleId' zoneId' => exact lookup_other _ _ _ _ _ hk (by simp)
    | sched zoneId' b =>
      by_cases hz : zoneId' = zoneId
      · subst hz
        rw [lookup_sched]
        cases hlast : lastKeyed b recs with
        | none => rfl
        | some r =>
          rcases hfit b r hlast with hslot | ⟨_, hprior⟩
          · have hb := byte_of_lastKeyed hlast
            exact absurd (hb ▸ rfl) (hother r.num ⟨hslot, r, mem_of_latest hlast, rfl⟩)
          · exact hprior.symm
      · exact lookup_other _ _ _ _ _ hk (by simp [hz])
  token := by
    change (savingSchedRecs zoneId recs h).db.token = _
    rw [recs_db]
  mapping := by
    change (savingSchedRecs zoneId recs h).db.mapping = _
    rw [recs_db]

end Fit

/-! ## The bytes of a schedule -/

theorem Bcd.unique {b : UInt8} {x y : Int} (hx : Bcd b x) (hy : Bcd b y) : x = y := by
  unfold Bcd at hx hy
  omega

/-- The hour and the minute of a second of the day. -/
theorem bcd_time {t : Int} (h0 : 0 ≤ t) (h1 : t ≤ 86399) :
    Bcd (int2bcd ((t.tdiv 60).tdiv 60)) (t / 60 / 60) ∧
      Bcd (int2bcd ((t.tdiv 60).tmod 60)) (t / 60 % 60) := by
  have hmin : 0 ≤ t / 60 := by omega
  rw [Int.tdiv_eq_ediv_of_nonneg h0, Int.tdiv_eq_ediv_of_nonneg hmin,
    Int.tmod_eq_emod_of_nonneg hmin]
  exact ⟨toNat_int2bcd (by omega) (by omega), toNat_int2bcd (by omega) (by omega)⟩

theorem encodes_schedZone {r : AdSchedRec} (hr : InDay r) : Encodes r (schedZone r) := by
  obtain ⟨⟨hb0, hb1⟩, he0, he1⟩ := hr
  obtain ⟨hbh, hbm⟩ := bcd_time hb0 hb1
  obtain ⟨heh, hem⟩ := bcd_time he0 he1
  exact ⟨rfl, hbh, hbm, heh, hem⟩

/-- The records cannot be told apart by what a controller gets. -/
structure SameSched (r s : AdSchedRec) : Prop where
  wmask : r.wmask = s.wmask
  begin_ : r.begin_ / 60 = s.begin_ / 60
  end_ : r.end_ / 60 = s.end_ / 60

theorem encodes_iff {r s : AdSchedRec} (hs : InDay s) :
    Encodes r (schedZone s) ↔ SameSched s r := by
  have hown := encodes_schedZone hs
  constructor
  · intro he
    have hbh := hown.beginHour.unique he.beginHour
    have hbm := hown.beginMin.unique he.beginMin
    have heh := hown.endHour.unique he.endHour
    have hem := hown.endMin.unique he.endMin
    exact ⟨hown.wmask.symm.trans he.wmask, by omega, by omega⟩
  · intro ⟨hw, hb, he⟩
    obtain ⟨ow, obh, obm, oeh, oem⟩ := hown
    rw [hb] at obh obm
    rw [he] at oeh oem
    exact ⟨ow.trans hw, obh, obm, oeh, oem⟩

/-! ## The controllers -/

/-- A call for a slot of a controller. -/
def CallFor (d : Nat) (n : Int) (c : AdSchedRec × Nat) : Prop :=
  c.1.num = n ∧ UInt8.ofNat c.2 = UInt8.ofNat d

instance (d : Nat) (n : Int) (c : AdSchedRec × Nat) : Decidable (CallFor d n c) :=
  inferInstanceAs (Decidable (_ ∧ _))

/-- The calls that find memory for at least one of their two commands. -/
def reached (malloc : Nat → Bool) : List (AdSchedRec × Nat) → List (AdSchedRec × Nat)
  | [] => []
  | c :: cs => (if malloc 0 || malloc 1 then [c] else []) ++ reached (fun k => malloc (k + 2)) cs

theorem mem_of_reached {malloc : Nat → Bool} {cs : List (AdSchedRec × Nat)} {c : AdSchedRec × Nat}
    (hc : c ∈ reached malloc cs) : c ∈ cs := by
  induction cs generalizing malloc with
  | nil => cases hc
  | cons x cs ih =>
    rcases List.mem_append.mp hc with hc | hc
    · split at hc
      · rw [List.mem_singleton.mp hc]
        exact List.mem_cons_self
      · cases hc
    · exact List.mem_cons_of_mem x (ih hc)

theorem mem_schedCalls {h : Host} {recs : List AdSchedRec} {c : AdSchedRec × Nat}
    (hc : c ∈ schedCalls h recs) : c.1 ∈ recs ∧ IsSlot c.1.num ∧ c.2 ∈ activeDevs h := by
  obtain ⟨r, hr, hcr⟩ := List.mem_flatMap.mp hc
  unfold callsTo at hcr
  split at hcr
  · next hslot =>
    obtain ⟨d, hd, rfl⟩ := List.mem_map.mp hcr
    exact ⟨hr, hslot, hd⟩
  · cases hcr

theorem headed_schedCmd (c : AdSchedRec × Nat) :
    Headed (.setSchedRec (c.1.num - 1) (schedZone c.1) rfl .null) (schedCmd c) 8 :=
  ⟨⟨0x00, 0xA0, rfl⟩, rfl⟩

/-- The address of a slot fits the two bytes. -/
theorem slot_address {n : Int} (hn : IsSlot n) :
    ((UInt16.ofInt (0x0078 + 8 * (n - 1))).toNat : Int) = 0x78 + 8 * (n - 1) := by
  obtain ⟨h1, h7⟩ := hn
  change ((UInt16.ofNat ((0x0078 + 8 * (n - 1)) % 65536).toNat).toNat : Int) = _
  rw [UInt16.toNat_ofNat']
  omega

/-- A command of a call: what it is for, and its bytes. -/
structure IsCall (c : AdSchedRec × Nat) (z : CmdSend) : Prop where
  schedFor : ∀ d n, SchedFor d n z ↔ CallFor d n c
  bytes : z.data.drop 5 = schedZone c.1

theorem isCall_of_headed {c : AdSchedRec × Nat} (hc : IsSlot c.1.num) {z : CmdSend}
    (ht : z.targetN = .setSched) (hd : z.dst = UInt8.ofNat c.2)
    (hz : Headed (.setSchedRec (c.1.num - 1) (schedZone c.1) rfl .null) z 8) : IsCall c z := by
  have haddr : (valAt z 3 : Int) = 0x78 + 8 * (c.1.num - 1) := by
    rw [hz.addr]
    exact slot_address hc
  refine ⟨?_, hz.bytes⟩
  intro d n
  unfold SchedFor CallFor
  rw [haddr, hd]
  constructor
  · intro ⟨_, hdst, hval⟩
    exact ⟨by omega, hdst⟩
  · intro ⟨hnum, hdst⟩
    exact ⟨ht, hdst, by omega⟩

theorem isCall_schedCmd {c : AdSchedRec × Nat} (hc : IsSlot c.1.num) : IsCall c (schedCmd c) :=
  isCall_of_headed hc rfl rfl (headed_schedCmd c)

theorem isCall_secondBank {c : AdSchedRec × Nat} (hc : IsSlot c.1.num) :
    IsCall c (secondBank (schedCmd c)) :=
  isCall_of_headed hc rfl rfl (headed_schedCmd c).secondBank

theorem isCall_takenBoth {c : AdSchedRec × Nat} (hc : IsSlot c.1.num) {ok ok' : Bool} {z : CmdSend}
    (hz : z ∈ takenBoth ok ok' (schedCmd c)) : IsCall c z := by
  rcases mem_takenBoth hz with rfl | rfl
  · exact isCall_schedCmd hc
  · exact isCall_secondBank hc

/-- The last command of a call that is for the slot of the controller. -/
theorem latest_takenBoth {c : AdSchedRec × Nat} (hc : IsSlot c.1.num) (ok ok' : Bool) (d : Nat)
    (n : Int) :
    (latest (SchedFor d n) (takenBoth ok ok' (schedCmd c))).map (·.data.drop 5) =
      (latest (CallFor d n) (if ok || ok' then [c] else [])).map (schedZone ·.1) := by
  have hfirst := isCall_schedCmd hc
  have hsecond := isCall_secondBank hc
  by_cases hfor : CallFor d n c
  · have h1 := (hfirst.schedFor d n).mpr hfor
    have h2 := (hsecond.schedFor d n).mpr hfor
    cases ok with
    | false =>
      cases ok' with
      | false => rfl
      | true => simp [takenBoth, taken, latest_cons, h2, hfor, hsecond.bytes]
    | true =>
      cases ok' with
      | false => simp [takenBoth, taken, latest_cons, h1, hfor, hfirst.bytes]
      | true => simp [takenBoth, taken, latest_cons, h2, hfor, hsecond.bytes]
  · have hnone : latest (SchedFor d n) (takenBoth ok ok' (schedCmd c)) = none :=
      latest_eq_none.mpr fun z hz hz' => hfor (((isCall_takenBoth hc hz).schedFor d n).mp hz')
    rw [hnone]
    split
    · simp [latest_cons, hfor]
    · rfl

/-- The last command for the slot of a controller is one of the last call for it
that finds memory. -/
theorem latest_queuedFrom (malloc : Nat → Bool) {cs : List (AdSchedRec × Nat)}
    (hcs : ∀ c ∈ cs, IsSlot c.1.num) (d : Nat) (n : Int) :
    (latest (SchedFor d n) (queuedFrom malloc cs)).map (·.data.drop 5) =
      (latest (CallFor d n) (reached malloc cs)).map (schedZone ·.1) := by
  induction cs generalizing malloc with
  | nil => rfl
  | cons c cs ih =>
    obtain ⟨hc, hrest⟩ := List.forall_mem_cons.mp hcs
    rw [queuedFrom, reached, latest_append, latest_append, Option.map_or, Option.map_or, ih _ hrest,
      latest_takenBoth hc]

/-- Every command queued is one of a call. -/
theorem isCall_of_mem {malloc : Nat → Bool} {cs : List (AdSchedRec × Nat)}
    (hcs : ∀ c ∈ cs, IsSlot c.1.num) {z : CmdSend} (hz : z ∈ queuedFrom malloc cs) :
    ∃ c ∈ cs, IsCall c z := by
  induction cs generalizing malloc with
  | nil => cases hz
  | cons c cs ih =>
    obtain ⟨hc, hrest⟩ := List.forall_mem_cons.mp hcs
    rcases List.mem_append.mp hz with hz | hz
    · exact ⟨c, List.mem_cons_self, isCall_takenBoth hc hz⟩
    · obtain ⟨c', hc', hcall⟩ := ih hrest hz
      exact ⟨c', List.mem_cons_of_mem c hc', hcall⟩

/-- For every slot that occurs and every active controller, the last call that
finds memory has what a controller gets of the slot's last record. -/
def MemoryLasts (recs : List AdSchedRec) (h : Host) : Prop :=
  ∀ n, IsSlot n → ∀ r, lastFor n recs = some r → ∀ d ∈ activeDevs h,
    ∃ c, latest (CallFor d n) (reached h.world.malloc (schedCalls h recs)) = some c ∧
      SameSched c.1 r

/-- With memory for every command the last call for a slot has its last record. -/
theorem latest_schedCalls {recs : List AdSchedRec} {h : Host} {n : Int} (hn : IsSlot n) {d : Nat}
    (hd : d ∈ activeDevs h) {r : AdSchedRec} (hr : lastFor n recs = some r) :
    ∃ c, latest (CallFor d n) (schedCalls h recs) = some c ∧ c.1 = r := by
  induction recs with
  | nil => cases hr
  | cons x recs ih =>
    have hsplit : schedCalls h (x :: recs) = callsTo h x ++ schedCalls h recs := rfl
    rw [hsplit, latest_append]
    cases hlater : lastFor n recs with
    | some s =>
      rw [lastFor, latest_cons, ← lastFor, hlater, Option.some_or] at hr
      obtain ⟨c, hc, hcs⟩ := ih (hlater.trans hr)
      rw [hc, Option.some_or]
      exact ⟨c, rfl, hcs⟩
    | none =>
      have hnone : latest (CallFor d n) (schedCalls h recs) = none :=
        latest_eq_none.mpr fun c hc hfor =>
          latest_eq_none.mp hlater c.1 (mem_schedCalls hc).1 hfor.1
      rw [lastFor, latest_cons, ← lastFor, hlater, Option.none_or] at hr
      split at hr
      · next hx =>
        cases hr
        have hcalls : callsTo h r = (activeDevs h).map fun d => (r, d) := if_pos (hx ▸ hn)
        have hmem : (r, d) ∈ callsTo h r := hcalls ▸ List.mem_map_of_mem hd
        obtain ⟨c, hc⟩ := exists_latest (p := CallFor d n) hmem ⟨hx, rfl⟩
        obtain ⟨d', _, rfl⟩ := List.mem_map.mp (hcalls ▸ mem_of_latest hc)
        rw [hnone, hc]
        exact ⟨_, rfl, rfl⟩
      · cases hr

theorem reached_allocates {malloc : Nat → Bool} (hm : ∀ k, malloc k = true)
    (cs : List (AdSchedRec × Nat)) : reached malloc cs = cs := by
  induction cs generalizing malloc with
  | nil => rfl
  | cons c cs ih =>
    rw [reached, hm 0, ih fun k => hm (k + 2)]
    rfl

theorem memoryLasts_of_allocates (recs : List AdSchedRec) {h : Host} (ha : Allocates h) :
    MemoryLasts recs h := by
  intro n hn r hr d hd
  obtain ⟨c, hc, rfl⟩ := latest_schedCalls hn hd hr
  rw [reached_allocates ha]
  exact ⟨c, hc, rfl, rfl, rfl⟩

section Devices
variable {ruleId : UInt16} {zoneId scheduleMask : UInt8} {recs : List AdSchedRec} {h : Host}

/-- What the controllers get for one slot. -/
theorem slot_programmed_iff (hday : ∀ r ∈ recs, InDay r) (d : Nat) (n : Int) (r : AdSchedRec) :
    (∃ z, latest (SchedFor d n) (queuedFrom h.world.malloc (schedCalls h recs)) = some z ∧
        Encodes r (z.data.drop 5)) ↔
      ∃ c, latest (CallFor d n) (reached h.world.malloc (schedCalls h recs)) = some c ∧
        SameSched c.1 r := by
  have hlast := latest_queuedFrom h.world.malloc
    (fun c hc => (mem_schedCalls hc).2.1 : ∀ c ∈ schedCalls h recs, _) d n
  constructor
  · intro ⟨z, hz, henc⟩
    rw [hz, Option.map_some] at hlast
    obtain ⟨c, hc, hbytes⟩ := Option.map_eq_some_iff.mp hlast.symm
    have hin := hday c.1 (mem_schedCalls (mem_of_reached (mem_of_latest hc))).1
    rw [← hbytes] at henc
    exact ⟨c, hc, (encodes_iff hin).mp henc⟩
  · intro ⟨c, hc, hsame⟩
    rw [hc, Option.map_some] at hlast
    obtain ⟨z, hz, hbytes⟩ := Option.map_eq_some_iff.mp hlast
    have hin := hday c.1 (mem_schedCalls (mem_of_reached (mem_of_latest hc))).1
    refine ⟨z, hz, ?_⟩
    rw [hbytes]
    exact (encodes_iff hin).mpr hsame

theorem programmed_iff (hday : ∀ r ∈ recs, InDay r) :
    Programmed recs h (cmdSavingSched ruleId zoneId scheduleMask recs h).1 ↔ MemoryLasts recs h := by
  have hnew := newlyIssued_saving ruleId zoneId scheduleMask recs h
  constructor
  · intro hp n hn r hr d hd
    have hslot := hp.slots n hn r hr d hd
    rw [hnew] at hslot
    exact (slot_programmed_iff hday d n r).mp hslot
  · intro hm
    refine ⟨?_, ?_, ?_⟩
    · have q := saving_enqueued ruleId zoneId scheduleMask recs h
      exact q.devices
    · intro n hn r hr d hd
      rw [hnew]
      exact (slot_programmed_iff hday d n r).mpr (hm n hn r hr d hd)
    · intro z hz
      rw [hnew] at hz
      obtain ⟨c, hc, hcall⟩ := isCall_of_mem (fun c hc => (mem_schedCalls hc).2.1) hz
      obtain ⟨hr, hslot, hd⟩ := mem_schedCalls hc
      refine ⟨c.1, hr, c.2, hd, hslot, (hcall.schedFor c.2 c.1.num).mpr ⟨rfl, rfl⟩, ?_⟩
      rw [hcall.bytes]
      exact encodes_schedZone (hday c.1 hr)

end Devices

/-! ## Agreement -/

/-- What is stored and what is programmed agree with the batch. -/
def Agree (ruleId : UInt16) (zoneId : UInt8) (recs : List AdSchedRec) (h h' : Host) : Prop :=
  Stored ruleId zoneId recs h.db h'.db ∧ Programmed recs h h'

/-- **When stored and programmed schedules agree**: exactly when the numbers fit the
byte of the database's key and memory lasts for the commands. -/
theorem schedules_agree_iff (ruleId : UInt16) (zoneId scheduleMask : UInt8)
    (recs : List AdSchedRec) (h : Host) (hday : ∀ r ∈ recs, InDay r) :
    Agree ruleId zoneId recs h (cmdSavingSched ruleId zoneId scheduleMask recs h).1 ↔
      NumbersFit zoneId recs h.db ∧ MemoryLasts recs h :=
  and_congr ⟨fit_of_stored, stored_of_fit⟩ (programmed_iff hday)

/-- Two active controllers. -/
def twoActive : Host :=
  { boot workingWorld Db.empty with devices := fun i => { activ := decide (i = 1 ∨ i = 2) } }

/-- Slot 3 twice and slot 1, from 08:30 or 09:00 to 18:00. -/
def shifts : List AdSchedRec := [⟨3, 0x1F, 30600, 64800⟩, ⟨1, 0x60, 32400, 64800⟩, ⟨3, 0x3F, 32400, 64800⟩]

theorem shifts_agree : Agree 100 1 shifts twoActive (cmdSavingSched 100 1 0xFF shifts twoActive).1 :=
  (schedules_agree_iff 100 1 0xFF shifts twoActive (by unfold InDay; decide)).mpr
    ⟨numbersFit_of_slots (by decide) _ _, memoryLasts_of_allocates _ fun _ => rfl⟩

/-- The number 257 is cut to 1, and the record is stored over that of slot 1. -/
theorem record_257_overwrites : ¬ ∀ ruleId zoneId scheduleMask recs h, (∀ r ∈ recs, InDay r) →
    Agree ruleId zoneId recs h (cmdSavingSched ruleId zoneId scheduleMask recs h).1 := by
  intro hall
  let r : AdSchedRec := ⟨1, 0x1F, 30600, 64800⟩
  let s : AdSchedRec := ⟨257, 0x60, 32400, 64800⟩
  have hagree := hall 100 1 0xFF [r, s] twoActive (by unfold InDay; decide)
  have hslot := hagree.1.slots 1 (by decide) r (by decide)
  have hkeyed : lastKeyed (UInt8.ofInt 1) [r, s] = some s := by decide
  rw [lookup_sched, hkeyed] at hslot
  exact absurd hslot (by decide)

end Libgate.Schedules
