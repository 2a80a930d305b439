import Libgate.Lib.Coded
import Libgate.Schedules

/-! The table `param` as it lies in the file. Berkeley DB takes bytes for bytes: a
key is the packed `db_param_key_t`, sixteen bytes with the union cleared before its
members are set, and a value is whatever record the pointer shows. What is read
back of it is what was put last under the same rule and zone, or zone and number;
and it is the table the rest of the library is described with. -/

namespace Libgate.ParamStore
open Lib Schedules

/-! ## Bytes of the records -/

/-- Two bytes, the low one first. -/
def le16 (a : UInt16) : List UInt8 := [a.toUInt8, (a >>> 8).toUInt8]

/-- An `int`, its low byte first. -/
def le32 (i : Int) : List UInt8 :=
  let n := (i % 0x100000000).toNat
  [UInt8.ofNat n, UInt8.ofNat (n / 0x100), UInt8.ofNat (n / 0x10000), UInt8.ofNat (n / 0x1000000)]

/-- The `int` that lies in four bytes. -/
def int32 (b c d e : UInt8) : Int :=
  let n := b.toNat + 0x100 * c.toNat + 0x10000 * d.toNat + 0x1000000 * e.toNat
  if n < 0x80000000 then n else n - 0x100000000

abbrev PARAM_ID_RULE : Int := 2
abbrev PARAM_ID_SCHED : Int := 3

/-- `db_param_key_t` for a rule. -/
def ruleKey (ruleId : UInt16) (zoneId : UInt8) : List UInt8 :=
  le32 PARAM_ID_RULE ++ le16 ruleId ++ [zoneId] ++ List.replicate 9 0

/-- `db_param_key_t` for a schedule. -/
def schedKey (zoneId num : UInt8) : List UInt8 :=
  le32 PARAM_ID_SCHED ++ [zoneId, num] ++ List.replicate 10 0

/-- The three bytes of padding behind `wmask`; they may hold anything. -/
abbrev Pad := UInt8 × UInt8 × UInt8

/-- `db_param_sched_value_t`, which is `ad_sched_rec_t` and not packed. -/
def schedValue (d : AdSchedRec) (pad : Pad) : List UInt8 :=
  le32 d.num ++ [d.wmask, pad.1, pad.2.1, pad.2.2] ++ le32 d.begin_ ++ le32 d.end_

/-- The record that lies in the bytes of a value. -/
def schedOf : List UInt8 → Option AdSchedRec
  | [n0, n1, n2, n3, wmask, _, _, _, b0, b1, b2, b3, e0, e1, e2, e3] =>
    some ⟨int32 n0 n1 n2 n3, wmask, int32 b0 b1 b2 b3, int32 e0 e1 e2 e3⟩
  | _ => none

/-! ## The functions of `db_layer.c` -/

abbrev ParamTable := Table (List UInt8) (List UInt8)

/-- `db_add_param`; the put may fail. -/
def dbAddParam (t : ParamTable) (k d : List UInt8) (fails : Bool) : ParamTable × Int :=
  if fails then (t, 0) else (t.insert k d, 1)

/-- `db_get_param`; a failed get and a missing key both give no pointer. -/
def dbGetParam (t : ParamTable) (k : List UInt8) (fails : Bool) : Option (List UInt8) :=
  if fails then none else t.lookup k

/-- `db_add_param_rule` -/
def dbAddParamRule (t : ParamTable) (ruleId : UInt16) (zoneId scheduleMask : UInt8) (fails : Bool) :
    ParamTable × Int :=
  dbAddParam t (ruleKey ruleId zoneId) [scheduleMask] fails

/-- `db_get_param_rule`. The first hundred rules are not looked up. -/
def dbGetParamRule (t : ParamTable) (ruleId : UInt16) (zoneId : UInt8) (fails : Bool) : UInt8 :=
  if ruleId < 100 then 0xFF
  else match dbGetParam t (ruleKey ruleId zoneId) fails with
    | none => 0
    | some d => d.headD 0

/-- `db_add_param_sched`. The number is cut to a byte in the key and whole in the value. -/
def dbAddParamSched (t : ParamTable) (zoneId : UInt8) (d : AdSchedRec) (pad : Pad) (fails : Bool) :
    ParamTable × Int :=
  dbAddParam t (schedKey zoneId (UInt8.ofInt d.num)) (schedValue d pad) fails

/-! ## The bytes tell the records apart -/

theorem le16_injective : Function.Injective le16 := by
  intro a b he
  simp only [le16, List.cons.injEq, and_true] at he
  apply UInt16.toNat_inj.mp
  rw [← HostFrame.be16_val a, ← HostFrame.be16_val b, he.1, he.2]

/-- The code of a key of the table the library is described with. -/
def keyBytes : DbParamKey → List UInt8
  | .rule ruleId zoneId => ruleKey ruleId zoneId
  | .sched zoneId num => schedKey zoneId num

theorem keyBytes_injective : Function.Injective keyBytes := by
  intro k k' he
  cases k with
  | rule ruleId zoneId =>
    cases k' with
    | rule ruleId' zoneId' =>
      have hkey : le16 ruleId = le16 ruleId' ∧ zoneId = zoneId' := by
        simpa [keyBytes, ruleKey, le16, and_assoc] using he
      rw [le16_injective hkey.1, hkey.2]
    | sched zoneId' num' =>
      have hid : some (2 : UInt8) = some 3 := congrArg List.head? he
      exact absurd hid (by decide)
  | sched zoneId num =>
    cases k' with
    | rule ruleId' zoneId' =>
      have hid : some (3 : UInt8) = some 2 := congrArg List.head? he
      exact absurd hid (by decide)
    | sched zoneId' num' =>
      have hkey : zoneId = zoneId' ∧ num = num' := by simpa [keyBytes, schedKey] using he
      rw [hkey.1, hkey.2]

/-- The number is an `int`. -/
def IsInt (i : Int) : Prop := -0x80000000 ≤ i ∧ i < 0x80000000

theorem int32_le32 {i : Int} (hi : IsInt i) :
    int32 ((le32 i).getD 0 0) ((le32 i).getD 1 0) ((le32 i).getD 2 0) ((le32 i).getD 3 0) = i := by
  obtain ⟨hlo, hhi⟩ := hi
  have hn : (i % 0x100000000).toNat < 0x100000000 := by omega
  change int32 (UInt8.ofNat (i % 0x100000000).toNat) (UInt8.ofNat ((i % 0x100000000).toNat / 0x100))
    (UInt8.ofNat ((i % 0x100000000).toNat / 0x10000))
    (UInt8.ofNat ((i % 0x100000000).toNat / 0x1000000)) = i
  unfold int32
  simp only [UInt8.toNat_ofNat']
  split
  · omega
  · omega

/-- The fields of the record are `int`s. -/
structure Sound (d : AdSchedRec) : Prop where
  num : IsInt d.num
  begin_ : IsInt d.begin_
  end_ : IsInt d.end_

/-- A record is read back whole, whatever the padding. -/
theorem schedOf_schedValue {d : AdSchedRec} (hd : Sound d) (pad : Pad) :
    schedOf (schedValue d pad) = some d := by
  have hnum := int32_le32 hd.num
  have hbegin := int32_le32 hd.begin_
  have hend := int32_le32 hd.end_
  obtain ⟨num, wmask, begin_, end_⟩ := d
  change some (AdSchedRec.mk _ wmask _ _) = _
  exact congrArg some (congr (congr (congrArg (AdSchedRec.mk · wmask) hnum) hbegin) hend)

/-! ## Runs -/

/-- What a call puts. -/
inductive Put where
  | rule (ruleId : UInt16) (zoneId scheduleMask : UInt8)
  | sched (zoneId : UInt8) (d : AdSchedRec) (pad : Pad)

def Put.key : Put → DbParamKey
  | .rule ruleId zoneId _ => .rule ruleId zoneId
  | .sched zoneId d _ => .sched zoneId (UInt8.ofInt d.num)

def Put.bytes : Put → List UInt8
  | .rule _ _ scheduleMask => [scheduleMask]
  | .sched _ d pad => schedValue d pad

/-- A call of `db_add_param_rule` or `db_add_param_sched`, and whether its put fails. -/
def putStep (o : Put × Bool) (t : ParamTable) : ParamTable :=
  match o.1 with
  | .rule ruleId zoneId scheduleMask => (dbAddParamRule t ruleId zoneId scheduleMask o.2).1
  | .sched zoneId d pad => (dbAddParamSched t zoneId d pad o.2).1

/-- The puts that succeed. -/
def done (os : List (Put × Bool)) : List Put := os.filterMap fun o => if o.2 then none else some o.1

theorem putStep_eq (o : Put × Bool) (t : ParamTable) :
    putStep o t = if o.2 then t else t.insert (keyBytes o.1.key) o.1.bytes := by
  obtain ⟨p, fails⟩ := o
  cases fails with
  | false =>
    cases p with
    | rule => rfl
    | sched => rfl
  | true =>
    cases p with
    | rule => rfl
    | sched => rfl

theorem run_putStep (os : List (Put × Bool)) (t : ParamTable) :
    run putStep os t = (done os).foldl (fun t p => t.insert (keyBytes p.key) p.bytes) t := by
  induction os generalizing t with
  | nil => rfl
  | cons o os ih =>
    rw [run_cons, ih, putStep_eq]
    cases ho : o.2 with
    | false =>
      have hdone : done (o :: os) = o.1 :: done os := by simp [done, ho]
      rw [hdone]
      rfl
    | true =>
      have hdone : done (o :: os) = done os := by simp [done, ho]
      rw [hdone]
      rfl

/-- The last put under a key that succeeded. -/
def lastPut (k : DbParamKey) (os : List (Put × Bool)) : Option Put :=
  latest (fun p => p.key = k) (done os)

theorem lookup_run (os : List (Put × Bool)) (t : ParamTable) (k : DbParamKey) :
    (run putStep os t).lookup (keyBytes k) =
      ((lastPut k os).map Put.bytes).or (t.lookup (keyBytes k)) := by
  rw [run_putStep, lookup_foldl_insert, lastPut,
    latest_congr fun p : Put => keyBytes_injective.eq_iff]

theorem key_of_lastPut {k : DbParamKey} {os : List (Put × Bool)} {p : Put}
    (hp : lastPut k os = some p) : p.key = k :=
  of_latest (p := fun p : Put => p.key = k) hp

/-- The last put for a rule and a zone is one of a mask. -/
theorem lastPut_rule {ruleId : UInt16} {zoneId : UInt8} {os : List (Put × Bool)} {p : Put}
    (hp : lastPut (.rule ruleId zoneId) os = some p) :
    ∃ scheduleMask, p = .rule ruleId zoneId scheduleMask := by
  have hkey := key_of_lastPut hp
  cases p with
  | rule ruleId' zoneId' scheduleMask =>
    obtain ⟨rfl, rfl⟩ : ruleId' = ruleId ∧ zoneId' = zoneId := by simpa [Put.key] using hkey
    exact ⟨scheduleMask, rfl⟩
  | sched => cases hkey

theorem lastPut_sched {zoneId num : UInt8} {os : List (Put × Bool)} {p : Put}
    (hp : lastPut (.sched zoneId num) os = some p) :
    ∃ d pad, p = .sched zoneId d pad ∧ UInt8.ofInt d.num = num := by
  have hkey := key_of_lastPut hp
  cases p with
  | rule => cases hkey
  | sched zoneId' d pad =>
    obtain ⟨rfl, hnum⟩ : zoneId' = zoneId ∧ UInt8.ofInt d.num = num := by
      simpa [Put.key] using hkey
    exact ⟨d, pad, rfl, hnum⟩

/-- What can be read after some calls: the mask of a rule is that of the last put for
the rule and the zone, a schedule is the last for the zone and the byte of its
number, and what lies under any other bytes is as it was. -/
structure ReadBack (os : List (Put × Bool)) (t t' : ParamTable) : Prop where
  rule : ∀ ruleId zoneId p, lastPut (.rule ruleId zoneId) os = some p →
    ∃ scheduleMask, p = .rule ruleId zoneId scheduleMask ∧
      dbGetParamRule t' ruleId zoneId false = if ruleId < 100 then 0xFF else scheduleMask
  sched : ∀ zoneId num p, lastPut (.sched zoneId num) os = some p →
    ∃ d pad, p = .sched zoneId d pad ∧ UInt8.ofInt d.num = num ∧
      (Sound d → (dbGetParam t' (schedKey zoneId num) false).bind schedOf = some d)
  others : ∀ k, (∀ p ∈ done os, keyBytes p.key ≠ k) → t'.lookup k = t.lookup k

theorem readBack_run (os : List (Put × Bool)) (t : ParamTable) : ReadBack os t (run putStep os t) := by
  have hget : ∀ k, dbGetParam (run putStep os t) (keyBytes k) false =
      ((lastPut k os).map Put.bytes).or (t.lookup (keyBytes k)) := lookup_run os t
  refine ⟨?_, ?_, ?_⟩
  · intro ruleId zoneId p hp
    obtain ⟨scheduleMask, rfl⟩ := lastPut_rule hp
    have hmask := hget (.rule ruleId zoneId)
    rw [hp] at hmask
    refine ⟨scheduleMask, rfl, ?_⟩
    unfold dbGetParamRule
    rw [show ruleKey ruleId zoneId = keyBytes (.rule ruleId zoneId) from rfl, hmask]
    rfl
  · intro zoneId num p hp
    obtain ⟨d, pad, rfl, hnum⟩ := lastPut_sched hp
    have hvalue := hget (.sched zoneId num)
    rw [hp] at hvalue
    refine ⟨d, pad, rfl, hnum, ?_⟩
    intro hd
    rw [show schedKey zoneId num = keyBytes (.sched zoneId num) from rfl, hvalue]
    exact schedOf_schedValue hd pad
  · intro k hk
    have hnone : latest (fun p : Put => keyBytes p.key = k) (done os) = none :=
      latest_eq_none.mpr hk
    rw [run_putStep, lookup_foldl_insert, hnone]
    rfl

/-! ## The table of the library -/

/-- The bytes are those of the value. -/
def Stands : DbParamValue → List UInt8 → Prop
  | .rule scheduleMask, v => v = [scheduleMask]
  | .sched d, v => ∃ pad, v = schedValue d pad

/-- The same call on the tables the library is described with. -/
def typedStep (o : Put × Bool) (db : Db) : Db :=
  if o.2 then db
  else match o.1 with
    | .rule ruleId zoneId scheduleMask => DbLayer.dbAddParamRule db ruleId zoneId scheduleMask
    | .sched zoneId d _ => DbLayer.dbAddParamSched db zoneId d

theorem putStep_coded {db : Db} {t : ParamTable} (h : Coded keyBytes Stands db.param t)
    (o : Put × Bool) : Coded keyBytes Stands (typedStep o db).param (putStep o t) := by
  obtain ⟨p, fails⟩ := o
  rw [putStep_eq]
  cases fails with
  | true => exact h
  | false =>
    cases p with
    | rule ruleId zoneId scheduleMask =>
      have hmask : Stands (.rule scheduleMask) [scheduleMask] := rfl
      exact h.insert (k := .rule ruleId zoneId) keyBytes_injective hmask
    | sched zoneId d pad =>
      have hrec : Stands (.sched d) (schedValue d pad) := ⟨pad, rfl⟩
      exact h.insert (k := .sched zoneId (UInt8.ofInt d.num)) keyBytes_injective hrec

theorem run_coded (os : List (Put × Bool)) {db : Db} {t : ParamTable}
    (h : Coded keyBytes Stands db.param t) :
    Coded keyBytes Stands (run typedStep os db).param (run putStep os t) := by
  induction os generalizing db t with
  | nil => exact h
  | cons o os ih => exact ih (putStep_coded h o)

/-- The calls of `cmd_saving_sched` for a batch whose records have these paddings. -/
def savingPuts (ruleId : UInt16) (zoneId scheduleMask : UInt8) (recs : List (AdSchedRec × Pad)) :
    List (Put × Bool) :=
  (recs.map fun r => (.sched zoneId r.1 r.2, false)) ++ [(.rule ruleId zoneId scheduleMask, false)]

theorem run_savingPuts (ruleId : UInt16) (zoneId scheduleMask : UInt8)
    (recs : List (AdSchedRec × Pad)) (h : Host) :
    run typedStep (savingPuts ruleId zoneId scheduleMask recs) h.db =
      (Cmd.cmdSavingSched ruleId zoneId scheduleMask (recs.map Prod.fst) h).1.db := by
  have hrecs : run typedStep (recs.map fun r => (Put.sched zoneId r.1 r.2, false)) h.db =
      (Cmd.savingSchedRecs zoneId (recs.map Prod.fst) h).db := by
    rw [recs_db]
    generalize h.db = db
    induction recs generalizing db with
    | nil => rfl
    | cons r recs ih => exact ih _
  rw [savingPuts, run_append, hrecs]
  rfl

/-- What `cmd_saving_sched` makes of the table it makes of the file. -/
theorem saving_coded (ruleId : UInt16) (zoneId scheduleMask : UInt8)
    (recs : List (AdSchedRec × Pad)) {h : Host} {t : ParamTable}
    (hc : Coded keyBytes Stands h.db.param t) :
    Coded keyBytes Stands
      (Cmd.cmdSavingSched ruleId zoneId scheduleMask (recs.map Prod.fst) h).1.db.param
      (run putStep (savingPuts ruleId zoneId scheduleMask recs) t) := by
  rw [← run_savingPuts]
  exact run_coded _ hc

/-- **What is put into the parameter table is read back.** After any calls of
`db_add_param_rule` and `db_add_param_sched` on any file, whichever puts fail, each
rule and each schedule reads as it was last put; and a file that holds the table
the library is described with goes on holding it. -/
theorem params_read_back (os : List (Put × Bool)) (t : ParamTable) :
    ReadBack os t (run putStep os t) ∧
      ∀ db : Db, Coded keyBytes Stands db.param t →
        Coded keyBytes Stands (run typedStep os db).param (run putStep os t) :=
  ⟨readBack_run os t, fun _ h => run_coded os h⟩

end Libgate.ParamStore
