import Libgate.DbLayer
import Libgate.Target

/-! `ad_cmd.c`: the operations the library offers on cards and controllers.
`cmd_add_cid` writes one card into one controller; the two functions above it
take an address from `gp_cfg.max_bound_token` and go over the active
controllers. -/

namespace Libgate.Cmd
open Util DbLayer Send Target

/-- The eight bytes of the `gp_token_rec_t` sent for a card. -/
def tokenRecBytes (cid : UInt64) (attr scheduleMask : UInt8) (revert : Bool) : List UInt8 :=
  int2bin cid 6 revert ++ [attr, scheduleMask]

/-- The address `cmd_add_cid` writes a card to: the record's, cut to 16 bits,
or the controller's own bound when that lies below the token memory. -/
def cmdAddr (rec : ProcAddCid) (h : Host) : UInt16 :=
  let addr := rec.token.addr.toUInt16
  if addr < GP_START_TICKET_BOUND then (h.devices rec.dev).boundToken else addr

/-- The conflict check of `cmd_add_cid`. -/
def cmdConflict (rec : ProcAddCid) (h : Host) : Bool :=
  let cid2 := dbGetCidByA h.db (cmdAddr rec h).toUInt32
  cid2 != 0 && cid2 != rec.token.cid

/-- The end of `cmd_add_cid`: raise the controller's bound above the address. -/
def raiseBound (dev : Nat) (addr : UInt16) (h : Host) : Host :=
  if addr ≥ (h.devices dev).boundToken then
    let bound := addr + 8
    let h := h.setDev dev fun d => { d with boundToken := bound }
    let h := { h with maxBoundToken := max h.maxBoundToken bound }
    (adSetTokenBound AD_Q_SECOND dev bound h).1
  else h

/-- `cmd_add_cid` -/
def cmdAddCid (rec : ProcAddCid) (h : Host) : Host × Int :=
  let addr := cmdAddr rec h
  let conflict := cmdConflict rec h
  let h := h.note (.dbGetCidByA addr.toUInt32)
  if conflict then (h, 0)
  else
    let t2 := tokenRecBytes rec.token.cid rec.token.attr rec.token.scheduleMask
      (h.devices rec.dev).cidRevert
    let h := (adSetToken AD_Q_SECOND rec.dev addr t2 1 h).1
    (raiseBound rec.dev addr h, 1)

/-- The loop over the controllers in both `_to_all` functions. It stops at the
first conflict. -/
def addCidLoop (rec : ProcAddCid) : List Nat → Host → Host × Int
  | [], h => (h, 1)
  | gpDst :: rest, h =>
    if (h.devices gpDst).activ then
      let r := cmdAddCid { rec with dev := gpDst } h
      if r.2 = 0 then (r.1, 0) else addCidLoop rec rest r.1
    else addCidLoop rec rest h

/-- The controllers the loops visit. -/
def devNums (h : Host) : List Nat := List.range' 1 h.maxDevN

/-- `ad_token_rec_t`, less the field nothing reads. -/
structure AdTokenRec where
  cid : UInt64
  attr : UInt8
  scheduleMask : UInt8
  deriving DecidableEq, Repr

/-- `db_add_token` called by the commands, which only log a failure. -/
def addTokenLogged (t : DbTokenRec) (h : Host) : Host × DbTokenRec :=
  let r := dbAddToken h.db t
  ({ h.note (.dbAddToken t) with db := r.1 }, r.2.1)

/-- `cmd_add_tocken_to_all` up to its loop. `dev`, `subdev` and `ev` of the
local record are set by the loop or never read. -/
def addTockenRec (inRec : AdTokenRec) (h : Host) : Host × ProcAddCid :=
  let r := dbGetTokenByC h.db inRec.cid
  let h := h.note (.dbGetTokenByC inRec.cid)
  match r with
  | none =>
    let t : DbTokenRec :=
      { cid := inRec.cid, attr := inRec.attr, scheduleMask := inRec.scheduleMask,
        addr := h.maxBoundToken.toUInt32, zoneMask := 0 }
    let s := addTokenLogged t h
    (s.1, { dev := 0, subdev := 0, token := s.2, ev := 0 })
  | some t =>
    let t := { t with attr := inRec.attr, scheduleMask := inRec.scheduleMask }
    (h, { dev := 0, subdev := 0, token := t, ev := 0 })

/-- `cmd_add_tocken_to_all` -/
def cmdAddTockenToAll (inRec : AdTokenRec) (h : Host) : Host × Int :=
  let s := addTockenRec inRec h
  addCidLoop s.2 (devNums s.1) s.1

/-- `cmd_add_cid_to_all` up to its loop. -/
def addCidToAllRec (rec : ProcAddCid) (h : Host) : Host × ProcAddCid :=
  let addr :=
    if rec.token.addr < GP_START_TICKET_BOUND.toUInt32 then h.maxBoundToken.toUInt32
    else rec.token.addr
  let s := addTokenLogged { rec.token with addr := addr } h
  (s.1, { rec with token := s.2 })

/-- `cmd_add_cid_to_all` -/
def cmdAddCidToAll (rec : ProcAddCid) (h : Host) : Host × Int :=
  let s := addCidToAllRec rec h
  addCidLoop s.2 (devNums s.1) s.1

/-- The bytes `cmd_clear_dev` fills the token memory with. -/
abbrev clearData : List UInt8 := List.replicate (GP_MAX_TICKET_NUM * sizeofTokenRec) 0x55

/-- The loop of `cmd_clear_dev`, `addr` being the `uint16_t` it counts. -/
def clearLoop (dev : Nat) (addr : UInt16) (h : Host) : Host :=
  if addr < GP_MAX_TICKET_BOUND then
    clearLoop dev (addr + UInt16.ofNat (GP_MAX_TICKET_NUM * sizeofTokenRec))
      (adSetToken AD_Q_FIRST dev addr clearData GP_MAX_TICKET_NUM h).1
  else h
termination_by 0x10000 - addr.toNat
decreasing_by
  rename_i hlt
  have hmax : addr.toNat < 32760 := UInt16.lt_iff_toNat_lt.mp hlt
  have hnext : (addr + 96).toNat = addr.toNat + 96 := by
    rw [UInt16.toNat_add]
    exact Nat.mod_eq_of_lt (by change addr.toNat + 96 < 65536; omega)
  change 65536 - (addr + 96).toNat < 65536 - addr.toNat
  omega

/-- The end of `cmd_clear_dev`: both bounds go to the last place for a card. -/
def clearBounds (dev : Nat) (h : Host) : Host :=
  let h := { h with maxBoundToken := GP_MAX_TICKET_BOUND }.setDev dev fun d =>
    { d with boundToken := GP_MAX_TICKET_BOUND }
  let h := (adSetTokenBound AD_Q_FIRST dev (h.devices dev).boundToken h).1
  let h := (adPrepLoad AD_Q_FIRST dev false h).1
  let h := (adGetTokenBound AD_Q_FIRST dev .null h).1
  (adGetDate AD_Q_FIRST dev h).1

/-- `cmd_clear_dev` -/
def cmdClearDev (dev : Nat) (h : Host) : Host × Int :=
  let h := (adPrepLoad AD_Q_FIRST dev true h).1
  let h := clearLoop dev GP_START_TICKET_BOUND h
  (clearBounds dev h, 1)

/-- The loop of `cmd_reload_dev` over the records `db_get_next_token` returns. -/
def reloadLoop (dev : Nat) : List DbTokenRec → Host → Host
  | [], h => h
  | token :: rest, h =>
    let t2 := tokenRecBytes token.cid token.attr token.scheduleMask (h.devices dev).cidRevert
    reloadLoop dev rest (adSetToken AD_Q_FIRST dev token.addr.toUInt16 t2 1 h).1

/-- `cmd_reload_dev`, with the records its cursor comes to in their order. -/
def cmdReloadDev (dev : Nat) (tokens : List DbTokenRec) (h : Host) : Host × Int :=
  let h := (adPrepLoad AD_Q_FIRST dev true h).1
  let h := reloadLoop dev tokens h
  ((adPrepLoad AD_Q_FIRST dev false h).1, 1)

/-- `cmd_set_max_dev` -/
def cmdSetMaxDev (n : Int) (h : Host) : Host × Int :=
  let n := if n < 1 then 1 else n
  let n := if n > 255 then 255 else n
  ({ h with maxDevN := n.toNat }, n)

/-- The loop of `cmd_get_dev_vector`: the buffer and the place `i` in it. -/
def devVectorLoop (h : Host) : List Nat → (Nat → UInt8) → Nat → (Nat → UInt8) × Nat
  | [], v, i => (v, i)
  | gpDst :: rest, v, i =>
    let c := if (h.devices gpDst).activ then 0x30 + UInt8.ofNat (gpDst % 10) else 0x2E
    let v := Function.update v i c
    if gpDst % 4 = 0 then devVectorLoop h rest (Function.update v (i + 1) 0x20) (i + 1 + 1)
    else devVectorLoop h rest v (i + 1)

/-- `cmd_get_dev_vector`: what it makes of its static buffer. -/
def cmdGetDevVector (v : Nat → UInt8) (h : Host) : Nat → UInt8 :=
  let r := devVectorLoop h (devNums h) v 0
  Function.update r.1 r.2 0

/-- The loop of `cmd_get_dev_bvector` over the `i` still to come. -/
def devBvectorLoop (h : Host) : List Nat → UInt64 → UInt64 → UInt64
  | [], v, _ => v
  | i :: rest, v, b =>
    let v := if (h.devices (i + 1)).activ then v ||| b else v
    devBvectorLoop h rest v (b <<< 1)

/-- `cmd_get_dev_bvector` -/
def cmdGetDevBvector (h : Host) : UInt64 := devBvectorLoop h (List.range h.maxDevN) 0 1

/-- The eight bytes of the `gp_time_zone_t` that `cmd_saving_sched_to_all` fills. -/
def schedZone (r : AdSchedRec) : List UInt8 :=
  let mb := r.begin_.tdiv 60
  let me := r.end_.tdiv 60
  [r.wmask, int2bcd (mb.tdiv 60), int2bcd (mb.tmod 60), int2bcd (me.tdiv 60),
    int2bcd (me.tmod 60), 0, 0, 0]

/-- The loop of `cmd_saving_sched_to_all`. -/
def savingSchedLoop (n : Int) (t : List UInt8) : List Nat → Host → Host
  | [], h => h
  | gpDst :: rest, h =>
    if (h.devices gpDst).activ then
      savingSchedLoop n t rest (adSetSchedRec AD_Q_FIRST gpDst n t .null h).1
    else savingSchedLoop n t rest h

/-- `cmd_saving_sched_to_all` -/
def cmdSavingSchedToAll (r : AdSchedRec) (h : Host) : Host × Int :=
  let n := r.num - 1
  if n < 0 ∨ n > 6 then (h, 0) else (savingSchedLoop n (schedZone r) (devNums h) h, 1)

/-- The loop of `cmd_saving_sched`. -/
def savingSchedRecs (zoneId : UInt8) : List AdSchedRec → Host → Host
  | [], h => h
  | r :: rest, h =>
    let h := { h with db := dbAddParamSched h.db zoneId r }
    savingSchedRecs zoneId rest (cmdSavingSchedToAll r h).1

/-- `cmd_saving_sched` -/
def cmdSavingSched (ruleId : UInt16) (zoneId scheduleMask : UInt8) (recs : List AdSchedRec)
    (h : Host) : Host × Int :=
  let h := savingSchedRecs zoneId recs h
  ({ h with db := dbAddParamRule h.db ruleId zoneId scheduleMask }, 1)

/-! ## Commands for one controller -/

/-- `cmd_log_read`; the handler it is given is not used. -/
def cmdLogRead (gpDst : Nat) : Host → Host × Int := adGetBuffAddr AD_Q_SECOND gpDst .cbLogRead

/-- `cmd_get_max_dev` -/
def cmdGetMaxDev (h : Host) : Int := h.maxDevN

/-- `cmd_get_info` -/
def cmdGetInfo (dev : Nat) : Host → Host × Int := adGetInfo AD_Q_FIRST dev

/-- `cmd_open_dev`; the byte sent is the low one of `subdev`. -/
def cmdOpenDev (dev : Nat) (subdev : Int) : Host → Host × Int :=
  adTurnOn AD_Q_FIRST dev (UInt8.ofInt subdev)

/-- `cmd_close_dev` -/
def cmdCloseDev (dev : Nat) : Host → Host × Int := adTurnOff AD_Q_FIRST dev

/-- `cmd_exchange_dev`. The marks change whether or not the commands were queued. -/
def cmdExchangeDev (dev new : Nat) (h : Host) : Host × Int :=
  let r := adExchange AD_Q_FIRST dev new h
  let h := r.1.setDev new fun d => { d with activ := true }
  (h.setDev dev fun d => { d with activ := false }, r.2)

/-- `cmd_get_sched` -/
def cmdGetSched (dev : Nat) : Host → Host × Int := adGetSchedTable AD_Q_FIRST dev .null

/-- `cmd_get_tocken` -/
def cmdGetTocken (dev : Nat) (addr : UInt16) : Host → Host × Int := adGetToken AD_Q_FIRST dev addr 1

/-- The loop of `cmd_clear_dev_to_all`. -/
def clearDevLoop : List Nat → Host → Host
  | [], h => h
  | gpDst :: rest, h =>
    if (h.devices gpDst).activ then clearDevLoop rest (cmdClearDev gpDst h).1
    else clearDevLoop rest h

/-- `cmd_clear_dev_to_all` -/
def cmdClearDevToAll (h : Host) : Host × Int := (clearDevLoop (devNums h) h, 1)

/-- `cmd_param_dev` -/
def cmdParamDev (dev : Nat) (h : Host) : Host × Int :=
  let h := (adGetInfo AD_Q_FIRST dev h).1
  let h := (adGetTokenBound AD_Q_FIRST dev .null h).1
  let h := (adGetBuffAddr AD_Q_FIRST dev .null h).1
  let h := (adGetRegs AD_Q_FIRST dev h).1
  ((adGetDate AD_Q_FIRST dev h).1, 1)

end Libgate.Cmd
