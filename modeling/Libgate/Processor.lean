import Libgate.Cmd

/-! `gp_processor.c`: what is done with a reply. The handlers read
`receiv_mess` and never write it. The four `cb_*_handler` pointers keep the
defaults the library installs, and their calls are recorded in the trace. -/

namespace Libgate.Processor
open Lib.Memory Util DbLayer Send Target Cmd

/-! ## Handlers for cards and events -/

/-- The rights `cb_push_new_cid_default` gives a new card. -/
def defaultRights (rec : ProcAddCid) : ProcAddCid :=
  { rec with token := { rec.token with scheduleMask := 0xFF, attr := 0 } }

/-- `cb_push_new_cid_default` -/
def cbPushNewCidDefault (rec : ProcAddCid) (h : Host) : Host × Int :=
  cmdAddCidToAll (defaultRights rec) h

def pushNewCid (rec : ProcAddCid) (h : Host) : Host :=
  (cbPushNewCidDefault rec (h.note (.newCid rec))).1

/-- The zeroed token of a `proc_add_cid_t` that names a card. -/
def cidToken (cid : UInt64) : DbTokenRec :=
  { cid := cid, attr := 0, scheduleMask := 0, addr := 0, zoneMask := 0 }

/-- `tt` of `cb_get_poll_result` -/
def pollRec (dev : Nat) (ev : UInt8) (token : DbTokenRec) : ProcAddCid :=
  { dev := dev, subdev := ev &&& 1, token := token, ev := ev }

/-- The new-card branch of `cb_get_poll_result`. -/
def pollNewCard (dev : Nat) (ev : UInt8) (h : Host) : Host :=
  let cid := (h.devices dev).lastCid
  let token := dbGetTokenByC h.db cid
  let h := h.note (.dbGetTokenByC cid)
  match token with
  | some token =>
    let h := (adTurnOn AD_Q_SECOND dev (ev &&& 1) h).1
    let r := cmdAddCid (pollRec dev ev token) h
    if r.2 = 0 then (cmdAddCidToAll (pollRec dev ev { token with addr := 0 }) r.1).1 else r.1
  | none => pushNewCid (pollRec dev ev (cidToken cid)) h

/-- The `GET_CID` branch of `cb_get_poll_result`: remember the card number. -/
def pollCid (m : ReceivMess) (h : Host) : Host × Int :=
  let dev := m.dev.toNat
  let a := bin2int m.buf ReceivMess.cmdBuffOff (sizeT m.len) (h.devices dev).cidRevert
  let h :=
    if (h.devices dev).lastCid ≠ a then
      h.setDev dev fun d => { d with lastCid := a, newCidFlag := true }
    else h
  adGetRegs AD_Q_SHORT m.src.toNat h

/-- The `GET_REGS` branch of `cb_get_poll_result`: act on the event code. -/
def pollRegs (m : ReceivMess) (h : Host) : Host × Int :=
  let dev := m.dev.toNat
  -- `t->ev` is the 21st byte of `gp_reg_cid_t`
  let ev := m.cmdBuff 20
  let h :=
    if (h.devices dev).newCidFlag ∨ (h.devices dev).lastEv ≠ ev then
      if ev &&& 0xFE = 0x02 then pollNewCard dev ev h
      else if ev &&& 0xFE = 0x04 then
        h.note (.foundCid (pollRec dev ev (cidToken (h.devices dev).lastCid)))
      else h
    else h
  (h.setDev dev fun d => { d with lastEv := ev, newCidFlag := false }, 1)

/-- `cb_get_poll_result` -/
def cbGetPollResult (m : ReceivMess) (h : Host) : Host × Int :=
  if h.sendMess.target = .getCid ∧ m.cmdN = 0x04 then pollCid m h
  else if h.sendMess.target = .getRegs ∧ m.cmdN = 0x06 then pollRegs m h
  else (h, 0)

/-! ## The event log -/

/-- The length `cb_log_read` asks for: what lies between the pointers, or up to
the end of the memory when the upper one has wrapped, at most a block. -/
def logLength (boundUp boundDown : UInt16) : Nat :=
  let l : Int := boundUp.toNat - boundDown.toNat
  let l : Int := if l < 0 then GP_MAX_LOG_BOUND - boundDown.toNat else l
  let l2 := evBlockSize * sizeofEvent
  if l.toNat < l2 then l.toNat else l2

/-- The `GET_BUFF_ADDR` branch of `cb_log_read`. -/
def logAddr (m : ReceivMess) (h : Host) : Host × Int :=
  let boundUp := be16toh m.buf ReceivMess.cmdBuffOff
  let boundDown := be16toh m.buf (ReceivMess.cmdBuffOff + 2)
  if boundDown.toNat > GP_MAX_LOG_BOUND ∨ boundUp.toNat > GP_MAX_LOG_BOUND then (h, 0)
  else
    let l := logLength boundUp boundDown
    let h := h.setDev m.dev.toNat fun d => { d with boundDown := boundDown, boundUp := boundUp }
    if l ≠ 0 then adGetBuffData AD_Q_SHORT m.src.toNat boundDown l h else (h, 0)

/-- `memcmp` over `ev_code` and `addr`. -/
def sameCodeAddr (a b : GpEvent) : Bool := a.evCode == b.evCode && a.addr == b.addr

/-- The body of the record loop in `cb_log_read` for one record; `c` counts the
records skipped so far. -/
def logRecord (dev : Nat) (t : GpEvent) (c : Nat) (h : Host) : Host × Nat :=
  if sameCodeAddr (h.devices dev).lastEvRec t then (h, c + 1)
  else
    let h := h.setDev dev fun d => { d with lastEvRec := t }
    let cid := dbGetCidByA h.db t.addrBe.toUInt32
    let h := h.note (.dbGetCidByA t.addrBe.toUInt32)
    let time := getEvTime h.world.mktime t h.curtime
    -- `ct` is set again after `mktime` has normalised `curtime`
    let ct := getEvDate t time.2
    let h := { h with curtime := ct }
    (h.note (.devEv
      { dev := dev, subdev := t.evCode &&& 1, ev := t.evCode, addr := t.addrBe, cid := cid,
        ts := time.1, ct := ct, dup := c }), c)

def logRecords (dev : Nat) : List GpEvent → Nat → Host → Host
  | [], _, h => h
  | t :: rest, c, h => logRecords dev rest (logRecord dev t c h).2 (logRecord dev t c h).1

/-- The records of a data block. The quotient by `sizeof` is negative for a
negative length, and the loop then does nothing. -/
def blockRecords (m : ReceivMess) : List GpEvent :=
  (List.range (m.len / sizeofEvent).toNat).map fun i =>
    GpEvent.ofMem m.buf (ReceivMess.cmdBuffOff + sizeofEvent * i)

/-- The `GET_BUFF_DATA` branch of `cb_log_read`. -/
def logData (m : ReceivMess) (h : Host) : Host × Int :=
  let dev := m.dev.toNat
  let recs := blockRecords m
  let bound := (h.devices dev).boundDown.toNat + sizeofEvent * recs.length
  let bound := if bound ≥ GP_MAX_LOG_BOUND then 0 else bound
  let h := logRecords dev recs 0 h
  adSetBuffAddrDown AD_Q_SHORT m.src.toNat (UInt16.ofNat bound) h

/-- `cb_log_read` -/
def cbLogRead (m : ReceivMess) (h : Host) : Host × Int :=
  if h.sendMess.target = .getBuffAddr then logAddr m h
  else if h.sendMess.target = .getBuffData then logData m h
  else if h.sendMess.target = .setBuffAddrDown then (h, 1)
  else (h, 0)

/-! ## Replies without a handler -/

/-- The information reply (command 0x09). -/
def infoReply (m : ReceivMess) (h : Host) : Host :=
  let dev := m.dev.toNat
  let ifType1 := m.cmdBuff 1 &&& 0x0F
  let ifType2 := m.cmdBuff 1 >>> 4
  let ifType := if m.cmdBuff 2 &&& 0x08 ≠ 0 then ifType2 else ifType1
  let h := h.setDev dev fun d => { d with cidRevert := decide (ifType > 0) }
  let rec_ : ProcInfo :=
    { dev := dev, ver := m.cmdBuff 0 &&& 0x0F, model := m.cmdBuff 0 >>> 4,
      release := m.cmdBuff 3, ifType := ifType }
  let h :=
    if rec_.model ≥ 0x0C then
      h.setDev dev fun d => { d with maxBoundToken := 0xFFF0, maxBoundLog := 0x8000 }
    else h
  h.note (.devInfo rec_)

/-- The `GET_TOKEN_BOUND` reply. -/
def tokenBoundReply (m : ReceivMess) (h : Host) : Host :=
  h.setDev m.dev.toNat fun d => { d with boundToken := be16toh m.buf ReceivMess.cmdBuffOff }

/-- `process_port_input`; the replies that are only printed do nothing here. -/
def processPortInput (m : ReceivMess) (h : Host) : Host × Int :=
  match h.sendMess.evHandler with
  | .cbGetPollResult => cbGetPollResult m h
  | .cbLogRead => cbLogRead m h
  | .null =>
    if m.cmdN = 0x09 then (infoReply m h, 0)
    else if m.cmdN = 0x04 ∧ h.sendMess.target = .getTokenBound then (tokenBoundReply m h, 0)
    else (h, 0)

end Libgate.Processor
