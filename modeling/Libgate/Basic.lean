import Mathlib.Data.List.AList
import Libgate.Lib.Memory

/-! The constants and records of `libgate.h`, `gp_layer.h`, `ad_target.h`,
`db_layer.h` and `gp_processor.h`, and the state they make up. What the
adapter reads from outside (clocks, `malloc`, `write`, `open`, `mktime`) is the
record `World`; what it does outside (commands queued and sent, handlers and
the database called) is the list `trace`.

`receiv_mess` and its cursor are kept apart from everything else: the reply
handlers only read them, and the senders never see them. -/

namespace Libgate

/-! ## Constants -/

abbrev GP_INIT : UInt8 := 0xFA
abbrev GP_END : UInt8 := 0xF5
abbrev GP_ESC : UInt8 := 0xFF
abbrev GP_CTRL : UInt8 := 0x01
abbrev GP_REPLY : UInt8 := 0x55
abbrev GP_REPLY_ACK : UInt8 := 0x55
abbrev GP_REPLY_NACK : UInt8 := 0xAA

abbrev GP_PORT_SEND_BUF_LENGTH : Nat := 130
abbrev GP_PORT_READ_BUF_LENGTH : Nat := 135
abbrev PORT_RETRY_TIMEOUT : Int := 15

abbrev GP_START_TICKET_BOUND : UInt16 := 0x00C0
abbrev GP_MAX_TICKET_BOUND : UInt16 := 0x8000 - 8
abbrev GP_MAX_TICKET_NUM : Nat := 12
abbrev GP_MAX_LOG_BOUND : Nat := 0x8000
abbrev GP_DELAY : UInt32 := 140

/-- `sizeof(gp_token_rec_t)` -/
abbrev sizeofTokenRec : Nat := 8
/-- `sizeof(gp_event_t)` -/
abbrev sizeofEvent : Nat := 8

/-- `gp_cfg.max_timeout_count` and `gp_cfg.ev_block_size`: set in the
initialiser of `gp_cfg` and written nowhere else. -/
abbrev maxTimeoutCount : Nat := 6
abbrev evBlockSize : Nat := 8

abbrev AD_Q_SHORT : Int := 0
abbrev AD_Q_FIRST : Int := 1
abbrev AD_Q_SECOND : Int := 2

/-- The `AD_TARGET_` codes: what a command was sent for. -/
inductive AdTarget where
  | null | info | softReset | hardReset | turnOn | turnOff | exchange
  | getRegs | prepLoad
  | getCid | getBuffAddr | setBuffAddrDown | getBuffData | resetBuff
  | getTokenBound | setTokenBound | getToken | setToken
  | getDate | setDate | getTimes | setTimes | getSched | setSched
  deriving DecidableEq, Repr

/-- The reply handlers that are ever stored in an `ev_cbfunc`. -/
inductive EvCbFunc where
  | null | cbGetPollResult | cbLogRead
  deriving DecidableEq, Repr

/-! ## Commands -/

/-- `cmd_send_t`. `cmdBuff` holds the bytes that were written; the rest of the
120 bytes is zero. -/
structure CmdSend where
  targetN : AdTarget
  evHandler : EvCbFunc := .null
  bank : Nat := 0
  polling : Bool := false
  queue : Int
  dataLen : Nat
  dst : UInt8
  cmdN : UInt8
  cmdBuff : List UInt8 := []
  deriving DecidableEq, Repr

/-- The `data_len` bytes of `cmd_buff` that travel. -/
def CmdSend.data (z : CmdSend) : List UInt8 := z.cmdBuff.takeD z.dataLen 0

/-- `htobe16` followed by a `memcpy` of two bytes: most significant byte first. -/
def be16 (a : UInt16) : List UInt8 := [(a >>> 8).toUInt8, a.toUInt8]

/-- `be16toh` of the two bytes at `p`. -/
def be16toh (m : Nat → UInt8) (p : Nat) : UInt16 :=
  (m p).toUInt16 <<< 8 ||| (m (p + 1)).toUInt16

/-! ## Records of the controllers -/

/-- `gp_event_t`, with `addr` as the two bytes stand in the record. -/
structure GpEvent where
  evCode : UInt8
  addr : UInt8 × UInt8
  mon : UInt8
  day : UInt8
  hour : UInt8
  min : UInt8
  sec : UInt8
  deriving DecidableEq, Repr

/-- The event record whose eight bytes start at `p`. -/
def GpEvent.ofMem (m : Nat → UInt8) (p : Nat) : GpEvent :=
  { evCode := m p, addr := (m (p + 1), m (p + 2)), mon := m (p + 3), day := m (p + 4),
    hour := m (p + 5), min := m (p + 6), sec := m (p + 7) }

/-- `htobe16(t->addr)` on the little-endian host. -/
def GpEvent.addrBe (t : GpEvent) : UInt16 := t.addr.1.toUInt16 <<< 8 ||| t.addr.2.toUInt16

/-- `struct tm`, the fields `gp_util.c` and `mktime` use. -/
structure Tm where
  sec : Int := 0
  min : Int := 0
  hour : Int := 0
  mday : Int := 0
  mon : Int := 0
  year : Int := 0
  wday : Int := 0
  isdst : Int := 0
  deriving DecidableEq, Repr

/-- `gp_dev`, less the fields nothing reads back. -/
structure GpDev where
  activ : Bool := false
  timeoutCount : Nat := 0
  isInited : Bool := false
  cidRevert : Bool := false
  maxBoundToken : UInt32 := 0
  maxBoundLog : UInt32 := 0
  boundUp : UInt16 := 0
  boundDown : UInt16 := 0
  boundToken : UInt16 := 0
  lastCid : UInt64 := 0
  lastRead : UInt32 := 0
  lastSent : UInt32 := 0
  lastEv : UInt8 := 0
  newCidFlag : Bool := false
  lastEvRec : GpEvent := ⟨0, (0, 0), 0, 0, 0, 0, 0⟩
  deriving DecidableEq, Repr

/-! ## Database -/

structure DbTokenRec where
  cid : UInt64
  attr : UInt8
  scheduleMask : UInt8
  addr : UInt32
  zoneMask : UInt64
  deriving DecidableEq, Repr

/-- `ad_sched_rec_t` -/
structure AdSchedRec where
  num : Int
  wmask : UInt8
  begin_ : Int
  end_ : Int
  deriving DecidableEq, Repr

/-- `db_param_key_t`: the union with its `param_id`. -/
inductive DbParamKey where
  | rule (ruleId : UInt16) (zoneId : UInt8)
  | sched (zoneId num : UInt8)
  deriving DecidableEq, Repr

inductive DbParamValue where
  | rule (scheduleMask : UInt8)
  | sched (d : AdSchedRec)
  deriving DecidableEq, Repr

/-- One Berkeley DB table: a map whose cursor visits each key once. -/
abbrev Table (κ ν : Type) := AList fun _ : κ => ν

/-- The tables `token`, `mapping` (its key's `zone_id` is always 1) and `param`. -/
structure Db where
  token : Table UInt64 DbTokenRec
  mapping : Table UInt32 UInt64
  param : Table DbParamKey DbParamValue

def Db.empty : Db := ⟨∅, ∅, ∅⟩

/-! ## Arguments of the handlers -/

structure ProcAddCid where
  dev : Nat
  subdev : UInt8
  token : DbTokenRec
  ev : UInt8
  deriving DecidableEq, Repr

structure ProcInfo where
  dev : Nat
  ver : UInt8
  model : UInt8
  release : UInt8
  ifType : UInt8
  deriving DecidableEq, Repr

/-- `proc_event_t`; `ct` is what the pointer shows when the handler is called. -/
structure ProcEvent where
  dev : Nat
  subdev : UInt8
  ev : UInt8
  addr : UInt16
  cid : UInt64
  ts : Int
  ct : Tm
  dup : Nat
  deriving DecidableEq, Repr

/-! ## State -/

/-- What the program does that can be seen from outside. -/
inductive Obs where
  | queued (z : CmdSend)
  | sent (z : CmdSend)
  | newCid (rec : ProcAddCid)
  | foundCid (rec : ProcAddCid)
  | devInfo (rec : ProcInfo)
  | devEv (rec : ProcEvent)
  | dbGetTokenByC (cid : UInt64)
  | dbGetCidByA (addr : UInt32)
  | dbAddToken (rec : DbTokenRec)
  deriving DecidableEq, Repr

structure Timeval where
  sec : Nat
  usec : Nat
  deriving DecidableEq, Repr

/-- The result of `write` and whether `errno` is `EPIPE`. -/
structure WriteRes where
  nwritten : Int
  epipe : Bool := false
  deriving DecidableEq, Repr

/-- The outside of the program. `localtime`, `malloc`, `write` and `openPort` are
the outcomes of the calls still to come. -/
structure World where
  now : Timeval
  localtime : Nat → Tm
  mktime : Tm → Int × Tm
  malloc : Nat → Bool
  write : Nat → WriteRes
  openPort : Nat → Int
  /-- what the stack holds where `set_rtc_date` puts its record -/
  stack : UInt8

/-- `send_mess` -/
structure SendMess where
  len : Nat := 0
  dev : UInt8 := 0
  sentTime : UInt32 := 0
  target : AdTarget := .null
  isExpected : Bool := false
  bank : Nat := 0
  evHandler : EvCbFunc := .null
  buf : List UInt8 := []
  deriving DecidableEq, Repr

/-- `receiv_mess`. Cells of `buf` from `GP_PORT_READ_BUF_LENGTH` on stand for
whatever memory follows the buffer. -/
structure ReceivMess where
  len : Int
  dev : UInt8
  lastRead : UInt32
  buf : Nat → UInt8

namespace ReceivMess

/-- Offset of `id_ctrl` in `buf`. -/
abbrev idCtrlOff : Nat := 3
/-- Offset of `cmd_buff` in `buf`. -/
abbrev cmdBuffOff : Nat := 6

def flBegin (r : ReceivMess) : UInt8 := r.buf 0
def src (r : ReceivMess) : UInt8 := r.buf 4
def cmdN (r : ReceivMess) : UInt8 := r.buf 5
def replay (r : ReceivMess) : UInt8 := r.buf 6
def wasCmdN (r : ReceivMess) : UInt8 := r.buf 7
def badCmdN (r : ReceivMess) : UInt8 := r.buf 8
/-- `cmd_buff[i]` -/
def cmdBuff (r : ReceivMess) (i : Nat) : UInt8 := r.buf (cmdBuffOff + i)

end ReceivMess

/-- `receiv_mess` and `receiv_buf_p`, the latter as an offset into `buf`. -/
structure Rx where
  mess : ReceivMess
  bufP : Option Nat

/-- Everything but the receiver: `send_mess`, `gp_cfg`, `devices`, the two
command queues, the database and the function-local statics. -/
structure Host where
  world : World
  fd : Int
  polling : Bool
  maxDevN : Nat
  maxBoundToken : UInt16
  sendMess : SendMess
  devices : Nat → GpDev
  gpHead : List CmdSend
  gpHead2 : List CmdSend
  db : Db
  /-- `curtime` of `gp_util.c` -/
  curtime : Tm
  /-- `gp_dst` of `gp_send_idle` -/
  gpDst : Nat
  /-- `last_try` of `gp_reconnect` -/
  lastTry : Int
  /-- set by `exit`; the process does nothing after it -/
  exitCode : Option Int
  trace : List Obs

structure Gate where
  rx : Rx
  host : Host

namespace Host

/-- Record something the program does outside. -/
def note (e : Obs) (h : Host) : Host := { h with trace := h.trace ++ [e] }

/-- Update `devices[d]`. -/
def setDev (d : Nat) (f : GpDev → GpDev) (h : Host) : Host :=
  { h with devices := Function.update h.devices d (f (h.devices d)) }

@[simp] theorem setDev_devices_self (d : Nat) (f : GpDev → GpDev) (h : Host) :
    (h.setDev d f).devices d = f (h.devices d) := by simp [setDev]

theorem setDev_devices_ne {d i : Nat} (f : GpDev → GpDev) (h : Host) (hi : i ≠ d) :
    (h.setDev d f).devices i = h.devices i := by simp [setDev, hi]

end Host

/-- `tv2ms` -/
def tv2ms (tv : Timeval) : UInt32 := UInt32.ofNat (tv.sec % 100000 * 1000 + tv.usec / 1000)

end Libgate
