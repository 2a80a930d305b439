import Libgate.Receiver

/-! `gp_layer.c`: polling, the event entry points `gp_receiv`,
`gp_get_dev_logs` and `gp_all_dev_enable`, and initialisation. -/

namespace Libgate.Layer
open Util DbLayer Send Target Cmd Processor Receiver

/-- `z` of `gp_send_idle` -/
def pollCmd (gpDst : Nat) : CmdSend :=
  { queue := AD_Q_SHORT, evHandler := .cbGetPollResult, targetN := .getCid, cmdN := 0x04,
    polling := true, dataLen := 5, dst := UInt8.ofNat gpDst, cmdBuff := [0x00, 0xD0, 6, 0x00, 0x0C] }

/-- The loop of `gp_send_idle`. Each turn moves the cursor up by one, so it ends
within `max_dev_n + 1` turns. -/
def gpSendIdleLoop : Nat → Host → Host × Int
  | 0, h => (h, 0)
  | n + 1, h =>
    let h := { h with gpDst := h.gpDst + 1 }
    if h.gpDst > h.maxDevN then ({ h with gpDst := 0 }, 0)
    else if (h.devices h.gpDst).timeoutCount > maxTimeoutCount then
      gpSendIdleLoop n (h.setDev h.gpDst fun d => { d with activ := false })
    else gpSend (pollCmd h.gpDst) h

/-- `gp_send_idle` -/
def gpSendIdle (h : Host) : Host × Int := gpSendIdleLoop (h.maxDevN + 1) h

/-- `gp_cfg.times` as the four bytes sent. -/
abbrev cfgTimes : List UInt8 := [150, 200, 0, 0]

/-- The local time, left in `curtime`. -/
def readLocaltime (h : Host) : Host :=
  { h with
    curtime := h.world.localtime 0
    world := { h.world with localtime := fun n => h.world.localtime (n + 1) } }

/-- `set_rtc_date` -/
def setRtcDate (dev : Nat) (h : Host) : Host × Int :=
  let h := readLocaltime h
  adSetDate AD_Q_SECOND dev (rtcDate h.curtime h.world.stack) h

/-- `gp_dev_init` -/
def gpDevInit (dev : Nat) (h : Host) : Host :=
  let h := (setRtcDate dev h).1
  let h := (adSetTimes AD_Q_SECOND dev cfgTimes h).1
  let h := (adSetTokenBound AD_Q_SECOND dev h.maxBoundToken h).1
  let h := (adGetInfo AD_Q_SECOND dev h).1
  let h := (adGetTokenBound AD_Q_SECOND dev .null h).1
  let h := (adGetTimes AD_Q_SECOND dev h).1
  let h := (adGetDate AD_Q_SECOND dev h).1
  h.setDev dev fun d => { d with isInited := true }

/-! ## `gp_receiv` -/

/-- `gp_receiv` without `EV_READ`: the timer. -/
def receivTimeout (h : Host) : Host :=
  let h := (gpReconnect false h).1
  let delta := tv2ms h.world.now - h.sendMess.sentTime
  if delta ≥ GP_DELAY then
    let h :=
      if h.sendMess.isExpected then
        { h with sendMess := { h.sendMess with isExpected := false } }.setDev h.sendMess.dev.toNat
          fun d => { d with timeoutCount := d.timeoutCount + 1 }
      else h
    let r := gpPutCmd h
    if r.2 > 0 then r.1 else (gpSendIdle r.1).1
  else h

/-- What `gp_receiv` does to the addressed device before it reads. -/
def receivAlive (h : Host) : Host :=
  let now := tv2ms h.world.now
  let dev := h.sendMess.dev.toNat
  let h := { h with sendMess := { h.sendMess with isExpected := false } }
  let h := h.setDev dev fun d => { d with lastRead := now, activ := true, timeoutCount := 0 }
  if (h.devices dev).isInited then h else gpDevInit dev h

/-- What `gp_receiv` does with the outcome of a read. -/
def dispatch (m : ReceivMess) (k : RxKind) (h : Host) : Host :=
  match k with
  | .readError => (gpPutCmd (gpClose h)).1
  | .eof => gpClose (adSoftReset AD_Q_SHORT h.sendMess.dev.toNat h).1
  | .noBegin => (gpReconnect false h).1
  | .incomplete | .crcError | .deviceError => h
  | .nack => (gpPutCmd h).1
  | .ack => (gpPutCmd (processPortInput m h).1).1
  | .reply =>
    let r := processPortInput m h
    if r.2 > 0 then r.1 else (gpPutCmd r.1).1

/-- An event libevent delivers to `gp_receiv`. -/
inductive PortEvent where
  | timeout
  | read (r : ReadRes)
  deriving DecidableEq, Repr

/-- `gp_receiv` -/
def gpReceiv (ev : PortEvent) (g : Gate) : Gate :=
  match ev with
  | .timeout => { g with host := receivTimeout g.host }
  | .read r =>
    let h := receivAlive g.host
    let s := receive h.sendMess.dev (tv2ms h.world.now) r g.rx
    { rx := s.1, host := dispatch s.1.mess s.2 h }

/-! ## Timers and initialisation -/

def getDevLogsLoop : List Nat → Host → Host
  | [], h => h
  | gpDst :: rest, h =>
    if (h.devices gpDst).activ then
      getDevLogsLoop rest (adGetBuffAddr AD_Q_SECOND gpDst .cbLogRead h).1
    else getDevLogsLoop rest h

/-- `gp_get_dev_logs` -/
def gpGetDevLogs (h : Host) : Host := getDevLogsLoop (devNums h) h

/-- `gp_all_dev_enable` -/
def gpAllDevEnable (h : Host) : Host :=
  let h := (gpReconnect false h).1
  { h with devices := fun i =>
      if 1 ≤ i ∧ i ≤ 255 then { h.devices i with timeoutCount := 0 } else h.devices i }

/-- `gp_init` -/
def gpInit (h : Host) : Host :=
  let h := { h with devices := fun i =>
      if 1 ≤ i ∧ i ≤ 255 then { h.devices i with boundToken := GP_START_TICKET_BOUND }
      else h.devices i }
  let h := gpAllDevEnable h
  let h := gpGetDevLogs h
  let h := { h with maxBoundToken := UInt16.ofNat (dbGetMaxAddr h.db + sizeofTokenRec) }
  (gpReconnect true h).1

/-- `cmd_reset_dev` -/
def cmdResetDev (dev : Nat) (h : Host) : Host × Int :=
  let h := (setRtcDate dev h).1
  let h := (adResetTokenBound AD_Q_FIRST dev h).1
  ((adResetBuff AD_Q_FIRST dev h).1, 1)

/-- `activ_dev` of `adapter.c` -/
abbrev activDev : List Nat := [7, 3, 1]

/-- `keepalive_port` -/
def keepalivePort (h : Host) : Host := (adGetDate AD_Q_SECOND (activDev.getD 0 0) h).1

/-- `main` up to `event_dispatch`; `sw_init` and `sw_proc_init` are the program's own. -/
def adapterMain (h : Host) : Host :=
  let h := gpInit { h with gpHead := [], gpHead2 := [] }
  let h := activDev.foldl (fun h dev => (adResetBuff AD_Q_SECOND dev h).1) h
  activDev.foldl (fun h dev => (adGetTimes AD_Q_SECOND dev h).1) h

/-- The process before `gp_init`: static initialisers and empty queues. -/
def boot (w : World) (db : Db) : Host :=
  { world := w, fd := -1, polling := false, maxDevN := 7, maxBoundToken := GP_START_TICKET_BOUND,
    sendMess := {}, devices := fun _ => {}, gpHead := [], gpHead2 := [], db := db, curtime := {},
    gpDst := 0, lastTry := 0, exitCode := none, trace := [] }

/-- An outside in which every call succeeds. -/
def workingWorld : World :=
  { now := ⟨0, 0⟩, localtime := fun _ => {}, mktime := fun t => (0, t), malloc := fun _ => true,
    write := fun _ => ⟨1, false⟩, openPort := fun _ => 3, stack := 0 }

end Libgate.Layer
