import Mathlib.Data.Int.Bitwise
import Libgate.Util

/-! Sending: `gp_close`, `gp_reconnect` (`gp_port.c`), `gp_resend`, `gp_send`
(`gp_layer.c`) and the two command queues (`gp_queue.c`). The registration of
events with libevent is left out; the events arrive as inputs. -/

namespace Libgate.Send
open Util

/-! ## The port -/

/-- `gp_close` -/
def gpClose (h : Host) : Host := { h with fd := -1 }

/-- `gp_reconnect` -/
def gpReconnect (ignoreTimeout : Bool) (h : Host) : Host × Int :=
  let now : Int := h.world.now.sec
  let h :=
    if ignoreTimeout ∨ now - PORT_RETRY_TIMEOUT > h.lastTry then
      let h := { h with lastTry := now }
      if h.fd < 0 then
        { h with
          fd := h.world.openPort 0
          world := { h.world with openPort := fun n => h.world.openPort (n + 1) } }
      else h
    else h
  (h, if h.fd < 0 then 0 else 1)

/-! ## Sending one command -/

/-- `gp_resend`: write `send_mess` to the port. -/
def gpResend (h : Host) : Host × Int :=
  if h.fd < 3 then ({ h with exitCode := h.exitCode.or (some (100 + h.fd)) }, 0)
  else
    let r := h.world.write 0
    let h := { h with world := { h.world with write := fun n => h.world.write (n + 1) } }
    if r.nwritten = 0 then
      if r.epipe then (gpClose h, r.nwritten) else (h, r.nwritten)
    else if r.nwritten < 0 then (gpClose h, r.nwritten)
    else (h, r.nwritten)

/-- The frame `gp_send` lays out in `send_mess.buf`: the escaped body behind the
two header bytes, its final zero overwritten by `GP_END`. -/
def sendFrame (cmd : CmdSend) : List UInt8 :=
  let crc := xorAll (cmd.cmdN :: cmd.data)
  let esc := memcpyEsc (cmd.dst :: cmd.cmdN :: cmd.data ++ [crc])
  let lenEsc := esc.2 + 3
  (GP_INIT :: GP_CTRL :: esc.1).set (lenEsc - 1) GP_END

/-- `gp_send` up to the call of `gp_resend`. -/
def gpSendMess (cmd : CmdSend) (h : Host) : Host :=
  let now := tv2ms h.world.now
  let h := { h with
    polling := cmd.polling
    sendMess :=
      { isExpected := true
        bank := cmd.bank
        target := cmd.targetN
        evHandler :=
          if cmd.evHandler ≠ EvCbFunc.null then cmd.evHandler
          else if cmd.queue ≠ AD_Q_SHORT then .null
          else h.sendMess.evHandler
        dev := cmd.dst
        buf := sendFrame cmd
        len := (sendFrame cmd).length
        sentTime := now } }
  (h.setDev cmd.dst.toNat fun d => { d with lastSent := now }).note (.sent cmd)

/-- `gp_send` -/
def gpSend (cmd : CmdSend) (h : Host) : Host × Int := gpResend (gpSendMess cmd h)

/-! ## The queues -/

/-- `gp_in_cmd`. Only `AD_Q_FIRST` selects `gp_head`. -/
def gpInCmd (z : CmdSend) (h : Host) : Host × Int :=
  let ok := h.world.malloc 0
  let h := { h with world := { h.world with malloc := fun n => h.world.malloc (n + 1) } }
  if !ok then (h, 0)
  else
    let h := h.note (.queued z)
    if z.queue = AD_Q_FIRST then ({ h with gpHead := h.gpHead ++ [z] }, 1)
    else ({ h with gpHead2 := h.gpHead2 ++ [z] }, 1)

/-- `gp_put_cmd` -/
def gpPutCmd (h : Host) : Host × Int :=
  match h.gpHead with
  | enp :: rest => gpSend enp { h with gpHead := rest }
  | [] =>
    match h.gpHead2 with
    | enp :: rest => gpSend enp { h with gpHead2 := rest }
    | [] => (h, 0)

/-- The choice every builder of `ad_target.c` makes by its queue argument. -/
def sendOrQueue (z : CmdSend) (h : Host) : Host × Int :=
  if z.queue = AD_Q_SHORT then gpSend z h else gpInCmd z h

/-- The two-bank builders: the command, and again with `bank` and
`cmd_buff[0]` set to 1. The results are or-ed. -/
def bothBanks (z : CmdSend) (h : Host) : Host × Int :=
  let r := sendOrQueue z h
  let r' := sendOrQueue { z with bank := 1, cmdBuff := z.cmdBuff.set 0 1 } r.1
  (r'.1, r.2.lor r'.2)

end Libgate.Send
