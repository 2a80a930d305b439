import Libgate.Send

/-! `ad_target.c`: the command builders. Each fills a command and hands it to
`gp_send` or to a queue; the ones for the token memory do so once for each of
the two banks. -/

namespace Libgate.Target
open Send

variable (q : Int) (gpDst : Nat)

/-- The part of the initialiser all builders share. -/
def adCmd (target : AdTarget) (cmdN : UInt8) (dataLen : Nat) (cmdBuff : List UInt8) :
    CmdSend :=
  { queue := q, dst := UInt8.ofNat gpDst, targetN := target, cmdN := cmdN, dataLen := dataLen,
    cmdBuff := cmdBuff }

/-! ## Commands without a memory address -/

def adGetInfo := sendOrQueue (adCmd q gpDst .info 0x09 0 [])
def adSoftReset := sendOrQueue (adCmd q gpDst .softReset 0x0B 0 [])
def adHardReset := gpInCmd (adCmd q gpDst .hardReset 0x0D 0 [])
def adTurnOn (subdev : UInt8) := gpInCmd (adCmd q gpDst .turnOn 0x07 1 [subdev])
def adTurnOff := gpInCmd (adCmd q gpDst .turnOff 0x08 0 [])
def adGetRegs :=
  sendOrQueue { adCmd q gpDst .getRegs 0x06 2 [0x15, 0x28] with polling := true }
def adPrepLoad (enable : Bool) :=
  sendOrQueue (adCmd q gpDst .prepLoad 0x66 1 [if enable then 0x73 else 0])

/-- `ad_exchange`; the reset follows only when the write was queued. -/
def adExchange (newDst : Nat) (h : Host) : Host × Int :=
  let r := gpInCmd (adCmd q gpDst .exchange 0x05 6 [0x00, 0xC0, 1, 0x00, 0x01, UInt8.ofNat newDst]) h
  if r.2 > 0 then adSoftReset q gpDst r.1 else (r.1, 0)

/-! ## Clock and event memory -/

def adGetDate := gpInCmd (adCmd q gpDst .getDate 0x04 5 [0x00, 0xD0, 7, 0x00, 0x00])
def adSetDate (d : List UInt8) :=
  gpInCmd (adCmd q gpDst .setDate 0x05 (5 + 8) ([0x00, 0xD0, 8, 0x00, 0x00] ++ d))
def adGetCid (handler : EvCbFunc) :=
  sendOrQueue { adCmd q gpDst .getCid 0x04 5 [0x00, 0xD0, 6, 0x00, 0x0C] with evHandler := handler }
def adGetBuffAddrCmd (handler : EvCbFunc) : CmdSend :=
  { adCmd q gpDst .getBuffAddr 0x04 5 [0x00, 0xD0, 4, 0x00, 0x08] with evHandler := handler }
def adGetBuffAddr (handler : EvCbFunc) := gpInCmd (adGetBuffAddrCmd q gpDst handler)
def adGetBuffDataCmd (addr : UInt16) (l : Nat) : CmdSend :=
  adCmd q gpDst .getBuffData 0x04 5 ([0x02, 0xA0, UInt8.ofNat l] ++ be16 addr)
def adGetBuffData (addr : UInt16) (l : Nat) := sendOrQueue (adGetBuffDataCmd q gpDst addr l)
def adSetBuffAddrDownCmd (addr : UInt16) : CmdSend :=
  adCmd q gpDst .setBuffAddrDown 0x05 7 ([0x00, 0xD0, 2, 0x00, 0x0A] ++ be16 addr)
def adSetBuffAddrDown (addr : UInt16) := sendOrQueue (adSetBuffAddrDownCmd q gpDst addr)
def adResetBuff :=
  sendOrQueue (adCmd q gpDst .resetBuff 0x05 9 [0x00, 0xD0, 4, 0x00, 0x08, 0, 0, 0, 0])

/-! ## Token memory, both banks -/

def adGetTokenBound (handler : EvCbFunc) :=
  bothBanks { adCmd q gpDst .getTokenBound 0x04 5 [0x00, 0xA0, 2, 0x00, 0xBE] with
    evHandler := handler }
def adSetTokenBoundCmd (addr : UInt16) : CmdSend :=
  adCmd q gpDst .setTokenBound 0x05 7 ([0x00, 0xA0, 2, 0x00, 0xBE] ++ be16 addr)
def adSetTokenBound (addr : UInt16) := bothBanks (adSetTokenBoundCmd q gpDst addr)
def adResetTokenBound := adSetTokenBound q gpDst GP_START_TICKET_BOUND
def adGetToken (addr : UInt16) (n : Nat) :=
  bothBanks (adCmd q gpDst .getToken 0x04 5 ([0x00, 0xA0, UInt8.ofNat (8 * n)] ++ be16 addr))
def adSetTokenCmd (addr : UInt16) (data : List UInt8) (n : Nat) : CmdSend :=
  adCmd q gpDst .setToken 0x05 (5 + 8 * n)
    ([0x00, 0xA0, UInt8.ofNat (8 * n)] ++ be16 addr ++ data.takeD (8 * n) 0)
def adSetToken (addr : UInt16) (data : List UInt8) (n : Nat) :=
  bothBanks (adSetTokenCmd q gpDst addr data n)
def adGetTimes := bothBanks (adCmd q gpDst .getTimes 0x04 5 [0x00, 0xA0, 2, 0x00, 0x00])
def adSetTimes (t : List UInt8) :=
  bothBanks (adCmd q gpDst .setTimes 0x05 (5 + 4) ([0x00, 0xA0, 2, 0x00, 0x00] ++ t))
def adGetSchedTable (handler : EvCbFunc) :=
  bothBanks { adCmd q gpDst .getSched 0x04 5 [0x00, 0xA0, 56, 0x00, 0x78] with
    evHandler := handler }

/-- `ad_set_sched_rec`; `rec` is the `gp_time_zone_t` as its eight bytes. -/
def adSetSchedRec (num : Int) (rec : List UInt8) (handler : EvCbFunc) :=
  bothBanks { adCmd q gpDst .setSched 0x05 (5 + 8)
    ([0x00, 0xA0, 8] ++ be16 (UInt16.ofInt (0x0078 + 8 * num)) ++ rec) with evHandler := handler }

end Libgate.Target
