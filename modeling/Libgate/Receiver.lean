import Libgate.Processor

/-! The part of `gp_receiv` that works on `receiv_mess`: from the cursor and
the bytes the driver has to one of nine outcomes, with the buffer as the next
step finds it. What `gp_receiv` then does with the outcome is in `Layer`. -/

namespace Libgate.Receiver
open Lib.Memory Util

/-- What the driver has when `gp_receiv` reads: an error, or the bytes it can
deliver (none at the end of file). -/
inductive ReadRes where
  | error
  | data (bs : List UInt8)
  deriving DecidableEq, Repr

inductive RxKind where
  | readError | eof | noBegin | incomplete
  | crcError | deviceError | nack | ack | reply
  deriving DecidableEq, Repr

/-- The outcomes in which `process_port_input` is called. -/
def RxKind.isInput (k : RxKind) : Bool := k == .ack || k == .reply

/-- First chunk of data: the cursor goes to the start of the buffer. -/
def firstChunk (rx : Rx) : Rx × Nat :=
  match rx.bufP with
  | some p => (rx, p)
  | none => ({ mess := { rx.mess with len := 0 }, bufP := some 0 }, 0)

/-- What `read` is asked for and gives of the bytes at hand. The count is a
`size_t`, so a negative one bounds nothing. -/
def readBytes (len : Int) (bs : List UInt8) : List UInt8 :=
  let count : Int := GP_PORT_READ_BUF_LENGTH - 1 - len
  if count < 0 then bs else bs.take count.toNat

/-- `memchr` over `n` bytes from `p`: the position of the first `c`. -/
def memchr (m : Nat → UInt8) (p : Nat) (c : UInt8) (n : Nat) : Option Nat :=
  ((load m p n).idxOf? c).map (p + ·)

/-- A complete frame whose `GP_END` is at `q`: unescape in place, check, and
tell the kinds of reply apart. The branch for a bad checksum leaves the decoded
buffer behind, as the others do. -/
def checkFrame (dev : UInt8) (q : Nat) (rx : Rx) : Rx × RxKind :=
  let r := memcpyUnesc rx.mess.buf ReceivMess.idCtrlOff ReceivMess.idCtrlOff
    (q - ReceivMess.idCtrlOff : Int)
  let mess := { rx.mess with buf := r.1 }
  if crc8Xor r.1 ReceivMess.idCtrlOff r.2 > 0 then ({ rx with mess := mess }, .crcError)
  else if dev ≠ mess.src then ({ rx with mess := mess }, .deviceError)
  else
    let mess := { mess with dev := mess.src }
    if mess.cmdN = GP_REPLY then
      if mess.replay = GP_REPLY_ACK then
        ({ rx with mess := { mess with buf := Function.update mess.buf 5 mess.wasCmdN } }, .ack)
      else if mess.replay = GP_REPLY_NACK then
        ({ rx with mess := { mess with buf := Function.update mess.buf 5 mess.wasCmdN } }, .nack)
      else
        ({ rx with mess := { mess with buf := Function.update mess.buf 5 mess.badCmdN } }, .nack)
    else ({ rx with mess := { mess with len := r.2 - (3 + 1) } }, .reply)

/-- A non-empty chunk that `read` has put at offset `p`. -/
def takeChunk (dev : UInt8) (p : Nat) (chunk : List UInt8) (rx : Rx) : Rx × RxKind :=
  let nread := chunk.length
  let mess := { rx.mess with buf := store rx.mess.buf p (chunk ++ [0]) }
  if mess.flBegin ≠ GP_INIT then ({ rx with mess := mess }, .noBegin)
  else
    match memchr mess.buf p GP_END nread with
    | some q => checkFrame dev q { mess := mess, bufP := none }
    | none => ({ mess := { mess with len := mess.len + nread }, bufP := some (p + nread) }, .incomplete)

/-- One read of `gp_receiv`. -/
def receive (dev : UInt8) (now : UInt32) (r : ReadRes) (rx : Rx) : Rx × RxKind :=
  let s := firstChunk { rx with mess := { rx.mess with lastRead := now } }
  match r with
  | .error => (s.1, .readError)
  | .data bs =>
    let chunk := readBytes s.1.mess.len bs
    if chunk = [] then (s.1, .eof) else takeChunk dev s.2 chunk s.1

end Libgate.Receiver
