import Libgate.Arrivals
import Libgate.ReceiverChunks

/-! What a reply leaves to chance. The handlers cast `receiv_mess.cmd_buff` to
records of their own sizes without a look at the length received, so what lies
behind a short reply in `receiv_mess.buf` takes part in it. A frame without an
escape fixes the cells up to the two zeros behind its checksum and no others. -/

namespace Libgate.StaleBytes
open Lib Lib.Memory Lib.Framing DbLayer Util Send Target Cmd Processor Receiver Layer HostFrame
open Handlers Transmit Arrivals
open ReceiverFrames (Link Holds accepted taken unescFrame load_taken load_split load_body
  unescFrame_eq)
open ReceiverChunks (Same)

/-! ## Frames without an escape -/

/-- A frame of controller `dev` with a good checksum that one read can give and
that holds no escape. -/
structure PlainFrame (dev : UInt8) where
  h1 : UInt8
  h2 : UInt8
  idCtrl : UInt8
  cmdN : UInt8
  data : List UInt8
  crc : UInt8
  noEnd : GP_END ∉ h1 :: h2 :: idCtrl :: dev :: cmdN :: data ++ [crc]
  noEsc : GP_ESC ∉ idCtrl :: dev :: cmdN :: data ++ [crc]
  xor : xorAll (idCtrl :: dev :: cmdN :: data ++ [crc]) = 0
  fits : data.length + 8 < GP_PORT_READ_BUF_LENGTH

namespace PlainFrame
variable {dev : UInt8} (F : PlainFrame dev)

def body : List UInt8 := F.idCtrl :: dev :: F.cmdN :: F.data ++ [F.crc]

def front : List UInt8 := GP_INIT :: F.h1 :: F.h2 :: F.body

def bytes : List UInt8 := F.front ++ [GP_END]

/-- The buffer once the frame is decoded onto the bytes `b`. -/
def onto (b : Nat → UInt8) : Nat → UInt8 := store b 0 (F.front ++ [0, 0])

theorem length_body : F.body.length = F.data.length + 4 := by
  simp [body]

theorem length_front : F.front.length = F.data.length + 7 := by
  simp [front, length_body]

end PlainFrame

/-- What is left of the adapter when the frame is read onto the bytes `b`. -/
def deliver (mess : ReceivMess) (h : Host) (F : PlainFrame h.sendMess.dev) (b : Nat → UInt8) :
    Host :=
  (gpReceiv (.read (.data F.bytes)) ⟨⟨{ mess with buf := b }, none⟩, h⟩).host

/-- The frame has the same effect whatever the buffer held. -/
def Determined (mess : ReceivMess) (h : Host) (F : PlainFrame h.sendMess.dev) : Prop :=
  ∀ b b', (∀ i ≥ GP_PORT_READ_BUF_LENGTH, b i = b' i) →
    Same (deliver mess h F b) (deliver mess h F b')

/-! ## Decoding -/

section Decode
variable {dev : UInt8} (F : PlainFrame dev) (b : Nat → UInt8)

/-- Without an escape decoding moves nothing. -/
theorem unescFrame_plain :
    unescFrame (store b 0 (F.bytes ++ [0])) F.front.length = (F.onto b, (F.body.length : Int)) := by
  have hall : F.bytes ++ [0] = F.front ++ GP_END :: [0] := List.append_assoc ..
  have hload : load (store b 0 (F.front ++ GP_END :: [0])) 0 (F.front ++ GP_END :: [0]).length =
      F.front ++ GP_END :: [0] := by
    have hfull := load_store_append b 0 (F.front ++ GP_END :: [0]) []
    rwa [List.append_nil] at hfull
  have hthree : 3 ≤ F.front.length := by rw [F.length_front]; omega
  have hbody : load (store b 0 (F.front ++ GP_END :: [0])) 3 F.body.length = F.body :=
    load_body (load_split hload).1 hthree
  have hunits := frameCode.units_unstuff hbody (frameCode.unstuff_of_not_mem F.noEsc) 0
  have hcover : store (store b 0 (F.front ++ GP_END :: [0])) 3 (F.body ++ [0]) = F.onto b := by
    have hfront : ∀ ys : List UInt8, store b 0 (F.front ++ ys) =
        store (store b 0 [GP_INIT, F.h1, F.h2]) 3 (F.body ++ ys) :=
      fun ys => store_append b 0 [GP_INIT, F.h1, F.h2] (F.body ++ ys)
    have hend : F.body ++ GP_END :: [0] = (F.body ++ [GP_END]) ++ [0] := by simp
    have hzero : (F.body ++ [0]) ++ [0] = F.body ++ [0, 0] := by simp
    rw [hfront, hend, store_store_front _ _ _ (by simp), hzero, ← hfront]
    rfl
  rw [hall, unescFrame_eq hthree]
  change memcpyUnesc _ 3 3 (F.body.length : Int) = _
  rw [memcpyUnesc_eq _ (.inl (Nat.le_refl 3)), Int.toNat_natCast]
  rw [Nat.add_zero] at hunits
  rw [hunits]
  simp only [unescResult, Stuffing.units, List.append_nil, Option.map_some, Nat.sub_self,
    Nat.add_zero, hcover]
  exact Prod.ext rfl (Int.sub_zero _)

/-- The cells the frame fixes. -/
theorem onto_fixed (b' : Nat → UInt8) {i : Nat} (hi : i < F.data.length + 9) :
    F.onto b i = F.onto b' i := by
  have hlen : (F.front ++ [0, 0]).length = F.data.length + 9 := by
    rw [List.length_append, F.length_front]
    rfl
  have hin : i < (F.front ++ [0, 0]).length := hlen ▸ hi
  have hcell : ∀ m : Nat → UInt8, store m 0 (F.front ++ [0, 0]) i = (F.front ++ [0, 0])[i] := by
    intro m
    have hst := store_in (m := m) (p := 0) hin
    rwa [Nat.zero_add] at hst
  rw [PlainFrame.onto, PlainFrame.onto, hcell, hcell]

/-- The cells it does not. -/
theorem onto_stale {i : Nat} (hi : F.data.length + 9 ≤ i) : F.onto b i = b i := by
  refine store_ge ?_
  rw [List.length_append, F.length_front, Nat.zero_add]
  exact hi

theorem load_onto : load (F.onto b) 3 (F.body ++ [0, 0]).length = F.body ++ [0, 0] := by
  have hsplit : store b 0 (F.front ++ [0, 0]) =
      store (store b 0 [GP_INIT, F.h1, F.h2]) 3 (F.body ++ [0, 0]) :=
    store_append b 0 [GP_INIT, F.h1, F.h2] (F.body ++ [0, 0])
  have hfull := load_store_append (store b 0 [GP_INIT, F.h1, F.h2]) 3 (F.body ++ [0, 0]) []
  rw [List.append_nil] at hfull
  rw [PlainFrame.onto, hsplit]
  exact hfull

/-- The cell of a byte of the body. -/
theorem onto_body {i : Nat} {x : UInt8} (hx : (F.body ++ [0, 0])[i]? = some x) :
    F.onto b (3 + i) = x := by
  have hi : i < (F.body ++ [0, 0]).length := (List.getElem?_eq_some_iff.mp hx).1
  have hcell := ReceiverFrames.getElem?_of_load (load_onto F b) hi
  exact Option.some.inj (hcell.symm.trans hx)

end Decode

/-! ## The message -/

namespace PlainFrame
variable {dev : UInt8} (F : PlainFrame dev)

/-- What follows the command in the buffer. -/
def tail : List UInt8 := F.data ++ [F.crc, 0, 0]

/-- The reply acknowledges, or is none of the `GP_REPLY` kind. -/
def Acts : Prop := F.cmdN = GP_REPLY → F.tail.head? = some GP_REPLY_ACK

instance : Decidable F.Acts := inferInstanceAs (Decidable (_ → _))

/-- The command the handlers are told was answered. -/
def answered : UInt8 := if F.cmdN = GP_REPLY then F.tail.tail.headD 0 else F.cmdN

def kind : RxKind := if F.cmdN ≠ GP_REPLY then .reply else if F.Acts then .ack else .nack

/-- `receiv_mess` as it is handed on when the frame is read onto the bytes `b`. -/
def message (mess : ReceivMess) (now : UInt32) (b : Nat → UInt8) : ReceivMess :=
  accepted (taken { mess with buf := b } now [] F.bytes) (F.onto b, F.body.length)

theorem body_append : F.body ++ [0, 0] = F.idCtrl :: dev :: F.cmdN :: F.tail := by
  simp [body, tail]

variable (b : Nat → UInt8)

theorem onto_src : F.onto b 4 = dev := onto_body F b (i := 1) (by rw [body_append]; rfl)

theorem onto_cmdN : F.onto b 5 = F.cmdN := onto_body F b (i := 2) (by rw [body_append]; rfl)

theorem onto_tail {i : Nat} {x : UInt8} (hx : F.tail[i]? = some x) : F.onto b (6 + i) = x := by
  have hcell := onto_body F b (i := i + 3) (x := x) (by
    rw [body_append]
    exact hx)
  rwa [show 3 + (i + 3) = 6 + i by omega] at hcell

end PlainFrame

theorem head_tail {dev : UInt8} (F : PlainFrame dev) (b : Nat → UInt8) :
    F.tail.head? = some (F.onto b 6) := by
  cases hd : F.tail with
  | nil => simp [PlainFrame.tail] at hd
  | cons x rest =>
    have hcell : F.onto b (6 + 0) = x := F.onto_tail b (by rw [hd]; rfl)
    rw [← hcell]
    rfl

/-- The frame is judged by its own bytes. -/
theorem judged_plain {dev : UInt8} (F : PlainFrame dev) (b : Nat → UInt8) :
    judged dev (F.onto b, (F.body.length : Int)) = F.kind := by
  have hcrc : crc8Xor (F.onto b) ReceivMess.idCtrlOff (F.body.length : Int) = 0 := by
    have hall := load_onto F b
    rw [List.length_append, load_append] at hall
    have hpos : 0 < F.body.length := by
      rw [F.length_body]
      exact Nat.succ_pos _
    rw [crc8Xor_eq _ _ hpos, List.append_inj_left hall (length_load ..)]
    exact F.xor
  unfold judged PlainFrame.kind
  simp only
  rw [if_neg (not_not.mpr hcrc), F.onto_src, if_neg (not_not.mpr rfl), F.onto_cmdN]
  by_cases hc : F.cmdN = GP_REPLY
  · rw [if_neg (not_not.mpr hc), if_neg (not_not.mpr hc)]
    have hacts : F.Acts ↔ F.onto b 6 = GP_REPLY_ACK := by
      unfold PlainFrame.Acts
      rw [head_tail F b]
      exact ⟨fun ha => Option.some.inj (ha hc), fun ha _ => congrArg some ha⟩
    by_cases ha : F.onto b 6 = GP_REPLY_ACK
    · rw [if_pos ha, if_pos (hacts.mpr ha)]
    · rw [if_neg ha, if_neg (fun hn => ha (hacts.mp hn))]
  · rw [if_pos hc, if_pos hc]

theorem deliver_eq (mess : ReceivMess) (h : Host) (F : PlainFrame h.sendMess.dev)
    (b : Nat → UInt8) : deliver mess h F b =
      dispatch (F.message mess (tv2ms h.world.now) b) F.kind (receivAlive h) := by
  let s : Link := { gate := ⟨⟨{ mess with buf := b }, none⟩, h⟩, acc := [] }
  have hchunk : s.chunk F.bytes = F.bytes := by
    have hfits : F.bytes.length ≤ 134 := by
      rw [PlainFrame.bytes, List.length_append, F.length_front]
      exact Nat.le_of_lt_succ F.fits
    change readBytes (([] : List UInt8).length : Int) F.bytes = F.bytes
    unfold readBytes
    simp only [List.length_nil]
    rw [if_neg (by decide)]
    exact List.take_of_length_le hfits
  have hne : s.chunk F.bytes ≠ [] := by
    rw [hchunk]
    exact List.cons_ne_nil GP_INIT (F.h1 :: F.h2 :: F.body ++ [GP_END])
  have hfeed : feed GP_INIT GP_END s.acc (s.chunk F.bytes) = .frame F.front := by
    have hno : GP_END ∉ F.front := by
      intro hm
      rcases List.mem_cons.mp hm with hm | hm
      · exact absurd hm (by decide)
      · exact F.noEnd hm
    have hall : s.acc ++ F.bytes = F.front ++ GP_END :: [] := rfl
    rw [hchunk]
    exact feed_eq_frame List.not_mem_nil hno rfl hall
  have hdec : decoded s F.bytes F.front = (F.onto b, (F.body.length : Int)) := by
    unfold decoded
    rw [hchunk]
    exact unescFrame_plain F b
  have hkind : brings (.data F.bytes) s = F.kind := by
    unfold brings
    simp only
    rw [if_neg hne, hfeed]
    simp only
    rw [hdec]
    exact judged_plain F b
  have hmess : brought (.data F.bytes) s = F.message mess (tv2ms h.world.now) b := by
    unfold brought
    simp only
    rw [hfeed]
    simp only
    rw [hdec, hchunk]
    rfl
  have hread := gpReceiv_brings (s := s) (Holds.of_none rfl) (.data F.bytes)
  rw [hkind, hmess] at hread
  exact hread

/-! ## What the handlers read -/

/-- Two messages with `n` bytes of data that are told apart by stale cells only. -/
structure Alike (n : Nat) (m m' : ReceivMess) : Prop where
  len : m'.len = m.len
  dev : m'.dev = m.dev
  data : 0 ≤ m.len ∧ m.len ≤ n
  buf : ∀ i < n + 9, m'.buf i = m.buf i

/-- The message is read past its data: the event code of the registers, the last
byte of the information, and the lower bound of the log, if the upper one is in
range. -/
def Exposed (n : Nat) (m : ReceivMess) (h : Host) : Prop :=
  match h.sendMess.evHandler with
  | .cbGetPollResult => h.sendMess.target = .getRegs ∧ m.cmdN = 0x06 ∧ n < 18
  | .null => m.cmdN = 0x09 ∧ n = 0
  | .cbLogRead => h.sendMess.target = .getBuffAddr ∧ n = 0 ∧
      (be16toh m.buf ReceivMess.cmdBuffOff).toNat ≤ GP_MAX_LOG_BOUND

namespace Alike
variable {n : Nat} {m m' : ReceivMess} (a : Alike n m m')

include a

theorem src : m'.src = m.src := a.buf 4 (by omega)

theorem cmdN : m'.cmdN = m.cmdN := a.buf 5 (by omega)

theorem be16toh {i : Nat} (hi : i + 1 < n + 9) :
    Libgate.be16toh m'.buf i = Libgate.be16toh m.buf i := by
  rw [Libgate.be16toh, Libgate.be16toh, a.buf i (Nat.lt_of_succ_lt hi), a.buf (i + 1) hi]

theorem bin2int (revert : Bool) :
    Util.bin2int m'.buf ReceivMess.cmdBuffOff (sizeT m'.len) revert =
      Util.bin2int m.buf ReceivMess.cmdBuffOff (sizeT m.len) revert := by
  have hsize : sizeT m.len ≤ n := by
    have hdata := a.data
    unfold sizeT
    omega
  have hload : load m'.buf ReceivMess.cmdBuffOff (if sizeT m.len ≤ 8 then sizeT m.len else 8) =
      load m.buf ReceivMess.cmdBuffOff (if sizeT m.len ≤ 8 then sizeT m.len else 8) := by
    refine load_congr ?_
    intro i hi
    have hlt : i < n := by
      refine Nat.lt_of_lt_of_le hi ?_
      split
      · exact hsize
      · next h8 => exact Nat.le_trans (Nat.le_of_not_le h8) hsize
    exact a.buf (6 + i) (by omega)
  rw [a.len, Util.bin2int, Util.bin2int, hload]

theorem blockRecords : Processor.blockRecords m' = Processor.blockRecords m := by
  have hdata := a.data
  unfold Processor.blockRecords
  rw [a.len]
  refine List.map_congr_left ?_
  intro i hi
  have hlt : 8 * i + 8 ≤ n := by
    have hcount : i < (m.len / (8 : Nat)).toNat := List.mem_range.mp hi
    omega
  have hcell : ∀ j < 8, m'.buf (ReceivMess.cmdBuffOff + sizeofEvent * i + j) =
      m.buf (ReceivMess.cmdBuffOff + sizeofEvent * i + j) :=
    fun j hj => a.buf (6 + 8 * i + j) (by omega)
  have hfirst := hcell 0 (by decide)
  rw [Nat.add_zero] at hfirst
  unfold GpEvent.ofMem
  rw [hfirst, hcell 1 (by decide), hcell 2 (by decide), hcell 3 (by decide), hcell 4 (by decide),
    hcell 5 (by decide), hcell 6 (by decide), hcell 7 (by decide)]

theorem pollCid (h : Host) : Processor.pollCid m' h = Processor.pollCid m h := by
  unfold Processor.pollCid
  simp only [a.bin2int, a.dev, a.src]

theorem logData (h : Host) : Processor.logData m' h = Processor.logData m h := by
  unfold Processor.logData
  simp only [a.blockRecords, a.dev, a.src]

theorem tokenBoundReply (h : Host) : Processor.tokenBoundReply m' h = Processor.tokenBoundReply m h := by
  unfold Processor.tokenBoundReply
  rw [a.be16toh (i := 6) (by omega), a.dev]

theorem pollRegs (hn : 18 ≤ n) (h : Host) : Processor.pollRegs m' h = Processor.pollRegs m h := by
  have hev : m'.cmdBuff 20 = m.cmdBuff 20 := a.buf 26 (by omega)
  unfold Processor.pollRegs
  simp only [hev, a.dev]

theorem infoReply (hn : n ≠ 0) (h : Host) : Processor.infoReply m' h = Processor.infoReply m h := by
  have hcell : ∀ i < 4, m'.cmdBuff i = m.cmdBuff i := fun i hi => a.buf (6 + i) (by omega)
  unfold Processor.infoReply
  simp only [hcell 0 (by decide), hcell 1 (by decide), hcell 2 (by decide), hcell 3 (by decide), a.dev]

theorem logAddr (h : Host) (hin : n = 0 →
      GP_MAX_LOG_BOUND < (Libgate.be16toh m.buf ReceivMess.cmdBuffOff).toNat) :
    Processor.logAddr m' h = Processor.logAddr m h := by
  have hup := a.be16toh (i := 6) (by omega)
  unfold Processor.logAddr
  simp only [hup]
  by_cases hn : n = 0
  · rw [if_pos (.inr (hin hn)), if_pos (.inr (hin hn))]
  · have hdown := a.be16toh (i := 8) (by omega)
    simp only [hdown, a.dev, a.src]

/-- A message that is not read past its data has the same effect. -/
theorem processPortInput {h : Host} (he : ¬ Exposed n m h) :
    Processor.processPortInput m' h = Processor.processPortInput m h := by
  unfold Exposed at he
  unfold Processor.processPortInput
  cases hev : h.sendMess.evHandler with
  | cbGetPollResult =>
    rw [hev] at he
    unfold cbGetPollResult
    simp only [a.cmdN, a.pollCid]
    split
    · rfl
    · split
      · next hregs => exact a.pollRegs (Nat.le_of_not_lt fun hn => he ⟨hregs.1, hregs.2, hn⟩) h
      · rfl
  | cbLogRead =>
    rw [hev] at he
    unfold cbLogRead
    simp only [a.logData]
    split
    · next hadd =>
      exact a.logAddr h fun hn => Nat.lt_of_not_le fun hle => he ⟨hadd, hn, hle⟩
    · rfl
  | null =>
    rw [hev] at he
    simp only [a.cmdN, a.tokenBoundReply]
    split
    · next hinfo => rw [a.infoReply fun hn => he ⟨hinfo, hn⟩]
    · rfl

end Alike

/-! ## What a message read past its data shows -/

section Shows
variable {m : ReceivMess} {h : Host}

/-- Behind a handler only the time of the last transmission changes in a record. -/
theorem dispatch_device {k : RxKind} (hk : k.isInput = true) (d : Nat) :
    ∃ t, (dispatch m k h).devices d = { (processPortInput m h).1.devices d with lastSent := t } := by
  cases k with
  | ack => exact gpPutCmd_device _ d
  | reply =>
    unfold dispatch
    simp only
    split
    · exact ⟨_, rfl⟩
    · exact gpPutCmd_device _ d
  | _ => cases hk

/-- The event code that is remembered. -/
theorem shows_lastEv {k : RxKind} (hk : k.isInput = true)
    (hev : h.sendMess.evHandler = .cbGetPollResult)
    (hregs : h.sendMess.target = .getRegs ∧ m.cmdN = 0x06) :
    ((dispatch m k h).devices m.dev.toNat).lastEv = m.cmdBuff 20 := by
  obtain ⟨t, ht⟩ := dispatch_device (m := m) (h := h) hk m.dev.toNat
  have heq : processPortInput m h = pollRegs m h := by
    simp [processPortInput, cbGetPollResult, hev, hregs]
  rw [ht, heq]
  unfold pollRegs
  simp only
  rw [Host.setDev_devices_self]

/-- The lower bound of the log that is remembered. -/
theorem shows_boundDown {k : RxKind} (hk : k.isInput = true)
    (hev : h.sendMess.evHandler = .cbLogRead) (hadd : h.sendMess.target = .getBuffAddr)
    (hup : (be16toh m.buf ReceivMess.cmdBuffOff).toNat ≤ GP_MAX_LOG_BOUND)
    (hdown : (be16toh m.buf (ReceivMess.cmdBuffOff + 2)).toNat ≤ GP_MAX_LOG_BOUND) :
    ((dispatch m k h).devices m.dev.toNat).boundDown =
      be16toh m.buf (ReceivMess.cmdBuffOff + 2) := by
  obtain ⟨t, ht⟩ := dispatch_device (m := m) (h := h) hk m.dev.toNat
  have heq : processPortInput m h = logAddr m h := by
    simp [processPortInput, cbLogRead, hev, hadd]
  have hin : ¬ ((be16toh m.buf (ReceivMess.cmdBuffOff + 2)).toNat > GP_MAX_LOG_BOUND ∨
      (be16toh m.buf ReceivMess.cmdBuffOff).toNat > GP_MAX_LOG_BOUND) :=
    fun hor => hor.elim (Nat.not_lt.mpr hdown) (Nat.not_lt.mpr hup)
  rw [ht, heq]
  unfold logAddr
  simp only
  rw [if_neg hin]
  split
  · obtain ⟨t', ht'⟩ := gpSend_device (adGetBuffDataCmd AD_Q_SHORT m.src.toNat
      (be16toh m.buf (ReceivMess.cmdBuffOff + 2)) (logLength (be16toh m.buf ReceivMess.cmdBuffOff)
        (be16toh m.buf (ReceivMess.cmdBuffOff + 2))))
      (h.setDev m.dev.toNat fun d => { d with
        boundDown := be16toh m.buf (ReceivMess.cmdBuffOff + 2)
        boundUp := be16toh m.buf ReceivMess.cmdBuffOff }) m.dev.toNat
    change ((gpSend _ _).1.devices m.dev.toNat).boundDown = _
    rw [ht', Host.setDev_devices_self]
  · simp only [Host.setDev_devices_self]

/-- The information that is passed on. -/
theorem shows_release {k : RxKind} (hk : k.isInput = true) (hev : h.sendMess.evHandler = .null)
    (hinfo : m.cmdN = 0x09) : ∃ rec rest, rec.release = m.cmdBuff 3 ∧
      (dispatch m k h).trace = h.trace ++ .devInfo rec :: rest := by
  have heq : processPortInput m h = (infoReply m h, 0) := by
    simp [processPortInput, hev, hinfo]
  have hdisp : dispatch m k h = (gpPutCmd (infoReply m h)).1 := by
    cases k with
    | ack =>
      change (gpPutCmd (processPortInput m h).1).1 = _
      rw [heq]
    | reply =>
      unfold dispatch
      simp only
      rw [heq, if_neg (Int.lt_irrefl 0)]
    | _ => cases hk
  have htrace : ∃ rec : ProcInfo, (infoReply m h).trace = h.trace ++ [.devInfo rec] ∧
      rec.release = m.cmdBuff 3 := by
    unfold infoReply
    simp only [Host.note]
    rw [apply_ite Host.trace]
    exact ⟨_, congrArg (· ++ _) (ite_self h.trace), rfl⟩
  obtain ⟨rec, ht, hrel⟩ := htrace
  refine ⟨rec, nextSent (infoReply m h), hrel, ?_⟩
  rw [hdisp, gpPutCmd_trace, ht, List.append_assoc]
  rfl

end Shows

/-! ## When the effect is determined -/

/-- The command outstanding makes a handler read past the data of the frame. -/
def ReadsBeyond (h : Host) (F : PlainFrame h.sendMess.dev) : Prop :=
  F.Acts ∧ match h.sendMess.evHandler with
    | .cbGetPollResult => h.sendMess.target = .getRegs ∧ F.answered = 0x06 ∧ F.data.length < 18
    | .null => F.answered = 0x09 ∧ F.data.length = 0
    | .cbLogRead => h.sendMess.target = .getBuffAddr ∧ F.data.length = 0 ∧ F.crc ≤ 0x80

namespace PlainFrame
variable {dev : UInt8} (F : PlainFrame dev) (mess : ReceivMess) (now : UInt32) (b b' : Nat → UInt8)

theorem message_buf {i : Nat} (hi : i ≠ 5) : (F.message mess now b).buf i = F.onto b i := by
  unfold message accepted
  split
  · exact Function.update_of_ne hi ..
  · rfl

theorem message_cmdN : (F.message mess now b).cmdN = F.answered := by
  unfold message accepted answered ReceivMess.cmdN
  simp only [F.onto_cmdN]
  split
  · have hcell : F.onto b (6 + 1) = F.tail.tail.headD 0 := by
      refine F.onto_tail b ?_
      unfold tail
      cases F.data with
      | nil => rfl
      | cons x rest =>
        cases rest with
        | nil => rfl
        | cons y rest => rfl
    change Function.update (F.onto b) 5 (F.onto b 7) 5 = _
    rw [Function.update_self]
    exact hcell
  · exact F.onto_cmdN b

theorem message_dev : (F.message mess now b).dev = dev := by
  unfold message accepted
  split
  · exact F.onto_src b
  · exact F.onto_src b

theorem message_len : (F.message mess now b).len = if F.cmdN = GP_REPLY then 0 else F.data.length := by
  unfold message accepted
  simp only [F.onto_cmdN]
  split
  · rfl
  · have hlen : ((F.data.length + 4 : Nat) : Int) - 4 = F.data.length := by omega
    rw [F.length_body]
    exact hlen

theorem message_alike : Alike F.data.length (F.message mess now b) (F.message mess now b') := by
  refine ⟨?_, ?_, ?_, ?_⟩
  · rw [message_len, message_len]
  · rw [message_dev, message_dev]
  · rw [message_len]
    split
    · exact ⟨Int.le_refl 0, Int.natCast_nonneg _⟩
    · exact ⟨Int.natCast_nonneg _, Int.le_refl _⟩
  · intro i hi
    by_cases h5 : i = 5
    · rw [h5]
      exact (F.message_cmdN mess now b').trans (F.message_cmdN mess now b).symm
    · rw [F.message_buf mess now b' h5, F.message_buf mess now b h5]
      exact onto_fixed F b' b hi

theorem kind_isInput : F.kind.isInput = true ↔ F.Acts := by
  unfold kind
  by_cases hc : F.cmdN = GP_REPLY
  · rw [if_neg (not_not.mpr hc)]
    by_cases ha : F.Acts
    · rw [if_pos ha]
      exact ⟨fun _ => ha, fun _ => rfl⟩
    · rw [if_neg ha]
      exact ⟨fun hn => Bool.noConfusion hn, fun hn => absurd hn ha⟩
  · rw [if_pos hc]
    exact ⟨fun _ he => absurd he hc, fun _ => rfl⟩

/-- The upper bound a frame without data gives: its checksum and a zero. -/
theorem message_boundUp (hdata : F.data.length = 0) :
    (be16toh (F.message mess now b).buf ReceivMess.cmdBuffOff).toNat ≤ GP_MAX_LOG_BOUND ↔
      F.crc ≤ 0x80 := by
  have htail : F.tail = [F.crc, 0, 0] := by
    rw [tail, List.length_eq_zero_iff.mp hdata]
    rfl
  have hhigh : (F.message mess now b).buf 6 = F.crc := by
    rw [F.message_buf mess now b (by decide)]
    exact F.onto_tail b (i := 0) (by rw [htail]; rfl)
  have hlow : (F.message mess now b).buf 7 = 0 := by
    rw [F.message_buf mess now b (by decide)]
    exact F.onto_tail b (i := 1) (by rw [htail]; rfl)
  have hbound : ∀ c : UInt8, (c.toUInt16 <<< 8 ||| (0 : UInt8).toUInt16).toNat ≤ GP_MAX_LOG_BOUND ↔
      c ≤ 0x80 := by
    intro c
    have hshift : (c.toUInt16 <<< 8 ||| (0 : UInt8).toUInt16).toNat = c.toNat * 256 := by
      have hc := c.toNat_lt
      have h8 : (8 : UInt16).toNat % 16 = 8 := by decide
      have hzero : (0 : UInt8).toUInt16.toNat = 0 := rfl
      rw [UInt16.toNat_or, UInt16.toNat_shiftLeft, UInt8.toNat_toUInt16, h8, Nat.shiftLeft_eq,
        hzero, Nat.or_zero]
      exact Nat.mod_eq_of_lt (by omega)
    rw [hshift, UInt8.le_iff_toNat_le]
    change c.toNat * 256 ≤ 128 * 256 ↔ c.toNat ≤ 128
    exact Nat.mul_le_mul_right_iff (by decide)
  rw [be16toh, hhigh, hlow]
  exact hbound F.crc

end PlainFrame

theorem exposed_iff (mess : ReceivMess) (h : Host) (F : PlainFrame h.sendMess.dev)
    (b : Nat → UInt8) : ReadsBeyond h F ↔
      F.Acts ∧ Exposed F.data.length (F.message mess (tv2ms h.world.now) b) (receivAlive h) := by
  have a := receivAlive_heard h
  unfold ReadsBeyond Exposed
  rw [a.sendMess, F.message_cmdN]
  refine and_congr_right fun _ => ?_
  cases h.sendMess.evHandler with
  | cbGetPollResult => exact Iff.rfl
  | null => exact Iff.rfl
  | cbLogRead =>
    refine and_congr_right fun _ => and_congr_right ?_
    intro hdata
    exact (F.message_boundUp mess _ b hdata).symm

/-- A frame that is not read past its data. -/
theorem deliver_same (mess : ReceivMess) (h : Host) (F : PlainFrame h.sendMess.dev)
    (hno : ¬ ReadsBeyond h F) (b b' : Nat → UInt8) : deliver mess h F b' = deliver mess h F b := by
  rw [deliver_eq, deliver_eq]
  cases hin : F.kind.isInput with
  | false => exact ReceiverFrames.dispatch_noInput hin ..
  | true =>
    have hacts := F.kind_isInput.mp hin
    have he : ¬ Exposed F.data.length (F.message mess (tv2ms h.world.now) b) (receivAlive h) :=
      fun hex => hno ((exposed_iff mess h F b).mpr ⟨hacts, hex⟩)
    have hsame := (F.message_alike mess (tv2ms h.world.now) b b').processPortInput he
    cases hk : F.kind with
    | ack =>
      unfold dispatch
      simp only
      rw [hsame]
    | reply =>
      unfold dispatch
      simp only
      rw [hsame]
    | _ =>
      rw [hk] at hin
      cases hin

/-- A frame that is read past its data. -/
theorem not_determined (mess : ReceivMess) (h : Host) (F : PlainFrame h.sendMess.dev)
    (hbeyond : ReadsBeyond h F) : ¬ Determined mess h F := by
  intro hdet
  -- one buffer of zeros and one of ones
  let z : Nat → UInt8 := fun _ => 0
  let o : Nat → UInt8 := fun i => if i < GP_PORT_READ_BUF_LENGTH then 1 else 0
  have hsame := hdet z o fun i hi => (if_neg (Nat.not_lt.mpr hi)).symm
  rw [deliver_eq, deliver_eq] at hsame
  have hin := F.kind_isInput.mpr hbeyond.1
  obtain ⟨_, hz⟩ := (exposed_iff mess h F z).mp hbeyond
  obtain ⟨_, ho⟩ := (exposed_iff mess h F o).mp hbeyond
  have hcell : ∀ (b : Nat → UInt8) {i}, 6 ≤ i → F.data.length + 9 ≤ i →
      (F.message mess (tv2ms h.world.now) b).buf i = b i := by
    intro b i hi hfar
    rw [F.message_buf _ _ _ (by omega), onto_stale F b hfar]
  unfold Exposed at hz ho
  cases hev : (receivAlive h).sendMess.evHandler with
  | cbGetPollResult =>
    rw [hev] at hz ho
    have hshow := shows_lastEv hin hev ⟨hz.1, hz.2.1⟩
    have hshow' := shows_lastEv hin hev ⟨ho.1, ho.2.1⟩
    rw [F.message_dev] at hshow hshow'
    rw [hsame.devices] at hshow'
    have hne : z 26 = o 26 := by
      rw [← hcell z (i := 26) (by decide) (by omega), ← hcell o (i := 26) (by decide) (by omega)]
      exact hshow.symm.trans hshow'
    exact absurd hne (by decide)
  | null =>
    rw [hev] at hz ho
    obtain ⟨rec, rest, hrel, htrace⟩ := shows_release hin hev hz.1
    obtain ⟨rec', rest', hrel', htrace'⟩ := shows_release hin hev ho.1
    have hrec : rec = rec' := by
      have htraces := hsame.trace
      rw [htrace, htrace'] at htraces
      exact (Obs.devInfo.inj (List.cons.inj (List.append_cancel_left htraces)).1).symm
    have hne : z 9 = o 9 := by
      rw [← hcell z (i := 9) (by decide) (by omega), ← hcell o (i := 9) (by decide) (by omega)]
      exact hrel.symm.trans ((congrArg ProcInfo.release hrec).trans hrel')
    exact absurd hne (by decide)
  | cbLogRead =>
    rw [hev] at hz ho
    have hdown : ∀ b : Nat → UInt8, be16toh (F.message mess (tv2ms h.world.now) b).buf
        (ReceivMess.cmdBuffOff + 2) = (0 : UInt8).toUInt16 <<< 8 ||| (b 9).toUInt16 := by
      intro b
      have height : (F.message mess (tv2ms h.world.now) b).buf 8 = 0 := by
        rw [F.message_buf _ _ _ (by decide)]
        refine F.onto_tail b (i := 2) ?_
        rw [PlainFrame.tail, List.length_eq_zero_iff.mp hz.2.1]
        rfl
      rw [be16toh, height, hcell b (i := 9) (by decide) (by omega)]
    have hshow := shows_boundDown hin hev hz.1 hz.2.2 (by rw [hdown]; decide)
    have hshow' := shows_boundDown hin hev ho.1 ho.2.2 (by rw [hdown]; decide)
    rw [F.message_dev, hdown] at hshow hshow'
    rw [hsame.devices] at hshow'
    have hne : (0 : UInt8).toUInt16 <<< 8 ||| (z 9).toUInt16 =
        (0 : UInt8).toUInt16 <<< 8 ||| (o 9).toUInt16 := hshow.symm.trans hshow'
    exact absurd hne (by decide)

/-- **A frame without an escape has the same effect whatever the buffer held
exactly while no handler reads past its data.** -/
theorem determined_iff (mess : ReceivMess) (h : Host) (F : PlainFrame h.sendMess.dev) :
    Determined mess h F ↔ ¬ ReadsBeyond h F := by
  constructor
  · exact fun hdet hbeyond => not_determined mess h F hbeyond hdet
  · intro hno b b' _
    rw [deliver_same mess h F hno b b']
    exact Same.refl _

/-- Controller 1 is asked for its registers by the poll cycle. -/
def askedRegs : Host :=
  (adGetRegs AD_Q_SHORT 1 (gpSend (pollCmd 1) (boot workingWorld Db.empty)).1).1

/-- The registers without a byte of data. -/
def emptyRegs : PlainFrame askedRegs.sendMess.dev where
  h1 := 8
  h2 := 0
  idCtrl := 0x10
  cmdN := 0x06
  data := []
  crc := 0x17
  noEnd := by decide
  noEsc := by decide
  xor := by decide
  fits := by decide

theorem empty_regs_not_determined : ¬ ∀ mess h F, Determined mess h F := by
  intro hall
  have hbeyond : ReadsBeyond askedRegs emptyRegs := by
    refine ⟨by decide, ?_, ?_, ?_⟩
    · decide
    · decide
    · decide
  exact not_determined ReceiverFrames.blankMess askedRegs emptyRegs hbeyond (hall _ _ _)

end Libgate.StaleBytes
