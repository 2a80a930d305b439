import Mathlib.Data.List.TakeDrop
import Libgate.Queueing

/-! The commands that write a controller's memory (command 0x05). Each builder
of `ad_target.c` types the same header anew: an address, the length of what
follows and the bytes. A controller that goes by the header stores just the
caller's bytes when the length is that of the bytes, and only the first two of
four for `ad_set_times`. -/

namespace Libgate.MemoryWrites
open Lib.Memory Send Target HostFrame Queueing

/-! ## The builders -/

/-- A call of one of the builders, with the bytes the caller hands over as long
as their C type. -/
inductive MemWrite where
  | exchange (newDst : Nat)
  | setDate (d : List UInt8) (hd : d.length = 8)
  | setBuffAddrDown (addr : UInt16)
  | resetBuff
  | setTokenBound (addr : UInt16)
  | setToken (addr : UInt16) (data : List UInt8) (n : Nat) (hn : 1 ≤ n ∧ n ≤ GP_MAX_TICKET_NUM)
      (hd : data.length = 8 * n)
  | setTimes (t : List UInt8) (ht : t.length = 4)
  | setSchedRec (num : Int) (rec : List UInt8) (hr : rec.length = 8) (handler : EvCbFunc)

namespace MemWrite

/-- The call. -/
def issue (w : MemWrite) (q : Int) (gpDst : Nat) : Host → Host × Int :=
  match w with
  | exchange newDst => adExchange q gpDst newDst
  | setDate d _ => adSetDate q gpDst d
  | setBuffAddrDown addr => adSetBuffAddrDown q gpDst addr
  | resetBuff => adResetBuff q gpDst
  | setTokenBound addr => adSetTokenBound q gpDst addr
  | setToken addr data n _ _ => adSetToken q gpDst addr data n
  | setTimes t _ => adSetTimes q gpDst t
  | setSchedRec num rec _ handler => adSetSchedRec q gpDst num rec handler

/-- Where in the controller's memory the call is to write. -/
def target : MemWrite → UInt16
  | exchange _ => 0x0001
  | setDate .. => 0x0000
  | setBuffAddrDown _ => 0x000A
  | resetBuff => 0x0008
  | setTokenBound _ => 0x00BE
  | setToken addr .. => addr
  | setTimes .. => 0x0000
  | setSchedRec num .. => UInt16.ofInt (0x0078 + 8 * num)

/-- What the call is to write. -/
def payload : MemWrite → List UInt8
  | exchange newDst => [UInt8.ofNat newDst]
  | setDate d _ => d
  | setBuffAddrDown addr => be16 addr
  | resetBuff => [0, 0, 0, 0]
  | setTokenBound addr => be16 addr
  | setToken _ data .. => data
  | setTimes t _ => t
  | setSchedRec _ rec .. => rec

/-- The only builder whose length byte is not that of its bytes. -/
def isTimes : MemWrite → Bool
  | setTimes .. => true
  | _ => false

end MemWrite

/-! ## What a command says of itself -/

/-- The command describes its own payload: the length byte is the length of the
data behind the header, the address before them is the target, and they are
what the caller gave. -/
structure Describes (w : MemWrite) (z : CmdSend) : Prop where
  length : z.dataLen = (z.cmdBuff.getD 2 0).toNat + 5
  address : [z.cmdBuff.getD 3 0, z.cmdBuff.getD 4 0] = be16 w.target
  bytes : z.data.drop 5 = w.payload

/-- A header in front of the payload; only the length byte is in question. -/
structure Headed (w : MemWrite) (z : CmdSend) (len : UInt8) : Prop where
  buff : ∃ b0 b1, z.cmdBuff = b0 :: b1 :: len :: (be16 w.target ++ w.payload)
  dataLen : z.dataLen = w.payload.length + 5

theorem data_takeD {data : List UInt8} {n : Nat} (hd : data.length = n) : data.takeD n 0 = data := by
  rw [List.takeD_eq_take _ (Nat.le_of_eq hd.symm)]
  exact List.take_of_length_le (Nat.le_of_eq hd)

namespace Headed
variable {w : MemWrite} {z : CmdSend} {len : UInt8}

/-- A header with its address written out. -/
theorem of_bytes {b0 b1 hi lo : UInt8} (ht : be16 w.target = [hi, lo])
    (hb : z.cmdBuff = b0 :: b1 :: len :: hi :: lo :: w.payload)
    (hl : z.dataLen = w.payload.length + 5) : Headed w z len :=
  ⟨⟨b0, b1, by rw [hb, ht]; rfl⟩, hl⟩

theorem data (hz : Headed w z len) : z.data = z.cmdBuff := by
  obtain ⟨b0, b1, hb⟩ := hz.buff
  have hlen : z.cmdBuff.length = z.dataLen := by
    rw [hb, hz.dataLen]
    rfl
  exact data_takeD hlen

theorem addr (hz : Headed w z len) : valAt z 3 = w.target.toNat := by
  obtain ⟨b0, b1, hb⟩ := hz.buff
  rw [valAt, hb]
  exact be16_val w.target

theorem bytes (hz : Headed w z len) : z.data.drop 5 = w.payload := by
  obtain ⟨b0, b1, hb⟩ := hz.buff
  rw [hz.data, hb]
  rfl

theorem describes_iff (hz : Headed w z len) : Describes w z ↔ len.toNat = w.payload.length := by
  obtain ⟨b0, b1, hb⟩ := hz.buff
  have hget : z.cmdBuff.getD 2 0 = len := by rw [hb]; rfl
  constructor
  · intro hd
    have hlen := hd.length
    rw [hz.dataLen, hget] at hlen
    omega
  · intro hlen
    refine ⟨?_, ?_, ?_⟩
    · rw [hz.dataLen, hget, hlen]
    · rw [hb]
      rfl
    · exact hz.bytes

/-- The second bank has a header of its own. -/
theorem secondBank (hz : Headed w z len) : Headed w (secondBank z) len := by
  obtain ⟨b0, b1, hb⟩ := hz.buff
  refine ⟨⟨1, b1, ?_⟩, hz.dataLen⟩
  change z.cmdBuff.set 0 1 = _
  rw [hb]
  rfl

end Headed

/-! ## What a call issues -/

/-- The command of a queued or sent one. -/
def cmdOf : Obs → Option CmdSend
  | .queued z => some z
  | .sent z => some z
  | _ => none

/-- The commands queued or sent so far. -/
def issued (h : Host) : List CmdSend := h.trace.filterMap cmdOf

/-- The commands of the second host that the first had not issued. -/
def newlyIssued (h h' : Host) : List CmdSend := (issued h').drop (issued h).length

theorem newlyIssued_eq {h h' : Host} {zs : List CmdSend} (hi : issued h' = issued h ++ zs) :
    newlyIssued h h' = zs := by
  rw [newlyIssued, hi, List.drop_left]

theorem issued_enqueued {k : Nat} {zs : List CmdSend} {h h' : Host} (q : Enqueued k zs h h') :
    issued h' = issued h ++ zs := by
  rw [issued, q.trace, List.filterMap_append, List.filterMap_map]
  exact congrArg _ (List.filterMap_some ..)

theorem issued_gpSend (z : CmdSend) (h : Host) : issued (gpSend z h).1 = issued h ++ [z] := by
  rw [issued, gpSend_trace, List.filterMap_append]
  rfl

/-- The command goes out, or there is memory to queue it. -/
def accepts (q : Int) (ok : Bool) : Bool := decide (q = AD_Q_SHORT) || ok

theorem issued_sendOrQueue (z : CmdSend) (h : Host) : issued (sendOrQueue z h).1 =
    issued h ++ taken (accepts z.queue (h.world.malloc 0)) z := by
  by_cases hz : z.queue = AD_Q_SHORT
  · rw [sendOrQueue, if_pos hz, issued_gpSend, accepts, decide_eq_true hz]
    rfl
  · rw [issued_enqueued (sendOrQueue_enqueued hz h).1, accepts, decide_eq_false hz]
    rfl

theorem issued_bothBanks (z : CmdSend) (h : Host) : issued (bothBanks z h).1 =
    issued h ++ takenBoth (accepts z.queue (h.world.malloc 0))
      (accepts z.queue (h.world.malloc 1)) z := by
  by_cases hz : z.queue = AD_Q_SHORT
  · have hok : ∀ ok, accepts z.queue ok = true := by
      intro ok
      rw [accepts, decide_eq_true hz]
      rfl
    have hfirst := issued_sendOrQueue z h
    have hsecond := issued_sendOrQueue (secondBank z) (sendOrQueue z h).1
    have hok' : accepts (secondBank z).queue ((sendOrQueue z h).1.world.malloc 0) = true := hok _
    rw [hok] at hfirst
    rw [hok', hfirst] at hsecond
    rw [hok, hok]
    exact hsecond.trans (List.append_assoc ..)
  · have hno := decide_eq_false hz
    rw [issued_enqueued (bothBanks_enqueued hz h).1, accepts, accepts, hno]
    rfl

/-- The length byte a builder types. -/
def MemWrite.lenByte (w : MemWrite) : UInt8 :=
  if w.isTimes then 2 else UInt8.ofNat w.payload.length

theorem lenByte_eq {w : MemWrite} (hw : w.isTimes = false) :
    w.lenByte = UInt8.ofNat w.payload.length :=
  if_neg (by rw [hw]; exact Bool.false_ne_true)

section Calls
variable {w : MemWrite} {z : CmdSend} {len : UInt8}

theorem headed_taken (hz : Headed w z len) (ok : Bool) : ∀ y ∈ taken ok z, Headed w y len := by
  intro y hy
  rwa [mem_taken hy]

theorem headed_takenBoth (hz : Headed w z len) (ok ok' : Bool) :
    ∀ y ∈ takenBoth ok ok' z, Headed w y len := by
  intro y hy
  rcases mem_takenBoth hy with rfl | rfl
  · exact hz
  · exact hz.secondBank

variable (q : Int) (gpDst : Nat) (h : Host)

/-- The reset behind an exchange is no memory write. -/
theorem exchange_headed (newDst : Nat) :
    ∀ z ∈ newlyIssued h (adExchange q gpDst newDst h).1, z.cmdN = 0x05 →
      Headed (.exchange newDst) z 1 := by
  obtain ⟨k, hr⟩ := gpInCmd_enqueued
    (adCmd q gpDst .exchange 0x05 6 [0x00, 0xC0, 1, 0x00, 0x01, UInt8.ofNat newDst]) h
  have hz : Headed (.exchange newDst)
      (adCmd q gpDst .exchange 0x05 6 [0x00, 0xC0, 1, 0x00, 0x01, UInt8.ofNat newDst]) 1 :=
    Headed.of_bytes (by decide : be16 0x0001 = [0x00, 0x01]) rfl rfl
  have hi := issued_enqueued k
  unfold adExchange
  simp only
  split
  · have hreset := issued_sendOrQueue (adCmd q gpDst .softReset 0x0B 0 []) (gpInCmd
      (adCmd q gpDst .exchange 0x05 6 [0x00, 0xC0, 1, 0x00, 0x01, UInt8.ofNat newDst]) h).1
    rw [hi, List.append_assoc] at hreset
    rw [adSoftReset, newlyIssued_eq hreset]
    intro z hm hcmd
    rcases List.mem_append.mp hm with hm | hm
    · exact headed_taken hz _ z hm
    · rw [mem_taken hm] at hcmd
      exact absurd hcmd (by decide : (0x0B : UInt8) ≠ 0x05)
  · rw [newlyIssued_eq hi]
    exact fun z hm _ => headed_taken hz _ z hm

theorem queued_headed (hz : Headed w z len) :
    ∀ y ∈ newlyIssued h (gpInCmd z h).1, y.cmdN = 0x05 → Headed w y len := by
  rw [newlyIssued_eq (issued_enqueued (gpInCmd_enqueued z h).1)]
  exact fun y hm _ => headed_taken hz _ y hm

theorem single_headed (hz : Headed w z len) :
    ∀ y ∈ newlyIssued h (sendOrQueue z h).1, y.cmdN = 0x05 → Headed w y len := by
  rw [newlyIssued_eq (issued_sendOrQueue z h)]
  exact fun y hm _ => headed_taken hz _ y hm

theorem both_headed (hz : Headed w z len) :
    ∀ y ∈ newlyIssued h (bothBanks z h).1, y.cmdN = 0x05 → Headed w y len := by
  rw [newlyIssued_eq (issued_bothBanks z h)]
  exact fun y hm _ => headed_takenBoth hz _ _ y hm

/-- The memory writes of a call have the target and the payload in them; the
length byte is the one typed. -/
theorem issue_headed (w : MemWrite) :
    ∀ z ∈ newlyIssued h (w.issue q gpDst h).1, z.cmdN = 0x05 → Headed w z w.lenByte := by
  cases w with
  | exchange newDst => exact exchange_headed q gpDst h newDst
  | setDate d hd =>
    rw [lenByte_eq rfl, MemWrite.payload, hd]
    refine queued_headed h (Headed.of_bytes (by decide : be16 0x0000 = [0x00, 0x00]) rfl ?_)
    rw [MemWrite.payload, hd]
    rfl
  | setBuffAddrDown addr =>
    exact single_headed h (Headed.of_bytes (by decide : be16 0x000A = [0x00, 0x0A]) rfl rfl)
  | resetBuff =>
    exact single_headed h (Headed.of_bytes (by decide : be16 0x0008 = [0x00, 0x08]) rfl rfl)
  | setTokenBound addr =>
    exact both_headed h (Headed.of_bytes (by decide : be16 0x00BE = [0x00, 0xBE]) rfl rfl)
  | setToken addr data n hn hd =>
    rw [lenByte_eq rfl, MemWrite.payload, hd]
    refine both_headed h ⟨⟨0x00, 0xA0, ?_⟩, ?_⟩
    · change [0x00, 0xA0, UInt8.ofNat (8 * n)] ++ be16 addr ++ data.takeD (8 * n) 0 = _
      rw [data_takeD hd]
      rfl
    · rw [MemWrite.payload, hd, Nat.add_comm]
      rfl
  | setTimes t ht =>
    refine both_headed h (Headed.of_bytes (by decide : be16 0x0000 = [0x00, 0x00]) rfl ?_)
    rw [MemWrite.payload, ht]
    rfl
  | setSchedRec num rec hr handler =>
    rw [lenByte_eq rfl, MemWrite.payload, hr]
    refine both_headed h ⟨⟨0x00, 0xA0, rfl⟩, ?_⟩
    rw [MemWrite.payload, hr]
    rfl

end Calls

/-! ## Which builders are right -/

theorem payload_length_lt (w : MemWrite) : w.payload.length < 256 := by
  cases w with
  | setDate d hd => exact hd ▸ (by decide : 8 < 256)
  | setToken addr data n hn hd =>
    have hmax : n ≤ 12 := hn.2
    rw [MemWrite.payload, hd]
    omega
  | setTimes t ht => exact ht ▸ (by decide : 4 < 256)
  | setSchedRec num rec hr handler => exact hr ▸ (by decide : 8 < 256)
  | exchange newDst => exact (by decide : 1 < 256)
  | setBuffAddrDown addr => exact (by decide : 2 < 256)
  | resetBuff => decide
  | setTokenBound addr => exact (by decide : 2 < 256)

theorem lenByte_right_iff (w : MemWrite) :
    w.lenByte.toNat = w.payload.length ↔ w.isTimes = false := by
  unfold MemWrite.lenByte
  cases hw : w.isTimes with
  | false =>
    rw [if_neg Bool.false_ne_true, UInt8.toNat_ofNat_of_lt' (payload_length_lt w)]
    exact ⟨fun _ => rfl, fun _ => rfl⟩
  | true =>
    rw [if_pos rfl]
    cases w with
    | setTimes t ht =>
      rw [MemWrite.payload, ht]
      decide
    | _ => cases hw

/-- There is memory for no command of the call, and it sends nothing at once. -/
def Refused (q : Int) (h : Host) : Prop :=
  q ≠ AD_Q_SHORT ∧ h.world.malloc 0 = false ∧ h.world.malloc 1 = false

/-- `ad_set_times` issues a command unless both are refused. -/
theorem setTimes_issues (q : Int) (gpDst : Nat) {t : List UInt8} (ht : t.length = 4) (h : Host) :
    (∃ z ∈ newlyIssued h ((MemWrite.setTimes t ht).issue q gpDst h).1, z.cmdN = 0x05) ↔
      ¬ Refused q h := by
  have hi := issued_bothBanks
    (adCmd q gpDst .setTimes 0x05 (5 + 4) ([0x00, 0xA0, 2, 0x00, 0x00] ++ t)) h
  change (∃ z ∈ newlyIssued h (bothBanks _ h).1, _) ↔ _
  rw [newlyIssued_eq hi]
  change (∃ z ∈ takenBoth (accepts q _) (accepts q _) _, _) ↔ _
  unfold Refused accepts
  by_cases hq : q = AD_Q_SHORT
  · rw [decide_eq_true hq]
    exact ⟨fun _ hn => hn.1 hq, fun _ => ⟨_, List.mem_cons_self, rfl⟩⟩
  rw [decide_eq_false hq, Bool.false_or, Bool.false_or]
  cases h0 : h.world.malloc 0 with
  | true => exact ⟨fun _ hn => Bool.noConfusion hn.2.1, fun _ => ⟨_, List.mem_cons_self, rfl⟩⟩
  | false =>
    cases h1 : h.world.malloc 1 with
    | true => exact ⟨fun _ hn => Bool.noConfusion hn.2.2, fun _ => ⟨_, List.mem_cons_self, rfl⟩⟩
    | false =>
      constructor
      · intro ⟨z, hz, _⟩
        cases hz
      · intro hn
        exact absurd ⟨hq, rfl, rfl⟩ hn

/-- Every memory write among the commands describes its own payload. -/
def DescribesAll (w : MemWrite) (zs : List CmdSend) : Prop :=
  ∀ z ∈ zs, z.cmdN = 0x05 → Describes w z

/-- **Which memory writes describe their payload.** Those of every builder but
`ad_set_times`, which does so only when it issues nothing at all. -/
theorem memory_write_describes_iff (w : MemWrite) (q : Int) (gpDst : Nat) (h : Host) :
    DescribesAll w (newlyIssued h (w.issue q gpDst h).1) ↔ w.isTimes = false ∨ Refused q h := by
  have hhead := issue_headed q gpDst h w
  constructor
  · intro hall
    by_contra hno
    obtain ⟨htimes, href⟩ := not_or.mp hno
    cases w with
    | setTimes t ht =>
      obtain ⟨z, hz, hcmd⟩ := (setTimes_issues q gpDst ht h).mpr href
      exact htimes ((lenByte_right_iff _).mp
        ((hhead z hz hcmd).describes_iff.mp (hall z hz hcmd)))
    | _ => exact htimes rfl
  · intro hor z hz hcmd
    refine (hhead z hz hcmd).describes_iff.mpr ((lenByte_right_iff w).mpr ?_)
    rcases hor with hw | href
    · exact hw
    · cases w with
      | setTimes t ht => exact absurd href ((setTimes_issues q gpDst ht h).mp ⟨z, hz, hcmd⟩)
      | _ => rfl

/-- The times of a controller are sent with the length of half of them. -/
theorem times_not_described :
    ¬ ∀ w q gpDst h, DescribesAll w (newlyIssued h (MemWrite.issue w q gpDst h).1) := by
  intro hall
  have htimes := hall (.setTimes Layer.cfgTimes rfl) AD_Q_SECOND 3
    (Layer.boot Layer.workingWorld Db.empty)
  have hfirst := (htimes (adCmd AD_Q_SECOND 3 .setTimes 0x05 9
    ([0x00, 0xA0, 2, 0x00, 0x00] ++ Layer.cfgTimes)) (by decide) rfl).length
  revert hfirst; decide

/-! ## What a controller stores -/

/-- A memory write as a controller that goes by the header carries it out: the
bytes the length byte counts go to the address. -/
def applyWrite (z : CmdSend) (m : Nat → UInt8) : Nat → UInt8 :=
  store m (valAt z 3) ((z.data.drop 5).take (z.cmdBuff.getD 2 0).toNat)

theorem Headed.apply {w : MemWrite} {z : CmdSend} {len : UInt8} (hz : Headed w z len)
    (m : Nat → UInt8) : applyWrite z m = store m w.target.toNat (w.payload.take len.toNat) := by
  obtain ⟨b0, b1, hb⟩ := hz.buff
  have hlen : z.cmdBuff.getD 2 0 = len := by rw [hb]; rfl
  rw [applyWrite, hz.addr, hz.bytes, hlen]

end Libgate.MemoryWrites
