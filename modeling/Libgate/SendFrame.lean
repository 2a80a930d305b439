import Mathlib.Data.List.TakeDrop
import Libgate.EscapeRoundTrip
import Libgate.HostFrame
import Libgate.Lib.Framing

/-! The frames `gp_send` lays out. Whatever the command, the frame shows where
it ends and what it carries; it need not fit in `send_mess.buf`, because nothing
bounds how many bytes the escapes add. -/

namespace Libgate.SendFrame
open Lib Lib.Framing Util Send Target Layer HostFrame

/-! ## Format -/

/-- The bytes of a command that travel, without their checksum. -/
def payload (cmd : CmdSend) : List UInt8 := cmd.dst :: cmd.cmdN :: cmd.data

/-- The byte `gp_send` appends. -/
def checksum (cmd : CmdSend) : UInt8 := xorAll (cmd.cmdN :: cmd.data)

/-- The begin, an escaped body and the end, and the body read back. -/
def Delimited (cmd : CmdSend) (buf : List UInt8) : Prop :=
  ∃ body crc, buf = GP_INIT :: GP_CTRL :: body ++ [GP_END] ∧ GP_INIT ∉ body ∧ GP_END ∉ body ∧
    frameCode.unstuff body = some (payload cmd ++ [crc]) ∧
    xorAll (cmd.cmdN :: cmd.data ++ [crc]) = 0

/-- The escaped bytes of a command. -/
def body (cmd : CmdSend) : List UInt8 := frameCode.stuff (payload cmd ++ [checksum cmd])

theorem sendFrame_eq (cmd : CmdSend) :
    sendFrame cmd = GP_INIT :: GP_CTRL :: body cmd ++ [GP_END] := by
  have hset : ∀ (xs : List UInt8) (z y : UInt8), (xs ++ [z]).set xs.length y = xs ++ [y] := by
    intro xs z y
    simp
  have hbody : sendFrame cmd =
      (GP_INIT :: GP_CTRL :: body cmd ++ [0]).set (GP_INIT :: GP_CTRL :: body cmd).length
        GP_END := by
    simp only [sendFrame, memcpyEsc_eq]
    rfl
  rw [hbody, hset]

theorem length_data (cmd : CmdSend) : cmd.data.length = cmd.dataLen :=
  List.takeD_length ..

/-- A marker byte of the frame is not among the escaped bytes. -/
theorem not_mem_stuff {y : UInt8} (hy : (escCode y).isSome = true) (hne : y ≠ GP_ESC)
    (hcode : unescCode y = none) (x : List UInt8) : y ∉ frameCode.stuff x := by
  refine frameCode.not_mem_stuff hy hne ?_ x
  intro z hz
  have hu := (escCode_iff z y).mp hz
  rw [hcode] at hu
  cases hu

theorem init_not_mem_body (cmd : CmdSend) : GP_INIT ∉ body cmd :=
  not_mem_stuff (by decide) (by decide) (by decide) _

theorem end_not_mem_body (cmd : CmdSend) : GP_END ∉ body cmd :=
  not_mem_stuff (by decide) (by decide) (by decide) _

theorem xorAll_append_self (xs : List UInt8) : xorAll (xs ++ [xorAll xs]) = 0 := by
  rw [xorAll, List.foldl_append]
  exact UInt8.xor_self

theorem sendFrame_delimited (cmd : CmdSend) : Delimited cmd (sendFrame cmd) :=
  ⟨body cmd, checksum cmd, sendFrame_eq cmd, init_not_mem_body cmd, end_not_mem_body cmd,
    frameCode.unstuff_stuff _, xorAll_append_self _⟩

/-- A frame that begins another carries the same bytes. -/
theorem payload_eq_of_begins {cmd cmd' : CmdSend} (h : sendFrame cmd <+: sendFrame cmd') :
    payload cmd = payload cmd' := by
  have hfront : ∀ c, GP_END ∉ GP_INIT :: GP_CTRL :: body c := by
    intro c hm
    rcases List.mem_cons.mp hm with hm | hm
    · exact absurd hm (by decide)
    rcases List.mem_cons.mp hm with hm | hm
    · exact absurd hm (by decide)
    · exact end_not_mem_body c hm
  rw [sendFrame_eq, sendFrame_eq] at h
  have hbody := eq_of_begins (hfront cmd) (hfront cmd') h
  have hall : payload cmd ++ [checksum cmd] = payload cmd' ++ [checksum cmd'] :=
    frameCode.stuff_injective (List.cons.inj (List.cons.inj hbody).2).2
  exact (List.append_inj' hall rfl).1

/-! ## Size -/

/-- The bytes of a command and its checksum that are sent as a pair. -/
def escaped (cmd : CmdSend) : Nat :=
  (payload cmd ++ [checksum cmd]).countP fun b => b == GP_INIT || b == GP_END || b == GP_ESC

theorem isSome_escCode (b : UInt8) :
    (escCode b).isSome = (b == GP_INIT || b == GP_END || b == GP_ESC) := by
  unfold escCode
  by_cases hi : b = GP_INIT
  · rw [if_pos hi, beq_iff_eq.mpr hi]
    rfl
  rw [if_neg hi, beq_eq_false_iff_ne.mpr hi]
  by_cases he : b = GP_END
  · rw [if_pos he, beq_iff_eq.mpr he]
    rfl
  rw [if_neg he, beq_eq_false_iff_ne.mpr he]
  by_cases hx : b = GP_ESC
  · rw [if_pos hx, beq_iff_eq.mpr hx]
    rfl
  · rw [if_neg hx, beq_eq_false_iff_ne.mpr hx]
    rfl

theorem length_sendFrame (cmd : CmdSend) :
    (sendFrame cmd).length = cmd.dataLen + escaped cmd + 6 := by
  have hmarks : frameCode.marks (payload cmd ++ [checksum cmd]) = escaped cmd :=
    congrArg (fun p => List.countP p (payload cmd ++ [checksum cmd])) (funext isSome_escCode)
  have hbody : (body cmd).length = cmd.dataLen + 3 + escaped cmd := by
    rw [body, frameCode.length_stuff, hmarks, List.length_append, payload]
    simp only [List.length_cons, List.length_nil, length_data]
  rw [sendFrame_eq]
  simp only [List.length_append, List.length_cons, List.length_nil, hbody]
  omega

/-! ## What `gp_send` leaves -/

theorem gpSend_buf (cmd : CmdSend) (h : Host) :
    (gpSend cmd h).1.sendMess.buf = sendFrame cmd ∧
      (gpSend cmd h).1.sendMess.len = cmd.dataLen + escaped cmd + 6 := by
  rw [gpSend_sendMess, ← length_sendFrame]
  exact ⟨rfl, rfl⟩

/-- The frame of a command in `send_mess` is delimited, no other command's frame
begins with it or is it, and it fits. -/
def Laid (cmd : CmdSend) (m : SendMess) : Prop :=
  (m.len = m.buf.length ∧ Delimited cmd m.buf) ∧
    (∀ cmd' : CmdSend, cmd'.dataLen ≤ 119 → payload cmd' ≠ payload cmd →
      ¬ m.buf <+: sendFrame cmd' ∧ ¬ sendFrame cmd' <+: m.buf) ∧
    m.len ≤ GP_PORT_SEND_BUF_LENGTH

/-- **A command's frame is delimited, decodable and told from every other
command's; it fits in `send_mess.buf` exactly while the data and the escapes
take at most 124 bytes.** -/
theorem gpSend_laid (cmd : CmdSend) (h : Host) (_hlen : cmd.dataLen ≤ 119) :
    Laid cmd (gpSend cmd h).1.sendMess ↔ cmd.dataLen + escaped cmd ≤ 124 := by
  obtain ⟨hbuf, hsize⟩ := gpSend_buf cmd h
  unfold Laid
  rw [hbuf, hsize, length_sendFrame]
  constructor
  · intro hlaid
    exact Nat.le_of_add_le_add_right (b := 6) hlaid.2.2
  · intro hfits
    refine ⟨⟨rfl, sendFrame_delimited cmd⟩, ?_, Nat.add_le_add_right hfits 6⟩
    intro cmd' _ hne
    exact ⟨fun hp => hne (payload_eq_of_begins hp).symm, fun hp => hne (payload_eq_of_begins hp)⟩

/-- One card. -/
theorem gpSend_laid_card :
    Laid (adSetTokenCmd AD_Q_SECOND 1 0x00C0 [1, 2, 3, 4, 5, 6, 0, 0xFF] 1)
        (gpSend (adSetTokenCmd AD_Q_SECOND 1 0x00C0 [1, 2, 3, 4, 5, 6, 0, 0xFF] 1)
          (boot workingWorld Db.empty)).1.sendMess ↔
      (adSetTokenCmd AD_Q_SECOND 1 0x00C0 [1, 2, 3, 4, 5, 6, 0, 0xFF] 1).dataLen +
        escaped (adSetTokenCmd AD_Q_SECOND 1 0x00C0 [1, 2, 3, 4, 5, 6, 0, 0xFF] 1) ≤ 124 :=
  gpSend_laid _ _ (by decide)

/-- Twelve cards of escaped bytes, as many as `ad_set_token` takes. -/
theorem gpSend_overruns :
    ¬ ∀ cmd h, cmd.dataLen ≤ 119 → Laid cmd (gpSend cmd h).1.sendMess := by
  intro hall
  let z := adSetTokenCmd AD_Q_SECOND 1 0x00C0 (List.replicate 96 0xFF) 12
  have hlaid := hall z (boot workingWorld Db.empty) (by decide)
  have hfits := hlaid.2.2
  rw [(gpSend_buf z (boot workingWorld Db.empty)).2] at hfits
  have hlong : ¬ z.dataLen + escaped z + 6 ≤ GP_PORT_SEND_BUF_LENGTH := by decide +kernel
  exact hlong hfits

end Libgate.SendFrame
