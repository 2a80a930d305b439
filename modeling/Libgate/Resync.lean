import Libgate.ReceiverFrames
import Libgate.EscapeRoundTrip

/-! Resynchronisation of the receiver. Neither the timer nor closing and
reopening the port touches `receiv_buf_p`, so a whole reply is taken for a frame
of its own only when no bytes of an unfinished one are held. -/

namespace Libgate.Resync
open Lib Lib.Memory Lib.Framing Util Send Target Processor Receiver Layer ReceiverFrames EscapeRoundTrip

/-- The events after which a reply should be received: the timer, and later a
new command; or the port closed and opened again. The adapter may do anything
else in between. -/
inductive Resyncs : List Ev → Prop where
  | timedOut (f : Host → Host) (z : CmdSend) :
      Resyncs [.port .timeout, .adapter f, .adapter fun h => (gpSend z h).1]
  | reopened (f : Host → Host) (b : Bool) :
      Resyncs [.adapter gpClose, .adapter f, .adapter fun h => (gpReconnect b h).1]

/-- A reply on the line: header, the escaped body, `GP_END`. -/
def replyFrame (h1 h2 : UInt8) (x : List UInt8) : List UInt8 :=
  GP_INIT :: h1 :: h2 :: (memcpyEsc x).1.take (memcpyEsc x).2 ++ [GP_END]

/-- A complete reply from controller `dev` that one `read` can give. -/
structure ValidReply (dev h1 h2 : UInt8) (x : List UInt8) : Prop where
  header : h1 ≠ GP_END ∧ h2 ≠ GP_END
  four : 4 ≤ x.length
  crc : xorAll x = 0
  src : x[1]? = some dev
  fits : (replyFrame h1 h2 x).length < GP_PORT_READ_BUF_LENGTH

/-- A `GP_REPLY` that is not an acknowledgement. -/
def Refuses (x : List UInt8) : Prop := x[2]? = some GP_REPLY ∧ x[3]? ≠ some GP_REPLY_ACK

instance (x : List UInt8) : Decidable (Refuses x) := inferInstanceAs (Decidable (_ ∧ _))

/-- `receiv_mess` as the handlers need it after the body `x`. -/
structure Carries (m : ReceivMess) (x : List UInt8) : Prop where
  src : x[1]? = some m.src
  dev : m.dev = m.src
  data : load m.buf ReceivMess.cmdBuffOff (x.length - 3) = x.drop 3
  cmd : x[2]? ≠ some GP_REPLY → x[2]? = some m.cmdN ∧ m.len = (x.length - 4 : Nat)

section Reply
variable {dev h1 h2 : UInt8} {x : List UInt8}

/-- Without its end. -/
theorem replyFrame_eq (h1 h2 : UInt8) (x : List UInt8) :
    replyFrame h1 h2 x = GP_INIT :: h1 :: h2 :: frameCode.stuff x ++ [GP_END] := by
  rw [replyFrame, memcpyEsc_take]

theorem end_not_mem (hv : ValidReply dev h1 h2 x) :
    GP_END ∉ GP_INIT :: h1 :: h2 :: frameCode.stuff x := by
  have hbody : GP_END ∉ frameCode.stuff x := by
    refine frameCode.not_mem_stuff (by decide) (by decide) (?_) x
    intro c hc
    have hu : unescCode GP_END = some c := (escCode_iff c GP_END).mp hc
    rw [show unescCode GP_END = none by decide] at hu
    cases hu
  obtain ⟨hh1, hh2⟩ := hv.header
  simp only [List.mem_cons, not_or]
  exact ⟨by decide, hh1.symm, hh2.symm, hbody⟩

/-- A whole reply read into an empty buffer is a frame of its own. -/
theorem receive_reply (hv : ValidReply dev h1 h2 x) {rx : Rx} (hr : Holds rx []) (now : UInt32) :
    receive dev now (.data (replyFrame h1 h2 x)) rx =
      checkFrame dev (GP_INIT :: h1 :: h2 :: frameCode.stuff x).length
        { mess := taken rx.mess now [] (replyFrame h1 h2 x), bufP := none } := by
  have hread : readBytes (([] : List UInt8).length : Int) (replyFrame h1 h2 x) =
      replyFrame h1 h2 x := by
    have hfits := hv.fits
    unfold readBytes
    simp only [List.length_nil]
    rw [if_neg (by decide)]
    exact List.take_of_length_le (Nat.le_of_lt_succ hfits)
  have hne : replyFrame h1 h2 x ≠ [] := by simp [replyFrame]
  have hfeed : feed GP_INIT GP_END [] (replyFrame h1 h2 x) =
      .frame (GP_INIT :: h1 :: h2 :: frameCode.stuff x) :=
    feed_eq_frame (by simp) (end_not_mem hv) rfl (replyFrame_eq h1 h2 x)
  rw [receive_eq hr, hread, if_neg hne, hfeed]

theorem length_replyFrame (h1 h2 : UInt8) (x : List UInt8) :
    (replyFrame h1 h2 x).length = 3 + (frameCode.stuff x).length + 1 := by
  rw [replyFrame_eq]
  simp only [List.length_append, List.length_cons, List.length_nil]
  omega

/-- The cells the decoder goes on over: the end, the zero `gp_receiv` puts
behind the read, then stale ones. -/
theorem reply_tail_clean {m : Nat → UInt8}
    (hstale : ∀ i < escapes x - 2, m ((replyFrame h1 h2 x).length + 1 + i) ≠ GP_ESC) :
    ∀ i < escapes x, store m 0 (replyFrame h1 h2 x ++ [0])
      (3 + (frameCode.stuff x).length + i) ≠ GP_ESC := by
  have hlen := length_replyFrame h1 h2 x
  have hall : replyFrame h1 h2 x ++ [0] =
      (GP_INIT :: h1 :: h2 :: frameCode.stuff x) ++ [GP_END, 0] := by
    rw [replyFrame_eq, List.append_assoc]
    rfl
  have hfront : 0 + (GP_INIT :: h1 :: h2 :: frameCode.stuff x).length =
      3 + (frameCode.stuff x).length := by
    simp only [List.length_cons]
    omega
  intro i hi
  rcases i with _ | _ | i
  · rw [hall, store_append, hfront, Nat.add_zero, store_cons, store_lt (Nat.lt_succ_self _),
      Function.update_self]
    decide
  · rw [hall, store_append, hfront, store_cons, store_cons, store_nil, Function.update_self]
    decide
  · have hge : 0 + (replyFrame h1 h2 x ++ [0]).length ≤
        3 + (frameCode.stuff x).length + (i + 2) := by
      rw [List.length_append, hlen, List.length_singleton]
      omega
    have hcell := hstale i (Nat.lt_sub_of_add_lt hi)
    rw [store_ge hge]
    rwa [hlen, show 3 + (frameCode.stuff x).length + 1 + 1 + i =
      3 + (frameCode.stuff x).length + (i + 2) by omega] at hcell

/-- With no escape behind it in the buffer the reply decodes to its body. -/
theorem reply_decodes {rx : Rx} (hr : Holds rx []) (now : UInt32)
    (hstale : ∀ i < escapes x - 2,
      rx.mess.buf ((replyFrame h1 h2 x).length + 1 + i) ≠ GP_ESC) :
    (unescFrame (taken rx.mess now [] (replyFrame h1 h2 x)).buf
        (GP_INIT :: h1 :: h2 :: frameCode.stuff x).length).2 = x.length ∧
      load (unescFrame (taken rx.mess now [] (replyFrame h1 h2 x)).buf
        (GP_INIT :: h1 :: h2 :: frameCode.stuff x).length).1 3 x.length = x := by
  have hload := load_taken hr now (replyFrame h1 h2 x)
  have hesc : escapes x = (frameCode.stuff x).length - x.length := by
    rw [escapes, memcpyEsc_eq]
  have hclean := reply_tail_clean hstale
  rw [hesc] at hclean
  change ∀ i < _, (taken rx.mess now [] (replyFrame h1 h2 x)).buf _ ≠ GP_ESC at hclean
  generalize (taken rx.mess now [] (replyFrame h1 h2 x)).buf = m at hload hclean
  rw [List.nil_append, replyFrame_eq] at hload
  obtain ⟨hf, _⟩ := load_split hload
  rw [unescFrame_eq (by simp)]
  exact memcpyUnesc_good (.inl (Nat.le_refl _)) (load_body hf (by simp))
    (frameCode.unstuff_stuff x) hclean

/-- What the checks make of a buffer that decodes to a valid reply. -/
theorem valid_checks (hv : ValidReply dev h1 h2 x) {r : (Nat → UInt8) × Int}
    (hlen : r.2 = x.length) (hx : load r.1 3 x.length = x) :
    crc8Xor r.1 ReceivMess.idCtrlOff r.2 = 0 ∧ dev = r.1 4 ∧
      x[2]? = some (r.1 5) ∧ x[3]? = some (r.1 6) := by
  have hfour := hv.four
  refine ⟨?_, ?_, getElem?_of_load hx (by omega), getElem?_of_load hx (by omega)⟩
  · rw [hlen, crc8Xor_eq _ _ (by omega), hx, hv.crc]
  · have hsrc := hv.src
    rw [getElem?_of_load hx (by omega)] at hsrc
    exact (Option.some.inj hsrc).symm

theorem accepted_carries (hv : ValidReply dev h1 h2 x) (mess : ReceivMess)
    {r : (Nat → UInt8) × Int} (hlen : r.2 = x.length) (hx : load r.1 3 x.length = x) :
    Carries (accepted mess r) x := by
  have hfour := hv.four
  obtain ⟨_, hdev, hcmd, _⟩ := valid_checks hv hlen hx
  have hbuf : ∀ i, i ≠ 5 → (accepted mess r).buf i = r.1 i := by
    intro i hi
    unfold accepted
    split
    · exact Function.update_of_ne hi ..
    · rfl
  refine ⟨?_, ?_, ?_, ?_⟩
  · rw [accepted_src, hv.src, hdev]
  · rw [accepted_src, accepted]
    split <;> rfl
  · have hsplit : load r.1 3 (3 + (x.length - 3)) = x := by
      rw [Nat.add_sub_of_le (by omega), hx]
    rw [load_append] at hsplit
    have hdrop := congrArg (List.drop 3) hsplit
    rw [List.drop_left' (length_load ..)] at hdrop
    rw [← hdrop]
    exact load_congr fun i _ => hbuf _ (show 6 + i ≠ 5 by omega)
  · intro hne
    have h5 : r.1 5 ≠ GP_REPLY := fun he => hne (hcmd.trans (congrArg some he))
    refine ⟨?_, ?_⟩
    · rw [hcmd, accepted, if_neg h5]
      rfl
    · rw [accepted_len h5, hlen]
      exact (Int.ofNat_sub hfour).symm

end Reply

/-! ## Resynchronisation -/

/-- The whole reply `x` read in the state `g`: it is passed to
`process_port_input`; one that refuses the command is noted and the next command
sent. -/
def Received (g : Gate) (h1 h2 : UInt8) (x : List UInt8) : Prop :=
  (¬ Refuses x → ∃ m, handed (.read (.data (replyFrame h1 h2 x))) g = some m ∧ Carries m x) ∧
    (Refuses x → (gpReceiv (.read (.data (replyFrame h1 h2 x))) g).host =
      (gpPutCmd (receivAlive g.host)).1)

theorem received_of_holds {g : Gate} {h1 h2 : UInt8} {x : List UInt8} (hr : Holds g.rx [])
    (hstale : ∀ i < escapes x - 2,
      g.rx.mess.buf ((replyFrame h1 h2 x).length + 1 + i) ≠ GP_ESC)
    (hv : ValidReply g.host.sendMess.dev h1 h2 x) : Received g h1 h2 x := by
  have hdev : (receivAlive g.host).sendMess.dev = g.host.sendMess.dev := by
    rw [receivAlive_sendMess]
  obtain ⟨hlen, hx⟩ := reply_decodes hr (tv2ms (receivAlive g.host).world.now) hstale
  have hread := receive_reply hv hr (tv2ms (receivAlive g.host).world.now)
  rw [← hdev] at hv hread
  generalize taken g.rx.mess _ [] (replyFrame h1 h2 x) = mess at *
  obtain ⟨hcrc, hsrc, hcmd, hrep⟩ := valid_checks hv hlen hx
  constructor
  · intro hno
    have hacc : Accepts (receivAlive g.host).sendMess.dev
        (unescFrame mess.buf (GP_INIT :: h1 :: h2 :: frameCode.stuff x).length) := by
      refine ⟨hcrc, hsrc, fun h5 => by_contra fun h6 => hno ⟨?_, ?_⟩⟩
      · rw [hcmd, h5]
      · rw [hrep]
        exact fun he => h6 (Option.some.inj he)
    rcases checkFrame_spec (receivAlive g.host).sendMess.dev
      (GP_INIT :: h1 :: h2 :: frameCode.stuff x).length ⟨mess, none⟩ with
      ⟨_, hin, hmess⟩ | ⟨hnot, _⟩
    · refine ⟨_, ?_, accepted_carries hv mess hlen hx⟩
      simp only [handed, hread]
      rw [if_pos (hin ▸ inputKind_isInput _), hmess]
    · exact absurd hacc hnot
  · intro hrefuses
    obtain ⟨h5, h6⟩ := hrefuses
    rw [hcmd] at h5
    rw [hrep] at h6
    have hkind := checkFrame_nack ⟨mess, none⟩ hcrc hsrc (Option.some.inj h5)
      fun he => h6 (congrArg some he)
    simp only [gpReceiv, hread, hkind]
    rfl

/-- Nothing that resynchronises touches the receiver. -/
theorem Resyncs.keeps {rs : List Ev} (h : Resyncs rs) (s : Link) :
    (run step rs s).gate.rx = s.gate.rx ∧ (run step rs s).acc = s.acc := by
  cases h with
  | timedOut f z => exact ⟨rfl, rfl⟩
  | reopened f b => exact ⟨rfl, rfl⟩

/-- **A whole reply is received after a timeout and a new command, or after the
port was reopened, in every run that left no unfinished frame behind** and no
escape in the cells the decoder goes on over. -/
theorem reply_received (mess : ReceivMess) (host : Host) (es rs : List Ev) (h1 h2 : UInt8)
    (x : List UInt8) (hrs : Resyncs rs) (hquiet : (run step es (start mess host)).acc = [])
    (hstale : ∀ i < escapes x - 2, (run step es (start mess host)).gate.rx.mess.buf
      ((replyFrame h1 h2 x).length + 1 + i) ≠ GP_ESC)
    (hv : ValidReply (run step (es ++ rs) (start mess host)).gate.host.sendMess.dev h1 h2 x) :
    Received (run step (es ++ rs) (start mess host)).gate h1 h2 x := by
  have hholds : Holds (run step es (start mess host)).gate.rx
      (run step es (start mess host)).acc :=
    run_invariant (I := fun s : Link => Holds s.gate.rx s.acc) step_holds es (Holds.of_none rfl)
  rw [run_append] at hv ⊢
  obtain ⟨hrx, hacc⟩ := hrs.keeps (run step es (start mess host))
  refine received_of_holds ?_ ?_ hv
  · rw [hrx, ← hquiet]
    exact hholds
  · rw [hrx]
    exact hstale

/-- After an exchange with controller 3 the timer fires, controller 5 is asked
for its registers, and its reply has an escaped byte. -/
theorem reply_received_after_timeout :
    Received (run step (infoExchange ++ [.port .timeout, .adapter id,
        .adapter fun h => (gpSend (adCmd AD_Q_SHORT 5 .getRegs 0x06 2 [0x15, 0x28]) h).1])
      (start blankMess (gpInit (boot workingWorld Db.empty)))).gate 8 0 [0xFA, 5, 9, 0xF6] :=
  reply_received blankMess (gpInit (boot workingWorld Db.empty)) infoExchange _ 8 0
    [0xFA, 5, 9, 0xF6] (.timedOut id (adCmd AD_Q_SHORT 5 .getRegs 0x06 2 [0x15, 0x28]))
    (by decide) (by decide) ⟨by decide, by decide, by decide, by decide, by decide⟩

/-- The four bytes of a reply that broke off are still held when the timer has
fired and controller 5 answers a new command. -/
theorem truncated_reply_blocks :
    ¬ ∀ mess host es rs h1 h2 x, Resyncs rs →
      ValidReply (run step (es ++ rs) (start mess host)).gate.host.sendMess.dev h1 h2 x →
      Received (run step (es ++ rs) (start mess host)).gate h1 h2 x := by
  intro hall
  let es : List Ev := [.adapter fun h => (adGetInfo AD_Q_SHORT 3 h).1,
    .port (.read (.data [GP_INIT, 8, 0, 0x10]))]
  let z : CmdSend := adCmd AD_Q_SHORT 5 .getRegs 0x06 2 [0x15, 0x28]
  have hrec := hall blankMess (gpInit (boot workingWorld Db.empty)) es _ 8 0 [0x10, 5, 9, 0x1C]
    (.timedOut id z) ⟨by decide, by decide, by decide, by decide, by decide⟩
  obtain ⟨m, hm, _⟩ := hrec.1 (by decide)
  have hnone : (handed (.read (.data (replyFrame 8 0 [0x10, 5, 9, 0x1C])))
      (run step (es ++ [.port .timeout, .adapter id, .adapter fun h => (gpSend z h).1])
        (start blankMess (gpInit (boot workingWorld Db.empty)))).gate).isSome = false := by decide
  rw [hm] at hnone
  cases hnone

end Libgate.Resync
