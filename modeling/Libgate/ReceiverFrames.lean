import Libgate.HostFrame
import Libgate.Lib.Framing
import Libgate.Lib.Run

/-! The frames `gp_receiv` hands to `process_port_input`. The receiver is a
framer over `receiv_mess.buf`; what it takes for a good frame depends on how
`memcpy_unesc` and `crc8_xor` report short and badly escaped bodies, and what it
takes for the start of a frame on a cursor that only a finished frame clears. -/

namespace Libgate.ReceiverFrames
open Lib Lib.Memory Lib.Framing Util Send Target Processor Receiver Layer HostFrame

/-! ## The receiver as a framer -/

/-- The receiver holds the bytes `acc` of an unfinished frame. -/
structure Holds (rx : Rx) (acc : List UInt8) : Prop where
  cursor : rx.bufP = some acc.length ∧ rx.mess.len = acc.length ∨ rx.bufP = none ∧ acc = []
  bytes : load rx.mess.buf 0 acc.length = acc
  noEnd : GP_END ∉ acc

theorem Holds.of_none {rx : Rx} (h : rx.bufP = none) : Holds rx [] :=
  ⟨.inr ⟨h, rfl⟩, rfl, by simp⟩

/-- `receiv_mess` once `read` has put a chunk behind `acc`. -/
def taken (mess : ReceivMess) (now : UInt32) (acc chunk : List UInt8) : ReceivMess :=
  { mess with
    lastRead := now, len := acc.length, buf := store mess.buf acc.length (chunk ++ [0]) }

section Refinement
variable {rx : Rx} {acc : List UInt8}

theorem load_taken (hr : Holds rx acc) (now : UInt32) (chunk : List UInt8) :
    load (taken rx.mess now acc chunk).buf 0 (acc ++ chunk).length = acc ++ chunk := by
  have h1 : load (taken rx.mess now acc chunk).buf 0 acc.length = acc := by
    rw [taken, load_store_of_le (by omega), hr.bytes]
  have h2 : load (taken rx.mess now acc chunk).buf (0 + acc.length) chunk.length = chunk := by
    rw [Nat.zero_add]
    exact load_store_append ..
  rw [List.length_append, load_append, h1, h2]

theorem flBegin_taken (hr : Holds rx acc) (now : UInt32) {chunk : List UInt8} (hc : chunk ≠ []) :
    (acc ++ chunk).head? = some (taken rx.mess now acc chunk).flBegin := by
  have h := load_taken hr now chunk
  obtain ⟨n, hn⟩ := Nat.exists_eq_succ_of_ne_zero
    (show (acc ++ chunk).length ≠ 0 by simp [hc])
  rw [hn, load_succ] at h
  rw [← h]; rfl

theorem memchr_taken (mess : ReceivMess) (now : UInt32) (acc chunk : List UInt8) :
    memchr (taken mess now acc chunk).buf acc.length GP_END chunk.length =
      (chunk.idxOf? GP_END).map (acc.length + ·) := by
  rw [memchr, taken, load_store_append]

theorem firstChunk_eq (hr : Holds rx acc) (now : UInt32) :
    firstChunk { rx with mess := { rx.mess with lastRead := now } } =
      ({ mess := { rx.mess with lastRead := now, len := acc.length }, bufP := some acc.length },
        acc.length) := by
  rcases hr.cursor with ⟨hp, hl⟩ | ⟨hp, rfl⟩
  · simp [firstChunk, hp, ← hl]
  · simp [firstChunk, hp]

/-- One read is one step of the framer, with the checks made on a frame it
finishes. -/
theorem receive_eq (hr : Holds rx acc) (dev : UInt8) (now : UInt32) (bs : List UInt8) :
    receive dev now (.data bs) rx =
      if readBytes acc.length bs = [] then
        ({ mess := { rx.mess with lastRead := now, len := acc.length },
           bufP := some acc.length }, .eof)
      else
        let m := taken rx.mess now acc (readBytes acc.length bs)
        match feed GP_INIT GP_END acc (readBytes acc.length bs) with
        | .stray => ({ mess := m, bufP := some acc.length }, .noBegin)
        | .more acc' => ({ mess := { m with len := acc'.length }, bufP := some acc'.length }, .incomplete)
        | .frame f => checkFrame dev f.length { mess := m, bufP := none } := by
  simp only [receive, firstChunk_eq hr now]
  generalize readBytes acc.length bs = chunk
  by_cases hc : chunk = []
  · rw [if_pos hc, if_pos hc]
  rw [if_neg hc, if_neg hc]
  have hbegin := flBegin_taken hr now hc
  have hchr := memchr_taken rx.mess now acc chunk
  unfold takeChunk feed
  simp only
  split
  · next hi =>
    rw [if_neg (by rw [hbegin]; exact fun he => hi (Option.some.inj he))]
    rfl
  next hi =>
  have hi' : (taken rx.mess now acc chunk).flBegin = GP_INIT := not_not.mp hi
  rw [if_pos (by rw [hbegin, hi'])]
  split
  · next q hq =>
    obtain ⟨i, hidx, rfl⟩ := Option.map_eq_some_iff.mp (hchr.symm.trans hq)
    obtain ⟨hlt, _⟩ := List.idxOf?_eq_some_iff.mp hidx
    have hlen : (acc ++ chunk.take i).length = acc.length + i := by
      rw [List.length_append, List.length_take_of_le hlt.le]
    rw [hidx]
    simp only [hlen]
    rfl
  · next hq =>
    have hidx : chunk.idxOf? GP_END = none := Option.map_eq_none_iff.mp (hchr.symm.trans hq)
    rw [hidx]
    simp [taken]

end Refinement

/-! ## What the checks accept -/

theorem unescCode_ne_zero {c b : UInt8} (h : unescCode c = some b) : b ≠ 0 := by
  rintro rfl
  have hc : escCode 0 = some c := (escCode_iff 0 c).mpr h
  rw [show escCode 0 = none by decide] at hc
  cases hc

/-- The first cell of a run that stops at a bad escape. -/
theorem unescResult_none_first {m : Nat → UInt8} {s n : Nat} (l : Int) (h0 : m s ≠ 0)
    (hn : (frameCode.units m n s).2 = none) :
    (unescResult m s l (frameCode.units m n s)).1 s ≠ 0 := by
  cases n with
  | zero => cases hn
  | succ n =>
    simp only [unescResult, hn]
    by_cases he : m s = GP_ESC
    · cases hc : unescCode (m (s + 1)) with
      | none =>
        rw [frameCode.units_bad n he hc, store_nil]
        exact h0
      | some b =>
        rw [frameCode.units_esc n he hc, store_cons, store_lt (Nat.lt_succ_self s),
          Function.update_self]
        exact unescCode_ne_zero hc
    · rw [frameCode.units_plain n he, store_cons, store_lt (Nat.lt_succ_self s),
        Function.update_self]
      exact h0

/-- A bad body whose first byte is not zero. -/
theorem memcpyUnesc_bad {m : Nat → UInt8} {s : Nat} {body : List UInt8}
    (hb : load m s body.length = body) (hend : m (s + body.length) = GP_END)
    (hx : frameCode.unstuff body = none) (h0 : m s ≠ 0) :
    (memcpyUnesc m s s body.length).2 = 0 ∧ (memcpyUnesc m s s body.length).1 s ≠ 0 := by
  have hnone := frameCode.units_unstuff_none hb hx (Nat.le_refl _)
    (show unescCode (m (s + body.length)) = none by rw [hend]; decide)
  rw [memcpyUnesc_eq m (.inl (Nat.le_refl s)), Int.toNat_natCast]
  refine ⟨?_, unescResult_none_first _ h0 hnone⟩
  rw [unescResult, hnone]

/-- The memory and the length after `memcpy_unesc` in `gp_receiv`. -/
def unescFrame (m : Nat → UInt8) (q : Nat) : (Nat → UInt8) × Int :=
  memcpyUnesc m ReceivMess.idCtrlOff ReceivMess.idCtrlOff (q - ReceivMess.idCtrlOff : Int)

/-- The checks of `gp_receiv` on the decoded frame. -/
def Accepts (dev : UInt8) (r : (Nat → UInt8) × Int) : Prop :=
  crc8Xor r.1 ReceivMess.idCtrlOff r.2 = 0 ∧ dev = r.1 4 ∧ (r.1 5 = GP_REPLY → r.1 6 = GP_REPLY_ACK)

instance (dev : UInt8) (r : (Nat → UInt8) × Int) : Decidable (Accepts dev r) :=
  inferInstanceAs (Decidable (_ ∧ _))

/-- `receiv_mess` as an accepted frame leaves it. -/
def accepted (mess : ReceivMess) (r : (Nat → UInt8) × Int) : ReceivMess :=
  if r.1 5 = GP_REPLY then
    { mess with buf := Function.update r.1 5 (r.1 7), dev := r.1 4 }
  else { mess with buf := r.1, dev := r.1 4, len := r.2 - 4 }

theorem accepted_src (mess : ReceivMess) (r : (Nat → UInt8) × Int) :
    (accepted mess r).src = r.1 4 := by
  unfold accepted ReceivMess.src
  split
  · change Function.update r.1 5 (r.1 7) 4 = r.1 4
    exact Function.update_of_ne (by decide) ..
  · rfl

theorem accepted_len {mess : ReceivMess} {r : (Nat → UInt8) × Int} (h : r.1 5 ≠ GP_REPLY) :
    (accepted mess r).len = r.2 - 4 := by
  rw [accepted, if_neg h]

/-- How a frame that passes the checks is passed on. -/
def inputKind (r : (Nat → UInt8) × Int) : RxKind := if r.1 5 = GP_REPLY then .ack else .reply

theorem inputKind_isInput (r : (Nat → UInt8) × Int) : (inputKind r).isInput = true := by
  unfold inputKind
  split <;> rfl

/-- The frames `checkFrame` passes on, and what it makes of them. -/
theorem checkFrame_spec (dev : UInt8) (q : Nat) (rx : Rx) :
    (Accepts dev (unescFrame rx.mess.buf q) ∧
        (checkFrame dev q rx).2 = inputKind (unescFrame rx.mess.buf q) ∧
        (checkFrame dev q rx).1.mess = accepted rx.mess (unescFrame rx.mess.buf q)) ∨
      ¬ Accepts dev (unescFrame rx.mess.buf q) ∧ (checkFrame dev q rx).2.isInput = false := by
  unfold checkFrame Accepts accepted inputKind unescFrame
  generalize memcpyUnesc rx.mess.buf _ _ _ = r
  simp only
  split
  · next hc => exact .inr ⟨fun h => UInt8.pos_iff_ne_zero.mp hc h.1, rfl⟩
  next hc =>
  have hc0 : crc8Xor r.1 ReceivMess.idCtrlOff r.2 = 0 :=
    not_not.mp fun hn => hc (UInt8.pos_iff_ne_zero.mpr hn)
  split
  · next hd => exact .inr ⟨fun h => hd h.2.1, rfl⟩
  next hd =>
  split
  · next hr =>
    rw [if_pos (show r.1 5 = GP_REPLY from hr), if_pos (show r.1 5 = GP_REPLY from hr)]
    split
    · next ha => exact .inl ⟨⟨hc0, not_not.mp hd, fun _ => ha⟩, rfl, rfl⟩
    · next ha =>
      refine .inr ⟨fun h => ha (h.2.2 hr), ?_⟩
      split <;> rfl
  · next hr =>
    rw [if_neg (show r.1 5 ≠ GP_REPLY from hr), if_neg (show r.1 5 ≠ GP_REPLY from hr)]
    exact .inl ⟨⟨hc0, not_not.mp hd, fun h => absurd h hr⟩, rfl, rfl⟩

/-- A reply that refuses passes the checks and is not passed on. -/
theorem checkFrame_nack {dev : UInt8} {q : Nat} (rx : Rx)
    (hcrc : crc8Xor (unescFrame rx.mess.buf q).1 ReceivMess.idCtrlOff (unescFrame rx.mess.buf q).2 = 0)
    (hdev : dev = (unescFrame rx.mess.buf q).1 4) (hr : (unescFrame rx.mess.buf q).1 5 = GP_REPLY)
    (ha : (unescFrame rx.mess.buf q).1 6 ≠ GP_REPLY_ACK) : (checkFrame dev q rx).2 = .nack := by
  unfold unescFrame at *
  unfold checkFrame
  generalize memcpyUnesc rx.mess.buf _ _ _ = r at *
  simp only
  split
  · next hc => exact absurd hcrc (UInt8.pos_iff_ne_zero.mp hc)
  split
  · next hd => exact absurd hdev hd
  split
  · split
    · next hack => exact absurd hack ha
    · split <;> rfl
  · next hn => exact absurd hr hn

theorem checkFrame_bufP (dev : UInt8) (q : Nat) (rx : Rx) :
    (checkFrame dev q rx).1.bufP = rx.bufP := by
  unfold checkFrame
  simp only
  repeat' split
  all_goals rfl

/-- The body of a frame without its end, and the decoder's surplus cells. A body
that does not decode must not begin with zero, and one that decodes to fewer
than four bytes must not have the checksum of a good one. -/
def BodySound (m : Nat → UInt8) (f : List UInt8) : Option (List UInt8) → Prop
  | none => m 3 ≠ 0
  | some x => (x.length < 4 → xorAll x ≠ 0) ∧
      ∀ i < f.length - 3 - x.length, m (f.length + i) ≠ GP_ESC

instance (m : Nat → UInt8) (f : List UInt8) : (o : Option (List UInt8)) → Decidable (BodySound m f o)
  | none => inferInstanceAs (Decidable (_ ≠ _))
  | some _ => inferInstanceAs (Decidable (_ ∧ _))

/-- A frame in memory `m` on which the checks of `gp_receiv` can be relied on. -/
def FrameSound (m : Nat → UInt8) (f : List UInt8) : Prop :=
  3 < f.length ∧ BodySound m f (frameCode.unstuff (f.drop 3))

instance (m : Nat → UInt8) (f : List UInt8) : Decidable (FrameSound m f) :=
  inferInstanceAs (Decidable (_ ∧ _))

section Body
variable {m : Nat → UInt8} {f : List UInt8}

theorem load_body (hf : load m 0 f.length = f) (h3 : 3 ≤ f.length) :
    load m 3 (f.drop 3).length = f.drop 3 := by
  have h : load m 0 (3 + (f.drop 3).length) = f := by
    rw [List.length_drop, Nat.add_sub_of_le h3, hf]
  rw [load_append] at h
  have hd := congrArg (List.drop 3) h
  rwa [List.drop_left' (length_load ..)] at hd

theorem unescFrame_eq (h3 : 3 ≤ f.length) :
    unescFrame m f.length = memcpyUnesc m 3 3 (f.drop 3).length := by
  rw [unescFrame, List.length_drop, Int.ofNat_sub h3]

theorem getElem?_of_load {x : List UInt8} {p i : Nat} (h : load m p x.length = x)
    (hi : i < x.length) : x[i]? = some (m (p + i)) := by
  rw [← h, List.getElem?_eq_getElem (by simpa using hi), getElem_load]

/-- What an accepted frame decodes to. -/
theorem Accepts.decodes {dev : UInt8} (hf : load m 0 f.length = f) (hend : m f.length = GP_END)
    (hs : FrameSound m f) (ha : Accepts dev (unescFrame m f.length)) :
    ∃ x, frameCode.unstuff (f.drop 3) = some x ∧ 4 ≤ x.length ∧ xorAll x = 0 ∧
      x[1]? = some dev ∧ x[2]? = some ((unescFrame m f.length).1 5) ∧
      (unescFrame m f.length).2 = x.length := by
  obtain ⟨h3, hbody⟩ := hs
  have hload := load_body hf h3.le
  have hq : 3 + (f.drop 3).length = f.length := by rw [List.length_drop]; omega
  rw [unescFrame_eq h3.le] at ha ⊢
  obtain ⟨hcrc, hdev, _⟩ := ha
  cases hx : frameCode.unstuff (f.drop 3) with
  | none =>
    rw [hx] at hbody
    obtain ⟨h0, hne⟩ := memcpyUnesc_bad hload (by rw [hq]; exact hend) hx hbody
    rw [crc8Xor_of_lt_two _ _ (by rw [h0]; decide)] at hcrc
    exact absurd hcrc hne
  | some x =>
    rw [hx] at hbody
    obtain ⟨hshort, hclean⟩ := hbody
    obtain ⟨hlen, hx'⟩ := memcpyUnesc_good (.inl (Nat.le_refl _)) hload hx (by rwa [hq, List.length_drop])
    have hxor : 0 < x.length → xorAll x = 0 := by
      intro hpos
      rw [hlen, crc8Xor_eq _ _ hpos, hx'] at hcrc
      exact hcrc
    have hfour : 4 ≤ x.length := by
      by_contra hlt
      refine hshort (Nat.lt_of_not_le hlt) ?_
      cases x with
      | nil => rfl
      | cons b x => exact hxor (Nat.succ_pos _)
    refine ⟨x, rfl, hfour, hxor (by omega), ?_, getElem?_of_load hx' (by omega), hlen⟩
    rw [getElem?_of_load hx' (by omega), hdev]

end Body

/-! ## Runs -/

/-- An event of the port, or whatever else the adapter does with its state. -/
inductive Ev where
  | adapter (f : Host → Host)
  | port (e : PortEvent)

/-- The gate, and the bytes read since the start of the frame. -/
structure Link where
  gate : Gate
  acc : List UInt8

/-- The bytes `read` gives. -/
def Link.chunk (s : Link) (bs : List UInt8) : List UInt8 := readBytes s.acc.length bs

/-- The bytes since the start of the frame after an event. -/
def since (s : Link) : PortEvent → List UInt8
  | .read (.data bs) =>
    if s.chunk bs = [] then s.acc
    else (feed GP_INIT GP_END s.acc (s.chunk bs)).pending s.acc
  | _ => s.acc

def step (e : Ev) (s : Link) : Link :=
  match e with
  | .adapter f => { s with gate := { s.gate with host := f s.gate.host } }
  | .port e => { gate := gpReceiv e s.gate, acc := since s e }

/-- The adapter before its first event: nothing read, the buffer as it may be. -/
def start (mess : ReceivMess) (host : Host) : Link :=
  { gate := { rx := { mess := mess, bufP := none }, host := host }, acc := [] }

/-- `receiv_mess` as `process_port_input` gets it from an event, if it does. -/
def handed (e : PortEvent) (g : Gate) : Option ReceivMess :=
  match e with
  | .timeout => none
  | .read r =>
    let h := receivAlive g.host
    let s := receive h.sendMess.dev (tv2ms h.world.now) r g.rx
    if s.2.isInput then some s.1.mess else none

theorem gpReceiv_handed {e : PortEvent} {g : Gate} {m : ReceivMess} (h : handed e g = some m) :
    (gpReceiv e g).rx.mess = m ∧
      ((gpReceiv e g).host = (gpPutCmd (processPortInput m (receivAlive g.host)).1).1 ∨
        (gpReceiv e g).host = (processPortInput m (receivAlive g.host)).1) := by
  cases e with
  | timeout => cases h
  | read r =>
    simp only [handed, gpReceiv] at h ⊢
    generalize receive _ _ r g.rx = s at h ⊢
    obtain ⟨rx, k⟩ := s
    split at h
    · next hk =>
      obtain rfl := Option.some.inj h
      refine ⟨rfl, ?_⟩
      cases k with
      | ack => exact .inl rfl
      | reply =>
        by_cases hr : (processPortInput rx.mess (receivAlive g.host)).2 > 0
        · exact .inr (if_pos hr)
        · exact .inl (if_neg hr)
      | _ => cases hk
    · cases h

/-- A message is looked at where there is one. -/
theorem dispatch_noInput {k : RxKind} (hk : k.isInput = false) (m m' : ReceivMess) (h : Host) :
    dispatch m k h = dispatch m' k h := by
  cases k with
  | ack => cases hk
  | reply => cases hk
  | _ => rfl

theorem receivAlive_sendMess (h : Host) :
    (receivAlive h).sendMess = { h.sendMess with isExpected := false } := by
  unfold receivAlive
  simp only
  split
  · rfl
  · obtain ⟨h', hq, he⟩ := gpDevInit_queued h.sendMess.dev.toNat
      ({ h with sendMess := { h.sendMess with isExpected := false } }.setDev h.sendMess.dev.toNat
        fun d => { d with lastRead := tv2ms h.world.now, activ := true, timeoutCount := 0 })
    change (gpDevInit h.sendMess.dev.toNat _).sendMess = _
    rw [he]
    exact hq.sendMess

theorem read_holds {s : Link} (h : Holds s.gate.rx s.acc) (dev : UInt8) (now : UInt32)
    (bs : List UInt8) :
    Holds (receive dev now (.data bs) s.gate.rx).1 (since s (.read (.data bs))) := by
  have hsince : since s (.read (.data bs)) = if readBytes s.acc.length bs = [] then s.acc
      else (feed GP_INIT GP_END s.acc (readBytes s.acc.length bs)).pending s.acc := rfl
  rw [receive_eq h, hsince]
  by_cases hc : readBytes s.acc.length bs = []
  · rw [if_pos hc, if_pos hc]
    exact ⟨.inl ⟨rfl, rfl⟩, h.bytes, h.noEnd⟩
  rw [if_neg hc, if_neg hc]
  have hload := load_taken h now (readBytes s.acc.length bs)
  cases hfeed : feed GP_INIT GP_END s.acc (readBytes s.acc.length bs) with
  | stray =>
    refine ⟨.inl ⟨rfl, rfl⟩, ?_, h.noEnd⟩
    rw [List.length_append, load_append] at hload
    exact List.append_inj_left hload (length_load ..)
  | more acc =>
    obtain ⟨rfl, _, hne⟩ := feed_more h.noEnd hfeed
    exact ⟨.inl ⟨rfl, rfl⟩, hload, hne⟩
  | frame f => exact Holds.of_none (checkFrame_bufP ..)

/-- The receiver holds just the bytes read since the start of the frame. -/
theorem step_holds (e : Ev) (s : Link) (h : Holds s.gate.rx s.acc) :
    Holds (step e s).gate.rx (step e s).acc := by
  cases e with
  | adapter f => exact h
  | port e =>
    cases e with
    | timeout => exact h
    | read r =>
      cases r with
      | error =>
        change Holds (firstChunk _).1 s.acc
        rw [firstChunk_eq h]
        exact ⟨.inl ⟨rfl, rfl⟩, h.bytes, h.noEnd⟩
      | data bs => exact read_holds h ..

/-! ## Well-formed frames -/

/-- The bytes read make a good frame from controller `dev`, and `m` is what it
decodes to. -/
def WellFormed (dev : UInt8) (bytes : List UInt8) (m : ReceivMess) : Prop :=
  ∃ h1 h2 body rest x, bytes = GP_INIT :: h1 :: h2 :: body ++ GP_END :: rest ∧
    GP_END ∉ GP_INIT :: h1 :: h2 :: body ∧ frameCode.unstuff body = some x ∧ 4 ≤ x.length ∧
    xorAll x = 0 ∧ x[1]? = some dev ∧ m.src = dev ∧
    (x[2]? ≠ some GP_REPLY → m.len = (x.length - 4 : Nat))

/-- What an event gives to `process_port_input` is well formed. -/
def HandsWellFormed (e : Ev) (s : Link) : Prop :=
  match e with
  | .port (.read (.data bs)) => ∀ m, handed (.read (.data bs)) s.gate = some m →
      WellFormed s.gate.host.sendMess.dev (s.acc ++ s.chunk bs) m
  | .port e => handed e s.gate = none
  | .adapter _ => True

/-- The frame a read finishes, if it does, is sound where it is stored. -/
def OutcomeSound (m : Nat → UInt8) : Outcome UInt8 → Prop
  | .frame f => FrameSound m f
  | _ => True

instance (m : Nat → UInt8) : (o : Outcome UInt8) → Decidable (OutcomeSound m o)
  | .frame f => inferInstanceAs (Decidable (FrameSound m f))
  | .stray | .more _ => .isTrue trivial

def SoundStep (e : Ev) (s : Link) : Prop :=
  match e with
  | .port (.read (.data bs)) =>
    OutcomeSound (store s.gate.rx.mess.buf s.acc.length (s.chunk bs ++ [0]))
      (feed GP_INIT GP_END s.acc (s.chunk bs))
  | _ => True

instance : (e : Ev) → (s : Link) → Decidable (SoundStep e s)
  | .port (.read (.data _)), _ => inferInstanceAs (Decidable (OutcomeSound ..))
  | .port (.read .error), _ | .port .timeout, _ | .adapter _, _ => .isTrue trivial

theorem load_split {m : Nat → UInt8} {xs ys : List UInt8} {y : UInt8}
    (h : load m 0 (xs ++ y :: ys).length = xs ++ y :: ys) :
    load m 0 xs.length = xs ∧ m xs.length = y := by
  rw [List.length_append, load_append, List.length_cons, load_succ] at h
  obtain ⟨h1, h2⟩ := List.append_inj h (length_load ..)
  rw [Nat.zero_add] at h2
  exact ⟨h1, (List.cons.inj h2).1⟩

/-- A read after which a frame is passed on has finished it. -/
theorem receive_input {rx : Rx} {acc : List UInt8} (hr : Holds rx acc) {dev : UInt8}
    {now : UInt32} {bs : List UInt8} (hk : (receive dev now (.data bs) rx).2.isInput = true) :
    ∃ f, feed GP_INIT GP_END acc (readBytes acc.length bs) = .frame f ∧
      receive dev now (.data bs) rx = checkFrame dev f.length
        { mess := taken rx.mess now acc (readBytes acc.length bs), bufP := none } := by
  rw [receive_eq hr] at hk ⊢
  by_cases hc : readBytes acc.length bs = []
  · rw [if_pos hc] at hk
    cases hk
  rw [if_neg hc] at hk ⊢
  cases hfeed : feed GP_INIT GP_END acc (readBytes acc.length bs) with
  | stray => rw [hfeed] at hk; cases hk
  | more acc => rw [hfeed] at hk; cases hk
  | frame f => exact ⟨f, rfl, rfl⟩

theorem read_wellFormed {s : Link} (hr : Holds s.gate.rx s.acc) {dev : UInt8} {now : UInt32}
    {bs : List UInt8}
    (hs : OutcomeSound (store s.gate.rx.mess.buf s.acc.length (s.chunk bs ++ [0]))
      (feed GP_INIT GP_END s.acc (s.chunk bs)))
    (hk : (receive dev now (.data bs) s.gate.rx).2.isInput = true) :
    WellFormed dev (s.acc ++ s.chunk bs) (receive dev now (.data bs) s.gate.rx).1.mess := by
  obtain ⟨f, hfeed, heq⟩ := receive_input hr hk
  obtain ⟨hbegin, hne, rest, hall⟩ := feed_frame (by decide) hr.noEnd hfeed
  have hload := load_taken hr now (readBytes s.acc.length bs)
  rw [hall] at hload
  obtain ⟨hf, hend⟩ := load_split hload
  have hsound : FrameSound (taken s.gate.rx.mess now s.acc (readBytes s.acc.length bs)).buf f := by
    rw [Link.chunk, hfeed] at hs
    exact hs
  rw [heq] at hk ⊢
  generalize taken s.gate.rx.mess now s.acc (readBytes s.acc.length bs) = mess at *
  rcases checkFrame_spec dev f.length ⟨mess, none⟩ with ⟨hacc, _, hmess⟩ | ⟨_, hno⟩
  · obtain ⟨x, hx, hfour, hxor, hsrc, hcmd, hlen⟩ := hacc.decodes hf hend hsound
    obtain ⟨h1, h2, body, rfl⟩ : ∃ h1 h2 body, f = GP_INIT :: h1 :: h2 :: body := by
      match f, hbegin, hsound.1 with
      | _ :: h1 :: h2 :: body, rfl, _ => exact ⟨h1, h2, body, rfl⟩
    rw [hmess]
    refine ⟨h1, h2, body, rest, x, hall, hne, hx, hfour, hxor, hsrc, ?_, ?_⟩
    · rw [accepted_src, ← hacc.2.1]
    · intro hcmd'
      rw [accepted_len fun he => hcmd' (hcmd.trans (congrArg some he)), hlen]
      exact (Int.ofNat_sub hfour).symm
  · rw [hno] at hk
    cases hk

theorem handed_wellFormed {s : Link} (hr : Holds s.gate.rx s.acc) {bs : List UInt8}
    (hs : SoundStep (.port (.read (.data bs))) s) {m : ReceivMess}
    (hm : handed (.read (.data bs)) s.gate = some m) :
    WellFormed s.gate.host.sendMess.dev (s.acc ++ s.chunk bs) m := by
  simp only [handed, receivAlive_sendMess] at hm
  split at hm
  · next hk =>
    obtain rfl := Option.some.inj hm
    exact read_wellFormed hr hs hk
  · cases hm

/-- **Whatever reaches `process_port_input` is a well-formed frame while the
frames that finish are sound.** The adapter may do anything between the events
of the port. -/
theorem input_wellFormed (mess : ReceivMess) (host : Host) (es : List Ev)
    (hok : Along step SoundStep es (start mess host)) :
    Along step HandsWellFormed es (start mess host) := by
  refine Along.mono_of_invariant (I := fun s => Holds s.gate.rx s.acc)
    (fun e s h _ => step_holds e s h) ?_ (Holds.of_none rfl) hok
  intro e s hr hs
  match e with
  | .adapter _ => trivial
  | .port .timeout => exact rfl
  | .port (.read .error) => exact rfl
  | .port (.read (.data bs)) => exact fun m hm => handed_wellFormed hr hs hm

/-- `receiv_mess` at program start. -/
def blankMess : ReceivMess := { len := 0, dev := 0, lastRead := 0, buf := fun _ => 0 }

/-- Controller 3 is asked for its information, and the reply comes in two reads. -/
def infoExchange : List Ev :=
  [.adapter fun h => (adGetInfo AD_Q_SHORT 3 h).1,
    .port (.read (.data [GP_INIT, 8, 0, 0x10, 3])),
    .port (.read (.data [9, 0x1A, GP_END]))]

theorem input_wellFormed_split :
    Along step HandsWellFormed infoExchange
      (start blankMess (gpInit (boot workingWorld Db.empty))) :=
  input_wellFormed blankMess (gpInit (boot workingWorld Db.empty)) infoExchange (by decide)

/-- The source byte that reply left behind lets an empty frame through. -/
theorem empty_frame_handed :
    ¬ ∀ mess host es, Along step HandsWellFormed es (start mess host) := by
  intro hall
  let s := run step infoExchange (start blankMess (gpInit (boot workingWorld Db.empty)))
  obtain ⟨_, _, _, hend, _⟩ := hall blankMess (gpInit (boot workingWorld Db.empty))
    (infoExchange ++ [.port (.read (.data [GP_INIT, GP_END]))])
  have hlast : HandsWellFormed (.port (.read (.data [GP_INIT, GP_END]))) s := hend
  have hsome : (handed (.read (.data [GP_INIT, GP_END])) s.gate).isSome = true := by decide
  have htwo : (s.acc ++ s.chunk [GP_INIT, GP_END]).length = 2 := by decide
  obtain ⟨m, hm⟩ := Option.isSome_iff_exists.mp hsome
  obtain ⟨h1, h2, body, rest, x, hbytes, _⟩ := hlast m hm
  rw [hbytes] at htwo
  simp at htwo

end Libgate.ReceiverFrames
