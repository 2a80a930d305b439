import Libgate.Arrivals

/-! How full the receive buffer gets. `gp_receiv` asks `read` for what is left
of `buf` less a cell for the terminating zero, and moves the cursor behind what
it got. Nothing stops a frame without an end from taking the last cell. -/

namespace Libgate.ReceiveBuffer
open Lib Lib.Memory Lib.Framing Util DbLayer Processor Receiver Layer HostFrame Handlers Transmit
open ReceiverFrames

/-! ## The cells a read changes -/

theorem unescResult_behind {m : Nat → UInt8} {d n i : Nat} (l : Int)
    {r : List UInt8 × Option Nat} (hr : r.1.length ≤ n) (hi : d + n < i) :
    (unescResult m d l r).1 i = m i := by
  unfold unescResult
  split
  · refine store_ge ?_
    rw [List.length_append, List.length_singleton]
    omega
  · exact store_ge (by omega)

/-- Unescaping in place stays in front of the end of the frame. -/
theorem unescFrame_behind {m : Nat → UInt8} {q i : Nat} (h3 : 3 < i) (hq : q < i) :
    (unescFrame m q).1 i = m i := by
  rw [unescFrame, memcpyUnesc_eq m (.inl (Nat.le_refl _))]
  refine unescResult_behind _ (Stuffing.length_units_le ..) ?_
  have hn : ((q : Int) - (ReceivMess.idCtrlOff : Nat)).toNat = q - 3 := by
    change ((q : Int) - 3).toNat = q - 3
    omega
  rw [hn]
  change 3 + (q - 3) < i
  omega

theorem checkFrame_behind (dev : UInt8) {q i : Nat} (rx : Rx) (h5 : 5 < i) (hq : q < i) :
    (checkFrame dev q rx).1.mess.buf i = rx.mess.buf i := by
  have hcell := unescFrame_behind (m := rx.mess.buf) (q := q) (show 3 < i by omega) hq
  have hcmd : ∀ b, Function.update (unescFrame rx.mess.buf q).1 5 b i = rx.mess.buf i := by
    intro b
    rw [Function.update_of_ne (Nat.ne_of_gt h5), hcell]
  unfold unescFrame at hcell hcmd
  unfold checkFrame
  simp only
  split
  · exact hcell
  split
  · exact hcell
  split
  · split
    · exact hcmd _
    split
    · exact hcmd _
    · exact hcmd _
  · exact hcell

section Read
variable {rx : Rx} {acc : List UInt8}

/-- A read gets no more than there is room for. -/
theorem readBytes_room (hl : acc.length ≤ GP_PORT_READ_BUF_LENGTH - 1) (bs : List UInt8) :
    (acc ++ readBytes acc.length bs).length ≤ GP_PORT_READ_BUF_LENGTH - 1 := by
  have hroom : acc.length ≤ 134 := hl
  have hcount : ¬ ((GP_PORT_READ_BUF_LENGTH : Int) - 1 - acc.length) < 0 := by
    change ¬ ((135 : Int) - 1 - acc.length) < 0
    omega
  rw [List.length_append, readBytes, if_neg hcount, List.length_take]
  change _ + min ((135 : Int) - 1 - acc.length).toNat _ ≤ 134
  omega

/-- With the buffer full a read gets nothing. -/
theorem readBytes_full (hl : acc.length = GP_PORT_READ_BUF_LENGTH - 1) (bs : List UInt8) :
    readBytes acc.length bs = [] := by
  have hroom := readBytes_room hl.le bs
  rw [List.length_append] at hroom
  exact List.length_eq_zero_iff.mp (by omega)

/-- The bytes of a chunk and its zero stay in the buffer. -/
theorem taken_behind (hl : acc.length ≤ GP_PORT_READ_BUF_LENGTH - 1) (mess : ReceivMess)
    (now : UInt32) (bs : List UInt8) {i : Nat} (hi : GP_PORT_READ_BUF_LENGTH ≤ i) :
    (taken mess now acc (readBytes acc.length bs)).buf i = mess.buf i := by
  have hroom := readBytes_room hl bs
  refine store_ge ?_
  rw [List.length_append] at hroom ⊢
  have hcap : GP_PORT_READ_BUF_LENGTH = 135 := rfl
  rw [List.length_singleton]
  omega

theorem receive_behind (hr : Holds rx acc) (hl : acc.length ≤ GP_PORT_READ_BUF_LENGTH - 1)
    (dev : UInt8) (now : UInt32) (r : ReadRes) {i : Nat} (hi : GP_PORT_READ_BUF_LENGTH ≤ i) :
    (receive dev now r rx).1.mess.buf i = rx.mess.buf i := by
  cases r with
  | error =>
    change (firstChunk _).1.mess.buf i = _
    rw [firstChunk_eq hr]
  | data bs =>
    rw [receive_eq hr]
    split
    · rfl
    have hchunk := taken_behind hl rx.mess now bs hi
    have hroom := readBytes_room hl bs
    simp only
    generalize hfeed : feed GP_INIT GP_END acc (readBytes acc.length bs) = o
    cases o with
    | stray => exact hchunk
    | more acc' => exact hchunk
    | frame f =>
      obtain ⟨_, _, rest, hsplit⟩ := feed_frame (by decide) hr.noEnd hfeed
      rw [hsplit, List.length_append] at hroom
      have hcap : GP_PORT_READ_BUF_LENGTH = 135 := rfl
      exact (checkFrame_behind dev _ (by omega) (by omega)).trans hchunk

end Read

/-! ## Room -/

/-- Where the cursor is set it is as far into the buffer as the length says, with
room for a byte and the terminating zero. -/
def Room (rx : Rx) : Prop :=
  ∀ p, rx.bufP = some p → rx.mess.len = p ∧ p < GP_PORT_READ_BUF_LENGTH - 1

/-- How many bytes the next read asks for. -/
def asked (rx : Rx) : Int := GP_PORT_READ_BUF_LENGTH - 1 - (firstChunk rx).1.mess.len

/-- The branch `gp_receiv` takes after a read. -/
def outcome (r : ReadRes) (g : Gate) : RxKind :=
  let h := receivAlive g.host
  (receive h.sendMess.dev (tv2ms h.world.now) r g.rx).2

/-- A read asks for a byte, changes no cell behind the buffer, and takes the port
for closed only at the end of the file. -/
structure ReadsInside (r : ReadRes) (g : Gate) : Prop where
  asks : 1 ≤ asked g.rx
  inside : ∀ i ≥ GP_PORT_READ_BUF_LENGTH, (gpReceiv (.read r) g).rx.mess.buf i = g.rx.mess.buf i
  closed : outcome r g = .eof → r = .data []

/-- An event leaves room, and a read keeps to the room there is. -/
def KeepsRoom (e : Ev) (s : Link) : Prop :=
  Room (step e s).gate.rx ∧
    match e with
    | .port (.read r) => ReadsInside r s.gate
    | _ => True

/-- The last cell but one is taken by a frame that has not ended. -/
def FillsUp (e : Ev) (s : Link) : Prop :=
  match e with
  | .port (.read (.data bs)) =>
    (s.acc ++ s.chunk bs).length = GP_PORT_READ_BUF_LENGTH - 1 ∧
      (s.acc ++ s.chunk bs).head? = some GP_INIT ∧ GP_END ∉ s.chunk bs
  | _ => False

instance : (e : Ev) → (s : Link) → Decidable (FillsUp e s)
  | .port (.read (.data _)), _ => inferInstanceAs (Decidable (_ ∧ _ ∧ _))
  | .port (.read .error), _ | .port .timeout, _ | .adapter _, _ => .isFalse not_false

/-- The receiver holds the bytes of an unfinished frame that leaves room. -/
structure Kept (s : Link) : Prop where
  holds : Holds s.gate.rx s.acc
  short : s.acc.length < GP_PORT_READ_BUF_LENGTH - 1

section Step
variable {s : Link}

theorem Kept.room (k : Kept s) : Room s.gate.rx := by
  intro p hp
  rcases k.holds.cursor with ⟨hcur, hlen⟩ | ⟨hcur, _⟩
  · obtain rfl := Option.some.inj (hcur.symm.trans hp)
    exact ⟨hlen, k.short⟩
  · rw [hcur] at hp
    cases hp

theorem Kept.asks (k : Kept s) : 1 ≤ asked s.gate.rx := by
  have hfirst := firstChunk_eq k.holds s.gate.rx.mess.lastRead
  have hshort : s.acc.length < 134 := k.short
  have hlen : asked s.gate.rx = 135 - 1 - (s.acc.length : Int) :=
    congrArg (fun q => 135 - 1 - q.1.mess.len) hfirst
  rw [hlen]
  omega

theorem outcome_eq (hr : Holds s.gate.rx s.acc) (r : ReadRes) :
    outcome r s.gate = Arrivals.brings r s := by
  have k := receivAlive_heard s.gate.host
  have hdev : (receivAlive s.gate.host).sendMess.dev = s.gate.host.sendMess.dev := by
    rw [k.sendMess]
  unfold outcome
  simp only [hdev, k.now]
  exact (Arrivals.receive_brings hr r).1

/-- A read that gets bytes finds no end of the file. -/
theorem outcome_eof_iff (hr : Holds s.gate.rx s.acc) (bs : List UInt8) :
    outcome (.data bs) s.gate = .eof ↔ s.chunk bs = [] := by
  rw [outcome_eq hr]
  constructor
  · intro he
    by_contra hc
    exact (Arrivals.brings_ne hc).2 he
  · intro hc
    unfold Arrivals.brings
    simp only
    rw [if_pos hc]

theorem Kept.readsInside (k : Kept s) (r : ReadRes) : ReadsInside r s.gate where
  asks := k.asks
  inside _ hi := receive_behind k.holds k.short.le _ _ r hi
  closed := by
    intro he
    cases r with
    | error =>
      rw [outcome_eq k.holds] at he
      cases he
    | data bs =>
      have hnone : readBytes s.acc.length bs = [] := (outcome_eof_iff k.holds bs).mp he
      have hshort : s.acc.length < 134 := k.short
      have hcount : ¬ ((GP_PORT_READ_BUF_LENGTH : Int) - 1 - s.acc.length) < 0 := by
        change ¬ ((135 : Int) - 1 - s.acc.length) < 0
        omega
      rw [readBytes, if_neg hcount] at hnone
      rcases List.take_eq_nil_iff.mp hnone with hzero | hnil
      · change ((135 : Int) - 1 - s.acc.length).toNat = 0 at hzero
        omega
      · rw [hnil]

/-- What a read leaves of a frame is short unless it fills the buffer. -/
theorem Kept.step (k : Kept s) {e : Ev} (hf : ¬ FillsUp e s) :
    Kept (ReceiverFrames.step e s) := by
  refine ⟨step_holds e s k.holds, ?_⟩
  cases e with
  | adapter f => exact k.short
  | port e =>
    cases e with
    | timeout => exact k.short
    | read r =>
      cases r with
      | error => exact k.short
      | data bs =>
        change (since s (.read (.data bs))).length < _
        unfold since
        simp only
        split
        · exact k.short
        generalize hfeed : feed GP_INIT GP_END s.acc (s.chunk bs) = o
        cases o with
        | stray => exact k.short
        | frame f => exact Nat.succ_pos _
        | more acc' =>
          obtain ⟨rfl, hhead, hno⟩ := feed_more k.holds.noEnd hfeed
          refine lt_of_le_of_ne (readBytes_room k.short.le bs) ?_
          intro hlen
          exact hf ⟨hlen, hhead, fun hm => hno (List.mem_append_right _ hm)⟩

/-- A frame without an end that fills the buffer is held as it is. -/
theorem FillsUp.full (k : Kept s) {e : Ev} (hf : FillsUp e s) :
    (ReceiverFrames.step e s).gate.rx.bufP = some (GP_PORT_READ_BUF_LENGTH - 1) ∧
      (ReceiverFrames.step e s).acc.length = GP_PORT_READ_BUF_LENGTH - 1 := by
  cases e with
  | adapter f => exact hf.elim
  | port e =>
    cases e with
    | timeout => exact hf.elim
    | read r =>
      cases r with
      | error => exact hf.elim
      | data bs =>
        obtain ⟨hlen, hhead, hno⟩ := hf
        have hsome : readBytes s.acc.length bs ≠ [] := by
          intro hnil
          rw [Link.chunk, hnil, List.append_nil] at hlen
          exact absurd hlen k.short.ne
        have hfeed : feed GP_INIT GP_END s.acc (readBytes s.acc.length bs) =
            .more (s.acc ++ s.chunk bs) := feed_eq_more hhead hno
        have hgot := receive_eq k.holds (receivAlive s.gate.host).sendMess.dev
          (tv2ms (receivAlive s.gate.host).world.now) bs
        have hsince : since s (.read (.data bs)) =
            (feed GP_INIT GP_END s.acc (readBytes s.acc.length bs)).pending s.acc := if_neg hsome
        rw [if_neg hsome, hfeed] at hgot
        rw [hfeed] at hsince
        have hcur : (gpReceiv (.read (.data bs)) s.gate).rx.bufP =
            some (s.acc ++ s.chunk bs).length := congrArg (fun o => o.1.bufP) hgot
        have hacc : (since s (.read (.data bs))).length = (s.acc ++ s.chunk bs).length :=
          congrArg List.length hsince
        rw [hlen] at hcur hacc
        exact ⟨hcur, hacc⟩

theorem FillsUp.noRoom (k : Kept s) {e : Ev} (hf : FillsUp e s) :
    ¬ Room (ReceiverFrames.step e s).gate.rx :=
  fun hroom => absurd (hroom _ (hf.full k).1).2 (Nat.lt_irrefl _)

theorem keepsRoom_iff (k : Kept s) (e : Ev) : KeepsRoom e s ↔ ¬ FillsUp e s := by
  constructor
  · intro hkeeps hf
    exact hf.noRoom k hkeeps.1
  · intro hf
    refine ⟨(k.step hf).room, ?_⟩
    cases e with
    | adapter f => trivial
    | port e =>
      cases e with
      | timeout => trivial
      | read r => exact k.readsInside r

end Step

/-- **When the receive buffer keeps room.** For every stream of bytes, however it
is cut into reads and whatever the adapter does in between. -/
theorem buffer_room_iff (mess : ReceivMess) (host : Host) (es : List Ev) :
    Along step KeepsRoom es (start mess host) ↔
      Along step (fun e s => ¬ FillsUp e s) es (start mess host) := by
  refine Along.iff_of_invariant (I := Kept) ?_ ?_ es ⟨Holds.of_none rfl, Nat.succ_pos _⟩
  · exact fun e s k hf => k.step hf
  · exact fun e s k => keepsRoom_iff k e

/-- A frame that begins and goes on for the whole buffer. -/
def endless : List UInt8 := GP_INIT :: List.replicate 133 0

/-- The next byte of it is taken for the end of the file. -/
theorem endless_frame_closes : ¬ ∀ mess host es, Along step KeepsRoom es (start mess host) := by
  intro hall
  let s := start blankMess (gpInit (boot workingWorld Db.empty))
  have k : Kept s := ⟨Holds.of_none rfl, Nat.succ_pos _⟩
  have hchunk : s.chunk endless = endless := List.take_of_length_le (Nat.le_refl 134)
  have hfills : FillsUp (.port (.read (.data endless))) s := by
    refine ⟨?_, ?_, ?_⟩
    · rw [hchunk, List.length_append, endless, List.length_cons, List.length_replicate]
      rfl
    · rw [hchunk]
      rfl
    · rw [hchunk]
      intro hm
      rcases List.mem_cons.mp hm with hbegin | hm
      · exact absurd hbegin (by decide)
      · exact absurd (List.eq_of_mem_replicate hm) (by decide)
  obtain ⟨_, hnext, _⟩ := hall blankMess (gpInit (boot workingWorld Db.empty))
    [.port (.read (.data endless)), .port (.read (.data [1]))]
  have hlast : KeepsRoom (.port (.read (.data [1])))
      (step (.port (.read (.data endless))) s) := hnext
  have heof := (outcome_eof_iff (step_holds _ s k.holds) [1]).mpr
    (readBytes_full (hfills.full k).2 [1])
  cases ReadRes.data.inj (hlast.2.closed heof)

end Libgate.ReceiveBuffer
