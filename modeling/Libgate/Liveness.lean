import Libgate.ReceiverFrames
import Libgate.Transmit

/-! What makes a controller count as alive. `gp_receiv` marks the controller the
last command was sent to before it has read a byte, so the marks are evidence of
a read event and not of a frame. -/

namespace Libgate.Liveness
open Lib Lib.Memory Lib.Framing Util Send Target Receiver Layer HostFrame Handlers Transmit
open ReceiverFrames (Link Ev step start since taken Holds receive_eq step_holds unescFrame)

/-! ## Evidence -/

/-- The marks of the controller are set: it was off, had timeouts or was not
initialised, and now is not. -/
def Revived (r r' : GpDev) : Prop :=
  r.activ = false ∧ r'.activ = true ∨ r.timeoutCount ≠ 0 ∧ r'.timeoutCount = 0 ∨
    r.isInited = false ∧ r'.isInited = true

/-- The body of the frame is well escaped, has a good checksum and comes from the
controller. -/
def GoodFrame (d : Nat) (f : List UInt8) : Prop :=
  ∃ x, frameCode.unstuff (f.drop 3) = some x ∧ 4 ≤ x.length ∧ xorAll x = 0 ∧
    x[1]?.map UInt8.toNat = some d

/-- The event finishes a good frame from the controller. -/
def Evidence (e : PortEvent) (s : Link) (d : Nat) : Prop :=
  match e with
  | .read (.data bs) => ∃ f, feed GP_INIT GP_END s.acc (s.chunk bs) = .frame f ∧ GoodFrame d f
  | _ => False

/-- The event brings bytes that, with those read since the start of the frame, make
no good frame from the controller the last command was sent to, whatever comes
behind them: noise, a frame with a bad checksum or one of another controller. -/
def Rejected (e : PortEvent) (s : Link) : Prop :=
  match e with
  | .read (.data bs) => s.chunk bs ≠ [] ∧
      ∀ more f, feed GP_INIT GP_END s.acc (s.chunk bs ++ more) = .frame f →
        ¬ GoodFrame s.gate.host.sendMess.dev.toNat f
  | _ => False

/-- What the event does to the marks and to `is_expected` is backed by a frame. -/
def EvidenceBased (e : Ev) (s : Link) : Prop :=
  match e with
  | .adapter _ => True
  | .port e =>
    (∀ d, Revived (s.gate.host.devices d) ((gpReceiv e s.gate).host.devices d) → Evidence e s d) ∧
      (Rejected e s →
        (∀ d, SameMarks (s.gate.host.devices d) ((gpReceiv e s.gate).host.devices d)) ∧
          (gpReceiv e s.gate).host.sendMess.isExpected = s.gate.host.sendMess.isExpected)

/-! ## What the marks depend on -/

/-- The controller the last command was sent to has all its marks. -/
def Live (h : Host) : Prop :=
  (h.devices h.sendMess.dev.toNat).activ = true ∧
    (h.devices h.sendMess.dev.toNat).timeoutCount = 0 ∧
    (h.devices h.sendMess.dev.toNat).isInited = true

instance (h : Host) : Decidable (Live h) := inferInstanceAs (Decidable (_ ∧ _))

/-- The decoded frame has a bad checksum, or its source is not the controller
the last command was sent to. -/
def Foreign (dev : UInt8) (r : (Nat → UInt8) × Int) : Prop :=
  crc8Xor r.1 ReceivMess.idCtrlOff r.2 ≠ 0 ∨ dev ≠ r.1 4

/-- If the event finishes a frame, `gp_receiv` refuses what `memcpy_unesc` makes of
the buffer. -/
def Refused (e : PortEvent) (s : Link) : Prop :=
  match e with
  | .read (.data bs) => ∀ f, feed GP_INIT GP_END s.acc (s.chunk bs) = .frame f →
      Foreign s.gate.host.sendMess.dev
        (unescFrame (store s.gate.rx.mess.buf s.acc.length (s.chunk bs ++ [0])) f.length)
  | _ => True

/-- No frame that is to be rejected gets through by what the buffer holds behind it. -/
def ReadRight (e : Ev) (s : Link) : Prop :=
  match e with
  | .adapter _ => True
  | .port e => Rejected e s → Refused e s

/-- There is nothing to mark, or the frame is there; and what is rejected comes
when there is nothing to mark and nothing is expected, and is refused. -/
def Grounded (e : Ev) (s : Link) : Prop :=
  match e with
  | .port (.read r) =>
    (Live s.gate.host ∨ Evidence (.read r) s s.gate.host.sendMess.dev.toNat) ∧
      (Rejected (.read r) s →
        (Live s.gate.host ∧ s.gate.host.sendMess.isExpected = false) ∧ Refused (.read r) s)
  | _ => True

/-- The second record has no mark the first lacks. -/
structure NoNewMark (r r' : GpDev) : Prop where
  activ : r'.activ = true → r.activ = true
  timeoutCount : r'.timeoutCount = 0 → r.timeoutCount = 0
  isInited : r'.isInited = true → r.isInited = true

namespace NoNewMark
variable {r r' r'' : GpDev}

theorem trans (n : NoNewMark r r') (n' : NoNewMark r' r'') : NoNewMark r r'' :=
  ⟨fun h => n.activ (n'.activ h), fun h => n.timeoutCount (n'.timeoutCount h),
    fun h => n.isInited (n'.isInited h)⟩

theorem of_same (s : SameMarks r r') : NoNewMark r r' :=
  ⟨fun h => s.activ ▸ h, fun h => s.timeoutCount ▸ h, fun h => s.isInited ▸ h⟩

theorem not_revived (n : NoNewMark r r') : ¬ Revived r r' := by
  intro hr
  rcases hr with ⟨ha, ha'⟩ | ⟨hc, hc'⟩ | ⟨hi, hi'⟩
  · rw [n.activ ha'] at ha
    cases ha
  · exact hc (n.timeoutCount hc')
  · rw [n.isInited hi'] at hi
    cases hi

theorem of_after {zs : List CmdSend} {h h' : Host} (a : After zs h h') (d : Nat) :
    NoNewMark (h.devices d) (h'.devices d) := by
  refine ⟨?_, fun hc => a.timeoutCount d ▸ hc, fun hi => a.isInited d ▸ hi⟩
  intro hon
  rcases a.activ d with hsame | ⟨hoff, _⟩
  · rw [← hsame, hon]
  · rw [hoff] at hon
    cases hon

theorem of_charge (h : Host) (d : Nat) : NoNewMark (h.devices d) ((charge h).devices d) := by
  unfold charge
  split
  · by_cases hd : d = h.sendMess.dev.toNat
    · rw [hd, Host.setDev_devices_self]
      exact ⟨fun ha => ha, fun hc => absurd hc (Nat.succ_ne_zero _), fun hi => hi⟩
    · rw [Host.setDev_devices_ne _ _ hd]
      exact of_same (SameMarks.refl _)
  · exact of_same (SameMarks.refl _)

end NoNewMark

/-- The timer sets no mark. -/
theorem timeout_not_revived (h : Host) (d : Nat) :
    ¬ Revived (h.devices d) ((receivTimeout h).devices d) := by
  refine NoNewMark.not_revived ?_
  have hrec := NoNewMark.of_after (After.reconnect false h) d
  rw [receivTimeout_eq]
  split
  · obtain ⟨zs, ha⟩ := After.sendNext (charge (gpReconnect false h).1)
    exact hrec.trans ((NoNewMark.of_charge _ d).trans (NoNewMark.of_after ha d))
  · exact hrec

/-- A read sets the marks of the controller the last command was sent to, unless
they are set. -/
theorem read_revived (r : ReadRes) (g : Gate) (d : Nat) :
    Revived (g.host.devices d) ((gpReceiv (.read r) g).host.devices d) ↔
      d = g.host.sendMess.dev.toNat ∧ ¬ Live g.host := by
  have k := receivAlive_heard g.host
  have ha : ∃ zs, After zs (receivAlive g.host) (gpReceiv (.read r) g).host := After.dispatch ..
  obtain ⟨zs, ha⟩ := ha
  by_cases hd : d = g.host.sendMess.dev.toNat
  · -- the count is zero, so nothing switches the controller off again
    subst hd
    have hactiv : ((gpReceiv (.read r) g).host.devices g.host.sendMess.dev.toNat).activ =
        true := by
      rcases ha.activ g.host.sendMess.dev.toNat with hsame | ⟨_, hcount⟩
      · exact hsame.trans k.activ
      · rw [k.timeoutCount] at hcount
        exact absurd hcount (Nat.not_lt_zero _)
    have hcount := (ha.timeoutCount g.host.sendMess.dev.toNat).trans k.timeoutCount
    have hinit := (ha.isInited g.host.sendMess.dev.toNat).trans k.isInited
    constructor
    · intro hr
      refine ⟨rfl, ?_⟩
      intro hl
      rcases hr with ⟨hoff, _⟩ | ⟨hc, _⟩ | ⟨hi, _⟩
      · rw [hl.1] at hoff
        cases hoff
      · exact hc hl.2.1
      · rw [hl.2.2] at hi
        cases hi
    · intro hr
      by_contra hn
      refine hr.2 ⟨?_, ?_, ?_⟩
      · by_contra hoff
        exact hn (.inl ⟨Bool.eq_false_iff.mpr hoff, hactiv⟩)
      · by_contra hc
        exact hn (.inr (.inl ⟨hc, hcount⟩))
      · by_contra hi
        exact hn (.inr (.inr ⟨Bool.eq_false_iff.mpr hi, hinit⟩))
  · have hno := (NoNewMark.of_same (k.others d hd)).trans (NoNewMark.of_after ha d)
    exact ⟨fun hr => absurd hr hno.not_revived, fun hr => absurd hr.1 hd⟩

/-! ## What is rejected -/

/-- The outcomes after which nothing is done with the bytes. -/
def RxKind.isRejected (k : RxKind) : Bool :=
  k == .noBegin || k == .incomplete || k == .crcError || k == .deviceError

theorem checkFrame_foreign {dev : UInt8} {q : Nat} (rx : Rx)
    (hf : Foreign dev (unescFrame rx.mess.buf q)) :
    RxKind.isRejected (checkFrame dev q rx).2 = true := by
  unfold Foreign unescFrame at hf
  unfold checkFrame
  generalize memcpyUnesc rx.mess.buf _ _ _ = r at hf ⊢
  simp only
  split
  · rfl
  · next hc =>
    have hdev : dev ≠ r.1 4 := by
      rcases hf with hcrc | hdev
      · exact absurd (UInt8.pos_iff_ne_zero.mpr hcrc) hc
      · exact hdev
    rw [if_pos (show dev ≠ ReceivMess.src { rx.mess with buf := r.1 } from hdev)]
    rfl

theorem rejected_kind {s : Link} (hr : Holds s.gate.rx s.acc) {bs : List UInt8}
    (hrej : Rejected (.read (.data bs)) s) (href : Refused (.read (.data bs)) s) (now : UInt32) :
    RxKind.isRejected (receive s.gate.host.sendMess.dev now (.data bs) s.gate.rx).2 = true := by
  have hc : readBytes s.acc.length bs ≠ [] := hrej.1
  change ∀ f, feed GP_INIT GP_END s.acc (readBytes s.acc.length bs) = .frame f →
    Foreign s.gate.host.sendMess.dev
      (unescFrame (taken s.gate.rx.mess now s.acc (readBytes s.acc.length bs)).buf f.length) at href
  rw [receive_eq hr, if_neg hc]
  cases hfeed : feed GP_INIT GP_END s.acc (readBytes s.acc.length bs) with
  | stray => rfl
  | more acc => rfl
  | frame f => exact checkFrame_foreign { mess := taken .., bufP := none } (href f hfeed)

/-- A rejected read leaves the host as the mark of its controller left it. -/
theorem dispatch_rejected {m : ReceivMess} {k : RxKind} (hk : RxKind.isRejected k = true) (h : Host) :
    (∀ d, SameMarks (h.devices d) ((dispatch m k h).devices d)) ∧
      (dispatch m k h).sendMess = h.sendMess := by
  cases k with
  | noBegin =>
    have hrec := gpReconnect_kept false h
    refine ⟨?_, hrec.1⟩
    intro d
    change SameMarks _ ((gpReconnect false h).1.devices d)
    rw [hrec.2.2.2.1]
    exact SameMarks.refl _
  | incomplete => exact ⟨fun _ => SameMarks.refl _, rfl⟩
  | crcError => exact ⟨fun _ => SameMarks.refl _, rfl⟩
  | deviceError => exact ⟨fun _ => SameMarks.refl _, rfl⟩
  | _ => cases hk

theorem rejected_unchanged {s : Link} (hr : Holds s.gate.rx s.acc) {r : ReadRes}
    (hrej : Rejected (.read r) s) (href : Refused (.read r) s) :
    ((∀ d, SameMarks (s.gate.host.devices d) ((gpReceiv (.read r) s.gate).host.devices d)) ∧
        (gpReceiv (.read r) s.gate).host.sendMess.isExpected =
          s.gate.host.sendMess.isExpected) ↔
      Live s.gate.host ∧ s.gate.host.sendMess.isExpected = false := by
  cases r with
  | error => exact hrej.elim
  | data bs =>
    have k := receivAlive_heard s.gate.host
    have hdev : (receivAlive s.gate.host).sendMess.dev = s.gate.host.sendMess.dev := by
      rw [k.sendMess]
    have hkind := rejected_kind hr hrej href (tv2ms (receivAlive s.gate.host).world.now)
    rw [← hdev] at hkind
    obtain ⟨hmarks, hsend⟩ := dispatch_rejected (m := (receive (receivAlive s.gate.host).sendMess.dev
      (tv2ms (receivAlive s.gate.host).world.now) (.data bs) s.gate.rx).1.mess) hkind
      (receivAlive s.gate.host)
    have hexp : (gpReceiv (.read (.data bs)) s.gate).host.sendMess.isExpected = false := by
      change (dispatch _ _ (receivAlive s.gate.host)).sendMess.isExpected = false
      rw [hsend, k.sendMess]
    rw [hexp]
    constructor
    · intro hsame
      refine ⟨?_, hsame.2.symm⟩
      by_contra hl
      have hrev := (read_revived (.data bs) s.gate s.gate.host.sendMess.dev.toNat).mpr ⟨rfl, hl⟩
      exact (NoNewMark.of_same (hsame.1 _)).not_revived hrev
    · intro hl
      refine ⟨?_, hl.2.symm⟩
      intro d
      refine SameMarks.trans ?_ (hmarks d)
      by_cases hd : d = s.gate.host.sendMess.dev.toNat
      · rw [hd]
        exact ⟨k.activ.trans hl.1.1.symm, k.timeoutCount.trans hl.1.2.1.symm,
          k.isInited.trans hl.1.2.2.symm⟩
      · exact k.others d hd

/-! ## Runs -/

/-- What a read marks is backed by its frame. -/
theorem read_backed_iff (r : ReadRes) (s : Link) :
    (∀ d, Revived (s.gate.host.devices d) ((gpReceiv (.read r) s.gate).host.devices d) →
        Evidence (.read r) s d) ↔
      Live s.gate.host ∨ Evidence (.read r) s s.gate.host.sendMess.dev.toNat := by
  constructor
  · intro hall
    by_cases hl : Live s.gate.host
    · exact .inl hl
    · exact .inr (hall _ ((read_revived r s.gate _).mpr ⟨rfl, hl⟩))
  · intro hor d hd
    obtain ⟨rfl, hl⟩ := (read_revived r s.gate d).mp hd
    exact hor.resolve_left hl

theorem evidenceBased_of_grounded {e : Ev} {s : Link} (hr : Holds s.gate.rx s.acc)
    (hg : Grounded e s) : EvidenceBased e s := by
  match e with
  | .adapter f => trivial
  | .port .timeout =>
    exact ⟨fun d hd => absurd hd (timeout_not_revived s.gate.host d), fun hrej => hrej.elim⟩
  | .port (.read r) =>
    refine ⟨(read_backed_iff r s).mpr hg.1, ?_⟩
    intro hrej
    obtain ⟨hquiet, href⟩ := hg.2 hrej
    exact (rejected_unchanged hr hrej href).mpr hquiet

theorem grounded_of_evidenceBased {e : Ev} {s : Link} (hr : Holds s.gate.rx s.acc)
    (hright : ReadRight e s) (he : EvidenceBased e s) : Grounded e s := by
  match e with
  | .adapter f => trivial
  | .port .timeout => trivial
  | .port (.read r) =>
    refine ⟨(read_backed_iff r s).mp he.1, ?_⟩
    intro hrej
    have href : Refused (.read r) s := hright hrej
    exact ⟨(rejected_unchanged hr hrej href).mp (he.2 hrej), href⟩

/-- Controller 3 is asked for its information and replies in one read. -/
def infoReply : List Ev :=
  [.adapter fun h => (adGetInfo AD_Q_SHORT 3 h).1,
    .port (.read (.data [GP_INIT, 8, 0, 0x10, 3, 9, 0x1A, GP_END]))]

end Libgate.Liveness
