import Libgate.Readings

/-! In which byte order card numbers are read. A controller says it in its
information reply, which is asked for in the second queue once the controller
is heard; the number of a card is taken from the poll reply in the order known
by then. -/

namespace Libgate.ByteOrder
open Lib Lib.Memory DbLayer Util Send Target Processor Receiver Layer HostFrame Arrivals Readings
open ReceiverFrames (Link Holds handed step_holds)

/-! ## Runs -/

inductive Ev where
  | receiv (e : PortEvent)
  | allDevEnable
  | getDevLogs
  | aside (f : Aside)

/-- The receiver, and what the replies have said: of each controller the byte
order in its last information reply, and its last card number as it came, with
the byte order known then. -/
structure Heard where
  link : Link
  told : Nat → Option Bool
  took : Nat → Option (ReceivMess × Option Bool)

def Heard.host (s : Heard) : Host := s.link.gate.host

/-- A message is listened to. -/
def hear (m : ReceivMess) (s : Heard) : Heard :=
  { s with
    told :=
      if IsInfo m s.host then Function.update s.told m.dev.toNat (some (infoOrder m)) else s.told
    took :=
      if IsCid m s.host then Function.update s.took m.dev.toNat (some (m, s.told m.dev.toNat))
      else s.took }

/-- The message an event hands on is listened to. -/
def listen (e : PortEvent) (s : Heard) : Heard := (handed e s.link.gate).elim s fun m => hear m s

def onHost (f : Host → Host) (s : Heard) : Heard :=
  { s with link := { s.link with gate := { s.link.gate with host := f s.host } } }

def step (e : Ev) (s : Heard) : Heard :=
  match e with
  | .receiv e => { listen e s with link := ReceiverFrames.step (.port e) s.link }
  | .allDevEnable => onHost gpAllDevEnable s
  | .getDevLogs => onHost gpGetDevLogs s
  | .aside f => onHost f.run s

/-- The adapter after `gp_init`, nothing heard. -/
def start (mess : ReceivMess) (w : World) (db : Db) : Heard :=
  { link := ReceiverFrames.start mess (gpInit (boot w db)), told := fun _ => none
    took := fun _ => none }

/-! ## Card numbers -/

/-- The card numbers an event names. -/
def named (e : PortEvent) (s : Heard) : List UInt64 :=
  (cards (gpReceiv e s.link.gate).host).drop (cards s.host).length

/-- The controllers' information replies say `order`. -/
def Tells (order : Nat → Bool) (e : Ev) (s : Heard) : Prop :=
  match e with
  | .receiv e => ∀ m ∈ handed e s.link.gate, IsInfo m s.host → infoOrder m = order m.dev.toNat
  | _ => True

instance (order : Nat → Bool) (e : Ev) (s : Heard) : Decidable (Tells order e s) := by
  unfold Tells
  split
  all_goals infer_instance

/-- The card numbers named are those of the last card reply of the controller,
read in its byte order. -/
def Informed (order : Nat → Bool) (e : Ev) (s : Heard) : Prop :=
  match e with
  | .receiv e => ∀ c ∈ named e s, ∃ m ∈ handed e s.link.gate,
    ∃ m' known, s.took m.dev.toNat = some (m', known) ∧ c = cidOf m' (order m.dev.toNat)
  | _ => True

/-- Where a card is named, its number was taken in the byte order of the
controller, or it reads the same in both. -/
def Ordered (order : Nat → Bool) (e : Ev) (s : Heard) : Prop :=
  match e with
  | .receiv e => ∀ m ∈ handed e s.link.gate, NamesCard m s.host →
    ∃ m' known, s.took m.dev.toNat = some (m', known) ∧
      (known.getD false = order m.dev.toNat ∨ cidOf m' true = cidOf m' false)
  | _ => True

/-! ## The invariant -/

/-- The records hold what has been heard. -/
structure Traced (s : Heard) : Prop where
  holds : Holds s.link.gate.rx s.link.acc
  order : ∀ d, (s.host.devices d).cidRevert = (s.told d).getD false
  cid : ∀ d m known, s.took d = some (m, known) →
    (s.host.devices d).lastCid = cidOf m (known.getD false)

/-- What puts no reply into a record keeps the invariant. -/
theorem traced_onHost {f : Host → Host} {s : Heard} (ht : Traced s)
    (hf : ∀ d, SameFacts (s.host.devices d) ((f s.host).devices d)) : Traced (onHost f s) := by
  refine ⟨ht.holds, ?_, ?_⟩
  · intro d
    exact (hf d).cidRevert.trans (ht.order d)
  · intro d m known htook
    exact (hf d).lastCid.trans (ht.cid d m known htook)

/-- A message that is listened to has put what it says into the record. -/
theorem traced_message {e : PortEvent} {s : Heard} {m : ReceivMess} (ht : Traced s)
    (hm : handed e s.link.gate = some m) : Traced (step (.receiv e) s) := by
  obtain ⟨cs, l, _⟩ := event_learned ht.holds hm
  have hstep : step (.receiv e) s =
      { hear m s with link := ReceiverFrames.step (.port e) s.link } := by
    rw [step, listen, hm]
    rfl
  rw [hstep]
  refine ⟨step_holds (.port e) s.link ht.holds, ?_, ?_⟩
  · intro d
    refine (l.facts d).cidRevert.trans ?_
    change _ = ((if IsInfo m s.host then _ else _ : Nat → Option Bool) d).getD false
    by_cases hd : d = m.dev.toNat
    · rw [if_pos hd, learns_cidRevert, hd]
      by_cases hinfo : IsInfo m s.link.gate.host
      · rw [if_pos hinfo, if_pos (show IsInfo m s.host from hinfo), Function.update_self]
        rfl
      · rw [if_neg hinfo, if_neg (show ¬ IsInfo m s.host from hinfo)]
        exact ht.order _
    · rw [if_neg hd]
      split
      · rw [Function.update_of_ne hd]
        exact ht.order d
      · exact ht.order d
  · intro d m' known htook
    refine (l.facts d).lastCid.trans ?_
    change (if IsCid m s.host then _ else _ : Nat → Option (ReceivMess × Option Bool)) d = _
      at htook
    by_cases hd : d = m.dev.toNat
    · rw [if_pos hd, learns_lastCid]
      by_cases hcid : IsCid m s.link.gate.host
      · rw [if_pos (show IsCid m s.host from hcid), hd, Function.update_self] at htook
        obtain ⟨rfl, rfl⟩ := Prod.mk.inj (Option.some.inj htook)
        rw [if_pos hcid, hd]
        exact congrArg (cidOf m) (ht.order _)
      · rw [if_neg (show ¬ IsCid m s.host from hcid)] at htook
        rw [if_neg hcid]
        exact ht.cid d m' known htook
    · rw [if_neg hd]
      split at htook
      · rw [Function.update_of_ne hd] at htook
        exact ht.cid d m' known htook
      · exact ht.cid d m' known htook

theorem step_traced (e : Ev) (s : Heard) (ht : Traced s) : Traced (step e s) := by
  cases e with
  | allDevEnable => exact traced_onHost ht fun d => ((gpAllDevEnable_still _).facts d).toSameFacts
  | getDevLogs => exact traced_onHost ht fun d => ((gpGetDevLogs_still _).facts d).toSameFacts
  | aside f => exact traced_onHost ht (f.facts _)
  | receiv e =>
    cases hm : handed e s.link.gate with
    | some m => exact traced_message ht hm
    | none =>
      have hstep : step (.receiv e) s =
          { s with link := ReceiverFrames.step (.port e) s.link } := by
        rw [step, listen, hm]
        rfl
      have hstill := event_still ht.holds hm
      rw [hstep]
      refine ⟨step_holds (.port e) s.link ht.holds, ?_, ?_⟩
      · intro d
        exact (hstill.facts d).cidRevert.trans (ht.order d)
      · intro d m known htook
        exact (hstill.facts d).lastCid.trans (ht.cid d m known htook)

theorem start_traced (mess : ReceivMess) (w : World) (db : Db) : Traced (start mess w db) := by
  refine ⟨Holds.of_none rfl, ?_, ?_⟩
  · intro d
    exact (gpInit_facts (boot w db) d).cidRevert
  · intro d m known htook
    cases htook

/-! ## Results -/

/-- A number reads as in the byte order `b'` exactly if it reads the same in both. -/
theorem cidOf_eq_iff (m : ReceivMess) (b b' : Bool) :
    cidOf m b = cidOf m b' ↔ b = b' ∨ cidOf m true = cidOf m false := by
  cases b with
  | false =>
    cases b' with
    | false => exact iff_of_true rfl (.inl rfl)
    | true => exact eq_comm.trans (or_iff_right Bool.false_ne_true).symm
  | true =>
    cases b' with
    | false => exact (or_iff_right Bool.false_ne_true.symm).symm
    | true => exact iff_of_true rfl (.inl rfl)

theorem informed_iff (order : Nat → Bool) (e : Ev) (s : Heard) (ht : Traced s) :
    Informed order e s ↔ Ordered order e s := by
  cases e with
  | allDevEnable => exact Iff.rfl
  | getDevLogs => exact Iff.rfl
  | aside f => exact Iff.rfl
  | receiv e =>
    unfold Informed Ordered named
    simp only
    cases hm : handed e s.link.gate with
    | none =>
      have hnone : (cards (gpReceiv e s.link.gate).host).drop (cards s.host).length = [] := by
        rw [(event_still ht.holds hm).cards]
        exact List.drop_length
      rw [hnone]
      refine iff_of_true ?_ ?_
      · intro c hc
        exact absurd hc List.not_mem_nil
      · intro m hn
        cases hn
    | some m =>
      obtain ⟨cs, l, hiff, hall⟩ := event_learned ht.holds hm
      have hnew : (cards (gpReceiv e s.link.gate).host).drop (cards s.host).length = cs := by
        rw [l.cards]
        exact List.drop_left
      rw [hnew]
      refine ⟨?_, ?_⟩
      · intro hinf m' hm' hname
        obtain rfl := Option.some.inj hm'
        obtain ⟨c, hc⟩ := List.exists_mem_of_ne_nil _ (hiff.mpr hname)
        obtain ⟨m1, hm1, m2, known, htook, hcid⟩ := hinf c hc
        obtain rfl := Option.some.inj hm1
        refine ⟨m2, known, htook, (cidOf_eq_iff ..).mp ?_⟩
        rw [← hcid, hall c hc]
        exact (ht.cid _ _ _ htook).symm
      · intro hord c hc
        obtain ⟨m2, known, htook, hsame⟩ := hord m rfl (hiff.mp (List.ne_nil_of_mem hc))
        refine ⟨m, rfl, m2, known, htook, ?_⟩
        rw [hall c hc, ← (cidOf_eq_iff ..).mpr hsame]
        exact ht.cid _ _ _ htook

/-- **The card numbers named in a run are in the byte orders of the controllers
exactly while each was taken in that order or reads the same in both.** -/
theorem cards_in_order (order : Nat → Bool) (mess : ReceivMess) (w : World) (db : Db)
    (es : List Ev) : Along step (Informed order) es (start mess w db) ↔
      Along step (Ordered order) es (start mess w db) :=
  Along.iff_of_invariant (I := Traced) (fun e s ht _ => step_traced e s ht) (informed_iff order) es
    (start_traced mess w db)

/-- The registers of controller 1, which report a card. -/
def cardRegs : PortEvent :=
  .read (.data ([GP_INIT, 8, 0, 0x10, 1, 6] ++ List.replicate 20 0 ++ [2, 0x15, GP_END]))

/-- A Wiegand controller is polled for the first time and has a card. -/
def firstCard : List Ev :=
  [.aside (.clock ⟨1, 0⟩), .receiv .timeout,
    .receiv (.read (.data [GP_INIT, 8, 0, 0x10, 1, 4, 1, 2, 3, 4, 5, 6, 0x12, GP_END]))]

/-- Its information is asked for and comes. -/
def wiegandInfo : List Ev :=
  [.aside (.queueing (adCmd AD_Q_FIRST 1 .info 0x09 0 [])), .aside (.clock ⟨2, 0⟩), .receiv .timeout,
    .receiv (.read (.data [GP_INIT, 8, 0, 0x10, 1, 9, 0x41, 0x10, 0xED, 0x0D, 0xA9, GP_END]))]

/-- Its first card is named backwards. -/
theorem first_card_backwards : ¬ ∀ order mess w db es,
    Along step (Tells order) es (start mess w db) →
      Along step (Informed order) es (start mess w db) := by
  intro hall
  let s := run step firstCard (start ReceiverFrames.blankMess workingWorld Db.empty)
  have htells : Along step (Tells fun _ => true) (firstCard ++ .receiv cardRegs :: wiegandInfo)
      (start ReceiverFrames.blankMess workingWorld Db.empty) := by decide
  obtain ⟨_, _, _, hregs, _⟩ := hall _ _ _ _ _ htells
  have hinf : Informed (fun _ => true) (.receiv cardRegs) s := hregs
  have htraced : Traced s := run_invariant step_traced firstCard (start_traced ..)
  have hsome : (handed cardRegs s.link.gate).isSome = true := by decide
  have hcard : ∀ m ∈ handed cardRegs s.link.gate, NamesCard m s.host ∧ m.dev.toNat = 1 := by decide
  have htook : ∀ t ∈ s.took 1, t.2 = none ∧ cidOf t.1 true ≠ cidOf t.1 false := by decide
  obtain ⟨m, hm⟩ := Option.isSome_iff_exists.mp hsome
  obtain ⟨hname, hdev⟩ := hcard m hm
  obtain ⟨m', known, hm', horder⟩ := (informed_iff _ _ s htraced).mp hinf m hm hname
  rw [hdev] at hm'
  obtain ⟨hknown, hboth⟩ := htook _ hm'
  have hlate : known = none := hknown
  rw [hlate] at horder
  exact horder.elim Bool.false_ne_true hboth

end Libgate.ByteOrder
