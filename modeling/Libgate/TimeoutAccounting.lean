import Libgate.Transmit
import Libgate.Lib.Run

/-! The timeouts charged to the controllers. `timeout_count` is raised by the
timer, zeroed by every read and by `gp_all_dev_enable`, and `gp_send_idle`
switches a controller off by it. Books are kept beside the adapter: each charge
with the number of the transmission it is for, and for each controller the place
where its count was last zeroed. -/

namespace Libgate.TimeoutAccounting
open Lib Send Receiver Layer HostFrame Handlers Transmit

/-! ## The books -/

/-- Where a count was last zeroed: the transmissions and the charges before it,
and whether a command to the controller was outstanding. -/
structure Mark where
  sent : Nat
  charged : Nat
  expected : Bool

/-- The charges, each with the number of its transmission and the controller,
and the marks of all controllers. -/
structure Account where
  charges : List (Nat × Nat)
  marks : Nat → Mark

/-- The counts of the controllers in `Z` are zeroed after `n` transmissions. -/
def Account.zero (n : Nat) (Z expected : Nat → Bool) (a : Account) : Account :=
  { a with
    marks := fun d =>
      if Z d then { sent := n, charged := a.charges.length, expected := expected d } else a.marks d }

structure Books where
  gate : Gate
  account : Account

/-- A command to the controller is outstanding. -/
def expects (h : Host) (d : Nat) : Bool := (outstanding h).map UInt8.toNat == some d

/-- The controllers whose count goes up. -/
def raised (h h' : Host) : List Nat :=
  (List.range 256).filter fun d =>
    decide ((h.devices d).timeoutCount < (h'.devices d).timeoutCount)

/-- The event zeroes the count of the controller. -/
def zeroes (e : Event) (h : Host) (d : Nat) : Bool :=
  match e with
  | .devEnable => decide (1 ≤ d ∧ d ≤ 255)
  | .port (.read _) => d == h.sendMess.dev.toNat
  | _ => false

/-- `send_mess.is_expected` when the event zeroes a count: a read clears it first. -/
def expectedThen (e : Event) (h : Host) (d : Nat) : Bool :=
  match e with
  | .devEnable => expects h d
  | _ => false

/-- The controllers are charged for the last transmission. -/
def Account.charge (n : Nat) (ds : List Nat) (a : Account) : Account :=
  { a with charges := a.charges ++ ds.map fun d => (n - 1, d) }

def record (e : Event) (s : Books) : Books :=
  let h := s.gate.host
  let g := Transmit.occur e s.gate
  { gate := g
    account := (s.account.zero (sends h).length (zeroes e h) (expectedThen e h)).charge
      (sends h).length (raised h g.host) }

def opened (g : Gate) : Books :=
  { gate := g
    account :=
      { charges := []
        marks := fun d => { sent := (sends g.host).length, charged := 0, expected := expects g.host d } } }

/-- The commands sent to a controller since its count was zeroed. -/
def sentSince (h : Host) (a : Account) (d : Nat) : Nat :=
  ((sends h).drop (a.marks d).sent).countP fun z => z.dst.toNat == d

/-- The charges to a controller since its count was zeroed. -/
def chargedSince (a : Account) (d : Nat) : Nat :=
  (a.charges.drop (a.marks d).charged).countP fun c => c.2 == d

/-- Each transmission is charged at most once, to the controller it was sent to. -/
structure Billed (h : Host) (a : Account) : Prop where
  once : a.charges.Pairwise fun c c' => c.1 < c'.1
  addressee : ∀ c ∈ a.charges, (sends h)[c.1]?.map (fun z => z.dst.toNat) = some c.2

/-- The count, with the command outstanding, stays within what was sent. -/
def Bounded (h : Host) (a : Account) (d : Nat) : Prop :=
  (h.devices d).timeoutCount + (expects h d).toNat ≤
    sentSince h a d + (a.marks d).expected.toNat

/-! ## The invariant -/

structure Audited (h : Host) (a : Account) : Prop where
  billed : Billed h a
  last : ∀ d, outstanding h = some d → (sends h).getLast?.map CmdSend.dst = some d ∧
    ∀ c ∈ a.charges, c.1 + 1 < (sends h).length
  count : ∀ d, (h.devices d).timeoutCount = chargedSince a d
  bounded : ∀ d, Bounded h a d
  sentMark : ∀ d, (a.marks d).sent ≤ (sends h).length
  chargedMark : ∀ d, (a.marks d).charged ≤ a.charges.length

theorem Billed.lt {h : Host} {a : Account} (hb : Billed h a) {c : Nat × Nat} (hc : c ∈ a.charges) :
    c.1 < (sends h).length := by
  obtain ⟨z, hz, _⟩ := Option.map_eq_some_iff.mp (hb.addressee c hc)
  exact (List.getElem?_eq_some_iff.mp hz).1

theorem expects_eq_true {h : Host} {d : Nat} :
    expects h d = true ↔ ∃ b : UInt8, outstanding h = some b ∧ b.toNat = d := by
  rw [expects, beq_iff_eq, Option.map_eq_some_iff]

section After
variable {zs : List CmdSend} {h h' : Host} {a : Account}

theorem sentSince_after (ha : After zs h h') {d : Nat} (hm : (a.marks d).sent ≤ (sends h).length) :
    sentSince h' a d = sentSince h a d + zs.countP fun z => z.dst.toNat == d := by
  rw [sentSince, ha.sends, List.drop_append_of_le_length hm, List.countP_append, sentSince]

/-- A transmission to the controller is counted, and so is that it is expected to answer. -/
theorem Bounded.after (ha : After zs h h') {d : Nat} (hm : (a.marks d).sent ≤ (sends h).length)
    (hold : Bounded h a d) : Bounded h' a d := by
  unfold Bounded at hold ⊢
  rw [ha.timeoutCount, sentSince_after ha hm]
  cases hl : zs.getLast? with
  | none =>
    obtain rfl := List.getLast?_eq_none_iff.mp hl
    have hsame : expects h' d = expects h d := by
      rw [expects, ha.outstanding]
      rfl
    rw [hsame]
    exact hold
  | some z =>
    have hnow : expects h' d = (z.dst.toNat == d) := by
      rw [expects, ha.outstanding, hl]
      rfl
    rw [hnow]
    cases hz : z.dst.toNat == d with
    | false =>
      simp only [Bool.toNat_false]
      omega
    | true =>
      have hone : 0 < zs.countP fun z => z.dst.toNat == d :=
        List.countP_pos_iff.mpr ⟨z, List.mem_of_getLast? hl, hz⟩
      simp only [Bool.toNat_true]
      omega

/-- Transmissions keep the books in order. -/
theorem Audited.after (hb : Audited h a) (ha : After zs h h') : Audited h' a := by
  refine ⟨⟨hb.billed.once, ?_⟩, ?_, ?_, ?_, ?_, hb.chargedMark⟩
  · intro c hc
    rw [ha.sends, List.getElem?_append_left (hb.billed.lt hc)]
    exact hb.billed.addressee c hc
  · intro d hd
    rw [ha.outstanding] at hd
    rw [ha.sends]
    cases hl : zs.getLast? with
    | none =>
      obtain rfl := List.getLast?_eq_none_iff.mp hl
      rw [List.append_nil]
      exact hb.last d hd
    | some z =>
      rw [hl] at hd
      rw [List.getLast?_append, hl]
      refine ⟨hd, ?_⟩
      intro c hc
      have hlt := hb.billed.lt hc
      have hpos : 0 < zs.length := by
        cases zs with
        | nil => cases hl
        | cons y ys => exact Nat.succ_pos _
      rw [List.length_append]
      omega
  · intro d
    rw [ha.timeoutCount]
    exact hb.count d
  · exact fun d => (hb.bounded d).after ha (hb.sentMark d)
  · intro d
    rw [ha.sends, List.length_append]
    exact Nat.le_trans (hb.sentMark d) (Nat.le_add_right ..)

end After

/-- What the timer does with a command outstanding. -/
theorem charge_some {h : Host} {b : UInt8} (ho : outstanding h = some b) :
    sends (charge h) = sends h ∧ outstanding (charge h) = none ∧
      ((charge h).devices b.toNat).timeoutCount = (h.devices b.toNat).timeoutCount + 1 ∧
      (∀ d ≠ b.toNat, ((charge h).devices d).timeoutCount = (h.devices d).timeoutCount) ∧
      ∀ d, ((charge h).devices d).activ = (h.devices d).activ := by
  unfold outstanding at ho
  split at ho
  · next he =>
    obtain rfl := Option.some.inj ho
    unfold charge
    rw [if_pos he]
    refine ⟨rfl, rfl, by simp, ?_, ?_⟩
    · intro d hd
      rw [Host.setDev_devices_ne _ _ hd]
    · intro d
      by_cases hd : d = h.sendMess.dev.toNat
      · rw [hd, Host.setDev_devices_self]
      · rw [Host.setDev_devices_ne _ _ hd]
  · cases ho

theorem charge_none {h : Host} (ho : outstanding h = none) : charge h = h := by
  unfold outstanding at ho
  split at ho
  · cases ho
  · next he => exact if_neg he

section Charge
variable {h : Host} {a : Account} {b : UInt8}

theorem chargedSince_charge {d : Nat} (hm : (a.marks d).charged ≤ a.charges.length) :
    chargedSince (a.charge (sends h).length [b.toNat]) d =
      chargedSince a d + (b.toNat == d).toNat := by
  change ((a.charges ++ [((sends h).length - 1, b.toNat)]).drop (a.marks d).charged).countP _ = _
  rw [List.drop_append_of_le_length hm, List.countP_append, List.countP_singleton, chargedSince]
  cases b.toNat == d with
  | true => rfl
  | false => rfl

/-- The charge is for the answer that was expected. -/
theorem Bounded.charge (ho : outstanding h = some b) {d : Nat} (hold : Bounded h a d) :
    Bounded (charge h) (a.charge (sends h).length [b.toNat]) d := by
  obtain ⟨hsends, hout, hself, hothers, _⟩ := charge_some ho
  have hno : expects (Transmit.charge h) d = false := by
    rw [expects, hout]
    rfl
  have hsent : sentSince (Transmit.charge h) (a.charge (sends h).length [b.toNat]) d =
      sentSince h a d := by
    rw [sentSince, hsends]
    rfl
  unfold Bounded at hold ⊢
  rw [hno, hsent]
  change _ ≤ _ + (a.marks d).expected.toNat
  by_cases hd : d = b.toNat
  · have hyes : expects h d = true := expects_eq_true.mpr ⟨b, ho, hd.symm⟩
    rw [hyes] at hold
    rw [hd, hself]
    rw [hd] at hold
    simpa using hold
  · rw [hothers d hd]
    exact Nat.le_trans (Nat.add_le_add_left (Nat.zero_le _) _) hold

/-- A charge enters the books. -/
theorem Audited.charge (hb : Audited h a) (ho : outstanding h = some b) :
    Audited (charge h) (a.charge (sends h).length [b.toNat]) := by
  obtain ⟨hsends, hout, hself, hothers, _⟩ := charge_some ho
  obtain ⟨hlast, hnew⟩ := hb.last b ho
  obtain ⟨z, hz, hdst⟩ := Option.map_eq_some_iff.mp hlast
  refine ⟨⟨?_, ?_⟩, ?_, ?_, ?_, ?_, ?_⟩
  · refine List.pairwise_append.mpr ⟨hb.billed.once, List.pairwise_singleton .., ?_⟩
    intro c hc c' hc'
    rw [List.mem_singleton.mp hc']
    exact Nat.lt_sub_of_add_lt (hnew c hc)
  · intro c hc
    rw [hsends]
    rcases List.mem_append.mp hc with hc | hc
    · exact hb.billed.addressee c hc
    · rw [List.mem_singleton.mp hc]
      rw [List.getLast?_eq_getElem?] at hz
      change (sends h)[(sends h).length - 1]?.map _ = _
      rw [hz, Option.map_some, hdst]
  · intro d hd
    rw [hout] at hd
    cases hd
  · intro d
    rw [chargedSince_charge (hb.chargedMark d)]
    by_cases hd : d = b.toNat
    · rw [hd, hself, hb.count, beq_self_eq_true]
      rfl
    · rw [hothers d hd, hb.count, beq_eq_false_iff_ne.mpr (Ne.symm hd)]
      rfl
  · exact fun d => (hb.bounded d).charge ho
  · intro d
    rw [hsends]
    exact hb.sentMark d
  · intro d
    refine Nat.le_trans (hb.chargedMark d) ?_
    exact (List.prefix_append ..).length_le

end Charge

/-- Counts are zeroed and marked. -/
theorem Audited.zero {h : Host} {a : Account} (hb : Audited h a) (h' : Host) (Z ex : Nat → Bool)
    (hsends : sends h' = sends h)
    (hout : ∀ b, outstanding h' = some b → outstanding h = some b)
    (hcount : ∀ d, (h'.devices d).timeoutCount = if Z d then 0 else (h.devices d).timeoutCount)
    (hex : ∀ d, Z d = true → expects h' d = true → ex d = true) :
    Audited h' (a.zero (sends h).length Z ex) := by
  have hle : ∀ d, (expects h' d).toNat ≤ (expects h d).toNat := by
    intro d
    cases hd : expects h' d with
    | false => exact Nat.zero_le _
    | true =>
      obtain ⟨b, ho, hbd⟩ := expects_eq_true.mp hd
      rw [expects_eq_true.mpr ⟨b, hout b ho, hbd⟩]
  refine ⟨⟨hb.billed.once, ?_⟩, ?_, ?_, ?_, ?_, ?_⟩
  · intro c hc
    rw [hsends]
    exact hb.billed.addressee c hc
  · intro b ho
    rw [hsends]
    exact hb.last b (hout b ho)
  · intro d
    rw [hcount d]
    unfold chargedSince Account.zero
    simp only
    cases Z d with
    | true =>
      rw [if_pos rfl, if_pos rfl, List.drop_length]
      rfl
    | false => exact hb.count d
  · intro d
    have hold := hb.bounded d
    unfold Bounded sentSince at hold ⊢
    rw [hcount d, hsends]
    unfold Account.zero
    simp only
    cases hz : Z d with
    | true =>
      rw [if_pos rfl, if_pos rfl, List.drop_length]
      cases he : expects h' d with
      | true =>
        rw [hex d hz he]
        exact Nat.le_refl _
      | false => exact Nat.zero_le _
    | false => exact Nat.le_trans (Nat.add_le_add_left (hle d) _) hold
  · intro d
    rw [hsends]
    unfold Account.zero
    simp only
    cases Z d with
    | true => exact Nat.le_refl _
    | false => exact hb.sentMark d
  · intro d
    unfold Account.zero
    simp only
    cases Z d with
    | true => exact Nat.le_refl _
    | false => exact hb.chargedMark d

/-! ## Events -/

theorem raised_nil {h h' : Host}
    (hle : ∀ d, (h'.devices d).timeoutCount ≤ (h.devices d).timeoutCount) : raised h h' = [] := by
  refine List.filter_eq_nil_iff.mpr ?_
  intro d _
  simpa using hle d

theorem raised_single {h h' : Host} (b : UInt8)
    (hself : (h'.devices b.toNat).timeoutCount = (h.devices b.toNat).timeoutCount + 1)
    (hothers : ∀ d ≠ b.toNat, (h'.devices d).timeoutCount = (h.devices d).timeoutCount) :
    raised h h' = [b.toNat] := by
  have hpred : ∀ d, decide ((h.devices d).timeoutCount < (h'.devices d).timeoutCount) =
      (d == b.toNat) := by
    intro d
    by_cases hd : d = b.toNat
    · rw [hd, hself, beq_self_eq_true, decide_eq_true (Nat.lt_succ_self _)]
    · rw [hothers d hd, beq_eq_false_iff_ne.mpr hd, decide_eq_false (Nat.lt_irrefl _)]
  have hone : (List.range 256).count b.toNat = 1 :=
    List.count_eq_one_of_mem List.nodup_range (List.mem_range.mpr b.toNat_lt)
  rw [raised, List.filter_congr fun d _ => hpred d, List.filter_beq, hone]
  rfl

theorem Account.charge_nil (n : Nat) (a : Account) : a.charge n [] = a := by
  unfold Account.charge
  rw [List.map_nil, List.append_nil]

theorem Account.zero_none (n : Nat) (ex : Nat → Bool) (a : Account) :
    a.zero n (fun _ => false) ex = a := rfl

/-- The books after an event are in order for a host from which only
transmissions follow. -/
def Settles (e : Event) (s : Books) : Prop :=
  ∃ h zs, Audited h (record e s).account ∧ After zs h (record e s).gate.host ∧
    ∀ d, (s.gate.host.devices d).activ = true → (h.devices d).activ = true

/-- An event that charges and zeroes nothing. -/
theorem settles_of_after {e : Event} {s : Books} (hb : Audited s.gate.host s.account)
    {zs : List CmdSend} (ha : After zs s.gate.host (Transmit.occur e s.gate).host)
    (hz : zeroes e s.gate.host = fun _ => false) : Settles e s := by
  have hraised : raised s.gate.host (Transmit.occur e s.gate).host = [] :=
    raised_nil fun d => (ha.timeoutCount d).le
  refine ⟨s.gate.host, zs, ?_, ha, fun _ hd => hd⟩
  unfold record
  simp only
  rw [hraised, hz, Account.charge_nil, Account.zero_none]
  exact hb

theorem timeout_settles {s : Books} (hb : Audited s.gate.host s.account) :
    Settles (.port .timeout) s := by
  have hrec := After.reconnect false s.gate.host
  by_cases ho : Overdue s.gate.host
  · have hstep : (Transmit.occur (.port .timeout) s.gate).host =
        sendNext (charge (gpReconnect false s.gate.host).1) :=
      (receivTimeout_eq _).trans (if_pos ho)
    obtain ⟨zs, hnext⟩ := After.sendNext (charge (gpReconnect false s.gate.host).1)
    have hb1 := hb.after hrec
    cases hout : outstanding (gpReconnect false s.gate.host).1 with
    | none =>
      rw [charge_none hout] at hstep hnext
      exact settles_of_after hb (hstep ▸ hrec.trans hnext) rfl
    | some b =>
      obtain ⟨_, _, hself, hothers, hactiv⟩ := charge_some hout
      have hraised : raised s.gate.host (Transmit.occur (.port .timeout) s.gate).host = [b.toNat] := by
        rw [hstep]
        refine raised_single b ?_ ?_
        · rw [hnext.timeoutCount, hself, hrec.timeoutCount]
        · intro d hd
          rw [hnext.timeoutCount, hothers d hd, hrec.timeoutCount]
      refine ⟨_, zs, ?_, hstep ▸ hnext, ?_⟩
      · have hcharged := hb1.charge hout
        rw [(gpReconnect_kept false s.gate.host).2.2.2.2.2.1] at hcharged
        unfold record
        simp only
        rw [hraised]
        exact hcharged
      · intro d hd
        rw [hactiv]
        rcases hrec.activ d with hsame | ⟨hoff, _⟩
        · rw [hsame]
          exact hd
        · rw [(gpReconnect_kept false s.gate.host).2.2.2.1]
          exact hd
  · have hstep : (Transmit.occur (.port .timeout) s.gate).host = (gpReconnect false s.gate.host).1 :=
      (receivTimeout_eq _).trans (if_neg ho)
    exact settles_of_after hb (hstep ▸ hrec) rfl

theorem devEnable_settles {s : Books} (hb : Audited s.gate.host s.account) :
    Settles .devEnable s := by
  have hrec := After.reconnect false s.gate.host
  have hcount : ∀ d, ((gpAllDevEnable s.gate.host).devices d).timeoutCount =
      if zeroes .devEnable s.gate.host d then 0 else (s.gate.host.devices d).timeoutCount := by
    intro d
    unfold gpAllDevEnable zeroes
    simp only
    by_cases hd : 1 ≤ d ∧ d ≤ 255
    · rw [if_pos hd, if_pos (decide_eq_true hd)]
    · rw [if_neg hd, decide_eq_false hd, hrec.timeoutCount]
      rfl
  have hout : outstanding (gpAllDevEnable s.gate.host) = outstanding s.gate.host := hrec.outstanding
  have hraised : raised s.gate.host (gpAllDevEnable s.gate.host) = [] := by
    refine raised_nil ?_
    intro d
    rw [hcount d]
    split
    · exact Nat.zero_le _
    · exact Nat.le_refl _
  have hzero := hb.zero (gpAllDevEnable s.gate.host) (zeroes .devEnable s.gate.host)
    (expectedThen .devEnable s.gate.host) (gpReconnect_kept false s.gate.host).2.2.2.2.2.1
    (fun b hb => hout ▸ hb) hcount (fun d _ hd => by
      rw [expects, hout] at hd
      exact hd)
  refine ⟨gpAllDevEnable s.gate.host, [], ?_, After.refl _, ?_⟩
  · unfold record
    simp only [Transmit.occur]
    rw [hraised, Account.charge_nil]
    exact hzero
  · intro d hd
    unfold gpAllDevEnable
    simp only
    rw [(gpReconnect_kept false s.gate.host).2.2.2.1]
    split
    · exact hd
    · exact hd

theorem read_settles {s : Books} (r : ReadRes) (hb : Audited s.gate.host s.account) :
    Settles (.port (.read r)) s := by
  have k := receivAlive_heard s.gate.host
  have ha : ∃ zs, After zs (receivAlive s.gate.host)
      (Transmit.occur (.port (.read r)) s.gate).host := After.dispatch ..
  obtain ⟨zs, ha⟩ := ha
  have hnone : outstanding (receivAlive s.gate.host) = none := by
    rw [outstanding, k.sendMess]
    rfl
  have hcount : ∀ d, ((receivAlive s.gate.host).devices d).timeoutCount =
      if zeroes (.port (.read r)) s.gate.host d then 0
      else (s.gate.host.devices d).timeoutCount := by
    intro d
    unfold zeroes
    simp only
    by_cases hd : d = s.gate.host.sendMess.dev.toNat
    · rw [beq_iff_eq.mpr hd, if_pos rfl, hd, k.timeoutCount]
    · rw [beq_eq_false_iff_ne.mpr hd, (k.others d hd).timeoutCount]
      rfl
  have hraised : raised s.gate.host (Transmit.occur (.port (.read r)) s.gate).host = [] := by
    refine raised_nil ?_
    intro d
    refine Nat.le_trans (ha.timeoutCount d).le ?_
    rw [hcount d]
    split
    · exact Nat.zero_le _
    · exact Nat.le_refl _
  have hzero := hb.zero (receivAlive s.gate.host) (zeroes (.port (.read r)) s.gate.host)
    (expectedThen (.port (.read r)) s.gate.host) k.sends
    (fun b hb => by rw [hnone] at hb; cases hb) hcount (fun d _ hd => by
      rw [expects, hnone] at hd
      cases hd)
  refine ⟨receivAlive s.gate.host, zs, ?_, ha, ?_⟩
  · unfold record
    simp only
    rw [hraised, Account.charge_nil]
    exact hzero
  · intro d hd
    by_cases hdev : d = s.gate.host.sendMess.dev.toNat
    · rw [hdev]
      exact k.activ
    · rw [(k.others d hdev).activ]
      exact hd

theorem settles (e : Event) {s : Books} (hb : Audited s.gate.host s.account) : Settles e s := by
  cases e with
  | tick now => exact settles_of_after hb (After.ofMarks rfl rfl fun _ => SameMarks.refl _) rfl
  | send z => exact settles_of_after hb (After.send z _) rfl
  | inCmd z => exact settles_of_after hb (After.inCmd z _) rfl
  | setMaxDev n => exact settles_of_after hb (After.ofMarks rfl rfl fun _ => SameMarks.refl _) rfl
  | quiet f hf => exact settles_of_after hb (After.kept (hf _).kept) rfl
  | devEnable => exact devEnable_settles hb
  | port e =>
    cases e with
    | timeout => exact timeout_settles hb
    | read r => exact read_settles r hb

/-! ## Runs -/

/-- The books are right after the event, and a controller it switched off has
been charged for more than `max_timeout_count` commands. -/
def Exact (e : Event) (s : Books) : Prop :=
  Billed (record e s).gate.host (record e s).account ∧
    (∀ d, Bounded (record e s).gate.host (record e s).account d) ∧
    ∀ d, (s.gate.host.devices d).activ = true →
      ((record e s).gate.host.devices d).activ = false →
        chargedSince (record e s).account d > maxTimeoutCount

theorem record_audited (e : Event) (s : Books) (hb : Audited s.gate.host s.account) :
    Audited (record e s).gate.host (record e s).account := by
  obtain ⟨h, zs, hacc, ha, _⟩ := settles e hb
  exact hacc.after ha

theorem record_exact (e : Event) (s : Books) (hb : Audited s.gate.host s.account) : Exact e s := by
  have haudited := record_audited e s hb
  refine ⟨haudited.billed, haudited.bounded, ?_⟩
  intro d hon hoff
  obtain ⟨h, zs, hacc, ha, hactiv⟩ := settles e hb
  rcases ha.activ d with hsame | ⟨_, hcount⟩
  · rw [hoff, hactiv d hon] at hsame
    cases hsame
  · rwa [hacc.count d] at hcount

theorem opened_audited {g : Gate} (hcount : ∀ d, (g.host.devices d).timeoutCount = 0)
    (hlast : ∀ d, outstanding g.host = some d →
      (sends g.host).getLast?.map CmdSend.dst = some d) : Audited g.host (opened g).account := by
  have hsent : ∀ d, sentSince g.host (opened g).account d = 0 := by
    intro d
    change ((sends g.host).drop (sends g.host).length).countP _ = 0
    rw [List.drop_length]
    rfl
  refine ⟨⟨List.Pairwise.nil, fun c hc => absurd hc List.not_mem_nil⟩, ?_, hcount, ?_,
    fun _ => Nat.le_refl _, fun _ => Nat.le_refl _⟩
  · intro d hd
    exact ⟨hlast d hd, fun c hc => absurd hc List.not_mem_nil⟩
  · intro d
    rw [Bounded, hcount, hsent]
    exact Nat.le_refl _

/-- **Timeouts are accounted for exactly** in every run: each transmission is
charged at most once and to its addressee, no count with the command outstanding
exceeds what was sent since it was zeroed, and a controller is switched off only
for more charges than `max_timeout_count`. -/
theorem timeouts_exact (g : Gate) (hcount : ∀ d, (g.host.devices d).timeoutCount = 0)
    (hlast : ∀ d, outstanding g.host = some d → (sends g.host).getLast?.map CmdSend.dst = some d)
    (es : List Event) : Along record Exact es (opened g) :=
  Along.of_invariant (I := fun s => Audited s.gate.host s.account) record_audited record_exact es
    (opened_audited hcount hlast)

/-- A poll over an open port is not answered in time. -/
theorem timeouts_exact_poll : Along record Exact
    [.send (pollCmd 1), .tick ⟨1, 0⟩, .port .timeout]
    (opened ⟨⟨⟨0, 0, 0, fun _ => 0⟩, none⟩, { boot workingWorld Db.empty with fd := 3 }⟩) :=
  timeouts_exact _ (fun _ => rfl) (fun _ h => by cases h) _

end Libgate.TimeoutAccounting
