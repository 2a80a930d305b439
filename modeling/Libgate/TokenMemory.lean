import Libgate.TokenBound
import Libgate.MemoryWrites

/-! Where cards are written. A controller's token memory ends a record behind
`GP_MAX_TICKET_BOUND`. `cmd_clear_dev` goes over it in blocks that do not divide
it; an addition takes its address from the caller, the global bound or the
controller's own, and looks at no end at all. -/

namespace Libgate.TokenMemory
open Lib DbLayer Send Target Cmd Processor Layer HostFrame Queueing MemoryWrites
open TokenBound (loopAdds toAllAdds)

/-! ## Inside the token memory -/

/-- The bytes an `ad_set_token` writes. -/
structure Inside (z : CmdSend) : Prop where
  start : GP_START_TICKET_BOUND.toNat ≤ valAt z 3
  stop : valAt z 3 + (z.dataLen - 5) ≤ GP_MAX_TICKET_BOUND.toNat + sizeofTokenRec

def AllInside (zs : List CmdSend) : Prop := ∀ z ∈ zs, z.targetN = .setToken → Inside z

theorem allInside_append {zs zs' : List CmdSend} :
    AllInside (zs ++ zs') ↔ AllInside zs ∧ AllInside zs' := by
  unfold AllInside
  simp only [List.mem_append, or_imp, forall_and]

theorem AllInside.of_others {zs : List CmdSend} (h : ∀ z ∈ zs, z.targetN ≠ .setToken) :
    AllInside zs := fun z hz ht => absurd ht (h z hz)

/-- Both banks of a token write, as far as there is memory for them. -/
theorem allInside_takenBoth {z : CmdSend} (ht : z.targetN = .setToken)
    (hb : valAt (secondBank z) 3 = valAt z 3) (ok ok' : Bool) :
    AllInside (takenBoth ok ok' z) ↔ (ok = true ∨ ok' = true → Inside z) := by
  have hbank : Inside (secondBank z) ↔ Inside z := by
    constructor
    · intro i
      have hstart := i.start
      have hstop := i.stop
      rw [hb] at hstart hstop
      exact ⟨hstart, hstop⟩
    · exact fun i => ⟨by rw [hb]; exact i.start, by rw [hb]; exact i.stop⟩
  have hone : ∀ {y : CmdSend}, y.targetN = .setToken → ∀ ok, AllInside (taken ok y) ↔
      (ok = true → Inside y) := by
    intro y hy ok
    cases ok with
    | false => exact ⟨fun _ hn => absurd hn (by decide), fun _ x hx => by cases hx⟩
    | true =>
      constructor
      · exact fun hall _ => hall y List.mem_cons_self hy
      · intro hi x hx _
        rw [mem_taken hx]
        exact hi rfl
  rw [takenBoth, allInside_append, hone ht, hone (y := secondBank z) ht, hbank, or_imp]

/-- An address at which a card fits. -/
def Writable (a : UInt16) : Prop := GP_START_TICKET_BOUND ≤ a ∧ a ≤ GP_MAX_TICKET_BOUND

instance (a : UInt16) : Decidable (Writable a) := inferInstanceAs (Decidable (_ ∧ _))

theorem inside_iff (q : Int) (d : Nat) (a : UInt16) (data : List UInt8) (n : Nat) :
    Inside (adSetTokenCmd q d a data n) ↔
      0x00C0 ≤ a.toNat ∧ a.toNat + 8 * n ≤ 0x8000 := by
  have hval : valAt (adSetTokenCmd q d a data n) 3 = a.toNat := be16_val a
  have hlen : (adSetTokenCmd q d a data n).dataLen - 5 = 8 * n := Nat.add_sub_cancel_left ..
  constructor
  · intro i
    have hstart := i.start
    have hstop := i.stop
    rw [hval] at hstart hstop
    rw [hlen] at hstop
    exact ⟨hstart, hstop⟩
  · intro ⟨hstart, hstop⟩
    exact ⟨by rw [hval]; exact hstart, by rw [hval, hlen]; exact hstop⟩

theorem inside_one_iff (q : Int) (d : Nat) (a : UInt16) (data : List UInt8) :
    Inside (adSetTokenCmd q d a data 1) ↔ Writable a := by
  rw [inside_iff, Writable, UInt16.le_iff_toNat_le, UInt16.le_iff_toNat_le]
  change _ ↔ 192 ≤ a.toNat ∧ a.toNat ≤ 32760
  omega

/-! ## What is queued -/

def queuedOf : Obs → Option CmdSend
  | .queued z => some z
  | _ => none

/-- The commands queued from one host to the other. -/
def queuedBy (h h' : Host) : List CmdSend := (h'.trace.drop h.trace.length).filterMap queuedOf

/-- The addresses of the cards queued so far. -/
def cards (h : Host) : List Nat :=
  ((h.trace.filterMap queuedOf).filter fun z => z.targetN = .setToken).map fun z => valAt z 3

/-- No card has been queued below the token memory. -/
def CardsAbove (h : Host) : Prop := ∀ a ∈ cards h, GP_START_TICKET_BOUND.toNat ≤ a

section Queued
variable {h h1 h2 h' : Host}

theorem queuedBy_eq {l : List Obs} (ht : h'.trace = h.trace ++ l) :
    queuedBy h h' = l.filterMap queuedOf := by
  rw [queuedBy, ht, List.drop_left]

theorem queuedBy_enqueued {k : Nat} {zs : List CmdSend} (q : Enqueued k zs h h') :
    queuedBy h h' = zs := by
  rw [queuedBy_eq q.trace, List.filterMap_map]
  exact List.filterMap_some ..

theorem queuedBy_of_same (ht : h'.trace = h.trace) : queuedBy h h' = [] :=
  queuedBy_eq (l := []) (ht.trans (List.append_nil _).symm)

theorem queuedBy_trans (p : h.trace <+: h1.trace) (p' : h1.trace <+: h2.trace) :
    queuedBy h h2 = queuedBy h h1 ++ queuedBy h1 h2 := by
  obtain ⟨es, hes⟩ := p
  obtain ⟨es', hes'⟩ := p'
  have hall : h2.trace = h.trace ++ (es ++ es') := by rw [← hes', ← hes, List.append_assoc]
  rw [queuedBy_eq hall, queuedBy_eq hes.symm, queuedBy_eq hes'.symm, List.filterMap_append]

theorem cards_append (p : h.trace <+: h'.trace) : cards h' =
    cards h ++ ((queuedBy h h').filter fun z => z.targetN = .setToken).map fun z => valAt z 3 := by
  obtain ⟨es, hes⟩ := p
  rw [cards, ← hes, List.filterMap_append, List.filter_append, List.map_append, queuedBy_eq hes.symm]
  rfl

theorem CardsAbove.extend (hs : CardsAbove h) (p : h.trace <+: h'.trace)
    (hin : AllInside (queuedBy h h')) : CardsAbove h' := by
  intro a ha
  rw [cards_append p] at ha
  rcases List.mem_append.mp ha with ha | ha
  · exact hs a ha
  · obtain ⟨z, hz, rfl⟩ := List.mem_map.mp ha
    obtain ⟨hz, ht⟩ := List.mem_filter.mp hz
    exact (hin z hz (of_decide_eq_true ht)).start

end Queued

theorem takenBoth_target {z y : CmdSend} {ok ok' : Bool} (hy : y ∈ takenBoth ok ok' z) :
    y.targetN = z.targetN := by
  rcases mem_takenBoth hy with rfl | rfl
  · rfl
  · rfl

/-- Between the hosts no card is queued. -/
structure Spares (h h' : Host) : Prop where
  grows : h.trace <+: h'.trace
  others : ∀ z ∈ queuedBy h h', z.targetN ≠ .setToken

theorem Spares.trans {h h' h'' : Host} (p : Spares h h') (p' : Spares h' h'') : Spares h h'' := by
  refine ⟨p.grows.trans p'.grows, ?_⟩
  intro z hz
  rw [queuedBy_trans p.grows p'.grows] at hz
  rcases List.mem_append.mp hz with hz | hz
  · exact p.others z hz
  · exact p'.others z hz

theorem Enqueued.grows {k : Nat} {zs : List CmdSend} {h h' : Host} (q : Enqueued k zs h h') :
    h.trace <+: h'.trace := ⟨_, q.trace.symm⟩

theorem Enqueued.spares {k : Nat} {zs : List CmdSend} {h h' : Host} (q : Enqueued k zs h h')
    (hzs : ∀ z ∈ zs, z.targetN ≠ .setToken) : Spares h h' :=
  ⟨Enqueued.grows q, by rwa [queuedBy_enqueued q]⟩

theorem Spares.of_note {e : Obs} (he : queuedOf e = none) (h : Host) : Spares h (h.note e) := by
  refine ⟨List.prefix_append .., ?_⟩
  intro z hz
  rw [queuedBy_eq (l := [e]) rfl, List.filterMap_cons_none he] at hz
  cases hz

theorem Spares.of_same {h h' : Host} (ht : h'.trace = h.trace) : Spares h h' := by
  refine ⟨ht ▸ List.prefix_rfl, ?_⟩
  intro z hz
  rw [queuedBy_of_same ht] at hz
  cases hz

/-- What is not queued adds no address. -/
theorem Spares.cards {h h' : Host} (p : Spares h h') : cards h' = cards h := by
  have hno : ((queuedBy h h').filter fun z => z.targetN = .setToken) = [] := by
    refine List.filter_eq_nil_iff.mpr ?_
    intro z hz
    rw [decide_eq_true_eq]
    exact p.others z hz
  rw [cards_append p.grows, hno]
  exact List.append_nil _

theorem bothBanks_spares {z : CmdSend} (hq : z.queue ≠ AD_Q_SHORT) (hz : z.targetN ≠ .setToken)
    (h : Host) : Spares h (bothBanks z h).1 := by
  refine Enqueued.spares (bothBanks_enqueued hq h).1 ?_
  intro y hy
  rwa [takenBoth_target hy]

theorem gpInCmd_spares {z : CmdSend} (hz : z.targetN ≠ .setToken) (h : Host) :
    Spares h (gpInCmd z h).1 := by
  refine Enqueued.spares (gpInCmd_enqueued z h).1 ?_
  intro y hy
  rwa [mem_taken hy]

/-- The cards of a call that queues other commands before and after them. -/
theorem allInside_between {h h1 h2 h' : Host} (p : Spares h h1) (g : h1.trace <+: h2.trace)
    (p' : Spares h2 h') : AllInside (queuedBy h h') ↔ AllInside (queuedBy h1 h2) := by
  rw [queuedBy_trans (p.grows.trans g) p'.grows, queuedBy_trans p.grows g, allInside_append,
    allInside_append]
  constructor
  · exact fun hin => hin.1.2
  · exact fun hin => ⟨⟨.of_others p.others, hin⟩, .of_others p'.others⟩

/-! ## Additions -/

/-- A sum of an address and 8 that has wrapped is below 8. -/
def WrapsBelow (bound : UInt16) (a : Nat) : Prop := bound < 8 ∧ bound.toNat < a

section AddCid
variable (rec : ProcAddCid) (h : Host)

/-- The address reaches the controller's bound. -/
def Raises : Prop := (h.devices rec.dev).boundToken ≤ cmdAddr rec h

instance : Decidable (Raises rec h) := inferInstanceAs (Decidable (_ ≤ _))

/-- Where a call sets the bounds, neither wraps below an address already written. -/
def BoundsKept : Prop :=
  cmdConflict rec h = false → Raises rec h → ∀ a ∈ cards (cmdAddCid rec h).1,
    ¬ WrapsBelow ((cmdAddCid rec h).1.devices rec.dev).boundToken a ∧
      ¬ WrapsBelow (cmdAddCid rec h).1.maxBoundToken a

/-- How often a call without a conflict asks for memory. -/
def mallocs : Nat := if Raises rec h then 4 else 2

/-- The card, if there is memory to queue it for one bank, fits at its address, and
where the call sets the bounds the sum does not wrap if a card has been queued
(`held`). `k` calls of `malloc` come before. -/
structure AddFits (k : Nat) (held : Prop) : Prop where
  token : h.world.malloc k = true ∨ h.world.malloc (k + 1) = true → Writable (cmdAddr rec h)
  bound : Raises rec h → held → (cmdAddr rec h).toNat + 8 < 0x10000

/-- The token command of a call. -/
def tokenCmd : CmdSend :=
  adSetTokenCmd AD_Q_SECOND rec.dev (cmdAddr rec h) (tokenRecBytes rec.token.cid rec.token.attr
    rec.token.scheduleMask (h.devices rec.dev).cidRevert) 1

end AddCid

theorem toNat_add_eight {a : UInt16} (ha : a.toNat + 8 < 0x10000) : (a + 8).toNat = a.toNat + 8 := by
  rw [UInt16.toNat_add]
  exact Nat.mod_eq_of_lt ha

theorem add_eight_wraps {a : UInt16} (ha : 0x10000 ≤ a.toNat + 8) : a + 8 < 8 := by
  have hlt := a.toNat_lt
  rw [UInt16.lt_iff_toNat_lt, UInt16.toNat_add]
  change (a.toNat + 8) % 65536 < 8
  omega

/-- A sum that has not wrapped is not below 8. -/
theorem not_wrapsBelow {a bound : UInt16} (ha : a.toNat + 8 < 0x10000) (hb : a + 8 ≤ bound)
    (n : Nat) : ¬ WrapsBelow bound n := by
  intro hw
  have hlow := UInt16.lt_iff_toNat_lt.mp hw.1
  have hle := UInt16.le_iff_toNat_le.mp hb
  rw [toNat_add_eight ha] at hle
  change bound.toNat < 8 at hlow
  omega

section Call
variable {rec : ProcAddCid} {h : Host}

/-- Raising a bound writes no card. -/
theorem raiseBound_queues (d : Nat) (addr : UInt16) (h : Host) :
    Spares h (raiseBound d addr h) ∧ (raiseBound d addr h).world.malloc =
      fun n => h.world.malloc (n + if (h.devices d).boundToken ≤ addr then 2 else 0) := by
  unfold raiseBound
  by_cases hr : (h.devices d).boundToken ≤ addr
  · let h1 : Host := { h.setDev d fun r => { r with boundToken := addr + 8 } with
      maxBoundToken := max h.maxBoundToken (addr + 8) }
    have hspares : Spares h1 (bothBanks (adSetTokenBoundCmd AD_Q_SECOND d (addr + 8)) h1).1 :=
      bothBanks_spares second_ne_short AdTarget.noConfusion h1
    have q := (bothBanks_enqueued (z := adSetTokenBoundCmd AD_Q_SECOND d (addr + 8))
      second_ne_short h1).1
    rw [if_pos hr, if_pos hr]
    exact ⟨⟨hspares.grows, hspares.others⟩, q.malloc⟩
  · rw [if_neg hr, if_neg hr]
    exact ⟨.of_same rfl, rfl⟩

/-- What `cmd_add_cid` queues and how much memory it asks for. -/
theorem cmdAddCid_queues (hc : cmdConflict rec h = false) :
    h.trace <+: (cmdAddCid rec h).1.trace ∧
      (∃ ys, queuedBy h (cmdAddCid rec h).1 =
          takenBoth (h.world.malloc 0) (h.world.malloc 1) (tokenCmd rec h) ++ ys ∧
        ∀ z ∈ ys, z.targetN ≠ .setToken) ∧
      (cmdAddCid rec h).1.world.malloc = fun n => h.world.malloc (n + mallocs rec h) := by
  let h0 := h.note (.dbGetCidByA (cmdAddr rec h).toUInt32)
  let h1 := (bothBanks (tokenCmd rec h) h0).1
  have q := (bothBanks_enqueued (z := tokenCmd rec h) second_ne_short h0).1
  have hnote : h.trace <+: h0.trace := List.prefix_append ..
  have hfirst : queuedBy h h0 = [] := queuedBy_eq (show h0.trace = h.trace ++ [_] from rfl)
  have heq : (cmdAddCid rec h).1 = raiseBound rec.dev (cmdAddr rec h) h1 := by
    unfold cmdAddCid
    simp only [hc]
    rfl
  have hbound : (h1.devices rec.dev).boundToken = (h.devices rec.dev).boundToken := by
    rw [q.devices]
    rfl
  obtain ⟨p, hmalloc⟩ := raiseBound_queues rec.dev (cmdAddr rec h) h1
  have hgrows : h.trace <+: h1.trace := hnote.trans (Enqueued.grows q)
  rw [heq]
  refine ⟨hgrows.trans p.grows, ⟨_, ?_, p.others⟩, ?_⟩
  · rw [queuedBy_trans hgrows p.grows, queuedBy_trans hnote (Enqueued.grows q), hfirst,
      queuedBy_enqueued q]
    rfl
  · rw [hmalloc, hbound, q.malloc]
    funext n
    have hcount : n + (if (h.devices rec.dev).boundToken ≤ cmdAddr rec h then 2 else 0) + 2 =
        n + mallocs rec h := by
      unfold mallocs
      by_cases hr : Raises rec h
      · rw [if_pos hr, if_pos (show (h.devices rec.dev).boundToken ≤ cmdAddr rec h from hr)]
      · rw [if_neg hr, if_neg (show ¬ (h.devices rec.dev).boundToken ≤ cmdAddr rec h from hr)]
    exact congrArg h.world.malloc hcount

theorem cmdAddCid_grows (rec : ProcAddCid) (h : Host) : h.trace <+: (cmdAddCid rec h).1.trace := by
  cases hc : cmdConflict rec h with
  | true =>
    rw [cmdAddCid_conflict hc]
    exact List.prefix_append ..
  | false => exact (cmdAddCid_queues hc).1

theorem mem_cards_cmdAddCid (hc : cmdConflict rec h = false) (a : Nat) :
    a ∈ cards (cmdAddCid rec h).1 ↔
      a ∈ cards h ∨ (h.world.malloc 0 = true ∨ h.world.malloc 1 = true) ∧ a = (cmdAddr rec h).toNat := by
  obtain ⟨hgrows, ⟨ys, hys, hno⟩, _⟩ := cmdAddCid_queues hc
  have hother : (ys.filter fun z => z.targetN = .setToken) = [] := by
    refine List.filter_eq_nil_iff.mpr ?_
    intro z hz
    rw [decide_eq_true_eq]
    exact hno z hz
  have hval : valAt (tokenCmd rec h) 3 = (cmdAddr rec h).toNat := be16_val _
  have hval' : valAt (secondBank (tokenCmd rec h)) 3 = (cmdAddr rec h).toNat := be16_val _
  rw [cards_append hgrows, hys, List.filter_append, hother, List.append_nil, List.mem_append]
  refine or_congr_right ?_
  cases h.world.malloc 0 with
  | false => cases h.world.malloc 1 with
    | false => simp [takenBoth, taken]
    | true => simp [takenBoth, taken, hval', show (secondBank (tokenCmd rec h)).targetN = .setToken from rfl]
  | true => cases h.world.malloc 1 with
    | false => simp [takenBoth, taken, hval, show (tokenCmd rec h).targetN = .setToken from rfl]
    | true => simp [takenBoth, taken, hval, hval', show (tokenCmd rec h).targetN = .setToken from rfl,
        show (secondBank (tokenCmd rec h)).targetN = .setToken from rfl]

theorem cards_cmdAddCid_ne_nil (hc : cmdConflict rec h = false) :
    cards (cmdAddCid rec h).1 ≠ [] ↔
      cards h ≠ [] ∨ h.world.malloc 0 = true ∨ h.world.malloc 1 = true := by
  constructor
  · intro hne
    obtain ⟨a, ha⟩ := List.exists_mem_of_ne_nil _ hne
    rcases (mem_cards_cmdAddCid hc a).mp ha with hold | ⟨hown, _⟩
    · exact .inl (List.ne_nil_of_mem hold)
    · exact .inr hown
  · intro hor
    rcases hor with hne | hown
    · obtain ⟨a, ha⟩ := List.exists_mem_of_ne_nil _ hne
      exact List.ne_nil_of_mem ((mem_cards_cmdAddCid hc a).mpr (.inl ha))
    · exact List.ne_nil_of_mem ((mem_cards_cmdAddCid hc _).mpr (.inr ⟨hown, rfl⟩))

/-- An addition with a conflict queues nothing and sets no bound. -/
theorem cmdAddCid_refused (hc : cmdConflict rec h = true) :
    AllInside (queuedBy h (cmdAddCid rec h).1) ∧ BoundsKept rec h := by
  refine ⟨?_, ?_⟩
  · rw [cmdAddCid_conflict hc]
    exact .of_others (Spares.of_note rfl h).others
  · intro hno
    rw [hc] at hno
    cases hno

/-- When the card of one addition without a conflict is inside the token memory. -/
theorem cmdAddCid_inside_iff (hc : cmdConflict rec h = false) :
    AllInside (queuedBy h (cmdAddCid rec h).1) ↔
      (h.world.malloc 0 = true ∨ h.world.malloc 1 = true → Writable (cmdAddr rec h)) := by
  obtain ⟨_, ⟨ys, hys, hno⟩, _⟩ := cmdAddCid_queues hc
  have hother : AllInside ys ↔ True := iff_true_intro (.of_others hno)
  rw [hys, allInside_append, hother, and_true]
  refine (allInside_takenBoth (z := tokenCmd rec h) rfl rfl _ _).trans ?_
  rw [tokenCmd, inside_one_iff]

/-- When one addition without a conflict keeps to the token memory. -/
theorem cmdAddCid_keeps_iff (hs : CardsAbove h) (hc : cmdConflict rec h = false) :
    AllInside (queuedBy h (cmdAddCid rec h).1) ∧ BoundsKept rec h ↔ AddFits rec h 0 (cards h ≠ []) := by
  have hadd := (cmdAddCid_ok hc).2
  have hset : Raises rec h →
      ((cmdAddCid rec h).1.devices rec.dev).boundToken = cmdAddr rec h + 8 ∧
        (cmdAddCid rec h).1.maxBoundToken = max h.maxBoundToken (cmdAddr rec h + 8) := by
    intro hr
    have hreach : (h.devices rec.dev).boundToken ≤ cmdAddr rec h := hr
    rw [hadd.devices, hadd.maxBoundToken, if_pos hreach, if_pos hreach, Function.update_self]
    exact ⟨rfl, rfl⟩
  rw [cmdAddCid_inside_iff hc]
  constructor
  · intro ⟨htoken, hkept⟩
    refine ⟨htoken, ?_⟩
    intro hr hsome
    by_contra hwrap
    obtain ⟨a, ha⟩ := List.exists_mem_of_ne_nil _ hsome
    have hlow := add_eight_wraps (Nat.le_of_not_lt hwrap)
    refine (hkept hc hr a ((mem_cards_cmdAddCid hc a).mpr (.inl ha))).1 ?_
    rw [(hset hr).1]
    refine ⟨hlow, ?_⟩
    have hstart : 192 ≤ a := hs a ha
    have hlow' := UInt16.lt_iff_toNat_lt.mp hlow
    change (cmdAddr rec h + 8).toNat < 8 at hlow'
    omega
  · intro f
    refine ⟨f.token, ?_⟩
    intro _ hr a ha
    have hsum : (cmdAddr rec h).toNat + 8 < 0x10000 := by
      rcases (mem_cards_cmdAddCid hc a).mp ha with hold | ⟨hown, _⟩
      · exact f.bound hr (List.ne_nil_of_mem hold)
      · have hmax := UInt16.le_iff_toNat_le.mp (f.token hown).2
        change (cmdAddr rec h).toNat ≤ 32760 at hmax
        omega
    have hmax : cmdAddr rec h + 8 ≤ max h.maxBoundToken (cmdAddr rec h + 8) := by
      rw [UInt16.le_iff_toNat_le, toNat_max]
      exact le_max_right ..
    rw [(hset hr).1, (hset hr).2]
    exact ⟨not_wrapsBelow hsum (UInt16.le_refl _) a, not_wrapsBelow hsum hmax a⟩

end Call

section Loop
variable {rec : ProcAddCid} {h : Host} {ns : List Nat}

/-- Every call up to the first conflict fits. `k` calls of `malloc` come before, and
cards have been queued if `held`. -/
def LoopFits (rec : ProcAddCid) (h : Host) : List Nat → Nat → Prop → Prop
  | [], _, _ => True
  | d :: ns, k, held =>
    if (h.devices d).activ then
      cmdConflict { rec with dev := d } h = true ∨
        AddFits { rec with dev := d } h k held ∧
          LoopFits rec h ns (k + mallocs { rec with dev := d } h)
            (held ∨ h.world.malloc k = true ∨ h.world.malloc (k + 1) = true)
    else LoopFits rec h ns k held

theorem addFits_shift {h' : Host} {j : Nat} (hdev : h'.devices rec.dev = h.devices rec.dev)
    (hmalloc : h'.world.malloc = fun n => h.world.malloc (n + j)) (k : Nat) (held : Prop) :
    AddFits rec h' k held ↔ AddFits rec h (k + j) held := by
  have haddr : cmdAddr rec h' = cmdAddr rec h := by
    unfold cmdAddr
    rw [hdev]
  have hraises : Raises rec h' ↔ Raises rec h := by
    unfold Raises
    rw [hdev, haddr]
  have hswap : k + 1 + j = k + j + 1 := Nat.add_right_comm k 1 j
  constructor
  · intro f
    have ht := f.token
    have hb := f.bound
    rw [hmalloc, haddr] at ht
    rw [hraises, haddr] at hb
    simp only [hswap] at ht
    exact ⟨ht, hb⟩
  · intro f
    refine ⟨?_, ?_⟩
    · rw [hmalloc, haddr]
      simp only [hswap]
      exact f.token
    · rw [hraises, haddr]
      exact f.bound

theorem loopFits_shift {h' : Host} {j : Nat} (hdb : h'.db = h.db)
    (hdev : ∀ d ∈ ns, h'.devices d = h.devices d)
    (hmalloc : h'.world.malloc = fun n => h.world.malloc (n + j)) (k : Nat) (held : Prop) :
    LoopFits rec h' ns k held ↔ LoopFits rec h ns (k + j) held := by
  induction ns generalizing k held with
  | nil => exact Iff.rfl
  | cons d ns ih =>
    have hd : h'.devices d = h.devices d := hdev d List.mem_cons_self
    have hrest := ih fun i hi => hdev i (List.mem_cons_of_mem _ hi)
    have hconflict : cmdConflict { rec with dev := d } h' = cmdConflict { rec with dev := d } h :=
      cmdConflict_congr hdb hd
    have hcount : mallocs { rec with dev := d } h' = mallocs { rec with dev := d } h := by
      unfold mallocs Raises cmdAddr
      simp only [hd]
    have hfirst : h'.world.malloc k = h.world.malloc (k + j) := by rw [hmalloc]
    have hsecond : h'.world.malloc (k + 1) = h.world.malloc (k + j + 1) := by
      rw [hmalloc]
      exact congrArg h.world.malloc (Nat.add_right_comm k 1 j)
    unfold LoopFits
    rw [hd, hconflict, addFits_shift hd hmalloc, hcount, hrest, hrest, hfirst, hsecond,
      Nat.add_right_comm k _ j]

theorem addCidLoop_grows (rec : ProcAddCid) (ns : List Nat) (h : Host) :
    h.trace <+: (addCidLoop rec ns h).1.trace :=
  addCidLoop_rel (R := fun h h' => h.trace <+: h'.trace) (fun _ => List.prefix_rfl)
    (fun p p' => p.trans p') rec (fun _ _ => cmdAddCid_grows _ _) ns h

/-- When the loop over the controllers keeps to their token memories. -/
theorem addCidLoop_keeps_iff (hs : CardsAbove h) (hn : ns.Nodup) :
    AllInside (queuedBy h (addCidLoop rec ns h).1) ∧
        (∀ c ∈ loopAdds rec ns h, BoundsKept c.1 c.2) ↔
      LoopFits rec h ns 0 (cards h ≠ []) := by
  induction ns generalizing h with
  | nil =>
    have p : Spares h (addCidLoop rec [] h).1 := .of_same rfl
    exact iff_of_true ⟨.of_others p.others, fun c hc => by cases hc⟩ trivial
  | cons d ns ih =>
    obtain ⟨hd, hns⟩ := List.nodup_cons.mp hn
    unfold LoopFits loopAdds
    cases hact : (h.devices d).activ with
    | false =>
      rw [addCidLoop_skip hact, if_neg Bool.false_ne_true, if_neg Bool.false_ne_true]
      exact ih hs hns
    | true =>
      rw [if_pos rfl, if_pos rfl]
      cases hc : cmdConflict { rec with dev := d } h with
      | true =>
        have hzero : (cmdAddCid { rec with dev := d } h).2 = 0 := by
          rw [cmdAddCid_result, hc, if_pos rfl]
        rw [addCidLoop_stop hact hc, if_pos hzero, List.forall_mem_singleton]
        exact iff_of_true (cmdAddCid_refused hc) (.inl rfl)
      | false =>
        let h1 := (cmdAddCid { rec with dev := d } h).1
        obtain ⟨hgrows, _, hmalloc⟩ := cmdAddCid_queues hc
        have hsplit : queuedBy h (addCidLoop rec ns h1).1 =
            queuedBy h h1 ++ queuedBy h1 (addCidLoop rec ns h1).1 :=
          queuedBy_trans hgrows (addCidLoop_grows ..)
        have hone : ¬ (cmdAddCid { rec with dev := d } h).2 = 0 := by
          rw [cmdAddCid_result, hc, if_neg Bool.false_ne_true]
          exact one_ne_zero
        have hheld : (cards h1 ≠ []) =
            (cards h ≠ [] ∨ h.world.malloc 0 = true ∨ h.world.malloc (0 + 1) = true) :=
          propext (cards_cmdAddCid_ne_nil hc)
        have hshift : LoopFits rec h1 ns 0 (cards h1 ≠ []) ↔
            LoopFits rec h ns (0 + mallocs { rec with dev := d } h) (cards h1 ≠ []) :=
          loopFits_shift (cmdAddCid_db { rec with dev := d } h)
            (fun i hi => cmdAddCid_devices_ne fun he => hd ((show i = d from he) ▸ hi)) hmalloc 0 _
        rw [addCidLoop_next hact hc, hsplit, allInside_append, if_neg hone, List.forall_mem_cons,
          ← hheld, ← hshift, or_iff_right Bool.false_ne_true, ← cmdAddCid_keeps_iff hs hc,
          and_and_and_comm]
        refine and_congr_right ?_
        intro hone
        exact ih (hs.extend hgrows hone.1) hns

end Loop

/-! ## Clearing a controller -/

/-- Where `n` blocks before the end of its loop `cmd_clear_dev` is. -/
def blockAddr (n : Nat) : UInt16 := UInt16.ofNat (0x8040 - 96 * n)

theorem blockAddr_toNat (n : Nat) : (blockAddr n).toNat = 0x8040 - 96 * n := by
  rw [blockAddr, UInt16.toNat_ofNat']
  exact Nat.mod_eq_of_lt (by change 32832 - 96 * n < 65536; omega)

theorem clearLoop_step {dev n : Nat} (hn : n < 340) (h : Host) :
    clearLoop dev (blockAddr (n + 1)) h = clearLoop dev (blockAddr n)
      (adSetToken AD_Q_FIRST dev (blockAddr (n + 1)) clearData GP_MAX_TICKET_NUM h).1 := by
  have haddr := blockAddr_toNat (n + 1)
  have hlt : blockAddr (n + 1) < GP_MAX_TICKET_BOUND := by
    rw [UInt16.lt_iff_toNat_lt, haddr]
    change 32832 - 96 * (n + 1) < 32760
    omega
  have hnext : blockAddr (n + 1) + UInt16.ofNat (GP_MAX_TICKET_NUM * sizeofTokenRec) =
      blockAddr n := by
    refine UInt16.toNat_inj.mp ?_
    rw [UInt16.toNat_add, haddr, blockAddr_toNat]
    change (32832 - 96 * (n + 1) + 96) % 65536 = 32832 - 96 * n
    omega
  rw [clearLoop, if_pos hlt, hnext]

/-- Only the last block ends behind the token memory. -/
theorem block_inside_iff {dev n : Nat} (hn : n < 340) :
    Inside (adSetTokenCmd AD_Q_FIRST dev (blockAddr (n + 1)) clearData GP_MAX_TICKET_NUM) ↔
      n ≠ 0 := by
  rw [inside_iff, blockAddr_toNat]
  change 192 ≤ 32832 - 96 * (n + 1) ∧ 32832 - 96 * (n + 1) + 8 * 12 ≤ 32768 ↔ _
  omega

/-- There is no memory to queue the last of `n` blocks for either bank. -/
def LastFails (h : Host) : Nat → Prop
  | 0 => True
  | n + 1 => h.world.malloc (2 * n) = false ∧ h.world.malloc (2 * n + 1) = false

theorem lastFails_succ (h : Host) (n : Nat) : LastFails h (n + 1) ↔
    h.world.malloc (2 * n) = false ∧ h.world.malloc (2 * n + 1) = false := Iff.rfl

/-- The loop keeps inside just when its last block is not queued. -/
theorem clearLoop_queues (dev : Nat) {n : Nat} (hn : n ≤ 340) (h : Host) :
    h.trace <+: (clearLoop dev (blockAddr n) h).trace ∧
      (AllInside (queuedBy h (clearLoop dev (blockAddr n) h)) ↔ LastFails h n) := by
  induction n generalizing h with
  | zero =>
    have hstop : clearLoop dev (blockAddr 0) h = h := by
      rw [clearLoop, if_neg (by decide)]
    rw [hstop, queuedBy_of_same rfl]
    exact ⟨List.prefix_rfl, iff_of_true (.of_others fun z hz => by cases hz) trivial⟩
  | succ n ih =>
    let z := adSetTokenCmd AD_Q_FIRST dev (blockAddr (n + 1)) clearData GP_MAX_TICKET_NUM
    have q := (bothBanks_enqueued (z := z) (show AD_Q_FIRST ≠ AD_Q_SHORT by decide) h).1
    obtain ⟨hgrows, hin⟩ := ih (Nat.le_of_succ_le hn) (bothBanks z h).1
    have hone : AllInside (takenBoth (h.world.malloc 0) (h.world.malloc 1) z) ↔
        (h.world.malloc 0 = true ∨ h.world.malloc 1 = true → n ≠ 0) :=
      (allInside_takenBoth (z := z) rfl rfl _ _).trans (imp_congr_right fun _ => block_inside_iff hn)
    rw [clearLoop_step hn]
    change h.trace <+: (clearLoop dev (blockAddr n) (bothBanks z h).1).trace ∧
      (AllInside (queuedBy h (clearLoop dev (blockAddr n) (bothBanks z h).1)) ↔ _)
    refine ⟨(Enqueued.grows q).trans hgrows, ?_⟩
    rw [queuedBy_trans (Enqueued.grows q) hgrows, queuedBy_enqueued q, allInside_append, hone, hin]
    cases n with
    | zero =>
      change (_ → 0 ≠ 0) ∧ True ↔ h.world.malloc 0 = false ∧ h.world.malloc 1 = false
      simp
    | succ n =>
      have hlater : LastFails (bothBanks z h).1 (n + 1) ↔ LastFails h (n + 2) := by
        unfold LastFails
        rw [q.malloc]
        exact Iff.rfl
      rw [hlater]
      exact and_iff_right fun _ => Nat.succ_ne_zero n

theorem adPrepLoad_spares (d : Nat) (enable : Bool) (h : Host) :
    Spares h (adPrepLoad AD_Q_FIRST d enable h).1 := by
  refine Enqueued.spares (sendOrQueue_enqueued (show AD_Q_FIRST ≠ AD_Q_SHORT by decide) h).1 ?_
  intro y hy
  rw [mem_taken hy]
  exact AdTarget.noConfusion

theorem setBounds_spares (dev : Nat) (bound : UInt16) (h : Host) :
    Spares h ({ h with maxBoundToken := bound }.setDev dev fun d => { d with boundToken := bound }) :=
  .of_same rfl

/-- Behind its loop `cmd_clear_dev` writes no card. -/
theorem clearBounds_spares (dev : Nat) (h : Host) : Spares h (clearBounds dev h) := by
  let h1 := { h with maxBoundToken := GP_MAX_TICKET_BOUND }.setDev dev fun d =>
    { d with boundToken := GP_MAX_TICKET_BOUND }
  let h2 := (adSetTokenBound AD_Q_FIRST dev (h1.devices dev).boundToken h1).1
  let h3 := (adPrepLoad AD_Q_FIRST dev false h2).1
  let h4 := (adGetTokenBound AD_Q_FIRST dev .null h3).1
  have hfirst : AD_Q_FIRST ≠ AD_Q_SHORT := by decide
  have h01 : Spares h h1 := setBounds_spares dev GP_MAX_TICKET_BOUND h
  have h12 : Spares h1 h2 := bothBanks_spares hfirst AdTarget.noConfusion h1
  have h23 : Spares h2 h3 := adPrepLoad_spares dev false h2
  have h34 : Spares h3 h4 := bothBanks_spares hfirst AdTarget.noConfusion h3
  have h45 : Spares h4 (clearBounds dev h) := gpInCmd_spares AdTarget.noConfusion h4
  exact (((h01.trans h12).trans h23).trans h34).trans h45

/-- When `cmd_clear_dev` keeps inside the token memory. -/
theorem cmdClearDev_inside_iff (dev : Nat) (h : Host) : h.trace <+: (cmdClearDev dev h).1.trace ∧
    (AllInside (queuedBy h (cmdClearDev dev h).1) ↔
      h.world.malloc 679 = false ∧ h.world.malloc 680 = false) := by
  let h1 := (adPrepLoad AD_Q_FIRST dev true h).1
  have hmalloc : h1.world.malloc = fun n => h.world.malloc (n + 1) :=
    (sendOrQueue_enqueued (show AD_Q_FIRST ≠ AD_Q_SHORT by decide) h).1.malloc
  have hbefore : Spares h h1 := adPrepLoad_spares dev true h
  have hstart : blockAddr 340 = GP_START_TICKET_BOUND := by decide
  obtain ⟨hgrows, hin⟩ := clearLoop_queues dev (Nat.le_refl 340) h1
  rw [hstart] at hgrows hin
  have hafter : Spares (clearLoop dev GP_START_TICKET_BOUND h1) (cmdClearDev dev h).1 :=
    clearBounds_spares dev _
  refine ⟨(hbefore.grows.trans hgrows).trans hafter.grows, ?_⟩
  rw [allInside_between hbefore hgrows hafter, hin, lastFails_succ h1 339, hmalloc]

/-! ## Runs -/

/-- Whatever else the adapter does that queues no card; those queued may be sent. -/
structure Other where
  run : Host → Host
  spares : ∀ h, Spares h (run h)

/-- A call that writes cards or moves a bound, or something else. -/
inductive Event where
  | addCid (rec : ProcAddCid)
  | addCidToAll (rec : ProcAddCid)
  | addTocken (inRec : AdTokenRec)
  | clear (dev : Nat)
  | boundReply (m : ReceivMess)
  | other (o : Other)

def step (e : Event) (h : Host) : Host :=
  match e with
  | .addCid rec => (cmdAddCid rec h).1
  | .addCidToAll rec => (cmdAddCidToAll rec h).1
  | .addTocken inRec => (cmdAddTockenToAll inRec h).1
  | .clear dev => (cmdClearDev dev h).1
  | .boundReply m => tokenBoundReply m h
  | .other o => o.run h

/-- The calls of `cmd_add_cid` an event makes, each with the state it finds. -/
def adds (e : Event) (h : Host) : List (ProcAddCid × Host) :=
  match e with
  | .addCid rec => [(rec, h)]
  | .addCidToAll rec => toAllAdds rec h
  | .addTocken inRec =>
    let s := addTockenRec inRec h
    loopAdds s.2 (devNums s.1) s.1
  | _ => []

/-- The cards that an event queues are inside the token memory, and no bound it
sets wraps below an address already written. -/
def KeepsInside (e : Event) (h : Host) : Prop :=
  AllInside (queuedBy h (step e h)) ∧ ∀ c ∈ adds e h, BoundsKept c.1 c.2

/-- A call that is fit for the token memory: no clearing whose last block can be
queued, no addition to an address at which the card does not fit, and none whose
sum wraps once a card has been queued. -/
def Fits (e : Event) (h : Host) : Prop :=
  match e with
  | .addCid rec => cmdConflict rec h = true ∨ AddFits rec h 0 (cards h ≠ [])
  | .addCidToAll rec =>
    let s := addCidToAllRec rec h
    LoopFits s.2 s.1 (devNums s.1) 0 (cards h ≠ [])
  | .addTocken inRec =>
    let s := addTockenRec inRec h
    LoopFits s.2 s.1 (devNums s.1) 0 (cards h ≠ [])
  | .clear _ => h.world.malloc 679 = false ∧ h.world.malloc 680 = false
  | .boundReply _ | .other _ => True

theorem addTokenLogged_spares (t : DbTokenRec) (h : Host) : Spares h (addTokenLogged t h).1 :=
  (Spares.of_note (e := .dbAddToken t) rfl h).trans (.of_same rfl)

theorem addTockenRec_spares (inRec : AdTokenRec) (h : Host) : Spares h (addTockenRec inRec h).1 := by
  have p : Spares h (h.note (.dbGetTokenByC inRec.cid)) := .of_note rfl h
  unfold addTockenRec
  simp only
  split
  · exact p.trans (addTokenLogged_spares ..)
  · exact p

/-- The loop behind the preparation of its record. -/
theorem loopBehind_keeps_iff {h h1 : Host} (hs : CardsAbove h) (p : Spares h h1) (rec : ProcAddCid) :
    AllInside (queuedBy h (addCidLoop rec (devNums h1) h1).1) ∧
        (∀ c ∈ loopAdds rec (devNums h1) h1, BoundsKept c.1 c.2) ↔
      LoopFits rec h1 (devNums h1) 0 (cards h ≠ []) := by
  have hs1 : CardsAbove h1 := hs.extend p.grows (.of_others p.others)
  rw [queuedBy_trans p.grows (addCidLoop_grows ..), allInside_append,
    and_iff_right (AllInside.of_others p.others), ← p.cards]
  exact addCidLoop_keeps_iff hs1 (devNums_nodup _)

/-- When one call keeps inside the token memory. -/
theorem keepsInside_iff (e : Event) (h : Host) (hs : CardsAbove h) : KeepsInside e h ↔ Fits e h := by
  cases e with
  | addCid rec =>
    change AllInside (queuedBy h (cmdAddCid rec h).1) ∧ (∀ c ∈ [(rec, h)], BoundsKept c.1 c.2) ↔ _ ∨ _
    rw [List.forall_mem_singleton]
    cases hc : cmdConflict rec h with
    | true => exact iff_of_true (cmdAddCid_refused hc) (.inl rfl)
    | false =>
      rw [cmdAddCid_keeps_iff hs hc]
      exact (or_iff_right Bool.false_ne_true).symm
  | addCidToAll rec => exact loopBehind_keeps_iff hs (addTokenLogged_spares ..) _
  | addTocken inRec => exact loopBehind_keeps_iff hs (addTockenRec_spares inRec h) _
  | clear dev =>
    exact (and_iff_left fun c hc => by cases hc).trans (cmdClearDev_inside_iff dev h).2
  | boundReply m =>
    have p : Spares h (tokenBoundReply m h) := .of_same rfl
    exact iff_of_true ⟨.of_others p.others, fun c hc => by cases hc⟩ trivial
  | other o =>
    exact iff_of_true ⟨.of_others (o.spares h).others, fun c hc => by cases hc⟩ trivial

theorem step_grows (e : Event) (h : Host) : h.trace <+: (step e h).trace := by
  cases e with
  | addCid rec => exact cmdAddCid_grows rec h
  | addCidToAll rec => exact (addTokenLogged_spares ..).grows.trans (addCidLoop_grows ..)
  | addTocken inRec => exact (addTockenRec_spares inRec h).grows.trans (addCidLoop_grows ..)
  | clear dev => exact (cmdClearDev_inside_iff dev h).1
  | boundReply m => exact List.prefix_rfl
  | other o => exact (o.spares h).grows

/-- **When token writes stay inside the token memory.** In every run from `gp_init`,
with whatever comes between the calls. -/
theorem token_writes_inside_iff (w : World) (db : Db) (es : List Event) :
    Along step KeepsInside es (gpInit (boot w db)) ↔ Along step Fits es (gpInit (boot w db)) := by
  refine Along.iff_of_invariant (I := CardsAbove) ?_ keepsInside_iff es ?_
  · intro e h hs hfits
    exact hs.extend (step_grows e h) ((keepsInside_iff e h hs).mpr hfits).1
  · intro a ha
    rw [cards, TokenBound.gpInit_trace] at ha
    cases ha

/-- Clearing a controller writes 64 bytes behind its token memory. -/
theorem clear_overruns : ¬ ∀ w db es, Along step KeepsInside es (gpInit (boot w db)) := by
  intro hall
  have hclear : KeepsInside (.clear 1) (gpInit (boot workingWorld Db.empty)) :=
    (hall workingWorld Db.empty [.clear 1]).1
  have hfails := (cmdClearDev_inside_iff 1 _).2.mp hclear.1
  exact absurd hfails.1 (by decide)

end Libgate.TokenMemory
