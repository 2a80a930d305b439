import Libgate.Operations
import Libgate.Lib.HighMark

/-! The bounds queued for a controller's token table. `gp_dev_init` queues the
global bound; `cmd_add_cid` queues a bound when a card's address reaches the
host's shadow of the controller's bound, which `gp_init` and the controller's
replies set and `gp_dev_init` does not. While the shadow lies below what was
queued, a low card makes the next bound too small. -/

namespace Libgate.TokenBound
open Lib DbLayer Send Target Cmd Processor Layer HostFrame Operations

/-! ## Bounds and tokens in the trace -/

/-- The controller and the value of a queued `ad_set_token_bound`. -/
def boundOf : Obs → Option (UInt8 × Nat)
  | .queued z => if z.targetN = .setTokenBound then some (z.dst, valAt z 5) else none
  | _ => none

/-- The controller and the address of a queued `ad_set_token`. -/
def tokenOf : Obs → Option (UInt8 × Nat)
  | .queued z => if z.targetN = .setToken then some (z.dst, valAt z 3) else none
  | _ => none

/-- For each controller the queued bounds do not decrease, and each is greater
than the addresses of the tokens queued before it. -/
def NeverShrinks (tr : List Obs) : Prop :=
  tr.Pairwise fun e e' => ∀ d b', boundOf e' = some (d, b') →
    (∀ b, boundOf e = some (d, b) → b ≤ b') ∧ ∀ a, tokenOf e = some (d, a) → a < b'

/-- The part of an optional value that is for controller `d`. -/
def forDev (d : UInt8) : Option (UInt8 × Nat) → Option Nat
  | some (d', n) => if d' = d then some n else none
  | none => none

theorem forDev_eq_some {d : UInt8} {o : Option (UInt8 × Nat)} {n : Nat} :
    forDev d o = some n ↔ o = some (d, n) := by
  cases o with
  | none => simp [forDev]
  | some p => simp [forDev, Prod.ext_iff, and_comm]

/-- What a command asks of a later bound: a bound its value, a token the
address after it. -/
def marking : Marking Obs UInt8 where
  weight d e := max ((forDev d (boundOf e)).getD 0) (((forDev d (tokenOf e)).map (· + 1)).getD 0)
  claim := boundOf

theorem weight_le_iff {d : UInt8} {e : Obs} {n : Nat} : marking.weight d e ≤ n ↔
    (∀ b, boundOf e = some (d, b) → b ≤ n) ∧ ∀ a, tokenOf e = some (d, a) → a < n := by
  simp only [marking, max_le_iff, ← forDev_eq_some]
  constructor
  · intro ⟨h1, h2⟩
    refine ⟨?_, ?_⟩
    · intro b hb
      simpa [hb] using h1
    · intro a ha
      simpa [ha, Nat.succ_le_iff] using h2
  · intro ⟨h1, h2⟩
    constructor
    · cases hb : forDev d (boundOf e) with
      | none => simp
      | some b => simpa using h1 b hb
    · cases ha : forDev d (tokenOf e) with
      | none => simp
      | some a => simpa [Nat.succ_le_iff] using h2 a ha

theorem neverShrinks_iff (tr : List Obs) : NeverShrinks tr ↔ marking.Honest tr := by
  unfold NeverShrinks Marking.Honest
  simp only [weight_le_iff]
  rfl

/-- The highest bound, and address after a token, queued for a controller. -/
def top (d : UInt8) (tr : List Obs) : Nat := marking.top d tr

theorem tokenOf_setToken {d : Nat} {a : UInt16} {z : CmdSend} (hz : IsSetToken d a z) :
    tokenOf (.queued z) = some (UInt8.ofNat d, a.toNat) ∧ boundOf (.queued z) = none := by
  obtain ⟨data, rfl | rfl⟩ := hz
  · exact ⟨congrArg (fun n => some (UInt8.ofNat d, n)) (be16_val a), rfl⟩
  · exact ⟨congrArg (fun n => some (UInt8.ofNat d, n)) (be16_val a), rfl⟩

theorem boundOf_setBound {d : Nat} {a : UInt16} {z : CmdSend} (hz : IsSetBound d a z) :
    boundOf (.queued z) = some (UInt8.ofNat d, a.toNat) ∧ tokenOf (.queued z) = none := by
  obtain rfl | rfl := hz
  · exact ⟨congrArg (fun n => some (UInt8.ofNat d, n)) (be16_val a), rfl⟩
  · exact ⟨congrArg (fun n => some (UInt8.ofNat d, n)) (be16_val a), rfl⟩

/-- Neither a bound nor a token. -/
def Free (e : Obs) : Prop := boundOf e = none ∧ tokenOf e = none

theorem free_of_inert {e : Obs} (he : inertObs e = true) : Free e := by
  cases e with
  | queued z =>
    simp only [inertObs, decide_eq_true_eq] at he
    exact ⟨if_neg he.2, if_neg he.1⟩
  | _ => exact ⟨rfl, rfl⟩

theorem free_of_logNote {e : Obs} (he : logNote e = true) : Free e := by
  cases e with
  | queued z => cases he
  | _ => exact ⟨rfl, rfl⟩

/-! ## The invariant -/

/-- The queued bounds never shrank, and nothing queued lies above the global
bound. -/
structure Bounded (h : Host) : Prop where
  honest : marking.Honest h.trace
  below : ∀ d, top d h.trace ≤ h.maxBoundToken.toNat

/-- A step whose events stay at or below the new global bound, and whose bounds
reach a level that nothing queued before or with them exceeds. -/
theorem Bounded.extend {h h' : Host} (hb : Bounded h) {es : List Obs} {n : Nat}
    (ht : h'.trace = h.trace ++ es) (hmax : h.maxBoundToken.toNat ≤ h'.maxBoundToken.toNat)
    (hw : ∀ e ∈ es, ∀ d, marking.weight d e ≤ n) (hn : n ≤ h'.maxBoundToken.toNat)
    (hclaim : ∀ e ∈ es, ∀ d b, boundOf e = some (d, b) → n ≤ b ∧ top d h.trace ≤ b) :
    Bounded h' := by
  refine ⟨?_, ?_⟩
  · rw [ht]
    refine Marking.honest_append.mpr ⟨hb.honest, ?_, fun e he d b hc => (hclaim e he d b hc).2⟩
    exact Marking.honest_of_level hw fun e he d b hc => (hclaim e he d b hc).1
  · intro d
    rw [ht, top, Marking.top_append]
    exact max_le (le_trans (hb.below d) hmax)
      ((Marking.top_le_iff _).mpr fun e he => le_trans (hw e he d) hn)

theorem Free.weight_le {e : Obs} (he : Free e) (d : UInt8) (n : Nat) :
    marking.weight d e ≤ n := by
  refine weight_le_iff.mpr ⟨?_, ?_⟩
  · intro b hc
    rw [he.1] at hc; cases hc
  · intro a hc
    rw [he.2] at hc; cases hc

theorem Bounded.extend_free {h h' : Host} (hb : Bounded h) {l : List Obs}
    (ht : h'.trace = h.trace ++ l) (hmax : h'.maxBoundToken = h.maxBoundToken)
    (hes : ∀ e ∈ l, Free e) : Bounded h' := by
  refine hb.extend (n := 0) ht (le_of_eq (by rw [hmax])) ?_ (Nat.zero_le _) ?_
  · exact fun e he d => (hes e he).weight_le d 0
  · intro e he d b hc
    rw [(hes e he).1] at hc; cases hc

theorem Bounded.of_inert {h h' : Host} (hb : Bounded h) (i : Inert h h') : Bounded h' := by
  obtain ⟨es, ht, hes⟩ := i.trace
  exact hb.extend_free ht i.maxBoundToken fun e he => free_of_inert (hes e he)

theorem setBound_weight_le {d : Nat} {a : UInt16} {z : CmdSend} (hz : IsSetBound d a z)
    (k : UInt8) : marking.weight k (.queued z) ≤ a.toNat := by
  obtain ⟨h1, h2⟩ := boundOf_setBound hz
  refine weight_le_iff.mpr ⟨?_, ?_⟩
  · intro b hc
    rw [h1] at hc; cases hc; exact le_refl _
  · intro b hc
    rw [h2] at hc; cases hc

theorem setToken_weight_le {d : Nat} {a : UInt16} {z : CmdSend} (hz : IsSetToken d a z)
    (k : UInt8) : marking.weight k (.queued z) ≤ a.toNat + 1 := by
  obtain ⟨h1, h2⟩ := tokenOf_setToken hz
  refine weight_le_iff.mpr ⟨?_, ?_⟩
  · intro b hc
    rw [h2] at hc; cases hc
  · intro b hc
    rw [h1] at hc; cases hc; omega

/-- `gp_dev_init` queues the global bound, which nothing exceeds. -/
theorem gpDevInit_bounded (dev : Nat) {h : Host} (hb : Bounded h) : Bounded (gpDevInit dev h) := by
  obtain ⟨h1, h2, i1, q, i2⟩ := gpDevInit_split dev h
  obtain ⟨zs, hzs, ht⟩ := q.trace
  have hb1 := hb.of_inert i1
  have hmax : h2.maxBoundToken = h.maxBoundToken := q.maxBoundToken.trans i1.maxBoundToken
  refine Bounded.of_inert (hb1.extend (n := h.maxBoundToken.toNat) ht ?_ ?_ ?_ ?_) i2
  · rw [hmax, i1.maxBoundToken]
  · intro e he d
    obtain ⟨z, hz, rfl⟩ := List.mem_map.mp he
    exact setBound_weight_le (hzs z hz) d
  · rw [hmax]
  · intro e he d b hc
    obtain ⟨z, hz, rfl⟩ := List.mem_map.mp he
    rw [(boundOf_setBound (hzs z hz)).1] at hc
    cases hc
    exact ⟨le_refl _, by rw [← i1.maxBoundToken]; exact hb1.below _⟩

/-! ## Adding a card -/

/-- The address of a card that `cmd_add_cid` accepts: one that reaches the
shadow bound has a slot that ends at or above everything queued for the
controller, and one that does not lies below the global bound. -/
def AddOk (rec : ProcAddCid) (h : Host) : Prop :=
  cmdConflict rec h = false →
    ((h.devices rec.dev).boundToken ≤ cmdAddr rec h →
      (cmdAddr rec h).toNat + 8 < 2 ^ 16 ∧
        top (UInt8.ofNat rec.dev) h.trace ≤ (cmdAddr rec h).toNat + 8) ∧
    (¬ (h.devices rec.dev).boundToken ≤ cmdAddr rec h →
      (cmdAddr rec h).toNat < h.maxBoundToken.toNat)

instance (rec : ProcAddCid) (h : Host) : Decidable (AddOk rec h) :=
  inferInstanceAs (Decidable (_ → (_ → _ ∧ _) ∧ (¬ _ → _)))

section Added
variable {d : Nat} {a : UInt16} {h h' : Host}

/-- An address that reaches the shadow bound: a bound is queued behind the token. -/
theorem bounded_of_reached (hadd : AddedCid d a h h') (hb : Bounded h)
    (hle : (h.devices d).boundToken ≤ a) (ha : a.toNat + 8 < 2 ^ 16)
    (htop : top (UInt8.ofNat d) h.trace ≤ a.toNat + 8) : Bounded h' := by
  obtain ⟨es, ht, hes⟩ := hadd.events
  have ha8 : (a + 8).toNat = a.toNat + 8 := by
    rw [UInt16.toNat_add]
    exact Nat.mod_eq_of_lt ha
  have hmax : h'.maxBoundToken.toNat = max h.maxBoundToken.toNat (a.toNat + 8) := by
    rw [hadd.maxBoundToken, if_pos hle, toNat_max, ha8]
  refine hb.extend (n := a.toNat + 8) ht ?_ ?_ ?_ ?_
  · rw [hmax]
    exact le_max_left ..
  · intro e he k
    rcases hes e he with rfl | ⟨z, rfl, hz | ⟨hz, _⟩⟩
    · exact (show Free _ from ⟨rfl, rfl⟩).weight_le k _
    · exact le_trans (setToken_weight_le hz k) (by omega)
    · exact ha8 ▸ setBound_weight_le hz k
  · rw [hmax]
    exact le_max_right ..
  · intro e he k b hclaim
    rcases hes e he with rfl | ⟨z, rfl, hz | ⟨hz, _⟩⟩
    · cases hclaim
    · rw [(tokenOf_setToken hz).2] at hclaim
      cases hclaim
    · rw [(boundOf_setBound hz).1, ha8] at hclaim
      cases hclaim
      exact ⟨le_refl _, htop⟩

/-- An address below the shadow bound: only the token is queued. -/
theorem bounded_of_below (hadd : AddedCid d a h h') (hb : Bounded h)
    (hle : ¬ (h.devices d).boundToken ≤ a) (ha : a.toNat < h.maxBoundToken.toNat) :
    Bounded h' := by
  obtain ⟨es, ht, hes⟩ := hadd.events
  have hmax : h'.maxBoundToken = h.maxBoundToken := by
    rw [hadd.maxBoundToken, if_neg hle]
  refine hb.extend (n := a.toNat + 1) ht (le_of_eq (by rw [hmax])) ?_ (by rw [hmax]; exact ha) ?_
  · intro e he k
    rcases hes e he with rfl | ⟨z, rfl, hz | ⟨_, hreach⟩⟩
    · exact (show Free _ from ⟨rfl, rfl⟩).weight_le k _
    · exact setToken_weight_le hz k
    · exact absurd hreach hle
  · intro e he k b hclaim
    rcases hes e he with rfl | ⟨z, rfl, hz | ⟨_, hreach⟩⟩
    · cases hclaim
    · rw [(tokenOf_setToken hz).2] at hclaim
      cases hclaim
    · exact absurd hreach hle

end Added

theorem cmdAddCid_bounded {rec : ProcAddCid} {h : Host} (hb : Bounded h) (hok : AddOk rec h) :
    Bounded (cmdAddCid rec h).1 := by
  cases hc : cmdConflict rec h with
  | true =>
    rw [cmdAddCid_conflict hc]
    exact hb.of_inert (Inert.note rfl h)
  | false =>
    have hadd := (cmdAddCid_ok hc).2
    obtain ⟨hreach, hbelow⟩ := hok hc
    by_cases hle : (h.devices rec.dev).boundToken ≤ cmdAddr rec h
    · obtain ⟨ha, htop⟩ := hreach hle
      exact bounded_of_reached hadd hb hle ha htop
    · exact bounded_of_below hadd hb hle (hbelow hle)

/-! ## The calls of `cmd_add_cid` in a step -/

/-- The calls the loop over the controllers makes, each with the state it
finds. -/
def loopAdds (rec : ProcAddCid) : List Nat → Host → List (ProcAddCid × Host)
  | [], _ => []
  | d :: ns, h =>
    if (h.devices d).activ then
      ({ rec with dev := d }, h) ::
        if (cmdAddCid { rec with dev := d } h).2 = 0 then []
        else loopAdds rec ns (cmdAddCid { rec with dev := d } h).1
    else loopAdds rec ns h

def toAllAdds (rec : ProcAddCid) (h : Host) : List (ProcAddCid × Host) :=
  let s := addCidToAllRec rec h
  loopAdds s.2 (devNums s.1) s.1

def newCardAdds (dev : Nat) (ev : UInt8) (h : Host) : List (ProcAddCid × Host) :=
  let cid := (h.devices dev).lastCid
  let token := dbGetTokenByC h.db cid
  let h := h.note (.dbGetTokenByC cid)
  match token with
  | some token =>
    let h := (adTurnOn AD_Q_SECOND dev (ev &&& 1) h).1
    let r := cmdAddCid (pollRec dev ev token) h
    (pollRec dev ev token, h) ::
      if r.2 = 0 then toAllAdds (pollRec dev ev { token with addr := 0 }) r.1 else []
  | none =>
    let rec_ := pollRec dev ev (cidToken cid)
    toAllAdds (defaultRights rec_) (h.note (.newCid rec_))

/-- The calls of `cmd_add_cid` an operation makes. -/
def opAdds (op : Op) (h : Host) : List (ProcAddCid × Host) :=
  match op with
  | .addCid rec => [(rec, h)]
  | .addCidToAll rec => toAllAdds rec h
  | .addTocken inRec =>
    let s := addTockenRec inRec h
    loopAdds s.2 (devNums s.1) s.1
  | .reply m =>
    if (h.sendMess.evHandler = .cbGetPollResult ∧ h.sendMess.target = .getRegs ∧ m.cmdN = 0x06) ∧
        newCardDue m h
    then newCardAdds m.dev.toNat (m.cmdBuff 20) h else []
  | _ => []

/-- Every call of `cmd_add_cid` in the step finds a fitting address. -/
def AddsOk (op : Op) (h : Host) : Prop := ∀ c ∈ opAdds op h, AddOk c.1 c.2

instance (op : Op) (h : Host) : Decidable (AddsOk op h) :=
  inferInstanceAs (Decidable (∀ c ∈ opAdds op h, AddOk c.1 c.2))

theorem addCidLoop_bounded {rec : ProcAddCid} {ns : List Nat} {h : Host} (hb : Bounded h)
    (hok : ∀ c ∈ loopAdds rec ns h, AddOk c.1 c.2) : Bounded (addCidLoop rec ns h).1 := by
  induction ns generalizing h with
  | nil => exact hb
  | cons d ns ih =>
    unfold loopAdds at hok
    unfold addCidLoop
    by_cases ha : (h.devices d).activ
    · rw [if_pos ha] at hok ⊢
      have hfit : AddOk { rec with dev := d } h := hok (_, h) List.mem_cons_self
      have hb1 := cmdAddCid_bounded hb hfit
      by_cases hr : (cmdAddCid { rec with dev := d } h).2 = 0
      · rw [if_pos hr]; exact hb1
      · rw [if_neg hr] at hok ⊢
        exact ih hb1 fun c hc => hok c (List.mem_cons_of_mem _ hc)
    · rw [if_neg ha] at hok ⊢
      exact ih hb hok

theorem addTokenLogged_bounded {h : Host} (t : DbTokenRec) (hb : Bounded h) :
    Bounded (addTokenLogged t h).1 :=
  hb.extend_free (l := [.dbAddToken t]) rfl rfl fun e he => by
    rw [List.mem_singleton.mp he]; exact ⟨rfl, rfl⟩

theorem cmdAddCidToAll_bounded {rec : ProcAddCid} {h : Host} (hb : Bounded h)
    (hok : ∀ c ∈ toAllAdds rec h, AddOk c.1 c.2) : Bounded (cmdAddCidToAll rec h).1 :=
  addCidLoop_bounded (addTokenLogged_bounded _ hb) hok

theorem cmdAddTockenToAll_bounded {inRec : AdTokenRec} {h : Host} (hb : Bounded h)
    (hok : AddsOk (.addTocken inRec) h) : Bounded (cmdAddTockenToAll inRec h).1 := by
  refine addCidLoop_bounded ?_ hok
  have hnote : Bounded (h.note (.dbGetTokenByC inRec.cid)) := hb.of_inert (Inert.note rfl h)
  unfold addTockenRec
  simp only
  split
  · exact addTokenLogged_bounded _ hnote
  · exact hnote

theorem pollNewCard_bounded {dev : Nat} {ev : UInt8} {h : Host} (hb : Bounded h)
    (hok : ∀ c ∈ newCardAdds dev ev h, AddOk c.1 c.2) : Bounded (pollNewCard dev ev h) := by
  have hnote : Bounded (h.note (.dbGetTokenByC (h.devices dev).lastCid)) :=
    hb.of_inert (Inert.note rfl h)
  cases ht : dbGetTokenByC h.db (h.devices dev).lastCid with
  | some token =>
    simp only [newCardAdds, pollNewCard, ht] at hok ⊢
    have hopen : Bounded (adTurnOn AD_Q_SECOND dev (ev &&& 1)
        (h.note (.dbGetTokenByC (h.devices dev).lastCid))).1 :=
      hnote.of_inert (gpInCmd_inert rfl _)
    generalize (adTurnOn AD_Q_SECOND dev (ev &&& 1)
      (h.note (.dbGetTokenByC (h.devices dev).lastCid))).1 = h1 at hopen hok ⊢
    have hfit : AddOk (pollRec dev ev token) h1 := hok (_, h1) List.mem_cons_self
    have hadd := cmdAddCid_bounded hopen hfit
    by_cases hr : (cmdAddCid (pollRec dev ev token) h1).2 = 0
    · rw [if_pos hr] at hok ⊢
      exact cmdAddCidToAll_bounded hadd fun c hc => hok c (List.mem_cons_of_mem _ hc)
    · rw [if_neg hr]
      exact hadd
  | none =>
    simp only [newCardAdds, pollNewCard, ht] at hok ⊢
    exact cmdAddCidToAll_bounded (hnote.of_inert (Inert.note rfl _)) hok

/-! ## Runs -/

theorem step_bounded (op : Op) (h : Host) (hb : Bounded h) (hok : AddsOk op h) :
    Bounded (step op h) := by
  cases op with
  | devInit dev => exact gpDevInit_bounded dev hb
  | addCid rec => exact cmdAddCid_bounded hb (hok (rec, h) (List.mem_singleton_self _))
  | addCidToAll rec => exact cmdAddCidToAll_bounded hb hok
  | addTocken inRec => exact cmdAddTockenToAll_bounded hb hok
  | drain => exact hb.of_inert (gpPutCmd_inert h)
  | idle => exact hb.of_inert (gpSendIdleLoop_inert _ h)
  | logs => exact hb.of_inert (gpGetDevLogs_inert h)
  | reply m =>
    rcases processPortInput_cases m h with ⟨_, _, heq⟩ | ⟨_, i | ⟨hpoll, heq⟩ | ⟨_, heq⟩⟩
    · obtain ⟨hmax, _, es, ht, hes⟩ := logRecords_frame m.dev.toNat (blockRecords m) 0 h
      have hlog : Bounded (logRecords m.dev.toNat (blockRecords m) 0 h) :=
        hb.extend_free ht hmax fun e he => free_of_logNote (hes e he)
      simp only [step, heq]
      exact hlog.of_inert (sendOrQueue_inert rfl _)
    · exact hb.of_inert i
    · simp only [step, heq]
      rcases pollRegs_cases m h with ⟨hdue, i⟩ | ⟨_, i⟩
      · refine (pollNewCard_bounded hb fun c hc => hok c ?_).of_inert i
        rw [opAdds, if_pos ⟨hpoll, hdue⟩]
        exact hc
      · exact hb.of_inert i
    · simp only [step, heq]
      exact hb.extend_free (l := []) (by simp [tokenBoundReply, Host.setDev]) rfl (by simp)

/-- `gp_init` queues nothing and sends nothing. -/
theorem gpInit_trace (w : World) (db : Db) : (gpInit (boot w db)).trace = [] := by
  unfold gpInit gpAllDevEnable gpGetDevLogs
  obtain ⟨_, _, _, he⟩ := gpReconnect_rest true _
  obtain ⟨_, _, _, he'⟩ := gpReconnect_rest false _
  rw [he, he']
  rfl

theorem gpInit_bounded (w : World) (db : Db) : Bounded (gpInit (boot w db)) := by
  have htr := gpInit_trace w db
  exact ⟨by rw [htr]; exact .nil, fun d => by rw [htr]; exact Nat.zero_le _⟩

/-- **The queued bounds never shrink while every card added fits.** In every
run from `gp_init` of device initialisations, card additions, queue draining,
polling and replies whose calls of `cmd_add_cid` all find a fitting address. -/
theorem bounds_never_shrink (w : World) (db : Db) (ops : List Op)
    (hok : Along step AddsOk ops (gpInit (boot w db))) :
    NeverShrinks (run step ops (gpInit (boot w db))).trace := by
  rw [neverShrinks_iff]
  exact (Along.invariant step_bounded (gpInit_bounded w db) hok).honest

/-- Two cards on a controller found first, and a second controller found later. -/
theorem bounds_two_controllers :
    NeverShrinks (run step
      [.devInit 1, .addCid ⟨1, 0, ⟨7, 0, 0xFF, 0, 0⟩, 2⟩, .drain,
        .addCid ⟨1, 0, ⟨9, 0, 0xFF, 0, 0⟩, 2⟩, .devInit 2]
      (gpInit (boot workingWorld Db.empty))).trace :=
  bounds_never_shrink workingWorld Db.empty _ (by decide)

/-- A database with a card at the start of the token memory and one far up. -/
def twoCards : Db :=
  (dbAddToken (dbAddToken Db.empty ⟨7, 0, 0xFF, 0xC0, 0⟩).1 ⟨9, 0, 0xFF, 0x1000, 0⟩).1

/-- A controller is initialised with the bound 0x1008; the low card is shown to
it, and the bound 0xC8 is queued. No reply has touched the shadow bound. -/
theorem low_card_shrinks :
    ¬ ∀ (w : World) (db : Db) (ops : List Op), (∀ m, Op.reply m ∉ ops) →
      NeverShrinks (run step ops (gpInit (boot w db))).trace := by
  intro hall
  have hrun := hall workingWorld twoCards [.devInit 1, .addCid ⟨1, 0, ⟨7, 0, 0xFF, 0xC0, 1⟩, 2⟩]
    (by simp)
  have hlate := (List.pairwise_iff_getElem.mp hrun 3 14 (by decide) (by decide) (by decide)
    1 0xC8 (by decide)).1 0x1008 (by decide)
  revert hlate; decide

end Libgate.TokenBound
