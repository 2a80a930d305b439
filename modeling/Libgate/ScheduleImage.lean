import Libgate.CardImage
import Libgate.Schedules

/-! The schedules in a controller's memory. What `cmd_saving_sched` puts into the
queue is followed to the line and from there into the memory of the controllers
that hear it: each slot of a batch then holds the last record of the batch for it,
and the other slots are as they were. -/

namespace Libgate.ScheduleImage
open Lib Lib.Memory DbLayer Send Target Cmd Layer HostFrame Queueing MemoryWrites Wire CardImage
open Schedules

/-! ## The place of the schedules -/

/-- Where a slot begins. -/
def slotAt (n : Int) : Nat := (0x78 + 8 * (n - 1)).toNat

/-- A write that touches the seven slots. -/
def inSlots (w : Nat × List UInt8) : Bool := w.1 < 0xB0 && 0x78 < w.1 + w.2.length

/-- The command writes there in that bank of the controller. -/
def writesSlots (d bank : UInt8) (z : CmdSend) : Bool := (writeIn d bank (packet z)).any inSlots

theorem written_slots (d bank : UInt8) (zs : List CmdSend) :
    written d bank (zs.filter (writesSlots d bank)) = (written d bank zs).filter inSlots := by
  induction zs with
  | nil => rfl
  | cons z zs ih =>
    cases hz : writeIn d bank (packet z) with
    | none =>
      have hno : ¬ writesSlots d bank z = true := by simp [writesSlots, hz]
      rw [List.filter_cons_of_neg hno, ih, written, written, List.filterMap_cons, hz]
    | some w =>
      have hcons : written d bank (z :: zs) = w :: written d bank zs := by
        rw [written, List.filterMap_cons, hz]
        rfl
      rw [hcons]
      cases hw : inSlots w with
      | true =>
        have hyes : writesSlots d bank z = true := by simp [writesSlots, hz, hw]
        rw [List.filter_cons_of_pos hyes, List.filter_cons_of_pos hw, ← ih, written,
          List.filterMap_cons, hz]
        rfl
      | false =>
        have hno : ¬ writesSlots d bank z = true := by simp [writesSlots, hz, hw]
        rw [List.filter_cons_of_neg hno, List.filter_cons_of_neg (Bool.not_eq_true _ ▸ hw), ih]

/-- The slots depend on nothing else that is sent. -/
theorem load_slot {d bank : UInt8} {zs zs' : List CmdSend} {n : Int} (hn : IsSlot n)
    (hz : zs.filter (writesSlots d bank) = zs'.filter (writesSlots d bank)) (m : Nat → UInt8) :
    load (storeAll m (written d bank zs)) (slotAt n) 8 =
      load (storeAll m (written d bank zs')) (slotAt n) 8 := by
  obtain ⟨h1, h7⟩ := hn
  have hcell : ∀ ys i, 0x78 ≤ i → i < 0xB0 →
      storeAll m (written d bank (ys.filter (writesSlots d bank))) i =
        storeAll m (written d bank ys) i := by
    intro ys i hlo hhi
    rw [written_slots]
    refine storeAll_filter ?_ _
    intro w hw
    rw [inSlots, Bool.and_eq_false_iff, decide_eq_false_iff_not, decide_eq_false_iff_not] at hw
    omega
  refine load_congr ?_
  intro i hi
  have hlo : 0x78 ≤ slotAt n + i := by
    unfold slotAt
    omega
  have hhi : slotAt n + i < 0xB0 := by
    unfold slotAt
    omega
  rw [← hcell zs _ hlo hhi, hz, hcell zs' _ hlo hhi]

/-! ## The commands of a batch -/

theorem schedCmd_writes (c : AdSchedRec × Nat) : Writes (schedCmd c) (UInt8.ofNat c.2)
    (UInt16.ofInt (0x0078 + 8 * (c.1.num - 1))) (schedZone c.1) :=
  ⟨rfl, rfl, ⟨8, rfl, 0, rfl⟩, rfl, rfl⟩

section Batch
variable {d : Nat} {n : Int} {bank : UInt8} (hbank : bank = 0 ∨ bank = 1) (hn : IsSlot n)
include hbank hn

/-- A call writes the slot it is for, and no other. -/
theorem load_call {c : AdSchedRec × Nat} (hc : IsSlot c.1.num) (m : Nat → UInt8) :
    load (storeAll m (written (UInt8.ofNat d) bank [schedCmd c, secondBank (schedCmd c)]))
        (slotAt n) 8 =
      if CallFor d n c then schedZone c.1 else load m (slotAt n) 8 := by
  have hlen : (schedZone c.1).length = 8 := rfl
  have haddr := slot_address hc
  by_cases hd : UInt8.ofNat c.2 = UInt8.ofNat d
  · have hpair := written_pair (schedCmd_writes c) hbank
    rw [hd] at hpair
    rw [hpair]
    change load (store m _ (schedZone c.1)) (slotAt n) 8 = _
    by_cases hnum : c.1.num = n
    · have hplace : (UInt16.ofInt (0x0078 + 8 * (c.1.num - 1))).toNat = slotAt n := by
        unfold slotAt
        omega
      have hown := load_store_append m (slotAt n) (schedZone c.1) []
      rw [List.append_nil, hlen] at hown
      rw [if_pos ⟨hnum, hd⟩, hplace, hown]
    · rw [if_neg fun hfor => hnum hfor.1]
      refine load_store_beside ?_
      rw [hlen]
      unfold slotAt
      unfold IsSlot at hc hn
      omega
  · have hnone : written (UInt8.ofNat d) bank [schedCmd c, secondBank (schedCmd c)] = [] := by
      refine written_elsewhere ?_
      intro z hz
      simp only [List.mem_cons, List.not_mem_nil, or_false] at hz
      rcases hz with rfl | rfl
      · exact hd
      · exact hd
    rw [hnone, if_neg fun hfor => hd hfor.2]
    rfl

/-- The last call for a slot of the controller counts. -/
theorem load_calls {malloc : Nat → Bool} {cs : List (AdSchedRec × Nat)}
    (hm : ∀ k < 2 * cs.length, malloc k = true) (hcs : ∀ c ∈ cs, IsSlot c.1.num) (m : Nat → UInt8) :
    load (storeAll m (written (UInt8.ofNat d) bank (queuedFrom malloc cs))) (slotAt n) 8 =
      ((latest (CallFor d n) cs).map (schedZone ·.1)).getD (load m (slotAt n) 8) := by
  induction cs generalizing malloc m with
  | nil => rfl
  | cons c cs ih =>
    obtain ⟨hc, hrest⟩ := List.forall_mem_cons.mp hcs
    have hboth : takenBoth (malloc 0) (malloc 1) (schedCmd c) =
        [schedCmd c, secondBank (schedCmd c)] := by
      rw [hm 0 (by simp), hm 1 (by simp; omega)]
      rfl
    have hmore : ∀ k < 2 * cs.length, malloc (k + 2) = true := by
      intro k hk
      exact hm (k + 2) (by simp; omega)
    rw [queuedFrom, hboth, written_append, storeAll_append, ih hmore hrest,
      load_call hbank hn hc, latest_cons]
    cases latest (CallFor d n) cs with
    | some c' => rfl
    | none =>
      rw [Option.none_or]
      split
      · rfl
      · rfl

end Batch

/-! ## The call -/

/-- A bank that was `m` before a batch: each slot has the last record for it, in two
decimal digits a byte if its times are of one day, and is as before if there is none. -/
structure Scheduled (recs : List AdSchedRec) (m m' : Nat → UInt8) : Prop where
  given : ∀ n r, IsSlot n → lastFor n recs = some r →
    load m' (slotAt n) 8 = schedZone r ∧ (InDay r → Encodes r (load m' (slotAt n) 8))
  kept : ∀ n, IsSlot n → lastFor n recs = none → load m' (slotAt n) 8 = load m (slotAt n) 8

/-- What `cmd_saving_sched` queues. -/
def queuedSaving (ruleId : UInt16) (zoneId scheduleMask : UInt8) (recs : List AdSchedRec) (h : Host) :
    List CmdSend :=
  (cmdSavingSched ruleId zoneId scheduleMask recs h).1.gpHead.drop h.gpHead.length

theorem queuedFrom_first (malloc : Nat → Bool) (cs : List (AdSchedRec × Nat)) :
    ∀ z ∈ queuedFrom malloc cs, CommandQueues.isFirst z = true := by
  induction cs generalizing malloc with
  | nil => simp [queuedFrom]
  | cons c cs ih =>
    intro z hz
    rcases List.mem_append.mp hz with hz | hz
    · rcases mem_takenBoth hz with rfl | rfl
      · rfl
      · rfl
    · exact ih _ z hz

theorem queuedSaving_eq (ruleId : UInt16) (zoneId scheduleMask : UInt8) (recs : List AdSchedRec)
    (h : Host) : queuedSaving ruleId zoneId scheduleMask recs h =
      queuedFrom h.world.malloc (schedCalls h recs) := by
  have q := saving_enqueued ruleId zoneId scheduleMask recs h
  have hhead := (q.first (queuedFrom_first _ _)).1
  rw [queuedSaving, hhead, List.drop_left]

/-- **A batch of schedules is in the memory of every active controller.** When there
is memory for its commands, and what `cmd_saving_sched` has queued is sent among
whatever else writes none of the slots in the bank, each active controller has in
either bank the last record of the batch in each slot that occurs, and the others
as they were. -/
theorem batch_reaches {ruleId : UInt16} {zoneId scheduleMask : UInt8} {recs : List AdSchedRec}
    {h : Host} {d : Nat} {bank : UInt8} {sent : List CmdSend}
    (hmem : AllocatesNext (2 * (schedCalls h recs).length) h) (hd : d ∈ activeDevs h)
    (hbank : bank = 0 ∨ bank = 1)
    (hsent : sent.filter (writesSlots (UInt8.ofNat d) bank) =
      (queuedSaving ruleId zoneId scheduleMask recs h).filter (writesSlots (UInt8.ofNat d) bank))
    (m : Nat → UInt8) :
    Scheduled recs m (remembers (UInt8.ofNat d) bank (line sent) m) := by
  have hcalls : ∀ c ∈ schedCalls h recs, IsSlot c.1.num := fun c hc => (mem_schedCalls hc).2.1
  have hload : ∀ n, IsSlot n → load (remembers (UInt8.ofNat d) bank (line sent) m) (slotAt n) 8 =
      ((latest (CallFor d n) (schedCalls h recs)).map (schedZone ·.1)).getD
        (load m (slotAt n) 8) := by
    intro n hn
    rw [remembers_line, load_slot hn hsent, queuedSaving_eq, load_calls hbank hn hmem hcalls]
  refine ⟨?_, ?_⟩
  · intro n r hn hr
    obtain ⟨c, hc, hcr⟩ := latest_schedCalls hn hd hr
    rw [hload n hn, hc, Option.map_some, Option.getD_some, hcr]
    exact ⟨rfl, encodes_schedZone⟩
  · intro n hn hr
    have hnone : latest (CallFor d n) (schedCalls h recs) = none :=
      latest_eq_none.mpr fun c hc hfor => latest_eq_none.mp hr c.1 (mem_schedCalls hc).1 hfor.1
    rw [hload n hn, hnone]
    rfl

/-- Slot 3 twice and slot 1, and a poll between. -/
theorem shifts_reach : Scheduled shifts (fun _ => 0)
    (remembers 2 1 (line (pollCmd 1 :: queuedSaving 100 1 0xFF shifts twoActive))
      fun _ => 0) := by
  have hpoll : ¬ writesSlots 2 1 (pollCmd 1) = true := by decide
  exact @batch_reaches 100 1 0xFF shifts twoActive 2 1 _ (fun _ _ => rfl) (by decide) (.inr rfl)
    (List.filter_cons_of_neg hpoll) fun _ => 0

end Libgate.ScheduleImage
