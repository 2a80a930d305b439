import Libgate.Operations
import Libgate.Lib.Ring

/-! Draining the event log of a controller. The controller keeps a ring of
`GP_MAX_LOG_BOUND` bytes with an upper and a lower pointer; a round asks for the
pointers, reads a block from the lower one on and moves it. `cb_log_read`
admits pointers equal to the size of the ring and wraps only the one it writes
back. -/

namespace Libgate.LogDrain
open Lib Lib.Memory Send Target Processor Layer HostFrame Operations

/-! ## The controller and a round -/

/-- The controller's side: its two pointers and its event memory. -/
structure LogDev where
  up : UInt16
  down : UInt16
  mem : Nat → UInt8

/-- The controller's answer: its pointers, the bytes asked for, or the new lower
pointer stored. -/
def answer (D : LogDev) (z : CmdSend) : LogDev × List UInt8 :=
  match z.targetN with
  | .getBuffAddr => (D, be16 D.up ++ be16 D.down)
  | .getBuffData => (D, load D.mem (valAt z 3) (z.cmdBuff.getD 2 0).toNat)
  | .setBuffAddrDown => ({ D with down := UInt16.ofNat (valAt z 5) }, [])
  | _ => (D, [])

/-- The commands sent, in order. -/
def sentIn (tr : List Obs) : List CmdSend :=
  tr.filterMap fun
    | .sent z => some z
    | _ => none

/-- The addresses of the records a command asks for. -/
def asked (z : CmdSend) : List Nat :=
  if z.targetN = .getBuffData then
    (List.range ((z.cmdBuff.getD 2 0).toNat / sizeofEvent)).map fun i => valAt z 3 + sizeofEvent * i
  else []

/-- The addresses of all records asked for. -/
def requests (tr : List Obs) : List Nat := (sentIn tr).flatMap asked

section Round
variable (base : ReceivMess) (d : UInt8)

/-- A reply from controller `d` as `process_port_input` finds it. -/
def replyMess (cmdN : UInt8) (data : List UInt8) : ReceivMess :=
  { len := data.length, dev := d, lastRead := base.lastRead
    buf := store base.buf 4 (d :: cmdN :: data) }

/-- The controller answers a command and the answer is processed; the command
this sends is answered in turn. -/
def talk : Nat → CmdSend → Host × LogDev → Host × LogDev
  | 0, _, s => s
  | n + 1, z, s =>
    let a := answer s.2 z
    let h := (processPortInput (replyMess base d z.cmdN a.2) s.1).1
    match (sentIn (h.trace.drop s.1.trace.length)).getLast? with
    | some z => talk n z (h, a.1)
    | none => (h, a.1)

/-- The command of `gp_get_dev_logs`. -/
def addrCmd : CmdSend := adGetBuffAddrCmd AD_Q_SECOND d.toNat .cbLogRead

/-- `GET_BUFF_ADDR`, `GET_BUFF_DATA`, `SET_BUFF_ADDR_DOWN`. -/
def round (s : Host × LogDev) : Host × LogDev :=
  talk base d 3 (addrCmd d) ((gpSend (addrCmd d) s.1).1, s.2)

end Round

/-! ## What a round does -/

theorem sentIn_append (tr tr' : List Obs) : sentIn (tr ++ tr') = sentIn tr ++ sentIn tr' :=
  List.filterMap_append

theorem sentIn_logNotes {es : List Obs} (hes : ∀ e ∈ es, logNote e = true) : sentIn es = [] := by
  refine List.filterMap_eq_nil_iff.mpr ?_
  intro e he
  cases e with
  | sent z => cases hes _ he
  | _ => rfl

theorem requests_append (tr tr' : List Obs) :
    requests (tr ++ tr') = requests tr ++ requests tr' := by
  rw [requests, sentIn_append, List.flatMap_append]; rfl

theorem gpSend_target (z : CmdSend) (h : Host) : (gpSend z h).1.sendMess.target = z.targetN := by
  rw [gpSend_sendMess]; rfl

/-- A short command without a handler keeps the one installed. -/
theorem gpSend_keeps_handler {z : CmdSend} (hz : z.evHandler = .null) (hq : z.queue = AD_Q_SHORT)
    (h : Host) : (gpSend z h).1.sendMess.evHandler = h.sendMess.evHandler := by
  rw [gpSend_sendMess]
  simp [gpSendMess, hz, hq, Host.note, Host.setDev]

section RoundSpec
variable {base : ReceivMess} {d : UInt8}

/-- An exchange whose reply sends nothing ends the round. -/
theorem talk_end {n : Nat} {z : CmdSend} {h h' : Host} {D D' : LogDev} {data : List UInt8}
    (ha : answer D z = (D', data))
    (hp : (processPortInput (replyMess base d z.cmdN data) h).1 = h') (ht : h'.trace = h.trace) :
    talk base d (n + 1) z (h, D) = (h', D') := by
  simp only [talk, ha, hp, ht, List.drop_length]
  rfl

/-- An exchange whose reply sends a command last goes on with that command. -/
theorem talk_next {n : Nat} {z z' : CmdSend} {h h' : Host} {D D' : LogDev} {data : List UInt8}
    {es : List Obs} (ha : answer D z = (D', data))
    (hp : (processPortInput (replyMess base d z.cmdN data) h).1 = h')
    (ht : h'.trace = h.trace ++ es ++ [.sent z']) :
    talk base d (n + 1) z (h, D) = talk base d n z' (h', D') := by
  have hlast : (sentIn (h'.trace.drop h.trace.length)).getLast? = some z' := by
    rw [ht, List.append_assoc, List.drop_left, sentIn_append]
    simp [sentIn]
  simp only [talk, ha, hp, hlast]

theorem replyMess_buf {cmdN : UInt8} {data : List UInt8} {i : Nat} (hi : i < data.length) :
    (replyMess base d cmdN data).buf (6 + i) = data[i] := by
  have h : i + 2 < (d :: cmdN :: data).length := by simpa using hi
  rw [replyMess, show 6 + i = 4 + (i + 2) by omega]
  exact store_in h

theorem replyMess_src (cmdN : UInt8) (data : List UInt8) :
    (replyMess base d cmdN data).src = d := by
  change store base.buf 4 (d :: cmdN :: data) (4 + 0) = d
  rw [store_in (by simp)]
  rfl

variable (base) in
/-- The pointers reply: the block that follows from them is asked for. -/
theorem addr_reply {h : Host} {D : LogDev} (hev : h.sendMess.evHandler = .cbLogRead)
    (ht : h.sendMess.target = .getBuffAddr) (hup : D.up.toNat ≤ GP_MAX_LOG_BOUND)
    (hdown : D.down.toNat ≤ GP_MAX_LOG_BOUND) (cmdN : UInt8) :
    ∃ h1 : Host, h1.trace = h.trace ∧ (h1.devices d.toNat).boundDown = D.down ∧
      h1.sendMess = h.sendMess ∧
      (processPortInput (replyMess base d cmdN (be16 D.up ++ be16 D.down)) h).1 =
        if logLength D.up D.down ≠ 0 then
          (gpSend (adGetBuffDataCmd AD_Q_SHORT d.toNat D.down (logLength D.up D.down)) h1).1
        else h1 := by
  let m := replyMess base d cmdN (be16 D.up ++ be16 D.down)
  have hu : be16toh m.buf ReceivMess.cmdBuffOff = D.up :=
    be16toh_of_be16 (replyMess_buf (i := 0) (by simp [be16])) (replyMess_buf (i := 1) (by simp [be16]))
  have hd : be16toh m.buf (ReceivMess.cmdBuffOff + 2) = D.down :=
    be16toh_of_be16 (replyMess_buf (i := 2) (by simp [be16])) (replyMess_buf (i := 3) (by simp [be16]))
  have hsrc : m.src = d := replyMess_src ..
  have hproc : processPortInput m h = logAddr m h := by
    simp [processPortInput, hev, cbLogRead, ht]
  refine ⟨h.setDev d.toNat fun r => { r with boundDown := D.down, boundUp := D.up }, rfl,
    by simp, rfl, ?_⟩
  change (processPortInput m h).1 = _
  rw [hproc]
  unfold logAddr adGetBuffData
  simp only [hu, hd, hsrc]
  rw [if_neg (by omega)]
  by_cases hl : logLength D.up D.down ≠ 0
  · rw [if_pos hl, if_pos hl]; rfl
  · rw [if_neg hl, if_neg hl]; rfl

variable (base) in
/-- The data reply: the lower pointer moves past the block. -/
theorem data_reply {h : Host} (hev : h.sendMess.evHandler = .cbLogRead)
    (ht : h.sendMess.target = .getBuffData) (cmdN : UInt8) (data : List UInt8) :
    ∃ h1 es, h1.trace = h.trace ++ es ∧ (∀ e ∈ es, logNote e = true) ∧ h1.sendMess = h.sendMess ∧
      (processPortInput (replyMess base d cmdN data) h).1 =
        (gpSend (adSetBuffAddrDownCmd AD_Q_SHORT d.toNat
          (nextDown (h.devices d.toNat).boundDown (data.length / sizeofEvent))) h1).1 := by
  let m := replyMess base d cmdN data
  have hproc : processPortInput m h = logData m h := by
    simp [processPortInput, hev, cbLogRead, ht]
  have hsrc : m.src = d := replyMess_src ..
  have hn : (blockRecords m).length = data.length / sizeofEvent := by
    simp only [blockRecords, List.length_map, List.length_range]
    change ((data.length : Int) / 8).toNat = data.length / 8
    omega
  obtain ⟨_, hs, es, htr, hes⟩ := logRecords_frame d.toNat (blockRecords m) 0 h
  refine ⟨logRecords d.toNat (blockRecords m) 0 h, es, htr, hes, hs, ?_⟩
  change (processPortInput m h).1 = _
  rw [hproc, logData_eq, hsrc, hn]
  rfl

theorem logLength_eq (up down : UInt16) : logLength up down =
    min (if down.toNat ≤ up.toNat then up.toNat - down.toNat
      else GP_MAX_LOG_BOUND - down.toNat) 64 := by
  unfold logLength
  simp only [evBlockSize, sizeofEvent, GP_MAX_LOG_BOUND]
  by_cases h : down.toNat ≤ up.toNat
  · rw [if_neg (show ¬ ((up.toNat : Int) - down.toNat < 0) by omega), if_pos h]
    split <;> omega
  · rw [if_pos (show (up.toNat : Int) - down.toNat < 0 by omega), if_neg h]
    split <;> omega

variable (base) in
/-- A round that finds nothing between the pointers. -/
theorem round_idle {h : Host} {D : LogDev} (hup : D.up.toNat ≤ GP_MAX_LOG_BOUND)
    (hdown : D.down.toNat ≤ GP_MAX_LOG_BOUND) (hl : logLength D.up D.down = 0) :
    (round base d (h, D)).2 = D ∧
      requests (round base d (h, D)).1.trace = requests h.trace := by
  have hev : (gpSend (addrCmd d) h).1.sendMess.evHandler = .cbLogRead := by
    rw [gpSend_sendMess]; rfl
  obtain ⟨h1, ht1, _, _, hp⟩ := addr_reply base (d := d) hev
    (gpSend_target (addrCmd d) h) hup hdown (addrCmd d).cmdN
  rw [if_neg (by simp [hl])] at hp
  rw [round, talk_end rfl hp ht1]
  refine ⟨rfl, ?_⟩
  simp only [ht1, gpSend_trace, requests_append]
  exact List.append_nil _

theorem toNat_ofNat_length {l : Nat} (hl : l ≤ 64) : (UInt8.ofNat l).toNat = l := by
  rw [UInt8.toNat_ofNat']
  exact Nat.mod_eq_of_lt (by omega)

/-- The records a request for `l` bytes asks for. -/
theorem asked_getBuffData {down : UInt16} {l : Nat} (hl : l ≤ 64) :
    asked (adGetBuffDataCmd AD_Q_SHORT d.toNat down l) =
      (List.range (l / sizeofEvent)).map fun i => down.toNat + sizeofEvent * i := by
  have hval : valAt (adGetBuffDataCmd AD_Q_SHORT d.toNat down l) 3 = down.toNat := be16_val down
  have hn : ((adGetBuffDataCmd AD_Q_SHORT d.toNat down l).cmdBuff.getD 2 0).toNat = l :=
    toNat_ofNat_length hl
  have ht : (adGetBuffDataCmd AD_Q_SHORT d.toNat down l).targetN = .getBuffData := rfl
  rw [asked, if_pos ht, hval, hn]

theorem answer_setBuffAddrDown (D : LogDev) (bound : UInt16) :
    answer D (adSetBuffAddrDownCmd AD_Q_SHORT d.toNat bound) = ({ D with down := bound }, []) := by
  have hval : valAt (adSetBuffAddrDownCmd AD_Q_SHORT d.toNat bound) 5 = bound.toNat :=
    be16_val bound
  change ({ D with down := UInt16.ofNat _ }, []) = _
  rw [hval, UInt16.ofNat_toNat]

/-- The reply to a new pointer changes nothing. -/
theorem pointer_reply {h : Host} (hev : h.sendMess.evHandler = .cbLogRead)
    (ht : h.sendMess.target = .setBuffAddrDown) (m : ReceivMess) :
    (processPortInput m h).1 = h := by
  simp only [processPortInput, hev, cbLogRead, ht]
  rfl

variable (base) in
/-- A request for a block that is sent, answered and processed moves the lower
pointer past the block. -/
theorem talk_block {h : Host} {D : LogDev} {l : Nat} (hl : l ≤ 64)
    (hev : h.sendMess.evHandler = .cbLogRead)
    (hdown : (h.devices d.toNat).boundDown = D.down) :
    ∃ h' es, talk base d 2 (adGetBuffDataCmd AD_Q_SHORT d.toNat D.down l)
        ((gpSend (adGetBuffDataCmd AD_Q_SHORT d.toNat D.down l) h).1, D) =
          (h', { D with down := nextDown D.down (l / sizeofEvent) }) ∧
      (∀ e ∈ es, logNote e = true) ∧
      h'.trace = h.trace ++ [.sent (adGetBuffDataCmd AD_Q_SHORT d.toNat D.down l)] ++ es ++
        [.sent (adSetBuffAddrDownCmd AD_Q_SHORT d.toNat (nextDown D.down (l / sizeofEvent)))] := by
  let z := adGetBuffDataCmd AD_Q_SHORT d.toNat D.down l
  have hev1 : (gpSend z h).1.sendMess.evHandler = .cbLogRead := by
    rw [gpSend_keeps_handler rfl rfl, hev]
  have hdown1 : ((gpSend z h).1.devices d.toNat).boundDown = D.down := by
    obtain ⟨_, hdevice⟩ := gpSend_device z h d.toNat
    rw [hdevice, hdown]
  have hdata : answer D z = (D, load D.mem (valAt z 3) l) := by
    change (D, load D.mem (valAt z 3) (UInt8.ofNat l).toNat) = _
    rw [toNat_ofNat_length hl]
  obtain ⟨h2, es, ht2, hes, hs2, hp2⟩ := data_reply base (d := d) hev1 (gpSend_target z h) z.cmdN
    (load D.mem (valAt z 3) l)
  rw [hdown1, length_load] at hp2
  generalize nextDown D.down (l / sizeofEvent) = bound at hp2 ⊢
  let z' := adSetBuffAddrDownCmd AD_Q_SHORT d.toNat bound
  have hev2 : (gpSend z' h2).1.sendMess.evHandler = .cbLogRead := by
    rw [gpSend_keeps_handler rfl rfl, hs2, hev1]
  have hsent : (gpSend z' h2).1.trace = (gpSend z h).1.trace ++ es ++ [.sent z'] := by
    rw [gpSend_trace, ht2]
  refine ⟨(gpSend z' h2).1, es, ?_, hes, ?_⟩
  · rw [talk_next hdata hp2 hsent,
      talk_end (answer_setBuffAddrDown D bound) (pointer_reply hev2 (gpSend_target z' h2) _) rfl]
  · rw [hsent, gpSend_trace]

variable (base) in
/-- A round that reads a block: its records are asked for and the lower pointer
moves past them. -/
theorem round_read {h : Host} {D : LogDev} (hup : D.up.toNat ≤ GP_MAX_LOG_BOUND)
    (hdown : D.down.toNat ≤ GP_MAX_LOG_BOUND) (hl : logLength D.up D.down ≠ 0) :
    (round base d (h, D)).2 =
        { D with down := nextDown D.down (logLength D.up D.down / sizeofEvent) } ∧
      requests (round base d (h, D)).1.trace = requests h.trace ++
        (List.range (logLength D.up D.down / sizeofEvent)).map
          fun i => D.down.toNat + sizeofEvent * i := by
  have hev : (gpSend (addrCmd d) h).1.sendMess.evHandler = .cbLogRead := by
    rw [gpSend_sendMess]; rfl
  obtain ⟨h1, ht1, hb1, hs1, hp1⟩ := addr_reply base (d := d) hev
    (gpSend_target (addrCmd d) h) hup hdown (addrCmd d).cmdN
  have hlen : logLength D.up D.down ≤ 64 := by
    rw [logLength_eq]
    exact min_le_right ..
  rw [if_pos hl] at hp1
  generalize logLength D.up D.down = l at hlen hp1 ⊢
  obtain ⟨h2, es, htalk, hes, ht2⟩ := talk_block base (d := d) hlen (by rw [hs1, hev]) hb1
  have hsent : (gpSend (adGetBuffDataCmd AD_Q_SHORT d.toNat D.down l) h1).1.trace =
      (gpSend (addrCmd d) h).1.trace ++ [] ++
        [.sent (adGetBuffDataCmd AD_Q_SHORT d.toNat D.down l)] := by
    rw [gpSend_trace, ht1, List.append_nil]
  have haddr : answer D (addrCmd d) = (D, be16 D.up ++ be16 D.down) := rfl
  rw [round, talk_next haddr hp1 hsent, htalk]
  refine ⟨rfl, ?_⟩
  -- of the three commands only the second asks for records
  have hnotes : requests es = [] := by rw [requests, sentIn_logNotes hes]; rfl
  have hfirst : requests [.sent (addrCmd d)] = [] := rfl
  have hlast : ∀ a, requests [.sent (adSetBuffAddrDownCmd AD_Q_SHORT d.toNat a)] = [] := fun _ => rfl
  have hblock : ∀ z : CmdSend, requests [.sent z] = asked z := fun z => List.append_nil _
  rw [ht2, ht1, gpSend_trace]
  simp only [requests_append, hnotes, hfirst, hlast, List.append_nil]
  rw [hblock, asked_getBuffData hlen]

end RoundSpec

/-! ## Repeated rounds -/

/-- The records from the lower pointer round the ring to the upper one. -/
def ringRecords (D : LogDev) : List Nat :=
  Ring.slots GP_MAX_LOG_BOUND sizeofEvent (D.down.toNat % GP_MAX_LOG_BOUND)
    (Ring.dist GP_MAX_LOG_BOUND (D.down.toNat % GP_MAX_LOG_BOUND) (D.up.toNat % GP_MAX_LOG_BOUND) /
      sizeofEvent)

/-- The records requested by the end of round `k`. -/
def requestsAt (base : ReceivMess) (d : UInt8) (s : Host × LogDev) (k : Nat) : List Nat :=
  requests ((round base d)^[k] s).1.trace

/-- The rounds request each unread record once and in ring order, every round
some record until all are requested, and then none. -/
def Drains (base : ReceivMess) (d : UInt8) (h : Host) (D : LogDev) : Prop :=
  (ringRecords D).Nodup ∧
    ∃ n, requestsAt base d (h, D) n = requests h.trace ++ ringRecords D ∧
      (∀ k < n, requestsAt base d (h, D) (k + 1) ≠ requestsAt base d (h, D) k) ∧
      ∀ k ≥ n, requestsAt base d (h, D) k = requestsAt base d (h, D) n

theorem ring_pos : 0 < GP_MAX_LOG_BOUND := by decide

theorem record_dvd_ring : sizeofEvent ∣ GP_MAX_LOG_BOUND := by decide

theorem ringRecords_nodup (D : LogDev) : (ringRecords D).Nodup := by
  refine Ring.slots_nodup (by decide) ?_
  have hlt := Ring.dist_lt (p := D.down.toNat % GP_MAX_LOG_BOUND)
    (q := D.up.toNat % GP_MAX_LOG_BOUND) ring_pos
  exact (Nat.mul_div_le _ _).trans hlt.le

section Drain
variable {base : ReceivMess} {d : UInt8}

/-- Both pointers inside the ring and at a record. -/
def Inside (D : LogDev) : Prop :=
  D.up.toNat < GP_MAX_LOG_BOUND ∧ D.down.toNat < GP_MAX_LOG_BOUND ∧
    D.up.toNat % sizeofEvent = 0 ∧ D.down.toNat % sizeofEvent = 0

theorem nextDown_toNat {down : UInt16} {n : Nat} (hn : down.toNat + sizeofEvent * n ≤ GP_MAX_LOG_BOUND) :
    (nextDown down n).toNat = (down.toNat + sizeofEvent * n) % GP_MAX_LOG_BOUND := by
  simp only [nextDown, GP_MAX_LOG_BOUND, sizeofEvent] at hn ⊢
  rw [UInt16.toNat_ofNat']
  split <;> omega

/-- A block never reaches past the end of the ring. -/
theorem logLength_fits {up down : UInt16} (hup : up.toNat ≤ GP_MAX_LOG_BOUND)
    (hdown : down.toNat ≤ GP_MAX_LOG_BOUND) :
    down.toNat + sizeofEvent * (logLength up down / sizeofEvent) ≤ GP_MAX_LOG_BOUND := by
  have hl := logLength_eq up down
  simp only [GP_MAX_LOG_BOUND, sizeofEvent] at *
  split at hl <;> omega

/-- A round with both pointers inside takes some of the records left, and one at
least while any is left. -/
theorem round_inside {h : Host} {D : LogDev} (hD : Inside D) :
    ∃ k, k ≤ Ring.dist GP_MAX_LOG_BOUND D.down.toNat D.up.toNat / sizeofEvent ∧
      (Ring.dist GP_MAX_LOG_BOUND D.down.toNat D.up.toNat / sizeofEvent ≠ 0 → k ≠ 0) ∧
      (round base d (h, D)).2.up = D.up ∧
      (round base d (h, D)).2.down.toNat = (D.down.toNat + sizeofEvent * k) % GP_MAX_LOG_BOUND ∧
      requests (round base d (h, D)).1.trace =
        requests h.trace ++ Ring.slots GP_MAX_LOG_BOUND sizeofEvent D.down.toNat k := by
  obtain ⟨hup, hdown, hu8, hd8⟩ := hD
  have hfit := logLength_fits hup.le hdown.le
  have hdist := Ring.dist_eq hdown hup
  have hlen := logLength_eq D.up D.down
  refine ⟨logLength D.up D.down / sizeofEvent, ?_, ?_, ?_⟩
  · refine Nat.div_le_div_right ?_
    rw [hlen, hdist]
    split <;> omega
  · rw [hlen, hdist]
    simp only [sizeofEvent, GP_MAX_LOG_BOUND] at *
    split <;> omega
  by_cases hl : logLength D.up D.down = 0
  · obtain ⟨hD, hreq⟩ := round_idle base hup.le hdown.le hl
    rw [hD, hreq, hl]
    exact ⟨rfl, (Nat.mod_eq_of_lt hdown).symm, (List.append_nil _).symm⟩
  · obtain ⟨hD, hreq⟩ := round_read base hup.le hdown.le hl
    rw [hD, hreq]
    refine ⟨rfl, nextDown_toNat hfit, ?_⟩
    refine congrArg (requests h.trace ++ ·) (List.map_congr_left ?_)
    intro i hi
    have hi' : sizeofEvent * i < sizeofEvent * (logLength D.up D.down / sizeofEvent) :=
      Nat.mul_lt_mul_of_pos_left (List.mem_range.mp hi) (by decide)
    exact (Nat.mod_eq_of_lt (by omega)).symm

/-- With both pointers inside the ring the rounds drain the log. -/
theorem drains_inside {h : Host} {D : LogDev} (hD : Inside D) : Drains base d h D := by
  refine ⟨ringRecords_nodup D, ?_⟩
  have hrec : ringRecords D = Ring.slots GP_MAX_LOG_BOUND sizeofEvent D.down.toNat
      (Ring.dist GP_MAX_LOG_BOUND D.down.toNat D.up.toNat / sizeofEvent) := by
    rw [ringRecords, Nat.mod_eq_of_lt hD.1, Nat.mod_eq_of_lt hD.2.1]
  rw [hrec]
  refine Ring.sweep (round base d) (I := fun s : Host × LogDev => Inside s.2)
    (fun s => s.2.down.toNat)
    (fun s => Ring.dist GP_MAX_LOG_BOUND s.2.down.toNat s.2.up.toNat / sizeofEvent)
    (fun s => requests s.1.trace) ?_ ?_ hD
  · intro (h, D) hs
    obtain ⟨k, _, _, hup, hdown, _⟩ := round_inside hs
    obtain ⟨h1, h2, h3, h4⟩ := hs
    refine ⟨by rw [hup]; exact h1, by rw [hdown]; exact Nat.mod_lt _ ring_pos,
      by rw [hup]; exact h3, ?_⟩
    rw [hdown, Nat.mod_mod_of_dvd _ record_dvd_ring,
      Nat.add_mul_mod_self_left]
    exact h4
  · intro (h, D) hs
    obtain ⟨k, hk, hk0, hup, hdown, hreq⟩ := round_inside hs
    refine ⟨k, hk, hk0, ?_, hdown, hreq⟩
    have hle : sizeofEvent * k ≤ Ring.dist GP_MAX_LOG_BOUND D.down.toNat D.up.toNat :=
      (Nat.mul_le_mul_left _ hk).trans (Nat.mul_div_le _ _)
    simp only [hup, hdown, Ring.dist_advance hs.2.1 hs.1 hle]
    exact Nat.sub_mul_div _ _ _

variable (base) in
/-- An upper pointer past the ring is never reached: every round reads. -/
theorem round_endless {h : Host} {D : LogDev} (hup : D.up.toNat = GP_MAX_LOG_BOUND)
    (hdown : D.down.toNat < GP_MAX_LOG_BOUND) (hd8 : D.down.toNat % sizeofEvent = 0) :
    (round base d (h, D)).2.up = D.up ∧ (round base d (h, D)).2.down.toNat < GP_MAX_LOG_BOUND ∧
      (round base d (h, D)).2.down.toNat % sizeofEvent = 0 ∧
      requests (round base d (h, D)).1.trace ≠ requests h.trace := by
  have hfit := logLength_fits hup.le hdown.le
  have hlen := logLength_eq D.up D.down
  rw [hup, if_pos hdown.le] at hlen
  have hblock : 0 < logLength D.up D.down / sizeofEvent := by
    refine Nat.div_pos ?_ (by decide)
    simp only [sizeofEvent, GP_MAX_LOG_BOUND] at *
    omega
  have hl : logLength D.up D.down ≠ 0 := by
    intro h0
    rw [h0] at hblock
    exact absurd hblock (by decide)
  obtain ⟨hD, hreq⟩ := round_read base (d := d) (h := h) hup.le hdown.le hl
  rw [hD, hreq]
  refine ⟨rfl, ?_, ?_, ?_⟩
  · rw [nextDown_toNat hfit]
    exact Nat.mod_lt _ ring_pos
  · rw [nextDown_toNat hfit, Nat.mod_mod_of_dvd _ record_dvd_ring,
      Nat.add_mul_mod_self_left]
    exact hd8
  · intro he
    have hz := congrArg List.length he
    rw [List.length_append, List.length_map, List.length_range] at hz
    omega

/-- With the upper pointer past the ring and the lower one inside no round is
the last to read. -/
theorem not_drains_up {h : Host} {D : LogDev} (hup : D.up.toNat = GP_MAX_LOG_BOUND)
    (hdown : D.down.toNat < GP_MAX_LOG_BOUND) (hd8 : D.down.toNat % sizeofEvent = 0) :
    ¬ Drains base d h D := by
  have hall : ∀ k, ((round base d)^[k] (h, D)).2.up = D.up ∧
      ((round base d)^[k] (h, D)).2.down.toNat < GP_MAX_LOG_BOUND ∧
      ((round base d)^[k] (h, D)).2.down.toNat % sizeofEvent = 0 := by
    intro k
    induction k with
    | zero => exact ⟨rfl, hdown, hd8⟩
    | succ k ih =>
      obtain ⟨h1, h2, h3⟩ := ih
      obtain ⟨r1, r2, r3, _⟩ := round_endless base (d := d)
        (h := ((round base d)^[k] (h, D)).1) (h1 ▸ hup) h2 h3
      rw [Function.iterate_succ_apply']
      exact ⟨r1.trans h1, r2, r3⟩
  intro ⟨_, n, _, _, hstop⟩
  obtain ⟨h1, h2, h3⟩ := hall n
  obtain ⟨_, _, _, hreq⟩ := round_endless base (d := d)
    (h := ((round base d)^[n] (h, D)).1) (h1 ▸ hup) h2 h3
  have hlast := hstop (n + 1) (Nat.le_succ n)
  rw [requestsAt, Function.iterate_succ_apply'] at hlast
  exact hreq hlast

variable (base) in
/-- A round with nothing between the pointers changes nothing but the commands
sent, so no round requests a record. -/
theorem requestsAt_idle {h : Host} {D : LogDev} (hup : D.up.toNat ≤ GP_MAX_LOG_BOUND)
    (hdown : D.down.toNat ≤ GP_MAX_LOG_BOUND) (hl : logLength D.up D.down = 0) (k : Nat) :
    requestsAt base d (h, D) k = requests h.trace := by
  have hall : ((round base d)^[k] (h, D)).2 = D ∧ requestsAt base d (h, D) k = requests h.trace := by
    induction k with
    | zero => exact ⟨rfl, rfl⟩
    | succ k ih =>
      obtain ⟨hD, hreq⟩ := ih
      obtain ⟨r1, r2⟩ := round_idle base (d := d)
        (h := ((round base d)^[k] (h, D)).1) (D := ((round base d)^[k] (h, D)).2)
        (by rw [hD]; exact hup) (by rw [hD]; exact hdown) (by rw [hD]; exact hl)
      rw [requestsAt, Function.iterate_succ_apply']
      exact ⟨r1.trans hD, r2.trans hreq⟩
  exact hall.2

theorem drains_idle_iff {h : Host} {D : LogDev} (hup : D.up.toNat ≤ GP_MAX_LOG_BOUND)
    (hdown : D.down.toNat ≤ GP_MAX_LOG_BOUND) (hl : logLength D.up D.down = 0) :
    Drains base d h D ↔ ringRecords D = [] := by
  have hidle := requestsAt_idle base (d := d) (h := h) hup hdown hl
  constructor
  · intro ⟨_, n, hn, _⟩
    rw [hidle n] at hn
    exact List.append_cancel_left (hn.symm.trans (List.append_nil _).symm)
  · intro hr
    refine ⟨ringRecords_nodup D, 0, ?_, fun k hk => absurd hk (Nat.not_lt_zero k), ?_⟩
    · rw [hidle, hr, List.append_nil]
    · intro k _
      rw [hidle, hidle]

/-- The rounds drain the log exactly when both pointers are inside the ring, or
the lower one is at its end and the upper one at its end or its start. -/
theorem drains_iff (base : ReceivMess) (d : UInt8) (h : Host) (D : LogDev)
    (hup : D.up.toNat ≤ GP_MAX_LOG_BOUND) (hdown : D.down.toNat ≤ GP_MAX_LOG_BOUND)
    (hu8 : D.up.toNat % sizeofEvent = 0) (hd8 : D.down.toNat % sizeofEvent = 0) :
    Drains base d h D ↔
      (D.up.toNat < GP_MAX_LOG_BOUND ∧ D.down.toNat < GP_MAX_LOG_BOUND) ∨
        (D.down.toNat = GP_MAX_LOG_BOUND ∧ (D.up.toNat = GP_MAX_LOG_BOUND ∨ D.up.toNat = 0)) := by
  rcases Nat.lt_or_eq_of_le hdown with hd | hd
  · rcases Nat.lt_or_eq_of_le hup with hu | hu
    · exact iff_of_true (drains_inside ⟨hu, hd, hu8, hd8⟩) (.inl ⟨hu, hd⟩)
    · refine iff_of_false (not_drains_up hu hd hd8) ?_
      rintro (⟨hu', _⟩ | ⟨hd', _⟩)
      · exact hu'.ne hu
      · exact hd.ne hd'
  · -- nothing is read from the end of the ring
    have hl : logLength D.up D.down = 0 := by
      rw [logLength_eq, hd]
      split <;> omega
    have hrec : ringRecords D = [] ↔ D.up.toNat % GP_MAX_LOG_BOUND / sizeofEvent = 0 := by
      rw [← List.length_eq_zero_iff, ringRecords, Ring.length_slots, hd, Nat.mod_self,
        Ring.dist_eq ring_pos (Nat.mod_lt _ ring_pos), if_pos (Nat.zero_le _), Nat.sub_zero]
    rw [drains_idle_iff hup hdown hl, hrec]
    simp only [GP_MAX_LOG_BOUND, sizeofEvent] at *
    omega

/-- Four unread records, two before the end of the ring and two after it. -/
theorem drains_wrapped :
    Drains { len := 0, dev := 0, lastRead := 0, buf := fun _ => 0 } 1
      (gpInit (boot workingWorld Db.empty)) ⟨0x10, 0x7FF0, fun _ => 0⟩ :=
  (drains_iff _ _ _ _ (by decide) (by decide) (by decide) (by decide)).mpr (.inl (by decide))

/-- The lower pointer at the end of the ring, which `cb_log_read` admits, and a
record at its start: no round asks for it. -/
theorem end_pointer_stalls :
    ringRecords ⟨8, 0x8000, fun _ => 0⟩ = [0] ∧ 0x8000 ≤ GP_MAX_LOG_BOUND ∧
      ¬ Drains { len := 0, dev := 0, lastRead := 0, buf := fun _ => 0 } 1
        (gpInit (boot workingWorld Db.empty)) ⟨8, 0x8000, fun _ => 0⟩ := by
  rw [drains_idle_iff (by decide) (by decide) (by decide)]
  decide

end Drain

end Libgate.LogDrain
