import Libgate.Statics

/-! Retries of the port. A shut port is looked after by the timer, by
`gp_all_dev_enable` and by each reply that does not begin as one, however fast
they come; but the port is opened only when the last try was more than
`PORT_RETRY_TIMEOUT` seconds ago. -/

namespace Libgate.PortRetries
open Lib DbLayer Send Receiver Layer HostFrame Handlers Transmit LineSteps Calls Statics

/-! ## Tries -/

/-- The port is shut and the last try long enough ago. -/
def Due (h : Host) : Prop := h.fd < 0 ∧ h.world.now.sec - PORT_RETRY_TIMEOUT > h.lastTry

instance (h : Host) : Decidable (Due h) := inferInstanceAs (Decidable (_ ∧ _))

/-- What `gp_receiv` makes of a read. -/
def outcome (r : ReadRes) (g : Gate) : RxKind :=
  (receive (receivAlive g.host).sendMess.dev (tv2ms (receivAlive g.host).world.now) r g.rx).2

/-- The call looks after the port. -/
def reconnects (c : Call) (g : Gate) : Bool :=
  match c with
  | .receiv .timeout | .allDevEnable => true
  | .receiv (.read r) => outcome r g = .noBegin
  | _ => false

/-- What the clock shows when the call opens the port. -/
def retries (c : Call) (g : Gate) : List Int :=
  if reconnects c g ∧ Due g.host then [g.host.world.now.sec] else []

/-- Since `h` the port has been opened when the clock showed `ts`: each time the
last try was more than `PORT_RETRY_TIMEOUT` seconds ago. -/
structure Spaced (h : Host) (ts : List Int) (h' : Host) : Prop where
  opened : h'.world.openPort = fun n => h.world.openPort (n + ts.length)
  apart : (h.lastTry :: ts).Pairwise fun t t' => t + PORT_RETRY_TIMEOUT < t'
  last : ∀ t ∈ h.lastTry :: ts, t ≤ h'.lastTry

theorem retry_pos : 0 < PORT_RETRY_TIMEOUT := by decide

section Spacing
variable {h₀ h h' : Host} {ts : List Int}

theorem Spaced.start (h : Host) : Spaced h [] h := by
  refine ⟨rfl, by simp, ?_⟩
  intro t ht
  exact Int.le_of_eq (List.mem_singleton.mp ht)

theorem Spaced.keep (s : Spaced h₀ ts h) (hs : SameStatics h h') : Spaced h₀ ts h' := by
  refine ⟨hs.openPort.trans s.opened, s.apart, ?_⟩
  rw [hs.lastTry]
  exact s.last

/-- The port is not opened: a port that is open is as good as one just tried. -/
theorem Spaced.reconnect_open (s : Spaced h₀ ts h) (hd : ¬ Due h) :
    Spaced h₀ ts (gpReconnect false h).1 := by
  unfold gpReconnect
  simp only [Bool.false_eq_true, false_or]
  split
  · next hlong =>
    rw [if_neg fun hfd => hd ⟨hfd, hlong⟩]
    refine ⟨s.opened, s.apart, ?_⟩
    intro t ht
    have hle := s.last t ht
    have hpos := retry_pos
    change t ≤ (h.world.now.sec : Int)
    omega
  · exact s

theorem Spaced.reconnect_due (s : Spaced h₀ ts h) (hd : Due h) :
    Spaced h₀ (ts ++ [(h.world.now.sec : Int)]) (gpReconnect false h).1 := by
  obtain ⟨hfd, hlong⟩ := hd
  have hafter : ∀ t ∈ h₀.lastTry :: ts, t + PORT_RETRY_TIMEOUT < h.world.now.sec := by
    intro t ht
    have hle := s.last t ht
    omega
  unfold gpReconnect
  simp only [Bool.false_eq_true, false_or]
  rw [if_pos hlong, if_pos hfd]
  refine ⟨?_, ?_, ?_⟩
  · funext n
    change h.world.openPort (n + 1) = _
    rw [congrFun s.opened (n + 1), List.length_append, List.length_singleton, Nat.add_assoc,
      Nat.add_comm 1]
  · rw [← List.cons_append]
    refine List.pairwise_append.mpr ⟨s.apart, by simp, ?_⟩
    intro t ht t' ht'
    rw [List.mem_singleton.mp ht']
    exact hafter t ht
  · intro t ht
    rw [← List.cons_append] at ht
    change t ≤ (h.world.now.sec : Int)
    rcases List.mem_append.mp ht with ht | ht
    · have hlt := hafter t ht
      have hpos := retry_pos
      omega
    · exact Int.le_of_eq (List.mem_singleton.mp ht)

theorem Spaced.reconnect (s : Spaced h₀ ts h) :
    Spaced h₀ (ts ++ if Due h then [(h.world.now.sec : Int)] else []) (gpReconnect false h).1 := by
  split
  · next hd => exact s.reconnect_due hd
  · next hd =>
    rw [List.append_nil]
    exact s.reconnect_open hd

end Spacing

/-! ## Calls -/

theorem due_alive (h : Host) : Due (receivAlive h) ↔ Due h := by
  have k := receivAlive_heard h
  rw [Due, k.fd, k.now, (alive_statics h).lastTry]
  rfl

theorem idle_tries (h : Host) : (gpSendIdle h).1.world.openPort = h.world.openPort ∧
    (gpSendIdle h).1.lastTry = h.lastTry := by
  rw [gpSendIdle_eq]
  cases polled h with
  | some d =>
    have hsent := send_statics (pollCmd d) (skipTo d h)
    exact ⟨hsent.openPort, hsent.lastTry⟩
  | none => exact ⟨rfl, rfl⟩

theorem sendNext_tries (h : Host) : (sendNext h).world.openPort = h.world.openPort ∧
    (sendNext h).lastTry = h.lastTry := by
  have hput := putCmd_statics h
  unfold sendNext
  simp only
  split
  · exact ⟨hput.openPort, hput.lastTry⟩
  · obtain ⟨hport, htry⟩ := idle_tries (gpPutCmd h).1
    exact ⟨hport.trans hput.openPort, htry.trans hput.lastTry⟩

theorem timeout_spaced {h₀ h : Host} {ts : List Int} (s : Spaced h₀ ts h) :
    Spaced h₀ (ts ++ if Due h then [(h.world.now.sec : Int)] else []) (receivTimeout h) := by
  have hopen := s.reconnect
  rw [receivTimeout_eq]
  by_cases ho : Overdue h
  · rw [if_pos ho]
    have hcharged := hopen.keep (charge_statics _)
    obtain ⟨hport, htry⟩ := sendNext_tries (charge (gpReconnect false h).1)
    refine ⟨hport.trans hcharged.opened, hcharged.apart, ?_⟩
    rw [htry]
    exact hcharged.last
  · rw [if_neg ho]
    exact hopen

theorem perform_spaced (c : Call) {h₀ : Host} {ts : List Int} {g : Gate} (s : Spaced h₀ ts g.host) :
    Spaced h₀ (ts ++ retries c g) (perform c g).host := by
  have hnone : reconnects c g = false → retries c g = [] := by
    intro hr
    rw [retries, hr]
    exact if_neg fun hd => Bool.false_ne_true hd.1
  have hsome : reconnects c g = true →
      retries c g = if Due g.host then [(g.host.world.now.sec : Int)] else [] := by
    intro hr
    simp [retries, hr]
  rcases call_kinds c with ⟨r, rfl⟩ | rfl | rfl | hask
  · have halive := s.keep (alive_statics g.host)
    by_cases hk : outcome r g = .noBegin
    · have hread : (perform (.receiv (.read r)) g).host = (gpReconnect false (receivAlive g.host)).1 :=
        congrArg (fun k => dispatch _ k (receivAlive g.host)) hk
      have hopen := halive.reconnect
      rw [hsome (decide_eq_true hk), hread]
      simp only [due_alive, (receivAlive_heard g.host).now] at hopen
      exact hopen
    · rw [hnone (decide_eq_false hk), List.append_nil]
      exact halive.keep (dispatch_statics hk _ _)
  · rw [hsome rfl]
    exact timeout_spaced s
  · rw [hsome rfl]
    exact s.reconnect.keep ⟨rfl, rfl, rfl⟩
  · have hno : reconnects c g = false := by
      unfold reconnects
      split
      · exact absurd rfl (hask.1 _)
      · exact absurd rfl hask.2
      · exact absurd rfl (hask.1 _)
      · rfl
    rw [hnone hno, List.append_nil]
    exact s.keep (perform_onlyQueues hask g).statics

/-! ## Runs -/

theorem gpReconnect_forced (h : Host) : (gpReconnect true h).1.lastTry = h.world.now.sec := by
  unfold gpReconnect
  simp only [true_or, if_true]
  split
  · rfl
  · rfl

/-- `gp_init` tries the port whatever the clock shows. -/
theorem gpInit_lastTry (h : Host) : (gpInit h).lastTry = h.world.now.sec := by
  have hlogs : ∀ ns (g : Host), (getDevLogsLoop ns g).world.now = g.world.now :=
    fun ns g => (getDevLogsLoop_quiet ns g).kept.now
  have hopen : ∀ g : Host, (gpReconnect false g).1.world.now = g.world.now :=
    fun g => (gpReconnect_kept false g).2.1
  unfold gpInit
  simp only
  refine (gpReconnect_forced _).trans (congrArg (fun t : Timeval => (t.sec : Int)) ?_)
  exact (hlogs _ _).trans (hopen _)

theorem adapter_lastTry (mess : ReceivMess) (w : World) (db : Db) :
    (adapter mess w db).host.lastTry = w.now.sec := by
  change (adapterMain (boot w db)).lastTry = _
  unfold adapterMain
  refine (foldl_onlyQueues getTimes_steps _ _).statics.lastTry.trans ?_
  refine (foldl_onlyQueues resetBuff_steps _ _).statics.lastTry.trans ?_
  exact gpInit_lastTry _

end Libgate.PortRetries
