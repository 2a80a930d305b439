import Mathlib.Data.List.Chain
import Libgate.Calls

/-! What is seen on the line in a whole run. Every frame fits in its buffer, and
the commands that go on from a reply follow the command it answers: nothing
comes between a poll and the question for the registers, nor between the three
commands that read a block of the log. -/

namespace Libgate.Conversations
open Lib Send Target Receiver Layer HostFrame Handlers Transmit SendFrame LineSteps Calls
open Processor (processPortInput)

/-! ## Commands sent -/

/-- The command was queued by the library, or sent at once behind some other. -/
def Known (z : CmdSend) : Prop := Queueable z ∨ ∃ s, Immediate s z

theorem Known.fits {z : CmdSend} (hz : Known z) : Fits z := by
  rcases hz with hz | ⟨_, hz⟩
  · exact hz.fits
  · exact hz.fits

/-- What waits is queueable, and what has been sent is known. -/
structure Stocked (h : Host) : Prop where
  waiting : ∀ z ∈ waiting h, Queueable z
  sends : ∀ z ∈ sends h, Known z

theorem waiting_inCmd {z y : CmdSend} {h : Host} (hy : y ∈ waiting (gpInCmd z h).1) :
    y = z ∨ y ∈ waiting h := by
  rcases CommandQueues.gpInCmd_cases z h with ⟨_, _, hq, hq2⟩ | ⟨_, hq, hq2⟩
  · rw [Transmit.waiting, hq, hq2] at hy
    exact .inr hy
  · rw [Transmit.waiting, hq, hq2] at hy
    unfold Transmit.waiting
    cases hz : CommandQueues.isFirst z with
    | true =>
      simp [hz] at hy ⊢
      tauto
    | false =>
      simp [hz] at hy ⊢
      tauto

theorem waiting_putCmd (h : Host) : waiting (gpPutCmd h).1 = (waiting h).tail := by
  obtain ⟨hq, hq2⟩ := CommandQueues.gpPutCmd_queues h
  unfold Transmit.waiting
  rw [hq, hq2]
  cases h.gpHead with
  | nil => simp
  | cons z rest => simp

theorem step_stocked {h h' : Host} (s : Step library h h') (hs : Stocked h) : Stocked h' := by
  cases s with
  | queue z _ hz =>
    refine ⟨?_, ?_⟩
    · intro y hy
      rcases waiting_inCmd hy with rfl | hy
      · exact hz
      · exact hs.waiting y hy
    · rw [sends_inCmd]
      exact hs.sends
  | send z _ hz =>
    refine ⟨by rw [gpSend_waiting]; exact hs.waiting, ?_⟩
    intro y hy
    rw [gpSend_sends] at hy
    rcases List.mem_append.mp hy with hy | hy
    · exact hs.sends y hy
    · rw [List.mem_singleton.mp hy]
      exact .inr ⟨_, hz⟩
  | serve =>
    refine ⟨?_, ?_⟩
    · intro y hy
      rw [waiting_putCmd] at hy
      exact hs.waiting y (List.mem_of_mem_tail hy)
    · intro y hy
      rw [CommandQueues.gpPutCmd_sends] at hy
      rcases List.mem_append.mp hy with hy | hy
      · exact hs.sends y hy
      · exact .inl (hs.waiting y (List.mem_of_mem_head? (Option.mem_toList.mp hy)))
  | silent hq =>
    refine ⟨?_, by rw [hq.sends]; exact hs.sends⟩
    rw [Transmit.waiting, hq.gpHead, hq.gpHead2]
    exact hs.waiting

theorem stocked {h h' : Host} (s : Steps library h h') (hs : Stocked h) : Stocked h' := by
  induction s with
  | refl => exact hs
  | tail _ step ih => exact step_stocked step ih

theorem boot_stocked (w : World) (db : Db) : Stocked (boot w db) := by
  refine ⟨?_, ?_⟩
  · intro z hz
    cases hz
  · intro z hz
    cases hz

/-- The second host is the first after some transmissions, all of them `p`. -/
def SendsOnly (p : CmdSend → Prop) (h h' : Host) : Prop := ∃ zs, After zs h h' ∧ ∀ z ∈ zs, p z

namespace SendsOnly
variable {p : CmdSend → Prop} {h h' h'' : Host}

theorem of_after (a : After [] h h') : SendsOnly p h h' := ⟨[], a, by simp⟩

theorem send (z : CmdSend) (hz : p z) (h : Host) : SendsOnly p h (gpSend z h).1 :=
  ⟨[z], After.send z h, by simpa using hz⟩

theorem trans (s : SendsOnly p h h') (s' : SendsOnly p h' h'') : SendsOnly p h h'' := by
  obtain ⟨zs, a, hz⟩ := s
  obtain ⟨zs', a', hz'⟩ := s'
  refine ⟨zs ++ zs', a.trans a', ?_⟩
  intro z hm
  rcases List.mem_append.mp hm with hm | hm
  · exact hz z hm
  · exact hz' z hm

theorem putCmd (hp : ∀ z, Queueable z → p z) (hw : ∀ z ∈ waiting h, Queueable z) :
    SendsOnly p h (gpPutCmd h).1 := by
  refine ⟨_, After.putCmd h, ?_⟩
  intro z hz
  exact hp z (hw z (List.mem_of_mem_head? (Option.mem_toList.mp hz)))

theorem reply {m : ReceivMess} (hc : ∀ z ∈ chained m h, p z) :
    SendsOnly p h (processPortInput m h).1 := by
  refine ⟨_, After.reply m h, ?_⟩
  intro z hz
  exact hc z (Option.mem_toList.mp hz)

/-- At a turn comes what is queued, or a poll. -/
theorem sendNext (hp : ∀ z, Queueable z → p z) (hpoll : ∀ d, p (pollCmd d))
    (hw : ∀ z ∈ waiting h, Queueable z) : SendsOnly p h (sendNext h) := by
  have hput := putCmd hp hw
  unfold Transmit.sendNext
  simp only
  split
  · exact hput
  · refine hput.trans ⟨_, After.idle _, ?_⟩
    intro z hz
    obtain ⟨d, _, rfl⟩ := List.mem_map.mp hz
    exact hpoll d

/-- Behind a read come what is queued, a reset, and what goes on from a reply. -/
theorem dispatch {m : ReceivMess} {k : RxKind} (hp : ∀ z, Queueable z → p z)
    (hreset : ∀ d, p (adCmd AD_Q_SHORT d .softReset 0x0B 0 []))
    (hc : k.isInput = true → m.src = h.sendMess.dev ∧ ∀ z ∈ chained m h, p z) (hs : Stocked h) :
    SendsOnly p h (dispatch m k h) := by
  have hreply : k.isInput = true → SendsOnly p h (gpPutCmd (processPortInput m h).1).1 := by
    intro hk
    obtain ⟨hsrc, hz⟩ := hc hk
    exact (reply hz).trans (putCmd hp (stocked (processPortInput_library hsrc) hs).waiting)
  cases k with
  | readError => exact (of_after (After.close h)).trans (putCmd hp hs.waiting)
  | eof => exact (send _ (hreset _) h).trans (of_after (After.close _))
  | noBegin => exact of_after (After.reconnect false h)
  | nack => exact putCmd hp hs.waiting
  | ack => exact hreply rfl
  | reply =>
    unfold Layer.dispatch
    simp only
    split
    · exact reply (hc rfl).2
    · exact hreply rfl
  | _ => exact of_after (After.refl h)

end SendsOnly

/-- Every command carries at most the data of a frame, and its frame fits in
`send_mess.buf`. -/
def AllFit (zs : List CmdSend) : Prop :=
  ∀ z ∈ zs, z.dataLen ≤ 119 ∧ (sendFrame z).length ≤ GP_PORT_SEND_BUF_LENGTH

/-- **No frame overruns the buffer it is laid out in**, whatever the program asks
for, the controllers answer and the timers do. -/
theorem every_frame_fits (mess : ReceivMess) (w : World) (db : Db) (cs : List Call) :
    AllFit (sends (run perform cs (adapter mess w db)).host) := by
  intro z hz
  have hfits := ((stocked (adapter_library mess w db cs) (boot_stocked w db)).sends z hz).fits
  refine ⟨hfits.1, ?_⟩
  rw [length_sendFrame]
  exact Nat.add_le_add_right hfits.2 6

/-! ## Conversations -/

/-- The command goes on from a reply: the registers behind a card number, a block
of the log behind its bounds, the lower pointer behind a block. -/
def GoesOn (z : CmdSend) : Prop :=
  z.queue = AD_Q_SHORT ∧
    (z.targetN = .getRegs ∨ z.targetN = .getBuffData ∨ z.targetN = .setBuffAddrDown)

/-- The second command goes on from the reply to the first. -/
structure Opens (y z : CmdSend) : Prop where
  dst : y.dst = z.dst
  what : (∃ d, y = pollCmd d) ∧ z.targetN = .getRegs ∨
    y.targetN = .getBuffAddr ∧ y.evHandler = .cbLogRead ∧ z.targetN = .getBuffData ∨
    y.targetN = .getBuffData ∧ GoesOn y ∧ z.targetN = .setBuffAddrDown

/-- `send_mess` shows the command sent last; a queued one brings its own handler,
and a block of the log is asked for under that of the log. -/
structure Shows (y : CmdSend) (s : SendMess) : Prop where
  dev : s.dev = y.dst
  target : s.target = y.targetN
  handler : Queueable y → s.evHandler = y.evHandler
  block : y.targetN = .getBuffData → s.evHandler = .cbLogRead
  known : Known y

/-- Nothing is answered that has not been asked, and whatever goes on from a reply
stands right behind the command the reply is to. -/
structure Conversing (h : Host) : Prop where
  shows : ∀ y ∈ (sends h).getLast?, Shows y h.sendMess
  first : sends h = [] → h.sendMess.evHandler = .null
  opened : ∀ z ∈ (sends h).head?, ¬ GoesOn z
  chain : (sends h).IsChain fun y z => GoesOn z → Opens y z

theorem not_goesOn_queueable {z : CmdSend} (hz : Queueable z) : ¬ GoesOn z := by
  intro hgo
  exact queue_ne_short hz.queue hgo.1

/-- What is sent at once is a poll, goes on from a reply or is a reset. -/
theorem immediate_kind {s : SendMess} {z : CmdSend} (hz : Immediate s z) :
    (∃ d, z = pollCmd d) ∨ GoesOn z ∨ z.targetN = .softReset := by
  rcases hz.what with hp | hc | ⟨hr, _⟩
  · exact .inl hp
  · refine .inr (.inl ⟨hz.queue, ?_⟩)
    rcases hc.target with ⟨_, _, ht⟩ | ⟨_, _, ht⟩ | ⟨_, _, ht⟩
    · exact .inl ht
    · exact .inr (.inl ht)
    · exact .inr (.inr ht)
  · exact .inr (.inr hr)

/-- What is sent at once goes on from a reply only where it continues. -/
theorem immediate_continues {s : SendMess} {z : CmdSend} (hz : Immediate s z) (hgo : GoesOn z) :
    Continues s z := by
  rcases hz.what with ⟨d, rfl⟩ | hc | ⟨ht, _⟩
  · rcases hgo.2 with ht | ht | ht
    all_goals cases ht
  · exact hc
  · rcases hgo.2 with hn | hn | hn
    all_goals
      rw [ht] at hn
      cases hn

section Shown
variable {y z : CmdSend} {s : SendMess} (hy : Shows y s)
include hy

/-- Under the poll handler a card number was asked for by a poll. -/
theorem poll_of_shows (hev : s.evHandler = .cbGetPollResult) (ht : s.target = .getCid) :
    ∃ d, y = pollCmd d := by
  have htarget : y.targetN = .getCid := hy.target.symm.trans ht
  rcases hy.known with hq | ⟨_, hi⟩
  · have hown := (hy.handler hq).symm.trans hev
    rcases hq.handler with hn | ⟨hn, _⟩
    · rw [hn] at hown
      cases hown
    · rw [hn] at hown
      cases hown
  · rcases immediate_kind hi with hp | ⟨_, hn⟩ | hn
    · exact hp
    · rcases hn with hn | hn | hn
      all_goals
        rw [htarget] at hn
        cases hn
    · rw [htarget] at hn
      cases hn

/-- Under the log handler the bounds were asked for with that handler. -/
theorem handler_of_shows (hev : s.evHandler = .cbLogRead) (ht : s.target = .getBuffAddr) :
    y.evHandler = .cbLogRead := by
  have htarget : y.targetN = .getBuffAddr := hy.target.symm.trans ht
  rcases hy.known with hq | ⟨_, hi⟩
  · exact (hy.handler hq).symm.trans hev
  · rcases immediate_kind hi with ⟨d, rfl⟩ | ⟨_, hn⟩ | hn
    · cases htarget
    · rcases hn with hn | hn | hn
      all_goals
        rw [htarget] at hn
        cases hn
    · rw [htarget] at hn
      cases hn

/-- Under the log handler a block was asked for behind its bounds. -/
theorem goesOn_of_shows (hev : s.evHandler = .cbLogRead) (ht : s.target = .getBuffData) :
    GoesOn y := by
  have htarget : y.targetN = .getBuffData := hy.target.symm.trans ht
  rcases hy.known with hq | ⟨_, hi⟩
  · have hown := (hy.handler hq).symm.trans hev
    rcases hq.handler with hn | ⟨_, hn⟩
    · rw [hn] at hown
      cases hown
    · rw [htarget] at hn
      cases hn
  · exact ⟨hi.queue, .inr (.inl htarget)⟩

theorem opens_of_shows (hz : Continues s z) : Opens y z := by
  refine ⟨hy.dev.symm.trans hz.dst.symm, ?_⟩
  rcases hz.target with ⟨hev, ht, hzt⟩ | ⟨hev, ht, hzt⟩ | ⟨hev, ht, hzt⟩
  · exact .inl ⟨poll_of_shows hy hev ht, hzt⟩
  · exact .inr (.inl ⟨hy.target.symm.trans ht, handler_of_shows hy hev ht, hzt⟩)
  · exact .inr (.inr ⟨hy.target.symm.trans ht, goesOn_of_shows hy hev ht, hzt⟩)

end Shown

/-- A known command of the log goes on from a reply. -/
theorem goesOn_of_log {z : CmdSend} (hz : Known z) (hl : isLog z = true) : GoesOn z := by
  rcases hz with hq | ⟨_, hi⟩
  · rw [hq.log] at hl
    cases hl
  · refine ⟨hi.queue, .inr ?_⟩
    simpa [isLog] using hl

/-- What `gp_send` shows of a known command. -/
theorem gpSend_shows {z : CmdSend} (hz : Known z) {h : Host}
    (hgo : GoesOn z → Continues h.sendMess z) : Shows z (gpSend z h).1.sendMess := by
  rw [gpSend_sendMess]
  have hown : (gpSendMess z h).sendMess.evHandler = if z.evHandler ≠ .null then z.evHandler
      else if z.queue ≠ AD_Q_SHORT then .null else h.sendMess.evHandler := rfl
  refine ⟨rfl, rfl, ?_, ?_, hz⟩
  · intro hq
    rw [hown]
    by_cases hn : z.evHandler = .null
    · rw [if_neg (not_not.mpr hn), if_pos (queue_ne_short hq.queue), hn]
    · rw [if_pos hn]
  · intro ht
    have hlog : GoesOn z := goesOn_of_log hz (by simp [isLog, ht])
    have hnext := hgo hlog
    rw [hown, if_neg (not_not.mpr hnext.handler), if_neg (not_not.mpr hlog.1)]
    rcases hnext.target with ⟨_, _, hn⟩ | ⟨hev, _⟩ | ⟨hev, _⟩
    · rw [ht] at hn
      cases hn
    · exact hev
    · exact hev

theorem conversing_send {h : Host} (c : Conversing h) {z : CmdSend} (hz : Known z)
    (hgo : GoesOn z → Continues h.sendMess z) : Conversing (gpSend z h).1 := by
  refine ⟨?_, ?_, ?_, ?_⟩
  · intro y hy
    rw [gpSend_sends, List.getLast?_append, List.getLast?_singleton, Option.some_or] at hy
    obtain rfl := Option.mem_some.mp hy
    exact gpSend_shows hz hgo
  · intro hn
    rw [gpSend_sends] at hn
    exact absurd (List.append_eq_nil_iff.mp hn).2 (List.cons_ne_nil z [])
  · intro y hy
    rw [gpSend_sends] at hy
    cases hs : sends h with
    | nil =>
      rw [hs] at hy
      obtain rfl := Option.mem_some.mp hy
      intro hn
      have hnull := c.first hs
      rcases (hgo hn).target with ⟨hev, _⟩ | ⟨hev, _⟩ | ⟨hev, _⟩
      all_goals
        rw [hnull] at hev
        cases hev
    | cons x xs =>
      rw [hs] at hy
      exact c.opened y (by rw [hs]; exact hy)
  · rw [gpSend_sends, List.isChain_append]
    refine ⟨c.chain, List.IsChain.singleton z, ?_⟩
    intro y hy x hx hn
    obtain rfl := Option.mem_some.mp hx
    exact opens_of_shows (c.shows y hy) (hgo hn)

/-- What leaves the line alone. -/
theorem Conversing.of_silent {h h' : Host} (c : Conversing h) (hs : Silent h h') :
    Conversing h' := by
  obtain ⟨b, hb⟩ := hs.sendMess
  refine ⟨?_, ?_, by rw [hs.sends]; exact c.opened, by rw [hs.sends]; exact c.chain⟩
  · intro y hy
    rw [hs.sends] at hy
    have hy := c.shows y hy
    rw [hb]
    exact ⟨hy.dev, hy.target, hy.handler, hy.block, hy.known⟩
  · intro hn
    rw [hb]
    exact c.first (hs.sends.symm.trans hn)

theorem step_conversing {h h' : Host} (s : Step library h h') (hs : Stocked h)
    (c : Conversing h) : Conversing h' := by
  cases s with
  | queue z _ hz =>
    have hsends := sends_inCmd z h
    have hmess := sendMess_inCmd z h
    exact ⟨by rw [hsends, hmess]; exact c.shows, by rw [hsends, hmess]; exact c.first,
      by rw [hsends]; exact c.opened, by rw [hsends]; exact c.chain⟩
  | send z _ hz => exact conversing_send c (.inr ⟨_, hz⟩) fun hgo => immediate_continues hz hgo
  | serve =>
    cases hw : waiting h with
    | nil =>
      rw [gpPutCmd_none hw]
      exact c
    | cons z rest =>
      obtain ⟨_, _, he⟩ := dequeued_rest h
      have hz := hs.waiting z (by rw [hw]; exact List.mem_cons_self ..)
      have hd : Conversing (dequeued h) := by
        rw [he]
        exact ⟨c.shows, c.first, c.opened, c.chain⟩
      rw [gpPutCmd_some hw]
      exact conversing_send hd (.inl hz) fun hgo => absurd hgo (not_goesOn_queueable hz)
  | silent hq => exact c.of_silent hq

theorem conversing {h h' : Host} (s : Steps library h h') (hs : Stocked h) (c : Conversing h) :
    Conversing h' := by
  induction s with
  | refl => exact c
  | tail before step ih => exact step_conversing step (stocked before hs) ih

theorem boot_conversing (w : World) (db : Db) : Conversing (boot w db) := by
  refine ⟨?_, fun _ => rfl, ?_, List.IsChain.nil⟩
  · intro y hy
    cases hy
  · intro y hy
    cases hy

/-- Each command that goes on from a reply was sent right behind the command that
the reply answers, to the same controller. -/
def Unbroken (zs : List CmdSend) : Prop :=
  ∀ pre z post, zs = pre ++ z :: post → GoesOn z → ∃ y ∈ pre.getLast?, Opens y z

theorem Conversing.unbroken {h : Host} (c : Conversing h) : Unbroken (sends h) := by
  intro pre z post hz hgo
  have hopened := c.opened
  have hchain := c.chain
  rw [hz] at hopened hchain
  cases hl : pre.getLast? with
  | none =>
    rw [List.getLast?_eq_none_iff.mp hl] at hopened
    exact absurd hgo (hopened z (Option.mem_some.mpr rfl))
  | some y =>
    exact ⟨y, rfl, (List.isChain_append.mp hchain).2.2 y hl z (Option.mem_some.mpr rfl) hgo⟩

/-- **Conversations are never broken into**, in any run. -/
theorem conversations_unbroken (mess : ReceivMess) (w : World) (db : Db) (cs : List Call) :
    Unbroken (sends (run perform cs (adapter mess w db)).host) :=
  (conversing (adapter_library mess w db cs) (boot_stocked w db) (boot_conversing w db)).unbroken

end Libgate.Conversations
