import Libgate.LineSteps
import Libgate.MemoryWrites
import Libgate.Readings

/-! The library as a whole. A program calls the functions of `ad_cmd.c`; the
event loop calls the port and the timers. Each call is a run of steps on the
line, and all but three bring ordinary commands only: `cmd_open_dev`, a card
that the poll handler finds stored, and the first word of a controller. -/

namespace Libgate.Calls
open Lib Lib.Memory DbLayer Util Send Target Cmd Processor Receiver Layer HostFrame Operations Handlers
open Transmit CommandQueues SendFrame LineSteps
open Readings (IsRegs SameFacts)

/-! ## Calls -/

/-- What happens to the adapter: time passes, a timer fires or the port has an
event, the program calls a function of `ad_cmd.c`. A reload comes with the
records its cursor comes to. -/
inductive Call where
  | tick (now : Timeval)
  | receiv (e : PortEvent)
  | allDevEnable
  | getDevLogs
  | keepalive
  | logRead (gpDst : Nat)
  | addCid (rec : ProcAddCid)
  | addCidToAll (rec : ProcAddCid)
  | addTockenToAll (inRec : AdTokenRec)
  | setMaxDev (n : Int)
  | getInfo (dev : Nat)
  | openDev (dev : Nat) (subdev : Int)
  | closeDev (dev : Nat)
  | exchangeDev (dev new : Nat)
  | getSched (dev : Nat)
  | getTocken (dev : Nat) (addr : UInt16)
  | clearDev (dev : Nat)
  | clearDevToAll
  | paramDev (dev : Nat)
  | resetDev (dev : Nat)
  | reloadDev (dev : Nat) (tokens : List DbTokenRec)
  | savingSchedToAll (r : AdSchedRec)
  | savingSched (ruleId : UInt16) (zoneId scheduleMask : UInt8) (recs : List AdSchedRec)

/-- A call as far as it works on the host. -/
def onHost : Call → Host → Host
  | .tick now, h => { h with world := { h.world with now := now } }
  | .receiv _, h => h
  | .allDevEnable, h => gpAllDevEnable h
  | .getDevLogs, h => gpGetDevLogs h
  | .keepalive, h => keepalivePort h
  | .logRead gpDst, h => (cmdLogRead gpDst h).1
  | .addCid rec, h => (cmdAddCid rec h).1
  | .addCidToAll rec, h => (cmdAddCidToAll rec h).1
  | .addTockenToAll inRec, h => (cmdAddTockenToAll inRec h).1
  | .setMaxDev n, h => (cmdSetMaxDev n h).1
  | .getInfo dev, h => (cmdGetInfo dev h).1
  | .openDev dev subdev, h => (cmdOpenDev dev subdev h).1
  | .closeDev dev, h => (cmdCloseDev dev h).1
  | .exchangeDev dev new, h => (cmdExchangeDev dev new h).1
  | .getSched dev, h => (cmdGetSched dev h).1
  | .getTocken dev addr, h => (cmdGetTocken dev addr h).1
  | .clearDev dev, h => (cmdClearDev dev h).1
  | .clearDevToAll, h => (cmdClearDevToAll h).1
  | .paramDev dev, h => (cmdParamDev dev h).1
  | .resetDev dev, h => (cmdResetDev dev h).1
  | .reloadDev dev tokens, h => (cmdReloadDev dev tokens h).1
  | .savingSchedToAll r, h => (cmdSavingSchedToAll r h).1
  | .savingSched ruleId zoneId scheduleMask recs, h =>
    (cmdSavingSched ruleId zoneId scheduleMask recs h).1

def perform (c : Call) (g : Gate) : Gate :=
  match c with
  | .receiv e => gpReceiv e g
  | c => { g with host := onHost c g.host }

/-- The adapter when `main` enters its loop: nothing read, the buffer as it may be. -/
def adapter (mess : ReceivMess) (w : World) (db : Db) : Gate :=
  { rx := { mess := mess, bufP := none }, host := adapterMain (boot w db) }

/-! ## Commands -/

/-- The frame of a command fits in `send_mess.buf`. -/
def Fits (z : CmdSend) : Prop := z.dataLen ≤ 119 ∧ z.dataLen + escaped z ≤ 124

/-- It reads a block of the log, or moves the lower pointer past one. -/
def isLog (z : CmdSend) : Bool := z.targetN = .getBuffData || z.targetN = .setBuffAddrDown

/-- It writes in the card memory. -/
def inCards (z : CmdSend) : Bool := z.cmdN = 0x05 && z.data.getD 1 0 = 0xA0

/-- What every command has that the library queues. -/
structure Queueable (z : CmdSend) : Prop where
  queue : z.queue = AD_Q_FIRST ∨ z.queue = AD_Q_SECOND
  fits : Fits z
  handler : z.evHandler = .null ∨ z.evHandler = .cbLogRead ∧ z.targetN = .getBuffAddr
  log : isLog z = false

/-- It opens a door. -/
def isDoor (z : CmdSend) : Bool := z.targetN = .turnOn

/-- It is the question with which a controller is initialised. -/
def isHello (z : CmdSend) : Bool := z.targetN = .info && z.queue = AD_Q_SECOND

/-- The command answers the reply to the one outstanding, which it goes on from. -/
structure Continues (s : SendMess) (z : CmdSend) : Prop where
  dst : z.dst = s.dev
  handler : z.evHandler = .null
  target : s.evHandler = .cbGetPollResult ∧ s.target = .getCid ∧ z.targetN = .getRegs ∨
    s.evHandler = .cbLogRead ∧ s.target = .getBuffAddr ∧ z.targetN = .getBuffData ∨
    s.evHandler = .cbLogRead ∧ s.target = .getBuffData ∧ z.targetN = .setBuffAddrDown

/-- What the library sends at once: a poll, the next command of a conversation,
or a reset when the file has ended. -/
structure Immediate (s : SendMess) (z : CmdSend) : Prop where
  queue : z.queue = AD_Q_SHORT
  fits : Fits z
  what : (∃ d, z = pollCmd d) ∨ Continues s z ∨ z.targetN = .softReset ∧ z.evHandler = .null
  cards : inCards z = false

def library : Rules := ⟨Queueable, Immediate, True⟩

def ordinary : Rules :=
  ⟨fun z => Queueable z ∧ isDoor z = false ∧ isHello z = false, Immediate, True⟩

/-- The calls of a program only queue. -/
def program : Rules := ⟨Queueable, fun _ _ => False, False⟩

def aside : Rules :=
  ⟨fun z => Queueable z ∧ isDoor z = false ∧ isHello z = false, fun _ _ => False, False⟩

theorem ordinary_within : ordinary.Within library :=
  ⟨fun _ hz => hz.1, fun _ _ hz => hz, fun ha => ha⟩

theorem aside_within : aside.Within ordinary :=
  ⟨fun _ hz => hz, fun _ _ hz => hz.elim, fun ha => ha.elim⟩

theorem aside_within_program : aside.Within program :=
  ⟨fun _ hz => hz.1, fun _ _ hz => hz, fun ha => ha⟩

theorem escaped_le (z : CmdSend) : escaped z ≤ z.dataLen + 3 := by
  have hle : escaped z ≤ (payload z ++ [checksum z]).length := List.countP_le_length
  rw [List.length_append, payload] at hle
  simp only [List.length_cons, List.length_nil, length_data] at hle
  omega

/-- A short command fits whatever it carries. -/
theorem fits_short {z : CmdSend} (hl : z.dataLen ≤ 13) : Fits z := by
  have hesc := escaped_le z
  exact ⟨by omega, by omega⟩

/-- Twelve clear cards fit: no byte of them needs an escape. -/
theorem fits_clear {z : CmdSend} (hl : z.dataLen = 101)
    (hb : ∃ b0 b1 b2 b3 b4, z.cmdBuff = b0 :: b1 :: b2 :: b3 :: b4 :: clearData) : Fits z := by
  obtain ⟨b0, b1, b2, b3, b4, hb⟩ := hb
  have hdata : z.data = [b0, b1, b2, b3, b4] ++ clearData := by
    rw [CmdSend.data, hb, hl]
    exact MemoryWrites.data_takeD rfl
  have hclear : clearData.countP (fun b => b == GP_INIT || b == GP_END || b == GP_ESC) = 0 := by
    decide
  have hesc : escaped z ≤ 8 := by
    have hfront : ∀ xs : List UInt8,
        xs.countP (fun b => b == GP_INIT || b == GP_END || b == GP_ESC) ≤ xs.length :=
      fun _ => List.countP_le_length
    have hhead := hfront [z.dst, z.cmdN, b0, b1, b2, b3, b4]
    have hcrc := hfront [checksum z]
    have hall : payload z ++ [checksum z] =
        [z.dst, z.cmdN, b0, b1, b2, b3, b4] ++ clearData ++ [checksum z] := by
      rw [payload, hdata]
      rfl
    rw [escaped, hall, List.countP_append, List.countP_append, hclear]
    simp only [List.length_cons, List.length_nil] at hhead hcrc
    omega
  exact ⟨by omega, by omega⟩

/-- It does not make a command a door's, a greeting or one of the log. -/
def plainTarget : AdTarget → Bool
  | .turnOn | .info | .getBuffData | .setBuffAddrDown => false
  | _ => true

/-- A short ordinary command for a queue. -/
structure Short (z : CmdSend) : Prop where
  queue : z.queue = AD_Q_FIRST ∨ z.queue = AD_Q_SECOND
  dataLen : z.dataLen ≤ 13
  handler : z.evHandler = .null ∨ z.evHandler = .cbLogRead ∧ z.targetN = .getBuffAddr
  log : isLog z = false
  door : isDoor z = false
  hello : isHello z = false

theorem queue_ne_short {z : CmdSend} (hq : z.queue = AD_Q_FIRST ∨ z.queue = AD_Q_SECOND) :
    z.queue ≠ AD_Q_SHORT := by
  rcases hq with hq | hq
  · rw [hq]
    decide
  · rw [hq]
    decide

namespace Short
variable {z : CmdSend}

theorem allowed (s : Short z) : aside.queue z :=
  ⟨⟨s.queue, fits_short s.dataLen, s.handler, s.log⟩, s.door, s.hello⟩

theorem secondBank (s : Short z) : Short (secondBank z) :=
  ⟨s.queue, s.dataLen, s.handler, s.log, s.door, s.hello⟩

theorem inCmd (s : Short z) (h : Host) : Steps aside h (gpInCmd z h).1 :=
  Steps.inCmd s.allowed h

theorem orQueue (s : Short z) (h : Host) : Steps aside h (sendOrQueue z h).1 :=
  Steps.orQueue s.allowed (queue_ne_short s.queue) h

theorem banks (s : Short z) (h : Host) : Steps aside h (bothBanks z h).1 :=
  Steps.banks ⟨s.allowed, s.secondBank.allowed⟩ (queue_ne_short s.queue) h

end Short

/-! ## Cards -/

section Builders
variable {q : Int} (hq : q = AD_Q_FIRST ∨ q = AD_Q_SECOND) (gpDst : Nat)
include hq

theorem short_setToken (addr : UInt16) (data : List UInt8) :
    Short (adSetTokenCmd q gpDst addr data 1) :=
  ⟨hq, Nat.le_refl 13, .inl rfl, rfl, rfl, rfl⟩

theorem short_setTokenBound (addr : UInt16) : Short (adSetTokenBoundCmd q gpDst addr) :=
  ⟨hq, Nat.le_of_ble_eq_true rfl, .inl rfl, rfl, rfl, rfl⟩

/-- A builder that takes its bytes from nowhere. -/
theorem short_adCmd {target : AdTarget} {cmdN : UInt8} {n : Nat} (buff : List UInt8)
    (hn : n ≤ 13) (ht : plainTarget target = true) : Short (adCmd q gpDst target cmdN n buff) := by
  have hother : isLog (adCmd q gpDst target cmdN n buff) = false ∧
      isDoor (adCmd q gpDst target cmdN n buff) = false ∧
      isHello (adCmd q gpDst target cmdN n buff) = false := by
    cases target with
    | turnOn | info | getBuffData | setBuffAddrDown => cases ht
    | _ => exact ⟨rfl, rfl, rfl⟩
  exact ⟨hq, hn, .inl rfl, hother.1, hother.2.1, hother.2.2⟩

theorem adGetDate_steps (h : Host) : Steps aside h (adGetDate q gpDst h).1 :=
  (short_adCmd hq gpDst _ (Nat.le_of_ble_eq_true rfl) rfl).inCmd h

theorem adGetTokenBound_steps (h : Host) :
    Steps aside h (adGetTokenBound q gpDst .null h).1 := by
  have hz : Short (adCmd q gpDst .getTokenBound 0x04 5 [0x00, 0xA0, 2, 0x00, 0xBE]) :=
    short_adCmd hq gpDst _ (Nat.le_of_ble_eq_true rfl) rfl
  exact hz.banks h

end Builders

theorem raiseBound_steps (dev : Nat) (addr : UInt16) (h : Host) :
    Steps aside h (raiseBound dev addr h) := by
  have hset : Calm h (h.setDev dev fun d => { d with boundToken := addr + 8 }) :=
    Calm.setDev _ _ _ fun _ => ⟨⟨rfl, rfl⟩, ⟨rfl, rfl, rfl, rfl, rfl, rfl⟩⟩
  have hmax : ∀ (a : UInt16) (g : Host), Calm g { g with maxBoundToken := a } :=
    fun _ _ => Calm.ofEq rfl rfl rfl rfl rfl rfl rfl rfl ⟨rfl, rfl, rfl⟩
  unfold raiseBound
  exact Steps.ite ((Steps.calm (hset.trans (hmax _ _))).trans ((short_setTokenBound (.inr rfl) ..).banks _)) .refl

theorem cmdAddCid_steps (rec : ProcAddCid) (h : Host) : Steps aside h (cmdAddCid rec h).1 := by
  have hlook : Steps aside h (h.note (.dbGetCidByA (cmdAddr rec h).toUInt32)) :=
    Steps.calm (Calm.note rfl h)
  unfold cmdAddCid
  simp only
  split
  · exact hlook
  · exact hlook.trans (((short_setToken (.inr rfl) ..).banks _).trans (raiseBound_steps ..))

theorem addCidLoop_steps (rec : ProcAddCid) (ns : List Nat) (h : Host) :
    Steps aside h (addCidLoop rec ns h).1 :=
  addCidLoop_rel (R := Steps aside) (fun _ => .refl) (fun s s' => s.trans s') _
    (fun _ _ => cmdAddCid_steps _ _) _ _

theorem addTokenLogged_calm (t : DbTokenRec) (h : Host) : Calm h (addTokenLogged t h).1 :=
  (Calm.note (e := .dbAddToken t) rfl h).trans
    (Calm.ofGrows rfl rfl rfl rfl rfl rfl rfl (Grows.addToken h.db t) ⟨rfl, rfl, rfl⟩)

theorem cmdAddCidToAll_steps (rec : ProcAddCid) (h : Host) :
    Steps aside h (cmdAddCidToAll rec h).1 :=
  (Steps.calm (addTokenLogged_calm _ h)).trans (addCidLoop_steps ..)

theorem cmdAddTockenToAll_steps (inRec : AdTokenRec) (h : Host) :
    Steps aside h (cmdAddTockenToAll inRec h).1 := by
  have hlook := Calm.note (e := .dbGetTokenByC inRec.cid) rfl h
  have hrec : Calm h (addTockenRec inRec h).1 := by
    unfold addTockenRec
    simp only
    split
    · exact hlook.trans (addTokenLogged_calm ..)
    · exact hlook
  exact (Steps.calm hrec).trans (addCidLoop_steps ..)

theorem reloadLoop_steps (dev : Nat) (tokens : List DbTokenRec) (h : Host) :
    Steps aside h (reloadLoop dev tokens h) := by
  induction tokens generalizing h with
  | nil => exact .refl
  | cons t tokens ih => exact ((short_setToken (.inl rfl) ..).banks _).trans (ih _)

theorem adPrepLoad_steps (dev : Nat) (enable : Bool) (h : Host) :
    Steps aside h (adPrepLoad AD_Q_FIRST dev enable h).1 :=
  (short_adCmd (.inl rfl) dev [_] (Nat.le_of_ble_eq_true rfl) rfl).orQueue h

theorem cmdReloadDev_steps (dev : Nat) (tokens : List DbTokenRec) (h : Host) :
    Steps aside h (cmdReloadDev dev tokens h).1 :=
  (adPrepLoad_steps dev true h).trans ((reloadLoop_steps ..).trans (adPrepLoad_steps dev false _))

/-! ## Clearing -/

theorem allowed_clear (dev : Nat) (addr : UInt16) :
    let z := adSetTokenCmd AD_Q_FIRST dev addr clearData GP_MAX_TICKET_NUM
    aside.queue z ∧ aside.queue (secondBank z) := by
  have hfits : ∀ z : CmdSend, z.dataLen = 101 →
      (∃ b0 b1 b2 b3 b4, z.cmdBuff = b0 :: b1 :: b2 :: b3 :: b4 :: clearData) → Fits z :=
    fun _ => fits_clear
  refine ⟨⟨⟨.inl rfl, hfits _ rfl ?_, .inl rfl, rfl⟩, rfl, rfl⟩,
    ⟨⟨.inl rfl, hfits _ rfl ?_, .inl rfl, rfl⟩, rfl, rfl⟩⟩
  · exact ⟨_, _, _, _, _, rfl⟩
  · exact ⟨_, _, _, _, _, rfl⟩

theorem clearLoop_steps (dev : Nat) (addr : UInt16) (h : Host) :
    Steps aside h (clearLoop dev addr h) := by
  fun_induction clearLoop dev addr h with
  | case1 addr h _ ih => exact (Steps.banks (allowed_clear dev addr) (queue_ne_short (.inl rfl)) h).trans ih
  | case2 => exact .refl

theorem clearBounds_steps (dev : Nat) (h : Host) : Steps aside h (clearBounds dev h) := by
  have hbound : ∀ (a : UInt16) (g : Host),
      Steps aside g (adSetTokenBound AD_Q_FIRST dev a g).1 :=
    fun a g => (short_setTokenBound (.inl rfl) dev a).banks g
  have hmax : ∀ a : UInt16, Calm h { h with maxBoundToken := a } :=
    fun _ => Calm.ofEq rfl rfl rfl rfl rfl rfl rfl rfl ⟨rfl, rfl, rfl⟩
  have hset : ∀ a : UInt16, Steps aside h
      ({ h with maxBoundToken := a }.setDev dev fun d => { d with boundToken := a }) :=
    fun a => Steps.calm ((hmax a).trans (Calm.setDev _ _ _ fun _ =>
      ⟨⟨rfl, rfl⟩, ⟨rfl, rfl, rfl, rfl, rfl, rfl⟩⟩))
  unfold clearBounds
  refine Relation.ReflTransGen.trans ?_ (adGetDate_steps (.inl rfl) dev _)
  refine Relation.ReflTransGen.trans ?_ (adGetTokenBound_steps (.inl rfl) dev _)
  refine Relation.ReflTransGen.trans ?_ (adPrepLoad_steps dev false _)
  exact (hset _).trans (hbound _ _)

theorem cmdClearDev_steps (dev : Nat) (h : Host) : Steps aside h (cmdClearDev dev h).1 := by
  unfold cmdClearDev
  simp only
  refine Relation.ReflTransGen.trans ?_ (clearBounds_steps dev _)
  exact (adPrepLoad_steps dev true h).trans (clearLoop_steps ..)

theorem clearDevLoop_steps (ns : List Nat) (h : Host) : Steps aside h (clearDevLoop ns h) := by
  induction ns generalizing h with
  | nil => exact .refl
  | cons d ns ih =>
    unfold clearDevLoop
    exact Steps.ite ((cmdClearDev_steps d h).trans (ih _)) (ih h)

/-! ## Schedules -/

theorem savingSchedLoop_steps (n : Int) {t : List UInt8} (ns : List Nat)
    (h : Host) : Steps aside h (savingSchedLoop n t ns h) := by
  induction ns generalizing h with
  | nil => exact .refl
  | cons d ns ih =>
    unfold savingSchedLoop
    have hrec : Short (adCmd AD_Q_FIRST d .setSched 0x05 (5 + 8)
        ([0x00, 0xA0, 8] ++ be16 (UInt16.ofInt (0x0078 + 8 * n)) ++ t)) :=
      short_adCmd (.inl rfl) d _ (Nat.le_refl 13) rfl
    exact Steps.ite ((hrec.banks h).trans (ih _)) (ih h)

theorem cmdSavingSchedToAll_steps (r : AdSchedRec) (h : Host) :
    Steps aside h (cmdSavingSchedToAll r h).1 := by
  unfold cmdSavingSchedToAll
  simp only
  split
  · exact .refl
  · exact savingSchedLoop_steps ..

theorem savingSchedRecs_steps (zoneId : UInt8) (recs : List AdSchedRec) (h : Host) :
    Steps aside h (savingSchedRecs zoneId recs h) := by
  induction recs generalizing h with
  | nil => exact .refl
  | cons r recs ih =>
    have hstore : Calm h { h with db := dbAddParamSched h.db zoneId r } :=
      Calm.ofGrows rfl rfl rfl rfl rfl rfl rfl (Grows.ofCards rfl rfl) ⟨rfl, rfl, rfl⟩
    exact (Steps.calm hstore).trans ((cmdSavingSchedToAll_steps r _).trans (ih _))

theorem cmdSavingSched_steps (ruleId : UInt16) (zoneId scheduleMask : UInt8)
    (recs : List AdSchedRec) (h : Host) :
    Steps aside h (cmdSavingSched ruleId zoneId scheduleMask recs h).1 :=
  (savingSchedRecs_steps zoneId recs h).trans (Steps.calm
    (Calm.ofGrows rfl rfl rfl rfl rfl rfl rfl (Grows.ofCards rfl rfl) ⟨rfl, rfl, rfl⟩))

/-! ## Commands for one controller -/

theorem setRtcDate_steps (dev : Nat) (h : Host) : Steps aside h (setRtcDate dev h).1 := by
  have htime : Calm h (readLocaltime h) :=
    Calm.ofEq rfl rfl rfl rfl rfl rfl rfl rfl ⟨rfl, rfl, rfl⟩
  have hdate : ∀ d g, Steps aside g (adSetDate AD_Q_SECOND dev d g).1 :=
    fun d g => (short_adCmd (.inr rfl) dev _ (Nat.le_refl 13) rfl).inCmd g
  exact (Steps.calm htime).trans (hdate _ _)

theorem adGetBuffAddr_steps {q : Int} (hq : q = AD_Q_FIRST ∨ q = AD_Q_SECOND) (dev : Nat)
    {handler : EvCbFunc} (hh : handler = .null ∨ handler = .cbLogRead) (h : Host) :
    Steps aside h (adGetBuffAddr q dev handler h).1 := by
  have hz : Short (adGetBuffAddrCmd q dev handler) :=
    ⟨hq, Nat.le_of_ble_eq_true rfl, hh.imp_right fun hl => ⟨hl, rfl⟩, rfl, rfl, rfl⟩
  exact hz.inCmd h

theorem getDevLogsLoop_steps (ns : List Nat) (h : Host) :
    Steps aside h (getDevLogsLoop ns h) := by
  induction ns generalizing h with
  | nil => exact .refl
  | cons d ns ih =>
    unfold getDevLogsLoop
    exact Steps.ite ((adGetBuffAddr_steps (.inr rfl) d (.inr rfl) h).trans (ih _)) (ih h)

theorem short_getInfo (dev : Nat) :
    Short (adCmd AD_Q_FIRST dev .info 0x09 0 []) :=
  ⟨.inl rfl, Nat.zero_le _, .inl rfl, rfl, rfl, rfl⟩

theorem cmdExchangeDev_steps (dev new : Nat) (h : Host) :
    Steps aside h (cmdExchangeDev dev new h).1 := by
  have hwrite : Steps aside h (gpInCmd (adCmd AD_Q_FIRST dev .exchange 0x05 6
      [0x00, 0xC0, 1, 0x00, 0x01, UInt8.ofNat new]) h).1 :=
    (short_adCmd (.inl rfl) dev _ (Nat.le_of_ble_eq_true rfl) rfl).inCmd h
  have hreset : ∀ g, Steps aside g (adSoftReset AD_Q_FIRST dev g).1 :=
    fun g => (short_adCmd (.inl rfl) dev _ (Nat.zero_le _) rfl).orQueue g
  have hsend : Steps aside h (adExchange AD_Q_FIRST dev new h).1 := by
    unfold adExchange
    simp only
    split
    · exact hwrite.trans (hreset _)
    · exact hwrite
  have hmark : ∀ (g : Host) d b, Calm g (g.setDev d fun r => { r with activ := b }) :=
    fun _ _ _ => Calm.setDev _ _ _ fun _ => ⟨⟨rfl, rfl⟩, ⟨rfl, rfl, rfl, rfl, rfl, rfl⟩⟩
  exact hsend.trans (Steps.calm ((hmark _ new true).trans (hmark _ dev false)))

theorem cmdParamDev_steps (dev : Nat) (h : Host) : Steps aside h (cmdParamDev dev h).1 := by
  have hregs : ∀ g, Steps aside g (adGetRegs AD_Q_FIRST dev g).1 := by
    intro g
    have hz : Short { adCmd AD_Q_FIRST dev .getRegs 0x06 2 [0x15, 0x28] with polling := true } :=
      ⟨.inl rfl, Nat.le_of_ble_eq_true rfl, .inl rfl, rfl, rfl, rfl⟩
    exact hz.orQueue g
  unfold cmdParamDev
  simp only
  refine Relation.ReflTransGen.trans ?_ (adGetDate_steps (.inl rfl) dev _)
  refine Relation.ReflTransGen.trans ?_ (hregs _)
  refine Relation.ReflTransGen.trans ?_ (adGetBuffAddr_steps (.inl rfl) dev (.inl rfl) _)
  refine Relation.ReflTransGen.trans ?_ (adGetTokenBound_steps (.inl rfl) dev _)
  exact (short_getInfo dev).orQueue h

theorem cmdResetDev_steps (dev : Nat) (h : Host) : Steps aside h (cmdResetDev dev h).1 := by
  have hbuff : ∀ g, Steps aside g (adResetBuff AD_Q_FIRST dev g).1 :=
    fun g => (short_adCmd (.inl rfl) dev _ (Nat.le_of_ble_eq_true rfl) rfl).orQueue g
  have hbound : ∀ g, Steps aside g (adResetTokenBound AD_Q_FIRST dev g).1 :=
    fun g => (short_setTokenBound (.inl rfl) dev _).banks g
  exact (setRtcDate_steps dev h).trans ((hbound _).trans (hbuff _))

/-! ## Replies -/

theorem logRecord_calm (dev : Nat) (t : GpEvent) (c : Nat) (h : Host) :
    Calm h (logRecord dev t c h).1 := by
  unfold logRecord
  split
  · exact Calm.refl h
  · have hset := Calm.setDev dev (fun d => { d with lastEvRec := t }) h
      fun _ => ⟨⟨rfl, rfl⟩, ⟨rfl, rfl, rfl, rfl, rfl, rfl⟩⟩
    have hlook := Calm.note (e := .dbGetCidByA t.addrBe.toUInt32) rfl
      (h.setDev dev fun d => { d with lastEvRec := t })
    have htime : ∀ (g : Host) (ct : Tm), Calm g { g with curtime := ct } :=
      fun _ _ => Calm.ofEq rfl rfl rfl rfl rfl rfl rfl rfl ⟨rfl, rfl, rfl⟩
    exact hset.trans (hlook.trans ((htime _ _).trans (Calm.note rfl _)))

theorem logRecords_calm (dev : Nat) (recs : List GpEvent) (c : Nat) (h : Host) :
    Calm h (logRecords dev recs c h) := by
  induction recs generalizing c h with
  | nil => exact Calm.refl h
  | cons t recs ih => exact (logRecord_calm dev t c h).trans (ih _ _)

theorem infoReply_silent (m : ReceivMess) (h : Host) : Silent h (infoReply m h) := by
  unfold infoReply
  simp only
  refine Silent.trans ?_ (Silent.note rfl _)
  split
  · exact (Silent.setDev ..).trans (Silent.setDev ..)
  · exact Silent.setDev ..

/-- What is sent at once behind a reply of the controller that is spoken to. -/
theorem Steps.reply {z : CmdSend} {h h' : Host} (hs : Silent h h')
    (hm : h'.sendMess = h.sendMess) (hq : z.queue = AD_Q_SHORT) (hl : z.dataLen ≤ 13)
    (hz : Continues h.sendMess z) (hc : inCards z = false) : Steps ordinary h (gpSend z h').1 := by
  have hnext : Continues h'.sendMess z := by
    rw [hm]
    exact hz
  exact (Steps.silent trivial hs).tail (.send z h' ⟨hq, fits_short hl, .inr (.inl hnext), hc⟩)

section Reply
variable {m : ReceivMess} {h : Host}

theorem pollCid_steps (hsrc : m.src = h.sendMess.dev)
    (hev : h.sendMess.evHandler = .cbGetPollResult) (hcid : h.sendMess.target = .getCid) :
    Steps ordinary h (pollCid m h).1 := by
  have hset : ∀ a : UInt64, Silent h (if (h.devices m.dev.toNat).lastCid ≠ a then
      h.setDev m.dev.toNat fun d => { d with lastCid := a, newCidFlag := true } else h) ∧
      (if (h.devices m.dev.toNat).lastCid ≠ a then
        h.setDev m.dev.toNat fun d => { d with lastCid := a, newCidFlag := true }
      else h).sendMess = h.sendMess := by
    intro a
    split
    · exact ⟨Silent.setDev .., rfl⟩
    · exact ⟨Silent.refl h, rfl⟩
  refine Steps.reply (hset _).1 (hset _).2 rfl (Nat.le_of_ble_eq_true rfl)
    ⟨?_, rfl, .inl ⟨hev, hcid, rfl⟩⟩ rfl
  exact (UInt8.ofNat_toNat).trans hsrc

theorem cbLogRead_steps (hsrc : m.src = h.sendMess.dev)
    (hev : h.sendMess.evHandler = .cbLogRead) : Steps ordinary h (cbLogRead m h).1 := by
  have hdst : UInt8.ofNat m.src.toNat = h.sendMess.dev := (UInt8.ofNat_toNat).trans hsrc
  unfold cbLogRead
  by_cases hadd : h.sendMess.target = .getBuffAddr
  · rw [if_pos hadd]
    have hset : Silent h (h.setDev m.dev.toNat fun d => { d with
        boundDown := be16toh m.buf (ReceivMess.cmdBuffOff + 2)
        boundUp := be16toh m.buf ReceivMess.cmdBuffOff }) := Silent.setDev ..
    unfold logAddr
    simp only
    split
    · exact .refl
    · split
      · exact Steps.reply hset rfl rfl (Nat.le_of_ble_eq_true rfl)
          ⟨hdst, rfl, .inr (.inl ⟨hev, hadd, rfl⟩)⟩ rfl
      · exact Steps.silent trivial hset
  rw [if_neg hadd]
  by_cases hdata : h.sendMess.target = .getBuffData
  · rw [if_pos hdata, logData_eq]
    have hlog := logRecords_calm m.dev.toNat (blockRecords m) 0 h
    exact Steps.reply hlog.toSilent hlog.mess rfl (Nat.le_of_ble_eq_true rfl)
      ⟨hdst, rfl, .inr (.inr ⟨hev, hdata, rfl⟩)⟩ rfl
  rw [if_neg hdata]
  split
  · exact .refl
  · exact .refl

/-- A reply that reports no card brings ordinary commands only. -/
theorem processPortInput_steps (hsrc : m.src = h.sendMess.dev) (hregs : ¬ IsRegs m h) :
    Steps ordinary h (processPortInput m h).1 := by
  unfold processPortInput
  cases hev : h.sendMess.evHandler with
  | cbLogRead => exact cbLogRead_steps hsrc hev
  | cbGetPollResult =>
    simp only
    unfold cbGetPollResult
    by_cases hcid : h.sendMess.target = .getCid ∧ m.cmdN = 0x04
    · rw [if_pos hcid]
      exact pollCid_steps hsrc hev hcid.1
    · rw [if_neg hcid, if_neg fun hn => hregs ⟨hev, hn⟩]
  | null =>
    have hbound : Silent h (tokenBoundReply m h) := Silent.setDev ..
    simp only
    split
    · exact Steps.silent trivial (infoReply_silent m h)
    · split
      · exact Steps.silent trivial hbound
      · exact .refl

end Reply

/-! ## The three that bring more -/

/-- What opens the door of a controller whose reader shows a stored card. -/
def doorCmd (dev : Nat) (ev : UInt8) : CmdSend := adCmd AD_Q_SECOND dev .turnOn 0x07 1 [ev &&& 1]

/-- What the program opens a door with. -/
def openCmd (dev : Nat) (subdev : Int) : CmdSend :=
  adCmd AD_Q_FIRST dev .turnOn 0x07 1 [UInt8.ofInt subdev]

theorem doorCmd_queueable (dev : Nat) (ev : UInt8) : Queueable (doorCmd dev ev) :=
  ⟨.inr rfl, fits_short (Nat.le_of_ble_eq_true rfl), .inl rfl, rfl⟩

theorem openCmd_queueable (dev : Nat) (subdev : Int) : Queueable (openCmd dev subdev) :=
  ⟨.inl rfl, fits_short (Nat.le_of_ble_eq_true rfl), .inl rfl, rfl⟩

/-- The host with the first command of a stored card queued, or as it was. -/
def doorQueued (dev : Nat) (ev : UInt8) (h : Host) : Host :=
  if (dbGetTokenByC h.db (h.devices dev).lastCid).isSome then
    (gpInCmd (doorCmd dev ev) (h.note (.dbGetTokenByC (h.devices dev).lastCid))).1
  else h

theorem pollNewCard_steps (dev : Nat) (ev : UInt8) (h : Host) :
    Steps ordinary (doorQueued dev ev h) (pollNewCard dev ev h) := by
  unfold doorQueued pollNewCard
  simp only
  cases dbGetTokenByC h.db (h.devices dev).lastCid with
  | some token =>
    rw [Option.isSome_some, if_pos rfl]
    refine Steps.mono aside_within ?_
    refine Relation.ReflTransGen.trans (cmdAddCid_steps (pollRec dev ev token) _) ?_
    exact Steps.ite (cmdAddCidToAll_steps ..) .refl
  | none =>
    have hlook : Calm h (h.note (.dbGetTokenByC (h.devices dev).lastCid)) := Calm.note rfl h
    have hnew : ∀ rec g, Steps ordinary g (pushNewCid rec g) :=
      fun rec g => (Steps.calm (Calm.note (e := .newCid rec) rfl g)).trans
        ((cmdAddCidToAll_steps ..).mono aside_within)
    exact (Steps.calm hlook).trans (hnew ..)

theorem pollRegs_steps (m : ReceivMess) (h : Host) :
    Steps ordinary (if newCardDue m h then doorQueued m.dev.toNat (m.cmdBuff 20) h else h)
      (pollRegs m h).1 := by
  unfold pollRegs
  simp only
  refine Relation.ReflTransGen.trans ?_ (Steps.silent trivial (Silent.setDev ..))
  by_cases hflag : (h.devices m.dev.toNat).newCidFlag ∨
      (h.devices m.dev.toNat).lastEv ≠ m.cmdBuff 20
  · rw [if_pos hflag]
    by_cases hev : m.cmdBuff 20 &&& 0xFE = 0x02
    · rw [if_pos hev, if_pos (show newCardDue m h from ⟨hflag, hev⟩)]
      exact pollNewCard_steps ..
    · rw [if_neg hev, if_neg fun hn : newCardDue m h => hev hn.2]
      exact Steps.ite (Steps.calm (Calm.note rfl h)) .refl
  · rw [if_neg hflag, if_neg fun hn : newCardDue m h => hflag hn.1]

theorem doorQueued_steps (dev : Nat) (ev : UInt8) (h : Host) :
    Steps library h (doorQueued dev ev h) := by
  unfold doorQueued
  refine Steps.ite ?_ .refl
  exact (Steps.calm (Calm.note (e := .dbGetTokenByC (h.devices dev).lastCid) rfl h)).trans
    (Steps.inCmd (doorCmd_queueable dev ev) _)

theorem processPortInput_regs {m : ReceivMess} {h : Host} (hregs : IsRegs m h) :
    processPortInput m h = pollRegs m h := by
  simp only [processPortInput, hregs.1, cbGetPollResult]
  rw [if_neg fun hn => AdTarget.noConfusion (hregs.2.1.symm.trans hn.1), if_pos hregs.2]

/-- Every reply of the controller spoken to. -/
theorem processPortInput_library {m : ReceivMess} {h : Host} (hsrc : m.src = h.sendMess.dev) :
    Steps library h (processPortInput m h).1 := by
  by_cases hregs : IsRegs m h
  · have hdoor : Steps library h
        (if newCardDue m h then doorQueued m.dev.toNat (m.cmdBuff 20) h else h) :=
      Steps.ite (doorQueued_steps ..) .refl
    rw [processPortInput_regs hregs]
    exact hdoor.trans ((pollRegs_steps m h).mono ordinary_within)
  · exact (processPortInput_steps hsrc hregs).mono ordinary_within

/-! ## The first word of a controller -/

/-- The commands of the initialisation in front of the question and behind it. -/
theorem initCmds_split (dev : Nat) (date : List UInt8) (bound : UInt16) :
    ∃ zs zs', initCmds dev date bound = zs ++ adCmd AD_Q_SECOND dev .info 0x09 0 [] :: zs' ∧
      zs.length = 5 ∧ (∀ z ∈ zs, Short z) ∧ ∀ z ∈ zs', Short z := by
  refine ⟨(initCmds dev date bound).take 5, (initCmds dev date bound).drop 6, rfl, rfl, ?_, ?_⟩
  · intro z hz
    simp only [initCmds, List.cons_append, List.nil_append, List.take_succ_cons, List.take_zero,
      List.mem_cons, List.not_mem_nil, or_false] at hz
    rcases hz with rfl | rfl | rfl | rfl | rfl
    all_goals exact ⟨.inr rfl, Nat.le_of_ble_eq_true rfl, .inl rfl, rfl, rfl, rfl⟩
  · intro z hz
    simp only [initCmds, List.cons_append, List.nil_append, List.drop_succ_cons, List.drop_zero,
      List.mem_cons, List.not_mem_nil, or_false] at hz
    rcases hz with rfl | rfl | rfl | rfl | rfl
    all_goals exact ⟨.inr rfl, Nat.le_of_ble_eq_true rfl, .inl rfl, rfl, rfl, rfl⟩

/-- The question with which a controller is initialised. -/
def helloCmd (dev : Nat) : CmdSend := adCmd AD_Q_SECOND dev .info 0x09 0 []

theorem helloCmd_queueable (dev : Nat) : Queueable (helloCmd dev) :=
  ⟨.inr rfl, fits_short (Nat.zero_le _), .inl rfl, rfl⟩

theorem queueAll_append (zs zs' : List CmdSend) (h : Host) :
    queueAll (zs ++ zs') h = queueAll zs' (queueAll zs h) := List.foldl_append ..

theorem queueAll_malloc (zs : List CmdSend) (h : Host) :
    (queueAll zs h).world.malloc = fun n => h.world.malloc (n + zs.length) := by
  induction zs generalizing h with
  | nil => rfl
  | cons z zs ih =>
    have hone := (Queueing.gpInCmd_enqueued z h).1.malloc
    have hrest : (queueAll (z :: zs) h).world.malloc =
        fun n => (gpInCmd z h).1.world.malloc (n + zs.length) := ih (gpInCmd z h).1
    rw [hrest, hone]
    funext n
    exact congrArg h.world.malloc (Nat.add_assoc ..)

theorem gpDevInit_steps (dev : Nat) (h : Host) : ∃ h', Steps ordinary h h' ∧
    h'.world.malloc = (fun n => h.world.malloc (n + 5)) ∧
    Steps ordinary (gpInCmd (helloCmd dev) h').1 (gpDevInit dev h) := by
  obtain ⟨zs, zs', hsplit, hlen, hzs, hzs'⟩ :=
    initCmds_split dev (rtcDate (h.world.localtime 0) h.world.stack) h.maxBoundToken
  have htime : Calm h (readLocaltime h) :=
    Calm.ofEq rfl rfl rfl rfl rfl rfl rfl rfl ⟨rfl, rfl, rfl⟩
  refine ⟨queueAll zs (readLocaltime h), ?_, ?_, ?_⟩
  · exact (Steps.calm htime).trans
      (Steps.mono aside_within (Steps.queueAll (fun z hz => (hzs z hz).allowed) _))
  · rw [queueAll_malloc, hlen]
    rfl
  · rw [gpDevInit_eq, hsplit, queueAll_append]
    refine Relation.ReflTransGen.trans (Steps.mono aside_within ?_)
      (Steps.silent trivial (Silent.setDev ..))
    exact Steps.queueAll (fun z hz => (hzs' z hz).allowed) _

/-- What the start of a read does before it may initialise the controller. -/
def marked (h : Host) : Host :=
  { h with sendMess := { h.sendMess with isExpected := false } }.setDev h.sendMess.dev.toNat
    fun d => { d with lastRead := tv2ms h.world.now, activ := true, timeoutCount := 0 }

theorem receivAlive_eq (h : Host) : receivAlive h =
    if (h.devices h.sendMess.dev.toNat).isInited then marked h
    else gpDevInit h.sendMess.dev.toNat (marked h) := by
  have hinit : ((marked h).devices h.sendMess.dev.toNat).isInited =
      (h.devices h.sendMess.dev.toNat).isInited := by
    unfold marked
    rw [Host.setDev_devices_self]
  rw [← hinit]
  rfl

theorem marked_silent (h : Host) : Silent h (marked h) :=
  (Silent.settle h false).trans (Silent.setDev ..)

theorem gpDevInit_library (dev : Nat) (h : Host) : Steps library h (gpDevInit dev h) := by
  obtain ⟨h', hs, _, hs'⟩ := gpDevInit_steps dev h
  exact (hs.mono ordinary_within).trans
    ((Steps.inCmd (helloCmd_queueable dev) h').trans (hs'.mono ordinary_within))

theorem receivAlive_library (h : Host) : Steps library h (receivAlive h) := by
  rw [receivAlive_eq]
  have hmark : Steps library h (marked h) := Steps.silent trivial (marked_silent h)
  exact Steps.ite hmark (hmark.trans (gpDevInit_library _ _))

/-! ## The port and the timers -/

theorem gpSendIdle_steps (h : Host) : Steps ordinary h (gpSendIdle h).1 := by
  have hskip : ∀ d, Steps ordinary h (skipTo d h) :=
    fun _ => Steps.silent trivial (Silent.ofEq rfl rfl rfl rfl rfl rfl rfl)
  have hwrap : ∀ g : Host, Silent g { g with gpDst := 0 } :=
    fun _ => Silent.ofEq rfl rfl rfl rfl rfl rfl rfl
  rw [gpSendIdle_eq]
  cases polled h with
  | some d =>
    refine (hskip d).tail (.send (pollCmd d) _ ⟨rfl, ?_, .inl ⟨d, rfl⟩, rfl⟩)
    exact fits_short (Nat.le_of_ble_eq_true rfl)
  | none => exact (hskip _).trans (Steps.silent trivial (hwrap _))

theorem receivTimeout_steps (h : Host) : Steps ordinary h (receivTimeout h) := by
  have hcharge : ∀ g, Silent g (charge g) := by
    intro g
    unfold charge
    split
    · exact (Silent.settle g false).trans (Silent.setDev ..)
    · exact Silent.refl g
  have hnext : ∀ g, Steps ordinary g (sendNext g) :=
    fun g => Steps.ite (Steps.putCmd trivial g)
      ((Steps.putCmd trivial g).trans (gpSendIdle_steps _))
  have hopen := Steps.silent (R := ordinary) trivial (Silent.reconnect false h)
  rw [receivTimeout_eq]
  exact Steps.ite (hopen.trans ((Steps.silent trivial (hcharge _)).trans (hnext _))) hopen

theorem gpAllDevEnable_silent (h : Host) : Silent h (gpAllDevEnable h) :=
  (Silent.reconnect false h).trans (Silent.ofEq rfl rfl rfl rfl rfl rfl rfl)

theorem gpClose_calm (h : Host) : Calm h (gpClose h) :=
  Calm.ofEq rfl rfl rfl rfl rfl rfl rfl rfl ⟨rfl, rfl, rfl⟩

/-- An outcome of a read that is no message. -/
theorem dispatch_steps {k : RxKind} (hk : k.isInput = false) (m : ReceivMess) (h : Host) :
    Steps ordinary h (dispatch m k h) := by
  have hreset : ∀ dev g, Steps ordinary g (adSoftReset AD_Q_SHORT dev g).1 := by
    intro dev g
    exact .single (.send _ g ⟨rfl, fits_short (Nat.zero_le _), .inr (.inr ⟨rfl, rfl⟩), rfl⟩)
  cases k with
  | readError => exact (Steps.calm (gpClose_calm h)).trans (Steps.putCmd trivial _)
  | eof => exact (hreset _ h).trans (Steps.calm (gpClose_calm _))
  | noBegin => exact Steps.silent trivial (Silent.reconnect false h)
  | nack => exact Steps.putCmd trivial h
  | ack => cases hk
  | reply => cases hk
  | _ => exact .refl

theorem checkFrame_src {dev : UInt8} {q : Nat} {rx : Rx} (hk : (checkFrame dev q rx).2.isInput = true) :
    (checkFrame dev q rx).1.mess.src = dev ∧ (checkFrame dev q rx).1.mess.dev = dev := by
  rcases ReceiverFrames.checkFrame_spec dev q rx with ⟨hacc, _, hmess⟩ | ⟨_, hno⟩
  · rw [hmess, ReceiverFrames.accepted_src]
    refine ⟨hacc.2.1.symm, ?_⟩
    unfold ReceiverFrames.accepted
    split
    · exact hacc.2.1.symm
    · exact hacc.2.1.symm
  · rw [hno] at hk
    cases hk

theorem takeChunk_src {dev : UInt8} {p : Nat} {chunk : List UInt8} {rx : Rx}
    (hk : (takeChunk dev p chunk rx).2.isInput = true) :
    (takeChunk dev p chunk rx).1.mess.src = dev ∧ (takeChunk dev p chunk rx).1.mess.dev = dev := by
  unfold takeChunk at hk ⊢
  generalize store rx.mess.buf p (chunk ++ [0]) = buf at hk ⊢
  simp only at hk ⊢
  split at hk
  · cases hk
  next hb =>
  rw [if_neg hb]
  cases hq : memchr buf p GP_END chunk.length with
  | none =>
    rw [hq] at hk
    cases hk
  | some q =>
    rw [hq] at hk
    exact checkFrame_src hk

/-- A message comes from the controller spoken to. -/
theorem receive_src {dev : UInt8} {now : UInt32} {r : ReadRes} {rx : Rx}
    (hk : (receive dev now r rx).2.isInput = true) :
    (receive dev now r rx).1.mess.src = dev ∧ (receive dev now r rx).1.mess.dev = dev := by
  unfold receive at hk ⊢
  generalize firstChunk { rx with mess := { rx.mess with lastRead := now } } = s at hk ⊢
  cases r with
  | error => cases hk
  | data bs =>
    simp only at hk ⊢
    split at hk
    · cases hk
    · next hc =>
      rw [if_neg hc]
      exact takeChunk_src hk

theorem handed_src {e : PortEvent} {g : Gate} {m : ReceivMess}
    (hm : ReceiverFrames.handed e g = some m) : m.src = g.host.sendMess.dev ∧
      m.dev = g.host.sendMess.dev := by
  cases e with
  | timeout => cases hm
  | read r =>
    have hdev : (receivAlive g.host).sendMess.dev = g.host.sendMess.dev := by
      rw [ReceiverFrames.receivAlive_sendMess]
    simp only [ReceiverFrames.handed] at hm
    split at hm
    · next hk =>
      obtain rfl := Option.some.inj hm
      obtain ⟨hsrc, hown⟩ := receive_src hk
      exact ⟨hsrc.trans hdev, hown.trans hdev⟩
    · cases hm

/-- An event that hands on no message. -/
theorem gpReceiv_quiet {e : PortEvent} {g : Gate} (hm : ReceiverFrames.handed e g = none) :
    e = .timeout ∧ Steps ordinary g.host (gpReceiv e g).host ∨
      (∃ r, e = .read r) ∧ Steps ordinary (receivAlive g.host) (gpReceiv e g).host := by
  cases e with
  | timeout => exact .inl ⟨rfl, receivTimeout_steps g.host⟩
  | read r =>
    refine .inr ⟨⟨r, rfl⟩, ?_⟩
    simp only [ReceiverFrames.handed] at hm
    split at hm
    · cases hm
    next hk =>
    exact dispatch_steps (Bool.not_eq_true _ ▸ hk) ..

/-- An event that hands one on. -/
theorem gpReceiv_message {e : PortEvent} {g : Gate} {m : ReceivMess}
    (hm : ReceiverFrames.handed e g = some m) :
    Steps ordinary (processPortInput m (receivAlive g.host)).1 (gpReceiv e g).host := by
  obtain ⟨_, heq | heq⟩ := ReceiverFrames.gpReceiv_handed hm
  · rw [heq]
    exact Steps.putCmd trivial _
  · rw [heq]

/-! ## Every call -/

/-- Neither an event of the port nor `cmd_open_dev`. -/
def Plain : Call → Prop
  | .receiv _ => False
  | .openDev _ _ => False
  | _ => True

theorem call_cases (c : Call) :
    (∃ e, c = .receiv e) ∨ (∃ dev subdev, c = .openDev dev subdev) ∨ Plain c := by
  cases c with
  | receiv e => exact .inl ⟨e, rfl⟩
  | openDev dev subdev => exact .inr (.inl ⟨dev, subdev, rfl⟩)
  | _ => exact .inr (.inr trivial)

theorem cmdSetMaxDev_calm (n : Int) (h : Host) : Calm h (cmdSetMaxDev n h).1 := by
  have hle : (cmdSetMaxDev n h).1.maxDevN ≤ 255 := by
    change (if (if n < 1 then 1 else n) > 255 then (255 : Int) else _).toNat ≤ 255
    split
    · decide
    · omega
  exact ⟨⟨rfl, rfl, ⟨_, rfl⟩, rfl, rfl, rfl, fun _ => hle, Grows.refl _⟩, rfl,
    fun _ => SameCharges.refl _, fun _ => SameFacts.refl _, ⟨rfl, rfl, rfl⟩⟩

/-- The program's other calls queue ordinary commands. -/
theorem onHost_aside {c : Call} (hc : Plain c) (he : c ≠ .allDevEnable) (h : Host) :
    Steps aside h (onHost c h) := by
  cases c with
  | tick now => exact Steps.calm (Calm.ofEq rfl rfl rfl rfl rfl rfl rfl rfl ⟨rfl, rfl, rfl⟩)
  | receiv e => exact .refl
  | allDevEnable => exact absurd rfl he
  | getDevLogs => exact getDevLogsLoop_steps (devNums h) h
  | keepalive => exact adGetDate_steps (.inr rfl) _ h
  | logRead gpDst => exact adGetBuffAddr_steps (.inr rfl) gpDst (.inr rfl) h
  | addCid rec => exact cmdAddCid_steps rec h
  | addCidToAll rec => exact cmdAddCidToAll_steps rec h
  | addTockenToAll inRec => exact cmdAddTockenToAll_steps inRec h
  | setMaxDev n => exact Steps.calm (cmdSetMaxDev_calm n h)
  | getInfo dev => exact (short_getInfo dev).orQueue h
  | openDev dev subdev => exact hc.elim
  | closeDev dev =>
    exact (short_adCmd (.inl rfl) dev _ (Nat.zero_le _) rfl).inCmd h
  | exchangeDev dev new => exact cmdExchangeDev_steps dev new h
  | getSched dev =>
    have hz : Short (adCmd AD_Q_FIRST dev .getSched 0x04 5 [0x00, 0xA0, 56, 0x00, 0x78]) :=
      short_adCmd (.inl rfl) dev _ (Nat.le_of_ble_eq_true rfl) rfl
    exact hz.banks h
  | getTocken dev addr =>
    exact (short_adCmd (.inl rfl) dev _ (Nat.le_of_ble_eq_true rfl) rfl).banks h
  | clearDev dev => exact cmdClearDev_steps dev h
  | clearDevToAll => exact clearDevLoop_steps (devNums h) h
  | paramDev dev => exact cmdParamDev_steps dev h
  | resetDev dev => exact cmdResetDev_steps dev h
  | reloadDev dev tokens => exact cmdReloadDev_steps dev tokens h
  | savingSchedToAll r => exact cmdSavingSchedToAll_steps r h
  | savingSched ruleId zoneId scheduleMask recs => exact cmdSavingSched_steps ..

/-- A plain call brings ordinary commands. -/
theorem onHost_steps {c : Call} (hc : Plain c) (h : Host) : Steps ordinary h (onHost c h) := by
  by_cases he : c = .allDevEnable
  · rw [he]
    exact Steps.silent trivial (gpAllDevEnable_silent h)
  · exact (onHost_aside hc he h).mono aside_within

/-- A call of the program that is no event and does not enable the controllers. -/
def Asks (c : Call) : Prop := (∀ e, c ≠ .receiv e) ∧ c ≠ .allDevEnable

theorem onHost_program {c : Call} (hc : Asks c) (h : Host) : Steps program h (onHost c h) := by
  rcases call_cases c with ⟨e, rfl⟩ | ⟨dev, subdev, rfl⟩ | hp
  · exact absurd rfl (hc.1 e)
  · exact Steps.inCmd (openCmd_queueable dev subdev) h
  · exact (onHost_aside hp hc.2 h).mono aside_within_program

theorem call_kinds (c : Call) : (∃ r, c = .receiv (.read r)) ∨ c = .receiv .timeout ∨
    c = .allDevEnable ∨ Asks c := by
  by_cases hc : Asks c
  · exact .inr (.inr (.inr hc))
  by_cases he : c = .allDevEnable
  · exact .inr (.inr (.inl he))
  cases c with
  | receiv e =>
    cases e with
    | timeout => exact .inr (.inl rfl)
    | read r => exact .inl ⟨r, rfl⟩
  | allDevEnable => exact absurd rfl he
  | _ => exact absurd ⟨fun _ hn => Call.noConfusion hn, he⟩ hc

/-- Such a call only queues. -/
theorem perform_onlyQueues {c : Call} (hc : Asks c) (g : Gate) :
    OnlyQueues g.host (perform c g).host := by
  have hhost : (perform c g).host = onHost c g.host := by
    cases c with
    | receiv e => exact absurd rfl (hc.1 e)
    | _ => rfl
  rw [hhost]
  exact (onHost_program hc g.host).onlyQueues (fun _ _ hn => hn) fun hn => hn

theorem perform_plain {c : Call} (hc : Plain c) (g : Gate) :
    (perform c g).host = onHost c g.host := by
  cases c with
  | receiv e => exact hc.elim
  | _ => rfl

/-- **Every call is a run of steps under the rules of the library.** -/
theorem perform_library (c : Call) (g : Gate) : Steps library g.host (perform c g).host := by
  rcases call_cases c with ⟨e, rfl⟩ | ⟨dev, subdev, rfl⟩ | hc
  · cases hm : ReceiverFrames.handed e g with
    | none =>
      rcases gpReceiv_quiet hm with ⟨_, hs⟩ | ⟨_, hs⟩
      · exact hs.mono ordinary_within
      · exact (receivAlive_library g.host).trans (hs.mono ordinary_within)
    | some m =>
      have hsrc : m.src = (receivAlive g.host).sendMess.dev := by
        rw [ReceiverFrames.receivAlive_sendMess]
        exact (handed_src hm).1
      exact (receivAlive_library g.host).trans ((processPortInput_library hsrc).trans
        ((gpReceiv_message hm).mono ordinary_within))
  · exact Steps.inCmd (openCmd_queueable dev subdev) g.host
  · rw [perform_plain hc]
    exact (onHost_steps hc g.host).mono ordinary_within

theorem gpInit_steps (h : Host) : Steps ordinary h (gpInit h) := by
  have hset : ∀ f, Silent h { h with devices := f } := fun _ => Silent.ofEq rfl rfl rfl rfl rfl rfl rfl
  have hmax : ∀ a (g : Host), Calm g { g with maxBoundToken := a } :=
    fun _ _ => Calm.ofEq rfl rfl rfl rfl rfl rfl rfl rfl ⟨rfl, rfl, rfl⟩
  have hlogs : ∀ ns g, Steps ordinary g (getDevLogsLoop ns g) :=
    fun ns g => (getDevLogsLoop_steps ns g).mono aside_within
  unfold gpInit
  simp only
  refine Relation.ReflTransGen.trans ?_
    (Steps.silent trivial ((hmax _ _).toSilent.trans (Silent.reconnect true _)))
  exact (Steps.silent trivial ((hset _).trans (gpAllDevEnable_silent _))).trans (hlogs _ _)

theorem foldl_steps {f : Host → Nat → Host} (hf : ∀ d g, Steps aside g (f g d)) (ns : List Nat)
    (h : Host) : Steps aside h (ns.foldl f h) := by
  induction ns generalizing h with
  | nil => exact .refl
  | cons d ns ih => exact (hf d h).trans (ih _)

theorem foldl_onlyQueues {f : Host → Nat → Host} (hf : ∀ d g, Steps aside g (f g d)) (ns : List Nat)
    (h : Host) : OnlyQueues h (ns.foldl f h) :=
  (foldl_steps hf ns h).onlyQueues (fun _ _ hn => hn) fun hn => hn

theorem resetBuff_steps (dev : Nat) (h : Host) : Steps aside h (adResetBuff AD_Q_SECOND dev h).1 :=
  (short_adCmd (.inr rfl) dev _ (Nat.le_of_ble_eq_true rfl) rfl).orQueue h

theorem getTimes_steps (dev : Nat) (h : Host) : Steps aside h (adGetTimes AD_Q_SECOND dev h).1 :=
  (short_adCmd (.inr rfl) dev _ (Nat.le_of_ble_eq_true rfl) rfl).banks h

theorem adapterMain_steps {h : Host} (hq : h.gpHead = [] ∧ h.gpHead2 = []) :
    Steps ordinary h (adapterMain h) := by
  have hempty : Calm h { h with gpHead := [], gpHead2 := [] } :=
    Calm.ofEq hq.1.symm hq.2.symm rfl rfl rfl rfl rfl rfl ⟨rfl, rfl, rfl⟩
  exact (Steps.calm hempty).trans ((gpInit_steps _).trans (Steps.mono aside_within
    ((foldl_steps resetBuff_steps _ _).trans (foldl_steps getTimes_steps _ _))))

/-! ## Runs -/

/-- The timer goes off `k` times, a second apart, the first at `start`. -/
def timers (start k : Nat) : List Call :=
  (List.range' start k).flatMap fun (i : Nat) => [.tick ⟨i, 0⟩, .receiv .timeout]

theorem mem_timers {start k : Nat} {c : Call} (hc : c ∈ timers start k) :
    (∃ now, c = .tick now) ∨ c = .receiv .timeout := by
  obtain ⟨i, _, hi⟩ := List.mem_flatMap.mp hc
  rcases List.mem_pair.mp hi with rfl | rfl
  · exact .inl ⟨_, rfl⟩
  · exact .inr rfl

theorem run_library (cs : List Call) (g : Gate) :
    Steps library g.host (run perform cs g).host := by
  induction cs generalizing g with
  | nil => exact .refl
  | cons c cs ih => exact (perform_library c g).trans (ih _)

/-- From the static initialisers to any state of the run. -/
theorem adapter_library (mess : ReceivMess) (w : World) (db : Db) (cs : List Call) :
    Steps library (boot w db) (run perform cs (adapter mess w db)).host :=
  ((adapterMain_steps ⟨rfl, rfl⟩).mono ordinary_within).trans (run_library cs (adapter mess w db))

theorem library_classed : library.Classed := ⟨fun _ hz => hz.queue, fun _ _ hz => hz.queue⟩

/-- Each queue is served in the order of arrival, in every run. -/
theorem adapter_inOrder (mess : ReceivMess) (w : World) (db : Db) (cs : List Call) :
    InOrder (run perform cs (adapter mess w db)).host :=
  (adapter_library mess w db cs).inOrder library_classed ⟨rfl, rfl⟩

end Libgate.Calls
