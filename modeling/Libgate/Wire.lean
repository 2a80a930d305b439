import Libgate.SendFrame

/-! What can be read off the line. Somebody who listens knows where a frame ends
and how its bytes are escaped, and has the checksum to go by. Whatever commands
go out and wherever he begins and stops, he reads commands that were sent, one
after the other, and loses no more than the one he came in on. -/

namespace Libgate.Wire
open Lib Lib.Framing Util Send SendFrame

/-! ## Listening -/

/-- A command as a controller gets it. -/
structure Packet where
  dst : UInt8
  cmdN : UInt8
  data : List UInt8
  deriving DecidableEq, Repr

def packet (z : CmdSend) : Packet := ⟨z.dst, z.cmdN, z.data⟩

/-- The decoded bytes, the last of them the checksum. -/
def readBody : List UInt8 → Option Packet
  | dst :: cmdN :: rest =>
    if rest ≠ [] ∧ xorAll (cmdN :: rest) = 0 then some ⟨dst, cmdN, rest.dropLast⟩ else none
  | _ => none

/-- The bytes in front of a `GP_END`, read as a command. -/
def readFrame : List UInt8 → Option Packet
  | h1 :: h2 :: body =>
    if h1 = GP_INIT ∧ h2 = GP_CTRL then (frameCode.unstuff body).bind readBody else none
  | _ => none

/-- What somebody reads who hears the bytes. -/
def listen (bytes : List UInt8) : List (Option Packet) := (cut GP_END [] bytes).map readFrame

/-- The bytes of some commands, one behind the other. -/
def line (zs : List CmdSend) : List UInt8 := zs.flatMap sendFrame

/-! ## One frame -/

/-- A frame without its end. -/
def front (z : CmdSend) : List UInt8 := GP_INIT :: GP_CTRL :: body z

theorem line_eq (zs : List CmdSend) : line zs = stream GP_END (zs.map front) := by
  rw [line, stream, List.flatMap_map]
  congr 1
  funext z
  exact sendFrame_eq z

theorem end_not_mem_front (z : CmdSend) : GP_END ∉ front z := by
  intro hm
  rcases List.mem_cons.mp hm with hm | hm
  · exact absurd hm (by decide)
  rcases List.mem_cons.mp hm with hm | hm
  · exact absurd hm (by decide)
  · exact end_not_mem_body z hm

theorem readFrame_front (z : CmdSend) : readFrame (front z) = some (packet z) := by
  have hbody : frameCode.unstuff (body z) = some (z.dst :: z.cmdN :: (z.data ++ [checksum z])) :=
    frameCode.unstuff_stuff _
  have hsum : xorAll (z.cmdN :: (z.data ++ [checksum z])) = 0 :=
    xorAll_append_self (z.cmdN :: z.data)
  have hne : z.data ++ [checksum z] ≠ [] := by simp
  have hframe : readFrame (front z) = (frameCode.unstuff (body z)).bind readBody := by
    simp [front, readFrame]
  rw [hframe, hbody, Option.bind_some, readBody, if_pos ⟨hne, hsum⟩, List.dropLast_concat]
  rfl

/-- Without its first byte a frame is none. -/
theorem readFrame_broken {z : CmdSend} {t : List UInt8} (ht : t <:+ front z) (hne : t ≠ front z) :
    readFrame t = none := by
  have htail : t <:+ GP_CTRL :: body z := by
    rcases List.suffix_cons_iff.mp ht with heq | htail
    · exact absurd heq hne
    · exact htail
  have hno : GP_INIT ∉ t := by
    intro hm
    rcases List.mem_cons.mp (htail.subset hm) with hm | hm
    · exact absurd hm (by decide)
    · exact init_not_mem_body z hm
  match t, hno with
  | [], _ => rfl
  | [_], _ => rfl
  | h1 :: h2 :: rest, hno =>
    have h1ne : h1 ≠ GP_INIT := fun he => hno (he ▸ List.mem_cons_self ..)
    exact if_neg fun hn => h1ne hn.1

theorem map_readFrame (zs : List CmdSend) :
    (zs.map front).map readFrame = zs.map fun z => some (packet z) := by
  rw [List.map_map]
  exact List.map_congr_left fun z _ => readFrame_front z

/-! ## Any stretch of the line -/

/-- Commands that were sent, one after the other, behind at most one piece that
is recognised as broken. -/
def Reads (zs : List CmdSend) (heard : List (Option Packet)) : Prop :=
  ∃ i n, heard = ((zs.drop i).take n).map (fun z => some (packet z)) ∨
    heard = none :: ((zs.drop i).take n).map fun z => some (packet z)

/-- Whoever hears a stretch of the line reads only what was sent. -/
def NeverMisread (zs : List CmdSend) : Prop :=
  ∀ before heard after, line zs = before ++ heard ++ after → Reads zs (listen heard)

/-- All of the line is read back. -/
theorem listen_line (zs : List CmdSend) :
    listen (line zs) = zs.map fun z => some (packet z) := by
  have hcut : ∀ fs : List (List UInt8), (∀ f ∈ fs, GP_END ∉ f) →
      cut GP_END [] (stream GP_END fs) = fs := by
    intro fs hfs
    induction fs with
    | nil => rfl
    | cons f fs ih =>
      rw [stream_cons, cut_append (hfs f (List.mem_cons_self ..)),
        ih fun g hg => hfs g (List.mem_cons_of_mem f hg)]
      rfl
  rw [listen, line_eq, hcut, map_readFrame]
  intro f hf
  obtain ⟨z, _, rfl⟩ := List.mem_map.mp hf
  exact end_not_mem_front z

/-- **No command is misread**, by whoever listens from anywhere to anywhere. -/
theorem never_misread (zs : List CmdSend) : NeverMisread zs := by
  intro before heard after hall
  rw [line_eq, List.append_assoc] at hall
  rcases stream_suffix hall with hnil | ⟨i, f, t, hf, ht, hrest⟩
  · obtain ⟨rfl, _⟩ := List.append_eq_nil_iff.mp hnil
    exact ⟨0, 0, .inl rfl⟩
  rw [List.getElem?_map] at hf
  obtain ⟨z, hz, rfl⟩ := Option.map_eq_some_iff.mp hf
  rw [← List.map_drop] at hrest
  have hends : ∀ g ∈ t :: (zs.drop (i + 1)).map front, GP_END ∉ g := by
    intro g hg
    rcases List.mem_cons.mp hg with rfl | hg
    · exact fun hm => end_not_mem_front z (ht.subset hm)
    · obtain ⟨y, _, rfl⟩ := List.mem_map.mp hg
      exact end_not_mem_front y
  obtain ⟨n, hn⟩ := cut_prefix hends hrest.symm
  unfold listen
  rw [hn]
  cases n with
  | zero => exact ⟨0, 0, .inl rfl⟩
  | succ n =>
    rw [List.take_succ_cons, ← List.map_take, List.map_cons, map_readFrame]
    by_cases hwhole : t = front z
    · -- he came in between two frames
      refine ⟨i, n + 1, .inl ?_⟩
      have hdrop : zs.drop i = z :: zs.drop (i + 1) := List.drop_eq_getElem?_toList_append.trans
        (by rw [hz]; rfl)
      rw [hwhole, readFrame_front, hdrop]
      rfl
    · exact ⟨i + 1, n, .inr (by rw [readFrame_broken ht hwhole])⟩

end Libgate.Wire
