import Libgate.Resync
import Libgate.ReceiverChunks
import Libgate.SendFrame

/-! What one wrong bit makes of a reply. The checksum is taken over the decoded
body, so a bit that is wrong in a byte of its own is noticed. It is not when the
bit makes or breaks an escape pair of the same exclusive or, or ends the frame
where what came before checks out. -/

namespace Libgate.LineErrors
open Lib Lib.Memory Lib.Framing Util Send Target Processor Receiver Layer ReceiverFrames Resync
open EscapeRoundTrip ReceiverChunks SendFrame

/-! ## One bit -/

def bitMask (b : Nat) : UInt8 := 1 <<< UInt8.ofNat b

def flipBit (b : Nat) (c : UInt8) : UInt8 := c ^^^ bitMask b

/-- The body of a reply as it is sent. -/
def escaped (x : List UInt8) : List UInt8 := (memcpyEsc x).1.take (memcpyEsc x).2

/-- The reply with bit `b` of byte `i` of its escaped body turned. -/
def corrupted (h1 h2 : UInt8) (x : List UInt8) (i b : Nat) : List UInt8 :=
  (replyFrame h1 h2 x).modify (3 + i) (flipBit b)

/-- The bit makes an escape pair of two bytes, or two bytes of a pair, and their
exclusive or is the byte the pair stands for. -/
def Swaps (x : List UInt8) (i b : Nat) : Prop :=
  (b = 2 ∧ (escaped x)[i + 1]? = some 1 ∨ b = 3 ∧ (escaped x)[i + 1]? = some 2) ∧
    ((escaped x)[i]? = some GP_ESC ∨
      5 ≤ x.length ∧ (escaped x)[i]? = some (flipBit b GP_ESC))

/-- The bit makes an end of the frame, and what comes before checks out. -/
def Cuts (x : List UInt8) (i b : Nat) : Prop :=
  (escaped x)[i]?.map (flipBit b) = some GP_END ∧
    ∃ x', frameCode.unstuff ((escaped x).take i) = some x' ∧ 4 ≤ x'.length ∧ xorAll x' = 0

/-- The checks of `gp_receiv` cannot notice the bit. -/
def Unnoticed (x : List UInt8) (i b : Nat) : Prop := Swaps x i b ∨ Cuts x i b

instance (x : List UInt8) (i b : Nat) : Decidable (Swaps x i b) :=
  inferInstanceAs (Decidable (_ ∧ _))

instance (x : List UInt8) (i b : Nat) : Decidable (Cuts x i b) :=
  inferInstanceAs (Decidable (_ ∧ ∃ x' ∈ frameCode.unstuff ((escaped x).take i), _))

instance (x : List UInt8) (i b : Nat) : Decidable (Unnoticed x i b) :=
  inferInstanceAs (Decidable (_ ∨ _))

theorem escaped_eq (x : List UInt8) : escaped x = frameCode.stuff x := memcpyEsc_take x

theorem bitMask_ne_zero {b : Nat} (hb : b < 8) : bitMask b ≠ 0 := by
  have hall : ∀ b < 8, bitMask b ≠ 0 := by decide
  exact hall b hb

theorem flipBit_ne {b : Nat} (hb : b < 8) (c : UInt8) : c ≠ flipBit b c := by
  intro heq
  have hzero : c ^^^ (c ^^^ bitMask b) = 0 := UInt8.xor_eq_zero_iff.mpr heq
  rw [← UInt8.xor_assoc, UInt8.xor_self, UInt8.zero_xor] at hzero
  exact bitMask_ne_zero hb hzero

theorem flipBit_flipBit (b : Nat) (c : UInt8) : flipBit b (flipBit b c) = c := by
  rw [flipBit, flipBit, UInt8.xor_assoc, UInt8.xor_self, UInt8.xor_zero]

/-- The escape byte with one bit turned and a code have the exclusive or of what
the pair stands for in two cases. -/
theorem pair_xor {b : Nat} (hb : b < 8) {k y : UInt8} (hk : unescCode k = some y)
    (hxor : flipBit b GP_ESC ^^^ k = y) : b = 2 ∧ k = 1 ∨ b = 3 ∧ k = 2 := by
  have hall : ∀ b < 8, (flipBit b GP_ESC ^^^ 1 = GP_INIT → b = 2) ∧
      (flipBit b GP_ESC ^^^ 2 = GP_END → b = 3) ∧ flipBit b GP_ESC ^^^ 3 ≠ GP_ESC := by decide
  obtain ⟨hone, htwo, hthree⟩ := hall b hb
  unfold unescCode at hk
  split at hk
  · next h =>
    rw [h, ← Option.some.inj hk] at hxor
    exact .inl ⟨hone hxor, h⟩
  split at hk
  · next h =>
    rw [h, ← Option.some.inj hk] at hxor
    exact .inr ⟨htwo hxor, h⟩
  split at hk
  · next h =>
    rw [h, ← Option.some.inj hk] at hxor
    exact absurd hxor hthree
  · cases hk

/-- Both bits turn the escape byte into a plain one, and the pair stands for the
exclusive or. -/
theorem pair_decodes {b : Nat} {k : UInt8} (h : b = 2 ∧ k = 1 ∨ b = 3 ∧ k = 2) :
    ∃ y, unescCode k = some y ∧ flipBit b GP_ESC ^^^ k = y ∧ k ≠ GP_ESC ∧
      unescCode (flipBit b GP_ESC) = none ∧ flipBit b GP_ESC ≠ GP_ESC ∧
      flipBit b GP_ESC ≠ GP_END := by
  rcases h with ⟨rfl, rfl⟩ | ⟨rfl, rfl⟩
  · exact ⟨GP_INIT, by decide⟩
  · exact ⟨GP_END, by decide⟩

/-! ## Checksums -/

theorem xorAll_cons (c : UInt8) (xs : List UInt8) : xorAll (c :: xs) = c ^^^ xorAll xs := by
  have hfold : ∀ (xs : List UInt8) (a : UInt8), xs.foldl (· ^^^ ·) a = a ^^^ xorAll xs := by
    intro xs
    induction xs with
    | nil => exact fun a => UInt8.xor_zero.symm
    | cons y ys ih =>
      intro a
      change ys.foldl (· ^^^ ·) (a ^^^ y) = a ^^^ ys.foldl (· ^^^ ·) (0 ^^^ y)
      rw [ih, ih, UInt8.zero_xor, UInt8.xor_assoc]
  rw [xorAll, List.foldl_cons, hfold, UInt8.zero_xor]

theorem xorAll_append (xs ys : List UInt8) : xorAll (xs ++ ys) = xorAll xs ^^^ xorAll ys := by
  induction xs with
  | nil => exact UInt8.zero_xor.symm
  | cons x xs ih => rw [List.cons_append, xorAll_cons, xorAll_cons, ih, UInt8.xor_assoc]

/-- Bodies with a common front and back have the checksums their middles have. -/
theorem xorAll_middle {pre post u v : List UInt8} :
    xorAll (pre ++ (u ++ post)) = xorAll (pre ++ (v ++ post)) ↔ xorAll u = xorAll v := by
  rw [xorAll_append, xorAll_append, xorAll_append, xorAll_append, UInt8.xor_right_inj,
    UInt8.xor_left_inj]

theorem xorAll_pair (u v : UInt8) : xorAll [u, v] = u ^^^ v := by
  rw [xorAll_cons, xorAll_cons]
  exact congrArg (u ^^^ ·) UInt8.xor_zero

theorem xorAll_one (u : UInt8) : xorAll [u] = u := (xorAll_cons u []).trans UInt8.xor_zero

/-- A changed body with a good checksum comes of an escape pair made or broken. -/
theorem swaps_of_altered {x x' : List UInt8} {i b : Nat} {o : UInt8} (hb : b < 8)
    (hx : xorAll x = 0) (hx' : xorAll x' = 0) (hfour : 4 ≤ x'.length)
    (ha : frameCode.Altered x i o (flipBit b o) x') : Swaps x i b := by
  generalize hc : flipBit b o = c at ha
  have hne : o ≠ c := hc ▸ flipBit_ne hb o
  have hsame : xorAll x = xorAll x' := hx.trans hx'.symm
  cases ha with
  | @replaced pre post _ _ hy hesc =>
    have hmid : xorAll [o] = xorAll [c] := xorAll_middle.mp hsame
    rw [xorAll_one, xorAll_one] at hmid
    exact absurd hmid hne
  | @merged pre post _ k d hy hk hd =>
    have hmid : xorAll [o, k] = xorAll [d] := xorAll_middle.mp hsame
    have ho : o = flipBit b GP_ESC := (flipBit_flipBit b o).symm.trans (congrArg (flipBit b) hc)
    rw [xorAll_pair, xorAll_one, ho] at hmid
    obtain ⟨hfirst, hsecond⟩ := frameCode.stuff_cells_unmarked hy hk pre post
    rw [← escaped_eq] at hfirst hsecond
    have hlen : 5 ≤ (pre ++ o :: k :: post).length := by
      simp only [List.length_append, List.length_cons] at hfour ⊢
      omega
    refine ⟨?_, .inr ⟨hlen, ho ▸ hfirst⟩⟩
    rcases pair_xor hb hd hmid with ⟨hbit, hcode⟩ | ⟨hbit, hcode⟩
    · exact .inl ⟨hbit, hcode ▸ hsecond⟩
    · exact .inr ⟨hbit, hcode ▸ hsecond⟩
  | @split pre post y k _ hy hesc =>
    have hmid : xorAll [y] = xorAll [c, k] := xorAll_middle.mp hsame
    rw [xorAll_one, xorAll_pair, ← hc] at hmid
    have hunesc : unescCode k = some y := (escCode_iff y k).mp hy
    obtain ⟨hfirst, hsecond⟩ := frameCode.stuff_cells_marked hy pre post
    rw [← escaped_eq] at hfirst hsecond
    refine ⟨?_, .inl hfirst⟩
    rcases pair_xor hb hunesc hmid.symm with ⟨hbit, hcode⟩ | ⟨hbit, hcode⟩
    · exact .inl ⟨hbit, hcode ▸ hsecond⟩
    · exact .inr ⟨hbit, hcode ▸ hsecond⟩
  | @recoded pre post y _ _ d hy hd =>
    have hmid : xorAll [y] = xorAll [d] := xorAll_middle.mp hsame
    rw [xorAll_one, xorAll_one] at hmid
    have hcode : escCode d = some c := (escCode_iff d c).mpr hd
    have hboth : some o = some c := hy.symm.trans (hmid ▸ hcode)
    exact absurd (Option.some.inj hboth) hne

/-- An escape pair made or broken gives a body of another length and the same
checksum. -/
theorem Swaps.altered {x : List UInt8} {i b : Nat} (h : Swaps x i b) :
    ∃ o x', (escaped x)[i]? = some o ∧ flipBit b o ≠ GP_END ∧
      frameCode.Altered x i o (flipBit b o) x' ∧ xorAll x' = xorAll x ∧
      (x'.length = x.length + 1 ∨ 5 ≤ x.length ∧ x'.length + 1 = x.length) := by
  obtain ⟨hnext, hfirst⟩ := h
  obtain ⟨k, hbit, hk⟩ : ∃ k, (b = 2 ∧ k = 1 ∨ b = 3 ∧ k = 2) ∧ (escaped x)[i + 1]? = some k := by
    rcases hnext with ⟨hb, hk⟩ | ⟨hb, hk⟩
    · exact ⟨1, .inl ⟨hb, rfl⟩, hk⟩
    · exact ⟨2, .inr ⟨hb, rfl⟩, hk⟩
  obtain ⟨y, hy, hxor, hkesc, hplain, hesc, hend⟩ := pair_decodes hbit
  rcases hfirst with hfirst | ⟨hfive, hfirst⟩
  · -- the pair is broken
    have hcell := hfirst
    rw [escaped_eq] at hcell hk
    obtain ⟨pre, z, post, rfl, rfl, hz⟩ := frameCode.stuff_escape rfl hcell hk
    obtain rfl : y = z := Option.some.inj (hy.symm.trans ((escCode_iff z k).mp hz))
    refine ⟨GP_ESC, pre ++ ([flipBit b GP_ESC, k] ++ post), hfirst, hend, .split hz hesc, ?_, .inl ?_⟩
    · refine xorAll_middle.mpr (?_ : xorAll [flipBit b GP_ESC, k] = xorAll [y])
      rw [xorAll_pair, xorAll_one, hxor]
    · simp only [List.length_append, List.length_cons, List.length_nil]
      omega
  · -- a pair is made
    have hcell := hfirst
    rw [escaped_eq] at hcell hk
    obtain ⟨pre, post, rfl, rfl, ho, hkplain⟩ := frameCode.stuff_plain hesc hplain hkesc hcell hk
    have hback : flipBit b (flipBit b GP_ESC) = GP_ESC := flipBit_flipBit b GP_ESC
    refine ⟨flipBit b GP_ESC, pre ++ ([y] ++ post), hfirst, ?_, ?_, ?_, .inr ⟨hfive, ?_⟩⟩
    · rw [hback]
      decide
    · rw [hback]
      exact .merged ho hkplain hy
    · refine xorAll_middle.mpr (?_ : xorAll [y] = xorAll [flipBit b GP_ESC, k])
      rw [xorAll_pair, xorAll_one, hxor]
    · simp only [List.length_append, List.length_cons, List.length_nil]
      omega

/-! ## Streams without a good frame -/

/-- The bytes an event brings. -/
def heard : Ev → List UInt8
  | .port (.read (.data bs)) => bs
  | _ => []

/-- The event passes nothing on to `process_port_input`. -/
def Silent (e : Ev) (s : Link) : Prop :=
  match e with
  | .port e => handed e s.gate = none
  | .adapter _ => True

section Stream
variable {s : Link} (hr : Holds s.gate.rx s.acc) {bs : List UInt8}
include hr

/-- A read that passes something on has finished a frame. -/
theorem handed_frame {m : ReceivMess} (hm : handed (.read (.data bs)) s.gate = some m) :
    ∃ f rest, s.acc ++ s.chunk bs = f ++ GP_END :: rest ∧ f.head? = some GP_INIT := by
  simp only [handed, receivAlive_sendMess] at hm
  split at hm
  · next hk =>
    obtain ⟨f, hfeed, _⟩ := receive_input hr hk
    obtain ⟨hbegin, _, rest, hall⟩ := feed_frame (by decide) hr.noEnd hfeed
    exact ⟨f, rest, hall, hbegin⟩
  · cases hm

/-- Bytes outside a frame that begin none are dropped. -/
theorem read_dropped (hacc : s.acc = []) (hno : GP_INIT ∉ s.chunk bs) :
    Silent (.port (.read (.data bs))) s ∧ since s (.read (.data bs)) = [] := by
  have hempty : ∀ f rest, s.acc ++ s.chunk bs = f ++ GP_END :: rest → f.head? ≠ some GP_INIT := by
    intro f rest hall hbegin
    have hmem : GP_INIT ∈ f := List.mem_of_head? hbegin
    rw [hacc, List.nil_append] at hall
    exact hno (hall ▸ List.mem_append_left _ hmem)
  refine ⟨?_, ?_⟩
  · change handed (.read (.data bs)) s.gate = none
    cases hm : handed (.read (.data bs)) s.gate with
    | none => rfl
    | some m =>
      obtain ⟨f, rest, hall, hbegin⟩ := handed_frame hr hm
      exact absurd hbegin (hempty f rest hall)
  · unfold since
    simp only
    split
    · exact hacc
    · cases hfeed : feed GP_INIT GP_END s.acc (s.chunk bs) with
      | stray => exact hacc
      | frame f => rfl
      | more acc =>
        obtain ⟨hmore, hbegin, _⟩ := feed_more hr.noEnd hfeed
        rw [hacc, List.nil_append] at hmore
        exact absurd (hmore ▸ List.mem_of_head? hbegin) hno

/-- After a frame nothing is passed on until another begins. -/
theorem silent_of_no_begin (hacc : s.acc = []) {es : List Ev}
    (hno : GP_INIT ∉ es.flatMap heard) : Along step Silent es s := by
  induction es generalizing s with
  | nil => trivial
  | cons e es ih =>
    rw [List.flatMap_cons, List.mem_append, not_or] at hno
    have hnext := step_holds e s hr
    cases e with
    | adapter f => exact ⟨trivial, ih hnext hacc hno.2⟩
    | port e =>
      cases e with
      | timeout => exact ⟨rfl, ih hnext hacc hno.2⟩
      | read r =>
        cases r with
        | error => exact ⟨rfl, ih hnext hacc hno.2⟩
        | data bs =>
          have hchunk : GP_INIT ∉ s.chunk bs := by
            intro hm
            refine hno.1 (?_ : GP_INIT ∈ bs)
            unfold Link.chunk readBytes at hm
            simp only at hm
            split at hm
            · exact hm
            · exact List.mem_of_mem_take hm
          obtain ⟨hsilent, hsince⟩ := read_dropped hr hacc hchunk
          exact ⟨hsilent, ih hnext hsince hno.2⟩

end Stream

/-- A frame that does not check out, or nothing that is passed on behind the end. -/
structure Harmless (F : List UInt8) : Prop where
  fits : F.length < GP_PORT_READ_BUF_LENGTH
  begins : F.head? = some GP_INIT
  fails : ∀ f rest, F = f ++ GP_END :: rest → GP_END ∉ f → ∀ x, frameCode.unstuff (f.drop 3) = some x →
    4 ≤ x.length → xorAll x ≠ 0
  ends : ∀ f rest, F = f ++ GP_END :: rest → GP_END ∉ f → GP_INIT ∉ rest

section Harmless
variable {F : List UInt8} (hF : Harmless F) {s : Link} (hr : Holds s.gate.rx s.acc)
  {bs later : List UInt8} (hes : s.acc ++ bs ++ later = F)
include hF hes

theorem Harmless.chunk : s.chunk bs = bs := by
  have hle : (s.acc ++ bs).length ≤ F.length := hes ▸ (List.prefix_append ..).length_le
  exact readBytes_fits (Nat.lt_of_le_of_lt hle hF.fits)

include hr

/-- A read from the frame passes nothing on. -/
theorem Harmless.read_silent (hsound : SoundStep (.port (.read (.data bs))) s) :
    Silent (.port (.read (.data bs))) s := by
  change handed (.read (.data bs)) s.gate = none
  cases hm : handed (.read (.data bs)) s.gate with
  | none => rfl
  | some m =>
    obtain ⟨h1, h2, body, rest, x, hall, hne, hx, hfour, hxor, _⟩ :=
      handed_wellFormed hr hsound hm
    rw [hF.chunk hes] at hall
    rw [hall, List.append_assoc] at hes
    exact absurd hxor (hF.fails _ _ hes.symm hne x hx hfour)

/-- It leaves the frame to be finished by the reads to come, or nothing that begins one. -/
theorem Harmless.read_onward : since s (.read (.data bs)) ++ later = F ∨
    since s (.read (.data bs)) = [] ∧ GP_INIT ∉ later := by
  have hchunk := hF.chunk hes
  by_cases hb : bs = []
  · have hsince : since s (.read (.data bs)) = s.acc := if_pos (hchunk.trans hb)
    rw [hsince, ← hes, hb, List.append_nil]
    exact .inl rfl
  have hsince : since s (.read (.data bs)) = (feed GP_INIT GP_END s.acc bs).pending s.acc := by
    unfold since
    simp only
    rw [hchunk, if_neg hb]
  rw [hsince]
  cases hfeed : feed GP_INIT GP_END s.acc bs with
  | stray =>
    have hbegin := hF.begins
    rw [← hes, List.head?_append_of_ne_nil _ (List.append_ne_nil_of_right_ne_nil _ hb)] at hbegin
    rw [feed, if_pos hbegin] at hfeed
    split at hfeed <;> cases hfeed
  | more acc =>
    obtain ⟨hmore, _⟩ := feed_more hr.noEnd hfeed
    rw [← hes, ← hmore]
    exact .inl rfl
  | frame f =>
    obtain ⟨_, hne, rest, hall⟩ := feed_frame (by decide) hr.noEnd hfeed
    rw [hall, List.append_assoc] at hes
    have hno : GP_INIT ∉ rest ++ later := hF.ends _ _ hes.symm hne
    exact .inr ⟨rfl, fun hm => hno (List.mem_append_right _ hm)⟩

end Harmless

/-- However the bytes come, nothing is passed on while the frames that finish are sound. -/
theorem Harmless.silent {F : List UInt8} (hF : Harmless F) {es : List Ev} {s : Link}
    (hr : Holds s.gate.rx s.acc) (hes : s.acc ++ es.flatMap heard = F)
    (hs : Along step SoundStep es s) : Along step Silent es s := by
  induction es generalizing s with
  | nil => trivial
  | cons e es ih =>
    have hnext := step_holds e s hr
    obtain ⟨hsound, hrest⟩ := hs
    cases e with
    | adapter f => exact ⟨trivial, ih hnext hes hrest⟩
    | port e =>
      cases e with
      | timeout => exact ⟨rfl, ih hnext hes hrest⟩
      | read r =>
        cases r with
        | error => exact ⟨rfl, ih hnext hes hrest⟩
        | data bs =>
          have hall : s.acc ++ bs ++ es.flatMap heard = F := by
            rw [List.append_assoc]
            exact hes
          refine ⟨hF.read_silent hr hall hsound, ?_⟩
          rcases hF.read_onward hr hall with hon | ⟨hnone, hno⟩
          · exact ih hnext hon hrest
          · exact silent_of_no_begin hnext hnone hno

/-! ## A reply with one wrong bit -/

section Reply
variable {dev h1 h2 : UInt8} {x : List UInt8} {i b : Nat} {o : UInt8}

theorem corrupted_eq (ho : (escaped x)[i]? = some o) : corrupted h1 h2 x i b =
    (GP_INIT :: h1 :: h2 :: (frameCode.stuff x).set i (flipBit b o)) ++ [GP_END] := by
  rw [escaped_eq] at ho
  obtain ⟨hi, _⟩ := List.getElem?_eq_some_iff.mp ho
  have hcell : (replyFrame h1 h2 x)[3 + i]? = some o := by
    rw [replyFrame_eq, Nat.add_comm]
    change (frameCode.stuff x ++ [GP_END])[i]? = some o
    rwa [List.getElem?_append_left hi]
  rw [corrupted, List.modify_eq_set, hcell, replyFrame_eq, Nat.add_comm]
  change GP_INIT :: h1 :: h2 :: (frameCode.stuff x ++ [GP_END]).set i (flipBit b o) = _
  rw [List.set_append_left _ _ hi]
  rfl

theorem corrupted_cut (ho : (escaped x)[i]? = some o) (hend : flipBit b o = GP_END) :
    corrupted h1 h2 x i b = (GP_INIT :: h1 :: h2 :: (frameCode.stuff x).take i) ++
      GP_END :: ((frameCode.stuff x).drop (i + 1) ++ [GP_END]) := by
  have heq : corrupted h1 h2 x i b = _ := corrupted_eq ho
  rw [escaped_eq] at ho
  obtain ⟨hi, _⟩ := List.getElem?_eq_some_iff.mp ho
  rw [heq, List.set_eq_take_append_cons_drop, if_pos hi, hend]
  simp

theorem end_not_mem_set (hv : ValidReply dev h1 h2 x) (hend : flipBit b o ≠ GP_END) :
    GP_END ∉ GP_INIT :: h1 :: h2 :: (frameCode.stuff x).set i (flipBit b o) := by
  have hfront := end_not_mem hv
  simp only [List.mem_cons, not_or] at hfront ⊢
  refine ⟨hfront.1, hfront.2.1, hfront.2.2.1, ?_⟩
  intro hm
  rcases List.mem_or_eq_of_mem_set hm with hm | hm
  · exact hfront.2.2.2 hm
  · exact hend hm.symm

theorem end_not_mem_take (hv : ValidReply dev h1 h2 x) :
    GP_END ∉ GP_INIT :: h1 :: h2 :: (frameCode.stuff x).take i := by
  have hfront := end_not_mem hv
  simp only [List.mem_cons, not_or] at hfront ⊢
  exact ⟨hfront.1, hfront.2.1, hfront.2.2.1, fun hm => hfront.2.2.2 (List.mem_of_mem_take hm)⟩

/-- The bit does not end the frame. -/
theorem harmless_of_ne (hv : ValidReply dev h1 h2 x) (hb : b < 8) (ho : (escaped x)[i]? = some o)
    (hend : flipBit b o ≠ GP_END) (hno : ¬ Swaps x i b) : Harmless (corrupted h1 h2 x i b) := by
  have hnot := end_not_mem_set (i := i) hv hend
  have heq : corrupted h1 h2 x i b = _ := corrupted_eq ho
  refine ⟨?_, ?_, ?_, ?_⟩
  · rw [corrupted, List.length_modify]
    exact hv.fits
  · rw [heq]
    rfl
  · intro f rest hF hf x' hx' hfour hxor
    rw [heq] at hF
    obtain ⟨rfl, _⟩ := split_unique hnot hf hF
    rw [escaped_eq] at ho
    have halt := frameCode.unstuff_set rfl ho (flipBit_ne hb o) hx'
    exact hno (swaps_of_altered hb hv.crc hxor hfour halt)
  · intro f rest hF hf
    rw [heq] at hF
    obtain ⟨_, rfl⟩ := split_unique hnot hf hF
    exact List.not_mem_nil

/-- The bit ends the frame. -/
theorem harmless_of_end (hv : ValidReply dev h1 h2 x) (ho : (escaped x)[i]? = some o)
    (hend : flipBit b o = GP_END) (hno : ¬ Cuts x i b) : Harmless (corrupted h1 h2 x i b) := by
  have hnot := end_not_mem_take (i := i) hv
  have hcut : corrupted h1 h2 x i b = _ := corrupted_cut ho hend
  refine ⟨?_, ?_, ?_, ?_⟩
  · rw [corrupted, List.length_modify]
    exact hv.fits
  · rw [hcut]
    rfl
  · intro f rest hF hf x' hx' hfour hxor
    rw [hcut] at hF
    obtain ⟨rfl, _⟩ := split_unique hnot hf hF
    refine hno ⟨?_, x', ?_, hfour, hxor⟩
    · rw [ho, Option.map_some, hend]
    · rw [escaped_eq]
      exact hx'
  · intro f rest hF hf
    rw [hcut] at hF
    obtain ⟨_, rfl⟩ := split_unique hnot hf hF
    have hinit : GP_INIT ∉ frameCode.stuff x := not_mem_stuff (by decide) (by decide) (by decide) x
    rw [List.mem_append, not_or]
    exact ⟨fun hm => hinit (List.mem_of_mem_drop hm), by decide⟩

/-- A bit the checks cannot notice leaves a good frame of another body. -/
theorem unnoticed_frame (hv : ValidReply dev h1 h2 x) (hi : i < (memcpyEsc x).2)
    (hno : Unnoticed x i b) : ∃ f rest x', corrupted h1 h2 x i b = f ++ GP_END :: rest ∧
      GP_END ∉ f ∧ frameCode.unstuff (f.drop 3) = some x' ∧ 4 ≤ x'.length ∧ xorAll x' = 0 ∧
      x' ≠ x := by
  rw [memcpyEsc_length] at hi
  rcases hno with hswaps | ⟨hend, x', hx', hfour, hxor⟩
  · obtain ⟨o, x', ho, hend, halt, hsame, hlen⟩ := hswaps.altered
    have hfour := hv.four
    refine ⟨_, [], x', corrupted_eq ho, end_not_mem_set hv hend, halt.decodes _ rfl, ?_,
      hsame.trans hv.crc, ?_⟩
    · omega
    · intro heq
      have hle := congrArg List.length heq
      omega
  · obtain ⟨o, ho, hflip⟩ := Option.map_eq_some_iff.mp hend
    rw [escaped_eq] at hx'
    refine ⟨_, _, x', corrupted_cut ho hflip, end_not_mem_take hv, hx', hfour, hxor, ?_⟩
    obtain ⟨y, post, hx⟩ := frameCode.unstuff_take hi hx'
    intro heq
    have hle := congrArg List.length (heq ▸ hx)
    simp only [List.length_append, List.length_cons] at hle
    omega

theorem harmless_of_noticed (hv : ValidReply dev h1 h2 x) (hi : i < (memcpyEsc x).2) (hb : b < 8)
    (hno : ¬ Unnoticed x i b) : Harmless (corrupted h1 h2 x i b) := by
  have hlen : i < (escaped x).length := by
    rw [memcpyEsc_eq] at hi
    rwa [escaped_eq]
  obtain ⟨hswaps, hcuts⟩ := not_or.mp hno
  have ho := List.getElem?_eq_getElem hlen
  by_cases hend : flipBit b (escaped x)[i] = GP_END
  · exact harmless_of_end hv ho hend hcuts
  · exact harmless_of_ne hv hb ho hend hswaps

end Reply

/-- **A reply with one wrong bit in its escaped body is not passed on**, however it
is cut into reads and whatever happens in between, unless the checks cannot
notice the bit, while the frames that finish are sound. -/
theorem wrong_bit_silent (s : Link) (hr : Holds s.gate.rx s.acc) (hempty : s.acc = [])
    (h1 h2 : UInt8) (x : List UInt8) (hv : ValidReply s.gate.host.sendMess.dev h1 h2 x) (i b : Nat)
    (hi : i < (memcpyEsc x).2) (hb : b < 8) (hno : ¬ Unnoticed x i b) (es : List Ev)
    (hes : es.flatMap heard = corrupted h1 h2 x i b) (hs : Along step SoundStep es s) :
    Along step Silent es s := by
  refine (harmless_of_noticed hv hi hb hno).silent hr ?_ hs
  rw [hempty, List.nil_append]
  exact hes

/-- Controller 3 is asked for its information. -/
def infoAsked : Link :=
  run step [.adapter fun h => (adGetInfo AD_Q_SHORT 3 h).1]
    (start blankMess (gpInit (boot workingWorld Db.empty)))

theorem infoAsked_holds : Holds infoAsked.gate.rx infoAsked.acc :=
  run_invariant (I := fun s : Link => Holds s.gate.rx s.acc) step_holds _ (Holds.of_none rfl)

/-- Its reply comes in two reads, with a bit of the command wrong. -/
theorem wrong_bit_silent_split :
    Along step Silent [.port (.read (.data [GP_INIT, 8, 0, 0x10])),
      .port (.read (.data [3, 8, 0x1A, GP_END]))] infoAsked :=
  wrong_bit_silent infoAsked infoAsked_holds (by decide) 8 0 [0x10, 3, 9, 0x1A]
    ⟨by decide, by decide, by decide, by decide, by decide⟩ 2 0 (by decide) (by decide) (by decide)
    _ (by decide) (by decide)

/-- `FB 01` becomes the escape of `FA`, their exclusive or: the body is a byte
shorter. -/
theorem wrong_bit_alters :
    ¬ ∀ (g : Gate) (h1 h2 : UInt8) (x : List UInt8) (i b : Nat), Holds g.rx [] →
      ValidReply g.host.sendMess.dev h1 h2 x → i < (memcpyEsc x).2 → b < 8 →
      handed (.read (.data (corrupted h1 h2 x i b))) g = none ∨
        ∃ m, handed (.read (.data (corrupted h1 h2 x i b))) g = some m ∧ Carries m x := by
  intro hall
  have hcase := hall infoAsked.gate 8 0 [0x10, 3, 4, 0xFB, 1, 0xED] 3 2 infoAsked_holds
    ⟨by decide, by decide, by decide, by decide, by decide⟩ (by decide) (by decide)
  have hlen : (handed (.read (.data (corrupted 8 0 [0x10, 3, 4, 0xFB, 1, 0xED] 3 2)))
      infoAsked.gate).map ReceivMess.len = some 1 := by decide
  rcases hcase with hnone | ⟨m, hm, hcarries⟩
  · rw [hnone] at hlen
    cases hlen
  · rw [hm] at hlen
    obtain ⟨_, hbody⟩ := hcarries.cmd (by decide)
    have hone : m.len = 1 := Option.some.inj hlen
    rw [hone] at hbody
    exact absurd hbody (by decide)

end Libgate.LineErrors
