import Statik.Server.Frame
import Statik.Server.Script
import Statik.Wire.Splitter

/-!
# Frame boundaries

The bytes a connection takes off its buffer are whole frames of the stream, one
after the other, until it meets a frame whose Data Length is cut short.
-/

namespace Statik

open Wire

/-! ### The frames of a stream -/

theorem peekHeader_eq_some {b : Bytes} {r : Nat × Nat} (h : peekHeader b = .ok (some r)) :
    ∃ (f : Frame) (rest : Bytes), b = f.bytes ++ rest ∧ r = (f.header.length, f.body.length) := by
  rcases peekHeader_cases b with hp | ⟨e, -, he⟩ | ⟨f, rest, rfl⟩
  · rw [peekHeader_pending hp] at h
    cases h
  · rw [he] at h
    cases h
  · rw [peekHeader_frame] at h
    cases h
    exact ⟨f, rest, rfl, rfl⟩

/-- The frame at the front of the bytes. -/
def takeFrame (b : Bytes) : Option (Bytes × Unit × Bytes) :=
  match peekHeader b with
  | .ok (some (headerLen, length)) =>
    some (b.take (headerLen + length), (), b.drop (headerLen + length))
  | _ => none

theorem takeFrame_frame (f : Frame) (rest : Bytes) :
    takeFrame (f.bytes ++ rest) = some (f.bytes, (), rest) := by
  have hlen : f.header.length + f.body.length = f.bytes.length := List.length_append.symm
  rw [takeFrame, peekHeader_frame]
  simp only [hlen, List.take_left, List.drop_left]

theorem takeFrame_eq_some {b : Bytes} {r : Bytes × Unit × Bytes} (h : takeFrame b = some r) :
    ∃ (f : Frame) (rest : Bytes), b = f.bytes ++ rest ∧ r = (f.bytes, (), rest) := by
  have hpeek : ∃ s, peekHeader b = .ok (some s) := by
    rw [takeFrame] at h
    split at h
    · next hs => exact ⟨_, hs⟩
    · cases h
  obtain ⟨s, hs⟩ := hpeek
  obtain ⟨f, rest, rfl, -⟩ := peekHeader_eq_some hs
  rw [takeFrame_frame] at h
  cases h
  exact ⟨f, rest, rfl, rfl⟩

theorem takeFrame_shrinks {b frame rest : Bytes} {s : Unit}
    (h : takeFrame b = some (frame, s, rest)) : rest.length < b.length := by
  obtain ⟨f, rest', rfl, heq⟩ := takeFrame_eq_some h
  cases heq
  have := f.length_pos
  rw [List.length_append]
  omega

theorem takeFrame_stable {b frame rest : Bytes} {s : Unit} (more : Bytes)
    (h : takeFrame b = some (frame, s, rest)) :
    takeFrame (b ++ more) = some (frame, s, rest ++ more) := by
  obtain ⟨f, rest', rfl, heq⟩ := takeFrame_eq_some h
  cases heq
  rw [List.append_assoc]
  exact takeFrame_frame f _

/-- The reference splitter of a stream into frames. -/
def frameSplitter : Splitter Unit Bytes Byte :=
  { take := fun _ => takeFrame,
    shrinks := takeFrame_shrinks,
    stable := takeFrame_stable }

theorem drain_frame (f : Frame) (rest : Bytes) :
    frameSplitter.drain () (f.bytes ++ rest) =
      (frameSplitter.drain () rest).prepend [f.bytes] :=
  Splitter.drain_some (takeFrame_frame f rest)

theorem drain_frames (fs : List Frame) (rest : Bytes) :
    frameSplitter.drain () ((fs.map Frame.bytes).flatten ++ rest) =
      (frameSplitter.drain () rest).prepend (fs.map Frame.bytes) := by
  induction fs with
  | nil => rfl
  | cons f fs ih =>
    rw [List.map_cons, List.flatten_cons, List.append_assoc, drain_frame, ih,
      ← Received.prepend_append]
    rfl

theorem drain_pending {b : Bytes} (h : Pending b) :
    frameSplitter.drain () b = { items := [], state := (), pending := b } := by
  refine Splitter.drain_none ?_
  show takeFrame b = none
  rw [takeFrame, peekHeader_pending h]

/-! ### A single call -/

/-- Compression is on, and the frame at the front of the buffer has a body in which
the Data Length is cut short. -/
def SplitsFrame (self : Connection) : Prop :=
  self.compressionThreshold ≠ none ∧ ∃ (f : Frame) (rest : Bytes),
    self.buffer = f.bytes ++ rest ∧ f.body ≠ [] ∧ VarInt.Partial f.body

/-- A call that does not fail leaves the buffer alone and returns no packet, or
takes one whole frame off its front. -/
def TakesFrames (env : Env) (self : Connection) : Prop :=
  ∀ r, (tryParsePacket env self).1 = .ok r →
    (r = none ∧ (tryParsePacket env self).2 = self) ∨
    ∃ f : Frame, self.buffer = f.bytes ++ (tryParsePacket env self).2.buffer

/-- The Data Length of a body is cut short where the body is a partial VarInt. -/
theorem bodyBytes_eq_none {flate2 : Flate2} {threshold : Option (BitVec 32)} {body : Bytes} :
    bodyBytes flate2 threshold body = .ok none ↔ threshold ≠ none ∧ VarInt.Partial body := by
  cases threshold with
  | none => simp [bodyBytes]
  | some threshold =>
    rw [bodyBytes]
    cases hdec : VarInt.decode body with
    | error e =>
      simp only [ne_eq, reduceCtorEq, not_false_eq_true, true_and, ← VarInt.decode_eof_iff hdec]
      split <;> simp_all
    | ok r =>
      have hwhole : ¬ VarInt.Partial body := by
        intro hp
        rw [VarInt.decode_of_cut hp] at hdec
        cases hdec
      simp only [hwhole, and_false, iff_false]
      intro h
      split at h
      · cases h
      · split at h
        · split at h
          · split at h <;> cases h
          · cases h
        · cases h

/-- A frame without a body is all header. -/
theorem Frame.body_eq_nil {f f' : Frame} (h : f'.bytes = f.header) : f.body = [] := by
  have hself := f.declares []
  have hother := f'.declares f'.body
  rw [← Frame.bytes, h, ← List.append_nil f.header, hself] at hother
  obtain ⟨hlength, hbody⟩ := Prod.mk.inj (Except.ok.inj hother)
  have hnat : (VarInt.ofUsize f.body.length).val.toNat =
      (VarInt.ofUsize f'.body.length).val.toNat := by rw [hlength]
  rw [← hbody, ofUsize_toNat (Nat.le_trans f.fits (by decide))] at hnat
  exact List.eq_nil_of_length_eq_zero hnat

section

variable {env : Env} {self : Connection} {f : Frame} {rest : Bytes}

theorem tryParsePacket_splits (h : self.buffer = f.bytes ++ rest)
    (hthreshold : self.compressionThreshold ≠ none) (hcut : VarInt.Partial f.body) :
    tryParsePacket env self = (.ok none, { self with buffer := f.body ++ rest }) := by
  rw [tryParsePacket_frame h, parseFrame, bodyBytes_eq_none.mpr ⟨hthreshold, hcut⟩]

theorem tryParsePacket_takes (h : self.buffer = f.bytes ++ rest) (hwhole : ¬ SplitsFrame self)
    {r : Option DecodedC2S} (hok : (tryParsePacket env self).1 = .ok r) :
    (tryParsePacket env self).2 = { self with buffer := rest } := by
  rw [tryParsePacket_frame h, parseFrame] at hok ⊢
  cases hbody : bodyBytes env.flate2 self.compressionThreshold f.body with
  | error e =>
    rw [hbody] at hok
    cases hok
  | ok data =>
    cases data with
    | none =>
      obtain ⟨hthreshold, hcut⟩ := bodyBytes_eq_none.mp hbody
      have hnil : f.body = [] := by
        by_contra hne
        exact hwhole ⟨hthreshold, f, rest, h, hne, hcut⟩
      rw [hnil, List.nil_append]
    | some data =>
      rw [hbody] at hok
      simp only at hok ⊢
      split
      · rfl
      · next herr =>
        rw [herr] at hok
        simp only at hok
        split at hok
        · next hskip => rw [if_pos hskip]
        · cases hok

end

theorem SplitsFrame.not_takesFrames {self : Connection} (h : SplitsFrame self) (env : Env) :
    ¬ TakesFrames env self := by
  obtain ⟨hthreshold, f, rest, hbuffer, hne, hcut⟩ := h
  have hcall : tryParsePacket env self = _ := tryParsePacket_splits hbuffer hthreshold hcut
  intro htakes
  rcases htakes none (by rw [hcall]) with ⟨-, hsame⟩ | ⟨f', hframe⟩
  · rw [hcall] at hsame
    have hlen := congrArg (fun c => c.buffer.length) hsame
    have hpos := List.length_pos_of_ne_nil f.terminated.ne_nil
    simp only [hbuffer, Frame.bytes, List.length_append] at hlen
    omega
  · rw [hcall, hbuffer, Frame.bytes, List.append_assoc] at hframe
    exact hne (Frame.body_eq_nil (List.append_cancel_right hframe).symm)

theorem takesFrames_of_not_splits {self : Connection} (h : ¬ SplitsFrame self) (env : Env) :
    TakesFrames env self := by
  intro r hok
  rcases tryParsePacket_cases env self with ⟨-, hcall⟩ | ⟨e, -, hcall⟩ | ⟨f, rest, hbuffer, -⟩
  · rw [hcall] at hok ⊢
    cases hok
    exact .inl ⟨rfl, rfl⟩
  · rw [hcall] at hok
    cases hok
  · rw [tryParsePacket_takes hbuffer h hok]
    exact .inr ⟨f, hbuffer⟩

/-! ### Runs -/

/-- The connection consumed whole frames, in order, and stands at a boundary of
the stream: whatever else arrives, the reference splitter finds the frames
consumed so far and then those of the buffer. -/
structure Machine.KeepsBoundaries (m : Machine) : Prop where
  frames : ∃ fs : List Frame, m.consumed = fs.map Frame.bytes
  stream : m.Live → m.received = m.consumed.flatten ++ m.conn.buffer
  boundaries : m.Live → ∀ more, frameSplitter.drain () (m.received ++ more) =
    (frameSplitter.drain () (m.conn.buffer ++ more)).prepend m.consumed

theorem Machine.keepsBoundaries {m : Machine} {fs : List Frame}
    (hframes : m.consumed = fs.map Frame.bytes)
    (hstream : m.Live → m.received = m.consumed.flatten ++ m.conn.buffer) :
    m.KeepsBoundaries :=
  { frames := ⟨fs, hframes⟩, stream := hstream,
    boundaries := by
      intro hlive more
      rw [hstream hlive, List.append_assoc, hframes, drain_frames] }

theorem taken_self (b : Bytes) : Machine.taken b b = [] := if_pos rfl

theorem taken_append {taken rest : Bytes} (h : taken ≠ []) :
    Machine.taken (taken ++ rest) rest = [taken] := by
  have hpos := List.length_pos_of_ne_nil h
  rw [Machine.taken, if_neg, List.length_append, Nat.add_sub_cancel, List.take_left]
  rw [List.length_append]
  omega

theorem Frame.bytes_ne_nil (f : Frame) : f.bytes ≠ [] := List.ne_nil_of_length_pos f.length_pos

/-- What a round of the drain loop does to the bytes, when the call does not fail. -/
theorem advance_bytes (env : Env) (m : Machine) {r : Option DecodedC2S}
    (hok : (tryParsePacket env m.conn).1 = .ok r) :
    (m.advance env).conn.buffer = (tryParsePacket env m.conn).2.buffer ∧
    (m.advance env).received = m.received ∧
    (m.advance env).consumed =
      m.consumed ++ Machine.taken m.conn.buffer (tryParsePacket env m.conn).2.buffer := by
  rw [Machine.advance]
  cases hcall : tryParsePacket env m.conn with
  | mk result conn =>
    rw [hcall] at hok
    simp only at hok
    subst hok
    cases r with
    | none => exact ⟨rfl, rfl, rfl⟩
    | some packet =>
      obtain ⟨actions, hafter⟩ := dispatchPacket_after env packet { m.world with conn := conn }
      refine ⟨?_, rfl, rfl⟩
      show (settle _ _).1.conn.buffer = conn.buffer
      rw [hafter.conn]

theorem advance_fails (env : Env) (m : Machine) {e : Error}
    (herr : (tryParsePacket env m.conn).1 = .error e) :
    (m.advance env).phase = .ended e ∧ (m.advance env).consumed = m.consumed := by
  rw [Machine.advance]
  cases hcall : tryParsePacket env m.conn with
  | mk result conn =>
    rw [hcall] at herr
    simp only at herr
    subst herr
    exact ⟨rfl, rfl⟩

namespace Machine.KeepsBoundaries

variable {env : Env} {m : Machine}

theorem advance (h : m.KeepsBoundaries) (hlive : m.Live) (hwhole : ¬ SplitsFrame m.conn) :
    (m.advance env).KeepsBoundaries := by
  obtain ⟨fs, hfs⟩ := h.frames
  cases hcall : (tryParsePacket env m.conn).1 with
  | error e =>
    obtain ⟨hended, hsame⟩ := advance_fails env m hcall
    exact Machine.keepsBoundaries (by rw [hsame, hfs]) fun hl => absurd hended (hl e)
  | ok r =>
    obtain ⟨hbuffer, hreceived, hconsumed⟩ := advance_bytes env m hcall
    rcases takesFrames_of_not_splits hwhole env r hcall with ⟨-, hsame⟩ | ⟨f, hframe⟩
    · rw [hsame, taken_self, List.append_nil] at hconsumed
      rw [hsame] at hbuffer
      refine Machine.keepsBoundaries (by rw [hconsumed, hfs]) fun _ => ?_
      rw [hreceived, hconsumed, hbuffer, h.stream hlive]
    · rw [hframe, taken_append f.bytes_ne_nil] at hconsumed
      have hframes : (m.advance env).consumed = (fs ++ [f]).map Frame.bytes := by
        rw [hconsumed, hfs, List.map_append, List.map_singleton]
      refine Machine.keepsBoundaries hframes fun _ => ?_
      rw [hreceived, hconsumed, hbuffer, h.stream hlive, List.flatten_append,
        List.flatten_singleton, List.append_assoc, ← hframe]

theorem read (h : m.KeepsBoundaries) (hlive : m.Live) (result : Except ErrorKind Bytes) :
    (m.read result).KeepsBoundaries := by
  obtain ⟨fs, hfs⟩ := h.frames
  have hstream := h.stream hlive
  cases result with
  | error kind => exact Machine.keepsBoundaries hfs fun hl => absurd rfl (hl _)
  | ok bytes =>
    cases bytes with
    | nil => exact Machine.keepsBoundaries hfs fun hl => absurd rfl (hl _)
    | cons b bytes =>
      refine Machine.keepsBoundaries hfs fun _ => ?_
      show m.received ++ _ = m.consumed.flatten ++ (m.conn.buffer ++ _)
      rw [hstream, List.append_assoc]

theorem tick (h : m.KeepsBoundaries) (hlive : m.Live) : (m.tick env).KeepsBoundaries := by
  obtain ⟨fs, hfs⟩ := h.frames
  rw [Machine.tick]
  split
  · obtain ⟨actions, hafter⟩ := writePacket_after env
      (keepAlive m.conn.protocol m.nextKeepaliveId) m.world
    refine Machine.keepsBoundaries hfs fun _ => ?_
    show m.received = m.consumed.flatten ++ (settle _ _).1.conn.buffer
    rw [hafter.conn]
    exact h.stream hlive
  · exact h

theorem step (h : m.KeepsBoundaries) {input : Input}
    (hwhole : input = .advance → m.phase = .draining → ¬ SplitsFrame m.conn) :
    (m.step env input).KeepsBoundaries := by
  unfold Machine.step
  split
  case h_1 hphase =>
    exact h.advance (fun e he => by rw [hphase] at he; cases he) (hwhole rfl hphase)
  case h_2 result hphase => exact h.read (fun e he => by rw [hphase] at he; cases he) result
  case h_3 hphase => exact h.tick fun e he => by rw [hphase] at he; cases he
  case h_4 => exact h

end Machine.KeepsBoundaries

namespace Setup

/-- No call of the drain loop in the run meets a connection of the kind. -/
def NeverMeets (S : Setup) (fault : Nat → Option Fault) (inputs : List Input)
    (kind : Connection → Prop) : Prop :=
  ∀ pre, pre ++ [.advance] <+: inputs → (S.run fault pre).phase = .draining →
    ¬ kind (S.run fault pre).conn

theorem NeverMeets.mono {S : Setup} {fault : Nat → Option Fault}
    {inputs inputs' : List Input} {kind : Connection → Prop} (h : S.NeverMeets fault inputs kind)
    (hle : inputs' <+: inputs) : S.NeverMeets fault inputs' kind :=
  fun pre hpre => h pre (hpre.trans hle)

theorem keepsBoundaries_run {S : Setup} {fault : Nat → Option Fault} {inputs : List Input}
    (h : S.NeverMeets fault inputs SplitsFrame) : (S.run fault inputs).KeepsBoundaries := by
  induction inputs using List.reverseRecOn with
  | nil => exact Machine.keepsBoundaries (show _ = [].map Frame.bytes from rfl) fun _ => rfl
  | append_singleton inputs input ih =>
    have hbefore := ih (h.mono (List.prefix_append inputs _))
    rw [run_snoc]
    refine hbefore.step fun hadvance hphase => ?_
    subst hadvance
    exact h inputs List.prefix_rfl hphase

/-- A run that meets a frame whose Data Length is cut short consumes what is no
frame. -/
theorem consumes_no_frame {S : Setup} {fault : Nat → Option Fault} {inputs : List Input}
    (hphase : (S.run fault inputs).phase = .draining)
    (hsplits : SplitsFrame (S.run fault inputs).conn) :
    ∃ chunk ∈ (S.run fault (inputs ++ [.advance])).consumed, ∀ f : Frame, f.bytes ≠ chunk := by
  obtain ⟨hthreshold, f, rest, hbuffer, hne, hcut⟩ := hsplits
  have hcall : tryParsePacket S.env _ = _ := tryParsePacket_splits hbuffer hthreshold hcut
  have hstep : (S.run fault (inputs ++ [.advance])) = (S.run fault inputs).advance S.env := by
    rw [run_snoc]
    unfold Machine.step
    rw [hphase]
  obtain ⟨-, -, hconsumed⟩ := advance_bytes S.env (S.run fault inputs) (r := none) (by rw [hcall])
  rw [hstep, hconsumed, hcall, hbuffer, Frame.bytes, List.append_assoc,
    taken_append f.terminated.ne_nil]
  exact ⟨f.header, List.mem_append_right _ (List.mem_singleton.mpr rfl),
    fun f' hf' => hne (Frame.body_eq_nil hf')⟩

theorem not_keepsBoundaries {S : Setup} {fault : Nat → Option Fault} {inputs : List Input}
    (hphase : (S.run fault inputs).phase = .draining)
    (hsplits : SplitsFrame (S.run fault inputs).conn) :
    ¬ (S.run fault (inputs ++ [.advance])).KeepsBoundaries := by
  intro h
  obtain ⟨chunk, hchunk, hno⟩ := consumes_no_frame hphase hsplits
  obtain ⟨fs, hfs⟩ := h.frames
  rw [hfs] at hchunk
  obtain ⟨f, -, hf⟩ := List.mem_map.mp hchunk
  exact hno f hf

/-- A call takes nothing or one whole frame, if and only if the frame at the front
does not cut its Data Length short; and a run keeps to the boundaries of its
stream, if and only if no call of the drain loop meets such a frame. -/
theorem takesFrames_iff (env : Env) (self : Connection) (S : Setup)
    (fault : Nat → Option Fault) (inputs : List Input) :
    (TakesFrames env self ↔ ¬ SplitsFrame self) ∧
      ((∀ pre, pre <+: inputs → (S.run fault pre).KeepsBoundaries) ↔
        S.NeverMeets fault inputs SplitsFrame) := by
  refine ⟨⟨fun h hsplits => hsplits.not_takesFrames env h,
    fun h => takesFrames_of_not_splits h env⟩, fun h => ?_, fun h => ?_⟩
  · intro pre hpre hphase hsplits
    exact not_keepsBoundaries hphase hsplits (h _ hpre)
  · intro pre hpre
    exact keepsBoundaries_run (h.mono hpre)

/-- The frames of a handshake for Login and a `LoginStart` with the name "abc",
which 1.20.1 answers up to Play. -/
def joining : List Input :=
  [.advance,
   .read (.ok ([8, 0, 0xfb, 0x05, 1, 0x61, 0x63, 0xdd, 2] ++ [6, 0, 3, 0x61, 0x62, 0x63, 0])),
   .advance, .advance, .advance]

/-- After them a frame of one byte, the beginning of a Data Length. -/
def cutDataLength : List Input := joining ++ [.read (.ok [1, 0x80])]

theorem cutDataLength_meets :
    ((Setup.bare .v1_20_1 true).run (fun _ => none) cutDataLength).phase.isDraining = true ∧
      ((Setup.bare .v1_20_1 true).run (fun _ => none) cutDataLength).conn.compressionThreshold =
        some 256 ∧
      ((Setup.bare .v1_20_1 true).run (fun _ => none) cutDataLength).conn.buffer = [1, 0x80] := by
  decide +kernel

theorem cutDataLength_splitsFrame :
    SplitsFrame ((Setup.bare .v1_20_1 true).run (fun _ => none) cutDataLength).conn := by
  obtain ⟨-, hthreshold, hbuffer⟩ := cutDataLength_meets
  refine ⟨by rw [hthreshold]; exact nofun, Frame.of [0x80] (by decide), [], ?_, nofun, by decide⟩
  rw [hbuffer]
  decide

theorem cutDataLength_not_takesFrames :
    ¬ TakesFrames (Setup.bare .v1_20_1 true).env
        ((Setup.bare .v1_20_1 true).run (fun _ => none) cutDataLength).conn ∧
      ¬ ((Setup.bare .v1_20_1 true).run (fun _ => none)
        (cutDataLength ++ [.advance])).KeepsBoundaries :=
  ⟨cutDataLength_splitsFrame.not_takesFrames _,
    not_keepsBoundaries (Phase.eq_draining cutDataLength_meets.1) cutDataLength_splitsFrame⟩

end Setup

end Statik
