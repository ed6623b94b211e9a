import Statik.Server.Boundaries
import Statik.Server.Stability

/-!
# Draining the buffer

Whether the drain loop leaves a whole frame behind.  It stops at the first call
that returns no packet, and a frame that yields none is such a call.
-/

namespace Statik

open Wire

/-! ### Calls without a packet -/

/-- A frame that is taken off the buffer and yields no packet: an empty one under
compression, or one that does not decode in a state that skips it. -/
def SkipsFrame (env : Env) (self : Connection) (body : Bytes) : Prop :=
  (self.compressionThreshold ≠ none ∧ body = []) ∨
  self.state.skipsUndecodable = true ∧ ∃ data e,
    bodyBytes env.flate2 self.compressionThreshold body = .ok (some data) ∧
    DecodedC2S.decode env.serde self.protocol self.state data = .error e

/-- The call ends the drain loop although the buffer goes on behind the frame: the
frame cuts its Data Length short, or it is skipped and a whole frame or a malformed
header follows. -/
def StopsShort (env : Env) (self : Connection) : Prop :=
  SplitsFrame self ∨ ∃ (f : Frame) (rest : Bytes),
    self.buffer = f.bytes ++ rest ∧ SkipsFrame env self f.body ∧ ¬ Pending rest

theorem tryParsePacket_skips {env : Env} {self : Connection} {f : Frame} {rest : Bytes}
    (h : self.buffer = f.bytes ++ rest) (hskips : SkipsFrame env self f.body) :
    tryParsePacket env self = (.ok none, { self with buffer := rest }) := by
  rcases hskips with ⟨hthreshold, hnil⟩ | ⟨hstate, data, e, hbody, hdecode⟩
  · have hcut : VarInt.Partial f.body := by
      rw [hnil]
      decide
    rw [tryParsePacket_splits h hthreshold hcut, hnil]
    rfl
  · rw [tryParsePacket_frame h, parseFrame, hbody]
    simp only [hdecode]
    rw [if_pos hstate]

/-- The calls that return no packet. -/
theorem tryParsePacket_none {env : Env} {self : Connection}
    (h : (tryParsePacket env self).1 = .ok none) :
    (Pending self.buffer ∧ (tryParsePacket env self).2 = self) ∨ SplitsFrame self ∨
      ∃ (f : Frame) (rest : Bytes), self.buffer = f.bytes ++ rest ∧
        SkipsFrame env self f.body ∧
        (tryParsePacket env self).2 = { self with buffer := rest } := by
  rcases tryParsePacket_cases env self with ⟨hp, hcall⟩ | ⟨e, -, hcall⟩ | ⟨f, rest, hbuffer,
    hcall⟩
  · exact .inl ⟨hp, by rw [hcall]⟩
  · rw [hcall] at h
    cases h
  · by_cases hsplits : SplitsFrame self
    · exact .inr (.inl hsplits)
    · refine .inr (.inr ⟨f, rest, hbuffer, ?_, tryParsePacket_takes hbuffer hsplits h⟩)
      rw [hcall, parseFrame] at h
      cases hbody : bodyBytes env.flate2 self.compressionThreshold f.body with
      | error e =>
        rw [hbody] at h
        cases h
      | ok data =>
        cases data with
        | none =>
          obtain ⟨hthreshold, hcut⟩ := bodyBytes_eq_none.mp hbody
          refine .inl ⟨hthreshold, ?_⟩
          by_contra hne
          exact hsplits ⟨hthreshold, f, rest, hbuffer, hne, hcut⟩
        | some data =>
          rw [hbody] at h
          simp only at h
          split at h
          · cases h
          · next e hdecode =>
            split at h
            · next hstate => exact .inr ⟨hstate, data, e, hbody, hdecode⟩
            · cases h

/-! ### Waiting -/

/-- The buffer holds no whole frame, and the frames of the stream are those the
connection consumed. -/
structure Drained (m : Machine) : Prop where
  pending : Pending m.conn.buffer
  short : m.conn.buffer.length < 5 + maxPacketSize
  handled : frameSplitter.drain () m.received =
    { items := m.consumed, state := (), pending := m.conn.buffer }

theorem Machine.KeepsBoundaries.drained {m : Machine} (h : m.KeepsBoundaries)
    (hlive : m.Live) (hpending : Pending m.conn.buffer) : Drained m := by
  refine { pending := hpending, short := hpending.length_lt, handled := ?_ }
  have hdrain := h.boundaries hlive []
  rw [List.append_nil, List.append_nil, drain_pending hpending] at hdrain
  rw [hdrain, Received.prepend, List.append_nil]

/-- Of a stream only whole frames are handled. -/
theorem Drained.frames {m : Machine} (h : Drained m) :
    ∀ chunk ∈ m.consumed, ∃ f : Frame, f.bytes = chunk := by
  have hall := frameSplitter.drain_items (p := fun chunk => ∃ f : Frame, f.bytes = chunk)
    (fun htake => by
      obtain ⟨f, rest, -, heq⟩ := takeFrame_eq_some htake
      cases heq
      exact ⟨f, rfl⟩) () m.received
  rw [h.handled] at hall
  exact hall

variable {env : Env} {m : Machine}

/-- The phase after a call that returned no packet, and the others. -/
theorem advance_phase (env : Env) (m : Machine) :
    (m.advance env).phase = .waiting ↔ (tryParsePacket env m.conn).1 = .ok none := by
  rw [Machine.advance]
  cases hcall : tryParsePacket env m.conn with
  | mk result conn =>
    cases result with
    | error e => constructor <;> intro h <;> cases h
    | ok r =>
      cases r with
      | none => exact ⟨fun _ => rfl, fun _ => rfl⟩
      | some packet =>
        refine ⟨fun h => ?_, fun h => by cases h⟩
        change (settle _ _).2 = _ at h
        cases hdispatch : dispatchPacket env packet { m.world with conn := conn } with
        | ok _ w => rw [hdispatch] at h; cases h
        | error e w => rw [hdispatch] at h; cases h

/-- A call that returns a packet leaves fewer bytes behind. -/
theorem tryParsePacket_shrinks {self : Connection} {packet : DecodedC2S}
    (h : (tryParsePacket env self).1 = .ok (some packet)) :
    (tryParsePacket env self).2.buffer.length < self.buffer.length := by
  rcases tryParsePacket_cases env self with ⟨-, hcall⟩ | ⟨e, -, hcall⟩ | ⟨f, rest, hbuffer, hcall⟩
  · rw [hcall] at h
    cases h
  · rw [hcall] at h
    cases h
  · rw [hcall, hbuffer]
    exact parseFrame_length_lt env self f rest

/-- A round after which the loop goes on draining takes bytes. -/
theorem advance_shrinks (h : (m.advance env).phase = .draining) :
    (m.advance env).conn.buffer.length < m.conn.buffer.length := by
  cases hcall : (tryParsePacket env m.conn).1 with
  | error e =>
    rw [(advance_fails env m hcall).1] at h
    cases h
  | ok r =>
    cases r with
    | none =>
      rw [(advance_phase env m).mpr hcall] at h
      cases h
    | some packet =>
      rw [(advance_bytes env m hcall).1]
      exact tryParsePacket_shrinks hcall

/-- The drain loop ends, after at most as many rounds as there are bytes and one
more. -/
theorem drain_ends (env : Env) (m : Machine) : ∃ k ≤ m.conn.buffer.length + 1,
    (m.exec env (List.replicate k .advance)).phase ≠ .draining := by
  induction hn : m.conn.buffer.length using Nat.strongRecOn generalizing m with
  | _ n ih =>
    subst hn
    by_cases hphase : m.phase = .draining
    · have hstep : m.step env .advance = m.advance env := by
        unfold Machine.step
        rw [hphase]
      by_cases hnext : (m.advance env).phase = .draining
      · have hlt := advance_shrinks hnext
        obtain ⟨k, hk, hends⟩ := ih _ hlt (m.advance env) rfl
        refine ⟨k + 1, by omega, ?_⟩
        rw [List.replicate_succ, Machine.exec, List.foldl_cons, hstep]
        exact hends
      · refine ⟨1, by omega, ?_⟩
        show (m.step env .advance).phase ≠ _
        rw [hstep]
        exact hnext
    · exact ⟨0, by omega, hphase⟩

theorem pending_advance (hshort : ¬ StopsShort env m.conn)
    (hwaiting : (m.advance env).phase = .waiting) : Pending (m.advance env).conn.buffer := by
  have hnone := (advance_phase env m).mp hwaiting
  rw [(advance_bytes env m hnone).1]
  rcases tryParsePacket_none hnone with ⟨hp, hsame⟩ | hsplits | ⟨f, rest, hbuffer, hskips, hrest⟩
  · rw [hsame]
    exact hp
  · exact absurd (.inl hsplits) hshort
  · rw [hrest]
    by_contra hp
    exact hshort (.inr ⟨f, rest, hbuffer, hskips, hp⟩)

theorem pending_step {input : Input} (h : m.phase = .waiting → Pending m.conn.buffer)
    (hshort : input = .advance → m.phase = .draining → ¬ StopsShort env m.conn)
    (hwaiting : (m.step env input).phase = .waiting) : Pending (m.step env input).conn.buffer := by
  unfold Machine.step at hwaiting ⊢
  split at hwaiting
  case h_1 hphase => exact pending_advance (hshort rfl hphase) hwaiting
  case h_2 result hphase =>
    cases result with
    | error kind => cases hwaiting
    | ok bytes =>
      cases bytes with
      | nil => cases hwaiting
      | cons b bytes => cases hwaiting
  case h_3 hphase =>
    rw [Machine.tick] at hwaiting ⊢
    split at hwaiting
    · change (settle _ _).2 = _ at hwaiting
      cases hwrite : writePacket env (keepAlive m.conn.protocol m.nextKeepaliveId) m.world with
      | ok _ w => rw [hwrite] at hwaiting; cases hwaiting
      | error e w => rw [hwrite] at hwaiting; cases hwaiting
    · next hplay =>
      rw [if_neg hplay]
      exact h hphase
  case h_4 => exact h hwaiting

namespace Setup

theorem pending_run {S : Setup} {fault : Nat → Option Fault} {inputs : List Input}
    (h : S.NeverMeets fault inputs (StopsShort S.env))
    (hwaiting : (S.run fault inputs).phase = .waiting) :
    Pending (S.run fault inputs).conn.buffer := by
  induction inputs using List.reverseRecOn with
  | nil => cases hwaiting
  | append_singleton inputs input ih =>
    rw [run_snoc] at hwaiting ⊢
    refine pending_step (ih (h.mono (List.prefix_append inputs _))) ?_ hwaiting
    intro hadvance hphase
    subst hadvance
    exact h inputs List.prefix_rfl hphase

/-- In a run, the server waits for bytes only after it has handled every frame it
received, if and only if no call of the drain loop stops short. -/
theorem run_drained_iff (S : Setup) (fault : Nat → Option Fault) (inputs : List Input) :
    (∀ pre, pre <+: inputs → (S.run fault pre).phase = .waiting → Drained (S.run fault pre)) ↔
      S.NeverMeets fault inputs (StopsShort S.env) := by
  constructor
  · intro h pre hpre hphase hshort
    have hstep : S.run fault (pre ++ [.advance]) = (S.run fault pre).advance S.env := by
      rw [run_snoc]
      unfold Machine.step
      rw [hphase]
    have hcall : ∃ buffer, tryParsePacket S.env (S.run fault pre).conn =
        (.ok none, { (S.run fault pre).conn with buffer := buffer }) := by
      rcases hshort with ⟨hthreshold, f, rest, hbuffer, -, hcut⟩ | ⟨f, rest, hbuffer, hskips, -⟩
      · exact ⟨_, tryParsePacket_splits hbuffer hthreshold hcut⟩
      · exact ⟨_, tryParsePacket_skips hbuffer hskips⟩
    obtain ⟨buffer, hcall⟩ := hcall
    have hnone : (tryParsePacket S.env (S.run fault pre).conn).1 = .ok none := by rw [hcall]
    have hdrained := h _ hpre (by rw [hstep, advance_phase, hnone])
    rcases hshort with hsplits | ⟨f, rest, hbuffer, hskips, hrest⟩
    · obtain ⟨chunk, hchunk, hno⟩ := consumes_no_frame hphase hsplits
      obtain ⟨f, hf⟩ := hdrained.frames chunk hchunk
      exact hno f hf
    · have hpending := hdrained.pending
      rw [hstep, (advance_bytes S.env _ hnone).1, tryParsePacket_skips hbuffer hskips] at hpending
      exact hrest hpending
  · intro h pre hpre hwaiting
    have hpre' := h.mono hpre
    have hboundaries : (S.run fault pre).KeepsBoundaries :=
      keepsBoundaries_run fun pre' hpre'' hphase hsplits => hpre' pre' hpre'' hphase (.inl hsplits)
    refine hboundaries.drained (fun e he => ?_) (pending_run hpre' hwaiting)
    rw [hwaiting] at he
    cases he

/-- The join, and then in one read the frame of an unknown packet and that of a
`KeepAlive`. -/
def unknownThenKeepAlive : List Input :=
  joining ++ [.read (.ok ([1, 0x7f] ++ [9, 0x12, 0, 0, 0, 0, 0, 0, 0, 1])), .advance]

theorem unknownThenKeepAlive_not_drained :
    (bareRun .v1_20_1 false unknownThenKeepAlive).phase = .waiting ∧
      ¬ Drained (bareRun .v1_20_1 false unknownThenKeepAlive) := by
  have hends : (bareRun .v1_20_1 false unknownThenKeepAlive).phase.isWaiting = true ∧
      (bareRun .v1_20_1 false unknownThenKeepAlive).conn.buffer =
        [9, 0x12, 0, 0, 0, 0, 0, 0, 0, 1] := by decide +kernel
  refine ⟨Phase.eq_waiting hends.1, fun h => ?_⟩
  have hpeek := peekHeader_pending h.pending
  rw [hends.2] at hpeek
  cases hpeek

end Setup

end Statik
