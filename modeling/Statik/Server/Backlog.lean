import Statik.Server.Draining
import Statik.Server.Phases
import Statik.Server.Status

/-!
# What waits in the buffer

How many bytes a connection keeps while it waits for a read.  Before a login is
accepted they are less than a frame.  In Configuration and Play a client that sends two
frames of an unknown packet at a time leaves one of them behind with each read.
-/

namespace Statik

open Wire

/-! ### Before Configuration and Play -/

/-- Without compression, and in a state that skips nothing. -/
structure Strict (conn : Connection) : Prop where
  threshold : conn.compressionThreshold = none
  state : conn.state.skipsUndecodable = false

theorem Strict.not_stopsShort {env : Env} {self : Connection} (h : Strict self) :
    ¬ StopsShort env self := by
  rintro (⟨hthreshold, -⟩ | ⟨f, rest, -, (⟨hthreshold, -⟩ | ⟨hstate, -⟩), -⟩)
  · exact hthreshold h.threshold
  · exact hthreshold h.threshold
  · rw [h.state] at hstate
    cases hstate

theorem threshold_eq_none {threshold : Option (BitVec 32)} {actions : List Action}
    (h : thresholdFrom threshold actions = none) : threshold = none := by
  induction actions generalizing threshold with
  | nil => exact h
  | cons action actions ih =>
    rw [thresholdFrom_cons] at h
    have hnone := ih h
    unfold Action.applyThreshold at hnone
    split at hnone
    · cases hnone
    · exact hnone

theorem Setup.Moves.strict {protocol : ProtocolKind} {state next : State}
    (h : Setup.Moves protocol state next) (hnext : next.skipsUndecodable = false) :
    state.skipsUndecodable = false := by
  cases h with
  | status => rfl
  | login => rfl
  | join => rfl
  | configure => rfl
  | finish => cases hnext

namespace Setup

variable {S : Setup}

theorem strict_step {m : Machine} (h : S.Refines m) {input : Input}
    (hstrict : Strict (m.step S.env input).conn) : Strict m.conn := by
  have h' := refines_step h input
  constructor
  · obtain ⟨block, hblock, -⟩ := step_block h input
    have hnone : thresholdAfter (m.step S.env input).history = none :=
      h'.agrees.threshold.symm.trans hstrict.threshold
    rw [hblock, thresholdAfter_append] at hnone
    rw [h.agrees.threshold]
    exact threshold_eq_none hnone
  · have hstate : (m.step S.env input).state.skipsUndecodable = false := hstrict.state
    rcases step_moves h input with hsame | hmoves
    · rw [hsame] at hstate
      exact hstate
    · exact hmoves.strict hstate

theorem strict_pending (S : Setup) (fault : Nat → Option Fault) (inputs : List Input)
    (hstrict : Strict (S.run fault inputs).conn)
    (hwaiting : (S.run fault inputs).phase = .waiting) :
    Pending (S.run fault inputs).conn.buffer := by
  induction inputs using List.reverseRecOn with
  | nil => cases hwaiting
  | append_singleton inputs input ih =>
    rw [run_snoc] at hstrict hwaiting ⊢
    have hbefore := strict_step (refines_run S fault inputs) hstrict
    exact pending_step (ih hbefore) (fun _ _ => hbefore.not_stopsShort) hwaiting

end Setup

/-! ### In Configuration and Play -/

/-- A frame of a packet that neither version has, as it is for the threshold. -/
def junk : Option (BitVec 32) → Frame
  | none => .of [0x7f] (by decide)
  | some _ => .of [0, 0x7f] (by decide)

theorem junk_bytes (threshold : Option (BitVec 32)) :
    (junk threshold).bytes = if threshold = none then [1, 0x7f] else [2, 0, 0x7f] := by
  cases threshold <;> rfl

theorem junk_skips (env : Env) {self : Connection} (h : self.state.skipsUndecodable = true) :
    SkipsFrame env self (junk self.compressionThreshold).body := by
  have hbody : bodyBytes env.flate2 self.compressionThreshold
      (junk self.compressionThreshold).body = .ok (some [0x7f]) := by
    cases self.compressionThreshold with
    | none => rfl
    | some threshold => rfl
  have hdecode : ∀ protocol state, ∃ e,
      DecodedC2S.decode env.serde protocol state [0x7f] = .error e := by
    intro protocol state
    cases protocol <;> cases state <;> exact ⟨_, rfl⟩
  obtain ⟨e, he⟩ := hdecode self.protocol self.state
  exact .inr ⟨h, [0x7f], e, hbody, he⟩

/-- `n` reads of two such frames, after each of which the loop drains its buffer. -/
def hoard (f : Frame) : Nat → List Input
  | 0 => []
  | n + 1 => hoard f n ++ [.read (.ok (f.bytes ++ f.bytes)), .advance]

theorem streamOf_replicate (f : Frame) (n : Nat) :
    streamOf (List.replicate n f) ++ f.bytes = f.bytes ++ streamOf (List.replicate n f) := by
  have hreplicate : List.replicate n f ++ [f] = f :: List.replicate n f :=
    List.replicate_succ'.symm
  have hstream := congrArg streamOf hreplicate
  rw [streamOf_append] at hstream
  simpa [streamOf] using hstream

theorem length_streamOf_replicate (f : Frame) (n : Nat) :
    (streamOf (List.replicate n f)).length = n * f.bytes.length := by
  simp [streamOf]

section

variable {env : Env} {m : Machine} {f : Frame}

theorem read_bytes {bytes : Bytes} (hwaiting : m.phase = .waiting) (hne : bytes ≠ []) :
    (m.step env (.read (.ok bytes))).phase = .draining ∧
      (m.step env (.read (.ok bytes))).world =
        { m.world with conn := { m.conn with buffer := m.conn.buffer ++ bytes } } := by
  obtain ⟨b, later, rfl⟩ := List.exists_cons_of_ne_nil hne
  unfold Machine.step
  rw [hwaiting]
  exact ⟨rfl, rfl⟩

theorem advance_skips {rest : Bytes} (hdraining : m.phase = .draining)
    (hbuffer : m.conn.buffer = f.bytes ++ rest) (hskips : SkipsFrame env m.conn f.body) :
    (m.step env .advance).phase = .waiting ∧
      (m.step env .advance).world =
        { m.world with conn := { m.conn with buffer := rest } } := by
  have hstep : m.step env .advance = m.advance env := by
    unfold Machine.step
    rw [hdraining]
  rw [hstep, Machine.advance, tryParsePacket_skips hbuffer hskips]
  exact ⟨rfl, rfl⟩

/-- The connection waits behind `n` of the frames. -/
structure Hoards (env : Env) (f : Frame) (n : Nat) (m : Machine) : Prop where
  waiting : m.phase = .waiting
  buffer : m.conn.buffer = streamOf (List.replicate n f)
  skips : SkipsFrame env m.conn f.body

/-- A read of two skipped frames leaves one more behind, and does nothing else. -/
theorem Hoards.read {n : Nat} (h : Hoards env f n m) :
    Hoards env f (n + 1) (m.exec env [.read (.ok (f.bytes ++ f.bytes)), .advance]) ∧
      (m.exec env [.read (.ok (f.bytes ++ f.bytes)), .advance]).history = m.history := by
  obtain ⟨hdraining, hread⟩ := read_bytes h.waiting
    (List.append_ne_nil_of_left_ne_nil f.bytes_ne_nil f.bytes)
  have hbuffer : (m.step env (.read (.ok (f.bytes ++ f.bytes)))).conn.buffer =
      f.bytes ++ streamOf (List.replicate (n + 1) f) := by
    rw [Machine.conn, hread, h.buffer, ← List.append_assoc, streamOf_replicate, List.append_assoc,
      streamOf_replicate]
    rfl
  have hskips : SkipsFrame env (m.step env (.read (.ok (f.bytes ++ f.bytes)))).conn f.body := by
    rw [Machine.conn, hread]
    exact h.skips
  obtain ⟨hwaiting, hadvance⟩ := advance_skips hdraining hbuffer hskips
  rw [Machine.exec, List.foldl_cons, List.foldl_cons, List.foldl_nil]
  refine ⟨⟨hwaiting, ?_, ?_⟩, ?_⟩
  · rw [Machine.conn, hadvance]
  · rw [Machine.conn, hadvance]
    exact hskips
  · rw [Machine.history, hadvance, hread]

theorem Hoards.reads (h : Hoards env f 0 m) (n : Nat) :
    Hoards env f n (m.exec env (hoard f n)) ∧ (m.exec env (hoard f n)).history = m.history := by
  induction n with
  | zero => exact ⟨h, rfl⟩
  | succ n ih =>
    obtain ⟨hhoards, hhistory⟩ := ih
    obtain ⟨hmore, hsame⟩ := hhoards.read
    rw [hoard, Machine.exec_append]
    exact ⟨hmore, hsame.trans hhistory⟩

end

namespace Setup

/-- A connection that waits keeps the mere beginning of one frame, while it does not
compress and stands before Configuration and Play.  In these a client that begins with an
empty buffer makes it keep as many whole frames as it likes: each read of two frames of an
unknown packet adds one, and the server neither answers nor ends. -/
theorem run_backlog (S : Setup) (fault : Nat → Option Fault) (inputs : List Input)
    (hwaiting : (S.run fault inputs).phase = .waiting) :
    (Strict (S.run fault inputs).conn →
      Pending (S.run fault inputs).conn.buffer ∧
      (S.run fault inputs).conn.buffer.length < 5 + maxPacketSize) ∧
    ((S.run fault inputs).state.skipsUndecodable = true → (S.run fault inputs).conn.buffer = [] →
      let f := junk (S.run fault inputs).conn.compressionThreshold
      f.bytes = (if (S.run fault inputs).conn.compressionThreshold = none then [1, 0x7f]
        else [2, 0, 0x7f]) ∧
      ∀ n,
        (S.run fault (inputs ++ hoard f n)).phase = .waiting ∧
        (S.run fault (inputs ++ hoard f n)).conn.buffer = streamOf (List.replicate n f) ∧
        (S.run fault (inputs ++ hoard f n)).history = (S.run fault inputs).history) := by
  constructor
  · intro hstrict
    have hpending := strict_pending S fault inputs hstrict hwaiting
    exact ⟨hpending, hpending.length_lt⟩
  · intro hskips hempty f
    have hhoards : Hoards S.env f 0 (S.run fault inputs) :=
      { waiting := hwaiting, buffer := hempty, skips := junk_skips S.env hskips }
    refine ⟨junk_bytes _, fun n => ?_⟩
    obtain ⟨hmore, hhistory⟩ := hhoards.reads n
    rw [run_append]
    exact ⟨hmore.waiting, hmore.buffer, hhistory⟩

/-- A client that joins a 1.20.1 server, and then sends `01 7f 01 7f` a thousand times. -/
theorem joining_backlog :
    (bareRun .v1_20_1 false (joining ++ hoard (junk none) 1000)).conn.buffer.length = 2000 ∧
      (bareRun .v1_20_1 false (joining ++ hoard (junk none) 1000)).phase = .waiting := by
  have hwaiting : (bareRun .v1_20_1 false joining).phase = .waiting :=
    Phase.eq_waiting (by decide +kernel)
  have hplain : ((Setup.bare .v1_20_1 false).run (fun _ => none)
      joining).conn.compressionThreshold = none := by
    decide +kernel
  obtain ⟨hbytes, hhoards⟩ := (run_backlog (Setup.bare .v1_20_1 false) (fun _ => none) joining
    hwaiting).2 (by decide +kernel) (by decide +kernel)
  rw [hplain, if_pos rfl] at hbytes
  rw [hplain] at hhoards
  have hkept : ∀ n,
      (bareRun .v1_20_1 false (joining ++ hoard (junk none) n)).conn.buffer.length = n * 2 ∧
        (bareRun .v1_20_1 false (joining ++ hoard (junk none) n)).phase = .waiting := by
    intro n
    obtain ⟨hends, hbuffer, -⟩ := hhoards n
    have hlength : (streamOf (List.replicate n (junk none))).length = n * 2 := by
      rw [length_streamOf_replicate, hbytes]
      rfl
    exact ⟨(congrArg List.length hbuffer).trans hlength, hends⟩
  exact hkept 1000

end Setup

end Statik
