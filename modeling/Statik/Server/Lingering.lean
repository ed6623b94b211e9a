import Statik.Server.Draining
import Statik.Server.Phases
import Statik.Server.Status

/-!
# Staying in limbo

Whatever packets a client sends in Configuration and Play, known or not, the connection
goes on, as long as they come in frames and under the compression it was told of.
-/

namespace Statik

open Wire

/-- A call at a frame in a state that skips takes the frame, and returns a packet of the
version and state or none. -/
theorem tryParsePacket_lingers {env : Env} {self : Connection} {f : Frame} {rest data : Bytes}
    (hbuffer : self.buffer = f.bytes ++ rest) (hskips : self.state.skipsUndecodable = true)
    (hbody : bodyBytes env.flate2 self.compressionThreshold f.body = .ok (some data)) :
    ∃ r, tryParsePacket env self = (.ok r, { self with buffer := rest }) ∧
      ∀ packet, r = some packet →
        packet.protocol = self.protocol ∧ packet.state = self.state := by
  have hcall : tryParsePacket env self = parseFrame env self f.body rest :=
    tryParsePacket_frame hbuffer
  rw [parseFrame, hbody] at hcall
  simp only at hcall
  cases hdecode : DecodedC2S.decode env.serde self.protocol self.state data with
  | ok decoded =>
    rw [hdecode] at hcall
    refine ⟨_, hcall, ?_⟩
    rintro packet ⟨⟩
    exact tryParsePacket_packet (congrArg Prod.fst hcall)
  | error e =>
    rw [hdecode] at hcall
    simp only [hskips, if_true] at hcall
    exact ⟨none, hcall, fun packet hnone => by cases hnone⟩

theorem Machine.received_exec (env : Env) (m : Machine) (inputs : List Input) :
    m.received <+: (m.exec env inputs).received := by
  induction inputs using List.reverseRecOn with
  | nil => exact List.prefix_rfl
  | append_singleton inputs input ih =>
    rw [Machine.exec_append]
    exact ih.trans (Machine.received_step env _ input)

namespace Setup

/-- No packet is refused in Configuration and Play, none leads back from there, and none
changes the threshold. -/
theorem script_lingers (S : Setup) {state : State} {packet : DecodedC2S}
    (hskips : state.skipsUndecodable = true) (hstate : packet.state = state) :
    ∃ effects, S.script state packet = .run effects ∧
      (stateFrom state (effects.map .did)).skipsUndecodable = true ∧
      ∀ threshold, thresholdFrom threshold (effects.map .did) = threshold := by
  cases state with
  | play => exact ⟨[], rfl, rfl, fun _ => rfl⟩
  | configuration =>
    cases packet with
    | v1_20_1 p =>
      obtain ⟨v, x⟩ := p
      cases v <;> cases hstate
    | v1_21_1 p =>
      obtain ⟨v, x⟩ := p
      cases v with
      | finishConfigurationAck =>
        refine ⟨_, rfl, ?_, fun threshold => thresholdFrom_entering threshold .play _⟩
        rw [stateFrom_entering]
        rfl
      | _ => exact ⟨[], rfl, rfl, fun _ => rfl⟩
  | _ => cases hskips

/-- Why a connection ends at an input although its client keeps to the framing: the stream
ends or breaks, or a packet was not written. -/
inductive Excused : Input → Machine → Error → Prop
  | closed (m : Machine) : Excused (.read (.ok [])) m (.io .unexpectedEof)
  | broken (m : Machine) (kind : ErrorKind) : Excused (.read (.error kind)) m (.io kind)
  | unwritten {m : Machine} {packet : S2CPacket} (input : Input) (e : Error)
      (h : .failed packet ∈ m.history) : Excused input m e

/-- Of the frames that a connection has been sent since it was `m₀`, it has taken the first
and the buffer holds the beginning of the others. -/
def Leaves (m₀ : Machine) (frames : List Frame) (received buffer : Bytes) : Prop :=
  ∃ before after more, frames = before ++ after ∧ received = m₀.received ++ more ∧
    streamOf before ++ buffer = m₀.conn.buffer ++ more ∧ buffer <+: streamOf after

/-- The connection stays behind `m₀` in the stream of the frames. -/
structure Lingers (m₀ : Machine) (frames : List Frame) (m : Machine) : Prop where
  state : m.state.skipsUndecodable = true
  threshold : m.conn.compressionThreshold = m₀.conn.compressionThreshold
  leaves : Leaves m₀ frames m.received m.conn.buffer

theorem Leaves.cases {m₀ : Machine} {frames : List Frame} {received buffer : Bytes}
    (h : Leaves m₀ frames received buffer) :
    Pending buffer ∨ ∃ f ∈ frames, ∃ rest, buffer = f.bytes ++ rest ∧
      Leaves m₀ frames received rest := by
  obtain ⟨before, after, more, hframes, hreceived, hbytes, hprefix⟩ := h
  rcases pending_or_frame hprefix with hpending | ⟨f, later, rest, hafter, hbuffer, hrest⟩
  · exact .inl hpending
  · rw [hafter] at hframes
    refine .inr ⟨f, ?_, rest, hbuffer, before ++ [f], later, more, ?_, hreceived, ?_, hrest⟩
    · rw [hframes]
      exact List.mem_append_right _ List.mem_cons_self
    · rw [hframes, List.append_assoc, List.singleton_append]
    · rw [← hbytes, hbuffer, streamOf_append, List.append_assoc]
      exact congrArg (streamOf before ++ ·) (congrArg (· ++ rest) (List.append_nil f.bytes))

namespace Lingers

variable {env : Env} {m₀ m : Machine} {frames : List Frame}

/-- A packet that is handed to the handlers, with a frame taken off the buffer. -/
theorem dispatch {m' : Machine} {rest : Bytes} {packet : DecodedC2S} (h : Lingers m₀ frames m)
    (hleaves : Leaves m₀ frames m.received rest)
    (hstate : packet.state = m.state) (hreceived : m'.received = m.received)
    (hresult : (m'.world, m'.phase) =
      settle .draining (dispatchPacket env packet (m.world.withBuffer rest))) :
    (m'.Live → Lingers m₀ frames m') ∧ ∀ e, m'.phase = .ended e → Excused .advance m' e := by
  obtain ⟨effects, hscript, hskips, hthreshold⟩ :=
    script_lingers ((m.world.withBuffer rest).conn.setup env) h.state hstate
  rcases dispatchPacket_cases env packet (m.world.withBuffer rest) with
    ⟨effects', w', hscript', hok, hafter⟩ |
    ⟨before, failing, after, e, w', -, herr, hafter, -⟩ | ⟨e, w', hrefused, -, -⟩
  · -- the whole script is performed
    cases hscript.symm.trans hscript'
    rw [hok] at hresult
    obtain ⟨hworld, hphase⟩ := Prod.mk.inj hresult
    have hconn : m'.conn = _ := (congrArg World.conn hworld).trans hafter.conn
    refine ⟨fun _ => { state := ?_, threshold := ?_, leaves := ?_ }, fun e he => ?_⟩
    · rw [Machine.state, ← Machine.conn, hconn]
      exact hskips
    · rw [hconn]
      exact (hthreshold _).trans h.threshold
    · rw [hreceived, hconn]
      exact hleaves
    · rw [hphase] at he
      cases he
  · -- a write fails
    rw [herr] at hresult
    obtain ⟨hworld, hphase⟩ := Prod.mk.inj hresult
    have hfailed : .failed failing ∈ m'.history := by
      rw [Machine.history, hworld, hafter.history]
      simp
    exact ⟨fun hlive => absurd hphase (hlive e), fun e' _ => .unwritten _ e' hfailed⟩
  · rcases hrefused with ⟨hrefused, -⟩ | hrefused <;> cases hscript.symm.trans hrefused

theorem of_world {m' : Machine} {buffer : Bytes} (h : Lingers m₀ frames m)
    (hworld : m'.world = m.world.withBuffer buffer) (hreceived : m'.received = m.received)
    (hleaves : Leaves m₀ frames m.received buffer) : Lingers m₀ frames m' := by
  refine { state := ?_, threshold := ?_, leaves := ?_ }
  · rw [Machine.state, hworld]
    exact h.state
  · rw [Machine.conn, hworld]
    exact h.threshold
  · rw [hreceived, Machine.conn, hworld]
    exact hleaves

theorem advance (h : Lingers m₀ frames m)
    (hreads : ∀ f ∈ frames, ∃ data,
      bodyBytes env.flate2 m₀.conn.compressionThreshold f.body = .ok (some data)) :
    ((m.advance env).Live → Lingers m₀ frames (m.advance env)) ∧
      ∀ e, (m.advance env).phase = .ended e → Excused .advance (m.advance env) e := by
  have hreceived := Machine.advance_received env m
  have hwaits : ∀ buffer, (m.advance env).phase = .waiting →
      (m.advance env).world = m.world.withBuffer buffer →
      Leaves m₀ frames m.received buffer →
      ((m.advance env).Live → Lingers m₀ frames (m.advance env)) ∧
        ∀ e, (m.advance env).phase = .ended e → Excused .advance (m.advance env) e := by
    intro buffer hphase hworld hleaves
    refine ⟨fun _ => h.of_world hworld hreceived hleaves, fun e he => ?_⟩
    rw [hphase] at he
    cases he
  rcases h.leaves.cases with hpending | ⟨f, hf, rest, hbuffer, hleaves⟩
  · -- the buffer holds the beginning of a frame
    have hadvance : (m.advance env).phase = .waiting ∧
        (m.advance env).world = m.world.withBuffer m.conn.buffer := by
      rw [Machine.advance, tryParsePacket_pending hpending]
      exact ⟨rfl, rfl⟩
    exact hwaits _ hadvance.1 hadvance.2 h.leaves
  · obtain ⟨data, hdata⟩ := hreads f hf
    rw [← h.threshold] at hdata
    obtain ⟨r, hcall, hpacket⟩ := tryParsePacket_lingers hbuffer h.state hdata
    cases r with
    | none =>
      have hadvance : (m.advance env).phase = .waiting ∧
          (m.advance env).world = m.world.withBuffer rest := by
        rw [Machine.advance, hcall]
        exact ⟨rfl, rfl⟩
      exact hwaits _ hadvance.1 hadvance.2 hleaves
    | some packet =>
      have hresult : ((m.advance env).world, (m.advance env).phase) =
          settle .draining (dispatchPacket env packet (m.world.withBuffer rest)) := by
        rw [Machine.advance, hcall]
        rfl
      exact h.dispatch hleaves (hpacket packet rfl).2 hreceived hresult

theorem tick (h : Lingers m₀ frames m) (hlive : m.Live) :
    ((m.tick env).Live → Lingers m₀ frames (m.tick env)) ∧
      ∀ e, (m.tick env).phase = .ended e → Excused .tick (m.tick env) e := by
  rw [Machine.tick]
  by_cases hplay : m.state = .play
  · rw [if_pos hplay]
    rcases perform_cases env (.send (keepAlive m.conn.protocol m.nextKeepaliveId)) m.world with
      ⟨w', hok, hafter⟩ | ⟨packet, e, w', -, herr, hafter, -⟩
    · rw [show writePacket env _ m.world = _ from hok]
      refine ⟨fun _ => { state := ?_, threshold := ?_, leaves := ?_ }, fun e he => by cases he⟩
      · show w'.conn.state.skipsUndecodable = true
        rw [hafter.conn]
        exact h.state
      · show w'.conn.compressionThreshold = _
        rw [hafter.conn]
        exact h.threshold
      · show Leaves m₀ frames m.received w'.conn.buffer
        rw [hafter.conn]
        exact h.leaves
    · rw [show writePacket env _ m.world = _ from herr]
      have hfailed : .failed packet ∈ w'.history := by
        rw [hafter.history]
        simp
      exact ⟨fun hlive => absurd rfl (hlive e), fun e' _ => .unwritten _ e' hfailed⟩
  · rw [if_neg hplay]
    exact ⟨fun _ => h, fun e he => absurd he (hlive e)⟩

theorem read (h : Lingers m₀ frames m) (result : Except ErrorKind Bytes)
    (hstream : ∃ more, (m.read result).received = m₀.received ++ more ∧
      m₀.conn.buffer ++ more <+: streamOf frames) :
    ((m.read result).Live → Lingers m₀ frames (m.read result)) ∧
      ∀ e, (m.read result).phase = .ended e → Excused (.read result) (m.read result) e := by
  cases result with
  | error kind =>
    refine ⟨fun hlive => absurd rfl (hlive _), fun e he => ?_⟩
    cases he
    exact .broken _ kind
  | ok bytes =>
    cases bytes with
    | nil =>
      refine ⟨fun hlive => absurd rfl (hlive _), fun e he => ?_⟩
      cases he
      exact .closed _
    | cons b bytes =>
      refine ⟨fun _ => { state := h.state, threshold := h.threshold, leaves := ?_ },
        fun e he => by cases he⟩
      obtain ⟨before, after, more, hframes, hreceived, hbytes, -⟩ := h.leaves
      obtain ⟨more', hreceived', hprefix⟩ := hstream
      have hmore : more' = more ++ b :: bytes := by
        have hall : m.received ++ b :: bytes = m₀.received ++ more' := hreceived'
        rw [hreceived, List.append_assoc] at hall
        exact (List.append_cancel_left hall).symm
      subst hmore
      have hbehind : streamOf before ++ (m.conn.buffer ++ b :: bytes) =
          m₀.conn.buffer ++ (more ++ b :: bytes) := by
        rw [← List.append_assoc, hbytes, List.append_assoc]
      refine ⟨before, after, _, hframes, hreceived', hbehind, ?_⟩
      rw [← hbehind, hframes, streamOf_append] at hprefix
      exact (List.prefix_append_right_inj _).mp hprefix

theorem step (h : Lingers m₀ frames m) (hlive : m.Live)
    (hreads : ∀ f ∈ frames, ∃ data,
      bodyBytes env.flate2 m₀.conn.compressionThreshold f.body = .ok (some data))
    (input : Input) (hstream : ∃ more, (m.step env input).received = m₀.received ++ more ∧
      m₀.conn.buffer ++ more <+: streamOf frames) :
    ((m.step env input).Live → Lingers m₀ frames (m.step env input)) ∧
      ∀ e, (m.step env input).phase = .ended e → Excused input (m.step env input) e := by
  unfold Machine.step at hstream ⊢
  split at hstream
  case h_1 => exact h.advance hreads
  case h_2 result _ => exact h.read result hstream
  case h_3 => exact h.tick hlive
  case h_4 => exact ⟨fun _ => h, fun e he => absurd he (hlive e)⟩

end Lingers

/-- A connection that has come to Configuration or Play ends for no packet.  While what it
is sent are frames that it can open, it ends only if its stream does, or with a packet that
it cannot write. -/
theorem run_lingers (S : Setup) (fault : Nat → Option Fault) (inputs later : List Input)
    (hlive : (S.run fault inputs).Live)
    (hskips : (S.run fault inputs).state.skipsUndecodable = true) (frames : List Frame)
    (hreads : ∀ f ∈ frames, ∃ data, bodyBytes S.env.flate2
      (S.run fault inputs).conn.compressionThreshold f.body = .ok (some data))
    (hstream : ∃ more, (S.run fault (inputs ++ later)).received =
        (S.run fault inputs).received ++ more ∧
      (S.run fault inputs).conn.buffer ++ more <+: streamOf frames) :
    ((S.run fault (inputs ++ later)).Live →
      Lingers (S.run fault inputs) frames (S.run fault (inputs ++ later))) ∧
    ∀ e, (S.run fault (inputs ++ later)).phase = .ended e →
      ∃ input ∈ later, Excused input (S.run fault (inputs ++ later)) e := by
  induction later using List.reverseRecOn with
  | nil =>
    rw [List.append_nil] at hstream ⊢
    obtain ⟨more, hreceived, hprefix⟩ := hstream
    have hnone : more = [] := List.self_eq_append_right.mp hreceived
    rw [hnone, List.append_nil] at hprefix
    refine ⟨fun _ => { state := hskips, threshold := rfl, leaves := ?_ }, fun e he =>
      absurd he (hlive e)⟩
    exact ⟨[], frames, [], rfl, (List.append_nil _).symm, (List.append_nil _).symm, hprefix⟩
  | append_singleton later input ih =>
    rw [← List.append_assoc, run_snoc] at hstream ⊢
    have hbefore : ∃ more, (S.run fault (inputs ++ later)).received =
        (S.run fault inputs).received ++ more ∧
        (S.run fault inputs).conn.buffer ++ more <+: streamOf frames := by
      obtain ⟨more, hreceived, hprefix⟩ := hstream
      obtain ⟨first, hfirst⟩ := Machine.received_exec S.env (S.run fault inputs) later
      obtain ⟨next, hnext⟩ := Machine.received_step S.env (S.run fault (inputs ++ later)) input
      rw [← run_append] at hfirst
      have hmore : more = first ++ next := by
        rw [hreceived, ← hfirst, List.append_assoc] at hnext
        exact (List.append_cancel_left hnext).symm
      rw [hmore, ← List.append_assoc] at hprefix
      exact ⟨first, hfirst.symm, (List.prefix_append _ next).trans hprefix⟩
    obtain ⟨hlingers, hended⟩ := ih hbefore
    by_cases hlive' : (S.run fault (inputs ++ later)).Live
    · obtain ⟨hmore, hends⟩ := (hlingers hlive').step hlive' hreads input hstream
      exact ⟨hmore, fun e he => ⟨input, List.mem_append_right _ List.mem_cons_self, hends e he⟩⟩
    · -- the loop has returned before
      have hidle : (S.run fault (inputs ++ later)).step S.env input =
          S.run fault (inputs ++ later) := by
        obtain ⟨e, he⟩ : ∃ e, (S.run fault (inputs ++ later)).phase = .ended e := by
          by_contra hnone
          exact hlive' fun e he => hnone ⟨e, he⟩
        unfold Machine.step
        rw [he]
      rw [hidle]
      refine ⟨fun h => absurd h hlive', fun e he => ?_⟩
      obtain ⟨input', hmem, hexcused⟩ := hended e he
      exact ⟨input', List.mem_append_left _ hmem, hexcused⟩

/-- The frame of an unknown packet. -/
def unknownFrame : List Input := [.read (.ok [1, 0x7f]), .advance]

theorem unknownFrame_lingers : ∃ input ∈ unknownFrame ++ [.read (.ok [])],
    Excused input (bareRun .v1_20_1 false (joining ++ (unknownFrame ++ [.read (.ok [])])))
      (.io .unexpectedEof) := by
  have hjoined : ((Setup.bare .v1_20_1 false).run (fun _ => none) joining).phase.isWaiting = true ∧
      ((Setup.bare .v1_20_1 false).run (fun _ => none) joining).conn.buffer = [] ∧
      ((Setup.bare .v1_20_1 false).run (fun _ => none) joining).conn.compressionThreshold =
        none := by
    decide +kernel
  obtain ⟨hwaiting, hempty, hthreshold⟩ := hjoined
  have hlive : ((Setup.bare .v1_20_1 false).run (fun _ => none) joining).Live := by
    intro e he
    rw [he] at hwaiting
    cases hwaiting
  have hreads : ∀ f ∈ [Frame.of [0x7f] (by decide)], ∃ data,
      bodyBytes (Setup.bare .v1_20_1 false).env.flate2 none f.body = .ok (some data) := by
    intro f hf
    rw [List.mem_singleton.mp hf]
    exact ⟨_, rfl⟩
  rw [← hthreshold] at hreads
  have hstream : ((Setup.bare .v1_20_1 false).run (fun _ => none) joining).conn.buffer ++
      [1, 0x7f] <+: streamOf [Frame.of [0x7f] (by decide)] := by
    rw [hempty]
    exact List.prefix_rfl
  obtain ⟨-, hends⟩ := run_lingers (Setup.bare .v1_20_1 false) (fun _ => none) joining
    (unknownFrame ++ [.read (.ok [])]) hlive (by decide +kernel) [Frame.of [0x7f] (by decide)]
    hreads ⟨[1, 0x7f], by decide +kernel, hstream⟩
  refine hends _ ?_
  have hskipped : (bareRun .v1_20_1 false (joining ++ unknownFrame)).phase = .waiting :=
    Phase.eq_waiting (by decide +kernel)
  rw [← List.append_assoc, run_snoc]
  unfold Machine.step
  rw [hskipped]
  rfl

end Setup

end Statik
