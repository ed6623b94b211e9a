import Statik.Server.Phases
import Statik.Server.Stability
import Statik.Wire.Splitter

/-!
# Replaying a stream

What a connection does with the bytes of its peer is decided by the stream alone: the
reads that cut it up, the keepalive timer and writes that fail only decide how far the
connection gets.  `replay` is the stream read by frames, each frame with the packet in it
and what the script says of that.
-/

namespace Statik

open Wire

/-! ### What packets lead to -/

/-- The keepalive of Play. -/
def S2CPacket.isKeepAlive : S2CPacket → Bool
  | .v1_20_1 ⟨.keepAlive, _⟩ => true
  | .v1_21_1 ⟨.keepAlive, _⟩ => true
  | _ => false

/-- An action that was performed, and not by the keepalive timer. -/
def Action.driven : Action → Bool
  | .did (.send packet) => !packet.isKeepAlive
  | .failed _ => false
  | _ => true

/-- What the packets of the peer led to. -/
def driven (history : List Action) : List Action := history.filter Action.driven

theorem driven_append (history later : List Action) :
    driven (history ++ later) = driven history ++ driven later := List.filter_append ..

theorem driven_keepAlive (protocol : ProtocolKind) (id : BitVec 64) :
    driven [.did (.send (keepAlive protocol id))] = [] := by
  cases protocol <;> rfl

theorem driven_failed (packet : S2CPacket) : driven [.failed packet] = [] := rfl

/-- Effects without a keepalive among them. -/
def Undisturbed (effects : List Effect) : Prop :=
  ∀ packet, Effect.send packet ∈ effects → packet.isKeepAlive = false

theorem driven_did {effects : List Effect} (h : Undisturbed effects) :
    driven (effects.map .did) = effects.map .did := by
  refine List.filter_eq_self.mpr fun action haction => ?_
  obtain ⟨effect, heffect, rfl⟩ := List.mem_map.mp haction
  cases effect with
  | send packet =>
    show (!packet.isKeepAlive) = true
    rw [h packet heffect]
    rfl
  | enter state => rfl
  | compress threshold => rfl

namespace Undisturbed

theorem append {effects later : List Effect} (h : Undisturbed effects)
    (hlater : Undisturbed later) : Undisturbed (effects ++ later) := by
  intro packet hpacket
  rcases List.mem_append.mp hpacket with hp | hp
  · exact h packet hp
  · exact hlater packet hp

theorem of_append {effects later : List Effect} (h : Undisturbed (effects ++ later)) :
    Undisturbed effects := fun packet hpacket => h packet (List.mem_append_left later hpacket)

theorem entering {state : State} {packets : List S2CPacket}
    (h : ∀ q ∈ packets, q.isKeepAlive = false) : Undisturbed (Setup.entering state packets) := by
  intro packet hpacket
  rw [Setup.entering, List.mem_cons] at hpacket
  rcases hpacket with hp | hp
  · cases hp
  · obtain ⟨q, hq, heq⟩ := List.mem_map.mp hp
    rw [← Effect.send.inj heq]
    exact h q hq

theorem acceptance (S : Setup) (name : String) (protocol : ProtocolKind) :
    Undisturbed (S.acceptance name protocol) := by
  intro packet hpacket
  rw [Setup.acceptance] at hpacket
  by_cases hcompression : S.config.compression.enabled = true
  · rw [if_pos hcompression] at hpacket
    simp only [List.mem_cons, List.not_mem_nil, or_false, reduceCtorEq, false_or,
      Effect.send.injEq] at hpacket
    rcases hpacket with rfl | rfl <;> cases protocol <;> rfl
  · rw [if_neg hcompression, List.mem_singleton] at hpacket
    rw [Effect.send.inj hpacket]
    cases protocol <;> rfl

end Undisturbed

/-- A packet of another state than Play is no keepalive. -/
theorem isKeepAlive_of_state {packet : S2CPacket} (h : packet.state ≠ .play) :
    packet.isKeepAlive = false := by
  cases packet with
  | v1_20_1 p =>
    obtain ⟨v, x⟩ := p
    cases v with
    | keepAlive => exact absurd rfl h
    | _ => rfl
  | v1_21_1 p =>
    obtain ⟨v, x⟩ := p
    cases v with
    | keepAlive => exact absurd rfl h
    | _ => rfl

theorem configurationBurst_noKeepAlive (env : Env) :
    ∀ q ∈ configurationBurst env, q.isKeepAlive = false := by
  intro q hq
  refine isKeepAlive_of_state ?_
  rw [(Setup.configurationBurst_inPhase env q hq).2]
  decide

theorem playBurst_noKeepAlive (env : Env) (config : ServerConfig) (protocol : ProtocolKind) :
    ∀ q ∈ playBurst env config protocol, q.isKeepAlive = false := by
  intro q hq
  cases protocol with
  | v1_20_1 =>
    simp only [playBurst, List.mem_cons, List.not_mem_nil, or_false] at hq
    rcases hq with rfl | rfl | rfl | rfl | rfl | rfl | rfl | rfl <;> rfl
  | v1_21_1 =>
    simp only [playBurst, List.mem_cons, List.not_mem_nil, or_false] at hq
    rcases hq with rfl | rfl | rfl | rfl | rfl | rfl | rfl | rfl | rfl | rfl <;> rfl

namespace Setup

variable {S : Setup}

/-- Scripts leave the keepalives to the timer. -/
theorem Scripted.undisturbed {state : State} {packet : DecodedC2S} {effects : List Effect}
    (h : Scripted S state packet effects) : Undisturbed effects := by
  cases h with
  | handshake hstate =>
    intro q hq
    cases List.mem_singleton.mp hq
  | @reply _ answer hprotocol hstate =>
    intro q hq
    rw [Effect.send.inj (List.mem_singleton.mp hq)]
    refine isKeepAlive_of_state ?_
    rw [hstate]
    decide
  | rejected hname hinvalid =>
    intro q hq
    rw [Effect.send.inj (List.mem_singleton.mp hq)]
    cases S.protocol <;> rfl
  | joined hprotocol hname hvalid =>
    exact (Undisturbed.acceptance S _ _).append (.entering (playBurst_noKeepAlive _ _ _))
  | accepted hprotocol hname hvalid => exact Undisturbed.acceptance S _ _
  | acknowledged hprotocol hack => exact .entering (configurationBurst_noKeepAlive _)
  | finished hprotocol => exact .entering (playBurst_noKeepAlive _ _ _)
  | ignored hstate =>
    intro q hq
    exact absurd hq List.not_mem_nil

end Setup

/-! ### The stream, frame by frame -/

/-- What becomes of the next frame depends on. -/
structure Progress where
  state : State
  threshold : Option (BitVec 32)
  refused : Bool

namespace Setup

variable (S : Setup)

/-- A connection that has come so far, with the bytes in its buffer. -/
def connection (p : Progress) (buffer : Bytes) : Connection :=
  { config := S.config, protocol := S.protocol, address := S.address, buffer := buffer,
    state := p.state, compressionThreshold := p.threshold }

@[simp] theorem connection_protocol (p : Progress) (buffer : Bytes) :
    (S.connection p buffer).protocol = S.protocol := rfl

@[simp] theorem connection_state (p : Progress) (buffer : Bytes) :
    (S.connection p buffer).state = p.state := rfl

@[simp] theorem connection_threshold (p : Progress) (buffer : Bytes) :
    (S.connection p buffer).compressionThreshold = p.threshold := rfl

/-- What a packet leads to, and how far. -/
def block (p : Progress) (packet : DecodedC2S) : List Action × Progress :=
  match S.script p.state packet with
  | .run effects =>
    (.received packet :: effects.map .did,
      { state := stateFrom p.state (effects.map .did),
        threshold := thresholdFrom p.threshold (effects.map .did), refused := false })
  | _ => ([.received packet], { p with refused := true })

/-- The frame at the front of the bytes, as what its packet leads to: nothing, where the
frame is skipped. -/
def takeBlock (p : Progress) (b : Bytes) : Option (List Action × Progress × Bytes) :=
  if p.refused then none
  else
    match tryParsePacket S.env (S.connection p b) with
    | (.ok (some packet), conn) => some ((S.block p packet).1, (S.block p packet).2, conn.buffer)
    | (.ok none, conn) => if conn.buffer.length < b.length then some ([], p, conn.buffer) else none
    | (.error _, _) => none

variable {S} {p : Progress} {b : Bytes}

theorem takeBlock_frame (hrefused : p.refused = false) (f : Frame) (rest : Bytes) :
    S.takeBlock p (f.bytes ++ rest) =
      match parseFrame S.env (S.connection p (f.bytes ++ rest)) f.body rest with
      | (.ok (some packet), conn) => some ((S.block p packet).1, (S.block p packet).2, conn.buffer)
      | (.ok none, conn) => some ([], p, conn.buffer)
      | (.error _, _) => none := by
  have hparse : tryParsePacket S.env (S.connection p (f.bytes ++ rest)) = _ :=
    tryParsePacket_frame rfl
  have hlt := parseFrame_length_lt S.env (S.connection p (f.bytes ++ rest)) f rest
  rw [takeBlock, hrefused, hparse]
  cases hcall : parseFrame S.env (S.connection p (f.bytes ++ rest)) f.body rest with
  | mk r conn =>
    rw [hcall] at hlt
    cases r with
    | error e => rfl
    | ok r =>
      cases r with
      | none => exact if_pos hlt
      | some packet => rfl

theorem takeBlock_pending (h : Pending b) : S.takeBlock p b = none := by
  have hparse : tryParsePacket S.env (S.connection p b) = (.ok none, S.connection p b) :=
    tryParsePacket_pending h
  rw [takeBlock, hparse]
  split
  · rfl
  · exact if_neg (Nat.lt_irrefl _)

/-- A block is taken off the bytes of one frame, unless a packet was refused before. -/
theorem takeBlock_eq_some {r : List Action × Progress × Bytes} (h : S.takeBlock p b = some r) :
    p.refused = false ∧ ∃ (f : Frame) (rest : Bytes), b = f.bytes ++ rest := by
  have hrefused : p.refused = false := by
    by_contra hne
    rw [takeBlock, if_pos (Bool.not_eq_false _ ▸ hne)] at h
    cases h
  refine ⟨hrefused, ?_⟩
  rcases tryParsePacket_cases S.env (S.connection p b) with ⟨hp, -⟩ | ⟨e, -, hparse⟩ |
    ⟨f, rest, hb, -⟩
  · rw [takeBlock_pending (b := b) hp] at h
    cases h
  · rw [takeBlock, hrefused, hparse] at h
    cases h
  · exact ⟨f, rest, hb⟩

theorem takeBlock_shrinks {a : List Action} {p' : Progress} {rest : Bytes}
    (h : S.takeBlock p b = some (a, p', rest)) : rest.length < b.length := by
  obtain ⟨hrefused, f, rest', rfl⟩ := takeBlock_eq_some h
  have hlt := parseFrame_length_lt S.env (S.connection p (f.bytes ++ rest')) f rest'
  rw [takeBlock_frame hrefused] at h
  cases hcall : parseFrame S.env (S.connection p (f.bytes ++ rest')) f.body rest' with
  | mk r conn =>
    rw [hcall] at h hlt
    cases r with
    | error e => cases h
    | ok r =>
      cases r with
      | none =>
        cases h
        exact hlt
      | some packet =>
        cases h
        exact hlt

/-- What comes behind a frame does not change what it is parsed to. -/
theorem parseFrame_connection (p : Progress) (f : Frame) (rest more : Bytes) :
    parseFrame S.env (S.connection p (f.bytes ++ (rest ++ more))) f.body (rest ++ more) =
      ((parseFrame S.env (S.connection p (f.bytes ++ rest)) f.body rest).1,
        (parseFrame S.env (S.connection p (f.bytes ++ rest)) f.body rest).2.append more) := by
  have hconn : (S.connection p (f.bytes ++ rest)).append more =
      S.connection p (f.bytes ++ (rest ++ more)) := by
    rw [Connection.append, connection, connection, List.append_assoc]
  rw [← hconn]
  exact parseFrame_append S.env (S.connection p (f.bytes ++ rest)) f.body rest more

theorem takeBlock_stable {a : List Action} {p' : Progress} {rest : Bytes} (more : Bytes)
    (h : S.takeBlock p b = some (a, p', rest)) :
    S.takeBlock p (b ++ more) = some (a, p', rest ++ more) := by
  obtain ⟨hrefused, f, rest', rfl⟩ := takeBlock_eq_some h
  rw [takeBlock_frame hrefused] at h
  rw [List.append_assoc, takeBlock_frame hrefused, parseFrame_connection]
  cases hcall : parseFrame S.env (S.connection p (f.bytes ++ rest')) f.body rest' with
  | mk r conn =>
    rw [hcall] at h
    cases r with
    | error e => cases h
    | ok r =>
      cases r with
      | none =>
        cases h
        rfl
      | some packet =>
        cases h
        rfl

end Setup

/-- Takes a stream apart into what its frames lead to. -/
def Setup.replayer (S : Setup) : Splitter Progress (List Action) Byte :=
  { take := S.takeBlock,
    shrinks := Setup.takeBlock_shrinks,
    stable := Setup.takeBlock_stable }

def Progress.start : Progress := { state := .handshake, threshold := none, refused := false }

theorem Setup.replayer_take (S : Setup) (p : Progress) (b : Bytes) :
    S.replayer.take p b = S.takeBlock p b := rfl

theorem Setup.drain_pending (S : Setup) (p : Progress) {b : Bytes} (h : Pending b) :
    S.replayer.drain p b = { items := [], state := p, pending := b } := by
  refine Splitter.drain_none ?_
  rw [replayer_take]
  exact takeBlock_pending h

/-- What a connection that gets the stream does in answer to it, in order. -/
def Setup.replay (S : Setup) (stream : Bytes) : List Action :=
  (S.replayer.drain .start stream).items.flatten

/-- A longer stream leads to the same, and then to more. -/
theorem Setup.replay_prefix (S : Setup) {stream longer : Bytes} (h : stream <+: longer) :
    S.replay stream <+: S.replay longer := by
  obtain ⟨more, rfl⟩ := h
  rw [replay, replay, Splitter.drain_append, Splitter.feed, Received.prepend, List.flatten_append]
  exact List.prefix_append _ _

/-! ### Connections replay their streams -/

/-- How far a connection has come. -/
def Connection.progress (self : Connection) : Progress :=
  { state := self.state, threshold := self.compressionThreshold, refused := false }

namespace Setup

variable {S : Setup} {conn : Connection}

theorem connection_progress (h : conn.setup S.env = S) :
    S.connection conn.progress conn.buffer = conn := by
  rw [← h]
  rfl

theorem take_failed (h : conn.setup S.env = S) {conn' : Connection} {e : Error}
    (hparse : tryParsePacket S.env conn = (.error e, conn')) :
    S.replayer.take conn.progress conn.buffer = none := by
  rw [replayer_take, takeBlock, connection_progress h, hparse]
  rfl

theorem take_skipped (h : conn.setup S.env = S) {conn' : Connection}
    (hparse : tryParsePacket S.env conn = (.ok none, conn'))
    (hlt : conn'.buffer.length < conn.buffer.length) :
    S.replayer.take conn.progress conn.buffer = some ([], conn.progress, conn'.buffer) := by
  rw [replayer_take, takeBlock, connection_progress h, hparse]
  exact if_pos hlt

theorem take_packet (h : conn.setup S.env = S) {conn' : Connection} {packet : DecodedC2S}
    (hparse : tryParsePacket S.env conn = (.ok (some packet), conn')) :
    S.replayer.take conn.progress conn.buffer =
      some ((S.block conn.progress packet).1, (S.block conn.progress packet).2, conn'.buffer) := by
  rw [replayer_take, takeBlock, connection_progress h, hparse]
  rfl

theorem block_run {p : Progress} {packet : DecodedC2S} {effects : List Effect}
    (h : S.script p.state packet = .run effects) :
    S.block p packet =
      (.received packet :: effects.map .did,
        { state := stateFrom p.state (effects.map .did),
          threshold := thresholdFrom p.threshold (effects.map .did), refused := false }) := by
  rw [block, h]

theorem block_refused {p : Progress} {packet : DecodedC2S}
    (h : ∀ effects, S.script p.state packet ≠ .run effects) :
    S.block p packet = ([.received packet], { p with refused := true }) := by
  rw [block]
  split
  · next effects hscript => exact absurd hscript (h effects)
  · rfl

end Setup

/-- What a connection has done in answer to packets is the beginning of what its stream
leads to, and its buffer holds the rest.  It only waits with a whole frame in its buffer
where it has skipped one. -/
structure Replays (S : Setup) (m : Machine) : Prop where
  done : driven m.history <+: S.replay m.received
  live : m.Live → ∃ blocks, driven m.history = blocks.flatten ∧
    S.replayer.drain .start m.received =
      (S.replayer.drain m.conn.progress m.conn.buffer).prepend blocks ∧
    (m.phase = .waiting → Pending m.conn.buffer ∨ [] ∈ blocks)

namespace Replays

variable {S : Setup} {m : Machine}

theorem start (S : Setup) (fault : Nat → Option Fault) :
    Replays S (.start S.config S.protocol S.address fault) :=
  { done := List.nil_prefix, live := fun _ => ⟨[], rfl, rfl, fun h => nomatch h⟩ }

/-- What is done in a live connection is the beginning of what is to be done. -/
theorem of_live {m' : Machine}
    (h : ∃ blocks, driven m'.history = blocks.flatten ∧
      S.replayer.drain .start m'.received =
        (S.replayer.drain m'.conn.progress m'.conn.buffer).prepend blocks ∧
      (m'.phase = .waiting → Pending m'.conn.buffer ∨ [] ∈ blocks)) : Replays S m' := by
  obtain ⟨blocks, hblocks, hdrain, hwaiting⟩ := h
  refine { done := ?_, live := fun _ => ⟨blocks, hblocks, hdrain, hwaiting⟩ }
  rw [hblocks, Setup.replay, hdrain, Received.prepend, List.flatten_append]
  exact List.prefix_append _ _

/-- A connection that ends has done no more than it was to do. -/
theorem of_ended {m' : Machine} {e : Error} (hphase : m'.phase = .ended e)
    (h : driven m'.history <+: S.replay m'.received) : Replays S m' :=
  { done := h, live := fun hlive => absurd hphase (hlive e) }

/-- The next block, in full or up to a write that fails. -/
theorem block_prefix {blocks : List (List Action)} {a : List Action} {p p' : Progress}
    {b rest stream : Bytes} {actions : List Action}
    (hdrain : S.replayer.drain .start stream = (S.replayer.drain p b).prepend blocks)
    (htake : S.replayer.take p b = some (a, p', rest)) (hactions : actions <+: a) :
    blocks.flatten ++ actions <+: S.replay stream := by
  rw [Setup.replay, hdrain, Splitter.drain_some htake, Received.prepend, Received.prepend,
    List.flatten_append, List.singleton_append, List.flatten_cons]
  exact (List.prefix_append_right_inj _).mpr (hactions.trans (List.prefix_append _ _))

/-- A dispatch does the next block, or what of it comes before a failed write. -/
theorem of_dispatch {m' : Machine} {blocks : List (List Action)} {packet : DecodedC2S}
    {buffer : Bytes} (hagrees : S.Agrees m.world) (hblocks : driven m.history = blocks.flatten)
    (hdrain : S.replayer.drain .start m.received =
      (S.replayer.drain m.conn.progress m.conn.buffer).prepend blocks)
    (htake : S.replayer.take m.conn.progress m.conn.buffer =
      some ((S.block m.conn.progress packet).1, (S.block m.conn.progress packet).2, buffer))
    (hprotocol : packet.protocol = S.protocol) (hstate : packet.state = m.state)
    (hreceived : m'.received = m.received)
    (hresult : (m'.world, m'.phase) =
      settle .draining (dispatchPacket S.env packet (m.world.withBuffer buffer))) :
    Replays S m' := by
  have hcases := dispatchPacket_cases S.env packet (m.world.withBuffer buffer)
  rw [(hagrees.buffer buffer).setup] at hcases
  rcases hcases with ⟨effects, w', hscript, hok, hafter⟩ |
    ⟨before, failing, after, e, w', hscript, herr, hafter, -⟩ | ⟨e, w', hrefused, herr, hafter⟩
  · -- the whole script is performed
    have hundisturbed := (Setup.scripted_of_script hprotocol hstate hscript).undisturbed
    rw [hok] at hresult
    obtain ⟨hworld, hphase⟩ := Prod.mk.inj hresult
    rw [Setup.block_run (p := m.conn.progress) hscript] at htake
    refine of_live ⟨blocks ++ [.received packet :: effects.map .did], ?_, ?_, fun hwaiting => ?_⟩
    · rw [Machine.history, hworld, hafter.history, driven_append]
      show driven m.history ++ (.received packet :: driven (effects.map .did)) = _
      rw [hblocks, driven_did hundisturbed, List.flatten_append, List.flatten_singleton]
    · have hconn : m'.conn = _ := (congrArg World.conn hworld).trans hafter.conn
      rw [hreceived, hdrain, Splitter.drain_some htake, ← Received.prepend_append, hconn]
      rfl
    · rw [hphase] at hwaiting
      cases hwaiting
  · -- a write fails
    have hundisturbed := (Setup.scripted_of_script hprotocol hstate hscript).undisturbed.of_append
    rw [herr] at hresult
    obtain ⟨hworld, hphase⟩ := Prod.mk.inj hresult
    rw [Setup.block_run (p := m.conn.progress) hscript] at htake
    refine of_ended hphase ?_
    rw [Machine.history, hworld, hafter.history, driven_append, hreceived]
    show driven m.history ++
      (.received packet :: driven (before.map .did ++ [.failed failing])) <+: _
    rw [hblocks, driven_append, driven_did hundisturbed, driven_failed, List.append_nil]
    refine block_prefix hdrain htake ?_
    rw [List.map_append]
    exact List.prefix_append (Action.received packet :: before.map Action.did) _
  · -- the packet is refused
    rw [herr] at hresult
    obtain ⟨hworld, hphase⟩ := Prod.mk.inj hresult
    have hnone : ∀ effects, S.script m.conn.progress.state packet ≠ .run effects := by
      intro effects hrun
      rcases hrefused with ⟨hscript, -⟩ | hscript <;> cases hrun.symm.trans hscript
    rw [Setup.block_refused hnone] at htake
    refine of_ended hphase ?_
    rw [Machine.history, hworld, hafter.history, driven_append, hreceived]
    show driven m.history ++ [.received packet] <+: _
    rw [hblocks]
    exact block_prefix hdrain htake List.prefix_rfl

theorem advance (h : Replays S m) (hrefines : S.Refines m) (hlive : m.Live) :
    Replays S (m.advance S.env) := by
  have hsetup := hrefines.agrees.setup
  have hreceived := Machine.advance_received S.env m
  obtain ⟨blocks, hblocks, hdrain, -⟩ := h.live hlive
  obtain ⟨buffer, hconn⟩ := tryParsePacket_conn S.env m.conn
  cases hparse : tryParsePacket S.env m.conn with
  | mk r conn =>
    rw [hparse] at hconn
    simp only at hconn
    subst hconn
    cases r with
    | error e =>
      refine of_ended (e := e) ?_ ?_
      · rw [Machine.advance, hparse]
      · rw [Machine.advance, hparse]
        exact h.done
    | ok r =>
      cases r with
      | none =>
        have hworld : (m.advance S.env).world = m.world.withBuffer buffer := by
          rw [Machine.advance, hparse]
          rfl
        refine of_live ?_
        rw [hreceived, Machine.history, Machine.conn, hworld]
        rcases tryParsePacket_cases S.env m.conn with ⟨hp, hcall⟩ | ⟨e, -, hcall⟩ |
          ⟨f, rest, hbuffer, hcall⟩
        · -- the buffer holds the beginning of a frame
          rw [hparse] at hcall
          have hsame : buffer = m.conn.buffer := congrArg Connection.buffer (Prod.mk.inj hcall).2
          subst hsame
          exact ⟨blocks, hblocks, hdrain, fun _ => .inl hp⟩
        · rw [hparse] at hcall
          cases hcall
        · -- a frame is skipped
          have hlt := parseFrame_length_lt S.env m.conn f rest
          rw [← hcall, hparse, ← hbuffer] at hlt
          refine ⟨blocks ++ [[]], ?_, ?_, fun _ => .inr (by simp)⟩
          · rw [List.flatten_append, List.flatten_singleton, List.append_nil]
            exact hblocks
          · rw [hdrain, Splitter.drain_some (Setup.take_skipped hsetup hparse hlt),
              ← Received.prepend_append]
            rfl
      | some packet =>
        have hpacket : (tryParsePacket S.env m.conn).1 = .ok (some packet) := by rw [hparse]
        obtain ⟨hprotocol, hstate⟩ := tryParsePacket_packet hpacket
        refine of_dispatch hrefines.agrees hblocks hdrain (Setup.take_packet hsetup hparse) ?_
          hstate hreceived ?_
        · rw [hprotocol, ← hsetup]
          rfl
        · rw [Machine.advance, hparse]
          rfl

/-- What is read goes behind what is in the buffer. -/
theorem read (h : Replays S m) (hlive : m.Live) (result : Except ErrorKind Bytes) :
    Replays S (m.read result) := by
  cases result with
  | error kind => exact of_ended (e := .io kind) rfl h.done
  | ok bytes =>
    cases bytes with
    | nil => exact of_ended (e := .io .unexpectedEof) rfl h.done
    | cons b bytes =>
      obtain ⟨blocks, hblocks, hdrain, -⟩ := h.live hlive
      refine of_live ⟨blocks, hblocks, ?_, fun hwaiting => by cases hwaiting⟩
      show S.replayer.drain .start (m.received ++ b :: bytes) =
        (S.replayer.drain m.conn.progress (m.conn.buffer ++ b :: bytes)).prepend blocks
      rw [Splitter.drain_append, hdrain, Splitter.feed_prepend,
        Splitter.drain_append S.replayer m.conn.progress]

/-- A keepalive is no answer to a packet. -/
theorem tick (h : Replays S m) (hlive : m.Live) : Replays S (m.tick S.env) := by
  rw [Machine.tick]
  by_cases hplay : m.state = .play
  · rw [if_pos hplay]
    obtain ⟨blocks, hblocks, hdrain, -⟩ := h.live hlive
    rcases perform_cases S.env (.send (keepAlive m.conn.protocol m.nextKeepaliveId)) m.world with
      ⟨w', hok, hafter⟩ | ⟨packet, e, w', -, herr, hafter, -⟩
    · rw [show writePacket S.env _ m.world = _ from hok]
      refine of_live ⟨blocks, ?_, ?_, fun hwaiting => by cases hwaiting⟩
      · show driven w'.history = _
        rw [hafter.history, driven_append, driven_keepAlive, List.append_nil]
        exact hblocks
      · show _ = (S.replayer.drain w'.conn.progress w'.conn.buffer).prepend blocks
        rw [hafter.conn]
        exact hdrain
    · rw [show writePacket S.env _ m.world = _ from herr]
      refine of_ended (e := e) rfl ?_
      show driven w'.history <+: _
      rw [hafter.history, driven_append, driven_failed, List.append_nil]
      exact h.done
  · rw [if_neg hplay]
    exact h

theorem step (h : Replays S m) (hrefines : S.Refines m) (input : Input) :
    Replays S (m.step S.env input) := by
  have hlive : ∀ {phase : Phase}, m.phase = phase → (∀ e, phase ≠ .ended e) → m.Live := by
    rintro phase rfl hphase
    exact hphase
  unfold Machine.step
  split
  case h_1 hphase => exact h.advance hrefines (hlive hphase fun e he => by cases he)
  case h_2 result hphase => exact h.read (hlive hphase fun e he => by cases he) result
  case h_3 hphase => exact h.tick (hlive hphase fun e he => by cases he)
  case h_4 => exact h

/-- Every connection replays what it has received. -/
theorem run (S : Setup) (fault : Nat → Option Fault) (inputs : List Input) :
    Replays S (S.run fault inputs) := by
  induction inputs using List.reverseRecOn with
  | nil => exact start S fault
  | append_singleton inputs input ih =>
    rw [Setup.run_snoc]
    exact ih.step (Setup.refines_run S fault inputs) input

end Replays

namespace Setup

/-- Two connections under the same setup whose peers send the same, one of them perhaps
more of it, answer it alike, one of them perhaps less of it: neither the reads that cut
the streams up nor the keepalive timer nor failing writes change an answer. -/
theorem run_comparable (S : Setup) (fault fault' : Nat → Option Fault)
    (inputs inputs' : List Input)
    (h : (S.run fault inputs).received <+: (S.run fault' inputs').received) :
    driven (S.run fault inputs).history <+: driven (S.run fault' inputs').history ∨
      driven (S.run fault' inputs').history <+: driven (S.run fault inputs).history :=
  List.prefix_or_prefix_of_prefix ((Replays.run S fault inputs).done.trans (S.replay_prefix h))
    (Replays.run S fault' inputs').done

/-- The handshake of `statusPing` in two reads, and the first bytes of its `Ping`. -/
def statusPingCut : List Input :=
  [.advance, .read (.ok [8, 0, 0xfb]), .advance,
   .read (.ok [0x05, 1, 0x61, 0x63, 0xdd, 1, 9, 1, 0]), .advance, .advance]

/-- The one has come to Status, the other has answered the `Ping` as well. -/
theorem statusPing_comparable :
    ((driven (bareRun .v1_20_1 false statusPingCut).history).length,
      (driven (bareRun .v1_20_1 false statusPing).history).length) = (2, 4) ∧
    (driven (bareRun .v1_20_1 false statusPingCut).history <+:
        driven (bareRun .v1_20_1 false statusPing).history ∨
      driven (bareRun .v1_20_1 false statusPing).history <+:
        driven (bareRun .v1_20_1 false statusPingCut).history) :=
  ⟨by decide +kernel, run_comparable (Setup.bare .v1_20_1 false) (fun _ => none) (fun _ => none)
    statusPingCut statusPing (by decide +kernel)⟩

end Setup

end Statik
