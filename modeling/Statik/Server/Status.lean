import Statik.Server.Draining
import Statik.Server.Receiver
import Statik.Server.Step

/-!
# Status exchanges

A client that shakes hands for Status and sends requests gets one reply to each of
them, in their order, however its bytes are cut into reads.
-/

namespace Statik

open Wire

/-- What a client may ask in Status. -/
inductive Request where
  | status
  | ping (payload : BitVec 64)

namespace Request

/-- `C2SStatusRequest` or `C2SPing` of the version. -/
def packet : ProtocolKind → Request → DecodedC2S
  | .v1_20_1, .status => .v1_20_1 ⟨.statusRequest, ()⟩
  | .v1_20_1, .ping payload => .v1_20_1 ⟨.ping, payload, ()⟩
  | .v1_21_1, .status => .v1_21_1 ⟨.statusRequest, ()⟩
  | .v1_21_1, .ping payload => .v1_21_1 ⟨.ping, payload, ()⟩

/-- `S2CStatusResponse`, or an `S2CPong` with the same payload. -/
def reply (config : ServerConfig) : ProtocolKind → Request → S2CPacket
  | .v1_20_1, .status => V1_20_1.statusResponse config .v1_20_1
  | .v1_20_1, .ping payload => V1_20_1.pong payload
  | .v1_21_1, .status => V1_21_1.statusResponse config .v1_21_1
  | .v1_21_1, .ping payload => V1_21_1.pong payload

end Request

/-- `C2SHandshake` for Status with the protocol version of the server. -/
def statusHandshake (protocol : ProtocolKind) (address : String) (port : BitVec 16) :
    DecodedC2S :=
  match protocol with
  | .v1_20_1 =>
    .v1_20_1 ⟨.handshake, VarInt.ofUsize ProtocolKind.v1_20_1.protocolVersion, address, port,
      .status, ()⟩
  | .v1_21_1 =>
    .v1_21_1 ⟨.handshake, VarInt.ofUsize ProtocolKind.v1_21_1.protocolVersion, address, port,
      .status, ()⟩

/-- The bytes of a read. -/
def Input.chunk : Input → Option Bytes
  | .read (.ok bytes) => some bytes
  | _ => none

/-- The bytes of frames in a row. -/
def streamOf (frames : List Frame) : Bytes := (frames.map Frame.bytes).flatten

/-- What a client sends: a handshake and requests, each in a frame of its own. -/
structure Exchange (S : Setup) where
  address : String
  port : BitVec 16
  greeting : Frame
  requests : List (Request × Frame)
  greets : (statusHandshake S.protocol address port).encode S.env.serde = .ok greeting.body
  asks : ∀ r ∈ requests, (r.1.packet S.protocol).encode S.env.serde = .ok r.2.body

namespace Exchange

variable {S : Setup}

def stream (x : Exchange S) : Bytes := streamOf (x.greeting :: x.requests.map Prod.snd)

def replies (x : Exchange S) : List S2CPacket :=
  x.requests.map fun r => r.1.reply S.config S.protocol

end Exchange

/-- The bodies of the frames are read as the packets by `decode_in_state` in Status,
each to its last byte. -/
def Carries (S : Setup) (frames : List Frame) (packets : List S2CPacket) : Prop :=
  frames.map (fun f => S2CPacket.decodeInState S.env.serde S.protocol .status f.body) =
    packets.map fun packet => .ok (packet, [])

/-- The bytes are whole frames that carry the packets. -/
def Replied (S : Setup) (packets : List S2CPacket) (sent : Bytes) : Prop :=
  ∃ frames : List Frame,
    frameSplitter.drain () sent =
      { items := frames.map Frame.bytes, state := (), pending := [] } ∧
    Carries S frames packets

/-! ### The packets of the exchange -/

section

variable {serde : Serde} {body : Bytes}

theorem statusHandshake_decode {protocol : ProtocolKind} {address : String} {port : BitVec 16}
    (h : (statusHandshake protocol address port).encode serde = .ok body) :
    DecodedC2S.decode serde protocol .handshake body =
      .ok (statusHandshake protocol address port, []) := by
  cases protocol with
  | v1_20_1 =>
    obtain ⟨fields, -, hfields⟩ := PacketGroup.encode_eq_ok (G := V1_20_1.c2s) h
    obtain ⟨_, bs, -, hbs, -⟩ := Layout.encode_field_eq_ok hfields
    obtain ⟨b, _, haddress, -, -⟩ := Layout.encode_field_eq_ok hbs
    have hlength := encodeString_length haddress
    have hread := PacketGroup.decodeInState_encoded (G := V1_20_1.c2s) h rfl
      ⟨trivial, hlength, trivial, trivial, trivial⟩
    exact hread.map _
  | v1_21_1 =>
    obtain ⟨fields, -, hfields⟩ := PacketGroup.encode_eq_ok (G := V1_21_1.c2s) h
    obtain ⟨_, bs, -, hbs, -⟩ := Layout.encode_field_eq_ok hfields
    obtain ⟨b, _, haddress, -, -⟩ := Layout.encode_field_eq_ok hbs
    have hlength := encodeString_length haddress
    have hread := PacketGroup.decodeInState_encoded (G := V1_21_1.c2s) h rfl
      ⟨trivial, hlength, trivial, trivial, trivial⟩
    exact hread.map _

theorem Request.decode {protocol : ProtocolKind} {request : Request}
    (h : (request.packet protocol).encode serde = .ok body) :
    DecodedC2S.decode serde protocol .status body = .ok (request.packet protocol, []) := by
  cases protocol with
  | v1_20_1 =>
    cases request with
    | status =>
      exact (PacketGroup.decodeInState_encoded (G := V1_20_1.c2s) h rfl trivial).map _
    | ping payload =>
      exact (PacketGroup.decodeInState_encoded (G := V1_20_1.c2s) h rfl ⟨trivial, trivial⟩).map _
  | v1_21_1 =>
    cases request with
    | status =>
      exact (PacketGroup.decodeInState_encoded (G := V1_21_1.c2s) h rfl trivial).map _
    | ping payload =>
      exact (PacketGroup.decodeInState_encoded (G := V1_21_1.c2s) h rfl ⟨trivial, trivial⟩).map _

/-- The client reads the reply off the bytes it was written to. -/
theorem Request.reply_decode {config : ServerConfig} {protocol : ProtocolKind}
    {request : Request}
    (hjson : serde.statusFromStr (serde.statusToString (config.status protocol)) =
      .ok (config.status protocol))
    (h : (request.reply config protocol).encode serde = .ok body) :
    S2CPacket.decodeInState serde protocol .status body =
      .ok (request.reply config protocol, []) := by
  cases protocol with
  | v1_20_1 =>
    cases request with
    | status =>
      obtain ⟨fields, -, hfields⟩ := PacketGroup.encode_eq_ok (G := V1_20_1.s2c) h
      obtain ⟨b, _, hresponse, -, -⟩ := Layout.encode_field_eq_ok hfields
      have hfits := And.intro (encodeString_length hresponse) hjson
      exact (PacketGroup.decodeInState_encoded (G := V1_20_1.s2c) h rfl ⟨hfits, trivial⟩).map _
    | ping payload =>
      exact (PacketGroup.decodeInState_encoded (G := V1_20_1.s2c) h rfl ⟨trivial, trivial⟩).map _
  | v1_21_1 =>
    cases request with
    | status =>
      obtain ⟨fields, -, hfields⟩ := PacketGroup.encode_eq_ok (G := V1_21_1.s2c) h
      obtain ⟨b, _, hresponse, -, -⟩ := Layout.encode_field_eq_ok hfields
      have hfits := And.intro (encodeString_length hresponse) hjson
      exact (PacketGroup.decodeInState_encoded (G := V1_21_1.s2c) h rfl ⟨hfits, trivial⟩).map _
    | ping payload =>
      exact (PacketGroup.decodeInState_encoded (G := V1_21_1.s2c) h rfl ⟨trivial, trivial⟩).map _

/-- A reply that fits is written as one frame. -/
theorem outgoing_frame {env : Env} {packet : S2CPacket} (h : FitsFrame env none packet) :
    ∃ f : Frame, packet.encode env.serde = .ok f.body ∧
      outgoing env none packet = .ok f.bytes := by
  obtain ⟨body, framed, hencode, hmax, hframed, -⟩ := h
  cases hframed
  exact ⟨Frame.of body hmax, hencode, outgoing_of hencode rfl⟩

theorem pong_fits (env : Env) (config : ServerConfig) (protocol : ProtocolKind)
    (payload : BitVec 64) :
    FitsFrame env none (Request.reply config protocol (.ping payload)) := by
  have hencode : (Request.reply config protocol (.ping payload)).encode env.serde =
      .ok ((VarInt.mk 1).encode ++ (encodeInt 8 payload ++ [])) := by
    cases protocol <;> rfl
  have hlength : ((VarInt.mk 1).encode ++ (encodeInt 8 payload ++ [])).length ≤ maxPacketSize := by
    have hid := VarInt.encode_length_le ⟨1⟩
    have hpayload : (encodeInt 8 payload).length = 8 := beBytes_length 8 payload.toNat
    have hmax : 13 ≤ maxPacketSize := by decide
    rw [List.append_nil, List.length_append]
    omega
  exact ⟨_, _, hencode, hlength, rfl, hlength⟩

end

/-! ### One frame at a time -/

section

variable {env : Env} {m : Machine}

/-- A round of the drain loop on a frame that decodes, without compression. -/
theorem advance_frame {f : Frame} {rest : Bytes} {packet : DecodedC2S}
    (hthreshold : m.conn.compressionThreshold = none) (hbuffer : m.conn.buffer = f.bytes ++ rest)
    (hdecode : DecodedC2S.decode env.serde m.conn.protocol m.state f.body = .ok (packet, [])) :
    (m.advance env).received = m.received ∧
      ((m.advance env).world, (m.advance env).phase) =
        settle .draining (dispatchPacket env packet (m.world.withBuffer rest)) := by
  have hcall : tryParsePacket env m.conn = (.ok (some packet), { m.conn with buffer := rest }) := by
    have hbody : bodyBytes env.flate2 m.conn.compressionThreshold f.body = .ok (some f.body) := by
      rw [hthreshold]
      rfl
    rw [tryParsePacket_frame hbuffer, parseFrame, hbody]
    simp only [hdecode]
  rw [Machine.advance, hcall]
  exact ⟨rfl, rfl⟩

theorem advance_pending (h : Pending m.conn.buffer) :
    (m.advance env).received = m.received ∧ (m.advance env).world = m.world ∧
      (m.advance env).phase = .waiting := by
  have hcall : tryParsePacket env m.conn = (.ok none, m.conn) := tryParsePacket_pending h
  rw [Machine.advance, hcall]
  exact ⟨rfl, rfl, rfl⟩

end

namespace Setup

variable {S : Setup} {w : World}

theorem dispatch_handshake (hsetup : w.conn.setup S.env = S) (hstate : w.conn.state = .handshake)
    (address : String) (port : BitVec 16) :
    dispatchPacket S.env (statusHandshake S.protocol address port) w =
      .ok () ((w.log (.received (statusHandshake S.protocol address port))).enter .status) := by
  have hrun := dispatchPacket_run S.env w (statusHandshake S.protocol address port)
  have hscript : S.script .handshake (statusHandshake S.protocol address port) =
      .run [.enter .status] := by
    cases hprotocol : S.protocol with
    | v1_20_1 =>
      show (if _ then _ else _) = _
      rw [if_pos (by rw [hprotocol]; decide)]
    | v1_21_1 =>
      show (if _ then _ else _) = _
      rw [if_pos (by rw [hprotocol]; decide)]
  rw [hsetup, hstate, hscript] at hrun
  exact hrun

theorem dispatch_request (hsetup : w.conn.setup S.env = S) (hstate : w.conn.state = .status)
    (request : Request) :
    dispatchPacket S.env (request.packet S.protocol) w =
      writePacket S.env (request.reply S.config S.protocol)
        (w.log (.received (request.packet S.protocol))) := by
  have hrun := dispatchPacket_run S.env w (request.packet S.protocol)
  have hscript : S.script .status (request.packet S.protocol) =
      .run [.send (request.reply S.config S.protocol)] := by
    cases request with
    | status =>
      cases hprotocol : S.protocol with
      | v1_20_1 =>
        show Verdict.run [.send (V1_20_1.statusResponse S.config S.protocol)] = _
        rw [hprotocol]
        rfl
      | v1_21_1 =>
        show Verdict.run [.send (V1_21_1.statusResponse S.config S.protocol)] = _
        rw [hprotocol]
        rfl
    | ping payload => cases S.protocol <;> rfl
  rw [hsetup, hstate, hscript] at hrun
  simp only [performAll_cons, performAll_nil, bind_pure_unit, perform] at hrun
  exact hrun

end Setup

/-! ### The exchange -/

/-- Where a connection stands in an exchange: before the handshake, or in Status
with some of the requests answered. -/
structure Serving (S : Setup) (x : Exchange S) (m : Machine) : Prop where
  setup : m.conn.setup S.env = S
  threshold : m.conn.compressionThreshold = none
  fault : ∀ n, m.world.socket.fault n = none
  live : m.Live
  progress :
    (m.state = .handshake ∧ m.received = m.conn.buffer ∧ m.world.socket.sent = []) ∨
    (m.state = .status ∧ ∃ answered unanswered frames,
      x.requests = answered ++ unanswered ∧
      m.received = streamOf (x.greeting :: answered.map Prod.snd) ++ m.conn.buffer ∧
      m.world.socket.sent = streamOf frames ∧
      Carries S frames (answered.map fun r => r.1.reply S.config S.protocol))
  waiting : m.phase = .waiting → Pending m.conn.buffer

theorem streamOf_append (frames later : List Frame) :
    streamOf (frames ++ later) = streamOf frames ++ streamOf later := by
  rw [streamOf, List.map_append, List.flatten_append]
  rfl

theorem Carries.snoc {S : Setup} {frames : List Frame} {packets : List S2CPacket} {f : Frame}
    {packet : S2CPacket} (h : Carries S frames packets)
    (hread : S2CPacket.decodeInState S.env.serde S.protocol .status f.body = .ok (packet, [])) :
    Carries S (frames ++ [f]) (packets ++ [packet]) := by
  rw [Carries, List.map_append, List.map_append, h]
  exact congrArg (_ ++ [·]) hread

namespace Serving

variable {S : Setup} {x : Exchange S} {m : Machine}

theorem protocol (h : Serving S x m) : m.conn.protocol = S.protocol := by
  rw [← h.setup]
  rfl

theorem start (S : Setup) (x : Exchange S) :
    Serving S x (.start S.config S.protocol S.address fun _ => none) :=
  { setup := rfl, threshold := rfl, fault := fun _ => rfl,
    live := (fun e he => by cases he),
    progress := .inl ⟨rfl, rfl, rfl⟩,
    waiting := fun hw => by cases hw }

/-- A call on the beginning of a frame leads to the `select!`. -/
theorem advance_pending (h : Serving S x m) (hp : Pending m.conn.buffer) :
    Serving S x (m.advance S.env) := by
  obtain ⟨hreceived, hworld, hphase⟩ := @Statik.advance_pending S.env m hp
  have hconn : (m.advance S.env).conn = m.conn := congrArg World.conn hworld
  exact
    { setup := by rw [hconn]; exact h.setup,
      threshold := by rw [hconn]; exact h.threshold,
      fault := by rw [hworld]; exact h.fault,
      live := (fun e he => by rw [hphase] at he; cases he),
      progress := by
        rw [hconn, Machine.state, hworld, hreceived]
        exact h.progress,
      waiting := fun _ => by rw [hconn]; exact hp }

/-- The frame of the handshake leads to Status. -/
theorem advance_greeting (h : Serving S x m) (hstate : m.state = .handshake)
    (hreceived : m.received = m.conn.buffer) (hsent : m.world.socket.sent = []) {rest : Bytes}
    (hbuffer : m.conn.buffer = x.greeting.bytes ++ rest) : Serving S x (m.advance S.env) := by
  have hdecode := statusHandshake_decode x.greets
  rw [← h.protocol, ← hstate] at hdecode
  obtain ⟨hsame, hstep⟩ := advance_frame h.threshold hbuffer hdecode
  have hsetup : (m.world.withBuffer rest).conn.setup S.env = S := h.setup
  rw [h.protocol, Setup.dispatch_handshake hsetup hstate] at hstep
  obtain ⟨hworld, hphase⟩ := Prod.mk.inj hstep
  exact
    { setup := by rw [Machine.conn, hworld]; exact h.setup,
      threshold := by rw [Machine.conn, hworld]; exact h.threshold,
      fault := by rw [hworld]; exact h.fault,
      live := (fun e he => by rw [hphase] at he; cases he),
      progress := by
        refine .inr ⟨by rw [Machine.state, hworld]; rfl, [], x.requests, [], rfl, ?_, ?_, rfl⟩
        · rw [hsame, hreceived, hbuffer, Machine.conn, hworld]
          show _ = (x.greeting.bytes ++ []) ++ rest
          rw [List.append_nil]
        · rw [hworld]
          exact hsent,
      waiting := fun hw => by rw [hphase] at hw; cases hw }

/-- The frame of a request leads to its reply. -/
theorem advance_request (h : Serving S x m)
    (hfits : FitsFrame S.env none (Request.reply S.config S.protocol .status))
    (hjson : S.env.serde.statusFromStr
      (S.env.serde.statusToString (S.config.status S.protocol)) = .ok (S.config.status S.protocol))
    (hstate : m.state = .status) {answered unanswered : List (Request × Frame)}
    {frames : List Frame} {r : Request × Frame}
    (hrequests : x.requests = answered ++ r :: unanswered)
    (hreceived : m.received = streamOf (x.greeting :: answered.map Prod.snd) ++ m.conn.buffer)
    (hsent : m.world.socket.sent = streamOf frames)
    (hcarries : Carries S frames (answered.map fun r => r.1.reply S.config S.protocol))
    {rest : Bytes} (hbuffer : m.conn.buffer = r.2.bytes ++ rest) :
    Serving S x (m.advance S.env) := by
  have hmem : r ∈ x.requests := by
    rw [hrequests]
    exact List.mem_append_right _ List.mem_cons_self
  have hdecode := Request.decode (x.asks r hmem)
  rw [← h.protocol, ← hstate] at hdecode
  obtain ⟨hsame, hstep⟩ := advance_frame h.threshold hbuffer hdecode
  have hsetup : (m.world.withBuffer rest).conn.setup S.env = S := h.setup
  rw [h.protocol, Setup.dispatch_request hsetup hstate] at hstep
  -- the reply fits into a frame, and the socket takes it
  have hreply : FitsFrame S.env none (r.1.reply S.config S.protocol) := by
    cases hr : r.1 with
    | status => exact hfits
    | ping payload => exact pong_fits S.env S.config S.protocol payload
  obtain ⟨f, hencode, hout⟩ := outgoing_frame hreply
  have hthreshold : ((m.world.withBuffer rest).log
      (.received (r.1.packet S.protocol))).conn.compressionThreshold = none := h.threshold
  have hfault : ((m.world.withBuffer rest).log
      (.received (r.1.packet S.protocol))).socket.fault m.world.socket.writes = none := h.fault _
  rw [writePacket, hthreshold, hout] at hstep
  simp only [Socket.write] at hstep
  rw [show ((m.world.withBuffer rest).log (.received (r.1.packet S.protocol))).socket.writes =
    m.world.socket.writes from rfl, hfault] at hstep
  obtain ⟨hworld, hphase⟩ := Prod.mk.inj hstep
  have hconn : (m.advance S.env).conn = { m.conn with buffer := rest } := congrArg World.conn hworld
  exact
    { setup := by rw [hconn]; exact h.setup,
      threshold := by rw [hconn]; exact h.threshold,
      fault := by rw [hworld]; exact h.fault,
      live := (fun e he => by rw [hphase] at he; cases he),
      progress := by
        refine .inr ⟨by rw [Machine.state, hworld]; exact hstate, answered ++ [r], unanswered,
          frames ++ [f], by rw [hrequests, List.append_assoc]; rfl, ?_, ?_, ?_⟩
        · rw [hsame, hreceived, hbuffer, hconn, List.map_append, ← List.cons_append,
            streamOf_append, List.append_assoc]
          show _ = _ ++ ((r.2.bytes ++ []) ++ rest)
          rw [List.append_nil]
        · rw [hworld, streamOf_append]
          show m.world.socket.sent ++ f.bytes = _ ++ (f.bytes ++ [])
          rw [hsent, List.append_nil]
        · rw [List.map_append]
          exact hcarries.snoc (Request.reply_decode hjson hencode),
      waiting := fun hw => by rw [hphase] at hw; cases hw }

/-- What is left of the stream is what the buffer begins. -/
theorem buffer_prefix {taken buffer : Bytes} {frames later : List Frame}
    (h : taken ++ buffer <+: streamOf (frames ++ later)) (htaken : taken = streamOf frames) :
    buffer <+: streamOf later := by
  rw [streamOf_append, ← htaken] at h
  exact (List.prefix_append_right_inj _).mp h

variable (hfits : FitsFrame S.env none (Request.reply S.config S.protocol .status))
  (hjson : S.env.serde.statusFromStr
    (S.env.serde.statusToString (S.config.status S.protocol)) = .ok (S.config.status S.protocol))

include hfits hjson

theorem advance (h : Serving S x m) (hstream : m.received <+: x.stream) :
    Serving S x (m.advance S.env) := by
  rcases h.progress with ⟨hstate, hreceived, hsent⟩ | ⟨hstate, answered, unanswered, frames,
    hrequests, hreceived, hsent, hcarries⟩
  · rw [hreceived] at hstream
    rcases pending_or_frame hstream with hp | ⟨f, later, rest, hfirst, hbuffer, -⟩
    · exact h.advance_pending hp
    · cases hfirst
      exact h.advance_greeting hstate hreceived hsent hbuffer
  · have hbuffer : m.conn.buffer <+: streamOf (unanswered.map Prod.snd) := by
      rw [hreceived, Exchange.stream, hrequests, List.map_append, ← List.cons_append] at hstream
      exact buffer_prefix hstream rfl
    rcases pending_or_frame hbuffer with hp | ⟨f, later, rest, hfirst, hbuffer, -⟩
    · exact h.advance_pending hp
    · cases unanswered with
      | nil => cases hfirst
      | cons r unanswered =>
        cases hfirst
        exact h.advance_request hfits hjson hstate hrequests hreceived hsent hcarries hbuffer

omit hfits hjson in
theorem read (h : Serving S x m) {chunk : Bytes} (hchunk : chunk ≠ []) :
    Serving S x (m.read (.ok chunk)) := by
  cases chunk with
  | nil => exact absurd rfl hchunk
  | cons b chunk =>
    exact
      { setup := h.setup, threshold := h.threshold, fault := h.fault,
        live := (fun e he => by cases he),
        progress := by
          rcases h.progress with ⟨hstate, hreceived, hsent⟩ | ⟨hstate, answered, unanswered,
            frames, hrequests, hreceived, hrest⟩
          · exact .inl ⟨hstate, congrArg (· ++ b :: chunk) hreceived, hsent⟩
          · refine .inr ⟨hstate, answered, unanswered, frames, hrequests, ?_, hrest⟩
            show m.received ++ b :: chunk = _ ++ (m.conn.buffer ++ b :: chunk)
            rw [hreceived, List.append_assoc],
        waiting := fun hw => by cases hw }

omit hfits hjson in
/-- There are no keepalives outside Play. -/
theorem tick (h : Serving S x m) : Serving S x (m.tick S.env) := by
  have hplay : m.state ≠ .play := by
    rcases h.progress with ⟨hstate, -⟩ | ⟨hstate, -⟩ <;> rw [hstate] <;> decide
  rw [Machine.tick, if_neg hplay]
  exact h

theorem step (h : Serving S x m) (hstream : m.received <+: x.stream) {input : Input}
    (hlive : (m.step S.env input).Live) : Serving S x (m.step S.env input) := by
  unfold Machine.step at hlive ⊢
  split
  case h_1 => exact h.advance hfits hjson hstream
  case h_2 result hphase =>
    rw [hphase] at hlive
    cases result with
    | error kind => exact absurd rfl (hlive _)
    | ok chunk =>
      by_cases hchunk : chunk = []
      · subst hchunk
        exact absurd rfl (hlive _)
      · exact h.read hchunk
  case h_3 => exact h.tick
  case h_4 => exact h

omit hfits hjson in
/-- The answers so far are what the client reads. -/
theorem replied (h : Serving S x m) (hreceived : m.received = x.stream)
    (hwaiting : m.phase = .waiting) :
    m.state = .status ∧ Replied S x.replies m.world.socket.sent := by
  have hpending := h.waiting hwaiting
  rcases h.progress with ⟨-, hbuffer, -⟩ | ⟨hstate, answered, unanswered, frames, hrequests,
    hprefix, hsent, hcarries⟩
  · rw [← hbuffer, hreceived] at hpending
    exact absurd hpending (x.greeting.not_pending _)
  · have hbuffer : m.conn.buffer = streamOf (unanswered.map Prod.snd) := by
      rw [hreceived, Exchange.stream, hrequests, List.map_append, ← List.cons_append,
        streamOf_append] at hprefix
      exact (List.append_cancel_left hprefix).symm
    cases unanswered with
    | cons r unanswered =>
      rw [hbuffer] at hpending
      exact absurd hpending (r.2.not_pending _)
    | nil =>
      rw [List.append_nil] at hrequests
      subst hrequests
      refine ⟨hstate, frames, ?_, hcarries⟩
      have hnil : Pending [] := .inl ⟨by decide, fun b hb => absurd hb List.not_mem_nil⟩
      rw [hsent, streamOf, ← List.append_nil (List.flatten _), drain_frames, drain_pending hnil,
        Received.prepend, List.append_nil]

/-- Rounds of the drain loop, and none of the others, take nothing from the peer. -/
theorem advances (h : Serving S x m) (hstream : m.received <+: x.stream) (k : Nat) :
    Serving S x (m.exec S.env (List.replicate k .advance)) ∧
      (m.exec S.env (List.replicate k .advance)).received = m.received := by
  induction k with
  | zero => exact ⟨h, rfl⟩
  | succ k ih =>
    obtain ⟨hserving, hreceived⟩ := ih
    rw [List.replicate_succ', Machine.exec_append]
    generalize m.exec S.env (List.replicate k .advance) = m' at hserving hreceived
    rw [← hreceived] at hstream
    show Serving S x (m'.step S.env .advance) ∧ (m'.step S.env .advance).received = _
    unfold Machine.step
    split
    case h_1 =>
      exact ⟨hserving.advance hfits hjson hstream,
        (Machine.advance_received S.env m').trans hreceived⟩
    case h_2 heq => cases heq
    case h_3 heq => cases heq
    case h_4 => exact ⟨hserving, hreceived⟩

/-- Enough of them lead to the `select!`. -/
theorem drains (h : Serving S x m) (hstream : m.received <+: x.stream) :
    ∃ k, Serving S x (m.exec S.env (List.replicate k .advance)) ∧
      (m.exec S.env (List.replicate k .advance)).received = m.received ∧
      (m.exec S.env (List.replicate k .advance)).phase = .waiting := by
  obtain ⟨k, -, hends⟩ := drain_ends S.env m
  obtain ⟨hserving, hreceived⟩ := h.advances hfits hjson hstream k
  refine ⟨k, hserving, hreceived, ?_⟩
  cases hphase : (m.exec S.env (List.replicate k .advance)).phase with
  | draining => exact absurd hphase hends
  | waiting => rfl
  | ended e => exact absurd hphase (hserving.live e)

/-- Whatever the chunks of the rest of the stream are, they can be read and drained
one after the other. -/
theorem reads (h : Serving S x m) (hwaiting : m.phase = .waiting) (chunks : List Bytes)
    (hchunks : ∀ c ∈ chunks, c ≠ []) (hstream : m.received ++ chunks.flatten <+: x.stream) :
    ∃ inputs : List Input, inputs.filterMap Input.chunk = chunks ∧
      (m.exec S.env inputs).received = m.received ++ chunks.flatten ∧
      (m.exec S.env inputs).phase = .waiting := by
  induction chunks generalizing m with
  | nil => exact ⟨[], rfl, (List.append_nil _).symm, hwaiting⟩
  | cons chunk chunks ih =>
    have hchunk := hchunks chunk List.mem_cons_self
    have hread : m.step S.env (.read (.ok chunk)) = m.read (.ok chunk) := by
      unfold Machine.step
      rw [hwaiting]
    have hreceived : (m.read (.ok chunk)).received = m.received ++ chunk := by
      cases chunk with
      | nil => exact absurd rfl hchunk
      | cons b chunk => rfl
    rw [List.flatten_cons, ← List.append_assoc, ← hreceived] at hstream
    obtain ⟨k, hserving, hsame, hphase⟩ := (h.read hchunk).drains hfits hjson
      ((List.prefix_append _ _).trans hstream)
    rw [← hsame] at hstream
    obtain ⟨inputs, hinputs, hall, hends⟩ := ih hserving hphase
      (fun c hc => hchunks c (List.mem_cons_of_mem chunk hc)) hstream
    refine ⟨.read (.ok chunk) :: (List.replicate k .advance ++ inputs), ?_, ?_, ?_⟩
    · have hnone : (List.replicate k Input.advance).filterMap Input.chunk = [] := by
        rw [List.filterMap_replicate_of_none rfl]
      rw [List.filterMap_cons, List.filterMap_append, hnone, hinputs]
      rfl
    · show ((m.step S.env (.read (.ok chunk))).exec S.env _).received = _
      rw [hread, Machine.exec_append, hall, hsame, hreceived, List.append_assoc]
      rfl
    · show ((m.step S.env (.read (.ok chunk))).exec S.env _).phase = _
      rw [hread, Machine.exec_append, hends]

/-- A run keeps serving as long as it receives the stream and goes on. -/
theorem run (inputs : List Input) (hstream : (S.run (fun _ => none) inputs).received <+: x.stream)
    (hlive : (S.run (fun _ => none) inputs).Live) : Serving S x (S.run (fun _ => none) inputs) := by
  induction inputs using List.reverseRecOn with
  | nil => exact start S x
  | append_singleton inputs input ih =>
    rw [Setup.run_snoc] at hstream hlive ⊢
    have hbefore := (Machine.received_step S.env _ input).trans hstream
    exact (ih hbefore (Machine.live_of_step S.env hlive)).step hfits hjson hbefore hlive

end Serving

namespace Setup

end Setup

end Statik
