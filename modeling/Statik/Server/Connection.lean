import Statik.Server.Config
import Statik.Server.Protocol
import Statik.Proto.V1211.Registries

/-!
# The connection: framing, the socket and what handlers do
-/

namespace Statik

open Wire

/-! ### Libraries and data files -/

inductive ZlibError where
  | encode (text : String)
  | finish (text : String)

def ZlibError.toError : ZlibError → Error
  | .encode text => .msg s!"zlib encode failed: {text}"
  | .finish text => .msg s!"zlib finish failed: {text}"

/-- `flate2`.  `inflate` is what a `ZlibDecoder` yields before it ends or fails,
and `inflateError` how it fails. -/
structure Flate2 where
  deflate : Bytes → Except ZlibError Bytes
  inflate : Bytes → Bytes
  inflateError : Bytes → Option String

namespace Flate2

/-- `decoder.read_exact(&mut decompressed)` on a buffer of `n` bytes. -/
def readExact (flate2 : Flate2) (n : Nat) (compressed : Bytes) : Except Error Bytes :=
  if n ≤ (flate2.inflate compressed).length then .ok ((flate2.inflate compressed).take n)
  else
    let text := (flate2.inflateError compressed).getD "failed to fill whole buffer"
    .error (.msg s!"zlib decode failed: {text}")

/-- Inflating a deflated buffer gives the buffer back. -/
def Lawful (flate2 : Flate2) : Prop :=
  ∀ b compressed, flate2.deflate b = .ok compressed → flate2.inflate compressed = b

end Flate2

/-- What the server links and embeds: `serde_json`, `flate2` and the contents of
its data files. -/
structure Env where
  serde : Serde
  flate2 : Flate2
  includeBytes : String → Bytes

/-! ### Reading frames -/

/-- The fields of `Connection` that its behaviour depends on.  The scratch buffer
is cleared on every use; the socket stands beside the connection. -/
structure Connection where
  config : ServerConfig
  protocol : ProtocolKind
  address : String
  buffer : Bytes
  state : State
  compressionThreshold : Option (BitVec 32)

def Connection.new (config : ServerConfig) (protocol : ProtocolKind) (address : String) :
    Connection :=
  { config := config, protocol := protocol, address := address, buffer := [],
    state := .handshake, compressionThreshold := none }

def negativeLength (declared : Int) : Error :=
  .msg s!"packet length must be non-negative, got {declared}"

def oversizedLength (declared : Int) : Error :=
  .msg s!"declared packet length {declared} exceeds MAX_PACKET_SIZE ({maxPacketSize})"

/-- The leading length VarInt: `header_len` and `length` once the whole frame is
buffered. -/
def peekHeader (buffer : Bytes) : Except Error (Option (Nat × Nat)) :=
  match VarInt.decode buffer with
  | .error e => if e.isUnexpectedEof then .ok none else .error e
  | .ok (v, rest) =>
    let declared := v.val.toInt
    if 0 ≤ declared then
      let length := v.val.toNat
      if length ≤ maxPacketSize then
        let headerLen := buffer.length - rest.length
        if buffer.length < headerLen + length then .ok none else .ok (some (headerLen, length))
      else .error (oversizedLength declared)
    else .error (negativeLength declared)

/-- `body_bytes`: the body of a frame without the framing of compression, `none`
when its Data Length is cut short. -/
def bodyBytes (flate2 : Flate2) (threshold : Option (BitVec 32)) (bodySlice : Bytes) :
    Except Error (Option Bytes) :=
  match threshold with
  | none => .ok (some bodySlice)
  | some threshold =>
    match VarInt.decode bodySlice with
    | .error e => if e.isUnexpectedEof then .ok none else .error e
    | .ok (v, compressed) =>
      let dataLen := asUsize v.val
      if dataLen = 0 then .ok (some compressed)
      else if asUsize threshold ≤ dataLen then
        if dataLen ≤ maxPacketSize then
          match flate2.readExact dataLen compressed with
          | .ok decompressed => .ok (some decompressed)
          | .error e => .error e
        else .error (.msg s!"uncompressed Data Length {dataLen} exceeds MAX_PACKET_SIZE")
      else
        let threshold := threshold.toInt
        .error (.msg
          s!"compressed packet Data Length {dataLen} is below threshold {threshold}")

/-- States in which a frame that does not decode is skipped. -/
def State.skipsUndecodable (state : State) : Bool := state == .play || state == .configuration

def tryParsePacket (env : Env) (self : Connection) :
    Except Error (Option DecodedC2S) × Connection :=
  match peekHeader self.buffer with
  | .error e => (.error e, self)
  | .ok none => (.ok none, self)
  | .ok (some (headerLen, length)) =>
    -- `self.buffer.advance(header_len)` comes before the body is looked at
    let self := { self with buffer := self.buffer.drop headerLen }
    match bodyBytes env.flate2 self.compressionThreshold (self.buffer.take length) with
    | .error e => (.error e, self)
    | .ok none => (.ok none, self)
    | .ok (some body) =>
      let decodeResult := DecodedC2S.decode env.serde self.protocol self.state body
      let self := { self with buffer := self.buffer.drop length }
      match decodeResult with
      | .ok (packet, _) => (.ok (some packet), self)
      | .error e => if self.state.skipsUndecodable then (.ok none, self) else (.error e, self)

/-! ### Writing frames -/

/-- The framed body of an encoded packet. -/
def frameBody (flate2 : Flate2) (threshold : Option (BitVec 32)) (staging : Bytes) :
    Except Error Bytes :=
  match threshold with
  | none => .ok staging
  | some threshold =>
    if asUsize threshold ≤ staging.length then
      match flate2.deflate staging with
      | .ok compressed => .ok ((VarInt.ofUsize staging.length).encode ++ compressed)
      | .error e => .error e.toError
    else .ok ((VarInt.mk 0).encode ++ staging)

/-- The length prefix, written to a cursor over five bytes. -/
def lengthPrefix (framed : Bytes) : Except Error Bytes :=
  let prefixBytes := (VarInt.ofUsize framed.length).encode
  if prefixBytes.length ≤ 5 then .ok prefixBytes else .error (.io .writeZero)

/-- The bytes `write_packet` hands to the socket. -/
def outgoing (env : Env) (threshold : Option (BitVec 32)) (packet : S2CPacket) :
    Except Error Bytes := do
  let staging ← packet.encode env.serde
  let framed ← frameBody env.flate2 threshold staging
  let lenBytes ← lengthPrefix framed
  pure (lenBytes ++ framed)

theorem frameBody_fails (flate2 : Flate2) (threshold : Option (BitVec 32)) (staging : Bytes) :
    Fails Textual (frameBody flate2 threshold staging) := by
  cases threshold with
  | none => exact Fails.ok staging
  | some threshold =>
    rw [frameBody]
    split
    · split
      · exact Fails.ok _
      · next e _ => cases e <;> exact Fails.error (Textual.msg _)
    · exact Fails.ok _

theorem lengthPrefix_eq (framed : Bytes) :
    lengthPrefix framed = .ok (VarInt.ofUsize framed.length).encode :=
  if_pos (VarInt.encode_length_le _)

section

variable {env : Env} {threshold : Option (BitVec 32)} {packet : S2CPacket}

theorem outgoing_of {staging framed : Bytes} (hencode : packet.encode env.serde = .ok staging)
    (hframed : frameBody env.flate2 threshold staging = .ok framed) :
    outgoing env threshold packet = .ok ((VarInt.ofUsize framed.length).encode ++ framed) := by
  rw [outgoing, hencode]
  show (do let framed ← frameBody env.flate2 threshold staging; _ : Except Error Bytes) = _
  rw [hframed]
  show (do let lenBytes ← lengthPrefix framed; _ : Except Error Bytes) = _
  rw [lengthPrefix_eq]
  rfl

theorem outgoing_eq_ok {bytes : Bytes} (h : outgoing env threshold packet = .ok bytes) :
    ∃ staging framed, packet.encode env.serde = .ok staging ∧
      frameBody env.flate2 threshold staging = .ok framed ∧
      bytes = (VarInt.ofUsize framed.length).encode ++ framed := by
  cases hencode : packet.encode env.serde with
  | error e =>
    rw [outgoing, hencode] at h
    cases h
  | ok staging =>
    cases hframed : frameBody env.flate2 threshold staging with
    | error e =>
      rw [outgoing, hencode] at h
      change (do let framed ← frameBody env.flate2 threshold staging; _ : Except Error Bytes) = _
        at h
      rw [hframed] at h
      cases h
    | ok framed =>
      rw [outgoing_of hencode hframed] at h
      exact ⟨staging, framed, rfl, hframed, (Except.ok.inj h).symm⟩

end

theorem outgoing_fails (env : Env) (threshold : Option (BitVec 32)) (packet : S2CPacket) :
    Fails Textual (outgoing env threshold packet) := by
  refine (S2CPacket.encode_fails env.serde packet).bind fun staging _ => ?_
  refine (frameBody_fails env.flate2 threshold staging).bind fun framed _ => ?_
  rw [lengthPrefix_eq]
  exact Fails.ok _

/-! ### The socket -/

/-- A write that fails after `delivered` bytes.  It also stands for a write at
which the connection's task is dropped. -/
structure Fault where
  kind : ErrorKind
  delivered : Nat

/-- The socket's writing end: what the peer was sent so far, the number of
packets written, and which of the packet writes fail. -/
structure Socket where
  sent : Bytes
  writes : Nat
  fault : Nat → Option Fault

/-- `write_all` of a packet's bytes, and `flush`. -/
def Socket.write (socket : Socket) (bytes : Bytes) : Option ErrorKind × Socket :=
  match socket.fault socket.writes with
  | none =>
    (none, { socket with sent := socket.sent ++ bytes, writes := socket.writes + 1 })
  | some fault =>
    (some fault.kind,
      { socket with sent := socket.sent ++ bytes.take fault.delivered,
                    writes := socket.writes + 1 })

/-! ### Handlers -/

/-- What a handler does to the world. -/
inductive Effect where
  | send (packet : S2CPacket)
  | enter (state : State)
  | compress (threshold : BitVec 32)

/-- An entry of the history of a connection. -/
inductive Action where
  | received (packet : DecodedC2S)
  | did (effect : Effect)
  | failed (packet : S2CPacket)

/-- A connection with its socket.  `history` is ghost state: nothing reads it. -/
structure World where
  conn : Connection
  socket : Socket
  history : List Action

namespace World

def log (w : World) (action : Action) : World := { w with history := w.history ++ [action] }

def enter (w : World) (state : State) : World :=
  { w with conn := { w.conn with state := state } }.log (.did (.enter state))

def compress (w : World) (threshold : BitVec 32) : World :=
  { w with conn := { w.conn with compressionThreshold := some threshold } }.log
    (.did (.compress threshold))

end World

abbrev Handler := EStateM Error World

def record (action : Action) : Handler Unit := modify fun w => w.log action

/-- `self.write_packet(packet).await?`. -/
def writePacket (env : Env) (packet : S2CPacket) : Handler Unit := fun w =>
  match outgoing env w.conn.compressionThreshold packet with
  | .error e => .error e (w.log (.failed packet))
  | .ok bytes =>
    match w.socket.write bytes with
    | (none, socket) => .ok () ({ w with socket := socket }.log (.did (.send packet)))
    | (some kind, socket) => .error (.io kind) ({ w with socket := socket }.log (.failed packet))

/-- `self.state = state`. -/
def setState (state : State) : Handler Unit := modify fun w => w.enter state

/-- `self.compression_threshold = Some(threshold)`. -/
def setCompressionThreshold (threshold : BitVec 32) : Handler Unit :=
  modify fun w => w.compress threshold

end Statik
