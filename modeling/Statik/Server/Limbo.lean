import Statik.Proto.VoidChunk
import Statik.Server.Registries

/-!
# The limbo, as its player knows it

What a client in Play makes of the packets it gets: an empty chunk, the position of the
configuration, and keepalives from then on.
-/

namespace Statik

open Wire

/-- What a client in Play has been told. -/
structure Limbo where
  center : Option (VarInt × VarInt) := none
  radius : Option VarInt := none
  chunks : List Chunk := []
  spawn : Option BlockPos := none
  position : Option (BitVec 64 × BitVec 64 × BitVec 64) := none
  abilities : Option Byte := none
  keepAliveIds : List (BitVec 64) := []

namespace Limbo

/-- A chunk that the client cannot read is not there for it. -/
def receiveChunk (limbo : Limbo) (read : Decoder Error Chunk) (payload : Bytes) : Limbo :=
  match read payload with
  | .ok (chunk, []) => { limbo with chunks := limbo.chunks ++ [chunk] }
  | _ => limbo

def receive (limbo : Limbo) : S2CPacket → Limbo
  | .v1_20_1 ⟨.setChunkCacheCenter, x, z, ()⟩
  | .v1_21_1 ⟨.setChunkCacheCenter, x, z, ()⟩ => { limbo with center := some (x, z) }
  | .v1_20_1 ⟨.setChunkCacheRadius, radius, ()⟩
  | .v1_21_1 ⟨.setChunkCacheRadius, radius, ()⟩ => { limbo with radius := some radius }
  | .v1_20_1 ⟨.levelChunkWithLight, payload, ()⟩ => limbo.receiveChunk readChunkV1_20_1 payload
  | .v1_21_1 ⟨.levelChunkWithLight, payload, ()⟩ => limbo.receiveChunk readChunkV1_21_1 payload
  | .v1_20_1 ⟨.setDefaultSpawnPosition, location, _, ()⟩
  | .v1_21_1 ⟨.setDefaultSpawnPosition, location, _, ()⟩ => { limbo with spawn := some location }
  | .v1_20_1 ⟨.playerPosition, x, y, z, _⟩
  | .v1_21_1 ⟨.playerPosition, x, y, z, _⟩ => { limbo with position := some (x, y, z) }
  | .v1_20_1 ⟨.playerAbilities, flags, _⟩
  | .v1_21_1 ⟨.playerAbilities, flags, _⟩ => { limbo with abilities := some flags }
  | .v1_20_1 ⟨.keepAlive, (id : BitVec 64), ()⟩
  | .v1_21_1 ⟨.keepAlive, (id : BitVec 64), ()⟩ =>
    { limbo with keepAliveIds := limbo.keepAliveIds ++ [id] }
  | _ => limbo

/-- The client knows nothing from what it cannot read as a packet of Play. -/
def read (serde : Serde) (protocol : ProtocolKind) (limbo : Limbo) (body : Bytes) : Limbo :=
  match S2CPacket.decodeInState serde protocol .play body with
  | .ok (packet, []) => limbo.receive packet
  | _ => limbo

/-- What the client makes of a packet that it is sent: the spawn comes packed in 26, 12 and
26 bits. -/
def told (limbo : Limbo) : S2CPacket → Limbo
  | .v1_20_1 ⟨.setDefaultSpawnPosition, location, _, ()⟩
  | .v1_21_1 ⟨.setDefaultSpawnPosition, location, _, ()⟩ =>
    { limbo with spawn := some (.fromPacked location.toPacked) }
  | packet => limbo.receive packet

variable {serde : Serde} {limbo : Limbo}

/-! ### Reading the packets of Play -/

theorem read_decoded {protocol : ProtocolKind} {packet : S2CPacket} {body : Bytes}
    (h : S2CPacket.decodeInState serde protocol .play body = .ok (packet, [])) :
    limbo.read serde protocol body = limbo.receive packet := by
  rw [read, h]

theorem read_encoded {packet : S2CPacket} {body : Bytes} (hencode : packet.encode serde = .ok body)
    (hstate : packet.state = .play) (htail : packet.layout.tailDelimited = true)
    (hfaithful : packet.layout.faithful = true) :
    limbo.read serde packet.protocol body = limbo.receive packet := by
  have hread := S2CPacket.decode_encoded hencode htail hfaithful
  rw [hstate] at hread
  exact read_decoded hread

theorem read_ignored {protocol : ProtocolKind} {body : Bytes}
    (h : ∀ packet rest, S2CPacket.decodeInState serde protocol .play body = .ok (packet, rest) →
      limbo.receive packet = limbo) :
    limbo.read serde protocol body = limbo := by
  rw [read]
  split
  · next hread => exact h _ _ hread
  · rfl

/-- Whether or not a login packet is read, it is of no interest here. -/
theorem read_login_v1_20_1 {env : Env} {config : ServerConfig} {body : Bytes}
    (hencode : (V1_20_1.login env config).encode serde = .ok body) :
    limbo.read serde .v1_20_1 body = limbo := by
  refine read_ignored fun packet rest h => ?_
  obtain ⟨⟨v, x⟩, hread, rfl⟩ := Decoder.map_eq_ok.mp h
  obtain rfl : v = .login := PacketGroup.decodeInState_variant (G := V1_20_1.s2c) hencode hread
  rfl

theorem read_login_v1_21_1 {config : ServerConfig} {body : Bytes}
    (hencode : (V1_21_1.login config).encode serde = .ok body) :
    limbo.read serde .v1_21_1 body = limbo := by
  refine read_ignored fun packet rest h => ?_
  obtain ⟨⟨v, x⟩, hread, rfl⟩ := Decoder.map_eq_ok.mp h
  obtain rfl : v = .login := PacketGroup.decodeInState_variant (G := V1_21_1.s2c) hencode hread
  rfl

/-- The packing of a location is all that its encoding depends on. -/
theorem encodeBlockPos_packed (p : BlockPos) :
    encodeBlockPos (.fromPacked p.toPacked) = encodeBlockPos p :=
  congrArg (encodeInt 8) (BlockPos.toPacked_fromPacked p.toPacked)

/-- The packet that sets the spawn, without an angle. -/
def spawnAt (location : BlockPos) : ProtocolKind → S2CPacket
  | .v1_20_1 => .v1_20_1 ⟨.setDefaultSpawnPosition, location, 0, ()⟩
  | .v1_21_1 => .v1_21_1 ⟨.setDefaultSpawnPosition, location, 0, ()⟩

theorem encode_spawnAt (location : BlockPos) (protocol : ProtocolKind) :
    (spawnAt (.fromPacked location.toPacked) protocol).encode serde =
      (spawnAt location protocol).encode serde := by
  have hlocation := encodeBlockPos_packed location
  cases protocol with
  | v1_20_1 =>
    exact congrArg (fun bs => Except.ok ((VarInt.mk 0x50).encode ++ (bs ++ (encodeInt 4 0 ++ []))))
      hlocation
  | v1_21_1 =>
    exact congrArg (fun bs => Except.ok ((VarInt.mk 0x56).encode ++ (bs ++ (encodeInt 4 0 ++ []))))
      hlocation

theorem read_spawn {location : BlockPos} {protocol : ProtocolKind} {body : Bytes}
    (hencode : (spawnAt location protocol).encode serde = .ok body) :
    limbo.read serde protocol body = limbo.told (spawnAt location protocol) := by
  rw [← encode_spawnAt] at hencode
  have hinRange := BlockPos.fromPacked_inRange location.toPacked
  have hread : S2CPacket.decodeInState serde protocol .play body =
      .ok (spawnAt (.fromPacked location.toPacked) protocol, []) := by
    cases protocol with
    | v1_20_1 =>
      exact (PacketGroup.decodeInState_encoded (G := V1_20_1.s2c) hencode rfl
        ⟨hinRange, trivial, trivial⟩).map _
    | v1_21_1 =>
      exact (PacketGroup.decodeInState_encoded (G := V1_21_1.s2c) hencode rfl
        ⟨hinRange, trivial, trivial⟩).map _
  rw [read_decoded hread]
  cases protocol <;> rfl

theorem read_playBurst {env : Env} {config : ServerConfig} {protocol : ProtocolKind}
    {packet : S2CPacket} (hpacket : packet ∈ playBurst env config protocol) {body : Bytes}
    (hencode : packet.encode serde = .ok body) :
    limbo.read serde protocol body = limbo.told packet := by
  cases protocol with
  | v1_20_1 =>
    simp only [playBurst, List.mem_cons, List.not_mem_nil, or_false] at hpacket
    rcases hpacket with rfl | rfl | rfl | rfl | rfl | rfl | rfl | rfl
    · exact read_login_v1_20_1 hencode
    · exact read_encoded hencode rfl rfl rfl
    · exact read_encoded hencode rfl rfl rfl
    · exact read_encoded hencode rfl rfl rfl
    · exact read_spawn hencode
    · exact read_encoded hencode rfl rfl rfl
    · exact read_encoded hencode rfl rfl rfl
    · exact read_encoded hencode rfl rfl rfl
  | v1_21_1 =>
    simp only [playBurst, List.mem_cons, List.not_mem_nil, or_false] at hpacket
    rcases hpacket with rfl | rfl | rfl | rfl | rfl | rfl | rfl | rfl | rfl | rfl
    · exact read_login_v1_21_1 hencode
    · exact read_encoded hencode rfl rfl rfl
    · exact read_encoded hencode rfl rfl rfl
    · exact read_encoded hencode rfl rfl rfl
    · exact read_encoded hencode rfl rfl rfl
    · exact read_encoded hencode rfl rfl rfl
    · exact read_spawn hencode
    · exact read_encoded hencode rfl rfl rfl
    · exact read_encoded hencode rfl rfl rfl
    · exact read_encoded hencode rfl rfl rfl

theorem read_keepAlive {protocol : ProtocolKind} {id : BitVec 64} {body : Bytes}
    (hencode : (keepAlive protocol id).encode serde = .ok body) :
    limbo.read serde protocol body = limbo.told (keepAlive protocol id) := by
  cases protocol with
  | v1_20_1 => exact read_encoded hencode rfl rfl rfl
  | v1_21_1 => exact read_encoded hencode rfl rfl rfl

theorem foldl_read {protocol : ProtocolKind} {packets : List S2CPacket} {bodies : List Bytes}
    (hencodes : Encodes serde packets bodies)
    (hread : ∀ packet ∈ packets, ∀ body, packet.encode serde = .ok body → ∀ limbo : Limbo,
      limbo.read serde protocol body = limbo.told packet) (limbo : Limbo) :
    bodies.foldl (read serde protocol) limbo = packets.foldl told limbo := by
  induction packets generalizing bodies limbo with
  | nil =>
    have hnil : bodies = [] := List.map_eq_nil_iff.mp hencodes.symm
    rw [hnil]
    rfl
  | cons packet packets ih =>
    cases bodies with
    | nil => cases hencodes
    | cons body bodies =>
      obtain ⟨hbody, hbodies⟩ := List.cons.inj hencodes
      obtain ⟨hfirst, hrest⟩ := List.forall_mem_cons.mp hread
      rw [List.foldl_cons, List.foldl_cons, hfirst body hbody limbo]
      exact ih hbodies hrest _

/-! ### What the bursts tell -/

theorem receiveChunk_void {readChunk : Decoder Error Chunk} {payload : Bytes}
    (h : Reads readChunk payload voidChunk) :
    limbo.receiveChunk readChunk payload =
      { limbo with chunks := limbo.chunks ++ [voidChunk] } := by
  rw [receiveChunk, h.all]

theorem told_keepAlives (protocol : ProtocolKind) (n : Nat) (limbo : Limbo) :
    (keepAlives protocol n).foldl told limbo =
      { limbo with keepAliveIds := limbo.keepAliveIds ++ (List.range n).map (BitVec.ofNat 64) } := by
  induction n with
  | zero => simp [keepAlives]
  | succ n ih =>
    have hlast : ∀ limbo : Limbo, limbo.told (keepAlive protocol (BitVec.ofNat 64 n)) =
        { limbo with keepAliveIds := limbo.keepAliveIds ++ [BitVec.ofNat 64 n] } := by
      intro limbo
      cases protocol <;> rfl
    rw [keepAlives_succ, List.foldl_append, ih, List.foldl_cons, List.foldl_nil, hlast,
      List.range_succ, List.map_append, ← List.append_assoc]
    rfl

/-- The limbo of the configuration, after `n` keepalives. -/
def of (config : LimboConfig) (n : Nat) : Limbo :=
  { center := some (⟨0⟩, ⟨0⟩),
    radius := some ⟨config.viewDistance⟩,
    chunks := [voidChunk],
    spawn := some (.fromPacked config.spawn.toPacked),
    position := some (config.x, config.y, config.z),
    abilities := some limboAbilities,
    keepAliveIds := (List.range n).map (BitVec.ofNat 64) }

theorem told_playBurst (env : Env) (config : ServerConfig) (protocol : ProtocolKind) :
    (playBurst env config protocol).foldl told {} = of config.limbo 0 := by
  cases protocol with
  | v1_20_1 =>
    have hchunk : ∀ limbo : Limbo, limbo.told V1_20_1.levelChunkWithLight =
        { limbo with chunks := limbo.chunks ++ [voidChunk] } := by
      intro limbo
      show limbo.receiveChunk readChunkV1_20_1 voidChunkBytesV1_20_1 = _
      exact receiveChunk_void readChunkV1_20_1_reads
    simp only [playBurst, List.foldl_cons, List.foldl_nil, hchunk]
    rfl
  | v1_21_1 =>
    have hchunk : ∀ limbo : Limbo, limbo.told V1_21_1.levelChunkWithLight =
        { limbo with chunks := limbo.chunks ++ [voidChunk] } := by
      intro limbo
      show limbo.receiveChunk readChunkV1_21_1 voidChunkBytesV1_21_1 = _
      exact receiveChunk_void readChunkV1_21_1_reads
    simp only [playBurst, List.foldl_cons, List.foldl_nil, hchunk]
    rfl

end Limbo

theorem configurationBurst_state {env : Env} {packet : S2CPacket}
    (h : packet ∈ configurationBurst env) : packet.state = .configuration := by
  simp only [configurationBurst, List.mem_append, List.mem_cons, List.mem_map,
    List.not_mem_nil, or_false] at h
  rcases h with ((rfl | rfl) | ⟨entry, -, rfl⟩) | rfl | rfl | rfl
  all_goals rfl

/-- In Play the burst of Play and the keepalives come last. -/
theorem InOrder.play {S : Setup} {n : Nat} {output : List S2CPacket} (h : InOrder S .play n output) :
    ∃ earlier : List S2CPacket, (∀ q ∈ earlier, q.state ≠ .play) ∧
      output = earlier ++ (playBurst S.env S.config S.protocol ++ keepAlives S.protocol n) := by
  obtain ⟨replies, hreplies, rfl⟩ := h.parts
  have hnot : ∀ q ∈ replies, q.state ≠ .play := by
    intro q hq
    rcases hreplies q hq with hstate | hstate
    · rw [hstate]
      decide
    · rw [hstate]
      decide
  cases hprotocol : S.protocol with
  | v1_20_1 =>
    refine ⟨replies, hnot, ?_⟩
    rw [Setup.bursts, hprotocol]
  | v1_21_1 =>
    refine ⟨replies ++ configurationBurst S.env, fun q hq => ?_, ?_⟩
    · rcases List.mem_append.mp hq with hq | hq
      · exact hnot q hq
      · rw [configurationBurst_state hq]
        decide
    · rw [Setup.bursts, hprotocol]
      simp only [List.append_assoc]

namespace Setup

/-- A client whose connection has come to Play is in the limbo of the configuration: in the
output, cut into chunks anyhow, it gets some packets of the states before, and reads the
empty chunk, its position and its keepalives in order off all that follow. -/
theorem run_limbo (S : Setup) (fault : Nat → Option Fault) (inputs : List Input)
    (hstate : (S.run fault inputs).state = .play)
    (hsent : ∀ packet, .failed packet ∉ (S.run fault inputs).history)
    (hlawful : S.env.flate2.Lawful)
    (hfits : ∀ pre action post packet, (S.run fault inputs).history = pre ++ action :: post →
      action.effect = some (.send packet) → FitsFrame S.env (thresholdAfter pre) packet) :
    ∃ earlier before after n threshold,
      Encodes S.env.serde earlier before ∧ (∀ q ∈ earlier, q.state ≠ .play) ∧
      (S.run fault inputs).nextKeepaliveId = BitVec.ofNat 64 n ∧
      after.foldl (Limbo.read S.env.serde S.protocol) {} = Limbo.of S.config.limbo n ∧
      ∀ chunks : List Bytes, chunks.flatten = (S.run fault inputs).world.socket.sent →
        chunks.foldl (receiver S.env S.protocol).feed
            { items := [], state := none, pending := [] } =
          { items := before ++ after, state := threshold, pending := [] } := by
  obtain ⟨bodies, threshold, hbodies, hreceived⟩ := run_received S fault inputs hsent hlawful hfits
  obtain ⟨n, horder, hcount⟩ : ∃ n, InOrder S .play n (passed (S.run fault inputs).history) ∧
      (S.run fault inputs).nextKeepaliveId = BitVec.ofNat 64 n := by
    rcases counted_run S fault inputs with ⟨packet, hmem⟩ | hcounted
    · exact absurd hmem (hsent packet)
    · rwa [hstate] at hcounted
  obtain ⟨earlier, hearlier, hpassed⟩ := horder.play
  rw [hpassed] at hbodies
  obtain ⟨before, after, rfl, hbefore, hafter⟩ := hbodies.split
  obtain ⟨burst, ids, rfl, hburst, hids⟩ := hafter.split
  refine ⟨earlier, before, burst ++ ids, n, threshold, hbefore, hearlier, hcount, ?_, hreceived⟩
  rw [List.foldl_append, Limbo.foldl_read hburst fun _ hpacket _ hencode _ =>
      Limbo.read_playBurst hpacket hencode, Limbo.told_playBurst,
    Limbo.foldl_read hids fun packet hpacket body hencode limbo => ?_, Limbo.told_keepAlives]
  · rfl
  · obtain ⟨id, -, rfl⟩ := List.mem_map.mp hpacket
    exact Limbo.read_keepAlive hencode

theorem joiningTicks_limbo : ∃ (bodies : List Bytes) (n : Nat),
    bodies.foldl (Limbo.read .plain .v1_20_1) {} = Limbo.of ServerConfig.default.limbo n ∧
      BitVec.ofNat 64 n = 2 := by
  obtain ⟨-, -, after, n, -, -, -, hcount, hlimbo, -⟩ :=
    run_limbo (Setup.bare .v1_20_1 false) (fun _ => none) joiningTicks (by decide +kernel)
      (not_failed (by decide +kernel)) (fun b compressed h => (Except.ok.inj h).symm)
      (fun pre action post packet heq heffect =>
        Fitting.at (by decide +kernel : Fitting (Setup.bare .v1_20_1 false).env .v1_20_1 none
          ((Setup.bare .v1_20_1 false).run (fun _ => none) joiningTicks).history) heq heffect)
  have hticks : (Setup.bareRun .v1_20_1 false joiningTicks).nextKeepaliveId = 2 := by
    decide +kernel
  exact ⟨after, n, hlimbo, hcount.symm.trans hticks⟩

end Setup

end Statik
