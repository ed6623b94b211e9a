import Statik.Server.Connection

/-!
# The packets the server writes

Each is a packet struct of its version with the field values of its write site.
-/

namespace Statik

open Wire

/-- `BlockPos::new` on the configured position. -/
def LimboConfig.spawn (limbo : LimboConfig) : BlockPos :=
  { x := f64AsI32 limbo.x, y := f64AsI32 limbo.y, z := f64AsI32 limbo.z }

/-- The abilities of a player in limbo. -/
def limboAbilities : Byte := abilities.invulnerable ||| abilities.flying ||| abilities.canFly

-- 0.05 and 0.1
def flyingSpeed : BitVec 32 := 0x3d4ccccd

def walkingSpeed : BitVec 32 := 0x3dcccccd

/-- `StatusResponse::new` with the arguments of `handle_status`. -/
def ServerConfig.status (config : ServerConfig) (protocol : ProtocolKind) : StatusResponse :=
  .new protocol.minecraftVersion protocol.protocolVersion
    { max := config.mc.maxPlayers, online := 0, sample := [] } ⟨config.mc.motd⟩ config.mc.icon
    false

namespace V1_20_1

def statusResponse (config : ServerConfig) (protocol : ProtocolKind) : Statik.S2CPacket :=
  .v1_20_1 ⟨.statusResponse, config.status protocol, ()⟩

def pong (payload : BitVec 64) : Statik.S2CPacket := .v1_20_1 ⟨.pong, payload, ()⟩

def disconnect (reason : String) : Statik.S2CPacket := .v1_20_1 ⟨.disconnect, ⟨reason⟩, ()⟩

def setCompression (threshold : BitVec 32) : Statik.S2CPacket :=
  .v1_20_1 ⟨.setCompression, ⟨threshold⟩, ()⟩

/-- The nil uuid and no properties. -/
def loginSuccess (username : String) : Statik.S2CPacket :=
  .v1_20_1 ⟨.loginSuccess, 0, username, [], ()⟩

def login (env : Env) (config : ServerConfig) : Statik.S2CPacket :=
  .v1_20_1 ⟨.login,
    -- player_id, hardcore, game_type, previous_game_type, levels
    0, false, ⟨config.limbo.gamemode⟩, ⟨config.limbo.gamemode⟩, [config.limbo.dimension],
    registryBytes env.includeBytes,
    -- dimension_type, dimension, seed
    "minecraft:overworld", config.limbo.dimension, 0,
    ⟨config.mc.maxPlayers⟩, ⟨config.limbo.viewDistance⟩, ⟨config.limbo.simulationDistance⟩,
    -- reduced_debug_info, show_death_screen, is_debug, is_flat
    true, false, false, false,
    -- last_death_location, portal_cooldown
    none, ⟨0⟩, ()⟩

def setChunkCacheCenter : Statik.S2CPacket := .v1_20_1 ⟨.setChunkCacheCenter, ⟨0⟩, ⟨0⟩, ()⟩

def setChunkCacheRadius (config : ServerConfig) : Statik.S2CPacket :=
  .v1_20_1 ⟨.setChunkCacheRadius, ⟨config.limbo.viewDistance⟩, ()⟩

def levelChunkWithLight : Statik.S2CPacket :=
  .v1_20_1 ⟨.levelChunkWithLight, voidChunkBytesV1_20_1, ()⟩

def setDefaultSpawnPosition (config : ServerConfig) : Statik.S2CPacket :=
  .v1_20_1 ⟨.setDefaultSpawnPosition, config.limbo.spawn, 0, ()⟩

/-- The configured position, no rotation, no relative arguments, teleport id 0. -/
def playerPosition (config : ServerConfig) : Statik.S2CPacket :=
  .v1_20_1 ⟨.playerPosition, config.limbo.x, config.limbo.y, config.limbo.z, 0, 0, 0, ⟨0⟩, ()⟩

def playerAbilities : Statik.S2CPacket :=
  .v1_20_1 ⟨.playerAbilities, limboAbilities, flyingSpeed, walkingSpeed, ()⟩

def gameEvent : Statik.S2CPacket := .v1_20_1 ⟨.gameEvent, 12, 0, ()⟩

def keepAlive (id : BitVec 64) : Statik.S2CPacket := .v1_20_1 ⟨.keepAlive, id, ()⟩

end V1_20_1

namespace V1_21_1

def statusResponse (config : ServerConfig) (protocol : ProtocolKind) : Statik.S2CPacket :=
  .v1_21_1 ⟨.statusResponse, config.status protocol, ()⟩

def pong (payload : BitVec 64) : Statik.S2CPacket := .v1_21_1 ⟨.pong, payload, ()⟩

def disconnect (reason : String) : Statik.S2CPacket := .v1_21_1 ⟨.disconnect, ⟨reason⟩, ()⟩

def setCompression (threshold : BitVec 32) : Statik.S2CPacket :=
  .v1_21_1 ⟨.setCompression, ⟨threshold⟩, ()⟩

/-- The nil uuid, no properties and no strict error handling. -/
def loginSuccess (name : String) : Statik.S2CPacket :=
  .v1_21_1 ⟨.loginSuccess, 0, name, [], false, ()⟩

def brandBytes : Bytes := (VarInt.mk 6).encode ++ utf8 "statik"

def customPayload : Statik.S2CPacket :=
  .v1_21_1 ⟨.customPayload, "minecraft:brand", brandBytes, ()⟩

def featureFlags : Statik.S2CPacket := .v1_21_1 ⟨.featureFlags, ["minecraft:vanilla"], ()⟩

def registryData (entry : String × Bytes) : Statik.S2CPacket :=
  .v1_21_1 ⟨.registryData, entry.1, entry.2, ()⟩

def updateTags : Statik.S2CPacket := .v1_21_1 ⟨.updateTags, [], ()⟩

def knownPacks : Statik.S2CPacket :=
  .v1_21_1 ⟨.knownPacks, [("minecraft", "core", "1.21.1", ())], ()⟩

def finishConfiguration : Statik.S2CPacket := .v1_21_1 ⟨.finishConfiguration, ()⟩

def login (config : ServerConfig) : Statik.S2CPacket :=
  .v1_21_1 ⟨.login,
    -- entity_id, is_hardcore, world_names
    0, false, [config.limbo.dimension],
    ⟨config.mc.maxPlayers⟩, ⟨config.limbo.viewDistance⟩, ⟨config.limbo.simulationDistance⟩,
    -- reduced_debug_info, enable_respawn_screen, do_limited_crafting
    false, false, false,
    -- world_state: dimension, name, hashed_seed, gamemode, previous_gamemode, is_debug, is_flat,
    -- death, portal_cooldown
    (⟨0⟩, config.limbo.dimension, 0, config.limbo.gamemode.setWidth 8, 0xff, false, true, none,
      ⟨0⟩, ()),
    -- enforces_secure_chat
    false, ()⟩

def setChunkCacheCenter : Statik.S2CPacket := .v1_21_1 ⟨.setChunkCacheCenter, ⟨0⟩, ⟨0⟩, ()⟩

def setChunkCacheRadius (config : ServerConfig) : Statik.S2CPacket :=
  .v1_21_1 ⟨.setChunkCacheRadius, ⟨config.limbo.viewDistance⟩, ()⟩

def chunkBatchStart : Statik.S2CPacket := .v1_21_1 ⟨.chunkBatchStart, ()⟩

def levelChunkWithLight : Statik.S2CPacket :=
  .v1_21_1 ⟨.levelChunkWithLight, voidChunkBytesV1_21_1, ()⟩

def chunkBatchFinished : Statik.S2CPacket := .v1_21_1 ⟨.chunkBatchFinished, ⟨1⟩, ()⟩

def setDefaultSpawnPosition (config : ServerConfig) : Statik.S2CPacket :=
  .v1_21_1 ⟨.setDefaultSpawnPosition, config.limbo.spawn, 0, ()⟩

/-- The configured position, no rotation, no relative arguments, teleport id 0. -/
def playerPosition (config : ServerConfig) : Statik.S2CPacket :=
  .v1_21_1 ⟨.playerPosition, config.limbo.x, config.limbo.y, config.limbo.z, 0, 0, 0, ⟨0⟩, ()⟩

def playerAbilities : Statik.S2CPacket :=
  .v1_21_1 ⟨.playerAbilities, limboAbilities, flyingSpeed, walkingSpeed, ()⟩

def gameEvent : Statik.S2CPacket := .v1_21_1 ⟨.gameEvent, 13, 0, ()⟩

def keepAlive (id : BitVec 64) : Statik.S2CPacket := .v1_21_1 ⟨.keepAlive, id, ()⟩

end V1_21_1

end Statik
