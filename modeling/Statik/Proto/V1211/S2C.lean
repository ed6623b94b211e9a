import Statik.Proto.Common

/-!
# Server-to-client packets of 1.21.1
-/

namespace Statik
namespace V1_21_1

/-! ### Status -/

def s2cStatusResponse : PacketStruct :=
  packet "S2CStatusResponse" 0x00 .status [("json_response", .statusResponse)]

def s2cPong : PacketStruct :=
  packet "S2CPong" 0x01 .status [("payload", .i64)]

/-! ### Login -/

def s2cDisconnect : PacketStruct :=
  packet "S2CDisconnect" 0x00 .login [("reason", .chat)]

def s2cEncryptionRequest : PacketStruct :=
  packet "S2CEncryptionRequest" 0x01 .login
    [("server_id", .string), ("public_key", .vec .u8), ("verify_token", .vec .u8)]

def s2cLoginSuccess : PacketStruct :=
  packet "S2CLoginSuccess" 0x02 .login
    [("uuid", .uuid), ("username", .string), ("properties", .vec property),
     ("strict_error_handling", .bool)]

def s2cSetCompression : PacketStruct :=
  packet "S2CSetCompression" 0x03 .login [("threshold", .varInt)]

def s2cLoginPluginRequest : PacketStruct :=
  packet "S2CLoginPluginRequest" 0x04 .login
    [("message_id", .varInt), ("channel", .string), ("data", .vec .u8)]

/-! ### Configuration -/

def s2cCustomPayload : PacketStruct :=
  packet "S2CCustomPayload" 0x01 .configuration [("channel", .string), ("data", .rawBytes)]

def s2cDisconnectConfiguration : PacketStruct :=
  packet "S2CDisconnectConfiguration" 0x02 .configuration [("reason", .chat)]

def s2cFinishConfiguration : PacketStruct :=
  packet "S2CFinishConfiguration" 0x03 .configuration []

def s2cConfigurationKeepAlive : PacketStruct :=
  packet "S2CConfigurationKeepAlive" 0x04 .configuration [("keep_alive_id", .i64)]

def s2cPingConfiguration : PacketStruct :=
  packet "S2CPingConfiguration" 0x05 .configuration [("id", .i32)]

def s2cRegistryData : PacketStruct :=
  packet "S2CRegistryData" 0x07 .configuration [("registry_id", .string), ("data", .rawBytes)]

def s2cFeatureFlags : PacketStruct :=
  packet "S2CFeatureFlags" 0x0C .configuration [("features", .vec .string)]

def s2cUpdateTags : PacketStruct :=
  packet "S2CUpdateTags" 0x0D .configuration [("tags", .vec tagGroup)]

def s2cKnownPacks : PacketStruct :=
  packet "S2CKnownPacks" 0x0E .configuration [("packs", .vec knownPack)]

/-! ### Play -/

def s2cChunkBatchFinished : PacketStruct :=
  packet "S2CChunkBatchFinished" 0x0C .play [("batch_size", .varInt)]

def s2cChunkBatchStart : PacketStruct :=
  packet "S2CChunkBatchStart" 0x0D .play []

def s2cDisconnectPlay : PacketStruct :=
  packet "S2CDisconnectPlay" 0x1A .play [("reason", .chat)]

def s2cGameEvent : PacketStruct :=
  packet "S2CGameEvent" 0x22 .play [("event", .u8), ("param", .f32)]

def s2cKeepAlive : PacketStruct :=
  packet "S2CKeepAlive" 0x26 .play [("id", .i64)]

def s2cLevelChunkWithLight : PacketStruct :=
  packet "S2CLevelChunkWithLight" 0x27 .play [("payload", .rawBytes)]

def deathLocation : Layout :=
  .struct "DeathLocation" [("dimension_name", .string), ("location", .blockPos)]

def spawnInfo : Layout :=
  .struct "SpawnInfo"
    [("dimension", .varInt), ("name", .string), ("hashed_seed", .i64), ("gamemode", .i8),
     ("previous_gamemode", .u8), ("is_debug", .bool), ("is_flat", .bool),
     ("death", .option deathLocation), ("portal_cooldown", .varInt)]

def s2cLogin : PacketStruct :=
  packet "S2CLogin" 0x2B .play
    [("entity_id", .i32), ("is_hardcore", .bool), ("world_names", .vec .string),
     ("max_players", .varInt), ("view_distance", .varInt), ("simulation_distance", .varInt),
     ("reduced_debug_info", .bool), ("enable_respawn_screen", .bool),
     ("do_limited_crafting", .bool), ("world_state", spawnInfo), ("enforces_secure_chat", .bool)]

def s2cPlayerAbilities : PacketStruct :=
  packet "S2CPlayerAbilities" 0x38 .play
    [("flags", .u8), ("flying_speed", .f32), ("walking_speed", .f32)]

def s2cPlayerPosition : PacketStruct :=
  packet "S2CPlayerPosition" 0x40 .play
    [("x", .f64), ("y", .f64), ("z", .f64), ("y_rot", .f32), ("x_rot", .f32),
     ("relative_arguments", .u8), ("id", .varInt)]

def s2cSetChunkCacheCenter : PacketStruct :=
  packet "S2CSetChunkCacheCenter" 0x54 .play [("x", .varInt), ("z", .varInt)]

def s2cSetChunkCacheRadius : PacketStruct :=
  packet "S2CSetChunkCacheRadius" 0x55 .play [("radius", .varInt)]

def s2cSetDefaultSpawnPosition : PacketStruct :=
  packet "S2CSetDefaultSpawnPosition" 0x56 .play [("location", .blockPos), ("angle", .f32)]

/-! ### The group -/

/-- The variants of `S2CPacket`, in the order of their declaration. -/
inductive S2CVariant where
  | statusResponse
  | pong
  | disconnect
  | encryptionRequest
  | loginSuccess
  | setCompression
  | loginPluginRequest
  | customPayload
  | disconnectConfiguration
  | finishConfiguration
  | configurationKeepAlive
  | pingConfiguration
  | registryData
  | featureFlags
  | updateTags
  | knownPacks
  | chunkBatchStart
  | chunkBatchFinished
  | disconnectPlay
  | gameEvent
  | keepAlive
  | levelChunkWithLight
  | login
  | playerAbilities
  | playerPosition
  | setChunkCacheCenter
  | setChunkCacheRadius
  | setDefaultSpawnPosition
  deriving DecidableEq, Repr

namespace S2CVariant

def all : List S2CVariant :=
  [.statusResponse, .pong, .disconnect, .encryptionRequest, .loginSuccess, .setCompression,
   .loginPluginRequest, .customPayload, .disconnectConfiguration, .finishConfiguration,
   .configurationKeepAlive, .pingConfiguration, .registryData, .featureFlags, .updateTags,
   .knownPacks, .chunkBatchStart, .chunkBatchFinished, .disconnectPlay, .gameEvent, .keepAlive,
   .levelChunkWithLight, .login, .playerAbilities, .playerPosition, .setChunkCacheCenter,
   .setChunkCacheRadius, .setDefaultSpawnPosition]

def packet : S2CVariant → PacketStruct
  | .statusResponse => s2cStatusResponse
  | .pong => s2cPong
  | .disconnect => s2cDisconnect
  | .encryptionRequest => s2cEncryptionRequest
  | .loginSuccess => s2cLoginSuccess
  | .setCompression => s2cSetCompression
  | .loginPluginRequest => s2cLoginPluginRequest
  | .customPayload => s2cCustomPayload
  | .disconnectConfiguration => s2cDisconnectConfiguration
  | .finishConfiguration => s2cFinishConfiguration
  | .configurationKeepAlive => s2cConfigurationKeepAlive
  | .pingConfiguration => s2cPingConfiguration
  | .registryData => s2cRegistryData
  | .featureFlags => s2cFeatureFlags
  | .updateTags => s2cUpdateTags
  | .knownPacks => s2cKnownPacks
  | .chunkBatchStart => s2cChunkBatchStart
  | .chunkBatchFinished => s2cChunkBatchFinished
  | .disconnectPlay => s2cDisconnectPlay
  | .gameEvent => s2cGameEvent
  | .keepAlive => s2cKeepAlive
  | .levelChunkWithLight => s2cLevelChunkWithLight
  | .login => s2cLogin
  | .playerAbilities => s2cPlayerAbilities
  | .playerPosition => s2cPlayerPosition
  | .setChunkCacheCenter => s2cSetChunkCacheCenter
  | .setChunkCacheRadius => s2cSetChunkCacheRadius
  | .setDefaultSpawnPosition => s2cSetDefaultSpawnPosition

end S2CVariant

abbrev s2c : PacketGroup :=
  { Variant := S2CVariant,
    variants := S2CVariant.all,
    packet := S2CVariant.packet,
    complete := by intro v; cases v <;> decide,
    distinct := by decide +kernel }

/-- `S2CPacket`. -/
abbrev S2CPacket : Type := (v : S2CVariant) × v.packet.Val

end V1_21_1
end Statik
