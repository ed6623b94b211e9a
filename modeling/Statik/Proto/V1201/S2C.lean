import Statik.Proto.Common

/-!
# Server-to-client packets of 1.20.1
-/

namespace Statik
namespace V1_20_1

/-! ### Status -/

def s2cStatusResponse : PacketStruct :=
  packet "S2CStatusResponse" 0x00 .status [("json_response", .statusResponse)]

def s2cPong : PacketStruct :=
  packet "S2CPong" 0x01 .status [("payload", .i64)]

/-! ### Login -/

def s2cDisconnect : PacketStruct :=
  packet "S2CDisconnect" 0x00 .login [("reason", .chat)]

def s2cEncryptionRequest : PacketStruct :=
  packet "S2CEncryptionRequest" 0x01 .login
    [("server_id", .string), ("public_key", .vec .u8), ("verify_token", .vec .u8)]

def s2cLoginSuccess : PacketStruct :=
  packet "S2CLoginSuccess" 0x02 .login
    [("uuid", .uuid), ("username", .string), ("properties", .vec property)]

def s2cSetCompression : PacketStruct :=
  packet "S2CSetCompression" 0x03 .login [("threshold", .varInt)]

def s2cLoginPluginRequest : PacketStruct :=
  packet "S2CLoginPluginRequest" 0x04 .login
    [("message_id", .varInt), ("channel", .string), ("data", .vec .u8)]

/-! ### Play -/

def s2cDisconnectPlay : PacketStruct :=
  packet "S2CDisconnectPlay" 0x1A .play [("reason", .chat)]

def s2cGameEvent : PacketStruct :=
  packet "S2CGameEvent" 0x1F .play [("event", .u8), ("param", .f32)]

def s2cKeepAlive : PacketStruct :=
  packet "S2CKeepAlive" 0x23 .play [("id", .i64)]

def s2cLevelChunkWithLight : PacketStruct :=
  packet "S2CLevelChunkWithLight" 0x24 .play [("payload", .rawBytes)]

def s2cLogin : PacketStruct :=
  packet "S2CLogin" 0x28 .play
    [("player_id", .i32), ("hardcore", .bool), ("game_type", .varInt),
     ("previous_game_type", .varInt), ("levels", .vec .string), ("registry_holder", .rawBytes),
     ("dimension_type", .string), ("dimension", .string), ("seed", .i64), ("max_players", .varInt),
     ("chunk_radius", .varInt), ("simulation_distance", .varInt), ("reduced_debug_info", .bool),
     ("show_death_screen", .bool), ("is_debug", .bool), ("is_flat", .bool),
     ("last_death_location", .option .rawBytes), ("portal_cooldown", .varInt)]

def s2cPlayerAbilities : PacketStruct :=
  packet "S2CPlayerAbilities" 0x34 .play
    [("flags", .u8), ("flying_speed", .f32), ("walking_speed", .f32)]

def s2cPlayerPosition : PacketStruct :=
  packet "S2CPlayerPosition" 0x3C .play
    [("x", .f64), ("y", .f64), ("z", .f64), ("y_rot", .f32), ("x_rot", .f32),
     ("relative_arguments", .u8), ("id", .varInt)]

def s2cSetChunkCacheCenter : PacketStruct :=
  packet "S2CSetChunkCacheCenter" 0x4E .play [("x", .varInt), ("z", .varInt)]

def s2cSetChunkCacheRadius : PacketStruct :=
  packet "S2CSetChunkCacheRadius" 0x4F .play [("radius", .varInt)]

def s2cSetDefaultSpawnPosition : PacketStruct :=
  packet "S2CSetDefaultSpawnPosition" 0x50 .play [("location", .blockPos), ("angle", .f32)]

/-! ### The group -/

/-- The variants of `S2CPacket`, in the order of their declaration. -/
inductive S2CVariant where
  | statusResponse
  | pong
  | disconnect
  | encryptionRequest
  | loginSuccess
  | setCompression
  | loginPluginRequest
  | disconnectPlay
  | gameEvent
  | keepAlive
  | levelChunkWithLight
  | login
  | playerAbilities
  | playerPosition
  | setChunkCacheCenter
  | setChunkCacheRadius
  | setDefaultSpawnPosition
  deriving DecidableEq, Repr

namespace S2CVariant

def all : List S2CVariant :=
  [.statusResponse, .pong, .disconnect, .encryptionRequest, .loginSuccess, .setCompression,
   .loginPluginRequest, .disconnectPlay, .gameEvent, .keepAlive, .levelChunkWithLight, .login,
   .playerAbilities, .playerPosition, .setChunkCacheCenter, .setChunkCacheRadius,
   .setDefaultSpawnPosition]

def packet : S2CVariant → PacketStruct
  | .statusResponse => s2cStatusResponse
  | .pong => s2cPong
  | .disconnect => s2cDisconnect
  | .encryptionRequest => s2cEncryptionRequest
  | .loginSuccess => s2cLoginSuccess
  | .setCompression => s2cSetCompression
  | .loginPluginRequest => s2cLoginPluginRequest
  | .disconnectPlay => s2cDisconnectPlay
  | .gameEvent => s2cGameEvent
  | .keepAlive => s2cKeepAlive
  | .levelChunkWithLight => s2cLevelChunkWithLight
  | .login => s2cLogin
  | .playerAbilities => s2cPlayerAbilities
  | .playerPosition => s2cPlayerPosition
  | .setChunkCacheCenter => s2cSetChunkCacheCenter
  | .setChunkCacheRadius => s2cSetChunkCacheRadius
  | .setDefaultSpawnPosition => s2cSetDefaultSpawnPosition

end S2CVariant

abbrev s2c : PacketGroup :=
  { Variant := S2CVariant,
    variants := S2CVariant.all,
    packet := S2CVariant.packet,
    complete := by intro v; cases v <;> decide,
    distinct := by decide +kernel }

/-- `S2CPacket`. -/
abbrev S2CPacket : Type := (v : S2CVariant) × v.packet.Val

end V1_20_1
end Statik
