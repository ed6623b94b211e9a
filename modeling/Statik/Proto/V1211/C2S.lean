import Statik.Proto.Common

/-!
# Client-to-server packets of 1.21.1
-/

namespace Statik
namespace V1_21_1

/-! ### Handshake -/

def c2sHandshake : PacketStruct :=
  packet "C2SHandshake" 0x00 .handshake
    [("protocol_version", .varInt), ("server_address", .string), ("server_port", .u16),
     ("next_state", .clientIntent)]

/-! ### Status -/

def c2sStatusRequest : PacketStruct :=
  packet "C2SStatusRequest" 0x00 .status []

def c2sPing : PacketStruct :=
  packet "C2SPing" 0x01 .status [("payload", .i64)]

/-! ### Login -/

def c2sHello : PacketStruct :=
  packet "C2SHello" 0x00 .login [("name", .string), ("profile_id", .uuid)]

def c2sKey : PacketStruct :=
  packet "C2SKey" 0x01 .login [("public_key", .vec .u8), ("verify_token", .vec .u8)]

def c2sCustomQueryAnswer : PacketStruct :=
  packet "C2SCustomQueryAnswer" 0x02 .login
    [("transaction_id", .varInt), ("data", .option .rawBytes)]

def c2sLoginAcknowledged : PacketStruct :=
  packet "C2SLoginAcknowledged" 0x03 .login []

def c2sLoginCookieResponse : PacketStruct :=
  packet "C2SLoginCookieResponse" 0x04 .login [("key", .string), ("payload", .option .rawBytes)]

/-! ### Configuration -/

def c2sClientInformation : PacketStruct :=
  packet "C2SClientInformation" 0x00 .configuration
    [("locale", .string), ("view_distance", .i8), ("chat_mode", .varInt), ("chat_colors", .bool),
     ("skin_parts", .u8), ("main_hand", .varInt), ("text_filtering_enabled", .bool),
     ("allows_listing", .bool)]

def c2sCookieResponse : PacketStruct :=
  packet "C2SCookieResponse" 0x01 .configuration [("key", .string), ("payload", .option .rawBytes)]

def c2sConfigurationCustomPayload : PacketStruct :=
  packet "C2SConfigurationCustomPayload" 0x02 .configuration
    [("channel", .string), ("data", .rawBytes)]

def c2sFinishConfiguration : PacketStruct :=
  packet "C2SFinishConfiguration" 0x03 .configuration []

def c2sConfigurationKeepAlive : PacketStruct :=
  packet "C2SConfigurationKeepAlive" 0x04 .configuration [("id", .i64)]

def c2sPongConfiguration : PacketStruct :=
  packet "C2SPongConfiguration" 0x05 .configuration [("id", .i32)]

def c2sResourcePackResponse : PacketStruct :=
  packet "C2SResourcePackResponse" 0x06 .configuration [("uuid", .uuid), ("result", .varInt)]

def c2sSelectKnownPacks : PacketStruct :=
  packet "C2SSelectKnownPacks" 0x07 .configuration [("known_packs", .vec knownPack)]

/-! ### Play -/

def c2sAcceptTeleportation : PacketStruct :=
  packet "C2SAcceptTeleportation" 0x00 .play [("id", .varInt)]

def c2sChunkBatchReceived : PacketStruct :=
  packet "C2SChunkBatchReceived" 0x08 .play [("desired_chunks_per_tick", .f32)]

def c2sKeepAlive : PacketStruct :=
  packet "C2SKeepAlive" 0x18 .play [("id", .i64)]

def c2sPlayerPos : PacketStruct :=
  packet "C2SPlayerPos" 0x1A .play [("x", .f64), ("y", .f64), ("z", .f64), ("on_ground", .bool)]

def c2sPlayerPosRot : PacketStruct :=
  packet "C2SPlayerPosRot" 0x1B .play
    [("x", .f64), ("y", .f64), ("z", .f64), ("y_rot", .f32), ("x_rot", .f32), ("on_ground", .bool)]

def c2sPlayerRot : PacketStruct :=
  packet "C2SPlayerRot" 0x1C .play [("y_rot", .f32), ("x_rot", .f32), ("on_ground", .bool)]

def c2sPlayerFlying : PacketStruct :=
  packet "C2SPlayerFlying" 0x1D .play [("on_ground", .bool)]

/-! ### The group -/

/-- The variants of `C2SPacket`, in the order of their declaration. -/
inductive C2SVariant where
  | handshake
  | statusRequest
  | ping
  | hello
  | key
  | customQueryAnswer
  | loginAcknowledged
  | cookieResponse
  | clientInformation
  | configurationCookieResponse
  | configurationCustomPayload
  | finishConfigurationAck
  | configurationKeepAlive
  | pongConfiguration
  | resourcePackResponse
  | selectKnownPacks
  | acceptTeleportation
  | chunkBatchReceived
  | keepAlive
  | playerPos
  | playerPosRot
  | playerRot
  | playerFlying
  deriving DecidableEq, Repr

namespace C2SVariant

def all : List C2SVariant :=
  [.handshake, .statusRequest, .ping, .hello, .key, .customQueryAnswer, .loginAcknowledged,
   .cookieResponse, .clientInformation, .configurationCookieResponse, .configurationCustomPayload,
   .finishConfigurationAck, .configurationKeepAlive, .pongConfiguration, .resourcePackResponse,
   .selectKnownPacks, .acceptTeleportation, .chunkBatchReceived, .keepAlive, .playerPos,
   .playerPosRot, .playerRot, .playerFlying]

def packet : C2SVariant → PacketStruct
  | .handshake => c2sHandshake
  | .statusRequest => c2sStatusRequest
  | .ping => c2sPing
  | .hello => c2sHello
  | .key => c2sKey
  | .customQueryAnswer => c2sCustomQueryAnswer
  | .loginAcknowledged => c2sLoginAcknowledged
  | .cookieResponse => c2sLoginCookieResponse
  | .clientInformation => c2sClientInformation
  | .configurationCookieResponse => c2sCookieResponse
  | .configurationCustomPayload => c2sConfigurationCustomPayload
  | .finishConfigurationAck => c2sFinishConfiguration
  | .configurationKeepAlive => c2sConfigurationKeepAlive
  | .pongConfiguration => c2sPongConfiguration
  | .resourcePackResponse => c2sResourcePackResponse
  | .selectKnownPacks => c2sSelectKnownPacks
  | .acceptTeleportation => c2sAcceptTeleportation
  | .chunkBatchReceived => c2sChunkBatchReceived
  | .keepAlive => c2sKeepAlive
  | .playerPos => c2sPlayerPos
  | .playerPosRot => c2sPlayerPosRot
  | .playerRot => c2sPlayerRot
  | .playerFlying => c2sPlayerFlying

end C2SVariant

abbrev c2s : PacketGroup :=
  { Variant := C2SVariant,
    variants := C2SVariant.all,
    packet := C2SVariant.packet,
    complete := by intro v; cases v <;> decide,
    distinct := by decide +kernel }

/-- `C2SPacket`. -/
abbrev C2SPacket : Type := (v : C2SVariant) × v.packet.Val

end V1_21_1
end Statik
