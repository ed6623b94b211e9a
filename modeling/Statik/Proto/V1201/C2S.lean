import Statik.Proto.Common

/-!
# Client-to-server packets of 1.20.1
-/

namespace Statik
namespace V1_20_1

/-! ### Handshake -/

def c2sHandshake : PacketStruct :=
  packet "C2SHandshake" 0x00 .handshake
    [("protocol_version", .varInt), ("server_address", .string), ("server_port", .u16),
     ("next_state", .clientIntent)]

/-! ### Status -/

def c2sStatusRequest : PacketStruct :=
  packet "C2SStatusRequest" 0x00 .status []

def c2sPing : PacketStruct :=
  packet "C2SPing" 0x01 .status [("payload", .i64)]

/-! ### Login -/

def c2sLoginStart : PacketStruct :=
  packet "C2SLoginStart" 0x00 .login [("username", .string), ("uuid", .option .uuid)]

def c2sEncryptionResponse : PacketStruct :=
  packet "C2SEncryptionResponse" 0x01 .login [("public_key", .vec .u8), ("verify_token", .vec .u8)]

def c2sLoginPluginResponse : PacketStruct :=
  packet "C2SLoginPluginResponse" 0x02 .login [("message_id", .varInt), ("data", .option .rawBytes)]

/-! ### Play -/

def c2sAcceptTeleportation : PacketStruct :=
  packet "C2SAcceptTeleportation" 0x00 .play [("id", .varInt)]

def c2sQueryBlockNbt : PacketStruct :=
  packet "C2SQueryBlockNbt" 0x01 .play [("transaction_id", .varInt), ("location", .blockPos)]

def c2sChangeDifficulty : PacketStruct :=
  packet "C2SChangeDifficulty" 0x02 .play [("new_difficulty", .u8)]

def c2sChatAck : PacketStruct :=
  packet "C2SChatAck" 0x03 .play [("count", .varInt)]

def argumentSignature : Layout :=
  .struct "ArgumentSignature" [("argument_name", .string), ("signature", .byteArray 256)]

def c2sChatCommand : PacketStruct :=
  packet "C2SChatCommand" 0x04 .play
    [("command", .string), ("timestamp", .i64), ("salt", .i64),
     ("argument_signatures", .vec argumentSignature), ("message_count", .varInt),
     ("acknowledged", .byteArray 3)]

def c2sChatMessage : PacketStruct :=
  packet "C2SChatMessage" 0x05 .play
    [("message", .string), ("timestamp", .i64), ("salt", .i64),
     ("signature", .option (.byteArray 256)), ("offset", .varInt), ("acknowledged", .byteArray 3)]

def c2sChatSessionUpdate : PacketStruct :=
  packet "C2SChatSessionUpdate" 0x06 .play
    [("session_uuid", .uuid), ("expire_time", .i64), ("public_key", .vec .u8),
     ("signature", .vec .u8)]

def c2sClientCommand : PacketStruct :=
  packet "C2SClientCommand" 0x07 .play [("action_id", .varInt)]

def c2sClientInformation : PacketStruct :=
  packet "C2SClientInformation" 0x08 .play
    [("language", .string), ("view_distance", .i8), ("chat_visibility", .varInt),
     ("chat_colors", .bool), ("skin_parts", .u8), ("main_hand", .varInt),
     ("text_filtering_enabled", .bool), ("allows_listing", .bool)]

def c2sCommandSuggestion : PacketStruct :=
  packet "C2SCommandSuggestion" 0x09 .play [("transaction_id", .varInt), ("text", .string)]

def c2sEnchantItem : PacketStruct :=
  packet "C2SEnchantItem" 0x0A .play [("window_id", .i8), ("enchantment", .i8)]

def c2sContainerClick : PacketStruct :=
  packet "C2SContainerClick" 0x0B .play
    [("window_id", .u8), ("state_id", .varInt), ("slot", .i16), ("mouse_button", .i8),
     ("mode", .varInt), ("rest", .rawBytes)]

def c2sContainerClose : PacketStruct :=
  packet "C2SContainerClose" 0x0C .play [("window_id", .u8)]

def c2sCustomPayload : PacketStruct :=
  packet "C2SCustomPayload" 0x0D .play [("channel", .string), ("data", .rawBytes)]

def c2sEditBook : PacketStruct :=
  packet "C2SEditBook" 0x0E .play
    [("hand", .varInt), ("pages", .vec .string), ("title", .option .string)]

def c2sQueryEntityNbt : PacketStruct :=
  packet "C2SQueryEntityNbt" 0x0F .play [("transaction_id", .varInt), ("entity_id", .varInt)]

def c2sInteract : PacketStruct :=
  packet "C2SInteract" 0x10 .play [("target", .varInt), ("mouse", .varInt), ("rest", .rawBytes)]

def c2sGenerateStructure : PacketStruct :=
  packet "C2SGenerateStructure" 0x11 .play
    [("location", .blockPos), ("levels", .varInt), ("keep_jigsaws", .bool)]

def c2sKeepAlive : PacketStruct :=
  packet "C2SKeepAlive" 0x12 .play [("id", .i64)]

def c2sLockDifficulty : PacketStruct :=
  packet "C2SLockDifficulty" 0x13 .play [("locked", .bool)]

def c2sPlayerPos : PacketStruct :=
  packet "C2SPlayerPos" 0x14 .play [("x", .f64), ("y", .f64), ("z", .f64), ("on_ground", .bool)]

def c2sPlayerPosRot : PacketStruct :=
  packet "C2SPlayerPosRot" 0x15 .play
    [("x", .f64), ("y", .f64), ("z", .f64), ("y_rot", .f32), ("x_rot", .f32), ("on_ground", .bool)]

def c2sPlayerRot : PacketStruct :=
  packet "C2SPlayerRot" 0x16 .play [("y_rot", .f32), ("x_rot", .f32), ("on_ground", .bool)]

def c2sPlayerStatusOnly : PacketStruct :=
  packet "C2SPlayerStatusOnly" 0x17 .play [("on_ground", .bool)]

def c2sMoveVehicle : PacketStruct :=
  packet "C2SMoveVehicle" 0x18 .play
    [("x", .f64), ("y", .f64), ("z", .f64), ("y_rot", .f32), ("x_rot", .f32)]

def c2sPaddleBoat : PacketStruct :=
  packet "C2SPaddleBoat" 0x19 .play [("left_paddle", .bool), ("right_paddle", .bool)]

def c2sPickItem : PacketStruct :=
  packet "C2SPickItem" 0x1A .play [("slot", .varInt)]

def c2sPlaceRecipe : PacketStruct :=
  packet "C2SPlaceRecipe" 0x1B .play [("window_id", .i8), ("recipe", .string), ("make_all", .bool)]

def c2sPlayerAbilities : PacketStruct :=
  packet "C2SPlayerAbilities" 0x1C .play [("flags", .i8)]

def c2sPlayerAction : PacketStruct :=
  packet "C2SPlayerAction" 0x1D .play
    [("status", .varInt), ("location", .blockPos), ("face", .i8), ("sequence", .varInt)]

def c2sPlayerCommand : PacketStruct :=
  packet "C2SPlayerCommand" 0x1E .play
    [("entity_id", .varInt), ("action_id", .varInt), ("jump_boost", .varInt)]

def c2sPlayerInput : PacketStruct :=
  packet "C2SPlayerInput" 0x1F .play [("sideways", .f32), ("forward", .f32), ("flags", .u8)]

def c2sPong : PacketStruct :=
  packet "C2SPong" 0x20 .play [("id", .i32)]

def c2sRecipeBookChangeSettings : PacketStruct :=
  packet "C2SRecipeBookChangeSettings" 0x21 .play
    [("book_id", .varInt), ("book_open", .bool), ("filter_active", .bool)]

def c2sRecipeBookSeenRecipe : PacketStruct :=
  packet "C2SRecipeBookSeenRecipe" 0x22 .play [("recipe_id", .string)]

def c2sRenameItem : PacketStruct :=
  packet "C2SRenameItem" 0x23 .play [("name", .string)]

def c2sResourcePack : PacketStruct :=
  packet "C2SResourcePack" 0x24 .play [("result", .varInt)]

def c2sSeenAdvancements : PacketStruct :=
  packet "C2SSeenAdvancements" 0x25 .play [("action", .varInt), ("rest", .rawBytes)]

def c2sSelectTrade : PacketStruct :=
  packet "C2SSelectTrade" 0x26 .play [("slot", .varInt)]

def c2sSetBeacon : PacketStruct :=
  packet "C2SSetBeacon" 0x27 .play
    [("primary_effect", .option .varInt), ("secondary_effect", .option .varInt)]

def c2sSetCarriedItem : PacketStruct :=
  packet "C2SSetCarriedItem" 0x28 .play [("slot", .i16)]

def c2sSetCommandBlock : PacketStruct :=
  packet "C2SSetCommandBlock" 0x29 .play
    [("location", .blockPos), ("command", .string), ("mode", .varInt), ("flags", .u8)]

def c2sSetCommandMinecart : PacketStruct :=
  packet "C2SSetCommandMinecart" 0x2A .play
    [("entity_id", .varInt), ("command", .string), ("track_output", .bool)]

def c2sSetCreativeModeSlot : PacketStruct :=
  packet "C2SSetCreativeModeSlot" 0x2B .play [("slot", .i16), ("item", .rawBytes)]

def c2sSetJigsawBlock : PacketStruct :=
  packet "C2SSetJigsawBlock" 0x2C .play
    [("location", .blockPos), ("name", .string), ("target", .string), ("pool", .string),
     ("final_state", .string), ("joint_type", .string)]

def c2sSetStructureBlock : PacketStruct :=
  packet "C2SSetStructureBlock" 0x2D .play
    [("location", .blockPos), ("action", .varInt), ("mode", .varInt), ("name", .string),
     ("offset_x", .i8), ("offset_y", .i8), ("offset_z", .i8), ("size_x", .i8), ("size_y", .i8),
     ("size_z", .i8), ("mirror", .varInt), ("rotation", .varInt), ("metadata", .string),
     ("integrity", .f32), ("seed", .varInt), ("flags", .u8)]

def c2sSignUpdate : PacketStruct :=
  packet "C2SSignUpdate" 0x2E .play
    [("location", .blockPos), ("is_front_text", .bool), ("line1", .string), ("line2", .string),
     ("line3", .string), ("line4", .string)]

def c2sSwing : PacketStruct :=
  packet "C2SSwing" 0x2F .play [("hand", .varInt)]

def c2sSpectate : PacketStruct :=
  packet "C2SSpectate" 0x30 .play [("target", .uuid)]

def c2sUseItemOn : PacketStruct :=
  packet "C2SUseItemOn" 0x31 .play
    [("hand", .varInt), ("location", .blockPos), ("direction", .varInt), ("cursor_x", .f32),
     ("cursor_y", .f32), ("cursor_z", .f32), ("inside_block", .bool), ("sequence", .varInt)]

def c2sUseItem : PacketStruct :=
  packet "C2SUseItem" 0x32 .play [("hand", .varInt), ("sequence", .varInt)]

/-! ### The group -/

/-- The variants of `C2SPacket`, in the order of their declaration. -/
inductive C2SVariant where
  | handshake
  | statusRequest
  | ping
  | loginStart
  | encryptionResponse
  | loginPluginResponse
  | acceptTeleportation
  | queryBlockNbt
  | changeDifficulty
  | chatAck
  | chatCommand
  | chatMessage
  | chatSessionUpdate
  | clientCommand
  | clientInformation
  | commandSuggestion
  | enchantItem
  | containerClick
  | containerClose
  | customPayload
  | editBook
  | queryEntityNbt
  | interact
  | generateStructure
  | keepAlive
  | lockDifficulty
  | playerPos
  | playerPosRot
  | playerRot
  | playerStatusOnly
  | moveVehicle
  | paddleBoat
  | pickItem
  | placeRecipe
  | playerAbilities
  | playerAction
  | playerCommand
  | playerInput
  | pong
  | recipeBookChangeSettings
  | recipeBookSeenRecipe
  | renameItem
  | resourcePack
  | seenAdvancements
  | selectTrade
  | setBeacon
  | setCarriedItem
  | setCommandBlock
  | setCommandMinecart
  | setCreativeModeSlot
  | setJigsawBlock
  | setStructureBlock
  | signUpdate
  | swing
  | spectate
  | useItemOn
  | useItem
  deriving DecidableEq, Repr

namespace C2SVariant

def all : List C2SVariant :=
  [.handshake, .statusRequest, .ping, .loginStart, .encryptionResponse, .loginPluginResponse,
   .acceptTeleportation, .queryBlockNbt, .changeDifficulty, .chatAck, .chatCommand, .chatMessage,
   .chatSessionUpdate, .clientCommand, .clientInformation, .commandSuggestion, .enchantItem,
   .containerClick, .containerClose, .customPayload, .editBook, .queryEntityNbt, .interact,
   .generateStructure, .keepAlive, .lockDifficulty, .playerPos, .playerPosRot, .playerRot,
   .playerStatusOnly, .moveVehicle, .paddleBoat, .pickItem, .placeRecipe, .playerAbilities,
   .playerAction, .playerCommand, .playerInput, .pong, .recipeBookChangeSettings,
   .recipeBookSeenRecipe, .renameItem, .resourcePack, .seenAdvancements, .selectTrade, .setBeacon,
   .setCarriedItem, .setCommandBlock, .setCommandMinecart, .setCreativeModeSlot, .setJigsawBlock,
   .setStructureBlock, .signUpdate, .swing, .spectate, .useItemOn, .useItem]

def packet : C2SVariant → PacketStruct
  | .handshake => c2sHandshake
  | .statusRequest => c2sStatusRequest
  | .ping => c2sPing
  | .loginStart => c2sLoginStart
  | .encryptionResponse => c2sEncryptionResponse
  | .loginPluginResponse => c2sLoginPluginResponse
  | .acceptTeleportation => c2sAcceptTeleportation
  | .queryBlockNbt => c2sQueryBlockNbt
  | .changeDifficulty => c2sChangeDifficulty
  | .chatAck => c2sChatAck
  | .chatCommand => c2sChatCommand
  | .chatMessage => c2sChatMessage
  | .chatSessionUpdate => c2sChatSessionUpdate
  | .clientCommand => c2sClientCommand
  | .clientInformation => c2sClientInformation
  | .commandSuggestion => c2sCommandSuggestion
  | .enchantItem => c2sEnchantItem
  | .containerClick => c2sContainerClick
  | .containerClose => c2sContainerClose
  | .customPayload => c2sCustomPayload
  | .editBook => c2sEditBook
  | .queryEntityNbt => c2sQueryEntityNbt
  | .interact => c2sInteract
  | .generateStructure => c2sGenerateStructure
  | .keepAlive => c2sKeepAlive
  | .lockDifficulty => c2sLockDifficulty
  | .playerPos => c2sPlayerPos
  | .playerPosRot => c2sPlayerPosRot
  | .playerRot => c2sPlayerRot
  | .playerStatusOnly => c2sPlayerStatusOnly
  | .moveVehicle => c2sMoveVehicle
  | .paddleBoat => c2sPaddleBoat
  | .pickItem => c2sPickItem
  | .placeRecipe => c2sPlaceRecipe
  | .playerAbilities => c2sPlayerAbilities
  | .playerAction => c2sPlayerAction
  | .playerCommand => c2sPlayerCommand
  | .playerInput => c2sPlayerInput
  | .pong => c2sPong
  | .recipeBookChangeSettings => c2sRecipeBookChangeSettings
  | .recipeBookSeenRecipe => c2sRecipeBookSeenRecipe
  | .renameItem => c2sRenameItem
  | .resourcePack => c2sResourcePack
  | .seenAdvancements => c2sSeenAdvancements
  | .selectTrade => c2sSelectTrade
  | .setBeacon => c2sSetBeacon
  | .setCarriedItem => c2sSetCarriedItem
  | .setCommandBlock => c2sSetCommandBlock
  | .setCommandMinecart => c2sSetCommandMinecart
  | .setCreativeModeSlot => c2sSetCreativeModeSlot
  | .setJigsawBlock => c2sSetJigsawBlock
  | .setStructureBlock => c2sSetStructureBlock
  | .signUpdate => c2sSignUpdate
  | .swing => c2sSwing
  | .spectate => c2sSpectate
  | .useItemOn => c2sUseItemOn
  | .useItem => c2sUseItem

end C2SVariant

abbrev c2s : PacketGroup :=
  { Variant := C2SVariant,
    variants := C2SVariant.all,
    packet := C2SVariant.packet,
    complete := by intro v; cases v <;> decide,
    distinct := by decide +kernel }

/-- `C2SPacket`. -/
abbrev C2SPacket : Type := (v : C2SVariant) × v.packet.Val

end V1_20_1
end Statik
