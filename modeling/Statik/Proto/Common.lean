import Statik.Derive.PacketGroup

/-!
# Types and payloads shared by the protocol versions
-/

namespace Statik

open Wire

def property : Layout :=
  .struct "Property" [("name", .string), ("value", .string), ("signature", .option .string)]

def knownPack : Layout :=
  .struct "KnownPack" [("namespace", .string), ("id", .string), ("version", .string)]

def tag : Layout :=
  .struct "Tag" [("name", .string), ("entries", .vec .varInt)]

def tagGroup : Layout :=
  .struct "TagGroup" [("tag_type", .string), ("tags", .vec tag)]

/-! ### Flags of the player abilities packet -/

namespace abilities

def invulnerable : Byte := 0x01

def flying : Byte := 0x02

def canFly : Byte := 0x04

end abilities

/-! ### The payload of the void chunk -/

namespace chunkPayload

/-- The number of sections of the overworld. -/
def numSections : Nat := 24

/-- `write_var_int`, whose loop ends after five rounds at the latest. -/
def writeVarInt (value : BitVec 32) : Bytes := go 5 value
where
  go : Nat → BitVec 32 → Bytes
    | 0, _ => []
    | rounds + 1, value =>
      if value &&& ~~~0x7f = 0 then [value.setWidth 8]
      else (value &&& 0x7f ||| 0x80).setWidth 8 :: go rounds (value >>> 7)

def writeNbtString (s : String) : Bytes := beBytes 2 (utf8 s).length ++ utf8 s

def writeSingleValuePalette : Bytes := [0] ++ writeVarInt 0 ++ writeVarInt 0

def writeSection : Bytes := beBytes 2 0 ++ writeSingleValuePalette ++ writeSingleValuePalette

def chunkDataBuffer : Bytes := (List.replicate numSections writeSection).flatten

/-- A `TAG_Long_Array` of 256 zeros. -/
def longArray (name : String) : Bytes :=
  [0x0c] ++ writeNbtString name ++ beBytes 4 256 ++ List.replicate (256 * 8) 0

/-- The compound has an empty root name. -/
def heightmapsNbtV1_20_1 : Bytes :=
  [0x0a] ++ beBytes 2 0 ++ longArray "MOTION_BLOCKING" ++ longArray "WORLD_SURFACE" ++ [0x00]

/-- The compound has no root name. -/
def heightmapsNbtV1_21_1 : Bytes :=
  [0x0a] ++ longArray "MOTION_BLOCKING" ++ longArray "WORLD_SURFACE" ++ [0x00]

def appendCommonChunk (heightmaps : Bytes) : Bytes :=
  beBytes 4 0 ++ beBytes 4 0 ++ heightmaps ++
    writeVarInt (BitVec.ofNat 32 chunkDataBuffer.length) ++ chunkDataBuffer ++ writeVarInt 0 ++
    [0, 0, 0, 0] ++ writeVarInt 0 ++ writeVarInt 0

end chunkPayload

def voidChunkBytesV1_20_1 : Bytes :=
  chunkPayload.appendCommonChunk chunkPayload.heightmapsNbtV1_20_1

def voidChunkBytesV1_21_1 : Bytes :=
  chunkPayload.appendCommonChunk chunkPayload.heightmapsNbtV1_21_1

end Statik
