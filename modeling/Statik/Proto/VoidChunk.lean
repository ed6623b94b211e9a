import Statik.BuildTools.RegistryBlobs
import Statik.BuildTools.Varint

/-!
# The void chunk, as a client reads it

A reader of `LevelChunkWithLight` in the format that the comments of `chunk_payload`
describe, and what it reads of the payloads that are written there by hand.
-/

namespace Statik

open Wire Nbt

/-! ### Reading a chunk -/

/-- A section whose blocks and biomes are all the same. -/
structure Section where
  blockCount : BitVec 16
  blockState : VarInt
  biome : VarInt
  deriving DecidableEq, Repr

structure Chunk where
  x : BitVec 32
  z : BitVec 32
  heightmaps : Nbt.Tree String
  sections : List Section
  lightMasks : List (List (BitVec 64))
  skyLight : List Bytes
  blockLight : List Bytes

/-- A paletted container with a single value. -/
def readSingleValue : Decoder Error VarInt := do
  let bitsPerEntry ← readU8
  if bitsPerEntry = 0 then
    let value ← VarInt.decode
    let _ ← decodeVec (decodeInt 8)
    pure value
  else throw (.msg "more than one value")

def readSection : Decoder Error Section := do
  let blockCount ← decodeInt 2
  let blockState ← readSingleValue
  let biome ← readSingleValue
  pure { blockCount, blockState, biome }

/-- The number of sections is that of the dimension; their bytes are counted. -/
def readSections (count : Nat) : Decoder Error (List Section) := do
  let size ← VarInt.decode
  let data ← takeBytes (.io .unexpectedEof) (asUsize size.val)
  match many readSection count data with
  | .ok (sections, []) => pure sections
  | _ => throw (.msg "malformed sections")

/-- A chunk without block entities, in a dimension of the height of the overworld. -/
def readChunk (readHeightmaps : Decoder Error (Nbt.Tree String)) : Decoder Error Chunk := do
  let x ← decodeInt 4
  let z ← decodeInt 4
  let heightmaps ← readHeightmaps
  let sections ← readSections ((320 + 64) / 16)
  let blockEntities ← VarInt.decode
  if blockEntities.val = 0 then
    let lightMasks ← many (decodeVec (decodeInt 8)) 4
    let skyLight ← decodeVec (decodeVec readU8)
    let blockLight ← decodeVec (decodeVec readU8)
    pure { x, z, heightmaps, sections, lightMasks, skyLight, blockLight }
  else throw (.msg "block entities")

/-- The root of the heightmaps has a name in 1.20.1, and none in 1.21.1. -/
def readNamedNbt : Decoder Error (Nbt.Tree String) :=
  Prod.snd <$> Nbt.readNamed (.io .unexpectedEof) (.msg "malformed NBT") utf8Text

def readChunkV1_20_1 : Decoder Error Chunk := readChunk readNamedNbt

def readChunkV1_21_1 : Decoder Error Chunk := readChunk BuildRegistryNbt.readNbt

def flatHeightmap : Nbt.Tree String := .longArray (List.replicate 256 0)

/-- Air from bottom to top, and no light. -/
def voidChunk : Chunk :=
  { x := 0,
    z := 0,
    heightmaps := .compound
      [("MOTION_BLOCKING", flatHeightmap), ("WORLD_SURFACE", flatHeightmap)],
    sections := List.replicate 24 { blockCount := 0, blockState := ⟨0⟩, biome := ⟨0⟩ },
    lightMasks := [[], [], [], []],
    skyLight := [],
    blockLight := [] }

/-! ### The payloads -/

namespace chunkPayload

theorem writeVarInt_eq (value : BitVec 32) : writeVarInt value = (VarInt.mk value).encode :=
  go_eq_encodeLoop 5 value

theorem writeSingleValuePalette_reads : Reads readSingleValue writeSingleValuePalette ⟨0⟩ :=
  fun _ => rfl

theorem writeSection_reads :
    Reads readSection writeSection { blockCount := 0, blockState := ⟨0⟩, biome := ⟨0⟩ } :=
  (decodeInt_reads 2 0).bind (writeSingleValuePalette_reads.bind
    (writeSingleValuePalette_reads.bind_nil (Reads.pure _)))

theorem zeros_eq (n : Nat) :
    (List.replicate n (0 : BitVec 64)).flatMap (fun v => beBytes 8 v.toNat) =
      List.replicate (n * 8) 0 := by
  induction n with
  | zero => rfl
  | succ n ih =>
    rw [List.replicate_succ, List.flatMap_cons, ih, Nat.succ_mul, Nat.add_comm,
      List.replicate_add]
    rfl

/-- The bytes are the tag of the array, its name and its payload. -/
theorem longArray_eq (name : String) :
    longArray name = Tag.longArray.id :: (shortString utf8Text name ++
      flatHeightmap.payload utf8Text) := by
  rw [longArray, flatHeightmap, Nbt.Tree.payload, array, zeros_eq, List.length_replicate,
    List.append_assoc, List.append_assoc]
  rfl

/-- The entries of the compound, and its end. -/
theorem heightmaps_payload :
    voidChunk.heightmaps.payload utf8Text =
      longArray "MOTION_BLOCKING" ++ (longArray "WORLD_SURFACE" ++ [0x00]) := by
  rw [voidChunk, Nbt.Tree.payload, Nbt.Tree.body, Nbt.Tree.body, Nbt.Tree.body, longArray_eq,
    longArray_eq, List.cons_append, List.cons_append, List.append_assoc, List.append_assoc]
  rfl

theorem heightmapsNbtV1_20_1_eq :
    heightmapsNbtV1_20_1 = voidChunk.heightmaps.named utf8Text "" := by
  rw [Nbt.Tree.named, heightmaps_payload, heightmapsNbtV1_20_1, List.append_assoc,
    List.append_assoc, List.append_assoc]
  rfl

theorem heightmapsNbtV1_21_1_eq :
    heightmapsNbtV1_21_1 = voidChunk.heightmaps.anonymous utf8Text := by
  rw [Nbt.Tree.anonymous, heightmaps_payload, heightmapsNbtV1_21_1, List.append_assoc,
    List.append_assoc]
  rfl

theorem heightmaps_wellTyped : voidChunk.heightmaps.WellTyped utf8Text := by
  refine Nbt.Tree.all_compound.mpr ⟨?_, ?_⟩
  · intro e he
    rcases List.mem_pair.mp he with rfl | rfl
    · decide
    · decide
  · intro e he
    rcases List.mem_pair.mp he with rfl | rfl
    · trivial
    · trivial

theorem heightmaps_counted : voidChunk.heightmaps.Counted := by
  have hflat : flatHeightmap.Counted := by
    show (List.replicate 256 0).length < 2 ^ 31
    rw [List.length_replicate]
    decide
  refine Nbt.Tree.all_compound.mpr ⟨trivial, ?_⟩
  intro e he
  rcases List.mem_pair.mp he with rfl | rfl
  · exact hflat
  · exact hflat

/-- The sections are counted in bytes, and as many as a reader expects. -/
theorem chunkDataBuffer_reads :
    Reads (readSections 24)
      (writeVarInt (BitVec.ofNat 32 chunkDataBuffer.length) ++ chunkDataBuffer)
      voidChunk.sections := by
  have hsections : Reads (many readSection 24) chunkDataBuffer voidChunk.sections := by
    have hmany : Reads (many readSection voidChunk.sections.length)
        (voidChunk.sections.flatMap fun _ => writeSection) voidChunk.sections := by
      refine many_reads fun c hc => ?_
      rw [List.eq_of_mem_replicate hc]
      exact writeSection_reads
    rwa [List.flatMap_def, show voidChunk.sections = List.replicate 24 _ from rfl,
      List.map_replicate, List.length_replicate] at hmany
  have hlength : asUsize (BitVec.ofNat 32 chunkDataBuffer.length) = chunkDataBuffer.length := by
    decide +kernel
  rw [writeVarInt_eq]
  refine (VarInt.decode_encode _).bind ((takeBytes_reads _ hlength.symm).bind_nil ?_)
  rw [hsections.all]
  exact Reads.pure _

/-- Around whatever heightmaps it is given, the payload is the void chunk. -/
theorem appendCommonChunk_reads {readHeightmaps : Decoder Error (Nbt.Tree String)}
    {heightmaps : Bytes} {t : Nbt.Tree String} (h : Reads readHeightmaps heightmaps t) :
    Reads (readChunk readHeightmaps) (appendCommonChunk heightmaps)
      { voidChunk with heightmaps := t } := by
  have hmasks : Reads (many (decodeVec (decodeInt 8)) 4) [0, 0, 0, 0] voidChunk.lightMasks :=
    fun _ => rfl
  have hlight : Reads (decodeVec (decodeVec readU8)) (writeVarInt 0) [] := fun _ => rfl
  have hentities : Reads VarInt.decode (writeVarInt 0) ⟨0⟩ := fun _ => rfl
  rw [appendCommonChunk]
  simp only [List.append_assoc]
  refine (decodeInt_reads 4 0).bind ((decodeInt_reads 4 0).bind (h.bind ?_))
  rw [← List.append_assoc (writeVarInt _) chunkDataBuffer]
  refine chunkDataBuffer_reads.bind (hentities.bind ?_)
  exact hmasks.bind (hlight.bind (hlight.bind_nil (Reads.pure _)))

end chunkPayload

theorem readChunkV1_20_1_reads : Reads readChunkV1_20_1 voidChunkBytesV1_20_1 voidChunk := by
  refine chunkPayload.appendCommonChunk_reads ?_
  rw [chunkPayload.heightmapsNbtV1_20_1_eq]
  exact (Nbt.Tree.readNamed_reads (by decide) chunkPayload.heightmaps_wellTyped
    chunkPayload.heightmaps_counted).map Prod.snd

theorem readChunkV1_21_1_reads : Reads readChunkV1_21_1 voidChunkBytesV1_21_1 voidChunk := by
  refine chunkPayload.appendCommonChunk_reads ?_
  rw [chunkPayload.heightmapsNbtV1_21_1_eq]
  exact BuildRegistryNbt.readNbt_reads chunkPayload.heightmaps_wellTyped
    chunkPayload.heightmaps_counted

/-- A client of 1.21.1 takes the root name of 1.20.1 for the end of the heightmaps, and
reads no chunk. -/
theorem readChunkV1_21_1_refuses (rest : Bytes) :
    ∃ e, readChunkV1_21_1 (voidChunkBytesV1_20_1 ++ rest) = .error e := by
  have hempty : Reads BuildRegistryNbt.readNbt [0x0a, 0x00] (.compound []) :=
    BuildRegistryNbt.readNbt_reads
      (Nbt.Tree.all_compound.mpr ⟨fun e he => absurd he List.not_mem_nil,
        fun e he => absurd he List.not_mem_nil⟩)
      (Nbt.Tree.all_compound.mpr ⟨trivial, fun e he => absurd he List.not_mem_nil⟩)
  have hsections : ∀ tail, ∃ e, readSections 24 (0x00 :: tail) = .error e :=
    fun tail => ⟨.msg "malformed sections", rfl⟩
  obtain ⟨tail, htail⟩ : ∃ tail, voidChunkBytesV1_20_1 ++ rest =
      encodeInt 4 0 ++ (encodeInt 4 0 ++ ([0x0a, 0x00] ++ 0x00 :: tail)) := by
    rw [voidChunkBytesV1_20_1, chunkPayload.appendCommonChunk, chunkPayload.heightmapsNbtV1_20_1]
    simp only [List.append_assoc]
    exact ⟨_, rfl⟩
  obtain ⟨e, he⟩ := hsections tail
  refine ⟨e, ?_⟩
  rw [htail, readChunkV1_21_1, readChunk, Decoder.bind_ok (decodeInt_reads 4 0 _),
    Decoder.bind_ok (decodeInt_reads 4 0 _), Decoder.bind_ok (hempty _)]
  exact Decoder.bind_error he

end Statik
