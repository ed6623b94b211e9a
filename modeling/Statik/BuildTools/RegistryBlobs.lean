import Statik.BuildTools.RegistryTrees

/-!
# Reading the registry blobs back

The trees and the keys of a registry are read back from the bytes the builder makes of
its JSON, within the limits of the counts and the lengths in them and of the recursion
of the builder.
-/

namespace Statik

open Wire Nbt

namespace BuildRegistryNbt

/-- An entry of a registry. -/
def DenotesEntry (formats : FloatFormats) (e : String × Nbt.Tree String) (entry : Json) : Prop :=
  ∃ items node, entry = .dict items ∧ items.lookup "key" = some (.str e.1) ∧
    items.lookup "value" = some node ∧ DenotesNode formats e.2 node

/-! ### Reading a blob -/

/-- The reference reader. -/
def readNbt : Decoder Error (Nbt.Tree String) :=
  Nbt.read (.io .unexpectedEof) (.msg "malformed NBT") utf8Text

def readEntry : Decoder Error (String × Bool × Nbt.Tree String) := do
  let key ← decodeString
  let present ← decodeBool
  let t ← readNbt
  pure (key, present, t)

def readRegistryBlob : Decoder Error (List (String × Bool × Nbt.Tree String)) := do
  let count ← VarInt.decode
  if 0 ≤ count.val.toInt then many readEntry count.val.toNat
  else throw (.msg "negative count")

/-! ### The blobs -/

section blobs

variable {formats : FloatFormats}

theorem readNbt_reads {t : Nbt.Tree String} (htyped : t.WellTyped utf8Text) (hcounted : t.Counted) :
    Reads readNbt (t.anonymous utf8Text) t := Nbt.Tree.read_reads htyped hcounted

theorem encodeVarint_natCast {n : Nat} (h : n < 2 ^ 32) :
    encodeVarint n = (VarInt.ofUsize n).encode := by
  have hstart : encodeVarintStart n = n := if_neg (Int.not_lt.mpr (Int.natCast_nonneg n))
  rw [encodeVarint, hstart, Int.toNat_natCast, encodeVarintLoop_eq_leb128,
    VarInt.encode_eq_leb128, ofUsize_toNat_of_lt h]

/-- A key of the blob. -/
def stringBytes (s : String) : Bytes := encodeVarint (utf8 s).length ++ utf8 s

theorem encodeString_eq (s : String) (frames : Nat) :
    encodeString frames s = if 2 ≤ frames then some (stringBytes s) else none := by
  cases frames with
  | zero => rfl
  | succ frames =>
    have hlength : call frames (fun _ => some (encodeVarint (utf8 s).length)) =
        if 0 < frames then some (encodeVarint (utf8 s).length) else none :=
      call_leaf fun _ => rfl
    rw [encodeString, call_succ]
    simp only
    rw [hlength]
    exact bind_ite rfl Nat.succ_le_succ_iff.symm

/-- `encode_string` writes what the server would. -/
theorem encodeString_stringBytes {s : String} (h : (utf8 s).length ≤ i32Max) :
    Statik.encodeString s = .ok (stringBytes s) := by
  have hlength : (utf8 s).length < 2 ^ 32 := by
    unfold i32Max at h
    omega
  rw [Statik.encodeString, if_pos h, stringBytes, encodeVarint_natCast hlength]

/-- The key can be written, and the tree. -/
def EntryFits (e : String × Nbt.Tree String) : Prop :=
  (utf8 e.1).length ≤ i32Max ∧ e.2.WellTyped utf8Text ∧ e.2.Counted

def entryBytes (e : String × Nbt.Tree String) : Bytes :=
  stringBytes e.1 ++ 0x01 :: e.2.anonymous utf8Text

def blobBytes (registry : List (String × Nbt.Tree String)) : Bytes :=
  encodeVarint registry.length ++ registry.flatMap entryBytes

/-- The frames of `build_registry_blob`. -/
def blobFrames : List (String × Nbt.Tree String) → Nat
  | [] => 2
  | e :: es => max (nbtFrames e.2 + 1) (blobFrames es)

theorem blobFrames_le {registry : List (String × Nbt.Tree String)} {frames : Nat} :
    blobFrames registry ≤ frames + 1 ↔ 0 < frames ∧ ∀ e ∈ registry, nbtFrames e.2 ≤ frames := by
  induction registry with
  | nil => simp [blobFrames, Nat.succ_le_iff]
  | cons e es ih =>
    rw [blobFrames, Nat.max_le, ih, List.forall_mem_cons, Nat.succ_le_succ_iff]
    tauto

theorem two_le_nbtFrames (t : Nbt.Tree String) : 2 ≤ nbtFrames t :=
  Nat.succ_le_succ (payloadFrames_pos t)

theorem two_le_blobFrames (registry : List (String × Nbt.Tree String)) :
    2 ≤ blobFrames registry := by
  induction registry with
  | nil => exact Nat.le_refl 2
  | cons e es ih => exact Nat.le_trans ih (Nat.le_max_right _ _)

/-- There are frames for the key where there are for the tree. -/
theorem buildEntry_eq {e : String × Nbt.Tree String} {entry : Json}
    (htree : e.2.WellTyped utf8Text ∧ e.2.Counted) (h : DenotesEntry formats e entry)
    (frames : Nat) :
    buildEntry formats frames entry =
      if nbtFrames e.2 ≤ frames then some (entryBytes e) else none := by
  obtain ⟨items, node, rfl, hkey, hvalue, hnode⟩ := h
  refine bind_eq hkey (bind_eq hvalue ?_)
  simp only
  rw [encodeString_eq, encodeAnonymousNbt_eq htree.1 htree.2 hnode]
  have htwo := two_le_nbtFrames e.2
  by_cases hfit : nbtFrames e.2 ≤ frames
  · rw [if_pos (Nat.le_trans htwo hfit), if_pos hfit, if_pos hfit]
    rfl
  · rw [if_neg hfit, if_neg hfit]
    split <;> rfl

theorem readEntry_reads {e : String × Nbt.Tree String} (hfits : EntryFits e) :
    Reads readEntry (entryBytes e) (e.1, true, e.2) := by
  have hkey : Reads decodeString (stringBytes e.1) e.1 :=
    encodeString_reads (encodeString_stringBytes hfits.1)
  have hpresent : Reads decodeBool [0x01] true := decodeBool_reads true
  exact hkey.bind (hpresent.bind ((readNbt_reads hfits.2.1 hfits.2.2).bind_nil (Reads.pure _)))

theorem buildRegistryBlob_eq {registry : List (String × Nbt.Tree String)} {entries : List Json}
    (htrees : ∀ e ∈ registry, e.2.WellTyped utf8Text ∧ e.2.Counted)
    (h : List.Forall₂ (DenotesEntry formats) registry entries) (frames : Nat) :
    buildRegistryBlob formats frames entries =
      if blobFrames registry ≤ frames then some (blobBytes registry) else none := by
  have htwo := two_le_blobFrames registry
  cases frames with
  | zero => rw [if_neg (by omega)]; rfl
  | succ frames =>
    have hrounds : List.Forall₂ (fun e entry => buildEntry formats frames entry =
        if nbtFrames e.2 ≤ frames then some (entryBytes e) else none) registry entries := by
      refine ((List.forall₂_and_left _ _).mpr ⟨htrees, h⟩).imp ?_
      rintro e entry ⟨htree, hentry⟩
      exact buildEntry_eq htree hentry frames
    have hcount : call frames (fun _ => some (encodeVarint entries.length)) =
        if 0 < frames then some (encodeVarint entries.length) else none :=
      call_leaf fun _ => rfl
    rw [buildRegistryBlob, call_succ, hcount, mapM_of_forall₂ hrounds, ← h.length_eq]
    by_cases hpos : 0 < frames
    · have hframes : (∀ e ∈ registry, nbtFrames e.2 ≤ frames) ↔ blobFrames registry ≤ frames + 1 :=
        (blobFrames_le.trans (and_iff_right hpos)).symm
      rw [if_pos hpos, blobBytes, List.flatMap_def]
      exact bind_ite rfl hframes
    · rw [if_neg hpos, if_neg fun hle => hpos (blobFrames_le.mp hle).1]
      rfl

/-- With however many frames, there is one blob to come of a registry. -/
theorem eq_blobBytes {registry : List (String × Nbt.Tree String)} {entries : List Json}
    (htrees : ∀ e ∈ registry, e.2.WellTyped utf8Text ∧ e.2.Counted)
    (h : List.Forall₂ (DenotesEntry formats) registry entries) {frames : Nat} {bs : Bytes}
    (hbs : buildRegistryBlob formats frames entries = some bs) : bs = blobBytes registry := by
  rw [buildRegistryBlob_eq htrees h] at hbs
  split at hbs
  · exact (Option.some.inj hbs).symm
  · cases hbs

/-- What is read of an entry. -/
def entryRead (e : String × Nbt.Tree String) : String × Bool × Nbt.Tree String := (e.1, true, e.2)

theorem readRegistryBlob_reads {registry : List (String × Nbt.Tree String)}
    (hcount : registry.length ≤ i32Max) (hfits : ∀ e ∈ registry, EntryFits e) :
    Reads readRegistryBlob (blobBytes registry) (registry.map entryRead) := by
  have hlength : registry.length < 2 ^ 32 := by
    unfold i32Max at hcount
    omega
  have hentries : Reads (many readEntry registry.length) (registry.flatMap entryBytes)
      (registry.map entryRead) := by
    have hmany : Reads (many readEntry (registry.map entryRead).length)
        ((registry.map entryRead).flatMap fun r => entryBytes (r.1, r.2.2))
        (registry.map entryRead) := by
      refine many_reads fun r hr => ?_
      obtain ⟨e, he, rfl⟩ := List.mem_map.mp hr
      exact readEntry_reads (hfits e he)
    rwa [List.length_map, List.flatMap_map] at hmany
  rw [blobBytes, encodeVarint_natCast hlength]
  refine (VarInt.decode_encode _).bind ?_
  rw [ofUsize_toInt hcount, if_pos (Int.natCast_nonneg _), ofUsize_toNat hcount]
  exact hentries

end blobs

/-! ### Beyond the limits -/

/-- A count that is no `i32`. -/
theorem packSigned_huge {n : Nat} (h : 2 ^ 31 ≤ n) : packSigned 4 n = none :=
  if_neg (by omega)

theorem ofUsize_negative {n : Nat} (hlow : 2 ^ 31 ≤ n) (hhigh : n < 2 ^ 32) :
    ¬ 0 ≤ (VarInt.ofUsize n).val.toInt := by
  intro hnonneg
  have hmax := (toNat_of_nonneg hnonneg).2
  rw [ofUsize_toNat_of_lt hhigh] at hmax
  unfold i32Max at hmax
  omega

theorem exists_key (n : Nat) : ∃ s : String, (utf8 s).length = n := by
  induction n with
  | zero => exact ⟨"", rfl⟩
  | succ n ih =>
    obtain ⟨s, hs⟩ := ih
    refine ⟨s.push 'a', ?_⟩
    have hlength : ∀ s : String, (utf8 s).length = s.utf8ByteSize := by
      intro s
      rw [utf8, List.length_map]
      rfl
    rw [hlength] at hs ⊢
    rw [String.utf8ByteSize_push, hs]
    rfl

theorem decodeString_negative {s : String} (hlow : 2 ^ 31 ≤ (utf8 s).length)
    (hhigh : (utf8 s).length < 2 ^ 32) (rest : Bytes) :
    ∃ e, decodeString (stringBytes s ++ rest) = .error e := by
  rw [stringBytes, encodeVarint_natCast hhigh, List.append_assoc, decodeString,
    Decoder.bind_ok (VarInt.decode_encode _ (utf8 s ++ rest)),
    if_neg (ofUsize_negative hlow hhigh)]
  exact ⟨_, rfl⟩

theorem readRegistryBlob_negative {n : Nat} (hlow : 2 ^ 31 ≤ n) (hhigh : n < 2 ^ 32)
    (rest : Bytes) : ∃ e, readRegistryBlob (encodeVarint n ++ rest) = .error e := by
  rw [encodeVarint_natCast hhigh, readRegistryBlob,
    Decoder.bind_ok (VarInt.decode_encode _ rest), if_neg (ofUsize_negative hlow hhigh)]
  exact ⟨_, rfl⟩

/-- A registry of one entry, whose key is too long. -/
theorem readRegistryBlob_key {e : String × Nbt.Tree String} (hlow : 2 ^ 31 ≤ (utf8 e.1).length)
    (hhigh : (utf8 e.1).length < 2 ^ 32) :
    ∃ f, readRegistryBlob (blobBytes [e]) = .error f := by
  obtain ⟨f, hkey⟩ := decodeString_negative hlow hhigh (0x01 :: e.2.anonymous utf8Text)
  have hcount : encodeVarint 1 = (VarInt.ofUsize 1).encode :=
    encodeVarint_natCast (n := 1) (by decide)
  have hbytes : blobBytes [e] =
      encodeVarint 1 ++ (stringBytes e.1 ++ 0x01 :: e.2.anonymous utf8Text) := by
    rw [blobBytes, List.flatMap_singleton, entryBytes]
    rfl
  have hentry : readEntry (stringBytes e.1 ++ 0x01 :: e.2.anonymous utf8Text) = .error f :=
    Decoder.bind_error hkey
  rw [hbytes, hcount, readRegistryBlob, Decoder.bind_ok (VarInt.decode_encode _ _),
    if_pos (by decide)]
  exact ⟨f, Decoder.bind_error hentry⟩

theorem encodeArray_huge {vals : List Json} (h : 2 ^ 31 ≤ vals.length)
    (encode : Json → Option Bytes) : encodeArray encode (.list vals) = none := by
  rw [encodeArray]
  exact bind_eq rfl (bind_eq_none (packSigned_huge h))

/-- More bytes in an array than a count has. -/
theorem encodeAnonymousNbt_huge {formats : FloatFormats} {vals : List Json}
    (h : 2 ^ 31 ≤ vals.length) (frames : Nat) :
    encodeAnonymousNbt formats frames
      (.dict [("type", .str "byteArray"), ("value", .list vals)]) = none := by
  have hcall : ∀ frames (encode : Json → Option Bytes),
      (call frames fun _ => encodeArray encode (.list vals)) = none := by
    intro frames encode
    cases frames with
    | zero => rfl
    | succ frames => rw [call_succ, encodeArray_huge h]
  have hpayload : ∀ frames, encodePayload formats frames tagByteArray (.list vals) = none := by
    intro frames
    cases frames with
    | zero => rw [encodePayload]
    | succ frames =>
      rw [encodePayload_flat (by decide) (by decide)]
      exact hcall frames _
  have htag : tagNamed (.str "byteArray") = some tagByteArray := rfl
  cases frames with
  | zero => rfl
  | succ frames =>
    rw [encodeAnonymousNbt, call_succ]
    exact bind_eq rfl (bind_eq htag (bind_eq rfl (bind_eq_none (hpayload frames))))

/-- A list in a list, so many deep. -/
def nestedTree : Nat → Nbt.Tree String
  | 0 => .list .end_ []
  | n + 1 => .list .list [nestedTree n]

def nestedShape : Nat → Json
  | 0 => .dict [("type", .str "end"), ("value", .list [])]
  | n + 1 => .dict [("type", .str "list"), ("value", .list [nestedShape n])]

theorem tag_nestedTree (n : Nat) : (nestedTree n).tag = .list := by
  cases n <;> rfl

theorem payloadFrames_nested (n : Nat) : payloadFrames (nestedTree n) = n + 1 := by
  induction n with
  | zero => rfl
  | succ n ih =>
    rw [nestedTree, payloadFrames, itemsFrames, itemsFrames, ih, tag_nestedTree,
      if_neg (by decide), Nat.max_zero]

theorem nested_wellTyped (n : Nat) :
    (nestedTree n).WellTyped utf8Text ∧ (nestedTree n).Counted := by
  induction n with
  | zero => simp [nestedTree, Nbt.Tree.WellTyped, Nbt.Tree.Counted, Nbt.Tree.TypedHere,
      Nbt.Tree.CountedHere]
  | succ n ih =>
    obtain ⟨htyped, hcounted⟩ := ih
    unfold Nbt.Tree.WellTyped at htyped
    unfold Nbt.Tree.Counted at hcounted
    simp [nestedTree, Nbt.Tree.WellTyped, Nbt.Tree.Counted, Nbt.Tree.TypedHere,
      Nbt.Tree.CountedHere, tag_nestedTree, htyped, hcounted]

theorem denotes_nested (formats : FloatFormats) (n : Nat) :
    Denotes formats (nestedTree n) (nestedShape n) := by
  induction n with
  | zero => exact ⟨_, _, rfl, rfl, rfl, rfl⟩
  | succ n ih => exact ⟨_, _, rfl, rfl, rfl, _, _, rfl, ih, rfl⟩

theorem denotesNode_nested (formats : FloatFormats) (n : Nat) :
    DenotesNode formats (nestedTree n)
      (.dict [("type", .str "list"), ("value", nestedShape n)]) :=
  ⟨_, _, rfl, by rw [tag_nestedTree]; rfl, rfl, denotes_nested formats n⟩

/-! ### Decodability -/

/-- The tree is read back from what the builder makes of the node, whatever follows. -/
def NbtDecodable (formats : FloatFormats) (frames : Nat) (t : Nbt.Tree String) (node : Json) :
    Prop :=
  ∃ bs, encodeAnonymousNbt formats frames node = some bs ∧ ∀ s, readNbt (bs ++ s) = .ok (t, s)

/-- The keys and the trees are read back from the blob, and no byte is left. -/
def BlobDecodable (formats : FloatFormats) (frames : Nat)
    (registry : List (String × Nbt.Tree String)) (entries : List Json) : Prop :=
  ∃ bs, buildRegistryBlob formats frames entries = some bs ∧
    readRegistryBlob bs = .ok (registry.map entryRead, [])

/-- Trees and registries within the limits of the format are read back exactly where the
recursion limit leaves the frames that their nesting takes. -/
theorem registry_decodable (formats : FloatFormats) (frames : Nat) :
    (∀ t node, t.WellTyped utf8Text → t.Counted → DenotesNode formats t node →
      (NbtDecodable formats frames t node ↔ nbtFrames t ≤ frames)) ∧
    ∀ registry entries, registry.length ≤ i32Max → (∀ e ∈ registry, EntryFits e) →
      List.Forall₂ (DenotesEntry formats) registry entries →
      (BlobDecodable formats frames registry entries ↔ blobFrames registry ≤ frames) := by
  constructor
  · intro t node htyped hcounted hnode
    rw [NbtDecodable, encodeAnonymousNbt_eq htyped hcounted hnode]
    by_cases hfit : nbtFrames t ≤ frames
    · rw [if_pos hfit]
      exact iff_of_true ⟨_, rfl, readNbt_reads htyped hcounted⟩ hfit
    · rw [if_neg hfit]
      exact iff_of_false (fun ⟨bs, hbs, _⟩ => by cases hbs) hfit
  · intro registry entries hcount hfits hentries
    rw [BlobDecodable, buildRegistryBlob_eq (fun e he => (hfits e he).2) hentries]
    by_cases hfit : blobFrames registry ≤ frames
    · rw [if_pos hfit]
      exact iff_of_true ⟨_, rfl, (readRegistryBlob_reads hcount hfits).all⟩ hfit
    · rw [if_neg hfit]
      exact iff_of_false (fun ⟨bs, hbs, _⟩ => by cases hbs) hfit

/-- `struct.pack` on the number 1.0. -/
def oneFloats : FloatFormats where
  float
    | .float bits => if bits = 0x3ff0000000000000 then some 0x3f800000 else none
    | _ => none
  double
    | .float bits => some bits
    | _ => none

def sampleTree : Nbt.Tree String :=
  .compound [("seed", .long 0x00000001ffffffff), ("scale", .float 0x3f800000),
    ("effects", .list .compound [.compound [("ids", .intArray [7])]]), ("none", .list .end_ [])]

def sampleNode : Json :=
  .dict [("type", .str "compound"), ("value", .dict
    [("seed", .dict [("type", .str "long"), ("value", .list [.int 1, .int (-1)])]),
     ("scale", .dict [("type", .str "float"), ("value", .float 0x3ff0000000000000)]),
     ("effects", .dict [("type", .str "list"), ("value", .dict
       [("type", .str "compound"), ("value", .list
         [.dict [("ids", .dict [("type", .str "intArray"), ("value", .list [.int 7])])]])])]),
     ("none", .dict [("type", .str "list"), ("value", .dict
       [("type", .str "end"), ("value", .list [])])])])]

theorem sampleTree_wellTyped : sampleTree.WellTyped utf8Text := by
  have hshort : ∀ name ∈ ["seed", "scale", "effects", "ids", "none"],
      Nbt.Tree.Short utf8Text name := by
    decide +kernel
  simp only [List.forall_mem_cons] at hshort
  simp [sampleTree, Nbt.Tree.WellTyped, Nbt.Tree.All, Nbt.Tree.AllItems, Nbt.Tree.AllEntries,
    Nbt.Tree.TypedHere, Nbt.Tree.tag, hshort]

theorem sampleTree_counted : sampleTree.Counted := by
  simp [sampleTree, Nbt.Tree.Counted, Nbt.Tree.All, Nbt.Tree.AllItems, Nbt.Tree.AllEntries,
    Nbt.Tree.CountedHere]

theorem denotes_sample : DenotesNode oneFloats sampleTree sampleNode := by
  refine ⟨_, _, rfl, rfl, rfl, _, rfl, ?_⟩
  refine ⟨_, _, _, rfl, rfl, rfl, .inr ⟨1, -1, rfl, by omega, by omega, rfl⟩, ?_⟩
  refine ⟨_, _, _, rfl, rfl, rfl, rfl, ?_⟩
  refine ⟨_, _, _, rfl, rfl, rfl, ⟨_, _, rfl, rfl, rfl, _, _, rfl, ⟨_, rfl, ?_⟩, rfl⟩, ?_⟩
  · exact ⟨_, _, _, rfl, rfl, rfl, rfl, rfl⟩
  · exact ⟨_, _, _, rfl, rfl, rfl, ⟨_, _, rfl, rfl, rfl, rfl⟩, rfl⟩

theorem sample_fits : ∀ e ∈ [("minecraft:plains", sampleTree)], EntryFits e := by
  intro e he
  rw [List.mem_singleton.mp he]
  exact ⟨by decide +kernel, sampleTree_wellTyped, sampleTree_counted⟩

theorem denotes_samples :
    List.Forall₂ (DenotesEntry oneFloats) [("minecraft:plains", sampleTree)]
      [.dict [("key", .str "minecraft:plains"), ("value", sampleNode)]] :=
  .cons ⟨_, _, rfl, rfl, rfl, denotes_sample⟩ .nil

theorem registry_decodable_sample :
    NbtDecodable oneFloats 7 sampleTree sampleNode ∧
      BlobDecodable oneFloats 8 [("minecraft:plains", sampleTree)]
        [.dict [("key", .str "minecraft:plains"), ("value", sampleNode)]] := by
  exact ⟨((registry_decodable oneFloats 7).1 _ _ sampleTree_wellTyped sampleTree_counted
      denotes_sample).mpr (by decide),
    ((registry_decodable oneFloats 8).2 _ _ (by decide) sample_fits denotes_samples).mpr
      (by decide)⟩

/-- No number of the entries stands for a float. -/
def noFloats : FloatFormats where
  float _ := none
  double _ := none

/-- An entry whose tree is a zero. -/
def zeroEntry (key : String) : Json :=
  .dict [("key", .str key), ("value", .dict [("type", .str "byte"), ("value", .int 0)])]

theorem denotes_zeroEntry (key : String) :
    DenotesEntry noFloats (key, .byte 0) (zeroEntry key) :=
  ⟨_, _, rfl, rfl, rfl, _, _, rfl, rfl, rfl, rfl⟩

theorem denotes_byteArray (vs : List (BitVec 8)) :
    DenotesNode noFloats (.byteArray vs)
      (.dict [("type", .str "byteArray"), ("value", .list (vs.map fun v => .int v.toInt))]) :=
  ⟨_, _, rfl, rfl, rfl, rfl⟩

/-- Without one of the limits there are trees and registries that are not read back: with
however many frames an array that is too long, a key that is too long, and too many
entries, and with however many there are a tree that is too deep. -/
theorem registry_not_decodable :
    (¬ ∀ formats t node, t.WellTyped utf8Text → DenotesNode formats t node →
      ∃ frames, NbtDecodable formats frames t node) ∧
    (¬ ∀ formats registry entries, registry.length ≤ i32Max →
      (∀ e ∈ registry, e.2.WellTyped utf8Text ∧ e.2.Counted) →
      List.Forall₂ (DenotesEntry formats) registry entries →
      ∃ frames, BlobDecodable formats frames registry entries) ∧
    (¬ ∀ formats registry entries, (∀ e ∈ registry, EntryFits e) →
      List.Forall₂ (DenotesEntry formats) registry entries →
      ∃ frames, BlobDecodable formats frames registry entries) ∧
    ∀ frames, ¬ ∀ formats t node, t.WellTyped utf8Text → t.Counted →
      DenotesNode formats t node → NbtDecodable formats frames t node := by
  refine ⟨fun h => ?_, fun h => ?_, fun h => ?_, fun frames h => ?_⟩
  · obtain ⟨frames, bs, hbs, -⟩ := h noFloats (.byteArray (List.replicate (2 ^ 31) 0)) _ trivial
      (denotes_byteArray _)
    rw [encodeAnonymousNbt_huge (by rw [List.length_map, List.length_replicate])] at hbs
    cases hbs
  · obtain ⟨key, hkey⟩ := exists_key (2 ^ 31)
    have htree : ∀ e ∈ [(key, Nbt.Tree.byte 0)], e.2.WellTyped utf8Text ∧ e.2.Counted := by
      intro e he
      rw [List.mem_singleton.mp he]
      exact ⟨trivial, trivial⟩
    have hentries := List.Forall₂.cons (denotes_zeroEntry key) List.Forall₂.nil
    obtain ⟨frames, bs, hbs, hread⟩ := h noFloats [(key, .byte 0)] [zeroEntry key]
      (show 1 ≤ i32Max by decide) htree hentries
    obtain ⟨f, hfail⟩ : ∃ f, readRegistryBlob bs = .error f := by
      rw [eq_blobBytes htree hentries hbs]
      exact readRegistryBlob_key (Nat.le_of_eq hkey.symm) (by rw [hkey]; omega)
    rw [hread] at hfail
    cases hfail
  · have hfits : ∀ e ∈ List.replicate (2 ^ 31) ("", Nbt.Tree.byte 0), EntryFits e := by
      intro e he
      rw [List.eq_of_mem_replicate he]
      exact ⟨Nat.zero_le _, trivial, trivial⟩
    have hentries : List.Forall₂ (DenotesEntry noFloats) (List.replicate (2 ^ 31) ("", .byte 0))
        ((List.replicate (2 ^ 31) (("", .byte 0) : String × Nbt.Tree String)).map fun e =>
          zeroEntry e.1) := by
      rw [List.forall₂_map_right_iff, List.forall₂_same]
      intro e he
      rw [List.eq_of_mem_replicate he]
      exact denotes_zeroEntry ""
    obtain ⟨frames, bs, hbs, hread⟩ := h noFloats _ _ hfits hentries
    obtain ⟨f, hfail⟩ : ∃ f, readRegistryBlob bs = .error f := by
      rw [eq_blobBytes (fun e he => (hfits e he).2) hentries hbs, blobBytes,
        List.length_replicate]
      exact readRegistryBlob_negative (by omega) (by omega) _
    rw [hread] at hfail
    cases hfail
  · obtain ⟨htyped, hcounted⟩ := nested_wellTyped frames
    have hnode := denotesNode_nested noFloats frames
    obtain ⟨bs, hbs, -⟩ := h noFloats (nestedTree frames) _ htyped hcounted hnode
    rw [encodeAnonymousNbt_eq htyped hcounted hnode, nbtFrames, payloadFrames_nested,
      if_neg (by omega)] at hbs
    cases hbs

end BuildRegistryNbt

end Statik
