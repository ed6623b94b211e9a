import Statik.BuildTools.RegistryBlobs
import Statik.Proto.V1211.Registries

/-!
# The data files of the registries

`main` of `build_registry_nbt.py` writes one file for each registry of a dimension codec,
and `registries.rs` embeds the files of those the server sends.
-/

namespace Statik

open Wire Nbt BuildRegistryNbt

/-- The data file is what the build tool makes of the registry. -/
def Built (formats : FloatFormats) (registry : List (String × Nbt.Tree String)) (file : Bytes) :
    Prop :=
  registry.length ≤ i32Max ∧ (∀ e ∈ registry, EntryFits e) ∧
    ∃ frames entries, List.Forall₂ (DenotesEntry formats) registry entries ∧
      buildRegistryBlob formats frames entries = some file

theorem Built.read {formats : FloatFormats} {registry : List (String × Nbt.Tree String)}
    {file : Bytes} (h : Built formats registry file) :
    readRegistryBlob file = .ok (registry.map entryRead, []) := by
  obtain ⟨hcount, hfits, frames, entries, hentries, hfile⟩ := h
  rw [eq_blobBytes (fun e he => (hfits e he).2) hentries hfile]
  exact (readRegistryBlob_reads hcount hfits).all

namespace BuildRegistryNbt

/-! ### The names -/

/-- The replacing of `str.replace`, after the first `skip` characters, which were matched. -/
def replaceFrom (old new : List Char) : Nat → List Char → List Char
  | _, [] => []
  | skip + 1, _ :: cs => replaceFrom old new skip cs
  | 0, c :: cs =>
    if old.isPrefixOf (c :: cs) then new ++ replaceFrom old new (old.length - 1) cs
    else c :: replaceFrom old new 0 cs

/-- `s.replace(old, new)`, for an `old` that is not empty. -/
def replace (s old new : String) : String :=
  String.ofList (replaceFrom old.toList new.toList 0 s.toList)

def sanitizeId (registryId : String) : String :=
  replace (replace registryId "minecraft:" "") "/" "_"

/-- The name of the file of a registry. -/
def outName (registryId : String) : String := "registry_" ++ sanitizeId registryId ++ ".bin"

theorem replaceFrom_not_mem {c d : Char} (hne : d ≠ c) (skip : Nat) (cs : List Char) :
    c ∉ replaceFrom [c] [d] skip cs := by
  induction cs generalizing skip with
  | nil => exact List.not_mem_nil
  | cons b cs ih =>
    cases skip with
    | succ skip => exact ih skip
    | zero =>
      rw [replaceFrom]
      split
      · simpa [hne.symm] using ih 0
      · next hprefix =>
        have hother : c ≠ b := by
          rintro rfl
          simp at hprefix
        simpa [hother] using ih 0

/-- A file is written to the directory itself, whatever the id is. -/
theorem outName_no_slash (registryId : String) : '/' ∉ (outName registryId).toList := by
  have hsanitized : '/' ∉ (sanitizeId registryId).toList := by
    rw [sanitizeId, replace, String.toList_ofList]
    exact replaceFrom_not_mem (by decide) 0 _
  rw [outName, String.toList_append, String.toList_append]
  simp [hsanitized]

example : outName "minecraft:worldgen/biome" = "registry_worldgen_biome.bin" := by decide +kernel

/-! ### The files -/

/-- What the files of a directory hold. -/
abbrev Directory := String → Option Bytes

/-- `val.get(key, default)`. -/
def Json.get (val : Json) (key : String) (default : Json) : Option Json :=
  match val with
  | .dict items => some ((items.lookup key).getD default)
  | _ => none

/-- What `dst / name` and `write_bytes` are held to: the frames of their own calls, and the
bytes a name in the directory may have. -/
structure Platform where
  pathFrames : Nat
  nameMax : Nat

/-- A NUL in a name is a `ValueError`, and a name too long an `OSError`. -/
def NameFits (platform : Platform) (name : String) : Prop :=
  Char.ofNat 0 ∉ name.toList ∧ (utf8 name).length ≤ platform.nameMax

instance (platform : Platform) (name : String) : Decidable (NameFits platform name) :=
  inferInstanceAs (Decidable (_ ∧ _))

/-- `(dst / name).write_bytes(blob)`. -/
def writeBytes (platform : Platform) (frames : Nat) (dst : Directory) (name : String)
    (blob : Bytes) : Option Directory :=
  if platform.pathFrames ≤ frames ∧ NameFits platform name then
    some (Function.update dst name (some blob))
  else none

section

variable (formats : FloatFormats) (platform : Platform)

/-- The blob of a registry of the codec. -/
def blobOf (frames : Nat) (body : Json) : Option Bytes := do
  let entries ← body.get "entries" (.list [])
  buildRegistryBlob formats frames (← entries.elements)

/-- A round of the loop of `main`. -/
def writeRegistry (frames : Nat) (registryId : String) (body : Json) (dst : Directory) :
    Option Directory := do
  let blob ← blobOf formats frames body
  let outName ← call frames fun _ => some (outName registryId)
  writeBytes platform frames dst outName blob

/-- The loop of `main`.  What was written before an exception stays. -/
def writeRegistries (frames : Nat) : List (String × Json) → Directory → Option Unit × Directory
  | [], dst => (some (), dst)
  | (registryId, body) :: items, dst =>
    match writeRegistry formats platform frames registryId body dst with
    | none => (none, dst)
    | some dst => writeRegistries frames items dst

/-- `main` on the JSON of its source, with a directory of files. -/
def main (frames : Nat) (data : Json) (dst : Directory) : Option Unit × Directory :=
  match frames, data.getItem "dimensionCodec" with
  | frames + 1, some (.dict items) => writeRegistries formats platform frames items dst
  | _, _ => (none, dst)

end

/-- A registry of the codec whose blob is built, under a name the directory takes. -/
structure Writes (formats : FloatFormats) (platform : Platform) (frames : Nat)
    (item : String × Json) (blob : Bytes) : Prop where
  built : blobOf formats frames item.2 = some blob
  called : 0 < frames
  path : platform.pathFrames ≤ frames
  name : NameFits platform (outName item.1)

section

variable {formats : FloatFormats} {platform : Platform} {frames : Nat}

theorem writeRegistry_eq {item : String × Json} {blob : Bytes}
    (h : Writes formats platform frames item blob) (dst : Directory) :
    writeRegistry formats platform frames item.1 item.2 dst =
      some (Function.update dst (outName item.1) (some blob)) := by
  have hname : (call frames fun _ => some (outName item.1)) = some (outName item.1) :=
    (call_leaf fun _ => rfl).trans (if_pos h.called)
  exact bind_eq h.built (bind_eq hname (if_pos ⟨h.path, h.name⟩))

/-- A round changes one file, if any. -/
theorem writeRegistry_other {registryId name : String} {body : Json} {dst dst' : Directory}
    (h : writeRegistry formats platform frames registryId body dst = some dst')
    (hname : outName registryId ≠ name) : dst' name = dst name := by
  obtain ⟨blob, -, h⟩ := Option.bind_eq_some_iff.mp h
  obtain ⟨out, hout, h⟩ := Option.bind_eq_some_iff.mp h
  rw [call_leaf (fun _ => rfl)] at hout
  split at hout
  · cases hout
    rw [writeBytes] at h
    split at h
    · cases h
      exact Function.update_of_ne hname.symm _ dst
    · cases h
  · cases hout

theorem writeRegistries_ok {items : List (String × Json)}
    (h : ∀ item ∈ items, ∃ blob, Writes formats platform frames item blob) (dst : Directory) :
    (writeRegistries formats platform frames items dst).1 = some () := by
  induction items generalizing dst with
  | nil => rfl
  | cons item items ih =>
    obtain ⟨⟨blob, hblob⟩, hitems⟩ := List.forall_mem_cons.mp h
    rw [writeRegistries, writeRegistry_eq hblob]
    exact ih hitems _

/-- A file that no registry has stays as it was. -/
theorem writeRegistries_other {items : List (String × Json)} {name : String}
    (h : ∀ item ∈ items, outName item.1 ≠ name) (dst : Directory) :
    (writeRegistries formats platform frames items dst).2 name = dst name := by
  induction items generalizing dst with
  | nil => rfl
  | cons item items ih =>
    obtain ⟨hitem, hitems⟩ := List.forall_mem_cons.mp h
    rw [writeRegistries]
    cases hround : writeRegistry formats platform frames item.1 item.2 dst with
    | none => rfl
    | some dst' => exact (ih hitems dst').trans (writeRegistry_other hround hitem)

/-- The last registry that has a file is the one that is in it. -/
theorem writeRegistries_last {before after : List (String × Json)} {item : String × Json}
    {blob : Bytes} (hbefore : ∀ i ∈ before, ∃ blob, Writes formats platform frames i blob)
    (hitem : Writes formats platform frames item blob)
    (hlast : ∀ i ∈ after, outName i.1 ≠ outName item.1) (dst : Directory) :
    (writeRegistries formats platform frames (before ++ item :: after) dst).2 (outName item.1) =
      some blob := by
  induction before generalizing dst with
  | nil =>
    rw [List.nil_append, writeRegistries, writeRegistry_eq hitem]
    exact (writeRegistries_other hlast _).trans (Function.update_self _ _ dst)
  | cons first before ih =>
    obtain ⟨⟨blob', hfirst⟩, hrest⟩ := List.forall_mem_cons.mp hbefore
    rw [List.cons_append, writeRegistries, writeRegistry_eq hfirst]
    exact ih hrest _

end

/-! ### The registries of a codec -/

/-- What a registry of the codec stands for. -/
def DenotesRegistry (formats : FloatFormats) (registry : List (String × Nbt.Tree String))
    (body : Json) : Prop :=
  ∃ items entries, body = .dict items ∧
    (items.lookup "entries").getD (.list []) = .list entries ∧
    List.Forall₂ (DenotesEntry formats) registry entries

theorem DenotesRegistry.built {formats : FloatFormats}
    {registry : List (String × Nbt.Tree String)} {body : Json} {frames : Nat}
    (h : DenotesRegistry formats registry body) (hcount : registry.length ≤ i32Max)
    (hfits : ∀ e ∈ registry, EntryFits e) (hframes : blobFrames registry ≤ frames) :
    ∃ file, blobOf formats frames body = some file ∧ Built formats registry file := by
  obtain ⟨items, entries, rfl, hentries, hdenotes⟩ := h
  have hfile := buildRegistryBlob_eq (fun e he => (hfits e he).2) hdenotes frames
  rw [if_pos hframes] at hfile
  have hget : (Json.dict items).get "entries" (.list []) = some (.list entries) :=
    congrArg some hentries
  exact ⟨_, bind_eq hget hfile, hcount, hfits, frames, entries, hdenotes, hfile⟩

/-- The registry of an item is within the limits of the format, of the recursion with so
many frames left to its blob, and of the directory. -/
structure Fits (formats : FloatFormats) (platform : Platform) (frames : Nat)
    (registry : List (String × Nbt.Tree String)) (item : String × Json) : Prop where
  denotes : DenotesRegistry formats registry item.2
  count : registry.length ≤ i32Max
  entries : ∀ e ∈ registry, EntryFits e
  depth : blobFrames registry ≤ frames
  name : NameFits platform (outName item.1)

theorem Fits.writes {formats : FloatFormats} {platform : Platform} {frames : Nat}
    {registry : List (String × Nbt.Tree String)} {item : String × Json}
    (h : Fits formats platform frames registry item) (hpath : platform.pathFrames ≤ frames) :
    ∃ file, Writes formats platform frames item file ∧ Built formats registry file := by
  obtain ⟨file, hfile, hbuilt⟩ := h.denotes.built h.count h.entries h.depth
  have hpos : 0 < frames :=
    Nat.lt_of_lt_of_le Nat.zero_lt_two (Nat.le_trans (two_le_blobFrames registry) h.depth)
  exact ⟨file, ⟨hfile, hpos, hpath, h.name⟩, hbuilt⟩

/-- The files that `registries.rs` embeds are named as the builder names them. -/
theorem all_outNames (includeBytes : String → Bytes) :
    ∀ entry ∈ V1_21_1.registries.all includeBytes,
      entry.2 = includeBytes ("data/" ++ outName entry.1) := by
  intro entry hentry
  simp only [V1_21_1.registries.all, List.mem_cons, List.not_mem_nil, or_false] at hentry
  rcases hentry with rfl | rfl | rfl | rfl | rfl | rfl | rfl | rfl | rfl | rfl | rfl <;>
  · apply congrArg includeBytes
    dsimp only
    decide +kernel

/-- A codec of registries that fit is written to its end.  No file is touched but those
named after its registries, which lie in the directory itself; a file holds the last of
the registries that share its name; and of the registries that the server embeds from the
directory, those are read back that no later one shares a file with. -/
theorem main_embeds (formats : FloatFormats) (platform : Platform) {frames : Nat}
    (hpath : platform.pathFrames ≤ frames) {data : Json} {items : List (String × Json)}
    (hdata : data.getItem "dimensionCodec" = some (.dict items))
    (registry : String × Json → List (String × Nbt.Tree String))
    (hitems : ∀ item ∈ items, Fits formats platform frames (registry item) item)
    (dst : Directory) :
    (main formats platform (frames + 1) data dst).1 = some () ∧
    (∀ name, (main formats platform (frames + 1) data dst).2 name ≠ dst name →
      '/' ∉ name.toList ∧ ∃ item ∈ items, name = outName item.1) ∧
    ∀ before item after, items = before ++ item :: after →
      (∀ i ∈ after, outName i.1 ≠ outName item.1) →
      ∃ file, (main formats platform (frames + 1) data dst).2 (outName item.1) = some file ∧
        Built formats (registry item) file ∧
        readRegistryBlob file = .ok ((registry item).map entryRead, []) ∧
        ∀ includeBytes, includeBytes ("data/" ++ outName item.1) = file →
          ∀ entry ∈ V1_21_1.registries.all includeBytes, entry.1 = item.1 → entry.2 = file := by
  have hwrites : ∀ item ∈ items, ∃ file, Writes formats platform frames item file := by
    intro item hitem
    obtain ⟨file, hfile, -⟩ := (hitems item hitem).writes hpath
    exact ⟨file, hfile⟩
  have hmain : main formats platform (frames + 1) data dst =
      writeRegistries formats platform frames items dst := by
    unfold main
    rw [hdata]
  rw [hmain]
  refine ⟨writeRegistries_ok hwrites dst, fun name hname => ?_, ?_⟩
  · have hsome : ∃ item ∈ items, outName item.1 = name := by
      by_contra hnone
      exact hname (writeRegistries_other (fun item hitem heq => hnone ⟨item, hitem, heq⟩) dst)
    obtain ⟨item, hitem, rfl⟩ := hsome
    exact ⟨outName_no_slash item.1, item, hitem, rfl⟩
  · rintro before item after rfl hlast
    have hitem : item ∈ before ++ item :: after := List.mem_append_right _ List.mem_cons_self
    obtain ⟨file, hfile, hbuilt⟩ := (hitems item hitem).writes hpath
    have hbefore : ∀ i ∈ before, ∃ blob, Writes formats platform frames i blob :=
      fun i hi => hwrites i (List.mem_append_left _ hi)
    refine ⟨file, writeRegistries_last hbefore hfile hlast dst, hbuilt, hbuilt.read, ?_⟩
    intro includeBytes hembeds entry hentry hid
    rw [all_outNames includeBytes entry hentry, hid, hembeds]

/-- Two registries that share a file. -/
def sharedCodec : List (String × Json) :=
  [("minecraft:worldgen/biome", .dict []),
    ("worldgen_biome", .dict [("entries",
      .list [.dict [("key", .str "minecraft:plains"), ("value", sampleNode)]])])]

/-- A directory whose names have up to 255 bytes. -/
def samplePlatform : Platform := { pathFrames := 5, nameMax := 255 }

theorem sharedCodec_embeds : ∃ file,
    (main oneFloats samplePlatform 990 (.dict [("dimensionCodec", .dict sharedCodec)])
      fun _ => none).2 (outName "minecraft:worldgen/biome") = some file ∧
    readRegistryBlob file = .ok ([("minecraft:plains", true, sampleTree)], []) := by
  let registry : String × Json → List (String × Nbt.Tree String) := fun item =>
    if item.1 = "worldgen_biome" then [("minecraft:plains", sampleTree)] else []
  have hname : outName "minecraft:worldgen/biome" = outName "worldgen_biome" := by decide +kernel
  have hfits : NameFits samplePlatform (outName "worldgen_biome") := by decide +kernel
  have hitems : ∀ item ∈ sharedCodec,
      Fits oneFloats samplePlatform 989 (registry item) item := by
    intro item hitem
    rcases List.mem_pair.mp (show item ∈ [_, _] from hitem) with rfl | rfl
    · exact ⟨⟨_, _, rfl, rfl, .nil⟩, by decide, fun e he => absurd he List.not_mem_nil, by decide,
        by rw [hname]; exact hfits⟩
    · exact ⟨⟨_, _, rfl, rfl, denotes_samples⟩, by decide, sample_fits, by decide, hfits⟩
  have hdata : (Json.dict [("dimensionCodec", .dict sharedCodec)]).getItem "dimensionCodec" =
      some (.dict sharedCodec) := rfl
  obtain ⟨-, -, hlast⟩ :=
    main_embeds oneFloats samplePlatform (by decide) hdata registry hitems fun _ => none
  obtain ⟨file, hfile, -, hread, -⟩ := hlast [_] _ [] rfl fun i hi => absurd hi List.not_mem_nil
  dsimp only at hfile
  exact ⟨file, by rw [hname, hfile], hread⟩

end BuildRegistryNbt

end Statik
