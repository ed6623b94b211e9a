import Mathlib.Data.List.Forall2
import Statik.BuildTools.RegistryNbt
import Statik.Core.Impls

/-!
# What the JSON of the registries denotes

The nodes of the JSON as NBT trees, and that the builder encodes a node as the bytes of
the tree it denotes, in both of its conventions for nested values, exactly where the
recursion limit leaves it the frames that the nesting of the tree takes.
-/

namespace Statik

open Wire Nbt

/-- Strings in UTF-8. -/
def utf8Text : Text String where
  toBytes := utf8
  ofBytes := fromUtf8
  ofBytes_toBytes := fromUtf8_utf8

namespace BuildRegistryNbt

/-! ### What the JSON denotes -/

/-- The name the JSON has for the type. -/
def typeName : Tag → String
  | .end_ => "end"
  | .byte => "byte"
  | .short => "short"
  | .int => "int"
  | .long => "long"
  | .float => "float"
  | .double => "double"
  | .byteArray => "byteArray"
  | .string => "string"
  | .list => "list"
  | .compound => "compound"
  | .intArray => "intArray"
  | .longArray => "longArray"

/-- The integer, or its upper and its lower half, the lower with or without its sign. -/
def IsLong (v : BitVec 64) (val : Json) : Prop :=
  val = .int v.toInt ∨
    ∃ hi lo : Int, val = .list [.int hi, .int lo] ∧ -2 ^ 31 ≤ hi ∧ hi < 2 ^ 31 ∧
      v = BitVec.ofInt 32 hi ++ BitVec.ofInt 32 lo

section denotation

variable (formats : FloatFormats)

mutual

/-- The value stands for what the tag of the tree holds. -/
def Denotes : Nbt.Tree String → Json → Prop
  | .byte v, val => val = .int v.toInt
  | .short v, val => val = .int v.toInt
  | .int v, val => val = .int v.toInt
  | .long v, val => IsLong v val
  | .float bits, val => formats.float val = some bits
  | .double bits, val => formats.double val = some bits
  | .byteArray vs, val => val = .list (vs.map fun v => .int v.toInt)
  | .string s, val => val = .str s
  | .list inner items, val =>
    ∃ shape vals, val = .dict shape ∧ shape.lookup "type" = some (.str (typeName inner)) ∧
      shape.lookup "value" = some (.list vals) ∧ DenotesEach items vals
  | .compound entries, val => ∃ nodes, val = .dict nodes ∧ DenotesNamed entries nodes
  | .intArray vs, val => val = .list (vs.map fun v => .int v.toInt)
  | .longArray vs, val => ∃ vals, val = .list vals ∧ List.Forall₂ IsLong vs vals

/-- The items of a list are bare values. -/
def DenotesEach : List (Nbt.Tree String) → List Json → Prop
  | [], vals => vals = []
  | t :: ts, vals => ∃ val rest, vals = val :: rest ∧ Denotes t val ∧ DenotesEach ts rest

/-- The entries of a compound are nodes, of a type and a value. -/
def DenotesNamed : List (String × Nbt.Tree String) → List (String × Json) → Prop
  | [], nodes => nodes = []
  | (name, t) :: es, nodes =>
    ∃ items val rest, nodes = (name, .dict items) :: rest ∧
      items.lookup "type" = some (.str (typeName t.tag)) ∧ items.lookup "value" = some val ∧
      Denotes t val ∧ DenotesNamed es rest

end

def DenotesNode (t : Nbt.Tree String) (node : Json) : Prop :=
  ∃ items val, node = .dict items ∧ items.lookup "type" = some (.str (typeName t.tag)) ∧
    items.lookup "value" = some val ∧ Denotes formats t val

end denotation

/-! ### The frames a tree takes -/

mutual

/-- The frames of `encode_payload` on the value of a tree: its own, and those of the call
that goes deepest. -/
def payloadFrames : Nbt.Tree String → Nat
  | .list _ items => itemsFrames items + 1
  | .compound entries => bodyFrames entries + 1
  | .byteArray _ => 2
  | .string _ => 2
  | .intArray _ => 2
  | _ => 1

/-- Of the items of a list.  `encode_compound_body` is called for a compound at once. -/
def itemsFrames : List (Nbt.Tree String) → Nat
  | [] => 0
  | t :: ts =>
    max (if t.tag = .compound then payloadFrames t - 1 else payloadFrames t) (itemsFrames ts)

/-- Of `encode_compound_body`. -/
def bodyFrames : List (String × Nbt.Tree String) → Nat
  | [] => 1
  | (_, t) :: es => max (payloadFrames t + 1) (bodyFrames es)

end

/-- The frames of an item of a list. -/
def itemFrames (t : Nbt.Tree String) : Nat :=
  if t.tag = .compound then payloadFrames t - 1 else payloadFrames t

theorem payloadFrames_pos (t : Nbt.Tree String) : 0 < payloadFrames t := by
  cases t <;> exact Nat.succ_pos _

theorem itemsFrames_le {items : List (Nbt.Tree String)} {frames : Nat} :
    itemsFrames items ≤ frames ↔ ∀ t ∈ items, itemFrames t ≤ frames := by
  induction items with
  | nil => simp [itemsFrames]
  | cons t ts ih => rw [itemsFrames, Nat.max_le, ih, List.forall_mem_cons, itemFrames]

theorem bodyFrames_le {entries : List (String × Nbt.Tree String)} {frames : Nat} :
    bodyFrames entries ≤ frames + 1 ↔ ∀ e ∈ entries, payloadFrames e.2 ≤ frames := by
  induction entries with
  | nil => simp [bodyFrames]
  | cons e es ih =>
    obtain ⟨name, t⟩ := e
    rw [bodyFrames, Nat.max_le, ih, List.forall_mem_cons, Nat.succ_le_succ_iff]

theorem bodyFrames_pos (entries : List (String × Nbt.Tree String)) : 0 < bodyFrames entries := by
  cases entries with
  | nil => exact Nat.one_pos
  | cons e es =>
    rw [bodyFrames]
    omega

/-! ### Steps that raise -/

/-- A step that does not raise. -/
theorem bind_eq {α β : Type} {x : Option α} {f : α → Option β} {a : α} {r : Option β}
    (hx : x = some a) (hf : f a = r) : (x >>= f) = r := by
  rw [hx]
  exact hf

/-- A step that raises. -/
theorem bind_eq_none {α β : Type} {x : Option α} {f : α → Option β} (hx : x = none) :
    (x >>= f) = none := by
  rw [hx]
  rfl

/-- What goes on from a step that raises on a condition raises on the same one. -/
theorem bind_ite {α β : Type} {p q : Prop} [Decidable p] [Decidable q] {f : α → Option β} {a : α}
    {b : β} (hf : f a = some b) (hiff : p ↔ q) :
    ((if p then some a else none) >>= f) = if q then some b else none := by
  by_cases hp : p
  · rw [if_pos hp, if_pos (hiff.mp hp)]
    exact hf
  · rw [if_neg hp, if_neg fun hq => hp (hiff.mpr hq)]
    rfl

theorem call_succ {α : Type} (frames : Nat) (body : Nat → Option α) :
    call (frames + 1) body = body frames := rfl

/-- A function that calls no other. -/
theorem call_leaf {α : Type} {frames : Nat} {body : Nat → Option α} {a : α}
    (h : ∀ frames, body frames = some a) :
    call frames body = if 0 < frames then some a else none := by
  cases frames with
  | zero => rfl
  | succ frames => exact h frames

/-! ### The numbers -/

theorem packSigned_toInt (width : Nat) (v : BitVec (8 * width)) :
    packSigned width v.toInt = some (beBytes width v.toNat) := by
  rw [packSigned, if_pos ⟨BitVec.le_toInt v, BitVec.toInt_lt⟩, BitVec.ofInt_toInt]

theorem packSigned_count {n : Nat} (h : n < 2 ^ 31) : packSigned 4 n = some (beBytes 4 n) := by
  have hword : (BitVec.ofInt (8 * 4) n).toNat = n := by
    rw [BitVec.ofInt_natCast, BitVec.toNat_ofNat]
    omega
  rw [packSigned, if_pos (by omega), hword]

theorem packUnsigned_natCast {width n : Nat} (h : n < 2 ^ (8 * width)) :
    packUnsigned width n = some (beBytes width n) := by
  rw [packUnsigned, if_pos ⟨Int.natCast_nonneg n, by exact_mod_cast h⟩, Int.toNat_natCast]

theorem encodeMcShortString_eq {s : String} (h : Nbt.Tree.Short utf8Text s) (frames : Nat) :
    encodeMcShortString frames s =
      if 0 < frames then some (shortString utf8Text s) else none :=
  call_leaf fun _ => bind_eq (packUnsigned_natCast h) rfl

theorem beBytes_append (hi lo : BitVec 32) :
    beBytes 8 (hi ++ lo).toNat = beBytes 4 hi.toNat ++ beBytes 4 lo.toNat := by
  have hlo := lo.isLt
  have hword : (hi ++ lo).toNat = hi.toNat * 2 ^ 32 + lo.toNat := by
    rw [BitVec.toNat_append, ← Nat.shiftLeft_add_eq_or_of_lt hlo, Nat.shiftLeft_eq]
  have hupper : (hi ++ lo).toNat / 256 ^ 4 = hi.toNat := by
    rw [hword]
    omega
  have hlower : (hi ++ lo).toNat % 256 ^ 4 = lo.toNat := by
    rw [hword]
    omega
  rw [beBytes_add 4 4, hupper, ← beBytes_mod 4 (hi ++ lo).toNat, hlower]

theorem encodeLong_eq {v : BitVec 64} {val : Json} (h : IsLong v val) :
    encodeLong val = some (beBytes 8 v.toNat) := by
  rcases h with rfl | ⟨hi, lo, rfl, hlow, hhigh, rfl⟩
  · exact packSigned_toInt 8 v
  · have hhi : packSigned 4 hi = some (beBytes 4 (BitVec.ofInt 32 hi).toNat) :=
      if_pos ⟨hlow, hhigh⟩
    have hlo : packUnsigned 4 (Int.land lo 0xFFFFFFFF) =
        some (beBytes 4 (BitVec.ofInt 32 lo).toNat) := by
      have hmask : Int.land lo 0xFFFFFFFF = (BitVec.ofInt 32 lo).toNat := by
        rw [show (0xFFFFFFFF : Int) = (2 ^ 32 - 1 : Nat) from rfl, land_mask, BitVec.toNat_ofInt]
        omega
      rw [hmask]
      exact packUnsigned_natCast (BitVec.ofInt 32 lo).isLt
    have hencode : encodeLong (.list [.int hi, .int lo]) =
        some (beBytes 4 (BitVec.ofInt 32 hi).toNat ++ beBytes 4 (BitVec.ofInt 32 lo).toNat) := by
      show (do
        let hi ← packSigned 4 hi
        let lo ← packUnsigned 4 (Int.land lo 0xFFFFFFFF)
        some (hi ++ lo)) = _
      rw [hhi, hlo]
      rfl
    rw [hencode, beBytes_append]

/-! ### The payloads -/

/-- A loop that raises where one of its rounds does. -/
theorem mapM_of_forall₂ {α β γ : Type} {f : β → Option γ} {g : α → γ} {ok : α → Prop}
    [DecidablePred ok] {as : List α} {bs : List β}
    (h : List.Forall₂ (fun a b => f b = if ok a then some (g a) else none) as bs) :
    bs.mapM f = if ∀ a ∈ as, ok a then some (as.map g) else none := by
  induction h with
  | nil => simp
  | @cons a b as bs hb _ ih =>
    rw [List.mapM_cons, hb, ih]
    by_cases ha : ok a
    · rw [if_pos ha]
      by_cases hrest : ∀ a ∈ as, ok a
      · rw [if_pos hrest, if_pos (List.forall_mem_cons.mpr ⟨ha, hrest⟩)]
        rfl
      · rw [if_neg hrest, if_neg fun hall => hrest (List.forall_mem_cons.mp hall).2]
        rfl
    · rw [if_neg ha, if_neg fun hall => ha (List.forall_mem_cons.mp hall).1]
      rfl

/-- A loop none of whose rounds raises. -/
theorem mapM_eq_some {α β γ : Type} {f : β → Option γ} {g : α → γ} {as : List α} {bs : List β}
    (h : List.Forall₂ (fun a b => f b = some (g a)) as bs) : bs.mapM f = some (as.map g) := by
  have hnever : List.Forall₂ (fun a b => f b = if True then some (g a) else none) as bs :=
    h.imp fun a b hb => by rw [hb, if_pos trivial]
  rw [mapM_of_forall₂ hnever, if_pos fun _ _ => trivial]

theorem encodeArray_eq (width : Nat) {encode : Json → Option Bytes}
    {vs : List (BitVec (8 * width))} {vals : List Json} (hlength : vs.length < 2 ^ 31)
    (h : List.Forall₂ (fun v val => encode val = some (beBytes width v.toNat)) vs vals) :
    encodeArray encode (.list vals) = some (array width vs) := by
  have hcount : packSigned 4 (vals.length : Nat) = some (beBytes 4 vs.length) := by
    rw [← h.length_eq]
    exact packSigned_count hlength
  rw [encodeArray, array, List.flatMap_def]
  exact bind_eq rfl (bind_eq hcount (bind_eq (mapM_eq_some h) rfl))

/-- The elements of an array are integers of its width. -/
theorem encodeArray_ints (width : Nat) {encode : Json → Option Bytes}
    {vs : List (BitVec (8 * width))} (hlength : vs.length < 2 ^ 31)
    (h : ∀ v : BitVec (8 * width), encode (.int v.toInt) = some (beBytes width v.toNat)) :
    encodeArray encode (.list (vs.map fun v => .int v.toInt)) = some (array width vs) := by
  refine encodeArray_eq width hlength ?_
  rw [List.forall₂_map_right_iff, List.forall₂_same]
  exact fun v _ => h v

section payloads

variable {formats : FloatFormats}

theorem encodePayload_flat {tag : Byte} (hlist : tag ≠ tagList) (hcompound : tag ≠ tagCompound)
    (frames : Nat) (val : Json) :
    encodePayload formats (frames + 1) tag val = encodeFlat formats frames tag val := by
  rw [encodePayload, if_neg hlist, if_neg hcompound]

theorem encodePayload_compound (frames : Nat) (val : Json) :
    encodePayload formats (frames + 1) tagCompound val = encodeCompoundBody formats frames val := by
  rw [encodePayload, if_neg (by decide), if_pos rfl]

theorem tagNamed_typeName (tag : Tag) : tagNamed (.str (typeName tag)) = some tag.id := by
  cases tag <;> rfl

/-- A signed byte is its own operand. -/
theorem byteOperand (v : BitVec 8) :
    (if 0 ≤ v.toInt then Int.land v.toInt 0xFF else v.toInt) = v.toInt := by
  by_cases h : 0 ≤ v.toInt
  · have hlt : v.toInt < 128 := BitVec.toInt_lt
    rw [if_pos h, show (0xFF : Int) = (2 ^ 8 - 1 : Nat) from rfl, land_mask]
    omega
  · rw [if_neg h]

/-- A masked byte of an array is the byte. -/
theorem maskedByte (v : BitVec 8) :
    [BitVec.ofInt 8 (Int.land v.toInt 0xFF)] = beBytes 1 v.toNat := by
  have hmask : BitVec.ofInt 8 (Int.land v.toInt 0xFF) = v := by
    rw [show (0xFF : Int) = (2 ^ 8 - 1 : Nat) from rfl, land_mask]
    apply BitVec.eq_of_toInt_eq
    rw [BitVec.toInt_ofInt]
    exact (Int.emod_bmod v.toInt (2 ^ 8)).trans (BitVec.toInt_bmod_cancel v)
  rw [hmask, beBytes, beBytes, List.nil_append, BitVec.ofNat_toNat, BitVec.setWidth_eq]

/-- One more frame than a function that calls no other. -/
theorem ite_two {α : Type} (frames : Nat) (a : α) :
    (if 0 < frames then some a else none) = if 2 ≤ frames + 1 then some a else none :=
  if_congr (by omega) rfl rfl

theorem encodeFlat_eq {t : Nbt.Tree String} (hlist : t.tag ≠ .list)
    (hcompound : t.tag ≠ .compound) (htyped : t.TypedHere utf8Text) (hcounted : t.CountedHere)
    (frames : Nat) {val : Json} (h : Denotes formats t val) :
    encodeFlat formats frames t.tag.id val =
      if payloadFrames t ≤ frames + 1 then some (t.payload utf8Text) else none := by
  have hone : ∀ bs : Bytes, some bs = if 1 ≤ frames + 1 then some bs else none :=
    fun bs => (if_pos (Nat.le_add_left 1 frames)).symm
  cases t with
  | byte v =>
    obtain rfl := h
    have hbyte : encodeFlat formats frames tagByte (.int v.toInt) =
      packSigned 1 (if 0 ≤ v.toInt then Int.land v.toInt 0xFF else v.toInt) := rfl
    rw [byteOperand] at hbyte
    exact (hbyte.trans (packSigned_toInt 1 v)).trans (hone _)
  | short v =>
    obtain rfl := h
    exact (bind_eq rfl (packSigned_toInt 2 v)).trans (hone _)
  | int v =>
    obtain rfl := h
    exact (bind_eq rfl (packSigned_toInt 4 v)).trans (hone _)
  | long v => exact (encodeLong_eq h).trans (hone _)
  | float bits => exact (bind_eq h rfl).trans (hone _)
  | double bits => exact (bind_eq h rfl).trans (hone _)
  | byteArray vs =>
    obtain rfl := h
    exact (call_leaf fun _ => encodeArray_ints 1 hcounted fun v =>
      congrArg some (maskedByte v)).trans (ite_two frames _)
  | string s =>
    obtain rfl := h
    exact (encodeMcShortString_eq htyped frames).trans (ite_two frames _)
  | list inner items => exact absurd rfl hlist
  | compound entries => exact absurd rfl hcompound
  | intArray vs =>
    obtain rfl := h
    exact (call_leaf fun _ => encodeArray_ints 4 hcounted fun v =>
      bind_eq rfl (packSigned_toInt 4 v)).trans (ite_two frames _)
  | longArray vs =>
    obtain ⟨vals, rfl, hvals⟩ := h
    exact (encodeArray_eq 8 hcounted (hvals.imp fun v val hlong => encodeLong_eq hlong)).trans
      (hone _)

theorem denotesEach_iff {items : List (Nbt.Tree String)} {vals : List Json} :
    DenotesEach formats items vals ↔ List.Forall₂ (Denotes formats) items vals := by
  induction items generalizing vals with
  | nil => rw [DenotesEach, List.forall₂_nil_left_iff]
  | cons t ts ih =>
    rw [DenotesEach, List.forall₂_cons_left_iff]
    constructor
    · rintro ⟨val, rest, rfl, hval, hrest⟩
      exact ⟨val, rest, hval, ih.mp hrest, rfl⟩
    · rintro ⟨val, rest, hval, hrest, rfl⟩
      exact ⟨val, rest, rfl, hval, ih.mpr hrest⟩

theorem denotesNamed_iff {entries : List (String × Nbt.Tree String)}
    {nodes : List (String × Json)} :
    DenotesNamed formats entries nodes ↔
      List.Forall₂ (fun e node => node.1 = e.1 ∧ DenotesNode formats e.2 node.2) entries nodes := by
  induction entries generalizing nodes with
  | nil => rw [DenotesNamed, List.forall₂_nil_left_iff]
  | cons e es ih =>
    rw [DenotesNamed, List.forall₂_cons_left_iff]
    constructor
    · rintro ⟨items, val, rest, rfl, htype, hvalue, hval, hrest⟩
      exact ⟨_, rest, ⟨rfl, items, val, rfl, htype, hvalue, hval⟩, ih.mp hrest, rfl⟩
    · rintro ⟨⟨name, node⟩, rest, ⟨rfl, items, val, rfl, htype, hvalue, hval⟩, hrest, rfl⟩
      exact ⟨items, val, rest, rfl, htype, hvalue, hval, ih.mpr hrest⟩

variable (formats) in
/-- Every value the tree denotes is encoded as its payload, where there are frames for it. -/
def Encodes (t : Nbt.Tree String) : Prop :=
  ∀ frames val, Denotes formats t val → encodePayload formats frames t.tag.id val =
    if payloadFrames t ≤ frames then some (t.payload utf8Text) else none

/-- Each of the three calls encodes the payload of the item. -/
theorem encodeItem_eq {t : Nbt.Tree String} (ht : Encodes formats t) (frames : Nat) {it : Json}
    (hit : Denotes formats t it) :
    (if t.tag.id = tagCompound then encodeCompoundBody formats frames it
      else if t.tag.id = tagList then encodePayload formats frames tagList it
      else encodePayload formats frames t.tag.id it) =
      if itemFrames t ≤ frames then some (t.payload utf8Text) else none := by
  have hpos := payloadFrames_pos t
  by_cases hcompound : t.tag.id = tagCompound
  · have hbody := ht (frames + 1) it hit
    rw [hcompound, encodePayload_compound] at hbody
    rw [if_pos hcompound, hbody, itemFrames, if_pos (Tag.id_injective hcompound)]
    exact if_congr (by omega) rfl rfl
  · have hother : t.tag ≠ .compound := fun htag => hcompound (congrArg Tag.id htag)
    rw [if_neg hcompound, itemFrames, if_neg hother, ← ht frames it hit]
    by_cases hlist : t.tag.id = tagList
    · rw [if_pos hlist, hlist]
    · rw [if_neg hlist]

theorem encodes_list {inner : Tag} {items : List (Nbt.Tree String)}
    (htyped : Nbt.Tree.TypedHere utf8Text (.list inner items))
    (hcounted : Nbt.Tree.CountedHere (.list inner items)) (h : ∀ t ∈ items, Encodes formats t) :
    Encodes formats (.list inner items) := by
  intro frames val hval
  rw [Denotes] at hval
  obtain ⟨shape, vals, rfl, htype, hvalue, hvals⟩ := hval
  have hvals := denotesEach_iff.mp hvals
  have hcount : packSigned 4 (vals.length : Nat) = some (beBytes 4 items.length) := by
    rw [← hvals.length_eq]
    exact packSigned_count hcounted
  show encodePayload formats frames tagList (.dict shape) = _
  rw [payloadFrames, Nbt.Tree.payload]
  cases frames with
  | zero => rfl
  | succ frames =>
    have hitems : List.Forall₂ (fun t it => (if inner.id = tagCompound
        then encodeCompoundBody formats frames it
        else if inner.id = tagList then encodePayload formats frames tagList it
        else encodePayload formats frames inner.id it) =
        if itemFrames t ≤ frames then some (t.payload utf8Text) else none) items vals := by
      have hdenoted : List.Forall₂ (fun t it => (t.tag = inner ∧ Encodes formats t) ∧
          Denotes formats t it) items vals :=
        (List.forall₂_and_left _ _).mpr ⟨fun t ht => ⟨htyped t ht, h t ht⟩, hvals⟩
      refine hdenoted.imp ?_
      rintro t it ⟨⟨rfl, ht⟩, hit⟩
      exact encodeItem_eq ht frames hit
    rw [encodePayload, if_pos rfl]
    refine bind_eq htype (bind_eq (tagNamed_typeName inner) (bind_eq hvalue ?_))
    by_cases hend : inner.id = tagEnd
    · -- No tree has the type `end`.
      have hempty : items = [] := by
        refine List.eq_nil_iff_forall_not_mem.mpr fun t ht => t.tag_ne_end ?_
        rw [htyped t ht]
        exact Tag.id_injective hend
      rw [if_pos hend, hempty, hend, itemsFrames, if_pos (Nat.le_add_left 1 frames)]
      rfl
    · rw [if_neg hend]
      refine bind_eq rfl (bind_eq hcount ?_)
      rw [mapM_of_forall₂ hitems, Nbt.Tree.payloads_eq, List.flatMap_def]
      exact bind_ite rfl (itemsFrames_le.symm.trans Nat.succ_le_succ_iff.symm)

/-- A node has the type of the tree, and its value is encoded as the payload. -/
theorem encodePayload_denotes {t : Nbt.Tree String} {node : Json} (ht : Encodes formats t)
    (h : DenotesNode formats t node) :
    ∃ val, node.getItem "type" = some (.str (typeName t.tag)) ∧ node.getItem "value" = some val ∧
      ∀ frames, encodePayload formats frames t.tag.id val =
        if payloadFrames t ≤ frames then some (t.payload utf8Text) else none := by
  obtain ⟨items, val, rfl, htype, hvalue, hval⟩ := h
  exact ⟨val, htype, hvalue, fun frames => ht frames val hval⟩

theorem encodeCompoundBody_eq {entries : List (String × Nbt.Tree String)}
    {nodes : List (String × Json)} (hshort : ∀ e ∈ entries, Nbt.Tree.Short utf8Text e.1)
    (h : ∀ e ∈ entries, Encodes formats e.2)
    (hnodes : List.Forall₂ (fun e node => node.1 = e.1 ∧ DenotesNode formats e.2 node.2)
      entries nodes) (frames : Nat) :
    encodeCompoundBody formats frames (.dict nodes) =
      if bodyFrames entries ≤ frames then some (Nbt.Tree.body utf8Text entries) else none := by
  cases frames with
  | zero => rw [encodeCompoundBody, if_neg (by have := bodyFrames_pos entries; omega)]
  | succ frames =>
    rw [encodeCompoundBody, Nbt.Tree.body_eq, List.flatMap_def]
    have hrounds : List.Forall₂ (fun (e : String × Nbt.Tree String) (node : String × Json) => (do
        let ctypeName ← node.2.getItem "type"
        let cval ← node.2.getItem "value"
        let ctag ← tagNamed ctypeName
        let name ← encodeMcShortString frames node.1
        let payload ← encodePayload formats frames ctag cval
        some (ctag :: (name ++ payload))) =
        if payloadFrames e.2 ≤ frames then some (e.2.named utf8Text e.1) else none)
        entries nodes := by
      have hdenoted : List.Forall₂ (fun e node => (Nbt.Tree.Short utf8Text e.1 ∧
          Encodes formats e.2) ∧ node.1 = e.1 ∧ DenotesNode formats e.2 node.2) entries nodes :=
        (List.forall₂_and_left _ _).mpr ⟨fun e he => ⟨hshort e he, h e he⟩, hnodes⟩
      refine hdenoted.imp ?_
      rintro ⟨name, t⟩ ⟨_, node⟩ ⟨⟨hname, ht⟩, rfl, hnode⟩
      obtain ⟨val, htype, hvalue, hpayload⟩ := encodePayload_denotes ht hnode
      refine bind_eq htype (bind_eq hvalue (bind_eq (tagNamed_typeName _) ?_))
      rw [encodeMcShortString_eq hname, hpayload]
      have hpos := payloadFrames_pos t
      by_cases hfit : payloadFrames t ≤ frames
      · rw [if_pos (by omega), if_pos hfit, if_pos hfit]
        rfl
      · rw [if_neg hfit, if_neg hfit]
        split <;> rfl
    refine (congrArg (· >>= _) (mapM_of_forall₂ hrounds)).trans ?_
    exact bind_ite rfl bodyFrames_le.symm

theorem encodes_compound {entries : List (String × Nbt.Tree String)}
    (htyped : Nbt.Tree.TypedHere utf8Text (.compound entries))
    (h : ∀ e ∈ entries, Encodes formats e.2) : Encodes formats (.compound entries) := by
  intro frames val hval
  rw [Denotes] at hval
  obtain ⟨nodes, rfl, hnodes⟩ := hval
  show encodePayload formats frames tagCompound (.dict nodes) = _
  rw [payloadFrames, Nbt.Tree.payload]
  cases frames with
  | zero => rfl
  | succ frames =>
    rw [encodePayload_compound, encodeCompoundBody_eq htyped h (denotesNamed_iff.mp hnodes)]
    exact if_congr Nat.succ_le_succ_iff.symm rfl rfl

theorem encodes {t : Nbt.Tree String} (htyped : t.WellTyped utf8Text) (hcounted : t.Counted) :
    Encodes formats t := by
  induction t using Nbt.Tree.induct with
  | flat t hlist hcompound =>
    intro frames val hval
    have hpos := payloadFrames_pos t
    cases frames with
    | zero => rw [encodePayload, if_neg (by omega)]
    | succ frames =>
      rw [encodePayload_flat (fun htag => hlist (Tag.id_injective htag))
        (fun htag => hcompound (Tag.id_injective htag))]
      exact encodeFlat_eq hlist hcompound htyped.self hcounted.self frames hval
  | list inner items ih =>
    obtain ⟨htyped, htypes⟩ := Nbt.Tree.all_list.mp htyped
    obtain ⟨hcounted, hcounts⟩ := Nbt.Tree.all_list.mp hcounted
    exact encodes_list htyped hcounted fun t ht => ih t ht (htypes t ht) (hcounts t ht)
  | compound entries ih =>
    obtain ⟨htyped, htypes⟩ := Nbt.Tree.all_compound.mp htyped
    obtain ⟨-, hcounts⟩ := Nbt.Tree.all_compound.mp hcounted
    exact encodes_compound htyped fun e he => ih e he (htypes e he) (hcounts e he)

/-- The frames of `encode_anonymous_nbt`. -/
def nbtFrames (t : Nbt.Tree String) : Nat := payloadFrames t + 1

theorem encodeAnonymousNbt_eq {t : Nbt.Tree String} {node : Json} (htyped : t.WellTyped utf8Text)
    (hcounted : t.Counted) (h : DenotesNode formats t node) (frames : Nat) :
    encodeAnonymousNbt formats frames node =
      if nbtFrames t ≤ frames then some (t.anonymous utf8Text) else none := by
  obtain ⟨val, htype, hvalue, hpayload⟩ := encodePayload_denotes (encodes htyped hcounted) h
  cases frames with
  | zero => rfl
  | succ frames =>
    rw [encodeAnonymousNbt, call_succ, nbtFrames]
    refine bind_eq htype (bind_eq (tagNamed_typeName t.tag) (bind_eq hvalue ?_))
    rw [hpayload]
    exact bind_ite rfl Nat.succ_le_succ_iff.symm

end payloads

end BuildRegistryNbt

end Statik
