import Statik.BuildTools.Varint
import Statik.Nbt.Codec

/-!
# The registry blobs

`build_registry_nbt.py`, on what `json.loads` makes of the registries.  `none` stands
for an exception: a missing key, a value of another type, a number `struct.pack`
refuses, or a recursion deeper than Python's limit leaves frames for.
-/

namespace Statik

open Wire

namespace BuildRegistryNbt

/-! ### Python's values -/

inductive Json where
  | null
  | bool (b : Bool)
  | int (n : Int)
  | float (bits : BitVec 64)
  | str (s : String)
  | list (items : List Json)
  | dict (items : List (String × Json))
  deriving Repr

namespace Json

/-- `val[key]`. -/
def getItem (val : Json) (key : String) : Option Json :=
  match val with
  | .dict items => items.lookup key
  | _ => none

/-- What stands for an integer. -/
def index : Json → Option Int
  | .bool b => some (if b then 1 else 0)
  | .int n => some n
  | _ => none

/-- What `len` counts and `for` goes through. -/
def elements : Json → Option (List Json)
  | .str s => some (s.toList.map fun c => .str (String.singleton c))
  | .list items => some items
  | .dict items => some (items.map fun e => .str e.1)
  | _ => none

end Json

/-- A call of a function of the script, or a generator that is run, with so many frames
left under the recursion limit, of which the body leaves one fewer to its own calls. -/
def call {α : Type} (frames : Nat) (body : Nat → Option α) : Option α :=
  match frames with
  | 0 => none
  | frames + 1 => body frames

/-- `struct.pack` with a signed format of `width` bytes. -/
def packSigned (width : Nat) (v : Int) : Option Bytes :=
  if -2 ^ (8 * width - 1) ≤ v ∧ v < 2 ^ (8 * width - 1) then
    some (beBytes width (BitVec.ofInt (8 * width) v).toNat)
  else none

def packUnsigned (width : Nat) (v : Int) : Option Bytes :=
  if 0 ≤ v ∧ v < 2 ^ (8 * width) then some (beBytes width v.toNat) else none

/-- `struct.pack` with the formats `>f` and `>d`: the bits of the number. -/
structure FloatFormats where
  float : Json → Option (BitVec 32)
  double : Json → Option (BitVec 64)

/-! ### The tags -/

def tagEnd : Byte := 0x00
def tagByte : Byte := 0x01
def tagShort : Byte := 0x02
def tagInt : Byte := 0x03
def tagLong : Byte := 0x04
def tagFloat : Byte := 0x05
def tagDouble : Byte := 0x06
def tagByteArray : Byte := 0x07
def tagString : Byte := 0x08
def tagList : Byte := 0x09
def tagCompound : Byte := 0x0a
def tagIntArray : Byte := 0x0b
def tagLongArray : Byte := 0x0c

def nameToTag : List (String × Byte) :=
  [("end", tagEnd), ("byte", tagByte), ("short", tagShort), ("int", tagInt), ("long", tagLong),
    ("float", tagFloat), ("double", tagDouble), ("byteArray", tagByteArray),
    ("string", tagString), ("list", tagList), ("compound", tagCompound),
    ("intArray", tagIntArray), ("longArray", tagLongArray)]

/-- `NAME_TO_TAG[name]`. -/
def tagNamed : Json → Option Byte
  | .str name => nameToTag.lookup name
  | _ => none

/-! ### The encoders -/

def encodeString (frames : Nat) (s : String) : Option Bytes :=
  call frames fun frames => do
    let raw := utf8 s
    let length ← call frames fun _ => some (encodeVarint raw.length)
    some (length ++ raw)

def encodeMcShortString (frames : Nat) (s : String) : Option Bytes :=
  call frames fun _ => do
    let raw := utf8 s
    let length ← packUnsigned 2 raw.length
    some (length ++ raw)

/-- An integer, or a `[hi, lo]` pair of them. -/
def encodeLong : Json → Option Bytes
  | .list [hi, lo] => do
    let hi ← packSigned 4 (← hi.index)
    let lo ← packUnsigned 4 (Int.land (← lo.index) 0xFFFFFFFF)
    some (hi ++ lo)
  | .list _ => none
  | val => do packSigned 8 (← val.index)

/-- The length in front of the encoded elements. -/
def encodeArray (encode : Json → Option Bytes) (val : Json) : Option Bytes := do
  let elements ← val.elements
  let length ← packSigned 4 elements.length
  let body ← elements.mapM encode
  some (length ++ body.flatten)

/-- `encode_payload`, as far as it encodes no further payloads.  The elements of two of the
arrays come out of a generator. -/
def encodeFlat (formats : FloatFormats) (frames : Nat) (tag : Byte) (val : Json) :
    Option Bytes :=
  if tag = tagByte then do
    let val ← val.index
    packSigned 1 (if 0 ≤ val then Int.land val 0xFF else val)
  else if tag = tagShort then do packSigned 2 (← val.index)
  else if tag = tagInt then do packSigned 4 (← val.index)
  else if tag = tagLong then encodeLong val
  else if tag = tagFloat then do
    let bits ← formats.float val
    some (beBytes 4 bits.toNat)
  else if tag = tagDouble then do
    let bits ← formats.double val
    some (beBytes 8 bits.toNat)
  else if tag = tagByteArray then
    call frames fun _ =>
      encodeArray (fun b => do some [BitVec.ofInt 8 (Int.land (← b.index) 0xFF)]) val
  else if tag = tagString then
    match val with
    | .str s => encodeMcShortString frames s
    | _ => none
  else if tag = tagIntArray then
    call frames fun _ => encodeArray (fun n => do packSigned 4 (← n.index)) val
  else if tag = tagLongArray then encodeArray encodeLong val
  else none

section encoding

variable (formats : FloatFormats)

mutual

def encodePayload : Nat → Byte → Json → Option Bytes
  | 0, _, _ => none
  | frames + 1, tag, val =>
    if tag = tagList then do
      let innerTag ← tagNamed (← val.getItem "type")
      let items ← val.getItem "value"
      if innerTag = tagEnd then do
        let tag ← packSigned 1 0
        let length ← packSigned 4 0
        some (tag ++ length)
      else do
        let items ← items.elements
        let length ← packSigned 4 items.length
        let out ← items.mapM fun it =>
          if innerTag = tagCompound then encodeCompoundBody frames it
          else if innerTag = tagList then encodePayload frames tagList it
          else encodePayload frames innerTag it
        some (innerTag :: (length ++ out.flatten))
    else if tag = tagCompound then encodeCompoundBody frames val
    else encodeFlat formats frames tag val

def encodeCompoundBody : Nat → Json → Option Bytes
  | 0, _ => none
  | frames + 1, .dict namedMap => do
    let out ← namedMap.mapM fun (name, child) => do
      let ctypeName ← child.getItem "type"
      let cval ← child.getItem "value"
      let ctag ← tagNamed ctypeName
      let name ← encodeMcShortString frames name
      let payload ← encodePayload frames ctag cval
      some (ctag :: (name ++ payload))
    some (out.flatten ++ [tagEnd])
  | _ + 1, _ => none

end

def encodeAnonymousNbt (frames : Nat) (node : Json) : Option Bytes :=
  call frames fun frames => do
    let tag ← tagNamed (← node.getItem "type")
    let payload ← encodePayload formats frames tag (← node.getItem "value")
    some (tag :: payload)

/-- A round of the loop of `build_registry_blob`. -/
def buildEntry (frames : Nat) (entry : Json) : Option Bytes := do
  let key ← entry.getItem "key"
  let val ← entry.getItem "value"
  match key with
  | .str key => do
    let key ← encodeString frames key
    let nbt ← encodeAnonymousNbt formats frames val
    some (key ++ 0x01 :: nbt)
  | _ => none

def buildRegistryBlob (frames : Nat) (entries : List Json) : Option Bytes :=
  call frames fun frames => do
    let count ← call frames fun _ => some (encodeVarint entries.length)
    let out ← entries.mapM (buildEntry formats frames)
    some (count ++ out.flatten)

end encoding

end BuildRegistryNbt

end Statik
