import Statik.Core.Checked
import Statik.Derive.PacketGroup

/-!
# The derived codecs, checked

The readers and writers of the layouts once more, made of the checked ones of their
parts.
-/

namespace Statik

open Wire

namespace Layout

/-- No less than a value of the type takes in memory, its padding included. -/
def footprint : Layout → Nat
  | .bool => 1
  | .int width => width
  | .varInt => 4
  | .string => 32
  | .blockPos => 16
  | .clientIntent => 8
  | .chat => 4096
  | .statusResponse => 4096
  | .byteArray n => n
  | .rawBytes => 32
  | .option t => t.footprint + 16
  | .vec _ => 32
  | .unit => 0
  | .field _ _ t rest => t.footprint + rest.footprint + 16

/-- The items of the vectors take no more than a GiB each. -/
def vecsBounded : Layout → Bool
  | .option t => t.vecsBounded
  | .vec t => decide (t.footprint ≤ 2 ^ 30) && t.vecsBounded
  | .field _ _ t rest => t.vecsBounded && rest.vecsBounded
  | _ => true

/-- `derive(Decode)`, for types of the sizes `size`. -/
def decodeChecked (size : Layout → Nat) (serde : Serde) : (t : Layout) → CheckedDecoder Error t.Val
  | .bool => decodeBoolChecked
  | .int width => .of (decodeInt width)
  | .varInt => VarInt.decodeChecked
  | .string => decodeStringChecked
  | .blockPos => decodeBlockPosChecked
  | .clientIntent => decodeClientIntentChecked
  | .chat => decodeJsonChecked serde.chatFromStr
  | .statusResponse => decodeJsonChecked serde.statusFromStr
  | .byteArray n => .of (decodeByteArray n)
  | .rawBytes => decodeRawBytesChecked
  | .option t => decodeOptionChecked (decodeChecked size serde t)
  | .vec t => decodeVecChecked (size t) (decodeChecked size serde t)
  | .unit => pure ()
  | .field ident name t rest => do
    let v ← contextChecked (decodeFieldContext ident name) (decodeChecked size serde t)
    let vs ← decodeChecked size serde rest
    pure (v, vs)

/-- `derive(Encode)`. -/
def write (serde : Serde) : (t : Layout) → t.Val → Writer Error
  | .bool, b => .write (encodeBool b)
  | .int width, v => .write (encodeInt width v)
  | .varInt, v => v.write
  | .string, s => writeString s
  | .blockPos, p => writeBlockPos p
  | .clientIntent, i => i.toVarInt.write
  | .chat, c => writeString (serde.chatToString c)
  | .statusResponse, r => writeString (serde.statusToString r)
  | .byteArray _, a => .write a.val
  | .rawBytes, b => .write b
  | .option t, o => writeOption (write serde t) o
  | .vec t, xs => writeVec (write serde t) xs
  | .unit, _ => .write []
  | .field ident name t rest, (v, vs) =>
    (contextWriter (encodeContext ident name) (write serde t v)).andThen (write serde rest vs)

/-- Vectors of at most `items` items, and raw bytes of at most `blob` bytes. -/
def Within (items blob : Nat) : (t : Layout) → t.Val → Prop
  | .rawBytes, (b : Bytes) => b.length ≤ blob
  | .option t, o => ∀ a, o = some a → Within items blob t a
  | .vec t, (xs : List t.Val) => xs.length ≤ items ∧ ∀ x ∈ xs, Within items blob t x
  | .field _ _ t rest, (v, vs) => Within items blob t v ∧ Within items blob rest vs
  | _, _ => True

/-- The most bytes that are written for such a value. -/
def ceiling (items blob : Nat) : Layout → Nat
  | .bool => 1
  | .int width => width
  | .varInt => 5
  | .string => stringCeiling
  | .blockPos => 8
  | .clientIntent => 5
  | .chat => stringCeiling
  | .statusResponse => stringCeiling
  | .byteArray n => n
  | .rawBytes => blob
  | .option t => 1 + t.ceiling items blob
  | .vec t => 5 + items * t.ceiling items blob
  | .unit => 0
  | .field _ _ t rest => t.ceiling items blob + rest.ceiling items blob

/-- No part of the layout is a vector or raw bytes. -/
def fixed : Layout → Bool
  | .rawBytes => false
  | .option t => t.fixed
  | .vec _ => false
  | .field _ _ t rest => t.fixed && rest.fixed
  | _ => true

theorem within_of_fixed {t : Layout} (h : t.fixed = true) (items blob : Nat) (v : t.Val) :
    Within items blob t v := by
  induction t with
  | rawBytes => exact absurd h Bool.false_ne_true
  | vec t => exact absurd h Bool.false_ne_true
  | option t ih => exact fun a _ => ih h a
  | field ident name t rest iht ihrest =>
    obtain ⟨v, vs⟩ := v
    rw [fixed, Bool.and_eq_true] at h
    exact ⟨iht h.1 v, ihrest h.2 vs⟩
  | _ => trivial

/-- Reading stays within range, whatever the input. -/
theorem safe_decode {size : Layout → Nat} (hsize : ∀ t, size t ≤ t.footprint) {limit : Nat}
    (hlimit : 2 * limit + 8 ≤ isizeMax) (serde : Serde) (t : Layout) (h : t.vecsBounded = true) :
    Safe limit (decodeChecked size serde t) (decode serde t) := by
  induction t with
  | bool => exact safe_decodeBool
  | int width => exact Safe.of (decodeInt_delimits width)
  | varInt => exact VarInt.safe_decode limit
  | string => exact safe_decodeString
  | blockPos => exact safe_decodeBlockPos
  | clientIntent => exact safe_decodeClientIntent
  | chat => exact safe_decodeJson serde.chatFromStr
  | statusResponse => exact safe_decodeJson serde.statusFromStr
  | byteArray n => exact Safe.of (decodeByteArray_delimits n)
  | rawBytes => exact safe_decodeRawBytes hlimit
  | option t ih => exact safe_decodeOption (ih h)
  | vec t ih =>
    rw [vecsBounded, Bool.and_eq_true, decide_eq_true_eq] at h
    exact safe_decodeVec (Nat.le_trans (hsize t) h.1) (ih h.2)
  | unit => exact Safe.pure ()
  | field ident name t rest iht ihrest =>
    rw [vecsBounded, Bool.and_eq_true] at h
    exact (safe_context _ (iht h.1)).bind fun v =>
      (ihrest h.2).bind fun vs => Safe.pure (v, vs)

/-- Writing stays within range, where there is room for the ceiling of the value. -/
theorem write_writes (serde : Serde) {items blob : Nat} {t : Layout} {v : t.Val}
    (h : Within items blob t v) :
    Writes (write serde t v) (t.ceiling items blob) (encode serde t v) := by
  induction t with
  | bool => exact Writes.write _
  | int width =>
    have hlength : (encodeInt width v).length = width := beBytes_length width _
    exact (Writes.write _).mono (Nat.le_of_eq hlength)
  | varInt => exact VarInt.write_writes v
  | string => exact writeString_writes v
  | blockPos => exact writeBlockPos_writes v
  | clientIntent => exact VarInt.write_writes _
  | chat => exact writeString_writes _
  | statusResponse => exact writeString_writes _
  | byteArray n => exact (Writes.write v.val).mono (Nat.le_of_eq v.property)
  | rawBytes => exact (Writes.write _).mono h
  | option t ih => exact writeOption_writes fun a ha => ih (h a ha)
  | vec t ih =>
    have hwrite := writeVec_writes fun x hx => ih (h.2 x hx)
    exact hwrite.mono (Nat.add_le_add_left (Nat.mul_le_mul_right _ h.1) 5)
  | unit => exact Writes.write []
  | field ident name t rest iht ihrest =>
    obtain ⟨v, vs⟩ := v
    have hwrite := (contextWriter_writes (encodeContext ident name) (iht h.1)).andThen
      (ihrest h.2)
    rw [encode]
    cases hv : withContext (encodeContext ident name) (encode serde t v) with
    | error e => rwa [hv] at hwrite
    | ok b =>
      rw [hv] at hwrite
      cases hvs : encode serde rest vs with
      | error e => rwa [hvs] at hwrite
      | ok bs => rwa [hvs] at hwrite

end Layout

/-! ### Packets -/

def PacketStruct.write (serde : Serde) (P : PacketStruct) (v : P.Val) : Writer Error :=
  (VarInt.mk P.id).write.andThen (P.layout.write serde v)

def PacketStruct.decodeChecked (size : Layout → Nat) (serde : Serde) (P : PacketStruct) :
    CheckedDecoder Error P.Val := P.layout.decodeChecked size serde

namespace PacketGroup

variable (G : PacketGroup)

/-- The body of one arm of the generated chain. -/
def decodeVariantChecked (size : Layout → Nat) (serde : Serde) (v : G.Variant) :
    CheckedDecoder Error G.Packet :=
  Sigma.mk v <$> (G.packet v).decodeChecked size serde

/-- `decode_in_state`. -/
def decodeInStateChecked (size : Layout → Nat) (serde : Serde) (state : State) :
    CheckedDecoder Error G.Packet := do
  let id ← VarInt.decodeChecked
  match G.variants.find? (G.Matches state id.val) with
  | some v => G.decodeVariantChecked size serde v
  | none =>
    let n := id.val.toInt
    let name := state.debug
    throw (.msg s!"No packet with id {n} in state {name}")

def write (serde : Serde) (p : G.Packet) : Writer Error := (G.packet p.1).write serde p.2

variable {G}

theorem safe_decodeInState {size : Layout → Nat} (hsize : ∀ t, size t ≤ t.footprint)
    {limit : Nat} (hlimit : 2 * limit + 8 ≤ isizeMax)
    (hbounded : ∀ v, (G.packet v).layout.vecsBounded = true) (serde : Serde) (state : State) :
    Safe limit (G.decodeInStateChecked size serde state) (G.decodeInState serde state) := by
  refine (VarInt.safe_decode limit).bind fun id => ?_
  cases G.variants.find? (G.Matches state id.val) with
  | none => exact Safe.throw _
  | some v => exact (Layout.safe_decode hsize hlimit serde _ (hbounded v)).map (Sigma.mk v)

theorem write_writes (serde : Serde) {items blob : Nat} {p : G.Packet}
    (h : (G.packet p.1).layout.Within items blob p.2) :
    Writes (G.write serde p) (5 + (G.packet p.1).layout.ceiling items blob)
      (G.encode serde p) := by
  have hwrite := (VarInt.write_writes ⟨(G.packet p.1).id⟩).andThen (Layout.write_writes serde h)
  rw [encode, PacketStruct.encode]
  cases hfields : (G.packet p.1).layout.encode serde p.2 with
  | error e => rwa [hfields] at hwrite
  | ok bs => rwa [hfields] at hwrite

end PacketGroup

end Statik
