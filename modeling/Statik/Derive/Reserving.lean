import Statik.Core.Reserving
import Statik.Derive.PacketGroup

/-!
# The derived decoders, with what they reserve
-/

namespace Statik

open Wire Reserving

namespace Layout

/-- `derive(Decode)`, for types of the sizes `size`. -/
def decodeReserving (size : Layout → Nat) (serde : Serde) : (t : Layout) → Reserving Error t.Val
  | .bool => .of decodeBool
  | .int width => .of (decodeInt width)
  | .varInt => .of VarInt.decode
  | .string => decodeStringReserving
  | .blockPos => .of decodeBlockPos
  | .clientIntent => .of decodeClientIntent
  | .chat => decodeJsonReserving serde.chatFromStr
  | .statusResponse => decodeJsonReserving serde.statusFromStr
  | .byteArray n => .of (decodeByteArray n)
  | .rawBytes => .of decodeRawBytes
  | .option t => decodeOptionReserving (decodeReserving size serde t)
  | .vec t => decodeVecReserving (size t) (decodeReserving size serde t)
  | .unit => pure ()
  | .field ident name t rest => do
    let v ← contextReserving (decodeFieldContext ident name) (decodeReserving size serde t)
    let vs ← decodeReserving size serde rest
    pure (v, vs)

/-- Reading the layout off the bytes comes to a `String` whose length is more than a
packet has. -/
def MeetsLongString (serde : Serde) : Layout → Bytes → Prop
  | .string, b => LongString b
  | .chat, b => LongString b
  | .statusResponse, b => LongString b
  | .option t, b => ∃ rest, decodeBool b = .ok (true, rest) ∧ MeetsLongString serde t rest
  | .vec t, b =>
    ∃ length rest, VarInt.decode b = .ok (length, rest) ∧ ∃ i < length.val.toInt.toNat,
      ∃ items rest', many (decode serde t) i rest = .ok (items, rest') ∧
        MeetsLongString serde t rest'
  | .field _ _ t fields, b =>
    MeetsLongString serde t b ∨
      ∃ v rest, decode serde t b = .ok (v, rest) ∧ MeetsLongString serde fields rest
  | _, _ => False

theorem decodes_decode (size : Layout → Nat) (serde : Serde) (t : Layout) :
    Decodes (decodeReserving size serde t) (decode serde t) := by
  induction t with
  | string => exact decodes_decodeString
  | chat => exact decodes_decodeJson serde.chatFromStr
  | statusResponse => exact decodes_decodeJson serde.statusFromStr
  | option t ih => exact decodes_decodeOption ih
  | vec t ih => exact decodes_decodeVec (size t) ih
  | unit => exact Decodes.pure ()
  | field ident name t rest iht ihrest =>
    exact (decodes_context _ iht).bind fun v => ihrest.bind fun vs => Decodes.pure (v, vs)
  | _ => exact Decodes.of _

/-- Only a `String` reserves more than a packet has. -/
theorem within_decode (size : Layout → Nat) (serde : Serde) (t : Layout) (b : Bytes) :
    Reserving.Within maxPacketSize (decodeReserving size serde t) b ↔
      ¬ MeetsLongString serde t b := by
  induction t generalizing b with
  | string => exact within_decodeString b
  | chat => exact within_decodeJson serde.chatFromStr b
  | statusResponse => exact within_decodeJson serde.statusFromStr b
  | option t ih =>
    refine (within_decodeOption (decodes_decode size serde t) b).trans ?_
    simp only [ih, MeetsLongString, not_exists, not_and]
  | vec t ih =>
    refine (within_decodeVec (decodes_decode size serde t) (size t) b).trans ?_
    simp only [ih, MeetsLongString, not_exists, not_and]
  | unit => exact iff_of_true (within_of _ b) id
  | field ident name t rest iht ihrest =>
    have hfields : ∀ (v : t.Val) (rest' : Bytes),
        Reserving.Within maxPacketSize (do
          let vs ← decodeReserving size serde rest
          pure (v, vs)) rest' ↔ ¬ MeetsLongString serde rest rest' := by
      intro v rest'
      rw [within_bind (decodes_decode size serde rest), ← ihrest]
      exact and_iff_left fun vs _ _ => within_of _ _
    refine (within_bind (decodes_context _ (decodes_decode size serde t))).trans ?_
    simp only [within_context, iht, decodeContext_eq_ok, MeetsLongString, not_or, not_exists,
      not_and]
    exact and_congr_right fun _ => forall_congr' fun v => forall_congr' fun rest' =>
      imp_congr_right fun _ => hfields v rest'
  | _ => exact iff_of_true (within_of _ b) id

end Layout

namespace PacketStruct

def decodeReserving (size : Layout → Nat) (serde : Serde) (P : PacketStruct) :
    Reserving Error P.Val := P.layout.decodeReserving size serde

end PacketStruct

namespace PacketGroup

variable (G : PacketGroup)

/-- `decode_in_state`. -/
def decodeInStateReserving (size : Layout → Nat) (serde : Serde) (state : State) :
    Reserving Error G.Packet := do
  let id ← .of VarInt.decode
  match G.variants.find? (G.Matches state id.val) with
  | some v => Sigma.mk v <$> (G.packet v).decodeReserving size serde
  | none =>
    let n := id.val.toInt
    let name := state.debug
    .of (throw (.msg s!"No packet with id {n} in state {name}"))

variable {G}

theorem decodes_decodeInState (size : Layout → Nat) (serde : Serde) (state : State) :
    Decodes (G.decodeInStateReserving size serde state) (G.decodeInState serde state) := by
  refine (Decodes.of _).bind fun id => ?_
  cases G.variants.find? (G.Matches state id.val) with
  | some v => exact (Layout.decodes_decode size serde (G.packet v).layout).map (Sigma.mk v)
  | none => exact Decodes.of _

/-- The id decides which fields are read. -/
theorem within_decodeInState (size : Layout → Nat) (serde : Serde) (state : State) (b : Bytes) :
    Within maxPacketSize (G.decodeInStateReserving size serde state) b ↔
      ∀ id rest, VarInt.decode b = .ok (id, rest) →
        ∀ v, G.variants.find? (G.Matches state id.val) = some v →
          ¬ (G.packet v).layout.MeetsLongString serde rest := by
  refine (within_bind (Decodes.of _)).trans ((and_iff_right (within_of _ b)).trans ?_)
  refine forall_congr' fun id => forall_congr' fun rest => imp_congr_right fun _ => ?_
  cases G.variants.find? (G.Matches state id.val) with
  | some v =>
    have hfields := Layout.within_decode size serde (G.packet v).layout rest
    refine ((within_map (Layout.decodes_decode size serde (G.packet v).layout)).trans hfields).trans
      ⟨fun h w hw => ?_, fun h => h v rfl⟩
    cases hw
    exact h
  | none => exact iff_of_true (within_of _ rest) fun w hw => absurd hw (Option.some_ne_none w).symm

end PacketGroup

end Statik
