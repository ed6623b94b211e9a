import Statik.Derive.Reserving
import Statik.Server.Protocol

/-!
# What a client makes the server reserve

The packets of a client, of both versions, decoded with every `Vec::with_capacity` as an
output.  A `Vec` never makes the server reserve more than one packet's worth of memory,
whatever length it declares; a `String` does.
-/

namespace Statik

open Wire Reserving

namespace DecodedC2S

def decodeReserving (size : Layout → Nat) (serde : Serde) (protocol : ProtocolKind)
    (state : State) : Reserving Error DecodedC2S :=
  match protocol with
  | .v1_20_1 => .v1_20_1 <$> V1_20_1.c2s.decodeInStateReserving size serde state
  | .v1_21_1 => .v1_21_1 <$> V1_21_1.c2s.decodeInStateReserving size serde state

theorem decodes_decode (size : Layout → Nat) (serde : Serde) (protocol : ProtocolKind)
    (state : State) :
    Decodes (decodeReserving size serde protocol state) (decode serde protocol state) := by
  cases protocol with
  | v1_20_1 => exact (PacketGroup.decodes_decodeInState size serde state).map _
  | v1_21_1 => exact (PacketGroup.decodes_decodeInState size serde state).map _

/-- The body of a frame, its id in front. -/
theorem within_decode (size : Layout → Nat) (serde : Serde) (protocol : ProtocolKind)
    (state : State) (b : Bytes) :
    Within maxPacketSize (decodeReserving size serde protocol state) b ↔
      ∀ id rest, VarInt.decode b = .ok (id, rest) →
        ∀ v, protocol.c2s.variants.find? (protocol.c2s.Matches state id.val) = some v →
          ¬ (protocol.c2s.packet v).layout.MeetsLongString serde rest := by
  cases protocol with
  | v1_20_1 =>
    refine (within_map (PacketGroup.decodes_decodeInState size serde state)).trans ?_
    exact PacketGroup.within_decodeInState size serde state b
  | v1_21_1 =>
    refine (within_map (PacketGroup.decodes_decodeInState size serde state)).trans ?_
    exact PacketGroup.within_decodeInState size serde state b

end DecodedC2S

namespace ProtocolKind

/-- Whatever the sizes of the types, each reservation made for a packet of a client is
within a packet's worth of memory as long as its bytes come to no long `String`. -/
theorem c2s_within_iff (size : Layout → Nat) (serde : Serde) (protocol : ProtocolKind)
    (v : protocol.c2s.Variant) (b : Bytes) :
    Within maxPacketSize ((protocol.c2s.packet v).decodeReserving size serde) b ↔
      ¬ (protocol.c2s.packet v).layout.MeetsLongString serde b :=
  Layout.within_decode size serde (protocol.c2s.packet v).layout b

/-- A handshake of seven bytes whose address declares `i32::MAX` bytes. -/
theorem handshake_not_within :
    ¬ ∀ (size : Layout → Nat) (serde : Serde),
      Within maxPacketSize (V1_20_1.c2sHandshake.decodeReserving size serde)
        [0xfb, 0x05, 0xff, 0xff, 0xff, 0xff, 0x07] := by
  intro h
  have hrequest : ({ capacity := i32Max, size := 1 } : Reservation).bytes ≤ maxPacketSize := by
    refine h (fun _ => 1) Serde.plain { capacity := i32Max, size := 1 } ?_
    decide +kernel
  exact absurd hrequest (by decide)

end ProtocolKind

end Statik
