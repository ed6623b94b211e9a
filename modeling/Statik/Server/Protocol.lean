import Statik.Core.Text
import Statik.Proto.V1201.C2S
import Statik.Proto.V1201.S2C
import Statik.Proto.V1211.C2S
import Statik.Proto.V1211.S2C

/-!
# Protocol-version dispatch
-/

namespace Statik

open Wire

/-- The selected protocol version of a connection. -/
inductive ProtocolKind where
  | v1_20_1
  | v1_21_1
  deriving DecidableEq, Repr

namespace ProtocolKind

def protocolVersion : ProtocolKind → Nat
  | .v1_20_1 => 763
  | .v1_21_1 => 767

def minecraftVersion : ProtocolKind → String
  | .v1_20_1 => "1.20.1"
  | .v1_21_1 => "1.21.1"

/-- `from_str`. -/
def fromStr (s : String) : Except Error ProtocolKind :=
  let other := toAsciiLowercase (trim s)
  if other = "1.20.1" ∨ other = "763" then .ok .v1_20_1
  else if other = "1.21.1" ∨ other = "767" then .ok .v1_21_1
  else
    .error (.msg ("unsupported minecraft version \"" ++ other ++
      "\". Supported: 1.20.1 (763), 1.21.1 (767)."))

/-- A version is selected by its name or its number, with whitespace around it. -/
theorem fromStr_eq_ok {s : String} {protocol : ProtocolKind} :
    fromStr s = .ok protocol ↔
      trim s = protocol.minecraftVersion ∨ trim s = toString protocol.protocolVersion := by
  rw [fromStr]
  simp only [toAsciiLowercase_eq_iff (t := "1.20.1") (by decide),
    toAsciiLowercase_eq_iff (t := "763") (by decide),
    toAsciiLowercase_eq_iff (t := "1.21.1") (by decide),
    toAsciiLowercase_eq_iff (t := "767") (by decide)]
  have hnumbers : toString (763 : Nat) = "763" ∧ toString (767 : Nat) = "767" := by decide
  cases protocol with
  | v1_20_1 =>
    rw [minecraftVersion, protocolVersion, hnumbers.1]
    constructor
    · intro h
      by_contra hnot
      rw [if_neg hnot] at h
      split at h <;> cases h
    · intro h
      rw [if_pos h]
  | v1_21_1 =>
    rw [minecraftVersion, protocolVersion, hnumbers.2]
    constructor
    · intro h
      by_contra hnot
      rw [if_neg hnot] at h
      split at h <;> cases h
    · intro h
      have hother : ¬ (trim s = "1.20.1" ∨ trim s = "763") := by
        rcases h with h | h <;> rw [h] <;> decide
      rw [if_neg hother, if_pos h]

/-- `C2SPacket` of the version. -/
def c2s : ProtocolKind → PacketGroup
  | .v1_20_1 => V1_20_1.c2s
  | .v1_21_1 => V1_21_1.c2s

/-- `S2CPacket` of the version. -/
def s2c : ProtocolKind → PacketGroup
  | .v1_20_1 => V1_20_1.s2c
  | .v1_21_1 => V1_21_1.s2c

end ProtocolKind

/-- A packet decoded against the protocol version of the connection. -/
inductive DecodedC2S where
  | v1_20_1 (p : V1_20_1.C2SPacket)
  | v1_21_1 (p : V1_21_1.C2SPacket)

namespace DecodedC2S

def decode (serde : Serde) (protocol : ProtocolKind) (state : State) : Decoder Error DecodedC2S :=
  match protocol with
  | .v1_20_1 => .v1_20_1 <$> V1_20_1.c2s.decodeInState serde state
  | .v1_21_1 => .v1_21_1 <$> V1_21_1.c2s.decodeInState serde state

/-- `C2SPacket::encode` of the version. -/
def encode (serde : Serde) : DecodedC2S → Except Error Bytes
  | .v1_20_1 p => V1_20_1.c2s.encode serde p
  | .v1_21_1 p => V1_21_1.c2s.encode serde p

def protocol : DecodedC2S → ProtocolKind
  | .v1_20_1 _ => .v1_20_1
  | .v1_21_1 _ => .v1_21_1

/-- `Packet::STATE` of the wrapped packet. -/
def state : DecodedC2S → State
  | .v1_20_1 p => p.1.packet.state
  | .v1_21_1 p => p.1.packet.state

/-- A decoded packet is of the version and the state it was decoded for. -/
theorem decode_ok {serde : Serde} {protocol : ProtocolKind} {state : State} {b rest : Bytes}
    {p : DecodedC2S} (h : decode serde protocol state b = .ok (p, rest)) :
    p.protocol = protocol ∧ p.state = state := by
  cases protocol with
  | v1_20_1 =>
    obtain ⟨q, hq, rfl⟩ := Decoder.map_eq_ok.mp h
    exact ⟨rfl, PacketGroup.decodeInState_state hq⟩
  | v1_21_1 =>
    obtain ⟨q, hq, rfl⟩ := Decoder.map_eq_ok.mp h
    exact ⟨rfl, PacketGroup.decodeInState_state hq⟩

theorem decode_refuses (serde : Serde) (protocol : ProtocolKind) (state : State) :
    Refuses Plain (decode serde protocol state) := by
  cases protocol with
  | v1_20_1 => exact (PacketGroup.decodeInState_refuses serde state).map _
  | v1_21_1 => exact (PacketGroup.decodeInState_refuses serde state).map _

end DecodedC2S

/-- A packet the server writes, under its protocol version. -/
inductive S2CPacket where
  | v1_20_1 (p : V1_20_1.S2CPacket)
  | v1_21_1 (p : V1_21_1.S2CPacket)

namespace S2CPacket

def protocol : S2CPacket → ProtocolKind
  | .v1_20_1 _ => .v1_20_1
  | .v1_21_1 _ => .v1_21_1

/-- `Packet::STATE`. -/
def state : S2CPacket → State
  | .v1_20_1 p => p.1.packet.state
  | .v1_21_1 p => p.1.packet.state

/-- `packet.encode(..)`: the id and the fields. -/
def encode (serde : Serde) : S2CPacket → Except Error Bytes
  | .v1_20_1 p => V1_20_1.s2c.encode serde p
  | .v1_21_1 p => V1_21_1.s2c.encode serde p

/-- `S2CPacket::decode_in_state` of the version. -/
def decodeInState (serde : Serde) (protocol : ProtocolKind) (state : State) :
    Decoder Error S2CPacket :=
  match protocol with
  | .v1_20_1 => .v1_20_1 <$> V1_20_1.s2c.decodeInState serde state
  | .v1_21_1 => .v1_21_1 <$> V1_21_1.s2c.decodeInState serde state

theorem encode_fails (serde : Serde) (p : S2CPacket) : Fails Textual (p.encode serde) := by
  cases p with
  | v1_20_1 p => exact @PacketGroup.encode_fails V1_20_1.s2c serde p
  | v1_21_1 p => exact @PacketGroup.encode_fails V1_21_1.s2c serde p

end S2CPacket

/-- `intent_to_state`. -/
def intentToState : ClientIntent → Except Error State
  | .status => .ok .status
  | .login => .ok .login
  | .transfer => .error (.msg ("Transfer handshake intention is not supported by statik (only " ++
      "Status / Login)."))

end Statik
