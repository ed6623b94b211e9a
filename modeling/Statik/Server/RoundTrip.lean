import Statik.Server.Protocol

/-!
# Round trips of the packet groups

Which packets of the two versions are read back from the bytes they are written
to, and in which states they are read at all.
-/

namespace Statik

open Wire

/-! ### Client-to-server packets -/

namespace ProtocolKind

theorem c2s_tailDelimited (protocol : ProtocolKind) (v : protocol.c2s.Variant) :
    (protocol.c2s.packet v).layout.tailDelimited = true := by
  cases protocol <;> cases v <;> decide

/-- Every client packet is read back in its own state, to the last byte and,
where it holds no raw bytes, whatever follows it.  In no other state is it read
from any bytes. -/
theorem c2s_roundTrip (serde : Serde) (protocol : ProtocolKind) (v : protocol.c2s.Variant) :
    (∀ p : (protocol.c2s.packet v).Val, protocol.c2s.Fits serde ⟨v, p⟩ →
      ∃ bs, protocol.c2s.encode serde ⟨v, p⟩ = .ok bs ∧
        protocol.c2s.decodeInState serde (protocol.c2s.packet v).state bs = .ok (⟨v, p⟩, []) ∧
        ((protocol.c2s.packet v).layout.selfDelimiting = true → ∀ s,
          protocol.c2s.decodeInState serde (protocol.c2s.packet v).state (bs ++ s) =
            .ok (⟨v, p⟩, s))) ∧
    ∀ state b q rest, state ≠ (protocol.c2s.packet v).state →
      protocol.c2s.decodeInState serde state b = .ok (q, rest) → q.1 ≠ v := by
  constructor
  · intro p hfit
    obtain ⟨bs, hbs, hall⟩ :=
      PacketGroup.decodeInState_readsAll (p := ⟨v, p⟩) (c2s_tailDelimited protocol v) hfit
    refine ⟨bs, hbs, hall, fun hsd s => ?_⟩
    obtain ⟨bs', hbs', hreads⟩ := PacketGroup.decodeInState_reads (p := ⟨v, p⟩) hsd hfit
    obtain rfl : bs = bs' := Except.ok.inj (hbs.symm.trans hbs')
    exact hreads s
  · rintro state b ⟨w, q⟩ rest hne hdec rfl
    exact hne (PacketGroup.decodeInState_state hdec).symm

theorem c2s_roundTrip_handshake :
    ∃ bs, V1_20_1.c2s.encode .plain ⟨.handshake, ⟨763⟩, "localhost", 25565, .login, ()⟩ = .ok bs ∧
      V1_20_1.c2s.decodeInState .plain .handshake bs =
        .ok (⟨.handshake, ⟨763⟩, "localhost", 25565, .login, ()⟩, []) ∧
      (V1_20_1.c2sHandshake.layout.selfDelimiting = true → ∀ s,
        V1_20_1.c2s.decodeInState .plain .handshake (bs ++ s) =
          .ok (⟨.handshake, ⟨763⟩, "localhost", 25565, .login, ()⟩, s)) :=
  (c2s_roundTrip .plain .v1_20_1 V1_20_1.C2SVariant.handshake).1
    (⟨763⟩, "localhost", 25565, .login, ())
      ⟨trivial, (by decide : (utf8 "localhost").length ≤ i32Max), trivial, trivial, trivial⟩

theorem c2s_jsonFree (protocol : ProtocolKind) (v : protocol.c2s.Variant) :
    (protocol.c2s.packet v).layout.jsonFree = true := by
  cases protocol <;> cases v <;> decide

/-- No packet is read off the bytes of a client packet without raw bytes once they
are cut short. -/
theorem c2s_truncated (serde : Serde) (protocol : ProtocolKind) (p : protocol.c2s.Packet)
    (hsd : (protocol.c2s.packet p.1).layout.selfDelimiting = true) {bs b : Bytes}
    (h : protocol.c2s.encode serde p = .ok bs) (hcut : b <+: bs) (hne : b ≠ bs) :
    ∃ e, protocol.c2s.decodeInState serde (protocol.c2s.packet p.1).state b = .error e := by
  obtain ⟨more, rfl⟩ := hcut
  have hmore : more ≠ [] := by
    rintro rfl
    exact hne (List.append_nil b).symm
  exact PacketGroup.decodeInState_cut hsd (c2s_jsonFree protocol p.1) h hmore

/-- A configuration keepalive of 1.21.1 that lost the last byte of its id. -/
theorem c2s_truncated_keepAlive :
    ∃ e, V1_21_1.c2s.decodeInState .plain .configuration [4, 0, 0, 0, 0, 0, 0, 0] = .error e :=
  have hencode : V1_21_1.c2s.encode .plain ⟨.configurationKeepAlive, 7, ()⟩ =
      .ok [4, 0, 0, 0, 0, 0, 0, 0, 7] := by decide
  c2s_truncated .plain .v1_21_1 ⟨V1_21_1.C2SVariant.configurationKeepAlive, 7, ()⟩ (by decide)
    hencode (by decide) (by decide)

/-! ### Server-to-client packets -/

/-- `S2CLogin` of 1.20.1, whose registry blob is followed by twelve more fields. -/
def IsLoginV1_20_1 : (protocol : ProtocolKind) → protocol.s2c.Variant → Prop
  | .v1_20_1, v => v = V1_20_1.S2CVariant.login
  | .v1_21_1, _ => False

theorem s2c_tailDelimited {protocol : ProtocolKind} {v : protocol.s2c.Variant}
    (h : ¬ IsLoginV1_20_1 protocol v) :
    (protocol.s2c.packet v).layout.tailDelimited = true := by
  cases protocol with
  | v1_20_1 =>
    cases v with
    | login => exact absurd rfl h
    | _ => decide
  | v1_21_1 => cases v <;> decide

theorem s2c_starved {protocol : ProtocolKind} {v : protocol.s2c.Variant}
    (h : IsLoginV1_20_1 protocol v) : (protocol.s2c.packet v).layout.starved = true := by
  cases protocol with
  | v1_20_1 =>
    cases h
    decide
  | v1_21_1 => exact h.elim

/-- `S2CPacket::decode_in_state` reads the packet back from its own bytes. -/
def ReadBack (serde : Serde) (protocol : ProtocolKind) (p : protocol.s2c.Packet) : Prop :=
  ∃ bs, protocol.s2c.encode serde p = .ok bs ∧
    protocol.s2c.decodeInState serde (protocol.s2c.packet p.1).state bs = .ok (p, [])

/-- Every server packet is read back, `S2CLogin` of 1.20.1 apart, which never
is: its raw bytes take the fields behind them. -/
theorem s2c_readBack_iff (serde : Serde) (protocol : ProtocolKind) (p : protocol.s2c.Packet)
    (hfit : protocol.s2c.Fits serde p) :
    ReadBack serde protocol p ↔ ¬ IsLoginV1_20_1 protocol p.1 := by
  constructor
  · rintro ⟨bs, -, hdec⟩ hlogin
    exact PacketGroup.decodeInState_starved (s2c_starved hlogin) hdec
  · exact fun h => PacketGroup.decodeInState_readsAll (s2c_tailDelimited h) hfit

/-- A login packet with a registry blob of two bytes. -/
def sampleLogin : V1_20_1.s2cLogin.Val :=
  (0, false, ⟨1⟩, ⟨1⟩, ["minecraft:the_void"], [0x0a, 0x00], "minecraft:overworld",
    "minecraft:the_void", 0, ⟨20⟩, ⟨8⟩, ⟨8⟩, true, false, false, false, none, ⟨0⟩, ())

theorem s2c_login_not_readBack :
    V1_20_1.s2c.Fits .plain ⟨.login, sampleLogin⟩ ∧
      ¬ ReadBack .plain .v1_20_1 ⟨V1_20_1.S2CVariant.login, sampleLogin⟩ := by
  constructor
  · have hworld : (utf8 "minecraft:the_void").length ≤ i32Max := by decide
    have hoverworld : (utf8 "minecraft:overworld").length ≤ i32Max := by decide
    have hlevels : ∀ x ∈ ["minecraft:the_void"], (utf8 x).length ≤ i32Max := by
      intro x hx
      rw [List.mem_singleton.mp hx]
      exact hworld
    exact ⟨trivial, trivial, trivial, trivial, ⟨by decide, hlevels⟩, trivial, hoverworld, hworld,
      trivial, trivial, trivial, trivial, trivial, trivial, trivial, trivial,
      (fun _ h => nomatch h), trivial, trivial⟩
  · rintro ⟨bs, -, hdec⟩
    exact PacketGroup.decodeInState_starved (by decide) hdec

theorem s2c_readBack_keepAlive :
    ReadBack .plain .v1_21_1 ⟨V1_21_1.S2CVariant.keepAlive, 7, ()⟩ :=
  (s2c_readBack_iff .plain .v1_21_1 ⟨V1_21_1.S2CVariant.keepAlive, 7, ()⟩
    ⟨trivial, trivial⟩).mpr id

end ProtocolKind

end Statik
