import Statik.Derive.Canonical
import Statik.Server.Phases
import Statik.Server.RoundTrip

/-!
# Canonical forms of client packets

A client may spell a packet in several ways: a VarInt may be longer than it has to be.
Whatever spelling the server accepts, the packet it makes of it is one the codec carries
unchanged, in no more bytes.
-/

namespace Statik

open Wire

namespace ProtocolKind

/-- A client packet that was read in a state is within what the codec carries: written
again it takes no more bytes than were read, and it is read back from them. -/
theorem c2s_canonical (serde : Serde) (protocol : ProtocolKind) (state : State) (b rest : Bytes)
    (p : protocol.c2s.Packet) (h : protocol.c2s.decodeInState serde state b = .ok (p, rest)) :
    protocol.c2s.Fits serde p ∧ ∃ used bs, b = used ++ rest ∧
      protocol.c2s.encode serde p = .ok bs ∧ bs.length ≤ used.length ∧
      protocol.c2s.decodeInState serde state bs = .ok (p, []) :=
  PacketGroup.decodeInState_canonical (c2s_jsonFree protocol p.1) (c2s_tailDelimited protocol p.1) h

/-- A ping of 1.20.1 whose id takes three bytes, and a byte behind it. -/
theorem c2s_canonical_ping :
    V1_20_1.c2s.Fits .plain ⟨.ping, 7, ()⟩ ∧ ∃ used bs : Bytes,
      [0x81, 0x80, 0x00, 0, 0, 0, 0, 0, 0, 0, 7, 9] = used ++ [9] ∧
      V1_20_1.c2s.encode .plain ⟨.ping, 7, ()⟩ = .ok bs ∧ bs.length ≤ used.length ∧
      V1_20_1.c2s.decodeInState .plain .status bs = .ok (⟨.ping, 7, ()⟩, []) :=
  c2s_canonical .plain .v1_20_1 .status [0x81, 0x80, 0x00, 0, 0, 0, 0, 0, 0, 0, 7, 9] [9]
    ⟨V1_20_1.C2SVariant.ping, 7, ()⟩ (by rfl)

end ProtocolKind

namespace DecodedC2S

/-- The packet can be written within one frame, and is read back from what is written. -/
def WellFormed (serde : Serde) (packet : DecodedC2S) : Prop :=
  ∃ bs, packet.encode serde = .ok bs ∧ bs.length ≤ maxPacketSize ∧
    decode serde packet.protocol packet.state bs = .ok (packet, [])

theorem wellFormed_of_decode {serde : Serde} {protocol : ProtocolKind} {state : State}
    {b rest : Bytes} {packet : DecodedC2S} (hlen : b.length ≤ maxPacketSize)
    (h : decode serde protocol state b = .ok (packet, rest)) : packet.WellFormed serde := by
  have hshort : ∀ {used bs : Bytes}, b = used ++ rest → bs.length ≤ used.length →
      bs.length ≤ maxPacketSize := by
    intro used bs hb hle
    rw [hb, List.length_append] at hlen
    omega
  cases protocol with
  | v1_20_1 =>
    obtain ⟨p, hp, rfl⟩ := Decoder.map_eq_ok.mp h
    obtain ⟨-, used, bs, hb, hencode, hle, hread⟩ := PacketGroup.decodeInState_canonical
      (ProtocolKind.c2s_jsonFree .v1_20_1 p.1) (ProtocolKind.c2s_tailDelimited .v1_20_1 p.1) hp
    rw [← PacketGroup.decodeInState_state hp] at hread
    exact ⟨bs, hencode, hshort hb hle, ReadsAll.map _ hread⟩
  | v1_21_1 =>
    obtain ⟨p, hp, rfl⟩ := Decoder.map_eq_ok.mp h
    obtain ⟨-, used, bs, hb, hencode, hle, hread⟩ := PacketGroup.decodeInState_canonical
      (ProtocolKind.c2s_jsonFree .v1_21_1 p.1) (ProtocolKind.c2s_tailDelimited .v1_21_1 p.1) hp
    rw [← PacketGroup.decodeInState_state hp] at hread
    exact ⟨bs, hencode, hshort hb hle, ReadsAll.map _ hread⟩

end DecodedC2S

/-! ### Packets that reach the handlers -/

/-- A packet is decoded from the bytes of one frame. -/
theorem tryParsePacket_decodes {env : Env} {self : Connection} {packet : DecodedC2S}
    (h : (tryParsePacket env self).1 = .ok (some packet)) :
    ∃ data rest, data.length ≤ maxPacketSize ∧
      DecodedC2S.decode env.serde self.protocol self.state data = .ok (packet, rest) := by
  rcases tryParsePacket_cases env self with ⟨-, hp⟩ | ⟨e, he, hp⟩ | ⟨f, rest, -, hp⟩
  · rw [hp] at h
    cases h
  · rw [hp] at h
    cases h
  · rw [hp, parseFrame] at h
    cases hbody : bodyBytes env.flate2 self.compressionThreshold f.body with
    | error e =>
      rw [hbody] at h
      cases h
    | ok data =>
      cases data with
      | none =>
        rw [hbody] at h
        cases h
      | some data =>
        rw [hbody] at h
        simp only at h
        cases hdec : DecodedC2S.decode env.serde self.protocol self.state data with
        | ok r =>
          rw [hdec] at h
          cases h
          exact ⟨data, r.2, bodyBytes_length f.fits hbody, hdec⟩
        | error e =>
          rw [hdec] at h
          simp only at h
          split at h <;> cases h

/-- A dispatch records the packet it was given, and no other. -/
theorem received_of_dispatch {env : Env} {packet packet' : DecodedC2S} {w : World}
    (h : Action.received packet' ∈
      (settle .draining (dispatchPacket env packet w)).1.history) :
    Action.received packet' ∈ w.history ∨ packet' = packet := by
  rcases dispatchPacket_cases env packet w with ⟨effects, w', -, hok, ha⟩ |
    ⟨pre, q, post, e, w', -, herr, ha, -⟩ | ⟨e, w', -, herr, ha⟩
  · rw [hok, settle, ha.history] at h
    simpa using h
  · rw [herr, settle, ha.history] at h
    simpa using h
  · rw [herr, settle, ha.history] at h
    simpa using h

namespace Machine

variable {env : Env} {m : Machine}

/-- A packet gets into the history when a call of `try_parse_packet` has returned it. -/
theorem received_of_step {input : Input} {packet : DecodedC2S}
    (h : Action.received packet ∈ (m.step env input).history) :
    Action.received packet ∈ m.history ∨
      (tryParsePacket env m.conn).1 = .ok (some packet) := by
  unfold step at h
  split at h
  case h_1 =>
    obtain ⟨buffer, hconn⟩ := tryParsePacket_conn env m.conn
    rw [advance] at h
    cases hparse : tryParsePacket env m.conn with
    | mk r conn =>
      rw [hparse] at h hconn
      cases r with
      | error e => exact .inl h
      | ok r =>
        cases r with
        | none => exact .inl h
        | some q =>
          rcases received_of_dispatch h with hold | rfl
          · exact .inl hold
          · exact .inr rfl
  case h_2 result _ =>
    cases result with
    | error kind => exact .inl h
    | ok bytes =>
      cases bytes with
      | nil => exact .inl h
      | cons b bytes => exact .inl h
  case h_3 =>
    rw [tick] at h
    split at h
    · refine .inl ?_
      rcases perform_cases env (.send (keepAlive m.conn.protocol m.nextKeepaliveId)) m.world with
        ⟨w', hok, ha⟩ | ⟨q, e, w', -, herr, ha, -⟩
      · rw [show writePacket env _ m.world = _ from hok] at h
        change _ ∈ w'.history at h
        rw [ha.history] at h
        simpa using h
      · rw [show writePacket env _ m.world = _ from herr] at h
        change _ ∈ w'.history at h
        rw [ha.history] at h
        simpa using h
    · exact .inl h
  case h_4 => exact .inl h

end Machine

namespace Setup

/-- Every packet that reaches a handler in a run can be written within one frame, and
is read back from what is written. -/
theorem run_wellFormed (S : Setup) (fault : Nat → Option Fault) (inputs : List Input)
    (packet : DecodedC2S) (h : Action.received packet ∈ (S.run fault inputs).history) :
    packet.WellFormed S.env.serde := by
  induction inputs using List.reverseRecOn with
  | nil => exact absurd h List.not_mem_nil
  | append_singleton inputs input ih =>
    rw [run_snoc] at h
    rcases Machine.received_of_step h with hold | hparse
    · exact ih hold
    · obtain ⟨data, rest, hlen, hdec⟩ := tryParsePacket_decodes hparse
      exact DecodedC2S.wellFormed_of_decode hlen hdec

theorem statusPing_wellFormed : (DecodedC2S.v1_20_1 ⟨.ping, 7, ()⟩).WellFormed .plain := by
  have hhistory : (bareRun .v1_20_1 false statusPing).history =
      (bareRun .v1_20_1 false statusPing).history.take 2 ++
        .received (.v1_20_1 ⟨.ping, 7, ()⟩) ::
          (bareRun .v1_20_1 false statusPing).history.drop 3 := rfl
  refine run_wellFormed (Setup.bare .v1_20_1 false) (fun _ => none) statusPing _ ?_
  rw [hhistory]
  exact List.mem_append_right _ List.mem_cons_self

end Setup

end Statik
