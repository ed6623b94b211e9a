import Statik.Server.Boundaries

/-!
# A receiver for what the server writes

The peer of a connection: it applies the framing rules of `try_parse_packet` to
the server's bytes, and follows the compression the server announces.
-/

namespace Statik

open Wire

/-! ### Reading `SetCompression` -/

/-- The threshold a packet announces. -/
def S2CPacket.announces : S2CPacket → Option (BitVec 32)
  | .v1_20_1 ⟨.setCompression, threshold, _⟩ => some threshold.val
  | .v1_21_1 ⟨.setCompression, threshold, _⟩ => some threshold.val
  | _ => none

/-- The threshold a body announces when it reads as `S2CSetCompression`. -/
def announced (serde : Serde) (protocol : ProtocolKind) (body : Bytes) : Option (BitVec 32) :=
  match protocol with
  | .v1_20_1 =>
    (V1_20_1.s2c.decodeInState serde .login body).toOption.bind fun r =>
      S2CPacket.announces (.v1_20_1 r.1)
  | .v1_21_1 =>
    (V1_21_1.s2c.decodeInState serde .login body).toOption.bind fun r =>
      S2CPacket.announces (.v1_21_1 r.1)

namespace PacketGroup

variable {G : PacketGroup} {serde : Serde}

/-- The bytes of a packet are read as a packet with the same id, from the same
fields. -/
theorem decodeInState_encode {v w : G.Variant} {x : (G.packet v).Val} {y : (G.packet w).Val}
    {body rest : Bytes} {state : State} (h : G.encode serde ⟨v, x⟩ = .ok body)
    (hread : G.decodeInState serde state body = .ok (⟨w, y⟩, rest)) :
    (G.packet w).id = (G.packet v).id ∧ ∃ fields,
      (G.packet v).layout.encode serde x = .ok fields ∧
      (G.packet w).layout.decode serde fields = .ok (y, rest) := by
  obtain ⟨fields, rfl, hfields⟩ := encode_eq_ok h
  obtain ⟨id, fields', hid, -, hsame, hdecode⟩ := decodeInState_eq_ok hread
  rw [VarInt.decode_encode] at hid
  cases hid
  exact ⟨hsame.symm, fields, hfields, hdecode⟩

/-- In the state of the packet it is read as the same variant. -/
theorem decodeInState_variant {v w : G.Variant} {x : (G.packet v).Val} {y : (G.packet w).Val}
    {body rest : Bytes} (h : G.encode serde ⟨v, x⟩ = .ok body)
    (hread : G.decodeInState serde (G.packet v).state body = .ok (⟨w, y⟩, rest)) : w = v := by
  obtain ⟨hid, -⟩ := decodeInState_encode h hread
  have hstate : (G.packet w).state = (G.packet v).state := decodeInState_state hread
  have hfind := find_variant w
  rw [hstate, hid, find_variant v] at hfind
  exact (Option.some.inj hfind).symm

end PacketGroup

theorem S2CPacket.encode_ne_nil {serde : Serde} {packet : S2CPacket} {body : Bytes}
    (h : packet.encode serde = .ok body) : body ≠ [] := by
  have hne : ∀ (v : VarInt) (fields : Bytes), v.encode ++ fields ≠ [] := fun v fields =>
    List.append_ne_nil_of_left_ne_nil (VarInt.encode_ne_nil v) fields
  cases packet with
  | v1_20_1 p =>
    obtain ⟨fields, rfl, -⟩ := PacketGroup.encode_eq_ok (G := V1_20_1.s2c) h
    exact hne _ fields
  | v1_21_1 p =>
    obtain ⟨fields, rfl, -⟩ := PacketGroup.encode_eq_ok (G := V1_21_1.s2c) h
    exact hne _ fields

section

variable {serde : Serde} {body rest : Bytes}

theorem V1_20_1.read_setCompression {p : V1_20_1.S2CPacket} {x : V1_20_1.s2cSetCompression.Val}
    (h : V1_20_1.s2c.encode serde p = .ok body)
    (hread : V1_20_1.s2c.decodeInState serde .login body = .ok (⟨.setCompression, x⟩, rest)) :
    p.1 = .setCompression := by
  obtain ⟨v, y⟩ := p
  obtain ⟨hid, -⟩ := PacketGroup.decodeInState_encode h hread
  clear h hread
  cases v <;> first | rfl | exact absurd hid (by decide)

/-- `S2CFinishConfiguration` has the same id, but no threshold. -/
theorem V1_21_1.read_setCompression {p : V1_21_1.S2CPacket} {x : V1_21_1.s2cSetCompression.Val}
    (h : V1_21_1.s2c.encode serde p = .ok body)
    (hread : V1_21_1.s2c.decodeInState serde .login body = .ok (⟨.setCompression, x⟩, rest)) :
    p.1 = .setCompression := by
  obtain ⟨v, y⟩ := p
  obtain ⟨hid, fields, hfields, hdecode⟩ := PacketGroup.decodeInState_encode h hread
  clear h hread
  cases v with
  | finishConfiguration =>
    cases hfields
    obtain ⟨e, he⟩ := Layout.decode_nil serde (t := V1_21_1.s2cSetCompression.layout) rfl
    cases he.symm.trans hdecode
  | _ => first | rfl | exact absurd hid (by decide)

end

theorem V1_20_1.announces_eq_none {p : V1_20_1.S2CPacket} (h : p.1 ≠ .setCompression) :
    Statik.S2CPacket.announces (.v1_20_1 p) = none := by
  obtain ⟨v, x⟩ := p
  cases v <;> first | rfl | exact absurd rfl h

theorem V1_21_1.announces_eq_none {p : V1_21_1.S2CPacket} (h : p.1 ≠ .setCompression) :
    Statik.S2CPacket.announces (.v1_21_1 p) = none := by
  obtain ⟨v, x⟩ := p
  cases v <;> first | rfl | exact absurd rfl h

/-- What one variant alone announces is read off a body as it was written, where
the body is read as that variant only if it is one. -/
theorem PacketGroup.announces_decoded {G : PacketGroup} {serde : Serde} {state : State}
    {announces : G.Packet → Option (BitVec 32)} {v : G.Variant} {p : G.Packet} {body : Bytes}
    (hothers : ∀ q : G.Packet, q.1 ≠ v → announces q = none)
    (hself : p.1 = v → G.decodeInState serde state body = .ok (p, []))
    (hread : ∀ x rest, G.decodeInState serde state body = .ok (⟨v, x⟩, rest) → p.1 = v) :
    ((G.decodeInState serde state body).toOption.bind fun r => announces r.1) = announces p := by
  by_cases hv : p.1 = v
  · rw [hself hv]
    rfl
  · rw [hothers p hv]
    cases hdecode : G.decodeInState serde state body with
    | error e => rfl
    | ok r =>
      refine hothers r.1 fun hr => hv ?_
      obtain ⟨⟨w, x⟩, rest⟩ := r
      cases hr
      exact hread x rest hdecode

/-- Of the packets of a version, `S2CSetCompression` alone is read as one. -/
theorem announced_encode {serde : Serde} {packet : S2CPacket} {body : Bytes}
    (h : packet.encode serde = .ok body) :
    announced serde packet.protocol body = packet.announces := by
  cases packet with
  | v1_20_1 p =>
    refine PacketGroup.announces_decoded (fun q => V1_20_1.announces_eq_none) (fun hset => ?_)
      fun x rest => V1_20_1.read_setCompression h
    obtain ⟨v, x⟩ := p
    cases hset
    obtain ⟨bs, hbs, hreads⟩ := @PacketGroup.decodeInState_reads V1_20_1.s2c serde
      ⟨.setCompression, x⟩ rfl ⟨trivial, trivial⟩
    cases hbs.symm.trans h
    exact hreads.all
  | v1_21_1 p =>
    refine PacketGroup.announces_decoded (fun q => V1_21_1.announces_eq_none) (fun hset => ?_)
      fun x rest => V1_21_1.read_setCompression h
    obtain ⟨v, x⟩ := p
    cases hset
    obtain ⟨bs, hbs, hreads⟩ := @PacketGroup.decodeInState_reads V1_21_1.s2c serde
      ⟨.setCompression, x⟩ rfl ⟨trivial, trivial⟩
    cases hbs.symm.trans h
    exact hreads.all

/-! ### The receiver -/

/-- The body of the frame at the front of the bytes, under the threshold, and the
threshold from then on. -/
def takeBody (env : Env) (protocol : ProtocolKind) (threshold : Option (BitVec 32)) (b : Bytes) :
    Option (Bytes × Option (BitVec 32) × Bytes) :=
  match peekHeader b with
  | .ok (some (headerLen, length)) =>
    let bodySlice := (b.drop headerLen).take length
    match bodyBytes env.flate2 threshold bodySlice with
    | .ok (some body) =>
      let threshold' := (announced env.serde protocol body).or threshold
      some (body, threshold', (b.drop headerLen).drop length)
    | _ => none
  | _ => none

section

variable {env : Env} {protocol : ProtocolKind} {threshold : Option (BitVec 32)}

theorem takeBody_frame {f : Frame} {body : Bytes} (rest : Bytes)
    (h : bodyBytes env.flate2 threshold f.body = .ok (some body)) :
    takeBody env protocol threshold (f.bytes ++ rest) =
      some (body, (announced env.serde protocol body).or threshold, rest) := by
  have hdrop : (f.bytes ++ rest).drop f.header.length = f.body ++ rest := by
    rw [Frame.bytes, List.append_assoc, List.drop_left]
  rw [takeBody, peekHeader_frame]
  simp only [hdrop, List.take_left, List.drop_left, h]

theorem takeBody_eq_some {b : Bytes} {r : Bytes × Option (BitVec 32) × Bytes}
    (h : takeBody env protocol threshold b = some r) :
    ∃ (f : Frame) (body rest : Bytes), b = f.bytes ++ rest ∧
      bodyBytes env.flate2 threshold f.body = .ok (some body) ∧
      r = (body, (announced env.serde protocol body).or threshold, rest) := by
  have hpeek : ∃ s, peekHeader b = .ok (some s) := by
    rw [takeBody] at h
    split at h
    · next hs => exact ⟨_, hs⟩
    · cases h
  obtain ⟨s, hs⟩ := hpeek
  obtain ⟨f, rest, rfl, rfl⟩ := peekHeader_eq_some hs
  have hbody : ∃ body, bodyBytes env.flate2 threshold f.body = .ok (some body) := by
    have hdrop : (f.bytes ++ rest).drop f.header.length = f.body ++ rest := by
      rw [Frame.bytes, List.append_assoc, List.drop_left]
    rw [takeBody, hs] at h
    simp only [hdrop, List.take_left] at h
    split at h
    · next hbody => exact ⟨_, hbody⟩
    · cases h
  obtain ⟨body, hbody⟩ := hbody
  rw [takeBody_frame rest hbody] at h
  exact ⟨f, body, rest, rfl, hbody, (Option.some.inj h).symm⟩

variable {b body rest : Bytes} {threshold' : Option (BitVec 32)}

theorem takeBody_shrinks
    (h : takeBody env protocol threshold b = some (body, threshold', rest)) :
    rest.length < b.length := by
  obtain ⟨f, body', rest', rfl, -, heq⟩ := takeBody_eq_some h
  cases heq
  have := f.length_pos
  rw [List.length_append]
  omega

theorem takeBody_stable (more : Bytes)
    (h : takeBody env protocol threshold b = some (body, threshold', rest)) :
    takeBody env protocol threshold (b ++ more) = some (body, threshold', rest ++ more) := by
  obtain ⟨f, body', rest', rfl, hbody, heq⟩ := takeBody_eq_some h
  cases heq
  rw [List.append_assoc]
  exact takeBody_frame _ hbody

end

/-- The receiver: its items are packet bodies, its state is the threshold. -/
def receiver (env : Env) (protocol : ProtocolKind) :
    Splitter (Option (BitVec 32)) Bytes Byte :=
  { take := takeBody env protocol,
    shrinks := takeBody_shrinks,
    stable := takeBody_stable }

/-! ### What `write_packet` frames, the receiver unframes -/

/-- The packet encodes, and neither its body nor its framed body is longer than
the limit. -/
def FitsFrame (env : Env) (threshold : Option (BitVec 32)) (packet : S2CPacket) : Prop :=
  ∃ body framed, packet.encode env.serde = .ok body ∧ body.length ≤ maxPacketSize ∧
    frameBody env.flate2 threshold body = .ok framed ∧ framed.length ≤ maxPacketSize

instance (env : Env) (threshold : Option (BitVec 32)) (packet : S2CPacket) :
    Decidable (FitsFrame env threshold packet) :=
  match hencode : packet.encode env.serde with
  | .error e => .isFalse fun ⟨body, _, h, _⟩ => by rw [hencode] at h; cases h
  | .ok body =>
    match hframed : frameBody env.flate2 threshold body with
    | .error e => .isFalse fun ⟨body', framed, h, _, h', _⟩ => by
        cases hencode.symm.trans h
        rw [hframed] at h'
        cases h'
    | .ok framed =>
      decidable_of_iff (body.length ≤ maxPacketSize ∧ framed.length ≤ maxPacketSize)
        ⟨fun h => ⟨body, framed, hencode, h.1, hframed, h.2⟩,
          fun ⟨body', framed', h, hb, h', hf⟩ => by
            cases hencode.symm.trans h
            cases hframed.symm.trans h'
            exact ⟨hb, hf⟩⟩

theorem asUsize_ofUsize {n : Nat} (h : n ≤ maxPacketSize) :
    asUsize (VarInt.ofUsize n).val = n := by
  have hmax : n ≤ i32Max := Nat.le_trans h (by decide)
  have hlt : (VarInt.ofUsize n).val.toNat < 2 ^ 31 := by
    rw [ofUsize_toNat hmax]
    exact Nat.lt_of_le_of_lt h (by decide)
  rw [asUsize_of_nonneg hlt, ofUsize_toNat hmax]

/-- The body comes back out of its framing, whatever the threshold. -/
theorem bodyBytes_frameBody {flate2 : Flate2} (hlawful : flate2.Lawful)
    {threshold : Option (BitVec 32)} {body framed : Bytes} (hne : body ≠ [])
    (hmax : body.length ≤ maxPacketSize) (h : frameBody flate2 threshold body = .ok framed) :
    bodyBytes flate2 threshold framed = .ok (some body) := by
  cases threshold with
  | none =>
    cases h
    rfl
  | some threshold =>
    rw [frameBody] at h
    split at h
    · next hlarge =>
      obtain ⟨compressed, hdeflate, rfl⟩ : ∃ compressed, flate2.deflate body = .ok compressed ∧
          (VarInt.ofUsize body.length).encode ++ compressed = framed := by
        cases hdeflate : flate2.deflate body with
        | ok compressed =>
          rw [hdeflate] at h
          exact ⟨compressed, rfl, Except.ok.inj h⟩
        | error e =>
          rw [hdeflate] at h
          cases h
      have hpos : body.length ≠ 0 := fun h0 => hne (List.eq_nil_of_length_eq_zero h0)
      have hread : flate2.readExact body.length compressed = .ok body := by
        rw [Flate2.readExact, hlawful _ _ hdeflate, if_pos (Nat.le_refl _), List.take_length]
      rw [bodyBytes, VarInt.decode_encode]
      simp only [asUsize_ofUsize hmax, if_neg hpos, if_pos hlarge, if_pos hmax, hread]
    · cases h
      rw [bodyBytes, VarInt.decode_encode]
      rfl

/-- One packet through `write_packet` and the receiver. -/
theorem drain_outgoing {env : Env} (hlawful : env.flate2.Lawful) {threshold : Option (BitVec 32)}
    {packet : S2CPacket} (h : FitsFrame env threshold packet) :
    ∃ body bytes, packet.encode env.serde = .ok body ∧
      outgoing env threshold packet = .ok bytes ∧ ∀ rest,
        (receiver env packet.protocol).drain threshold (bytes ++ rest) =
          ((receiver env packet.protocol).drain (packet.announces.or threshold) rest).prepend
            [body] := by
  obtain ⟨body, framed, hencode, hmax, hframed, hfits⟩ := h
  refine ⟨body, (Frame.of framed hfits).bytes, hencode, outgoing_of hencode hframed,
    fun rest => ?_⟩
  have hbody := bodyBytes_frameBody hlawful (S2CPacket.encode_ne_nil hencode) hmax hframed
  rw [← announced_encode hencode]
  exact Splitter.drain_some (takeBody_frame (f := Frame.of framed hfits) rest hbody)

end Statik
