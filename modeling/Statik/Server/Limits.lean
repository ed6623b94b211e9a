import Statik.Server.Receiver

/-!
# The limits on what is written

`try_parse_packet` refuses frames and bodies beyond `MAX_PACKET_SIZE`;
`write_packet` looks at neither length.
-/

namespace Statik

open Wire

/-- The frame of a body keeps to what `try_parse_packet` asks of frames: its length
is that of the bytes behind it and within the limit, and so is a Data Length other
than 0. -/
structure RespectsLimits (threshold : Option (BitVec 32)) (body frame : Bytes) : Prop where
  length : ∃ length framed, VarInt.decode frame = .ok (length, framed) ∧
    0 ≤ length.val.toInt ∧ length.val.toInt = framed.length ∧ framed.length ≤ maxPacketSize ∧
    (threshold ≠ none → ∃ dataLen data, VarInt.decode framed = .ok (dataLen, data) ∧
      (dataLen.val.toInt = 0 ∨
        dataLen.val.toInt = body.length ∧ body.length ≤ maxPacketSize))

/-- Under the threshold, whatever the connection, `write_packet` writes a frame
within the limits if it succeeds, and fails without a byte on a packet that does not
fit into one. -/
def KeepsLimits (env : Env) (threshold : Option (BitVec 32)) (packet : S2CPacket) : Prop :=
  ∀ w : World, w.conn.compressionThreshold = threshold →
    (∀ w', writePacket env packet w = .ok () w' → ∃ body frame,
      packet.encode env.serde = .ok body ∧ w'.socket.sent = w.socket.sent ++ frame ∧
      RespectsLimits threshold body frame) ∧
    (¬ FitsFrame env threshold packet → ∃ e w', writePacket env packet w = .error e w' ∧
      w'.socket.sent = w.socket.sent)

/-- A packet that is encoded and compressed is short enough for the limits: as it is
without compression, with a Data Length of one byte below the threshold, and from the
threshold on by its own length and by that of its Data Length and its compressed
bytes. -/
def WithinLimits (env : Env) (threshold : Option (BitVec 32)) (packet : S2CPacket) : Prop :=
  ∀ body, packet.encode env.serde = .ok body →
    match threshold with
    | none => body.length ≤ maxPacketSize
    | some threshold =>
      if asUsize threshold ≤ body.length then
        ∀ compressed, env.flate2.deflate body = .ok compressed →
          body.length ≤ maxPacketSize ∧
          (VarInt.ofUsize body.length).encode.length + compressed.length ≤ maxPacketSize
      else body.length + 1 ≤ maxPacketSize

section

variable {env : Env} {threshold : Option (BitVec 32)} {packet : S2CPacket}

/-- For a packet with a frame the limits are those on its two lengths. -/
theorem withinLimits_iff {body framed : Bytes} (hencode : packet.encode env.serde = .ok body)
    (hframed : frameBody env.flate2 threshold body = .ok framed) :
    WithinLimits env threshold packet ↔
      body.length ≤ maxPacketSize ∧ framed.length ≤ maxPacketSize := by
  cases threshold with
  | none =>
    cases hframed
    constructor
    · intro h
      exact ⟨h body hencode, h body hencode⟩
    · intro h body' hencode'
      cases hencode.symm.trans hencode'
      exact h.1
  | some threshold =>
    rw [frameBody] at hframed
    by_cases hlarge : asUsize threshold ≤ body.length
    · rw [if_pos hlarge] at hframed
      cases hdeflate : env.flate2.deflate body with
      | error e =>
        rw [hdeflate] at hframed
        cases hframed
      | ok compressed =>
        rw [hdeflate] at hframed
        cases hframed
        rw [List.length_append]
        constructor
        · intro h
          have hbody := h body hencode
          simp only [if_pos hlarge] at hbody
          exact hbody compressed hdeflate
        · intro h body' hencode'
          cases hencode.symm.trans hencode'
          simp only [if_pos hlarge]
          intro compressed' hdeflate'
          cases hdeflate.symm.trans hdeflate'
          exact h
    · rw [if_neg hlarge] at hframed
      cases hframed
      have hzero : ((VarInt.mk 0).encode ++ body).length = 1 + body.length := List.length_append
      rw [hzero]
      constructor
      · intro h
        have hbody := h body hencode
        simp only [if_neg hlarge] at hbody
        omega
      · intro h body' hencode'
        cases hencode.symm.trans hencode'
        simp only [if_neg hlarge]
        omega

/-- A frame within the limits respects them. -/
theorem respectsLimits_frame {body framed : Bytes}
    (hframed : frameBody env.flate2 threshold body = .ok framed)
    (hbody : body.length ≤ maxPacketSize) (hlength : framed.length ≤ maxPacketSize) :
    RespectsLimits threshold body ((VarInt.ofUsize framed.length).encode ++ framed) := by
  have htoInt : ∀ {n : Nat}, n ≤ maxPacketSize → (VarInt.ofUsize n).val.toInt = n :=
    fun h => ofUsize_toInt (Nat.le_trans h (by decide))
  refine { length := ⟨VarInt.ofUsize framed.length, framed, VarInt.decode_encode _ framed, ?_,
    htoInt hlength, hlength, fun hthreshold => ?_⟩ }
  · rw [htoInt hlength]
    exact Int.natCast_nonneg _
  · cases threshold with
    | none => exact absurd rfl hthreshold
    | some threshold =>
      rw [frameBody] at hframed
      split at hframed
      · cases hdeflate : env.flate2.deflate body with
        | error e =>
          rw [hdeflate] at hframed
          cases hframed
        | ok compressed =>
          rw [hdeflate] at hframed
          cases hframed
          exact ⟨_, _, VarInt.decode_encode _ _, .inr ⟨htoInt hbody, hbody⟩⟩
      · cases hframed
        exact ⟨_, _, VarInt.decode_encode _ _, .inl rfl⟩

/-- A connection on a socket that takes all writes. -/
def World.writable (threshold : Option (BitVec 32)) : World :=
  { conn :=
      { Connection.new .default .v1_20_1 "127.0.0.1:50000" with
        compressionThreshold := threshold },
    socket := { sent := [], writes := 0, fault := fun _ => none },
    history := [] }

/-- What has a frame is written, whatever its lengths. -/
theorem writePacket_writable {body framed : Bytes} (hencode : packet.encode env.serde = .ok body)
    (hframed : frameBody env.flate2 threshold body = .ok framed) :
    ∃ w', writePacket env packet (.writable threshold) = .ok () w' := by
  have hout : outgoing env (World.writable threshold).conn.compressionThreshold packet = _ :=
    outgoing_of hencode hframed
  rw [writePacket, hout]
  exact ⟨_, rfl⟩

theorem KeepsLimits.lengths (h : KeepsLimits env threshold packet) {body framed : Bytes}
    (hencode : packet.encode env.serde = .ok body)
    (hframed : frameBody env.flate2 threshold body = .ok framed) :
    body.length ≤ maxPacketSize ∧ framed.length ≤ maxPacketSize := by
  obtain ⟨w', hok⟩ := writePacket_writable hencode hframed
  by_contra hlong
  have hfits : ¬ FitsFrame env threshold packet := by
    rintro ⟨body', framed', hencode', hbody, hframed', hlength⟩
    cases hencode.symm.trans hencode'
    cases hframed.symm.trans hframed'
    exact hlong ⟨hbody, hlength⟩
  obtain ⟨e, w'', herr, -⟩ := (h (.writable threshold) rfl).2 hfits
  rw [hok] at herr
  cases herr

/-- What has no frame is refused before the socket. -/
theorem keepsLimits_of_error {e : Error} (hout : outgoing env threshold packet = .error e) :
    KeepsLimits env threshold packet ∧ WithinLimits env threshold packet := by
  have hnone : ∀ body framed, packet.encode env.serde = .ok body →
      frameBody env.flate2 threshold body ≠ .ok framed := by
    intro body framed hencode hframed
    rw [outgoing_of hencode hframed] at hout
    cases hout
  constructor
  · intro w hw
    have hwrite : writePacket env packet w = .error e (w.log (.failed packet)) := by
      rw [writePacket, hw, hout]
    refine ⟨fun w' hok => ?_, fun _ => ⟨e, _, hwrite, rfl⟩⟩
    rw [hwrite] at hok
    cases hok
  · intro body hencode
    cases threshold with
    | none => exact absurd rfl (hnone body body hencode)
    | some threshold =>
      by_cases hlarge : asUsize threshold ≤ body.length
      · simp only [if_pos hlarge]
        intro compressed hdeflate
        refine absurd ?_ (hnone body ((VarInt.ofUsize body.length).encode ++ compressed) hencode)
        rw [frameBody, if_pos hlarge, hdeflate]
      · refine absurd ?_ (hnone body ((VarInt.mk 0).encode ++ body) hencode)
        rw [frameBody, if_neg hlarge]

/-- A write that succeeds sends the frame. -/
theorem writePacket_sends {body framed : Bytes} {w w' : World}
    (hencode : packet.encode env.serde = .ok body)
    (hframed : frameBody env.flate2 w.conn.compressionThreshold body = .ok framed)
    (h : writePacket env packet w = .ok () w') :
    w'.socket.sent = w.socket.sent ++ ((VarInt.ofUsize framed.length).encode ++ framed) := by
  rcases writePacket_cases env w packet with ⟨bytes, hout, -, hok⟩ | ⟨e, socket, herr, -⟩
  · rw [outgoing_of hencode hframed] at hout
    cases hout
    rw [hok] at h
    cases h
    rfl
  · rw [herr] at h
    cases h

/-- What is written keeps to the limits, and what cannot keep to them is not written,
if and only if a packet that can be framed at all is short enough. -/
theorem keepsLimits_iff (env : Env) (threshold : Option (BitVec 32)) (packet : S2CPacket) :
    KeepsLimits env threshold packet ↔ WithinLimits env threshold packet := by
  cases hout : outgoing env threshold packet with
  | error e =>
    obtain ⟨hkeeps, hwithin⟩ := keepsLimits_of_error hout
    exact ⟨fun _ => hwithin, fun _ => hkeeps⟩
  | ok bytes =>
    obtain ⟨body, framed, hencode, hframed, rfl⟩ := outgoing_eq_ok hout
    rw [withinLimits_iff hencode hframed]
    refine ⟨fun h => h.lengths hencode hframed, fun h w hw => ⟨fun w' hok => ?_, fun hfits => ?_⟩⟩
    · subst hw
      exact ⟨body, _, hencode, writePacket_sends hencode hframed hok,
        respectsLimits_frame hframed h.1 h.2⟩
    · exact absurd ⟨body, framed, hencode, h.1, hframed, h.2⟩ hfits

end

/-! ### A status response with a long motd -/

def longText : Nat → String
  | 0 => ""
  | n + 1 => "a" ++ longText n

theorem utf8_length (s : String) : (utf8 s).length = s.utf8ByteSize := by
  rw [utf8, List.length_map]
  rfl

theorem longText_size (n : Nat) : (longText n).utf8ByteSize = n := by
  induction n with
  | zero => rfl
  | succ n ih =>
    rw [longText, String.utf8ByteSize_append, ih, Nat.add_comm]
    rfl

/-- `serde_json`, as far as it writes the status responses below. -/
def longMotdEnv : Env :=
  { (Setup.bare .v1_20_1 false).env with
    serde := { Serde.plain with statusToString := fun r => statusJson r.description.text } }

def withMotd (motd : String) : ServerConfig :=
  { ServerConfig.default with mc := { ServerConfig.default.mc with motd := motd } }

theorem statusJson_size (text : String) :
    (statusJson text).utf8ByteSize = 141 + text.utf8ByteSize := by
  have hhead : (statusJsonHead ++ "\x7b\"text\":\"").utf8ByteSize = 111 := by decide +kernel
  have htail : "\"\x7d,\"enforcesSecureChat\":false\x7d".utf8ByteSize = 30 := by decide +kernel
  rw [statusJson, String.utf8ByteSize_append, String.utf8ByteSize_append, hhead, htail]
  omega

/-- A response with a long motd is written all the same. -/
theorem withMotd_not_keepsLimits {motd : String} (hlong : maxPacketSize ≤ motd.utf8ByteSize)
    (hmax : 141 + motd.utf8ByteSize ≤ i32Max) :
    ¬ KeepsLimits longMotdEnv none (V1_20_1.statusResponse (withMotd motd) .v1_20_1) := by
  intro h
  have hsize : (utf8 (statusJson motd)).length = 141 + motd.utf8ByteSize := by
    rw [utf8_length, statusJson_size]
  have hstring : encodeString (statusJson motd) = .ok
      ((VarInt.ofUsize (utf8 (statusJson motd)).length).encode ++ utf8 (statusJson motd)) :=
    if_pos (hsize ▸ hmax)
  have hfields : (V1_20_1.s2c.packet .statusResponse).layout.encode longMotdEnv.serde
      ((withMotd motd).status .v1_20_1, ()) = _ := Layout.encode_field hstring rfl
  have hencode : (V1_20_1.statusResponse (withMotd motd) .v1_20_1).encode longMotdEnv.serde = _ :=
    PacketGroup.encode_of_fields (G := V1_20_1.s2c)
      (p := ⟨.statusResponse, (withMotd motd).status .v1_20_1, ()⟩) hfields
  have hlength := (h.lengths hencode rfl).1
  simp only [List.length_append, hsize] at hlength
  omega

/-- A motd of 2 MiB. -/
theorem longMotd_not_keepsLimits :
    ¬ KeepsLimits longMotdEnv none
        (V1_20_1.statusResponse (withMotd (longText maxPacketSize)) .v1_20_1) :=
  withMotd_not_keepsLimits (by rw [longText_size])
    (by rw [longText_size]; decide)

end Statik
