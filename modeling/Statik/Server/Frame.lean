import Statik.Server.Connection

/-!
# Frames

What `try_parse_packet` does with a buffer, in terms of the whole frames in it.
-/

namespace Statik

open Wire

/-- A whole frame: a length VarInt and as many bytes as it declares. -/
structure Frame where
  header : Bytes
  body : Bytes
  terminated : VarInt.Terminated header
  declares : Reads VarInt.decode header (VarInt.ofUsize body.length)
  fits : body.length ≤ maxPacketSize

def Frame.bytes (f : Frame) : Bytes := f.header ++ f.body

/-- The frame around a body with the shortest header. -/
def Frame.of (body : Bytes) (h : body.length ≤ maxPacketSize) : Frame :=
  { header := (VarInt.ofUsize body.length).encode, body := body,
    terminated := VarInt.encode_terminated _, declares := VarInt.decode_encode _, fits := h }

/-- The beginning of a frame: a partial length VarInt, or a length VarInt within
the limit and fewer bytes than it declares. -/
def Pending (b : Bytes) : Prop :=
  VarInt.Partial b ∨
    ∃ header length body, b = header ++ body ∧ VarInt.Terminated header ∧
      Reads VarInt.decode header (VarInt.ofUsize length) ∧ length ≤ maxPacketSize ∧
      body.length < length

theorem Frame.length_pos (f : Frame) : 0 < f.bytes.length := by
  have h := List.length_pos_of_ne_nil f.terminated.ne_nil
  rw [Frame.bytes, List.length_append]
  omega

theorem Pending.nil : Pending [] :=
  .inl ⟨by decide, fun b hb => absurd hb List.not_mem_nil⟩

/-- A pending buffer is shorter than the longest frame. -/
theorem Pending.length_lt {b : Bytes} (h : Pending b) : b.length < 5 + maxPacketSize := by
  rcases h with hp | ⟨header, length, body, rfl, ht, -, hmax, hlt⟩
  · have := hp.1
    omega
  · have := ht.length_le
    rw [List.length_append]
    omega

/-! ### The header -/

theorem peekHeader_frame (f : Frame) (rest : Bytes) :
    peekHeader (f.bytes ++ rest) = .ok (some (f.header.length, f.body.length)) := by
  have hmax : f.body.length ≤ i32Max := Nat.le_trans f.fits (by decide)
  have hlen : ¬ (f.header ++ (f.body ++ rest)).length <
      (f.header ++ (f.body ++ rest)).length - (f.body ++ rest).length + f.body.length := by
    simp only [List.length_append]
    omega
  rw [Frame.bytes, List.append_assoc, peekHeader, f.declares]
  simp only [ofUsize_toInt hmax, ofUsize_toNat hmax, if_neg hlen]
  rw [if_pos (Int.natCast_nonneg _), if_pos f.fits, List.length_append, Nat.add_sub_cancel]

theorem peekHeader_pending {b : Bytes} (h : Pending b) : peekHeader b = .ok none := by
  rcases h with hp | ⟨header, length, body, rfl, -, hr, hmax, hlt⟩
  · rw [peekHeader, VarInt.decode_of_cut hp]
    rfl
  · have hle : length ≤ i32Max := Nat.le_trans hmax (by decide)
    have hlen : (header ++ body).length < (header ++ body).length - body.length + length := by
      rw [List.length_append]
      omega
    rw [peekHeader, hr]
    simp only [ofUsize_toInt hle, ofUsize_toNat hle, if_pos hlen]
    rw [if_pos (Int.natCast_nonneg _), if_pos hmax]

/-- A buffer is pending, malformed at its header, or begins with a frame. -/
theorem peekHeader_cases (b : Bytes) :
    Pending b ∨ (∃ e, Plain e ∧ peekHeader b = .error e) ∨
      ∃ (f : Frame) (rest : Bytes), b = f.bytes ++ rest := by
  rcases VarInt.input_cases b with hp | ho | ⟨header, rest, rfl, ht⟩
  · exact .inl (.inl hp)
  · refine .inr (.inl ⟨VarInt.capacityError, rfl, ?_⟩)
    rw [peekHeader, VarInt.decode_of_overlong ho]
    rfl
  · obtain ⟨v, hv⟩ := ht.reads
    have hpeek := hv rest
    by_cases hneg : 0 ≤ v.val.toInt
    · by_cases hmax : v.val.toNat ≤ maxPacketSize
      · rw [← ofUsize_toNat_val v] at hv
        by_cases hlen : rest.length < v.val.toNat
        · exact .inl (.inr ⟨header, v.val.toNat, rest, rfl, ht, hv, hmax, hlen⟩)
        · have hbody : (rest.take v.val.toNat).length = v.val.toNat := by
            rw [List.length_take]
            omega
          refine .inr (.inr ⟨
            { header := header, body := rest.take v.val.toNat, terminated := ht,
              declares := (by rw [hbody]; exact hv), fits := (by rw [hbody]; exact hmax) },
            rest.drop v.val.toNat, ?_⟩)
          rw [Frame.bytes, List.append_assoc, List.take_append_drop]
      · refine .inr (.inl ⟨oversizedLength v.val.toInt, rfl, ?_⟩)
        rw [peekHeader, hpeek]
        simp only
        rw [if_pos hneg, if_neg hmax]
    · refine .inr (.inl ⟨negativeLength v.val.toInt, rfl, ?_⟩)
      rw [peekHeader, hpeek]
      simp only
      rw [if_neg hneg]

/-! ### The body -/

/-- `try_parse_packet` once a whole frame is found: its body, and the bytes behind
it. -/
def parseFrame (env : Env) (self : Connection) (body rest : Bytes) :
    Except Error (Option DecodedC2S) × Connection :=
  match bodyBytes env.flate2 self.compressionThreshold body with
  | .error e => (.error e, { self with buffer := body ++ rest })
  | .ok none => (.ok none, { self with buffer := body ++ rest })
  | .ok (some data) =>
    match DecodedC2S.decode env.serde self.protocol self.state data with
    | .ok (packet, _) => (.ok (some packet), { self with buffer := rest })
    | .error e =>
      if self.state.skipsUndecodable then (.ok none, { self with buffer := rest })
      else (.error e, { self with buffer := rest })

theorem readExact_fails (flate2 : Flate2) (n : Nat) (compressed : Bytes) :
    Fails Plain (flate2.readExact n compressed) := by
  rw [Flate2.readExact]
  split
  · exact Fails.ok _
  · exact Fails.error rfl

theorem bodyBytes_fails (flate2 : Flate2) (threshold : Option (BitVec 32)) (body : Bytes) :
    Fails Plain (bodyBytes flate2 threshold body) := by
  cases threshold with
  | none => exact Fails.ok _
  | some threshold =>
    rw [bodyBytes]
    cases hdec : VarInt.decode body with
    | error e =>
      simp only
      split
      · exact Fails.ok none
      · exact Fails.error (VarInt.decode_refuses body e hdec)
    | ok r =>
      simp only
      split
      · exact Fails.ok _
      · split
        · split
          · cases hread : flate2.readExact (asUsize r.1.val) r.2 with
            | ok data => exact Fails.ok _
            | error e => exact Fails.error (readExact_fails flate2 _ _ e hread)
          · exact Fails.error rfl
        · exact Fails.error rfl

/-- What is decoded is no longer than `MAX_PACKET_SIZE`, compressed or not. -/
theorem bodyBytes_length {flate2 : Flate2} {threshold : Option (BitVec 32)}
    {bodySlice body : Bytes} (hmax : bodySlice.length ≤ maxPacketSize)
    (h : bodyBytes flate2 threshold bodySlice = .ok (some body)) :
    body.length ≤ maxPacketSize := by
  cases threshold with
  | none =>
    cases h
    exact hmax
  | some threshold =>
    rw [bodyBytes] at h
    cases hdecode : VarInt.decode bodySlice with
    | error e =>
      rw [hdecode] at h
      simp only at h
      split at h <;> cases h
    | ok r =>
      obtain ⟨used, hused, -, -⟩ := VarInt.decode_ok hdecode
      rw [hused, List.length_append] at hmax
      rw [hdecode] at h
      simp only at h
      split at h
      · cases h
        omega
      · split at h
        · split at h
          · next hlimit =>
            cases hread : flate2.readExact (asUsize r.1.val) r.2 with
            | error e =>
              rw [hread] at h
              cases h
            | ok data =>
              rw [hread] at h
              cases h
              rw [Flate2.readExact] at hread
              split at hread
              · cases hread
                rw [List.length_take]
                omega
              · cases hread
          · cases h
        · cases h

theorem tryParsePacket_frame {env : Env} {self : Connection} {f : Frame} {rest : Bytes}
    (h : self.buffer = f.bytes ++ rest) :
    tryParsePacket env self = parseFrame env self f.body rest := by
  have hpeek : peekHeader self.buffer = .ok (some (f.header.length, f.body.length)) := by
    rw [h, peekHeader_frame]
  have hdrop : self.buffer.drop f.header.length = f.body ++ rest := by
    rw [h, Frame.bytes, List.append_assoc, List.drop_left]
  have htake : (f.body ++ rest).take f.body.length = f.body := List.take_left
  have hrest : (f.body ++ rest).drop f.body.length = rest := List.drop_left
  cases hbody : bodyBytes env.flate2 self.compressionThreshold f.body with
  | error e => simp only [tryParsePacket, parseFrame, hpeek, hdrop, htake, hbody]
  | ok data =>
    cases data with
    | none => simp only [tryParsePacket, parseFrame, hpeek, hdrop, htake, hbody]
    | some data =>
      cases hdecode : DecodedC2S.decode env.serde self.protocol self.state data with
      | ok r =>
        simp only [tryParsePacket, parseFrame, hpeek, hdrop, htake, hrest, hbody, hdecode]
      | error e =>
        simp only [tryParsePacket, parseFrame, hpeek, hdrop, htake, hrest, hbody, hdecode]

theorem tryParsePacket_pending {env : Env} {self : Connection} (h : Pending self.buffer) :
    tryParsePacket env self = (.ok none, self) := by
  rw [tryParsePacket, peekHeader_pending h]

/-- The three things a call can find. -/
theorem tryParsePacket_cases (env : Env) (self : Connection) :
    (Pending self.buffer ∧ tryParsePacket env self = (.ok none, self)) ∨
    (∃ e, Plain e ∧ tryParsePacket env self = (.error e, self)) ∨
    (∃ (f : Frame) (rest : Bytes), self.buffer = f.bytes ++ rest ∧
      tryParsePacket env self = parseFrame env self f.body rest) := by
  rcases peekHeader_cases self.buffer with hp | ⟨e, he, hpeek⟩ | ⟨f, rest, hbuf⟩
  · exact .inl ⟨hp, tryParsePacket_pending hp⟩
  · refine .inr (.inl ⟨e, he, ?_⟩)
    rw [tryParsePacket, hpeek]
  · exact .inr (.inr ⟨f, rest, hbuf, tryParsePacket_frame hbuf⟩)

/-- A call changes nothing but the buffer. -/
theorem tryParsePacket_conn (env : Env) (self : Connection) :
    ∃ buffer, (tryParsePacket env self).2 = { self with buffer := buffer } := by
  rcases tryParsePacket_cases env self with ⟨-, h⟩ | ⟨e, -, h⟩ | ⟨f, rest, -, h⟩
  · exact ⟨self.buffer, by rw [h]⟩
  · exact ⟨self.buffer, by rw [h]⟩
  · rw [h, parseFrame]
    split
    · exact ⟨_, rfl⟩
    · exact ⟨_, rfl⟩
    · split
      · exact ⟨_, rfl⟩
      · split
        · exact ⟨_, rfl⟩
        · exact ⟨_, rfl⟩

theorem parseFrame_fails (env : Env) (self : Connection) (body rest : Bytes) :
    Fails Plain (parseFrame env self body rest).1 := by
  rw [parseFrame]
  cases hbody : bodyBytes env.flate2 self.compressionThreshold body with
  | error e => exact Fails.error (bodyBytes_fails _ _ _ e hbody)
  | ok data =>
    cases data with
    | none => exact Fails.ok none
    | some data =>
      simp only
      cases hdec : DecodedC2S.decode env.serde self.protocol self.state data with
      | ok r => exact Fails.ok _
      | error e =>
        simp only
        split
        · exact Fails.ok none
        · exact Fails.error (DecodedC2S.decode_refuses _ _ _ data e hdec)

theorem tryParsePacket_fails (env : Env) (self : Connection) :
    Fails Plain (tryParsePacket env self).1 := by
  rcases tryParsePacket_cases env self with ⟨-, h⟩ | ⟨e, he, h⟩ | ⟨f, rest, -, h⟩
  · rw [h]
    exact Fails.ok none
  · rw [h]
    exact Fails.error he
  · rw [h]
    exact parseFrame_fails env self f.body rest

/-- A packet the call returns is of the connection's version and state. -/
theorem tryParsePacket_packet {env : Env} {self : Connection} {packet : DecodedC2S}
    (h : (tryParsePacket env self).1 = .ok (some packet)) :
    packet.protocol = self.protocol ∧ packet.state = self.state := by
  rcases tryParsePacket_cases env self with ⟨-, hp⟩ | ⟨e, he, hp⟩ | ⟨f, rest, -, hp⟩
  · rw [hp] at h
    cases h
  · rw [hp] at h
    cases h
  · rw [hp, parseFrame] at h
    cases hbody : bodyBytes env.flate2 self.compressionThreshold f.body with
    | error e => rw [hbody] at h; cases h
    | ok data =>
      cases data with
      | none => rw [hbody] at h; cases h
      | some data =>
        rw [hbody] at h
        simp only at h
        cases hdec : DecodedC2S.decode env.serde self.protocol self.state data with
        | ok r =>
          rw [hdec] at h
          cases h
          exact DecodedC2S.decode_ok hdec
        | error e =>
          rw [hdec] at h
          simp only at h
          split at h <;> cases h

end Statik
