import Statik.Derive.Checked
import Statik.Server.Draining
import Statik.Server.Login

/-!
# Reading and writing frames within range

`try_parse_packet` and `write_packet` with every slice, advance, allocation and shift
checked.  On no input does one of them leave its range.
-/

namespace Statik

open Wire

/-! ### Reading frames -/

def DecodedC2S.decodeChecked (size : Layout → Nat) (serde : Serde) (protocol : ProtocolKind)
    (state : State) : CheckedDecoder Error DecodedC2S :=
  match protocol with
  | .v1_20_1 => .v1_20_1 <$> V1_20_1.c2s.decodeInStateChecked size serde state
  | .v1_21_1 => .v1_21_1 <$> V1_21_1.c2s.decodeInStateChecked size serde state

/-- `header_len` and `length`, as far as the frame is buffered. -/
def peekHeaderChecked (buffer : Bytes) : Checked (Except Error (Option (Nat × Nat))) :=
  match (VarInt.decodeChecked buffer : Checked (Except Error (VarInt × Bytes))) with
  | .error e => .error e
  | .ok (.error e) => .ok (if e.isUnexpectedEof then .ok none else .error e)
  | .ok (.ok (v, rest)) =>
    let declared := v.val.toInt
    if 0 ≤ declared then
      let length := v.val.toNat
      if length ≤ maxPacketSize then
        let headerLen := buffer.length - rest.length
        if buffer.length < headerLen + length then .ok (.ok none)
        else .ok (.ok (some (headerLen, length)))
      else .ok (.error (oversizedLength declared))
    else .ok (.error (negativeLength declared))

/-- `body_bytes`. -/
def bodyBytesChecked (flate2 : Flate2) (threshold : Option (BitVec 32)) (bodySlice : Bytes) :
    Checked (Except Error (Option Bytes)) :=
  match threshold with
  | none => .ok (.ok (some bodySlice))
  | some threshold =>
    match (VarInt.decodeChecked bodySlice : Checked (Except Error (VarInt × Bytes))) with
    | .error e => .error e
    | .ok (.error e) => .ok (if e.isUnexpectedEof then .ok none else .error e)
    | .ok (.ok (v, rest)) => do
      let dataLen := asUsize v.val
      let compressedStart := bodySlice.length - rest.length
      if dataLen = 0 then
        let body ← Checked.slice bodySlice compressedStart bodySlice.length
        .ok (.ok (some body))
      else if asUsize threshold ≤ dataLen then
        if dataLen ≤ maxPacketSize then
          let compressed ← Checked.slice bodySlice compressedStart bodySlice.length
          -- `vec![0u8; data_len]`
          let room ← Checked.allocate 1 dataLen
          match flate2.readExact room compressed with
          | .ok decompressed => .ok (.ok (some decompressed))
          | .error e => .ok (.error e)
        else .ok (.error (.msg s!"uncompressed Data Length {dataLen} exceeds MAX_PACKET_SIZE"))
      else
        let threshold := threshold.toInt
        .ok (.error (.msg
          s!"compressed packet Data Length {dataLen} is below threshold {threshold}"))

def tryParsePacketChecked (size : Layout → Nat) (env : Env) (self : Connection) :
    Checked (Except Error (Option DecodedC2S) × Connection) := do
  match ← peekHeaderChecked self.buffer with
  | .error e => .ok (.error e, self)
  | .ok none => .ok (.ok none, self)
  | .ok (some (headerLen, length)) =>
    let buffer ← Checked.advance self.buffer headerLen
    let self := { self with buffer := buffer }
    let bodySlice ← Checked.slice self.buffer 0 length
    match ← bodyBytesChecked env.flate2 self.compressionThreshold bodySlice with
    | .error e => .ok (.error e, self)
    | .ok none => .ok (.ok none, self)
    | .ok (some body) =>
      let decodeResult : Except Error (DecodedC2S × Bytes) ←
        DecodedC2S.decodeChecked size env.serde self.protocol self.state body
      let buffer ← Checked.advance self.buffer length
      let self := { self with buffer := buffer }
      match decodeResult with
      | .ok (packet, _) => .ok (.ok (some packet), self)
      | .error e =>
        .ok (if self.state.skipsUndecodable then (.ok none, self) else (.error e, self))

theorem V1_20_1.c2s_vecsBounded (v : V1_20_1.c2s.Variant) :
    (V1_20_1.c2s.packet v).layout.vecsBounded = true := by
  cases v <;> decide

theorem V1_21_1.c2s_vecsBounded (v : V1_21_1.c2s.Variant) :
    (V1_21_1.c2s.packet v).layout.vecsBounded = true := by
  cases v <;> decide

section

variable {size : Layout → Nat} (hsize : ∀ t, size t ≤ t.footprint)

include hsize

theorem DecodedC2S.safe_decode {limit : Nat} (hlimit : 2 * limit + 8 ≤ isizeMax) (serde : Serde)
    (protocol : ProtocolKind) (state : State) :
    Safe limit (decodeChecked size serde protocol state) (decode serde protocol state) := by
  cases protocol with
  | v1_20_1 =>
    exact (PacketGroup.safe_decodeInState hsize hlimit V1_20_1.c2s_vecsBounded serde state).map _
  | v1_21_1 =>
    exact (PacketGroup.safe_decodeInState hsize hlimit V1_21_1.c2s_vecsBounded serde state).map _

end

theorem peekHeaderChecked_eq (buffer : Bytes) :
    peekHeaderChecked buffer = .ok (peekHeader buffer) := by
  rw [peekHeaderChecked, VarInt.decodeChecked_eq, peekHeader]
  cases VarInt.decode buffer with
  | error e => rfl
  | ok r =>
    simp only
    split
    · split
      · split <;> rfl
      · rfl
    · rfl

/-- The order of the checks matters: a Data Length is compared with
`MAX_PACKET_SIZE` before anything is allocated for it. -/
theorem bodyBytesChecked_eq (flate2 : Flate2) (threshold : Option (BitVec 32))
    (bodySlice : Bytes) :
    bodyBytesChecked flate2 threshold bodySlice = .ok (bodyBytes flate2 threshold bodySlice) := by
  cases threshold with
  | none => rfl
  | some threshold =>
    rw [bodyBytesChecked, VarInt.decodeChecked_eq, bodyBytes]
    cases hdecode : VarInt.decode bodySlice with
    | error e => rfl
    | ok r =>
      obtain ⟨used, rfl, -⟩ := VarInt.decode_delimits bodySlice r.2 r.1 hdecode
      have hslice : Checked.slice (used ++ r.2) ((used ++ r.2).length - r.2.length)
          (used ++ r.2).length = .ok r.2 := by
        rw [Checked.slice_suffix _ (Nat.sub_le _ _), List.length_append, Nat.add_sub_cancel,
          List.drop_left]
      simp only [hslice]
      by_cases hzero : asUsize r.1.val = 0
      · rw [if_pos hzero, if_pos hzero]
        rfl
      · rw [if_neg hzero, if_neg hzero]
        by_cases hlow : asUsize threshold ≤ asUsize r.1.val
        · rw [if_pos hlow, if_pos hlow]
          by_cases hmax : asUsize r.1.val ≤ maxPacketSize
          · have hroom : 1 * asUsize r.1.val ≤ isizeMax :=
              Nat.le_trans (by omega) (by decide : maxPacketSize ≤ isizeMax)
            rw [if_pos hmax, if_pos hmax, Checked.allocate_ok hroom, Checked.ok_bind,
              Checked.ok_bind]
            cases flate2.readExact (asUsize r.1.val) r.2 <;> rfl
          · rw [if_neg hmax, if_neg hmax]
        · rw [if_neg hlow, if_neg hlow]

/-- A call of `try_parse_packet` leaves no range, whatever the connection and its
buffer. -/
theorem tryParsePacketChecked_eq {size : Layout → Nat} (hsize : ∀ t, size t ≤ t.footprint)
    (env : Env) (self : Connection) :
    tryParsePacketChecked size env self = .ok (tryParsePacket env self) := by
  rw [tryParsePacketChecked, peekHeaderChecked_eq]
  rcases peekHeader_cases self.buffer with hp | ⟨e, -, hpeek⟩ | ⟨f, rest, hbuf⟩
  · rw [peekHeader_pending hp, tryParsePacket, peekHeader_pending hp]
    rfl
  · rw [hpeek, tryParsePacket, hpeek]
    rfl
  · have hheader : Checked.advance self.buffer f.header.length = .ok (f.body ++ rest) := by
      rw [hbuf, Frame.bytes, List.append_assoc, Checked.advance_ok, List.drop_left]
      rw [List.length_append]
      omega
    have hslice : Checked.slice (f.body ++ rest) 0 f.body.length = .ok f.body := by
      rw [Checked.slice_prefix, List.take_left]
      rw [List.length_append]
      omega
    have hbody : Checked.advance (f.body ++ rest) f.body.length = .ok rest := by
      rw [Checked.advance_ok, List.drop_left]
      rw [List.length_append]
      omega
    rw [tryParsePacket_frame hbuf, parseFrame, hbuf, peekHeader_frame, Checked.ok_bind]
    simp only [← hbuf, hheader, Checked.ok_bind, hslice, bodyBytesChecked_eq]
    cases hbytes : bodyBytes env.flate2 self.compressionThreshold f.body with
    | error e => rfl
    | ok data =>
      cases data with
      | none => rfl
      | some data =>
        have hsafe := (DecodedC2S.safe_decode hsize (by decide) env.serde self.protocol self.state
          data (bodyBytes_length f.fits hbytes)).1
        simp only [hsafe, Checked.ok_bind, hbody]
        cases DecodedC2S.decode env.serde self.protocol self.state data with
        | ok r => rfl
        | error e => rfl

/-! ### Writing frames -/

def S2CPacket.write (serde : Serde) : S2CPacket → Writer Error
  | .v1_20_1 p => V1_20_1.s2c.write serde p
  | .v1_21_1 p => V1_21_1.s2c.write serde p

/-- The framed body, onto a vector. -/
def frameBodyChecked (flate2 : Flate2) (threshold : Option (BitVec 32)) (staging : Bytes) :
    Writer Error := fun framed =>
  match threshold with
  | none => Writer.write staging framed
  | some threshold =>
    if asUsize threshold ≤ staging.length then
      match flate2.deflate staging with
      | .ok compressed =>
        (VarInt.ofUsize staging.length).write.andThen (.write compressed) framed
      | .error e => .ok (.error e.toError)
    else (VarInt.mk 0).write.andThen (.write staging) framed

/-- `&len_buf[..len_bytes]`, once the length is written to a cursor over `len_buf`. -/
def lengthPrefixChecked (framed : Bytes) : Checked (Except Error Bytes) := do
  match ← (VarInt.ofUsize framed.length).write { bytes := [], capacity := 5 } with
  | .error e => .ok (.error e)
  | .ok written =>
    let lenBuf ← Checked.array 5 written.bytes
    let lenBytes ← Checked.slice lenBuf 0 written.bytes.length
    .ok (.ok lenBytes)

/-- `staging` and its capacity are left by the packet before. -/
def outgoingChecked (env : Env) (threshold : Option (BitVec 32)) (capacity : Nat)
    (packet : S2CPacket) : Checked (Except Error Bytes) := do
  match ← packet.write env.serde { bytes := [], capacity := capacity } with
  | .error e => .ok (.error e)
  | .ok staging =>
    let capacity ← Checked.allocate 1 (staging.bytes.length + 5)
    match ← frameBodyChecked env.flate2 threshold staging.bytes
        { bytes := [], capacity := capacity } with
    | .error e => .ok (.error e)
    | .ok framed =>
      match ← lengthPrefixChecked framed.bytes with
      | .error e => .ok (.error e)
      | .ok lenBytes => .ok (.ok (lenBytes ++ framed.bytes))

/-- Deflating at most doubles a buffer, but for a KiB. -/
def Flate2.Bounded (flate2 : Flate2) : Prop :=
  ∀ b compressed, flate2.deflate b = .ok compressed → compressed.length ≤ 2 * b.length + 1024

/-- A packet of vectors of at most one item, and at most `blob` raw bytes. -/
def S2CPacket.Within (blob : Nat) : S2CPacket → Prop
  | .v1_20_1 p => p.1.packet.layout.Within 1 blob p.2
  | .v1_21_1 p => p.1.packet.layout.Within 1 blob p.2

/-- The data files are below 4 GiB, and so is everything else the server writes. -/
def blobLimit : Nat := 2 ^ 32

def stagingLimit : Nat := 2 ^ 40

theorem V1_20_1.s2c_ceiling (v : V1_20_1.s2c.Variant) :
    5 + (V1_20_1.s2c.packet v).layout.ceiling 1 blobLimit ≤ stagingLimit := by
  cases v <;> decide

theorem V1_21_1.s2c_ceiling (v : V1_21_1.s2c.Variant) :
    5 + (V1_21_1.s2c.packet v).layout.ceiling 1 blobLimit ≤ stagingLimit := by
  cases v <;> decide

theorem S2CPacket.write_writes (serde : Serde) {packet : S2CPacket}
    (h : packet.Within blobLimit) :
    Writes (packet.write serde) stagingLimit (packet.encode serde) := by
  cases packet with
  | v1_20_1 p =>
    exact (PacketGroup.write_writes (G := V1_20_1.s2c) serde (p := p) h).mono
      (V1_20_1.s2c_ceiling p.1)
  | v1_21_1 p =>
    exact (PacketGroup.write_writes (G := V1_21_1.s2c) serde (p := p) h).mono
      (V1_21_1.s2c_ceiling p.1)

theorem frameBodyChecked_writes {flate2 : Flate2} (hbounded : flate2.Bounded)
    (threshold : Option (BitVec 32)) (staging : Bytes) :
    Writes (frameBodyChecked flate2 threshold staging) (2 * staging.length + 1029)
      (frameBody flate2 threshold staging) := by
  cases threshold with
  | none => exact (Writes.write staging).mono (by omega)
  | some threshold =>
    unfold frameBodyChecked frameBody
    by_cases hlarge : asUsize threshold ≤ staging.length
    · simp only [if_pos hlarge]
      cases hdeflate : flate2.deflate staging with
      | error e => exact (Writes.fail e.toError).mono (Nat.zero_le _)
      | ok compressed =>
        have hlength := hbounded staging compressed hdeflate
        exact ((VarInt.write_writes _).andThen (Writes.write compressed)).mono (by omega)
    · simp only [if_neg hlarge]
      exact ((VarInt.write_writes _).andThen (Writes.write staging)).mono (by omega)

/-- The length takes at most the five bytes of its buffer. -/
theorem lengthPrefixChecked_eq (framed : Bytes) :
    lengthPrefixChecked framed = .ok (lengthPrefix framed) := by
  obtain ⟨e, he, -⟩ | ⟨bs, capacity, hbs, hlength, hwrite⟩ :=
    (VarInt.write_writes (.ofUsize framed.length)).empty (by decide) 5
  · cases he
  · cases hbs
    rw [lengthPrefixChecked, hwrite, Checked.ok_bind]
    simp only
    rw [Checked.array_ok hlength, Checked.ok_bind, Checked.slice_prefix, List.take_left,
      lengthPrefix_eq]
    · rfl
    · rw [List.length_append]
      omega

/-- A call of `write_packet` leaves no range. -/
theorem outgoingChecked_eq {env : Env} (hbounded : env.flate2.Bounded)
    (threshold : Option (BitVec 32)) (capacity : Nat) {packet : S2CPacket}
    (h : packet.Within blobLimit) :
    outgoingChecked env threshold capacity packet = .ok (outgoing env threshold packet) := by
  rw [outgoingChecked, outgoing]
  obtain ⟨e, he, hwrite⟩ | ⟨staging, capacity', hstaging, hlength, hwrite⟩ :=
    (S2CPacket.write_writes env.serde h).empty (by decide) capacity
  · rw [he, hwrite]
    rfl
  · have hroom : 1 * (staging.length + 5) ≤ isizeMax :=
      Nat.le_trans (by omega) (by decide : stagingLimit + 5 ≤ isizeMax)
    rw [hstaging, hwrite, Checked.ok_bind]
    simp only
    rw [Checked.allocate_ok hroom, Checked.ok_bind]
    have hframe : 2 * (2 * staging.length + 1029) + 8 ≤ isizeMax :=
      Nat.le_trans (by omega) (by decide : 2 * (2 * stagingLimit + 1029) + 8 ≤ isizeMax)
    obtain ⟨e, he, hwrite⟩ | ⟨framed, capacity'', hframed, -, hwrite⟩ :=
      (frameBodyChecked_writes hbounded threshold staging).empty hframe (staging.length + 5)
    · rw [hwrite]
      show _ = Except.ok (do let framed ← frameBody env.flate2 threshold staging; _ : Except _ _)
      rw [he]
      rfl
    · rw [hwrite, Checked.ok_bind]
      simp only
      rw [lengthPrefixChecked_eq, lengthPrefix_eq]
      show _ = Except.ok (do let framed ← frameBody env.flate2 threshold staging; _ : Except _ _)
      rw [hframed]
      show _ = Except.ok (do let lenBytes ← lengthPrefix framed; _ : Except _ _)
      rw [lengthPrefix_eq]
      rfl

/-! ### The packets of the server -/

theorem voidChunkBytes_within : voidChunkBytesV1_20_1.length ≤ blobLimit ∧
    voidChunkBytesV1_21_1.length ≤ blobLimit := by
  decide +kernel

theorem within_status {packet : S2CPacket} (h : packet.state = .status) (blob : Nat) :
    packet.Within blob := by
  cases packet with
  | v1_20_1 p =>
    obtain ⟨v, x⟩ := p
    cases v <;> first | exact Layout.within_of_fixed rfl 1 blob _ | cases h
  | v1_21_1 p =>
    obtain ⟨v, x⟩ := p
    cases v <;> first | exact Layout.within_of_fixed rfl 1 blob _ | cases h

/-- The embedded data files are below 4 GiB. -/
def Env.DataBounded (env : Env) : Prop := ∀ path, (env.includeBytes path).length ≤ blobLimit

theorem configurationBurst_within {env : Env} (h : env.DataBounded) :
    ∀ q ∈ configurationBurst env, q.Within blobLimit := by
  have hregistry : ∀ entry ∈ V1_21_1.registries.all env.includeBytes,
      entry.2.length ≤ blobLimit := by
    intro entry hentry
    simp only [V1_21_1.registries.all, List.mem_cons, List.not_mem_nil, or_false] at hentry
    rcases hentry with rfl | rfl | rfl | rfl | rfl | rfl | rfl | rfl | rfl | rfl | rfl <;>
      exact h _
  intro q hq
  simp only [configurationBurst, List.mem_append, List.mem_cons, List.mem_map,
    List.not_mem_nil, or_false] at hq
  rcases hq with ((rfl | rfl) | ⟨entry, hentry, rfl⟩) | rfl | rfl | rfl
  · exact ⟨trivial, (by decide +kernel : V1_21_1.brandBytes.length ≤ blobLimit), trivial⟩
  · exact ⟨⟨Nat.le_refl 1, fun _ _ => trivial⟩, trivial⟩
  · exact ⟨trivial, hregistry entry hentry, trivial⟩
  · exact ⟨⟨Nat.zero_le 1, fun _ hx => absurd hx List.not_mem_nil⟩, trivial⟩
  · exact ⟨⟨Nat.le_refl 1, fun x _ => Layout.within_of_fixed rfl 1 blobLimit x⟩, trivial⟩
  · trivial

/-- Beside packets of fixed size there are the login with its dimensions and
registries, and the chunk. -/
theorem playBurst_within {env : Env} (h : env.DataBounded) (config : ServerConfig)
    (protocol : ProtocolKind) : ∀ q ∈ playBurst env config protocol, q.Within blobLimit := by
  intro q hq
  cases protocol with
  | v1_20_1 =>
    simp only [playBurst, List.mem_cons, List.not_mem_nil, or_false] at hq
    rcases hq with rfl | rfl | rfl | rfl | rfl | rfl | rfl | rfl <;>
      try exact Layout.within_of_fixed rfl 1 blobLimit _
    · refine ⟨trivial, trivial, trivial, trivial, ⟨Nat.le_refl 1, fun _ _ => trivial⟩, h _,
        trivial, trivial, trivial, trivial, trivial, trivial, trivial, trivial, trivial, trivial,
        fun _ hdeath => ?_, trivial, trivial⟩
      cases hdeath
    · exact ⟨voidChunkBytes_within.1, trivial⟩
  | v1_21_1 =>
    simp only [playBurst, List.mem_cons, List.not_mem_nil, or_false] at hq
    rcases hq with rfl | rfl | rfl | rfl | rfl | rfl | rfl | rfl | rfl | rfl <;>
      try exact Layout.within_of_fixed rfl 1 blobLimit _
    · exact ⟨trivial, trivial, ⟨Nat.le_refl 1, fun _ _ => trivial⟩,
        Layout.within_of_fixed rfl 1 blobLimit _⟩
    · exact ⟨voidChunkBytes_within.2, trivial⟩

theorem keepAlive_within (protocol : ProtocolKind) (id : BitVec 64) (blob : Nat) :
    (keepAlive protocol id).Within blob := by
  cases protocol <;> exact Layout.within_of_fixed rfl 1 blob _

namespace Setup

variable {S : Setup}

theorem acceptance_within {name : String} {protocol : ProtocolKind} {answer : S2CPacket}
    (h : .send answer ∈ S.acceptance name protocol) : answer.Within blobLimit := by
  rcases mem_acceptance h with rfl | rfl
  · cases protocol <;> exact Layout.within_of_fixed rfl 1 blobLimit _
  · cases protocol <;>
      exact ⟨trivial, trivial, ⟨Nat.zero_le 1, fun _ hx => absurd hx List.not_mem_nil⟩,
        Layout.within_of_fixed rfl 1 blobLimit _⟩

/-- Everything the server sends is within the limits. -/
theorem Scripted.within (hdata : S.env.DataBounded) {state : State} {packet : DecodedC2S}
    {effects : List Effect} {answer : S2CPacket} (h : Scripted S state packet effects)
    (hmem : .send answer ∈ effects) : answer.Within blobLimit := by
  have hentering : ∀ {next : State} {burst : List S2CPacket},
      (∀ q ∈ burst, q.Within blobLimit) → .send answer ∈ entering next burst →
        answer.Within blobLimit := by
    intro next burst hburst hin
    rcases List.mem_cons.mp hin with heq | hsend
    · cases heq
    · obtain ⟨q, hq, hqa⟩ := List.mem_map.mp hsend
      cases hqa
      exact hburst answer hq
  cases h with
  | handshake _ => cases List.mem_singleton.mp hmem
  | reply _ hanswer =>
    cases List.mem_singleton.mp hmem
    exact within_status hanswer blobLimit
  | rejected _ _ =>
    cases List.mem_singleton.mp hmem
    cases S.protocol <;> exact Layout.within_of_fixed rfl 1 blobLimit _
  | joined _ _ _ =>
    rcases List.mem_append.mp hmem with haccept | henter
    · exact acceptance_within haccept
    · exact hentering (playBurst_within hdata S.config .v1_20_1) henter
  | accepted _ _ _ => exact acceptance_within hmem
  | acknowledged _ _ => exact hentering (configurationBurst_within hdata) hmem
  | finished _ => exact hentering (playBurst_within hdata S.config .v1_21_1) hmem
  | ignored _ => cases hmem

/-- In a run of the server every packet handed to `write_packet` is within the limits. -/
theorem Trace.within (hdata : S.env.DataBounded) {history pre post : List Action}
    {action : Action} {packet : S2CPacket} (h : S.Trace history)
    (heq : history = pre ++ action :: post) (heffect : action.effect = some (.send packet)) :
    packet.Within blobLimit := by
  rcases h.at_effect heffect heq with ⟨-, -, id, hkeep⟩ | ⟨past, received, before, after, -, -,
    hadmits, hscript⟩
  · cases hkeep
    exact keepAlive_within S.protocol id blobLimit
  · refine (hadmits.scripted hscript).within hdata ?_
    exact List.mem_append_right _ List.mem_cons_self

/-! ### Runs -/

/-- What the connection does with a buffer, and what it has written, is within range.
`size` gives the sizes of the types in memory. -/
structure InRange (S : Setup) (size : Layout → Nat) (m : Machine) : Prop where
  /-- `try_parse_packet` on any buffer. -/
  parses : ∀ buffer, tryParsePacketChecked size S.env { m.conn with buffer := buffer } =
    .ok (tryParsePacket S.env { m.conn with buffer := buffer })
  /-- Each call of `write_packet`, whatever the capacity of `staging`. -/
  writes : ∀ pre action post packet, m.history = pre ++ action :: post →
    action.effect = some (.send packet) → ∀ capacity,
    outgoingChecked S.env (thresholdAfter pre) capacity packet =
      .ok (outgoing S.env (thresholdAfter pre) packet)
  /-- `Ok(Some(_))` removes bytes. -/
  shrinks : ∀ buffer packet,
    (tryParsePacket S.env { m.conn with buffer := buffer }).1 = .ok (some packet) →
    (tryParsePacket S.env { m.conn with buffer := buffer }).2.buffer.length < buffer.length
  /-- The drain loop ends. -/
  drains : ∀ buffer, ∃ k ≤ buffer.length + 1,
    (({ m with world := m.world.withBuffer buffer, phase := .draining }).exec S.env
      (List.replicate k .advance)).phase ≠ .draining

theorem run_inRange (S : Setup) {size : Layout → Nat} (hsize : ∀ t, size t ≤ t.footprint)
    (hdata : S.env.DataBounded) (hbounded : S.env.flate2.Bounded)
    (fault : Nat → Option Fault) (inputs : List Input) :
    S.InRange size (S.run fault inputs) :=
  { parses := fun _ => tryParsePacketChecked_eq hsize S.env _,
    writes := fun _ _ _ _ heq heffect capacity =>
      outgoingChecked_eq hbounded _ capacity ((refines_run S fault inputs).trace.within hdata heq
        heffect),
    shrinks := fun _ _ h => tryParsePacket_shrinks h,
    drains := fun buffer => drain_ends S.env
      { S.run fault inputs with
          world := (S.run fault inputs).world.withBuffer buffer, phase := .draining } }

/-- A compression threshold of -1, which as a `usize` no packet reaches. -/
def negativeThreshold : Setup :=
  { Setup.bare .v1_20_1 true with
    config := { ServerConfig.default with compression := { enabled := true, threshold := -1 } } }

/-- After a login, a frame with the Data Length -1. -/
def negativeDataLength : List Input :=
  joining ++ [.read (.ok [6, 0xff, 0xff, 0xff, 0xff, 0x0f, 0]), .advance]

theorem negativeDataLength_inRange :
    negativeThreshold.InRange Layout.footprint
      (negativeThreshold.run (fun _ => none) negativeDataLength) := by
  refine run_inRange negativeThreshold (fun t => Nat.le_refl _) (fun _ => Nat.zero_le _) ?_
    (fun _ => none) negativeDataLength
  intro b compressed h
  cases h
  omega

end Setup

end Statik
