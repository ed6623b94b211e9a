import Statik.Server.Frame

/-!
# More data

What `try_parse_packet` makes of a buffer that has grown: once it has come to a
result, or taken a byte, it does the same with whatever follows.
-/

namespace Statik

open Wire

/-- The connection with more bytes behind those in its buffer. -/
def Connection.append (self : Connection) (more : Bytes) : Connection :=
  { self with buffer := self.buffer ++ more }

/-- The call fails, returns a packet, or takes bytes off the buffer. -/
def Decided (env : Env) (self : Connection) : Prop :=
  (∃ e, (tryParsePacket env self).1 = .error e) ∨
  (∃ packet, (tryParsePacket env self).1 = .ok (some packet)) ∨
  (tryParsePacket env self).2.buffer ≠ self.buffer

/-- A malformed header stays one. -/
theorem peekHeader_append_error {b : Bytes} {e : Error} (h : peekHeader b = .error e)
    (more : Bytes) : peekHeader (b ++ more) = .error e := by
  cases hdecode : VarInt.decode b with
  | error e' =>
    rw [peekHeader, hdecode] at h
    simp only at h
    split at h
    · cases h
    · next heof =>
      have hover : VarInt.Overlong b := by
        rcases VarInt.input_cases b with hp | ho | ⟨used, rest, rfl, ht⟩
        · exact absurd ((VarInt.decode_eof_iff hdecode).mpr hp) heof
        · exact ho
        · obtain ⟨v, hv⟩ := ht.reads
          rw [hv rest] at hdecode
          cases hdecode
      have hover' : VarInt.Overlong (b ++ more) := by
        refine ⟨Nat.le_trans hover.1 (by rw [List.length_append]; omega), fun x hx => ?_⟩
        rw [List.take_append_of_le_length hover.1] at hx
        exact hover.2 x hx
      rw [VarInt.decode_of_overlong hover] at hdecode
      rw [peekHeader, VarInt.decode_of_overlong hover', Except.error.inj hdecode]
      simp only
      rw [if_neg heof, Except.error.inj h]
  | ok r =>
    obtain ⟨used, rfl, hread⟩ := VarInt.decode_delimits b r.2 r.1 hdecode
    rw [peekHeader, hdecode] at h
    rw [List.append_assoc, peekHeader, hread]
    simp only at h ⊢
    split at h
    · next hneg =>
      rw [if_pos hneg]
      split at h
      · split at h <;> cases h
      · next hmax =>
        rw [if_neg hmax]
        exact h
    · next hneg =>
      rw [if_neg hneg]
      exact h

/-- The beginning of a frame is pending. -/
theorem Frame.pending_cut {f : Frame} {b more : Bytes} (h : b ++ more = f.bytes)
    (hmore : more ≠ []) : Pending b := by
  have hframe := peekHeader_frame f []
  rw [List.append_nil, ← h] at hframe
  rcases peekHeader_cases b with hp | ⟨e, -, he⟩ | ⟨f', rest, rfl⟩
  · exact hp
  · rw [peekHeader_append_error he] at hframe
    cases hframe
  · rw [List.append_assoc, peekHeader_frame] at hframe
    obtain ⟨hheader, hbody⟩ := Prod.mk.inj (Option.some.inj (Except.ok.inj hframe))
    have hlength := congrArg List.length h
    simp only [Frame.bytes, List.length_append] at hlength
    have hpos := List.length_pos_of_ne_nil hmore
    omega

/-- A whole frame is not. -/
theorem Frame.not_pending (f : Frame) (rest : Bytes) : ¬ Pending (f.bytes ++ rest) := by
  intro hp
  have hpeek := peekHeader_frame f rest
  rw [peekHeader_pending hp] at hpeek
  cases hpeek

/-- A beginning of a stream of frames is pending, or begins with the first frame. -/
theorem pending_or_frame {b : Bytes} {frames : List Frame}
    (h : b <+: (frames.map Frame.bytes).flatten) :
    Pending b ∨ ∃ f later rest, frames = f :: later ∧ b = f.bytes ++ rest ∧
      rest <+: (later.map Frame.bytes).flatten := by
  cases frames with
  | nil =>
    rw [List.prefix_nil.mp h]
    exact .inl (.inl ⟨by decide, fun x hx => absurd hx List.not_mem_nil⟩)
  | cons f later =>
    rw [List.map_cons, List.flatten_cons] at h
    rcases List.prefix_or_prefix_of_prefix h (List.prefix_append f.bytes _) with hcut | hwhole
    · obtain ⟨more, hmore⟩ := hcut
      by_cases hnil : more = []
      · refine .inr ⟨f, later, [], rfl, ?_, List.nil_prefix⟩
        rw [← hmore, hnil, List.append_nil, List.append_nil]
      · exact .inl (f.pending_cut hmore hnil)
    · obtain ⟨rest, rfl⟩ := hwhole
      exact .inr ⟨f, later, rest, rfl, rfl, (List.prefix_append_right_inj _).mp h⟩

/-- The bytes behind a frame stay behind it. -/
theorem parseFrame_append (env : Env) (self : Connection) (body rest more : Bytes) :
    parseFrame env (self.append more) body (rest ++ more) =
      ((parseFrame env self body rest).1, (parseFrame env self body rest).2.append more) := by
  simp only [parseFrame, Connection.append, ← List.append_assoc]
  cases bodyBytes env.flate2 self.compressionThreshold body with
  | error e => rfl
  | ok data =>
    cases data with
    | none => rfl
    | some data =>
      simp only
      cases DecodedC2S.decode env.serde self.protocol self.state data with
      | ok r => rfl
      | error e =>
        by_cases hskip : self.state.skipsUndecodable = true <;> simp only [hskip] <;> rfl

/-- A frame that is parsed leaves fewer bytes behind. -/
theorem parseFrame_length_lt (env : Env) (self : Connection) (f : Frame) (rest : Bytes) :
    (parseFrame env self f.body rest).2.buffer.length < (f.bytes ++ rest).length := by
  have hpos := List.length_pos_of_ne_nil f.terminated.ne_nil
  have hcases : (parseFrame env self f.body rest).2.buffer = f.body ++ rest ∨
      (parseFrame env self f.body rest).2.buffer = rest := by
    rw [parseFrame]
    split
    · exact .inl rfl
    · exact .inl rfl
    · split
      · exact .inr rfl
      · split
        · exact .inr rfl
        · exact .inr rfl
  rcases hcases with h | h <;> rw [h, Frame.bytes] <;> simp only [List.length_append] <;> omega

/-- A call that has come to something comes to the same with more data, and leaves
the new bytes behind what it leaves.  A call comes to nothing where the buffer is
the mere beginning of a frame. -/
theorem tryParsePacket_stable (env : Env) (self : Connection) :
    (∀ more, Decided env self → tryParsePacket env (self.append more) =
      ((tryParsePacket env self).1, (tryParsePacket env self).2.append more)) ∧
    (tryParsePacket env self = (.ok none, self) ↔ Pending self.buffer) := by
  rcases peekHeader_cases self.buffer with hp | ⟨e, -, hpeek⟩ | ⟨f, rest, hbuffer⟩
  · have hcall : tryParsePacket env self = (.ok none, self) := by
      rw [tryParsePacket, peekHeader_pending hp]
    refine ⟨fun more hdecided => ?_, fun _ => hp, fun _ => hcall⟩
    rw [Decided, hcall] at hdecided
    rcases hdecided with ⟨e, he⟩ | ⟨packet, hpacket⟩ | hsame
    · cases he
    · cases hpacket
    · exact absurd rfl hsame
  · have hcall : ∀ more, tryParsePacket env (self.append more) =
        (.error e, self.append more) := by
      intro more
      rw [tryParsePacket, show peekHeader (self.append more).buffer = _ from
        peekHeader_append_error hpeek more]
    have hself : tryParsePacket env self = (.error e, self) := by rw [tryParsePacket, hpeek]
    refine ⟨fun more _ => by rw [hcall more, hself], fun h => ?_, fun hp => ?_⟩
    · rw [hself] at h
      cases h
    · rw [peekHeader_pending hp] at hpeek
      cases hpeek
  · have hcall : tryParsePacket env self = _ := tryParsePacket_frame hbuffer
    refine ⟨fun more _ => ?_, fun h => ?_, fun hp => ?_⟩
    · have hbuffer' : (self.append more).buffer = f.bytes ++ (rest ++ more) := by
        rw [← List.append_assoc, ← hbuffer]
        rfl
      rw [tryParsePacket_frame hbuffer', parseFrame_append, ← hcall]
    · have hlt := parseFrame_length_lt env self f rest
      rw [← hcall, h, hbuffer] at hlt
      exact absurd hlt (Nat.lt_irrefl _)
    · rw [hbuffer] at hp
      exact absurd hp (f.not_pending rest)

end Statik
