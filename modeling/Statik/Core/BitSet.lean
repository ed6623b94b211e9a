import Statik.Core.Checked

/-!
# BitSet

A `BitSet` has the wire format of a `Vec<i64>` and a codec of its own, which neither
checks the length it writes nor the one it reads.
-/

namespace Statik

open Wire

/-- `BitSet`. -/
structure BitSet where
  data : List (BitVec 64)
  deriving DecidableEq, Repr

/-- `Encode for i64`, and `Decode for i64`. -/
abbrev encodeI64 (v : BitVec 64) : Except Error Bytes := .ok (encodeInt 8 v)

abbrev decodeI64 : Decoder Error (BitVec 64) := decodeInt 8

namespace BitSet

def encode (self : BitSet) : Except Error Bytes :=
  match encodeMany encodeI64 self.data with
  | .ok bs => .ok ((VarInt.ofUsize self.data.length).encode ++ bs)
  | .error e => .error e

/-- What an allocator that gives no more than `memory` bytes at once can be asked for. -/
abbrev room (memory : Nat) : Nat := min memory isizeMax

/-- The capacity is the length read, whatever it is, and a huge one where that is
negative. -/
def decode (memory : Nat) : CheckedDecoder Error BitSet := do
  let len ← VarInt.decodeChecked
  let capacity ← .check (Checked.allocateWithin (room memory) 8 (asUsize len.val))
  let data ← manyWithin (room memory) 8 (.of decodeI64) (asUsize len.val) capacity 0
  pure { data := data }

/-- `Vec::<i64>::decode`, with the same allocator. -/
def decodeVecI64 (memory : Nat) : CheckedDecoder Error (List (BitVec 64)) :=
  decodeVecWithin (room memory) 8 (.of decodeI64)

/-- The count in front of the slots is not negative, the allocator gives so many slots at
once, and as many as the `Vec` doubles its first 262144 to for the slots that are there. -/
def Reservable (memory : Nat) (b : Bytes) : Prop :=
  ∀ len rest, VarInt.decode b = .ok (len, rest) →
    0 ≤ len.val.toInt ∧ 8 * len.val.toNat ≤ memory ∧
      Doubles memory 8 (maxPacketSize / 8) (min len.val.toNat (rest.length / 8))

/-- The bytes of a `BitSet` are those of the `Vec`, or its refusal. -/
def EncodesAlike (slots : List (BitVec 64)) : Prop :=
  encode { data := slots } = encodeVec encodeI64 slots

/-- The `BitSet` and the `Vec` are both refused, or both read with the same slots and
the same remainder. -/
def DecodesAlike (memory : Nat) (b : Bytes) : Prop :=
  let bitSet : Checked (Except Error (BitSet × Bytes)) := decode memory b
  let vec : Checked (Except Error (List (BitVec 64) × Bytes)) := decodeVecI64 memory b
  (∃ e e', bitSet = .ok (.error e) ∧ vec = .ok (.error e')) ∨
    ∃ slots rest, bitSet = .ok (.ok ({ data := slots }, rest)) ∧ vec = .ok (.ok (slots, rest))

theorem encodeMany_i64 (slots : List (BitVec 64)) :
    ∃ bs, encodeMany encodeI64 slots = .ok bs := by
  induction slots with
  | nil => exact ⟨[], rfl⟩
  | cons slot slots ih =>
    obtain ⟨bs, hbs⟩ := ih
    exact ⟨encodeInt 8 slot ++ bs, by rw [encodeMany, hbs]; rfl⟩

theorem encodesAlike_iff (slots : List (BitVec 64)) :
    EncodesAlike slots ↔ slots.length ≤ i32Max := by
  obtain ⟨bs, hbs⟩ := encodeMany_i64 slots
  rw [EncodesAlike, encode, encodeVec, hbs]
  by_cases h : slots.length ≤ i32Max
  · simp [h]
  · simp [h]

theorem fixedWidth_decodeI64 : FixedWidth 8 decodeI64 := by
  intro b
  by_cases hb : 8 ≤ b.length
  · rw [if_pos hb]
    refine ⟨BitVec.ofNat 64 (beNat (b.take 8)), ?_⟩
    rw [decodeI64, decodeInt, Decoder.bind_apply, takeBytes, if_pos hb]
    rfl
  · rw [if_neg hb]
    refine ⟨.io .unexpectedEof, ?_⟩
    rw [decodeI64, decodeInt, Decoder.bind_apply, takeBytes, if_neg hb]

theorem asUsize_count {len : BitVec 32} (h : 0 ≤ len.toInt) : asUsize len = len.toNat := by
  have hmax := toNat_le_i32Max h
  exact asUsize_of_nonneg (by unfold i32Max at hmax; omega)

/-- Counts and their doublings are far from the range's end. -/
theorem le_room {memory bytes : Nat} (h : bytes ≤ 32 * i32Max) :
    bytes ≤ room memory ↔ bytes ≤ memory := by
  have hrange : 32 * i32Max ≤ isizeMax := by decide
  rw [room, Nat.le_min]
  exact and_iff_left (Nat.le_trans h hrange)

theorem doubles_room {memory needed : Nat} (h : needed ≤ i32Max) :
    Doubles (room memory) 8 (maxPacketSize / 8) needed ↔
      Doubles memory 8 (maxPacketSize / 8) needed := by
  refine forall_congr' fun j => forall_congr' fun hj => le_room ?_
  calc 8 * (maxPacketSize / 8 * 2 ^ (j + 1))
      = 16 * (maxPacketSize / 8 * 2 ^ j) := by
        rw [Nat.pow_succ, ← Nat.mul_assoc (maxPacketSize / 8)]
        omega
    _ ≤ 32 * i32Max := by omega

/-- Slots there is room for need no more of it. -/
theorem safe_slots (memory limit n : Nat) :
    Safe limit (manyWithin (room memory) 8 (.of decodeI64) n n 0) (many decodeI64 n) :=
  (Safe.of (decodeInt_delimits 8)).many_reserved n n 0 (by omega)

section

variable {memory : Nat} {b rest : Bytes} {len : VarInt}

/-- A negative count is more than an allocation can have. -/
theorem not_le_room (h : ¬ (0 ≤ len.val.toInt ∧ 8 * len.val.toNat ≤ memory)) :
    ¬ 8 * asUsize len.val ≤ room memory := by
  by_cases hneg : 0 ≤ len.val.toInt
  · have hmax := toNat_le_i32Max hneg
    rw [asUsize_count hneg, le_room (by omega)]
    exact fun hle => h ⟨hneg, hle⟩
  · have hhuge : ¬ 8 * asUsize len.val ≤ isizeMax := by
      have hsigned : (len.val.signExtend 64).toInt = len.val.toInt :=
        BitVec.toInt_signExtend_of_le (by omega)
      have hword := (len.val.signExtend 64).isLt
      rw [BitVec.toInt_eq_toNat_cond] at hsigned
      unfold asUsize isizeMax
      split at hsigned <;> omega
    exact fun hle => hhuge (Nat.le_trans hle (Nat.min_le_right _ _))

/-- The process ends at the reservation. -/
theorem decode_unreserved (hcount : VarInt.decode b = .ok (len, rest))
    (h : ¬ (0 ≤ len.val.toInt ∧ 8 * len.val.toNat ≤ memory)) :
    ∃ bytes, decode memory b = (.error (.allocation bytes) : Checked _) := by
  refine ⟨8 * asUsize len.val, ?_⟩
  rw [decode, CheckedDecoder.bind_apply, VarInt.decodeChecked_eq, hcount]
  simp only
  rw [CheckedDecoder.bind_apply, Checked.allocateWithin_error (not_le_room h)]
  rfl

/-- Nothing is reserved after the capacity the slots have room in. -/
theorem decode_reserved (hcount : VarInt.decode b = .ok (len, rest)) (hneg : 0 ≤ len.val.toInt)
    (hroom : 8 * len.val.toNat ≤ memory) :
    decode memory b =
      (.ok ((BitSet.mk <$> many decodeI64 len.val.toNat) rest) : Checked _) := by
  have hmax := toNat_le_i32Max hneg
  have hallocate : Checked.allocateWithin (room memory) 8 len.val.toNat = .ok len.val.toNat :=
    Checked.allocateWithin_ok ((le_room (by omega)).mpr hroom)
  rw [decode, CheckedDecoder.bind_apply, VarInt.decodeChecked_eq, hcount]
  simp only
  rw [asUsize_count hneg, map_eq_pure_bind]
  exact (Safe.check hallocate ((safe_slots memory rest.length len.val.toNat).bind fun data =>
    Safe.pure (BitSet.mk data)) rest (Nat.le_refl _)).1

/-- The `Vec` begins with a packet's worth of slots at most, and doubles from there. -/
theorem decodeVec_slots (hcount : VarInt.decode b = .ok (len, rest)) (hneg : 0 ≤ len.val.toInt)
    (hroom : 8 * len.val.toNat ≤ memory) :
    (Doubles memory 8 (maxPacketSize / 8) (min len.val.toNat (rest.length / 8)) →
      decodeVecI64 memory b = (.ok (many decodeI64 len.val.toNat rest) : Checked _)) ∧
    (¬ Doubles memory 8 (maxPacketSize / 8) (min len.val.toNat (rest.length / 8)) →
      ∃ bytes, decodeVecI64 memory b = (.error (.allocation bytes) : Checked _)) := by
  have hmax := toNat_le_i32Max hneg
  have hcap : 8 * min (maxPacketSize / 8) len.val.toNat ≤ room memory :=
    (le_room (by omega)).mpr (by omega)
  have hdecode : decodeVecI64 memory b = (manyWithin (room memory) 8 (.of decodeI64)
      len.val.toNat (min (maxPacketSize / 8) len.val.toNat) 0 rest : Checked _) := by
    rw [decodeVecI64, decodeVecWithin, CheckedDecoder.bind_apply, VarInt.decodeChecked_eq, hcount]
    simp only [if_pos hneg]
    rw [asUsize_count hneg, Nat.max_eq_left (by decide : 1 ≤ 8), CheckedDecoder.bind_apply,
      Checked.allocateWithin_ok hcap]
    rfl
  rw [hdecode]
  by_cases hfew : len.val.toNat ≤ maxPacketSize / 8
  · rw [Nat.min_eq_right hfew]
    refine ⟨fun _ => (safe_slots memory rest.length len.val.toNat rest (Nat.le_refl _)).1,
      fun hnot => absurd (Doubles.of_le ?_) hnot⟩
    exact Nat.le_trans (Nat.min_le_left _ _) hfew
  · have hlimit : min (maxPacketSize / 8) len.val.toNat = maxPacketSize / 8 :=
      Nat.min_eq_left (by omega)
    rw [hlimit, ← doubles_room (Nat.le_trans (Nat.min_le_left _ _) hmax)]
    have hfixed := manyWithin_fixed (room memory) 8 fixedWidth_decodeI64 (by decide)
      len.val.toNat (maxPacketSize / 8) 0 (by decide) (by decide) rest
    rwa [Nat.zero_add] at hfixed

end

/-- One of the two codecs ends the process. -/
theorem not_decodesAlike {memory : Nat} {b : Bytes}
    (h : (∃ bytes, decode memory b = (.error (.allocation bytes) : Checked _)) ∨
      ∃ bytes, decodeVecI64 memory b = (.error (.allocation bytes) : Checked _)) :
    ¬ DecodesAlike memory b := by
  rintro (⟨e, e', hbitSet, hvec⟩ | ⟨slots, rest, hbitSet, hvec⟩)
  · rcases h with ⟨bytes, h⟩ | ⟨bytes, h⟩
    · cases h.symm.trans hbitSet
    · cases h.symm.trans hvec
  · rcases h with ⟨bytes, h⟩ | ⟨bytes, h⟩
    · cases h.symm.trans hbitSet
    · cases h.symm.trans hvec

theorem decodesAlike_iff (memory : Nat) (b : Bytes) :
    DecodesAlike memory b ↔ Reservable memory b := by
  cases hcount : VarInt.decode b with
  | error e =>
    have hbitSet : decode memory b = (.ok (.error e) : Checked _) := by
      rw [decode, CheckedDecoder.bind_apply, VarInt.decodeChecked_eq, hcount]
    have hvec : decodeVecI64 memory b = (.ok (.error e) : Checked _) := by
      rw [decodeVecI64, decodeVecWithin, CheckedDecoder.bind_apply, VarInt.decodeChecked_eq, hcount]
    refine iff_of_true (.inl ⟨e, e, hbitSet, hvec⟩) fun len rest h => ?_
    cases hcount.symm.trans h
  | ok r =>
    obtain ⟨len, rest⟩ := r
    have hthis : Reservable memory b ↔ 0 ≤ len.val.toInt ∧ 8 * len.val.toNat ≤ memory ∧
        Doubles memory 8 (maxPacketSize / 8) (min len.val.toNat (rest.length / 8)) := by
      refine ⟨fun h => h len rest hcount, fun h len' rest' hcount' => ?_⟩
      cases hcount.symm.trans hcount'
      exact h
    rw [hthis]
    by_cases hcapacity : 0 ≤ len.val.toInt ∧ 8 * len.val.toNat ≤ memory
    · obtain ⟨hneg, hroom⟩ := hcapacity
      obtain ⟨hgrows, hfull⟩ := decodeVec_slots hcount hneg hroom
      rw [and_iff_right hneg, and_iff_right hroom]
      refine ⟨fun halike => ?_, fun hdoubles => ?_⟩
      · by_contra hdoubles
        exact not_decodesAlike (.inr (hfull hdoubles)) halike
      · have hbitSet := decode_reserved hcount hneg hroom
        have hvec := hgrows hdoubles
        rw [Decoder.map_apply] at hbitSet
        cases hslots : many decodeI64 len.val.toNat rest with
        | error e =>
          rw [hslots] at hbitSet hvec
          exact .inl ⟨e, e, hbitSet, hvec⟩
        | ok r =>
          rw [hslots] at hbitSet hvec
          exact .inr ⟨r.1, r.2, hbitSet, hvec⟩
    · refine iff_of_false (not_decodesAlike (.inl (decode_unreserved hcount hcapacity))) fun h => ?_
      exact hcapacity ⟨h.1, h.2.1⟩

/-- The two codecs agree on the slots of no more than `i32::MAX`, and on the bytes
whose count is not negative and whose reservations the allocator meets, and on no
others. -/
theorem alike_iff (memory : Nat) (slots : List (BitVec 64)) (b : Bytes) :
    (EncodesAlike slots ↔ slots.length ≤ i32Max) ∧
    (DecodesAlike memory b ↔ Reservable memory b) :=
  ⟨encodesAlike_iff slots, decodesAlike_iff memory b⟩

/-- The count is -1, and `i32::MAX`, more than 8 GiB hold. -/
theorem minusOne_not_alike :
    ¬ DecodesAlike isizeMax [0xff, 0xff, 0xff, 0xff, 0x0f] ∧
    ¬ DecodesAlike (2 ^ 33) [0xff, 0xff, 0xff, 0xff, 0x07] := by
  constructor
  · rw [decodesAlike_iff]
    intro h
    exact absurd (h ⟨0xffffffff⟩ [] rfl).1 (by decide)
  · rw [decodesAlike_iff]
    intro h
    exact absurd (h ⟨0x7fffffff⟩ [] rfl).2.1 (by decide)

end BitSet

end Statik
