import Mathlib.Data.Int.Bitwise
import Statik.Core.VarInt
import Statik.Proto.Common
import Statik.Wire.Leb128

/-!
# The writers of VarInts

`encode_varint` of the build tool, on Python's unbounded integers, beside the two Rust
writers.  Each of the loops writes the LEB128 form of the `u32` with the bits of the
number.
-/

namespace Statik

open Wire

namespace BuildRegistryNbt

/-- `n` where the loop of `encode_varint` begins. -/
def encodeVarintStart (n : Int) : Int := if n < 0 then Int.land n 0xFFFFFFFF else n

/-- A round of the loop of `encode_varint`. -/
def encodeVarintRound (n : Int) : Byte × Option Int :=
  let b := BitVec.ofInt 8 (Int.land n 0x7F)
  let n := n >>> 7
  if n ≠ 0 then (b ||| 0x80, some n) else (b, none)

/-- The loop of `encode_varint`, on a number that is not negative. -/
def encodeVarintLoop (n : Nat) : Bytes :=
  let b := BitVec.ofNat 8 (n &&& 0x7F)
  if n >>> 7 ≠ 0 then (b ||| 0x80) :: encodeVarintLoop (n >>> 7) else [b]
termination_by n
decreasing_by
  rw [Nat.shiftRight_eq_div_pow] at *
  omega

def encodeVarint (n : Int) : Bytes := encodeVarintLoop (encodeVarintStart n).toNat

end BuildRegistryNbt

/-- A round of the loop of `encode`. -/
def VarInt.encodeRound (value : BitVec 32) : Byte × Option (BitVec 32) :=
  let part := value.setWidth 8
  let value := value >>> 7
  if value = 0 then (part &&& 0x7f, none) else (part ||| 0x80, some value)

/-- A round of the loop of `write_var_int`. -/
def chunkPayload.writeVarIntRound (value : BitVec 32) : Byte × Option (BitVec 32) :=
  if value &&& ~~~0x7f = 0 then (value.setWidth 8, none)
  else ((value &&& 0x7f ||| 0x80).setWidth 8, some (value >>> 7))

/-! ### The Rust writers -/

theorem VarInt.encodeRound_last {value : BitVec 32} (h : value.toNat < 128) :
    encodeRound value = (BitVec.ofNat 8 value.toNat, none) := by
  have hlast : (value.setWidth 8 &&& 0x7f : Byte) = BitVec.ofNat 8 value.toNat := by
    apply BitVec.eq_of_toNat_eq
    rw [toNat_last, BitVec.toNat_ofNat]
    omega
  rw [encodeRound, if_pos ((shift_eq_zero value).mpr h), hlast]

theorem VarInt.encodeRound_more {value : BitVec 32} (h : 128 ≤ value.toNat) :
    encodeRound value = (BitVec.ofNat 8 (value.toNat % 128 + 128), some (value >>> 7)) := by
  have hmore : (value.setWidth 8 ||| 0x80 : Byte) = BitVec.ofNat 8 (value.toNat % 128 + 128) := by
    apply BitVec.eq_of_toNat_eq
    rw [toNat_more, BitVec.toNat_ofNat]
    omega
  rw [encodeRound, if_neg fun h0 => by have := (shift_eq_zero value).mp h0; omega, hmore]

namespace chunkPayload

theorem highBits_getLsbD (value : BitVec 32) {i : Nat} (h : i < 32) :
    (value &&& ~~~0x7f).getLsbD i = (value.getLsbD i && !decide (i < 7)) := by
  have hmask : (0x7f : BitVec 32).getLsbD i = decide (i < 7) := by
    show (BitVec.ofNat 32 (2 ^ 7 - 1)).getLsbD i = _
    rw [BitVec.getLsbD_ofNat, Nat.testBit_two_pow_sub_one, ← Bool.decide_and]
    exact decide_eq_decide.mpr ⟨fun hi => hi.2, fun hi => ⟨h, hi⟩⟩
  rw [BitVec.getLsbD_and, BitVec.getLsbD_not, hmask, decide_eq_true h, Bool.true_and]

/-- The high bits are zero where the shifted value is. -/
theorem highBits_eq_zero (value : BitVec 32) : value &&& ~~~0x7f = 0 ↔ value >>> 7 = 0 := by
  constructor
  · intro h
    apply BitVec.eq_of_getLsbD_eq
    intro i hi
    rw [BitVec.getLsbD_ushiftRight]
    by_cases hlast : 7 + i < 32
    · have hbit := highBits_getLsbD value hlast
      rw [h] at hbit
      simpa [show ¬ 7 + i < 7 by omega] using hbit.symm
    · rw [BitVec.getLsbD_of_ge value _ (by omega)]
      simp
  · intro h
    apply BitVec.eq_of_getLsbD_eq
    intro i hi
    rw [highBits_getLsbD value hi]
    by_cases hlow : i < 7
    · simp [hlow]
    · have hbit := BitVec.getLsbD_ushiftRight value 7 (i - 7)
      rw [h, show 7 + (i - 7) = i by omega] at hbit
      simp [← hbit]

/-- The two Rust loops have the same rounds. -/
theorem writeVarIntRound_eq (value : BitVec 32) :
    writeVarIntRound value = VarInt.encodeRound value := by
  have hbyte : ∀ b : Byte, b &&& 0x7f ||| 0x80 = b ||| 0x80 := by decide +kernel
  rw [writeVarIntRound, VarInt.encodeRound]
  by_cases h : value >>> 7 = 0
  · rw [if_pos ((highBits_eq_zero value).mpr h), if_pos h]
    have hsmall := (VarInt.shift_eq_zero value).mp h
    have hlast : (value.setWidth 8 &&& 0x7f : Byte) = value.setWidth 8 := by
      apply BitVec.eq_of_toNat_eq
      rw [VarInt.toNat_last, BitVec.toNat_setWidth]
      omega
    rw [hlast]
  · rw [if_neg (mt (highBits_eq_zero value).mp h), if_neg h, BitVec.setWidth_or,
      BitVec.setWidth_and]
    exact congrArg (·, some (value >>> 7)) (hbyte _)

theorem go_eq_encodeLoop (rounds : Nat) (value : BitVec 32) :
    writeVarInt.go rounds value = VarInt.encodeLoop rounds value := by
  induction rounds generalizing value with
  | zero => rfl
  | succ rounds ih =>
    have hround := writeVarIntRound_eq value
    rw [writeVarIntRound, VarInt.encodeRound] at hround
    rw [writeVarInt.go, VarInt.encodeLoop, ih]
    by_cases h : value >>> 7 = 0
    · rw [if_pos ((highBits_eq_zero value).mpr h), if_pos h] at hround ⊢
      exact congrArg (fun b => [b]) (Prod.mk.inj hround).1
    · rw [if_neg (mt (highBits_eq_zero value).mp h), if_neg h] at hround ⊢
      rw [(Prod.mk.inj hround).1]

end chunkPayload

namespace VarInt

theorem encodeLoop_eq_leb128 {rounds : Nat} (value : BitVec 32) (hrounds : 0 < rounds)
    (hvalue : value.toNat < 2 ^ (7 * rounds)) :
    encodeLoop rounds value = leb128 value.toNat := by
  induction rounds generalizing value with
  | zero => omega
  | succ rounds ih =>
    by_cases h : value.toNat < 128
    · have hround := encodeRound_last h
      rw [encodeRound] at hround
      rw [if_pos ((shift_eq_zero value).mpr h)] at hround
      rw [encodeLoop_small h, leb128_small h, (Prod.mk.inj hround).1]
    · have hlarge : 128 ≤ value.toNat := Nat.le_of_not_lt h
      have hpow : 2 ^ (7 * (rounds + 1)) = 2 ^ (7 * rounds) * 128 := by
        rw [show 7 * (rounds + 1) = 7 * rounds + 7 by omega, Nat.pow_add]
      have hpos : 0 < rounds := by
        rcases Nat.eq_zero_or_pos rounds with rfl | hpos
        · omega
        · exact hpos
      have hround := encodeRound_more hlarge
      rw [encodeRound] at hround
      rw [if_neg fun h0 => h ((shift_eq_zero value).mp h0)] at hround
      rw [encodeLoop_large hlarge, leb128_large hlarge, (Prod.mk.inj hround).1,
        ih (value >>> 7) hpos (by rw [toNat_shift]; omega), toNat_shift]

theorem encode_eq_leb128 (v : VarInt) : v.encode = leb128 v.val.toNat :=
  encodeLoop_eq_leb128 v.val (by omega) (by omega)

theorem encodeRound_emits (value : BitVec 32) : Emits encodeRound value (leb128 value.toNat) := by
  refine Emits.leb128 (R := fun value n => n = value.toNat) ?_ ?_ rfl
  · rintro value n rfl h
    exact encodeRound_last h
  · rintro value n rfl h
    exact ⟨value >>> 7, encodeRound_more h, (toNat_shift value).symm⟩

end VarInt

/-! ### The Python writer -/

namespace BuildRegistryNbt

theorem lastByte (n : Nat) (h : n < 128) : BitVec.ofNat 8 (n &&& 0x7F) = BitVec.ofNat 8 n := by
  have hand : n &&& 0x7F = n % 128 := Nat.and_two_pow_sub_one_eq_mod n 7
  rw [hand, Nat.mod_eq_of_lt h]

theorem moreByte (n : Nat) :
    BitVec.ofNat 8 (n &&& 0x7F) ||| 0x80 = BitVec.ofNat 8 (n % 128 + 128) := by
  have hbyte : ∀ b : Byte, (b ||| 0x80).toNat = b.toNat % 128 + 128 := by decide +kernel
  have hand : n &&& 0x7F = n % 128 := Nat.and_two_pow_sub_one_eq_mod n 7
  apply BitVec.eq_of_toNat_eq
  rw [hbyte, hand, BitVec.toNat_ofNat, BitVec.toNat_ofNat]
  omega

theorem encodeVarintLoop_eq_leb128 (n : Nat) : encodeVarintLoop n = leb128 n := by
  induction n using Nat.strongRecOn with
  | ind n ih =>
    have hshift : n >>> 7 = n / 128 := Nat.shiftRight_eq_div_pow n 7
    rw [encodeVarintLoop, hshift]
    by_cases h : n < 128
    · rw [if_neg (by omega), lastByte n h, leb128_small h]
    · rw [if_pos (by omega), moreByte, ih (n / 128) (by omega),
        leb128_large (Nat.le_of_not_lt h)]

theorem encodeVarintRound_eq (n : Nat) :
    encodeVarintRound n =
      if n < 128 then (BitVec.ofNat 8 n, none)
      else (BitVec.ofNat 8 (n % 128 + 128), some ((n / 128 : Nat) : Int)) := by
  have hand : Int.land n 0x7F = ((n &&& 0x7F : Nat) : Int) := rfl
  have hshift : (n : Int) >>> 7 = ((n / 128 : Nat) : Int) := by
    rw [← Nat.shiftRight_eq_div_pow n 7]
    rfl
  rw [encodeVarintRound, hand, hshift, BitVec.ofInt_natCast]
  by_cases h : n < 128
  · rw [if_pos h, if_neg (by omega), lastByte n h]
  · rw [if_neg h, if_pos (by omega), moreByte]

theorem encodeVarintRound_emits (n : Nat) : Emits encodeVarintRound n (leb128 n) := by
  refine Emits.leb128 (R := fun (s : Int) n => s = n) ?_ ?_ rfl
  · rintro s n rfl h
    rw [encodeVarintRound_eq, if_pos h]
  · rintro s n rfl h
    exact ⟨((n / 128 : Nat) : Int), by rw [encodeVarintRound_eq, if_neg (by omega)], rfl⟩

/-- A mask of ones leaves the remainder, also of a negative number. -/
theorem land_mask (n : Int) (k : Nat) : Int.land n (2 ^ k - 1 : Nat) = n % 2 ^ k := by
  cases n with
  | ofNat m =>
    show ((m &&& (2 ^ k - 1) : Nat) : Int) = _
    rw [Nat.and_two_pow_sub_one_eq_mod]
    exact Int.natCast_mod m (2 ^ k)
  | negSucc m =>
    have hlt : m % 2 ^ k < 2 ^ k := Nat.mod_lt m (Nat.two_pow_pos k)
    have hmod : Int.negSucc m % 2 ^ k = (2 ^ k - (m % 2 ^ k + 1) : Nat) := by
      have hpow : (0 : Int) < 2 ^ k := Int.pow_pos (by omega)
      rw [Int.negSucc_emod m hpow]
      push_cast [Nat.succ_le_of_lt hlt]
      omega
    rw [hmod]
    show ((Nat.ldiff (2 ^ k - 1) m : Nat) : Int) = _
    congr 1
    apply Nat.eq_of_testBit_eq
    intro i
    rw [Nat.testBit_ldiff, Nat.testBit_two_pow_sub_one, Nat.testBit_two_pow_sub_succ hlt,
      Nat.testBit_mod_two_pow]
    by_cases hi : i < k
    · simp [hi]
    · simp [hi]

/-- The mask takes a negative number to the unsigned one of the same 32 bits. -/
theorem encodeVarintStart_toInt (v : BitVec 32) : encodeVarintStart v.toInt = v.toNat := by
  have hv := v.isLt
  rw [encodeVarintStart]
  by_cases h : v.toInt < 0
  · rw [if_pos h]
    rw [show (0xFFFFFFFF : Int) = (2 ^ 32 - 1 : Nat) from rfl, land_mask]
    rw [BitVec.toInt_eq_toNat_bmod, Int.bmod_def] at h ⊢
    omega
  · rw [if_neg h]
    rw [BitVec.toInt_eq_toNat_bmod, Int.bmod_def] at h ⊢
    omega

end BuildRegistryNbt

/-- Every writer's loop ends, with the bytes that the other two append. -/
theorem varIntWriters_agree (v : BitVec 32) :
    ∃ bs, (Emits VarInt.encodeRound v bs ∧ (VarInt.mk v).encode = bs) ∧
      (Emits chunkPayload.writeVarIntRound v bs ∧ chunkPayload.writeVarInt v = bs) ∧
      (Emits BuildRegistryNbt.encodeVarintRound (BuildRegistryNbt.encodeVarintStart v.toInt) bs ∧
        BuildRegistryNbt.encodeVarint v.toInt = bs) := by
  have hstart := BuildRegistryNbt.encodeVarintStart_toInt v
  refine ⟨leb128 v.toNat, ⟨VarInt.encodeRound_emits v, VarInt.encode_eq_leb128 ⟨v⟩⟩,
    ⟨?_, ?_⟩, ?_, ?_⟩
  · rw [funext chunkPayload.writeVarIntRound_eq]
    exact VarInt.encodeRound_emits v
  · rw [chunkPayload.writeVarInt, chunkPayload.go_eq_encodeLoop]
    exact VarInt.encode_eq_leb128 ⟨v⟩
  · rw [hstart]
    exact BuildRegistryNbt.encodeVarintRound_emits v.toNat
  · rw [BuildRegistryNbt.encodeVarint, hstart, Int.toNat_natCast]
    exact BuildRegistryNbt.encodeVarintLoop_eq_leb128 v.toNat

end Statik
