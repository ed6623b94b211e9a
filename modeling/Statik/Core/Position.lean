import Statik.Wire.Decoder

namespace Statik

/-- A block position.  The coordinates are `i32` bit patterns. -/
structure BlockPos where
  x : BitVec 32
  y : BitVec 32
  z : BitVec 32
  deriving DecidableEq, Repr

namespace BlockPos

def xMask : BitVec 64 := 0x3ffffff

def yMask : BitVec 64 := 0xfff

def zMask : BitVec 64 := 0x3ffffff

/-- Pack into the 64-bit wire encoding. -/
def toPacked (p : BlockPos) : BitVec 64 :=
  ((p.x.signExtend 64 &&& xMask) <<< 38) ||| ((p.z.signExtend 64 &&& zMask) <<< 12) |||
    (p.y.signExtend 64 &&& yMask)

/-- Unpack from the 64-bit wire encoding, sign-extending each field. -/
def fromPacked (value : BitVec 64) : BlockPos :=
  { x := (value.sshiftRight 38).setWidth 32,
    y := ((value <<< 52).sshiftRight 52).setWidth 32,
    z := ((value <<< 26).sshiftRight 38).setWidth 32 }

/-- The positions the wire can carry: 26, 12 and 26 signed bits. -/
def InRange (p : BlockPos) : Prop :=
  (-2 ^ 25 ≤ p.x.toInt ∧ p.x.toInt < 2 ^ 25) ∧ (-2 ^ 11 ≤ p.y.toInt ∧ p.y.toInt < 2 ^ 11) ∧
    (-2 ^ 25 ≤ p.z.toInt ∧ p.z.toInt < 2 ^ 25)

instance (p : BlockPos) : Decidable p.InRange := by
  unfold InRange
  infer_instance

/-! ### The bits of the packed word -/

theorem lowMask_getLsbD (n : Nat) (h : n ≤ 64) (i : Nat) :
    (BitVec.ofNat 64 (2 ^ n - 1)).getLsbD i = decide (i < n) := by
  rw [BitVec.getLsbD_ofNat, Nat.testBit_two_pow_sub_one, ← Bool.decide_and]
  exact decide_eq_decide.mpr ⟨fun hi => hi.2, fun hi => ⟨by omega, hi⟩⟩

/-- The three fields tile the word: `y` below bit 12, `z` below bit 38, `x` above. -/
theorem toPacked_getLsbD (p : BlockPos) {i : Nat} (h : i < 64) :
    p.toPacked.getLsbD i =
      if i < 12 then p.y.getLsbD i
      else if i < 38 then p.z.getLsbD (i - 12)
      else p.x.getLsbD (i - 38) := by
  have hx : ∀ j, xMask.getLsbD j = decide (j < 26) := lowMask_getLsbD 26 (by omega)
  have hz : ∀ j, zMask.getLsbD j = decide (j < 26) := lowMask_getLsbD 26 (by omega)
  have hy : ∀ j, yMask.getLsbD j = decide (j < 12) := lowMask_getLsbD 12 (by omega)
  simp only [toPacked, BitVec.getLsbD_or, BitVec.getLsbD_shiftLeft, BitVec.getLsbD_and,
    BitVec.getLsbD_signExtend, hx, hy, hz]
  by_cases h1 : i < 12
  · simp [h1, h, show i < 38 by omega, show i < 32 by omega]
  · by_cases h2 : i < 38
    · simp [h1, h2, h, show i - 12 < 64 by omega, show i - 12 < 32 by omega,
        show i - 12 < 26 by omega]
    · simp [h1, h2, h, show ¬ i - 12 < 26 by omega, show i - 38 < 64 by omega,
        show i - 38 < 32 by omega, show i - 38 < 26 by omega]

theorem signExtend_low_getLsbD (v : BitVec 32) {n i : Nat} (hn : 0 < n) (h32 : n ≤ 32)
    (hi : i < 32) :
    ((v.setWidth n).signExtend 32).getLsbD i =
      if i < n then v.getLsbD i else v.getLsbD (n - 1) := by
  rw [BitVec.getLsbD_signExtend, BitVec.msb_eq_getLsbD_last, BitVec.getLsbD_setWidth,
    BitVec.getLsbD_setWidth]
  by_cases h : i < n
  · simp [h, hi]
  · simp [h, hi, show n - 1 < n by omega]

/-- Unpacking a packed position keeps the sign-extended low bits of each field. -/
theorem fromPacked_toPacked (p : BlockPos) :
    fromPacked p.toPacked =
      { x := (p.x.setWidth 26).signExtend 32,
        y := (p.y.setWidth 12).signExtend 32,
        z := (p.z.setWidth 26).signExtend 32 } := by
  have hx : (p.toPacked.sshiftRight 38).setWidth 32 = (p.x.setWidth 26).signExtend 32 := by
    apply BitVec.eq_of_getLsbD_eq
    intro i hi
    rw [signExtend_low_getLsbD _ (by omega) (by omega) hi, BitVec.getLsbD_setWidth,
      BitVec.getLsbD_sshiftRight, BitVec.msb_eq_getLsbD_last,
      toPacked_getLsbD p (i := 64 - 1) (by omega)]
    by_cases h : i < 26
    · rw [toPacked_getLsbD p (by omega)]
      simp [hi, h, show ¬ 64 ≤ i by omega, show 38 + i < 64 by omega,
        show ¬ 38 + i < 12 by omega, show ¬ 38 + i < 38 by omega]
    · simp [hi, h, show ¬ 64 ≤ i by omega, show ¬ 38 + i < 64 by omega]
  have hy : ((p.toPacked <<< 52).sshiftRight 52).setWidth 32 =
      (p.y.setWidth 12).signExtend 32 := by
    apply BitVec.eq_of_getLsbD_eq
    intro i hi
    rw [signExtend_low_getLsbD _ (by omega) (by omega) hi, BitVec.getLsbD_setWidth,
      BitVec.getLsbD_sshiftRight, BitVec.msb_eq_getLsbD_last, BitVec.getLsbD_shiftLeft,
      BitVec.getLsbD_shiftLeft, toPacked_getLsbD p (i := 64 - 1 - 52) (by omega)]
    by_cases h : i < 12
    · rw [toPacked_getLsbD p (by omega)]
      simp [hi, h, show ¬ 64 ≤ i by omega, show 52 + i < 64 by omega]
    · simp [hi, h, show ¬ 64 ≤ i by omega, show ¬ 52 + i < 64 by omega]
  have hz : ((p.toPacked <<< 26).sshiftRight 38).setWidth 32 =
      (p.z.setWidth 26).signExtend 32 := by
    apply BitVec.eq_of_getLsbD_eq
    intro i hi
    rw [signExtend_low_getLsbD _ (by omega) (by omega) hi, BitVec.getLsbD_setWidth,
      BitVec.getLsbD_sshiftRight, BitVec.msb_eq_getLsbD_last, BitVec.getLsbD_shiftLeft,
      BitVec.getLsbD_shiftLeft, toPacked_getLsbD p (i := 64 - 1 - 26) (by omega)]
    by_cases h : i < 26
    · rw [toPacked_getLsbD p (by omega)]
      simp [hi, h, show ¬ 64 ≤ i by omega, show 38 + i < 64 by omega,
        show ¬ 38 + i < 26 by omega, show ¬ 38 + i - 26 < 12 by omega,
        show 38 + i - 26 < 38 by omega, show 38 + i - 26 - 12 = i by omega]
    · simp [hi, h, show ¬ 64 ≤ i by omega, show ¬ 38 + i < 64 by omega]
  rw [fromPacked, hx, hy, hz]

theorem signExtend_low_eq_iff (v : BitVec 32) {n : Nat} (hn : n = 26 ∨ n = 12) :
    (v.setWidth n).signExtend 32 = v ↔ -2 ^ (n - 1) ≤ v.toInt ∧ v.toInt < 2 ^ (n - 1) := by
  have hv := v.isLt
  rcases hn with rfl | rfl <;>
    rw [← BitVec.toInt_inj, BitVec.toInt_signExtend_of_le (by omega), BitVec.toInt_setWidth,
      BitVec.toInt_eq_toNat_bmod] <;>
    simp only [Int.bmod_def] <;>
    omega

/-- Exactly the positions in range survive the wire. -/
theorem fromPacked_toPacked_eq_iff (p : BlockPos) :
    fromPacked p.toPacked = p ↔ p.InRange := by
  rw [fromPacked_toPacked, BlockPos.mk.injEq, signExtend_low_eq_iff p.x (Or.inl rfl),
    signExtend_low_eq_iff p.y (Or.inr rfl), signExtend_low_eq_iff p.z (Or.inl rfl)]
  exact Iff.rfl

/-- The fields unpacked from a word are its bits. -/
theorem fromPacked_getLsbD (w : BitVec 64) {i : Nat} :
    (i < 26 → (fromPacked w).x.getLsbD i = w.getLsbD (i + 38)) ∧
    (i < 12 → (fromPacked w).y.getLsbD i = w.getLsbD i) ∧
    (i < 26 → (fromPacked w).z.getLsbD i = w.getLsbD (i + 12)) := by
  refine ⟨fun h => ?_, fun h => ?_, fun h => ?_⟩
  · show ((w.sshiftRight 38).setWidth 32).getLsbD i = _
    rw [BitVec.getLsbD_setWidth, BitVec.getLsbD_sshiftRight]
    simp [Nat.add_comm 38 i, show i < 32 by omega, show ¬ 64 ≤ i by omega,
      show i + 38 < 64 by omega]
  · show (((w <<< 52).sshiftRight 52).setWidth 32).getLsbD i = _
    rw [BitVec.getLsbD_setWidth, BitVec.getLsbD_sshiftRight, BitVec.getLsbD_shiftLeft,
      show 52 + i - 52 = i by omega]
    simp [show i < 32 by omega, show ¬ 64 ≤ i by omega, show 52 + i < 64 by omega]
  · show (((w <<< 26).sshiftRight 38).setWidth 32).getLsbD i = _
    rw [BitVec.getLsbD_setWidth, BitVec.getLsbD_sshiftRight, BitVec.getLsbD_shiftLeft,
      show 38 + i - 26 = i + 12 by omega]
    simp [show i < 32 by omega, show ¬ 64 ≤ i by omega, show 38 + i < 64 by omega,
      show ¬ 38 + i < 26 by omega]

/-- Every word is the packed form of the position it unpacks to. -/
theorem toPacked_fromPacked (w : BitVec 64) : (fromPacked w).toPacked = w := by
  apply BitVec.eq_of_getLsbD_eq
  intro i hi
  rw [toPacked_getLsbD _ hi]
  by_cases h1 : i < 12
  · rw [if_pos h1, (fromPacked_getLsbD w).2.1 h1]
  · rw [if_neg h1]
    by_cases h2 : i < 38
    · rw [if_pos h2, (fromPacked_getLsbD w).2.2 (by omega)]
      congr 1
      omega
    · rw [if_neg h2, (fromPacked_getLsbD w).1 (by omega)]
      congr 1
      omega

theorem fromPacked_inRange (w : BitVec 64) : (fromPacked w).InRange := by
  rw [← fromPacked_toPacked_eq_iff, toPacked_fromPacked]

/-- Packing and unpacking are inverse to each other on words and on the positions in
range, and cut other positions down to their low bits. -/
theorem packing (w : BitVec 64) (p : BlockPos) :
    (fromPacked w).toPacked = w ∧ (fromPacked w).InRange ∧
    fromPacked p.toPacked =
      { x := (p.x.setWidth 26).signExtend 32,
        y := (p.y.setWidth 12).signExtend 32,
        z := (p.z.setWidth 26).signExtend 32 } ∧
    (fromPacked p.toPacked = p ↔ p.InRange) :=
  ⟨toPacked_fromPacked w, fromPacked_inRange w, fromPacked_toPacked p, fromPacked_toPacked_eq_iff p⟩

end BlockPos

end Statik
