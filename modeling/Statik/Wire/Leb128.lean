import Statik.Wire.Decoder

/-!
# LEB128 and the loops that write it

A number is written seven bits to a byte, the low ones first, and every byte but the
last has its high bit set.  `Emits` is what a loop that appends a byte in each round
comes to when it ends.
-/

namespace Wire

/-- The digits of the number to the base 128. -/
def leb128 (n : Nat) : Bytes :=
  if n < 128 then [BitVec.ofNat 8 n] else BitVec.ofNat 8 (n % 128 + 128) :: leb128 (n / 128)
termination_by n
decreasing_by omega

theorem leb128_small {n : Nat} (h : n < 128) : leb128 n = [BitVec.ofNat 8 n] := by
  rw [leb128, if_pos h]

theorem leb128_large {n : Nat} (h : 128 ≤ n) :
    leb128 n = BitVec.ofNat 8 (n % 128 + 128) :: leb128 (n / 128) := by
  rw [leb128, if_neg (by omega)]

variable {σ : Type}

/-- The loop ends when it starts from the state, and has appended the bytes.  A round
appends a byte and goes on from another state, or not. -/
inductive Emits (round : σ → Byte × Option σ) : σ → Bytes → Prop
  | last {s : σ} {b : Byte} : round s = (b, none) → Emits round s [b]
  | more {s s' : σ} {b : Byte} {bs : Bytes} :
      round s = (b, some s') → Emits round s' bs → Emits round s (b :: bs)

/-- A loop writes the LEB128 form of the number its state stands for by `R`, if a round
writes the lowest digit and divides by 128. -/
theorem Emits.leb128 {round : σ → Byte × Option σ} {R : σ → Nat → Prop}
    (hlast : ∀ s n, R s n → n < 128 → round s = (BitVec.ofNat 8 n, none))
    (hmore : ∀ s n, R s n → 128 ≤ n →
      ∃ s', round s = (BitVec.ofNat 8 (n % 128 + 128), some s') ∧ R s' (n / 128))
    {s : σ} {n : Nat} (h : R s n) : Emits round s (Wire.leb128 n) := by
  induction n using Nat.strongRecOn generalizing s with
  | ind n ih =>
    by_cases hn : n < 128
    · rw [leb128_small hn]
      exact .last (hlast s n h hn)
    · have hlarge : 128 ≤ n := Nat.le_of_not_lt hn
      obtain ⟨s', hround, hs'⟩ := hmore s n h hlarge
      rw [leb128_large hlarge]
      exact .more hround (ih (n / 128) (by omega) hs')

end Wire
