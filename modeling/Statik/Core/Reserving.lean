import Statik.Core.Impls
import Statik.Wire.Reserving

/-!
# The Decode impls, with what they reserve

The impls that call `Vec::with_capacity` once more, with its argument as an output.
That of `Vec` is limited to a packet's worth of elements, that of `String` is not.
-/

namespace Statik

open Wire

/-- `.context(text)` on what a decoder returns. -/
def contextReserving {α : Type} (text : String) (c : Reserving Error α) : Reserving Error α :=
  fun b => ((c b).1, withContext text (c b).2)

def decodeStringReserving : Reserving Error String := do
  let length ← .of VarInt.decode
  if 0 ≤ length.val.toInt then
    Reserving.reserve (asUsize length.val) 1
    let buf ← .of (decodeStringBytes length.val.toNat length.val.toNat)
    match fromUtf8 buf with
    | some s => pure s
    | none => .of (throw (.msg (utf8ErrorText buf)))
  else .of (throw (.msg "attempt to decode struct with negative length"))

/-- For items that take `size` bytes in memory. -/
def decodeVecReserving {α : Type} (size : Nat) (c : Reserving Error α) :
    Reserving Error (List α) := do
  let length ← .of VarInt.decode
  if 0 ≤ length.val.toInt then
    let cap := min (maxPacketSize / max size 1) (asUsize length.val)
    Reserving.reserve cap size
    manyReserving c length.val.toNat
  else .of (throw (.msg "Attempted to decode struct with negative length"))

def decodeOptionReserving {α : Type} (c : Reserving Error α) : Reserving Error (Option α) := do
  let present ← .of decodeBool
  if present then some <$> c else pure none

def decodeJsonReserving {α : Type} (fromStr : String → Except String α) : Reserving Error α := do
  let s ← decodeStringReserving
  match fromStr s with
  | .ok a => pure a
  | .error text => .of (throw (.msg text))

/-! ### What they decode -/

open Reserving

theorem decodes_context {α : Type} {c : Reserving Error α} {d : Decoder Error α} (text : String)
    (h : Decodes c d) : Decodes (contextReserving text c) (decodeContext text d) := by
  intro b
  show withContext text (c b).2 = withContext text (d b)
  rw [h b]

theorem decodes_decodeString : Decodes decodeStringReserving decodeString := by
  refine (Decodes.of _).bind fun length => ?_
  split
  · refine Decodes.reserve _ _ ((Decodes.of _).bind fun buf => ?_)
    cases fromUtf8 buf with
    | some s => exact Decodes.pure s
    | none => exact Decodes.of _
  · exact Decodes.of _

theorem decodes_decodeVec {α : Type} {c : Reserving Error α} {d : Decoder Error α} (size : Nat)
    (h : Decodes c d) : Decodes (decodeVecReserving size c) (decodeVec d) := by
  refine (Decodes.of _).bind fun length => ?_
  split
  · exact Decodes.reserve _ _ (h.many _)
  · exact Decodes.of _

theorem decodes_decodeOption {α : Type} {c : Reserving Error α} {d : Decoder Error α}
    (h : Decodes c d) : Decodes (decodeOptionReserving c) (decodeOption d) := by
  refine (Decodes.of _).bind fun present => ?_
  split
  · exact h.map some
  · exact Decodes.pure none

theorem decodes_decodeJson {α : Type} (fromStr : String → Except String α) :
    Decodes (decodeJsonReserving fromStr) (decodeJson fromStr) := by
  refine decodes_decodeString.bind fun s => ?_
  cases fromStr s with
  | ok a => exact Decodes.pure a
  | error text => exact Decodes.of _

/-! ### What they reserve -/

/-- The length in front of a `String` is more than a packet has. -/
def LongString (b : Bytes) : Prop :=
  ∃ length rest, VarInt.decode b = .ok (length, rest) ∧ (maxPacketSize : Int) < length.val.toInt

theorem within_context {α : Type} {limit : Nat} {text : String} {c : Reserving Error α}
    {b : Bytes} : Within limit (contextReserving text c) b ↔ Within limit c b := Iff.rfl

theorem not_longString_iff {b : Bytes} :
    ¬ LongString b ↔
      ∀ length rest, VarInt.decode b = .ok (length, rest) → length.val.toInt ≤ maxPacketSize := by
  constructor
  · intro h length rest hlength
    exact Int.not_lt.mp fun hlong => h ⟨length, rest, hlength, hlong⟩
  · rintro h ⟨length, rest, hlength, hlong⟩
    exact absurd hlong (Int.not_lt.mpr (h length rest hlength))

/-- The one reservation comes before the bytes. -/
theorem within_decodeString (b : Bytes) :
    Within maxPacketSize decodeStringReserving b ↔ ¬ LongString b := by
  rw [decodeStringReserving, within_bind (Decodes.of _), not_longString_iff]
  refine (and_iff_right (within_of _ b)).trans (forall_congr' fun length => forall_congr'
    fun rest => forall_congr' fun _ => ?_)
  by_cases hneg : 0 ≤ length.val.toInt
  · obtain ⟨hsame, hmax⟩ := toNat_of_nonneg hneg
    have hsmall : length.val.toNat < 2 ^ 31 := by
      unfold i32Max at hmax
      omega
    rw [if_pos hneg, within_reserve, asUsize_of_nonneg hsmall, hsame]
    constructor
    · intro h
      omega
    · intro h
      refine ⟨by omega, ?_⟩
      rw [within_bind (Decodes.of _)]
      refine ⟨within_of _ rest, fun buf rest' _ => ?_⟩
      cases fromUtf8 buf with
      | some s => exact within_of _ rest'
      | none => exact within_of _ rest'
  · rw [if_neg hneg]
    exact ⟨fun _ => by unfold maxPacketSize; omega, fun _ => within_of _ rest⟩

/-- The limit keeps the reservation of the `Vec` itself within a packet. -/
theorem within_decodeVec {α : Type} {c : Reserving Error α} {d : Decoder Error α}
    (h : Decodes c d) (size : Nat) (b : Bytes) :
    Within maxPacketSize (decodeVecReserving size c) b ↔
      ∀ length rest, VarInt.decode b = .ok (length, rest) → ∀ i < length.val.toInt.toNat,
        ∀ items rest', many d i rest = .ok (items, rest') → Within maxPacketSize c rest' := by
  rw [decodeVecReserving, within_bind (Decodes.of _)]
  refine (and_iff_right (within_of _ b)).trans (forall_congr' fun length => forall_congr'
    fun rest => forall_congr' fun _ => ?_)
  by_cases hneg : 0 ≤ length.val.toInt
  · have hlength : length.val.toNat = length.val.toInt.toNat := by
      rw [(toNat_of_nonneg hneg).1, Int.toNat_natCast]
    have hcap : min (maxPacketSize / max size 1) (asUsize length.val) * size ≤ maxPacketSize :=
      calc min (maxPacketSize / max size 1) (asUsize length.val) * size
          ≤ maxPacketSize / max size 1 * max size 1 :=
            Nat.mul_le_mul (Nat.min_le_left _ _) (Nat.le_max_left size 1)
        _ ≤ maxPacketSize := Nat.div_mul_le_self _ _
    rw [if_pos hneg, within_reserve, and_iff_right hcap, within_many h, hlength]
  · rw [if_neg hneg]
    have hzero : length.val.toInt.toNat = 0 := by omega
    rw [hzero]
    exact ⟨fun _ i hi => absurd hi (Nat.not_lt_zero i), fun _ => within_of _ rest⟩

theorem within_decodeOption {α : Type} {c : Reserving Error α} {d : Decoder Error α}
    (h : Decodes c d) (b : Bytes) :
    Within maxPacketSize (decodeOptionReserving c) b ↔
      ∀ rest, decodeBool b = .ok (true, rest) → Within maxPacketSize c rest := by
  rw [decodeOptionReserving, within_bind (Decodes.of _), and_iff_right (within_of _ b)]
  constructor
  · intro hall rest hpresent
    exact (within_map h).mp (hall true rest hpresent)
  · intro hall present rest hpresent
    cases present with
    | true => exact (within_map h).mpr (hall rest hpresent)
    | false => exact within_of _ rest

theorem within_decodeJson {α : Type} (fromStr : String → Except String α) (b : Bytes) :
    Within maxPacketSize (decodeJsonReserving fromStr) b ↔ ¬ LongString b := by
  rw [decodeJsonReserving, within_bind decodes_decodeString, within_decodeString]
  refine and_iff_left fun s rest _ => ?_
  cases fromStr s with
  | ok a => exact within_of _ rest
  | error text => exact within_of _ rest

end Statik
