import Statik.Core.Impls
import Statik.Wire.Checked

/-!
# The Encode and Decode impls, checked

The impls once more, with the shifts and the allocations they make checked, and the
proof that none leaves its range.
-/

namespace Statik

open Wire

/-! ### VarInt -/

namespace VarInt

/-- The loop of `encode`, a byte at a time. -/
def writeLoop : Nat → BitVec 32 → Writer Error
  | 0, _ => .write []
  | rounds + 1, value => fun buffer =>
    let part := value.setWidth 8
    match Checked.shiftRight value 7 with
    | .error e => .error e
    | .ok value =>
      if value = 0 then Writer.write [part &&& 0x7f] buffer
      else (Writer.write [part ||| 0x80]).andThen (writeLoop rounds value) buffer

def write (v : VarInt) : Writer Error := writeLoop 5 v.val

/-- The loop of `decode`. -/
def decodeLoopChecked : Bytes → BitVec 32 → Nat → Checked (Except Error (VarInt × Bytes))
  | [], _, _ => .ok (.error (.io .unexpectedEof))
  | byte :: rest, value, pos =>
    match Checked.shiftLeft ((byte &&& segmentBits).setWidth 32) pos with
    | .error e => .error e
    | .ok part =>
      let value := value ||| part
      if byte &&& continueBit = 0 then .ok (.ok (⟨value⟩, rest))
      else
        let pos := pos + 7
        if pos ≥ 35 then .ok (.error capacityError) else decodeLoopChecked rest value pos

def decodeChecked : CheckedDecoder Error VarInt := fun b => decodeLoopChecked b 0 0

theorem writeLoop_writes (rounds : Nat) (value : BitVec 32) :
    Writes (writeLoop rounds value) rounds (.ok (encodeLoop rounds value)) := by
  induction rounds generalizing value with
  | zero => exact Writes.write []
  | succ rounds ih =>
    intro buffer hroom
    have hshift := Checked.shiftRight_ok value (n := 7) (by decide)
    rw [writeLoop, encodeLoop, hshift]
    by_cases hlast : value >>> 7 = 0
    · simp only [if_pos hlast]
      exact (Writes.write [_]).mono (by show 1 ≤ rounds + 1; omega) buffer hroom
    · simp only [if_neg hlast]
      exact ((Writes.write [_]).andThen (ih (value >>> 7))).mono
        (by show 1 + rounds ≤ rounds + 1; omega) buffer hroom

theorem write_writes (v : VarInt) : Writes v.write 5 (.ok v.encode) := writeLoop_writes 5 v.val

/-- The position is a multiple of seven below 35, so that no shift reaches 32. -/
theorem decodeLoopChecked_eq (b : Bytes) (value : BitVec 32) {round : Nat} (h : round ≤ 4) :
    decodeLoopChecked b value (7 * round) = .ok (decodeLoop b value (7 * round)) := by
  induction b generalizing value round with
  | nil => rfl
  | cons byte rest ih =>
    have hshift := Checked.shiftLeft_ok ((byte &&& segmentBits).setWidth 32) (n := 7 * round)
      (by omega)
    rw [decodeLoopChecked, decodeLoop, hshift]
    simp only
    by_cases hlast : byte &&& continueBit = 0
    · rw [if_pos hlast, if_pos hlast]
    · rw [if_neg hlast, if_neg hlast]
      by_cases hfull : 7 * round + 7 ≥ 35
      · rw [if_pos hfull, if_pos hfull]
      · rw [if_neg hfull, if_neg hfull]
        exact ih _ (by omega : round + 1 ≤ 4)

theorem decodeChecked_eq (b : Bytes) : decodeChecked b = (.ok (decode b) : Checked _) :=
  decodeLoopChecked_eq b 0 (Nat.zero_le 4)

theorem safe_decode (limit : Nat) : Safe limit decodeChecked decode :=
  fun b _ => ⟨decodeChecked_eq b, fun _ _ => decode_delimits.length_le⟩

end VarInt

/-! ### Decoders -/

/-- `.context(text)` on what a checked decoder returns. -/
def contextChecked {α : Type} (text : String) (c : CheckedDecoder Error α) :
    CheckedDecoder Error α := fun b =>
  match (c b : Checked (Except Error (α × Bytes))) with
  | .ok r => (.ok (withContext text r) : Checked _)
  | .error e => (.error e : Checked _)

def decodeBoolChecked : CheckedDecoder Error Bool := do
  let n ← .of readU8
  if n.toNat ≤ 1 then pure (n == 1)
  else
    let got := n.toNat
    throw (.msg s!"decoded boolean is not 0 or 1 (got {got})")

/-- The loop of `String::decode`, onto a vector of the capacity. -/
def decodeStringBytesChecked (length capacity : Nat) : Nat → CheckedDecoder Error Bytes
  | 0 => pure []
  | remaining + 1 => do
    let i := length - (remaining + 1)
    let b ← contextChecked (s!"Not enough data remaining to decode string: buffer length must " ++
      s!"be {length} (was {i}) according to the starting VarInt") (.of readU8)
    let capacity ← .check (Checked.grow 1 capacity (i + 1))
    let bs ← decodeStringBytesChecked length capacity remaining
    pure (b :: bs)

/-- `Vec::with_capacity(length as usize)` comes before the first byte. -/
def decodeStringChecked : CheckedDecoder Error String := do
  let length ← VarInt.decodeChecked
  if 0 ≤ length.val.toInt then
    let capacity ← .check (Checked.allocate 1 (asUsize length.val))
    let buf ← decodeStringBytesChecked length.val.toNat capacity length.val.toNat
    match fromUtf8 buf with
    | some s => pure s
    | none => throw (.msg (utf8ErrorText buf))
  else throw (.msg "attempt to decode struct with negative length")

/-- For items that take `size` bytes in memory, of which the allocator gives no more
than `room` bytes at once.  The capacity to begin with is limited, that to which the
vector grows is not. -/
def decodeVecWithin {α : Type} (room size : Nat) (c : CheckedDecoder Error α) :
    CheckedDecoder Error (List α) := do
  let length ← VarInt.decodeChecked
  if 0 ≤ length.val.toInt then
    let cap := min (maxPacketSize / max size 1) (asUsize length.val)
    let capacity ← .check (Checked.allocateWithin room size cap)
    manyWithin room size c length.val.toNat capacity 0
  else throw (.msg "Attempted to decode struct with negative length")

def decodeVecChecked {α : Type} (size : Nat) (c : CheckedDecoder Error α) :
    CheckedDecoder Error (List α) := decodeVecWithin isizeMax size c

def decodeOptionChecked {α : Type} (c : CheckedDecoder Error α) :
    CheckedDecoder Error (Option α) := do
  let present ← decodeBoolChecked
  if present then some <$> c else pure none

/-- `read_to_end` reserves what remains of the input at once. -/
def decodeRawBytesChecked : CheckedDecoder Error Bytes := fun b =>
  match Checked.grow 1 0 b.length with
  | .ok _ => (.ok (decodeRawBytes b) : Checked _)
  | .error e => (.error e : Checked _)

/-- `BlockPos::from_packed`. -/
def BlockPos.fromPackedChecked (value : BitVec 64) : Checked BlockPos := do
  let x ← Checked.sshiftRight value 38
  let y ← Checked.shiftLeft value 52
  let y ← Checked.sshiftRight y 52
  let z ← Checked.shiftLeft value 26
  let z ← Checked.sshiftRight z 38
  .ok { x := x.setWidth 32, y := y.setWidth 32, z := z.setWidth 32 }

def decodeBlockPosChecked : CheckedDecoder Error BlockPos := do
  let value ← .of (decodeInt 8)
  let p ← .check (BlockPos.fromPackedChecked value)
  pure p

def decodeClientIntentChecked : CheckedDecoder Error ClientIntent := do
  let v ← VarInt.decodeChecked
  if v.val = 1 then pure .status
  else if v.val = 2 then pure .login
  else if v.val = 3 then pure .transfer
  else
    let n := v.val.toInt
    throw (.msg (s!"parsed VarInt returned an invalid ClientIntent: {n}. Only values 1, 2 and " ++
      "3 are valid."))

def decodeJsonChecked {α : Type} (fromStr : String → Except String α) :
    CheckedDecoder Error α := do
  let s ← decodeStringChecked
  match fromStr s with
  | .ok a => pure a
  | .error text => throw (.msg text)

theorem toNat_le_i32Max {x : BitVec 32} (h : 0 ≤ x.toInt) : x.toNat ≤ i32Max :=
  (toNat_of_nonneg h).2

section

variable {limit : Nat}

theorem safe_context {α : Type} {c : CheckedDecoder Error α} {d : Decoder Error α}
    (text : String) (h : Safe limit c d) :
    Safe limit (contextChecked text c) (decodeContext text d) := by
  intro b hb
  obtain ⟨hc, hrest⟩ := h b hb
  refine ⟨?_, fun a rest hok => ?_⟩
  · rw [contextChecked, hc]
    rfl
  · cases hd : d b with
    | error e =>
      rw [decodeContext, hd] at hok
      cases hok
    | ok r =>
      rw [decodeContext, hd] at hok
      cases hok
      exact hrest _ _ hd

theorem safe_decodeBool : Safe limit decodeBoolChecked decodeBool := by
  refine (Safe.of readU8_delimits).bind fun n => ?_
  split
  · exact Safe.pure _
  · exact Safe.throw _

theorem safe_decodeStringBytes {length : Nat} (hlength : length ≤ i32Max)
    (remaining capacity : Nat) (h : remaining ≤ length) :
    Safe limit (decodeStringBytesChecked length capacity remaining)
      (decodeStringBytes length remaining) := by
  induction remaining generalizing capacity with
  | zero => exact Safe.pure []
  | succ remaining ih =>
    have hi : length - (remaining + 1) + 1 ≤ i32Max := by omega
    obtain ⟨capacity', hgrow⟩ := Checked.grow_ok 1 capacity hi (by decide)
    exact (safe_context _ (Safe.of readU8_delimits)).bind fun b =>
      Safe.check hgrow ((ih capacity' (by omega)).bind fun bs => Safe.pure (b :: bs))

theorem safe_decodeString : Safe limit decodeStringChecked decodeString := by
  refine (VarInt.safe_decode limit).bind fun length => ?_
  by_cases hneg : 0 ≤ length.val.toInt
  · simp only [if_pos hneg]
    have hmax := toNat_le_i32Max hneg
    have hcast : asUsize length.val = length.val.toNat :=
      asUsize_of_nonneg (by unfold i32Max at hmax; omega)
    have hroom : 1 * asUsize length.val ≤ isizeMax := by
      rw [hcast]
      exact Nat.le_trans (by omega) (by decide : i32Max ≤ isizeMax)
    refine Safe.check (Checked.allocate_ok hroom) ?_
    refine (safe_decodeStringBytes hmax _ _ (Nat.le_refl _)).bind fun buf => ?_
    cases fromUtf8 buf with
    | some s => exact Safe.pure s
    | none => exact Safe.throw _
  · simp only [if_neg hneg]
    exact Safe.throw _

/-- Even `i32::MAX` items of a GiB each are within range. -/
theorem safe_decodeVec {α : Type} {c : CheckedDecoder Error α} {d : Decoder Error α} {size : Nat}
    (hsize : size ≤ 2 ^ 30) (h : Safe limit c d) :
    Safe limit (decodeVecChecked size c) (decodeVec d) := by
  refine (VarInt.safe_decode limit).bind fun length => ?_
  by_cases hneg : 0 ≤ length.val.toInt
  · simp only [if_pos hneg]
    have hmax := toNat_le_i32Max hneg
    have hcap : size * min (maxPacketSize / max size 1) (asUsize length.val) ≤ maxPacketSize := by
      refine Nat.le_trans (Nat.mul_le_mul (Nat.le_max_left size 1) (Nat.min_le_left _ _)) ?_
      exact Nat.mul_div_le _ _
    refine Safe.check (Checked.allocate_ok (Nat.le_trans hcap (by decide))) ?_
    have hmost : size * (2 * i32Max + 8) ≤ isizeMax :=
      Nat.le_trans (Nat.mul_le_mul_right _ hsize) (by decide)
    exact h.many hmost _ _ _ (by omega)
  · simp only [if_neg hneg]
    exact Safe.throw _

theorem safe_decodeOption {α : Type} {c : CheckedDecoder Error α} {d : Decoder Error α}
    (h : Safe limit c d) : Safe limit (decodeOptionChecked c) (decodeOption d) := by
  refine safe_decodeBool.bind fun present => ?_
  split
  · exact h.map some
  · exact Safe.pure none

theorem safe_decodeRawBytes (hlimit : 2 * limit + 8 ≤ isizeMax) :
    Safe limit decodeRawBytesChecked decodeRawBytes := by
  intro b hb
  obtain ⟨capacity, hgrow⟩ := Checked.grow_ok 1 0 hb (by omega)
  refine ⟨?_, fun a rest h => ?_⟩
  · rw [decodeRawBytesChecked, hgrow]
  · cases h
    exact Nat.zero_le _

theorem BlockPos.fromPackedChecked_eq (value : BitVec 64) :
    BlockPos.fromPackedChecked value = .ok (BlockPos.fromPacked value) := rfl

theorem safe_decodeBlockPos : Safe limit decodeBlockPosChecked decodeBlockPos := by
  rw [decodeBlockPos, map_eq_pure_bind]
  exact (Safe.of (decodeInt_delimits 8)).bind fun value =>
    Safe.check (BlockPos.fromPackedChecked_eq value) (Safe.pure (BlockPos.fromPacked value))

theorem safe_decodeClientIntent : Safe limit decodeClientIntentChecked decodeClientIntent := by
  refine (VarInt.safe_decode limit).bind fun v => ?_
  split
  · exact Safe.pure _
  · split
    · exact Safe.pure _
    · split
      · exact Safe.pure _
      · exact Safe.throw _

theorem safe_decodeJson {α : Type} (fromStr : String → Except String α) :
    Safe limit (decodeJsonChecked fromStr) (decodeJson fromStr) := by
  refine safe_decodeString.bind fun s => ?_
  cases fromStr s with
  | ok a => exact Safe.pure a
  | error text => exact Safe.throw _

end

/-! ### Writers -/

def writeString (s : String) : Writer Error :=
  let length := (utf8 s).length
  if length ≤ i32Max then (VarInt.ofUsize length).write.andThen (.write (utf8 s))
  else .fail (.msg s!"byte length of string ({length}) exceeds i32::MAX")

def writeVec {α : Type} (w : α → Writer Error) (xs : List α) : Writer Error :=
  let length := xs.length
  if length ≤ i32Max then (VarInt.ofUsize length).write.andThen (.each w xs)
  else .fail (.msg s!"byte length of Vec ({length}) exceeds i32::MAX")

def writeOption {α : Type} (w : α → Writer Error) : Option α → Writer Error
  | some t => (Writer.write (encodeBool true)).andThen (w t)
  | none => .write (encodeBool false)

/-- `BlockPos::to_packed`. -/
def BlockPos.toPackedChecked (p : BlockPos) : Checked (BitVec 64) := do
  let x ← Checked.shiftLeft (p.x.signExtend 64 &&& xMask) 38
  let z ← Checked.shiftLeft (p.z.signExtend 64 &&& zMask) 12
  .ok (x ||| z ||| (p.y.signExtend 64 &&& yMask))

def writeBlockPos (p : BlockPos) : Writer Error := fun buffer =>
  match p.toPackedChecked with
  | .ok packed => Writer.write (encodeInt 8 packed) buffer
  | .error e => .error e

/-- `.context(text)` on what a writer returns. -/
def contextWriter (text : String) (w : Writer Error) : Writer Error := fun buffer =>
  match w buffer with
  | .ok r => .ok (withContext text r)
  | .error e => .error e

/-- The most bytes that are written for a string. -/
def stringCeiling : Nat := 5 + i32Max

theorem writeString_writes (s : String) :
    Writes (writeString s) stringCeiling (encodeString s) := by
  rw [writeString, encodeString]
  by_cases h : (utf8 s).length ≤ i32Max
  · simp only [if_pos h]
    exact ((VarInt.write_writes _).andThen (Writes.write _)).mono (Nat.add_le_add_left h 5)
  · simp only [if_neg h]
    exact (Writes.fail _).mono (Nat.zero_le _)

theorem writeVec_writes {α : Type} {w : α → Writer Error} {most : Nat}
    {enc : α → Except Error Bytes} {xs : List α} (h : ∀ a ∈ xs, Writes (w a) most (enc a)) :
    Writes (writeVec w xs) (5 + xs.length * most) (encodeVec enc xs) := by
  rw [writeVec, encodeVec]
  by_cases hlen : xs.length ≤ i32Max
  · simp only [if_pos hlen]
    have hwrite := (VarInt.write_writes (VarInt.ofUsize xs.length)).andThen (Writes.each h)
    cases hmany : encodeMany enc xs with
    | ok bs => rwa [hmany] at hwrite
    | error e => rwa [hmany] at hwrite
  · simp only [if_neg hlen]
    exact (Writes.fail _).mono (Nat.zero_le _)

theorem writeOption_writes {α : Type} {w : α → Writer Error} {most : Nat}
    {enc : α → Except Error Bytes} {x : Option α}
    (h : ∀ a, x = some a → Writes (w a) most (enc a)) :
    Writes (writeOption w x) (1 + most) (encodeOption enc x) := by
  cases x with
  | none => exact (Writes.write _).mono (Nat.le_add_right 1 most)
  | some a =>
    have hwrite := (Writes.write (encodeBool true)).andThen (h a rfl)
    rw [encodeOption]
    cases ha : enc a with
    | ok bs => rwa [ha] at hwrite
    | error e => rwa [ha] at hwrite

theorem writeBlockPos_writes (p : BlockPos) :
    Writes (writeBlockPos p) 8 (.ok (encodeBlockPos p)) := by
  show Writes (.write (encodeBlockPos p)) 8 _
  exact (Writes.write _).mono (Nat.le_of_eq (beBytes_length 8 p.toPacked.toNat))

theorem contextWriter_writes {w : Writer Error} {most : Nat} {r : Except Error Bytes}
    (text : String) (h : Writes w most r) :
    Writes (contextWriter text w) most (withContext text r) := by
  intro buffer hroom
  have hw := h buffer hroom
  cases r with
  | error e =>
    show contextWriter text w buffer = _
    rw [contextWriter, hw]
    rfl
  | ok bs =>
    obtain ⟨hle, capacity, hok⟩ := hw
    refine ⟨hle, capacity, ?_⟩
    rw [contextWriter, hok]
    rfl

end Statik
