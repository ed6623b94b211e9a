import Statik.Core.Error

namespace Statik

open Wire

/-- `VarInt(pub i32)`.  The wrapped `i32` is its bit pattern; `val.toInt` is its
signed value. -/
structure VarInt where
  val : BitVec 32
  deriving DecidableEq, Repr

namespace VarInt

def segmentBits : Byte := 0x7f

def continueBit : Byte := 0x80

/-- The loop of `encode`.  Seven bits leave `value` in each round, so five rounds
empty an `i32` and the bound never cuts a run short (`encodeLoop_succ`). -/
def encodeLoop : Nat → BitVec 32 → Bytes
  | 0, _ => []
  | rounds + 1, value =>
    let part := value.setWidth 8
    let value := value >>> 7
    if value = 0 then [part &&& 0x7f] else (part ||| 0x80) :: encodeLoop rounds value

def encode (v : VarInt) : Bytes := encodeLoop 5 v.val

def capacityError : Error :=
  .msg ("Cannot decode VarInt! Exceeds maximum capacity of 5 bytes " ++
    "(2147483647/-2147483648).")

/-- The loop of `decode`: `value` holds the bits read so far and `pos` their
number. -/
def decodeLoop : Bytes → BitVec 32 → Nat → Except Error (VarInt × Bytes)
  | [], _, _ => .error (.io .unexpectedEof)
  | byte :: rest, value, pos =>
    let value := value ||| ((byte &&& segmentBits).setWidth 32 <<< pos)
    if byte &&& continueBit = 0 then .ok (⟨value⟩, rest)
    else
      let pos := pos + 7
      if pos ≥ 35 then .error capacityError else decodeLoop rest value pos

def decode : Decoder Error VarInt := fun b => decodeLoop b 0 0

/-! ### Bytes -/

/-- The byte has its continuation bit set. -/
def Continues (b : Byte) : Prop := 128 ≤ b.toNat

instance (b : Byte) : Decidable (Continues b) := inferInstanceAs (Decidable (128 ≤ b.toNat))

theorem and_continueBit (b : Byte) : b &&& continueBit = 0 ↔ ¬ Continues b := by
  revert b
  decide +kernel

theorem toNat_and_segmentBits (b : Byte) : (b &&& segmentBits).toNat = b.toNat % 128 := by
  rw [BitVec.toNat_and]
  exact Nat.and_two_pow_sub_one_eq_mod b.toNat 7

theorem toNat_part (value : BitVec 32) : (value.setWidth 8).toNat % 128 = value.toNat % 128 := by
  rw [BitVec.toNat_setWidth]
  omega

theorem toNat_last (value : BitVec 32) :
    (value.setWidth 8 &&& 0x7f : Byte).toNat = value.toNat % 128 := by
  have h := toNat_and_segmentBits (value.setWidth 8)
  rw [toNat_part] at h
  exact h

theorem toNat_more (value : BitVec 32) :
    (value.setWidth 8 ||| 0x80 : Byte).toNat = value.toNat % 128 + 128 := by
  have hbyte : ∀ b : Byte, (b ||| 0x80).toNat = b.toNat % 128 + 128 := by decide +kernel
  rw [hbyte, toNat_part]

/-- A round of the decoder adds the payload above the bits read so far. -/
theorem toNat_accumulate (byte : Byte) {value : BitVec 32} {pos : Nat}
    (hv : value.toNat < 2 ^ pos) (hp : byte.toNat % 128 * 2 ^ pos < 2 ^ 32) :
    (value ||| ((byte &&& segmentBits).setWidth 32 <<< pos)).toNat =
      value.toNat + byte.toNat % 128 * 2 ^ pos := by
  rw [BitVec.toNat_or, BitVec.toNat_shiftLeft, BitVec.toNat_setWidth, toNat_and_segmentBits,
    Nat.shiftLeft_eq, Nat.mod_eq_of_lt (a := byte.toNat % 128) (by omega), Nat.mod_eq_of_lt hp,
    Nat.mul_comm _ (2 ^ pos), Nat.or_comm, ← Nat.two_pow_add_eq_or_of_lt hv, Nat.add_comm]

theorem toNat_shift (value : BitVec 32) : (value >>> 7).toNat = value.toNat / 128 := by
  rw [BitVec.toNat_ushiftRight, Nat.shiftRight_eq_div_pow]

theorem shift_eq_zero (value : BitVec 32) : value >>> 7 = 0 ↔ value.toNat < 128 := by
  constructor
  · intro h
    have hn := toNat_shift value
    rw [h] at hn
    have h0 : (0 : BitVec 32).toNat = 0 := rfl
    omega
  · intro h
    apply BitVec.eq_of_toNat_eq
    rw [toNat_shift]
    show value.toNat / 128 = 0
    omega

/-! ### The writer -/

theorem encodeLoop_small {value : BitVec 32} (h : value.toNat < 128) (rounds : Nat) :
    encodeLoop (rounds + 1) value = [value.setWidth 8 &&& 0x7f] := by
  rw [encodeLoop]
  exact if_pos ((shift_eq_zero value).mpr h)

theorem encodeLoop_large {value : BitVec 32} (h : 128 ≤ value.toNat) (rounds : Nat) :
    encodeLoop (rounds + 1) value =
      (value.setWidth 8 ||| 0x80) :: encodeLoop rounds (value >>> 7) := by
  rw [encodeLoop]
  exact if_neg fun h0 => by have := (shift_eq_zero value).mp h0; omega

/-- Rounds beyond those the value needs change nothing. -/
theorem encodeLoop_succ : ∀ (rounds : Nat) (value : BitVec 32), value.toNat < 2 ^ (7 * rounds) →
    0 < rounds → encodeLoop (rounds + 1) value = encodeLoop rounds value := by
  intro rounds
  induction rounds with
  | zero => exact fun _ _ h => absurd h (Nat.lt_irrefl 0)
  | succ rounds ih =>
    intro value hv _
    by_cases h : value.toNat < 128
    · rw [encodeLoop_small h, encodeLoop_small h]
    · have hr : 0 < rounds := by
        rcases Nat.eq_zero_or_pos rounds with h0 | h0
        · subst h0
          exact absurd hv (by omega)
        · exact h0
      have hstep : (value >>> 7).toNat < 2 ^ (7 * rounds) := by
        rw [toNat_shift]
        rw [show 7 * (rounds + 1) = 7 * rounds + 7 by omega, Nat.pow_add] at hv
        omega
      have hlarge : 128 ≤ value.toNat := Nat.le_of_not_lt h
      rw [encodeLoop_large hlarge, encodeLoop_large hlarge, ih _ hstep hr]

theorem encodeLoop_length_pos (rounds : Nat) (value : BitVec 32) :
    0 < (encodeLoop (rounds + 1) value).length := by
  by_cases h : value.toNat < 128
  · rw [encodeLoop_small h]
    exact Nat.one_pos
  · rw [encodeLoop_large (by omega), List.length_cons]
    exact Nat.succ_pos _

theorem encodeLoop_length_le : ∀ (rounds : Nat) (value : BitVec 32),
    (encodeLoop rounds value).length ≤ rounds := by
  intro rounds
  induction rounds with
  | zero => exact fun _ => Nat.le_refl 0
  | succ rounds ih =>
    intro value
    by_cases h : value.toNat < 128
    · rw [encodeLoop_small h, List.length_singleton]
      omega
    · have := ih (value >>> 7)
      rw [encodeLoop_large (by omega), List.length_cons]
      omega

theorem encode_length_pos (v : VarInt) : 0 < v.encode.length := encodeLoop_length_pos 4 v.val

theorem encode_length_le (v : VarInt) : v.encode.length ≤ 5 := encodeLoop_length_le 5 v.val

theorem encode_ne_nil (v : VarInt) : v.encode ≠ [] :=
  List.ne_nil_of_length_pos (encode_length_pos v)

/-! ### The reader on the writer's output -/

theorem decodeLoop_last {byte : Byte} (h : ¬ Continues byte) (rest : Bytes) (value : BitVec 32)
    (pos : Nat) :
    decodeLoop (byte :: rest) value pos =
      .ok (⟨value ||| ((byte &&& segmentBits).setWidth 32 <<< pos)⟩, rest) := by
  rw [decodeLoop]
  exact if_pos ((and_continueBit byte).mpr h)

theorem decodeLoop_more {byte : Byte} (h : Continues byte) {pos : Nat} (hpos : pos + 7 < 35)
    (rest : Bytes) (value : BitVec 32) :
    decodeLoop (byte :: rest) value pos =
      decodeLoop rest (value ||| ((byte &&& segmentBits).setWidth 32 <<< pos)) (pos + 7) := by
  rw [decodeLoop]
  simp only
  rw [if_neg (fun h0 => (and_continueBit byte).mp h0 h), if_neg (by omega)]

theorem decodeLoop_full {byte : Byte} (h : Continues byte) {pos : Nat} (hpos : 35 ≤ pos + 7)
    (rest : Bytes) (value : BitVec 32) :
    decodeLoop (byte :: rest) value pos = .error capacityError := by
  rw [decodeLoop]
  simp only
  rw [if_neg (fun h0 => (and_continueBit byte).mp h0 h), if_pos hpos]

theorem add_mul_two_pow_lt {acc value pos : Nat} (hpos : pos ≤ 32) (hacc : acc < 2 ^ pos)
    (hval : value * 2 ^ pos < 2 ^ 32) : acc + value * 2 ^ pos < 2 ^ 32 := by
  obtain ⟨q, hq⟩ : 2 ^ pos ∣ 2 ^ 32 := Nat.pow_dvd_pow 2 hpos
  rw [hq, Nat.mul_comm (2 ^ pos) q] at hval ⊢
  have hlt : value < q := Nat.lt_of_mul_lt_mul_right hval
  calc acc + value * 2 ^ pos
      < 2 ^ pos + value * 2 ^ pos := Nat.add_lt_add_right hacc _
    _ = (value + 1) * 2 ^ pos := by rw [Nat.succ_mul, Nat.add_comm]
    _ ≤ q * 2 ^ pos := Nat.mul_le_mul_right _ hlt

/-- The last byte written ends the loop with the whole value. -/
theorem decodeLoop_encodeLoop_small {value acc : BitVec 32} {pos : Nat} (rounds : Nat)
    (rest : Bytes) (h : value.toNat < 128) (hpos : pos ≤ 32) (hacc : acc.toNat < 2 ^ pos)
    (hval : value.toNat * 2 ^ pos < 2 ^ 32) :
    decodeLoop (encodeLoop (rounds + 1) value ++ rest) acc pos =
      .ok (⟨BitVec.ofNat 32 (acc.toNat + value.toNat * 2 ^ pos)⟩, rest) := by
  have hbyte := toNat_last value
  have hpart : (value.setWidth 8 &&& 0x7f : Byte).toNat % 128 * 2 ^ pos < 2 ^ 32 := by
    rw [hbyte, Nat.mod_mod, Nat.mod_eq_of_lt h]
    exact hval
  rw [encodeLoop_small h, List.singleton_append, decodeLoop_last (by unfold Continues; omega)]
  congr 3
  apply BitVec.eq_of_toNat_eq
  rw [toNat_accumulate _ hacc hpart, hbyte, Nat.mod_mod, Nat.mod_eq_of_lt h,
    BitVec.toNat_ofNat, Nat.mod_eq_of_lt (add_mul_two_pow_lt hpos hacc hval)]

/-- What a byte that is not the last leaves for the rounds after it. -/
theorem payload_add_rest (value pos : Nat) :
    value * 2 ^ pos = value % 128 * 2 ^ pos + value / 128 * 2 ^ (pos + 7) := by
  rw [Nat.pow_add, Nat.mul_comm (2 ^ pos) (2 ^ 7), ← Nat.mul_assoc, ← Nat.add_mul]
  congr 1
  omega

/- With `rounds` rounds left the reader stands at bit `35 - 7 * rounds`.  The
writer's value then still fits above that bit, which is what keeps the fifth
byte's payload inside the thirty-two bits. -/
theorem decodeLoop_encodeLoop : ∀ (rounds : Nat) (value acc : BitVec 32) (pos : Nat) (rest : Bytes),
    0 < rounds → pos + 7 * rounds = 35 → acc.toNat < 2 ^ pos →
    value.toNat * 2 ^ pos < 2 ^ 32 →
    decodeLoop (encodeLoop rounds value ++ rest) acc pos =
      .ok (⟨BitVec.ofNat 32 (acc.toNat + value.toNat * 2 ^ pos)⟩, rest) := by
  intro rounds
  induction rounds with
  | zero => exact fun _ _ _ _ h => absurd h (Nat.lt_irrefl 0)
  | succ rounds ih =>
    intro value acc pos rest _ hpos hacc hval
    by_cases h : value.toNat < 128
    · exact decodeLoop_encodeLoop_small rounds rest h (by omega) hacc hval
    · have hr : 0 < rounds := by
        rcases Nat.eq_zero_or_pos rounds with h0 | h0
        · have h28 : pos = 28 := by omega
          rw [h28] at hval
          omega
        · exact h0
      have hpow7 : 2 ^ (pos + 7) = 2 ^ pos * 128 := Nat.pow_add 2 pos 7
      have hsplit := payload_add_rest value.toNat pos
      have hpay : (value.setWidth 8 ||| 0x80 : Byte).toNat % 128 = value.toNat % 128 := by
        rw [toNat_more]
        omega
      have hacc' := toNat_accumulate (value.setWidth 8 ||| 0x80) hacc (by rw [hpay]; omega)
      rw [hpay] at hacc'
      have hlow : value.toNat % 128 * 2 ^ pos ≤ 127 * 2 ^ pos :=
        Nat.mul_le_mul_right _ (by omega)
      have hmore := toNat_more value
      rw [encodeLoop_large (by omega), List.cons_append,
        decodeLoop_more (by unfold Continues; omega) (by omega),
        ih _ _ _ _ hr (by omega) (by rw [hacc', hpow7]; omega)
          (by rw [toNat_shift]; omega), hacc', toNat_shift]
      congr 4
      omega

/-- Reading a written VarInt gives it back and leaves what follows. -/
theorem decode_encode (v : VarInt) : Reads decode v.encode v := by
  intro rest
  have h := decodeLoop_encodeLoop 5 v.val 0 0 rest (by omega) rfl Nat.one_pos
    (by rw [Nat.pow_zero, Nat.mul_one]; exact v.val.isLt)
  rw [decode, encode, h]
  have hz : (0 : BitVec 32).toNat = 0 := rfl
  rw [hz, Nat.zero_add, Nat.pow_zero, Nat.mul_one, BitVec.ofNat_toNat, BitVec.setWidth_eq]

/-! ### The reader on any input -/

/-- Every byte continues and there are fewer than five: more may follow. -/
def Partial (b : Bytes) : Prop := b.length < 5 ∧ ∀ x ∈ b, Continues x

instance (b : Bytes) : Decidable (Partial b) :=
  inferInstanceAs (Decidable (b.length < 5 ∧ ∀ x ∈ b, Continues x))

/-- The first five bytes all continue. -/
def Overlong (b : Bytes) : Prop := 5 ≤ b.length ∧ ∀ x ∈ b.take 5, Continues x

/-- Fewer than five continuing bytes and one that does not continue. -/
def Terminated (h : Bytes) : Prop :=
  ∃ init last, h = init ++ [last] ∧ init.length < 5 ∧ (∀ x ∈ init, Continues x) ∧
    ¬ Continues last

theorem decodeLoop_cut : ∀ (b : Bytes) (value : BitVec 32) (pos : Nat),
    (∀ x ∈ b, Continues x) → pos + 7 * b.length < 35 →
    decodeLoop b value pos = .error (.io .unexpectedEof) := by
  intro b
  induction b with
  | nil => exact fun _ _ _ _ => rfl
  | cons x b ih =>
    intro value pos hall hlen
    rw [List.length_cons] at hlen
    rw [decodeLoop_more (hall x List.mem_cons_self) (by omega)]
    exact ih _ _ (fun y hy => hall y (List.mem_cons_of_mem x hy)) (by omega)

theorem decodeLoop_overlong : ∀ (rounds : Nat) (b : Bytes) (value : BitVec 32) (pos : Nat),
    0 < rounds → pos + 7 * rounds = 35 → rounds ≤ b.length → (∀ x ∈ b.take rounds, Continues x) →
    decodeLoop b value pos = .error capacityError := by
  intro rounds
  induction rounds with
  | zero => exact fun _ _ _ h => absurd h (Nat.lt_irrefl 0)
  | succ rounds ih =>
    intro b value pos _ hpos hlen hall
    cases b with
    | nil => exact absurd hlen (Nat.not_succ_le_zero rounds)
    | cons x b =>
      have hx : Continues x := hall x (by simp)
      rcases Nat.eq_zero_or_pos rounds with h0 | h0
      · rw [decodeLoop_full hx (by omega)]
      · rw [decodeLoop_more hx (by omega)]
        refine ih b _ _ h0 (by omega) (Nat.le_of_succ_le_succ hlen) (fun y hy => hall y ?_)
        rw [List.take_succ_cons]
        exact List.mem_cons_of_mem x hy

theorem decodeLoop_terminated : ∀ (init : Bytes) (last : Byte) (value : BitVec 32) (pos : Nat),
    (∀ x ∈ init, Continues x) → ¬ Continues last → pos + 7 * init.length < 35 →
    ∃ v, ∀ rest, decodeLoop (init ++ last :: rest) value pos = .ok (v, rest) := by
  intro init
  induction init with
  | nil =>
    exact fun last value pos _ hlast _ => ⟨_, fun rest => decodeLoop_last hlast rest value pos⟩
  | cons x init ih =>
    intro last value pos hall hlast hlen
    rw [List.length_cons] at hlen
    obtain ⟨v, hv⟩ := ih last (value ||| ((x &&& segmentBits).setWidth 32 <<< pos)) (pos + 7)
      (fun y hy => hall y (List.mem_cons_of_mem x hy)) hlast (by omega)
    refine ⟨v, fun rest => ?_⟩
    rw [List.cons_append, decodeLoop_more (hall x List.mem_cons_self) (by omega), hv rest]

theorem decode_of_cut {b : Bytes} (h : Partial b) :
    decode b = .error (.io .unexpectedEof) :=
  decodeLoop_cut b 0 0 h.2 (by have := h.1; omega)

theorem decode_of_overlong {b : Bytes} (h : Overlong b) : decode b = .error capacityError :=
  decodeLoop_overlong 5 b 0 0 (by omega) rfl h.1 h.2

theorem Terminated.reads {h : Bytes} (ht : Terminated h) : ∃ v, Reads decode h v := by
  obtain ⟨init, last, rfl, hlen, hall, hlast⟩ := ht
  obtain ⟨v, hv⟩ := decodeLoop_terminated init last 0 0 hall hlast (by omega)
  refine ⟨v, fun rest => ?_⟩
  rw [List.append_assoc, List.singleton_append]
  exact hv rest

/-- Every input is a partial VarInt, an overlong one, or begins with a whole one. -/
theorem input_cases (b : Bytes) :
    Partial b ∨ Overlong b ∨ ∃ h rest, b = h ++ rest ∧ Terminated h := by
  have hsplit : ∀ (n : Nat) (b : Bytes), (b.length < n ∧ ∀ x ∈ b, Continues x) ∨
      (n ≤ b.length ∧ ∀ x ∈ b.take n, Continues x) ∨
      ∃ init last rest, b = init ++ last :: rest ∧ init.length < n ∧
        (∀ x ∈ init, Continues x) ∧ ¬ Continues last := by
    intro n
    induction n with
    | zero => exact fun b => Or.inr (Or.inl ⟨Nat.zero_le _, by simp⟩)
    | succ n ih =>
      intro b
      cases b with
      | nil => exact Or.inl ⟨Nat.succ_pos n, by simp⟩
      | cons x b =>
        by_cases hx : Continues x
        · rcases ih b with ⟨h1, h2⟩ | ⟨h1, h2⟩ | ⟨init, last, rest, rfl, h1, h2, h3⟩
          · exact Or.inl ⟨Nat.succ_lt_succ h1, by simpa [hx] using h2⟩
          · exact Or.inr (Or.inl ⟨Nat.succ_le_succ h1, by simpa [hx] using h2⟩)
          · exact Or.inr (Or.inr ⟨x :: init, last, rest, rfl, Nat.succ_lt_succ h1,
              by simpa [hx] using h2, h3⟩)
        · exact Or.inr (Or.inr ⟨[], x, b, rfl, Nat.succ_pos n, by simp, hx⟩)
  rcases hsplit 5 b with h | h | ⟨init, last, rest, rfl, h1, h2, h3⟩
  · exact Or.inl h
  · exact Or.inr (Or.inl h)
  · exact Or.inr (Or.inr ⟨init ++ [last], rest, by simp, init, last, rfl, h1, h2, h3⟩)

theorem Terminated.length_le {h : Bytes} (ht : Terminated h) : h.length ≤ 5 := by
  obtain ⟨init, last, rfl, hlen, -, -⟩ := ht
  rw [List.length_append, List.length_singleton]
  omega

theorem Terminated.ne_nil {h : Bytes} (ht : Terminated h) : h ≠ [] := by
  obtain ⟨init, last, rfl, -, -, -⟩ := ht
  exact List.append_ne_nil_of_right_ne_nil init (List.cons_ne_nil last [])

/-- What the reader accepts it has split into a whole VarInt and the rest. -/
theorem decode_ok {b rest : Bytes} {v : VarInt} (h : decode b = .ok (v, rest)) :
    ∃ used, b = used ++ rest ∧ Terminated used ∧ Reads decode used v := by
  rcases input_cases b with hp | ho | ⟨used, rest', rfl, ht⟩
  · rw [decode_of_cut hp] at h
    exact absurd h (by simp)
  · rw [decode_of_overlong ho] at h
    exact absurd h (by simp)
  · obtain ⟨v', hv'⟩ := ht.reads
    have he := hv' rest'
    rw [h] at he
    obtain ⟨hv, hrest⟩ : v = v' ∧ rest = rest' := by simpa using he
    subst hv hrest
    exact ⟨used, rfl, ht, hv'⟩

theorem decode_delimits : Delimits decode := by
  intro b rest v h
  obtain ⟨used, heq, -, hread⟩ := decode_ok h
  exact ⟨used, heq, hread⟩

theorem encode_terminated (v : VarInt) : Terminated v.encode := by
  have h := decode_encode v []
  rw [List.append_nil] at h
  obtain ⟨used, hused, ht, -⟩ := decode_ok h
  rw [List.append_nil] at hused
  exact hused ▸ ht

/-- The reader asks for more bytes exactly on a partial VarInt. -/
theorem decode_eof_iff {b : Bytes} {e : Error} (h : decode b = .error e) :
    e.isUnexpectedEof = true ↔ Partial b := by
  rcases input_cases b with hp | ho | ⟨used, rest, rfl, ht⟩
  · rw [decode_of_cut hp] at h
    obtain rfl : Error.io .unexpectedEof = e := by simpa using h
    exact ⟨fun _ => hp, fun _ => rfl⟩
  · rw [decode_of_overlong ho] at h
    obtain rfl : capacityError = e := by simpa using h
    refine ⟨fun hf => absurd hf (by decide), fun hp => ?_⟩
    have h1 := ho.1
    have h2 := hp.1
    omega
  · obtain ⟨v, hv⟩ := ht.reads
    rw [hv rest] at h
    exact absurd h (by simp)

theorem decode_capacity_iff (b : Bytes) : decode b = .error capacityError ↔ Overlong b := by
  refine ⟨fun h => ?_, decode_of_overlong⟩
  rcases input_cases b with hp | ho | ⟨used, rest, rfl, ht⟩
  · rw [decode_of_cut hp] at h
    exact absurd h (by decide)
  · exact ho
  · obtain ⟨v, hv⟩ := ht.reads
    rw [hv rest] at h
    exact absurd h (by simp)

theorem decode_cut_iff (b : Bytes) : decode b = .error (.io .unexpectedEof) ↔ Partial b :=
  ⟨fun h => (decode_eof_iff h).mp rfl, decode_of_cut⟩

/-- The reader succeeds where one of the first five bytes does not continue. -/
theorem decode_succeeds_iff (b : Bytes) :
    (∃ r, decode b = .ok r) ↔ ∃ x ∈ b.take 5, ¬ Continues x := by
  rcases input_cases b with hp | ho | ⟨used, rest, rfl, ht⟩
  · rw [decode_of_cut hp]
    constructor
    · rintro ⟨r, hr⟩
      cases hr
    · rintro ⟨x, hx, hno⟩
      exact absurd (hp.2 x (List.mem_of_mem_take hx)) hno
  · rw [decode_of_overlong ho]
    constructor
    · rintro ⟨r, hr⟩
      cases hr
    · rintro ⟨x, hx, hno⟩
      exact absurd (ho.2 x hx) hno
  · obtain ⟨v, hv⟩ := ht.reads
    obtain ⟨init, last, rfl, hlen, -, hlast⟩ := ht
    refine ⟨fun _ => ⟨last, ?_, hlast⟩, fun _ => ⟨_, hv rest⟩⟩
    have hfive : (init ++ [last]).length ≤ 5 := by
      rw [List.length_append, List.length_singleton]
      omega
    rw [List.take_append, List.take_of_length_le hfive]
    exact List.mem_append_left _ (List.mem_append_right _ (List.mem_singleton.mpr rfl))

/-! ### The shortest encoding -/

/-- A round leaves no bit above the seven it adds. -/
theorem accumulate_lt (byte : Byte) {value : BitVec 32} {pos : Nat} (hv : value.toNat < 2 ^ pos) :
    (value ||| ((byte &&& segmentBits).setWidth 32 <<< pos)).toNat < 2 ^ (pos + 7) := by
  by_cases hpos : pos + 7 ≤ 32
  · have hpow : 2 ^ (pos + 7) = 2 ^ pos * 128 := Nat.pow_add 2 pos 7
    have hle : 2 ^ (pos + 7) ≤ 2 ^ 32 := Nat.pow_le_pow_right (by omega) hpos
    have hbyte : byte.toNat % 128 * 2 ^ pos ≤ 127 * 2 ^ pos :=
      Nat.mul_le_mul_right _ (by omega)
    rw [toNat_accumulate byte hv (by omega)]
    omega
  · exact Nat.lt_of_lt_of_le (BitVec.isLt _) (Nat.pow_le_pow_right (by omega) (by omega))

theorem decodeLoop_lt : ∀ (init : Bytes) (last : Byte) (rest : Bytes) (value : BitVec 32)
    (pos : Nat) {v : VarInt} {rest' : Bytes}, (∀ x ∈ init, Continues x) → ¬ Continues last →
    pos + 7 * init.length < 35 → value.toNat < 2 ^ pos →
    decodeLoop (init ++ last :: rest) value pos = .ok (v, rest') →
    v.val.toNat < 2 ^ (pos + 7 * (init.length + 1)) := by
  intro init
  induction init with
  | nil =>
    intro last rest value pos v rest' _ hlast _ hv h
    rw [List.nil_append, decodeLoop_last hlast] at h
    cases h
    exact accumulate_lt last hv
  | cons x init ih =>
    intro last rest value pos v rest' hall hlast hlen hv h
    rw [List.length_cons] at hlen
    rw [List.cons_append, decodeLoop_more (hall x List.mem_cons_self) (by omega)] at h
    have hlt := ih last rest _ (pos + 7) (fun y hy => hall y (List.mem_cons_of_mem x hy)) hlast
      (by omega) (accumulate_lt x hv) h
    rw [List.length_cons, show pos + 7 * (init.length + 1 + 1) = pos + 7 + 7 * (init.length + 1) by
      omega]
    exact hlt

/-- A value of `7 * n` bits takes no more than `n` bytes. -/
theorem encodeLoop_length_le_of_lt : ∀ (rounds n : Nat) (value : BitVec 32), 0 < n →
    value.toNat < 2 ^ (7 * n) → (encodeLoop rounds value).length ≤ n := by
  intro rounds
  induction rounds with
  | zero => exact fun n _ _ _ => Nat.zero_le n
  | succ rounds ih =>
    intro n value hn hv
    by_cases h : value.toNat < 128
    · rw [encodeLoop_small h, List.length_singleton]
      exact hn
    · have hlarge : 1 < n := by
        by_contra hsmall
        have hone : n = 1 := by omega
        rw [hone] at hv
        exact h hv
      have hpow : 2 ^ (7 * n) = 2 ^ (7 * (n - 1)) * 128 := by
        rw [show 7 * n = 7 * (n - 1) + 7 by omega, Nat.pow_add]
      have hshift : (value >>> 7).toNat < 2 ^ (7 * (n - 1)) := by
        rw [toNat_shift]
        omega
      have hrest := ih (n - 1) (value >>> 7) (by omega) hshift
      rw [encodeLoop_large (by omega), List.length_cons]
      omega

/-- No encoding of a value is shorter than the one written. -/
theorem Terminated.encode_length_le {used : Bytes} {v : VarInt} (ht : Terminated used)
    (hread : Reads decode used v) : v.encode.length ≤ used.length := by
  obtain ⟨init, last, rfl, hlen, hall, hlast⟩ := ht
  have hdecode := hread []
  rw [List.append_nil, decode] at hdecode
  have hlt := decodeLoop_lt init last [] 0 0 hall hlast (by omega) (by decide) hdecode
  rw [Nat.zero_add] at hlt
  rw [List.length_append, List.length_singleton]
  exact encodeLoop_length_le_of_lt 5 (init.length + 1) v.val (Nat.succ_pos _) hlt

/-- The codec on every input.  What is written is read back, in one to five bytes.
The reader succeeds where one of the first five bytes does not continue; it stops
behind the first such byte, and no shorter encoding of the value exists.  It runs
out of bytes on fewer than five that all continue, and refuses five. -/
theorem codec_spec :
    (∀ (v : VarInt) (s : Bytes), decode (v.encode ++ s) = .ok (v, s) ∧
      1 ≤ v.encode.length ∧ v.encode.length ≤ 5) ∧
    ∀ b : Bytes,
      ((∃ r, decode b = .ok r) ↔ ∃ x ∈ b.take 5, ¬ Continues x) ∧
      (∀ v rest, decode b = .ok (v, rest) → ∃ init last, b = init ++ [last] ++ rest ∧
        (∀ x ∈ init, Continues x) ∧ ¬ Continues last ∧
        v.encode.length ≤ (init ++ [last]).length) ∧
      (decode b = .error (.io .unexpectedEof) ↔ b.length < 5 ∧ ∀ x ∈ b, Continues x) ∧
      (decode b = .error capacityError ↔ 5 ≤ b.length ∧ ∀ x ∈ b.take 5, Continues x) := by
  refine ⟨fun v s => ⟨decode_encode v s, encode_length_pos v, encode_length_le v⟩, fun b =>
    ⟨decode_succeeds_iff b, fun v rest h => ?_, decode_cut_iff b, decode_capacity_iff b⟩⟩
  obtain ⟨used, rfl, ht, hread⟩ := decode_ok h
  have hshort := ht.encode_length_le hread
  obtain ⟨init, last, rfl, -, hall, hlast⟩ := ht
  exact ⟨init, last, rfl, hall, hlast, hshort⟩

theorem decode_refuses : Refuses Plain decode := by
  have hloop : ∀ (b : Bytes) (value : BitVec 32) (pos : Nat),
      Fails Plain (decodeLoop b value pos) := by
    intro b
    induction b with
    | nil => exact fun _ _ => Fails.error rfl
    | cons byte rest ih =>
      intro value pos
      rw [decodeLoop]
      simp only
      split
      · exact Fails.ok _
      · split
        · exact Fails.error rfl
        · exact ih _ _
  exact fun b => hloop b 0 0

end VarInt

end Statik
