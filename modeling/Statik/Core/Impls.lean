import Statik.Core.Types
import Statik.Core.Utf8
import Statik.Core.VarInt
import Statik.Core.Position

/-!
# Encode and Decode impls

One writer and one reader for each `Encode` / `Decode` impl the packets use.
Numbers of one width share one pair: `u16`, `i16` and the float types differ in
how their bits are read, not in the bytes on the wire.
-/

namespace Statik

open Wire

/-- `i32::MAX`. -/
def i32Max : Nat := 2147483647

/-- `MAX_PACKET_SIZE`. -/
def maxPacketSize : Nat := 2097152

/-- `x as usize` for an `i32`, on a target whose `usize` has 64 bits: a negative
number becomes a huge one. -/
def asUsize (x : BitVec 32) : Nat := (x.signExtend 64).toNat

/-- `value as i32` for a `usize`. -/
def VarInt.ofUsize (n : Nat) : VarInt := ⟨BitVec.ofNat 32 n⟩

/-- `read_u8`. -/
def readU8 : Decoder Error Byte
  | [] => .error (.io .unexpectedEof)
  | b :: rest => .ok (b, rest)

def encodeBool (b : Bool) : Bytes := [if b then 1 else 0]

def decodeBool : Decoder Error Bool := do
  let n ← readU8
  if n.toNat ≤ 1 then pure (n == 1)
  else
    let got := n.toNat
    throw (.msg s!"decoded boolean is not 0 or 1 (got {got})")

/-- `write_u16::<BigEndian>` and its like, for a number `n` bytes wide. -/
def encodeInt (n : Nat) (v : BitVec (8 * n)) : Bytes := beBytes n v.toNat

/-- `read_u16::<BigEndian>` and its like. -/
def decodeInt (n : Nat) : Decoder Error (BitVec (8 * n)) := do
  let bs ← takeBytes (.io .unexpectedEof) n
  pure (BitVec.ofNat (8 * n) (beNat bs))

def encodeString (s : String) : Except Error Bytes :=
  let length := (utf8 s).length
  if length ≤ i32Max then .ok ((VarInt.ofUsize length).encode ++ utf8 s)
  else .error (.msg s!"byte length of string ({length}) exceeds i32::MAX")

/-- The loop of `String::decode`, with `remaining` of its `length` rounds to go. -/
def decodeStringBytes (length : Nat) : Nat → Decoder Error Bytes
  | 0 => pure []
  | remaining + 1 => do
    let i := length - (remaining + 1)
    let b ← decodeContext (s!"Not enough data remaining to decode string: buffer length must " ++
      s!"be {length} (was {i}) according to the starting VarInt") readU8
    let bs ← decodeStringBytes length remaining
    pure (b :: bs)

def decodeString : Decoder Error String := do
  let length ← VarInt.decode
  if 0 ≤ length.val.toInt then
    let buf ← decodeStringBytes length.val.toNat length.val.toNat
    match fromUtf8 buf with
    | some s => pure s
    | none => throw (.msg (utf8ErrorText buf))
  else throw (.msg "attempt to decode struct with negative length")

def encodeVec {α : Type} (enc : α → Except Error Bytes) (xs : List α) : Except Error Bytes :=
  let length := xs.length
  if length ≤ i32Max then
    match encodeMany enc xs with
    | .ok bs => .ok ((VarInt.ofUsize length).encode ++ bs)
    | .error e => .error e
  else .error (.msg s!"byte length of Vec ({length}) exceeds i32::MAX")

def decodeVec {α : Type} (dec : Decoder Error α) : Decoder Error (List α) := do
  let length ← VarInt.decode
  if 0 ≤ length.val.toInt then many dec length.val.toNat
  else throw (.msg "Attempted to decode struct with negative length")

def encodeOption {α : Type} (enc : α → Except Error Bytes) : Option α → Except Error Bytes
  | some t =>
    match enc t with
    | .ok bs => .ok (encodeBool true ++ bs)
    | .error e => .error e
  | none => .ok (encodeBool false)

def decodeOption {α : Type} (dec : Decoder Error α) : Decoder Error (Option α) := do
  let present ← decodeBool
  if present then some <$> dec else pure none

/-- `[u8; N]`: exactly `n` bytes, no length prefix. -/
def decodeByteArray (n : Nat) : Decoder Error { b : Bytes // b.length = n } := fun b =>
  if h : n ≤ b.length then .ok (⟨b.take n, by rw [List.length_take]; omega⟩, b.drop n)
  else .error (.io .unexpectedEof)

/-- `RawBytes`: `read_to_end`. -/
def decodeRawBytes : Decoder Error Bytes := fun b => .ok (b, [])

def encodeBlockPos (p : BlockPos) : Bytes := encodeInt 8 p.toPacked

def decodeBlockPos : Decoder Error BlockPos := BlockPos.fromPacked <$> decodeInt 8

/-- `*self as i32`. -/
def ClientIntent.toVarInt : ClientIntent → VarInt
  | .status => ⟨1⟩
  | .login => ⟨2⟩
  | .transfer => ⟨3⟩

def decodeClientIntent : Decoder Error ClientIntent := do
  let v ← VarInt.decode
  if v.val = 1 then pure .status
  else if v.val = 2 then pure .login
  else if v.val = 3 then pure .transfer
  else
    let n := v.val.toInt
    throw (.msg (s!"parsed VarInt returned an invalid ClientIntent: {n}. Only values 1, 2 and " ++
      "3 are valid."))

/-- A `String` read and then parsed as JSON. -/
def decodeJson {α : Type} (fromStr : String → Except String α) : Decoder Error α := do
  let s ← decodeString
  match fromStr s with
  | .ok a => pure a
  | .error text => throw (.msg text)

/-! ### Round trips -/

theorem asUsize_of_nonneg {x : BitVec 32} (h : x.toNat < 2 ^ 31) : asUsize x = x.toNat := by
  rw [asUsize, BitVec.signExtend_eq_setWidth_of_msb_false, BitVec.toNat_setWidth]
  · omega
  · rw [BitVec.msb_eq_decide]
    simpa using h

theorem readU8_reads (b : Byte) : Reads readU8 [b] b := fun _ => rfl

theorem decodeBool_reads (b : Bool) : Reads decodeBool (encodeBool b) b := by
  intro rest
  cases b <;> rfl

theorem decodeInt_reads (n : Nat) (v : BitVec (8 * n)) :
    Reads (decodeInt n) (encodeInt n v) v := by
  refine (takeBytes_reads (Error.io .unexpectedEof) (beBytes_length n v.toNat)).bind_nil ?_
  rw [ofNat_beNat_beBytes]
  exact Reads.pure v

theorem ofUsize_toNat_of_lt {n : Nat} (h : n < 2 ^ 32) : (VarInt.ofUsize n).val.toNat = n := by
  rw [VarInt.ofUsize, BitVec.toNat_ofNat, Nat.mod_eq_of_lt h]

theorem ofUsize_toNat {n : Nat} (h : n ≤ i32Max) : (VarInt.ofUsize n).val.toNat = n := by
  unfold i32Max at h
  exact ofUsize_toNat_of_lt (by omega)

theorem ofUsize_toNat_val (v : VarInt) : VarInt.ofUsize v.val.toNat = v := by
  rw [VarInt.ofUsize, BitVec.ofNat_toNat, BitVec.setWidth_eq]

/-- A length that is not negative is the same number without a sign. -/
theorem toNat_of_nonneg {x : BitVec 32} (h : 0 ≤ x.toInt) :
    x.toInt = x.toNat ∧ x.toNat ≤ i32Max := by
  rw [BitVec.toInt_eq_toNat_cond] at h ⊢
  unfold i32Max
  split at h <;> omega

theorem ofUsize_toInt {n : Nat} (h : n ≤ i32Max) : (VarInt.ofUsize n).val.toInt = n := by
  have hn := ofUsize_toNat h
  unfold i32Max at h
  rw [BitVec.toInt_eq_toNat_of_lt (by omega), hn]

theorem decodeStringBytes_reads (length : Nat) :
    ∀ bs : Bytes, Reads (decodeStringBytes length bs.length) bs bs := by
  intro bs
  induction bs with
  | nil => exact Reads.pure []
  | cons b bs ih =>
    exact (reads_decodeContext _ (readU8_reads b)).bind (ih.bind_nil (Reads.pure (b :: bs)))

/-- A `String` no longer than `i32::MAX` bytes is written and read back. -/
theorem decodeString_reads {s : String} (h : (utf8 s).length ≤ i32Max) :
    ∃ bs, encodeString s = .ok bs ∧ Reads decodeString bs s := by
  refine ⟨_, if_pos h, (VarInt.decode_encode _).bind ?_⟩
  rw [ofUsize_toInt h, if_pos (Int.natCast_nonneg _), ofUsize_toNat h]
  refine (decodeStringBytes_reads (utf8 s).length (utf8 s)).bind_nil ?_
  rw [fromUtf8_utf8]
  exact Reads.pure s

/-- A `Vec` no longer than `i32::MAX` is written and read back when its items are. -/
theorem decodeVec_reads {α : Type} {dec : Decoder Error α} {enc : α → Except Error Bytes}
    {xs : List α} (hlen : xs.length ≤ i32Max)
    (h : ∀ x ∈ xs, ∃ b, enc x = .ok b ∧ Reads dec b x) :
    ∃ bs, encodeVec enc xs = .ok bs ∧ Reads (decodeVec dec) bs xs := by
  obtain ⟨bs, hbs, hread⟩ := encodeMany_reads xs h
  refine ⟨(VarInt.ofUsize xs.length).encode ++ bs, ?_, (VarInt.decode_encode _).bind ?_⟩
  · rw [encodeVec]
    simp only [hbs, if_pos hlen]
  · rw [ofUsize_toInt hlen, if_pos (Int.natCast_nonneg _), ofUsize_toNat hlen]
    exact hread

theorem decodeOption_reads {α : Type} {dec : Decoder Error α} {enc : α → Except Error Bytes}
    {x : Option α} (h : ∀ a, x = some a → ∃ b, enc a = .ok b ∧ Reads dec b a) :
    ∃ bs, encodeOption enc x = .ok bs ∧ Reads (decodeOption dec) bs x := by
  cases x with
  | none => exact ⟨_, rfl, (decodeBool_reads false).bind (Reads.pure none)⟩
  | some a =>
    obtain ⟨b, hb, hread⟩ := h a rfl
    refine ⟨encodeBool true ++ b, ?_, (decodeBool_reads true).bind (hread.map some)⟩
    rw [encodeOption, hb]

theorem decodeOption_readsAll {α : Type} {dec : Decoder Error α} {enc : α → Except Error Bytes}
    {x : Option α} (h : ∀ a, x = some a → ∃ b, enc a = .ok b ∧ ReadsAll dec b a) :
    ∃ bs, encodeOption enc x = .ok bs ∧ ReadsAll (decodeOption dec) bs x := by
  cases x with
  | none => exact ⟨_, rfl, (decodeBool_reads false).bind_all (Reads.pure none).all⟩
  | some a =>
    obtain ⟨b, hb, hread⟩ := h a rfl
    refine ⟨encodeBool true ++ b, ?_, (decodeBool_reads true).bind_all (hread.map some)⟩
    rw [encodeOption, hb]

theorem decodeByteArray_reads {n : Nat} (a : { b : Bytes // b.length = n }) :
    Reads (decodeByteArray n) a.val a := by
  obtain ⟨b, rfl⟩ := a
  intro rest
  have hle : b.length ≤ (b ++ rest).length := by
    rw [List.length_append]
    exact Nat.le_add_right _ _
  rw [decodeByteArray, dif_pos hle]
  simp

theorem decodeBlockPos_reads {p : BlockPos} (h : p.InRange) :
    Reads decodeBlockPos (encodeBlockPos p) p := by
  have hread := (decodeInt_reads 8 p.toPacked).map BlockPos.fromPacked
  rwa [(BlockPos.fromPacked_toPacked_eq_iff p).mpr h] at hread

theorem decodeClientIntent_reads (i : ClientIntent) :
    Reads decodeClientIntent i.toVarInt.encode i := by
  refine (VarInt.decode_encode i.toVarInt).bind_nil ?_
  cases i <;> exact Reads.pure _

theorem decodeJson_reads {α : Type} {fromStr : String → Except String α} {s : String} {a : α}
    (hlen : (utf8 s).length ≤ i32Max) (h : fromStr s = .ok a) :
    ∃ bs, encodeString s = .ok bs ∧ Reads (decodeJson fromStr) bs a := by
  obtain ⟨bs, hbs, hread⟩ := decodeString_reads hlen
  refine ⟨bs, hbs, hread.bind_nil ?_⟩
  rw [h]
  exact Reads.pure a

/-! ### Truncated inputs -/

theorem readU8_delimits : Delimits readU8 := by
  intro b rest a h
  cases b with
  | nil => cases h
  | cons x b =>
    obtain ⟨rfl, rfl⟩ := Prod.mk.inj (Except.ok.inj h)
    exact ⟨[x], rfl, readU8_reads x⟩

theorem decodeBool_delimits : Delimits decodeBool := by
  refine readU8_delimits.bind fun n => ?_
  split
  · exact Delimits.pure _
  · exact Delimits.throw _

theorem decodeInt_delimits (n : Nat) : Delimits (decodeInt n) :=
  (Delimits.takeBytes _ n).bind fun _ => Delimits.pure _

theorem decodeStringBytes_delimits (length : Nat) :
    ∀ remaining, Delimits (decodeStringBytes length remaining) := by
  intro remaining
  induction remaining with
  | zero => exact Delimits.pure []
  | succ remaining ih =>
    exact (delimits_decodeContext _ readU8_delimits).bind fun b =>
      ih.bind fun bs => Delimits.pure (b :: bs)

theorem decodeString_delimits : Delimits decodeString := by
  refine VarInt.decode_delimits.bind fun length => ?_
  split
  · refine (decodeStringBytes_delimits _ _).bind fun buf => ?_
    split
    · exact Delimits.pure _
    · exact Delimits.throw _
  · exact Delimits.throw _

theorem decodeVec_delimits {α : Type} {dec : Decoder Error α} (h : Delimits dec) :
    Delimits (decodeVec dec) := by
  refine VarInt.decode_delimits.bind fun length => ?_
  split
  · exact h.many _
  · exact Delimits.throw _

theorem decodeOption_delimits {α : Type} {dec : Decoder Error α} (h : Delimits dec) :
    Delimits (decodeOption dec) := by
  refine decodeBool_delimits.bind fun present => ?_
  split
  · exact h.map some
  · exact Delimits.pure none

theorem decodeByteArray_delimits (n : Nat) : Delimits (decodeByteArray n) := by
  intro b rest a h
  rw [decodeByteArray] at h
  split at h
  · obtain ⟨rfl, rfl⟩ := Prod.mk.inj (Except.ok.inj h)
    exact ⟨b.take n, (List.take_append_drop n b).symm, decodeByteArray_reads ⟨b.take n, _⟩⟩
  · cases h

theorem decodeClientIntent_delimits : Delimits decodeClientIntent := by
  refine VarInt.decode_delimits.bind fun v => ?_
  split
  · exact Delimits.pure _
  · split
    · exact Delimits.pure _
    · split
      · exact Delimits.pure _
      · exact Delimits.throw _

theorem decodeJson_delimits {α : Type} (fromStr : String → Except String α) :
    Delimits (decodeJson fromStr) := by
  refine decodeString_delimits.bind fun s => ?_
  split
  · exact Delimits.pure _
  · exact Delimits.throw _

/-- What is written for a `String` is read. -/
theorem encodeString_length {s : String} {bs : Bytes} (h : encodeString s = .ok bs) :
    (utf8 s).length ≤ i32Max := by
  rw [encodeString] at h
  split at h
  · next hlen => exact hlen
  · cases h

theorem encodeString_reads {s : String} {bs : Bytes} (h : encodeString s = .ok bs) :
    Reads decodeString bs s := by
  obtain ⟨bs', hbs', hread⟩ := decodeString_reads (encodeString_length h)
  rwa [Except.ok.inj (h.symm.trans hbs')]

/-- What is written for a list of items is read as a list, if that of each item is. -/
theorem encodeMany_reads_some {α : Type} {dec : Decoder Error α} {enc : α → Except Error Bytes}
    (h : ∀ x b, enc x = .ok b → ∃ y, Reads dec b y) :
    ∀ (xs : List α) (bs : Bytes), encodeMany enc xs = .ok bs →
      ∃ ys, Reads (many dec xs.length) bs ys := by
  intro xs
  induction xs with
  | nil =>
    intro bs hbs
    cases hbs
    exact ⟨[], Reads.pure []⟩
  | cons x xs ih =>
    intro bs hbs
    rw [encodeMany] at hbs
    cases hx : enc x with
    | error e =>
      rw [hx] at hbs
      cases hbs
    | ok b =>
      cases hxs : encodeMany enc xs with
      | error e =>
        rw [hx, hxs] at hbs
        cases hbs
      | ok bs' =>
        rw [hx, hxs] at hbs
        cases hbs
        obtain ⟨y, hy⟩ := h x b hx
        obtain ⟨ys, hys⟩ := ih bs' hxs
        exact ⟨y :: ys, hy.bind (hys.bind_nil (Reads.pure (y :: ys)))⟩

theorem encodeVec_reads_some {α : Type} {dec : Decoder Error α} {enc : α → Except Error Bytes}
    (h : ∀ x b, enc x = .ok b → ∃ y, Reads dec b y) {xs : List α} {bs : Bytes}
    (hbs : encodeVec enc xs = .ok bs) : ∃ ys, Reads (decodeVec dec) bs ys := by
  rw [encodeVec] at hbs
  split at hbs
  · next hlen =>
    cases hmany : encodeMany enc xs with
    | error e =>
      rw [hmany] at hbs
      cases hbs
    | ok items =>
      rw [hmany] at hbs
      cases hbs
      obtain ⟨ys, hys⟩ := encodeMany_reads_some h xs items hmany
      refine ⟨ys, (VarInt.decode_encode _).bind ?_⟩
      rw [ofUsize_toInt hlen, if_pos (Int.natCast_nonneg _), ofUsize_toNat hlen]
      exact hys
  · cases hbs

theorem encodeOption_reads_some {α : Type} {dec : Decoder Error α} {enc : α → Except Error Bytes}
    (h : ∀ x b, enc x = .ok b → ∃ y, Reads dec b y) {x : Option α} {bs : Bytes}
    (hbs : encodeOption enc x = .ok bs) : ∃ y, Reads (decodeOption dec) bs y := by
  cases x with
  | none =>
    cases hbs
    exact ⟨none, (decodeBool_reads false).bind_nil (Reads.pure none)⟩
  | some a =>
    rw [encodeOption] at hbs
    cases ha : enc a with
    | error e =>
      rw [ha] at hbs
      cases hbs
    | ok b =>
      rw [ha] at hbs
      cases hbs
      obtain ⟨y, hy⟩ := h a b ha
      exact ⟨some y, (decodeBool_reads true).bind (hy.map some)⟩

/-! ### Failures -/

theorem readU8_refuses : Refuses Plain readU8
  | [] => Fails.error rfl
  | b :: rest => Fails.ok (b, rest)

theorem decodeBool_refuses : Refuses Plain decodeBool := by
  refine readU8_refuses.bind fun n => ?_
  split
  · exact Refuses.pure _
  · exact Refuses.throw rfl

theorem decodeInt_refuses (n : Nat) : Refuses Plain (decodeInt n) := by
  have heof : Plain (.io .unexpectedEof) := rfl
  exact (Refuses.takeBytes heof n).bind fun _ => Refuses.pure _

theorem decodeStringBytes_refuses (length : Nat) :
    ∀ remaining, Refuses Plain (decodeStringBytes length remaining) := by
  intro remaining
  induction remaining with
  | zero => exact Refuses.pure []
  | succ remaining ih =>
    exact Refuses.bind (fun b => fails_withContext _ (readU8 b)) fun b =>
      ih.bind fun bs => Refuses.pure (b :: bs)

theorem decodeString_refuses : Refuses Plain decodeString := by
  refine VarInt.decode_refuses.bind fun length => ?_
  split
  · refine (decodeStringBytes_refuses _ _).bind fun buf => ?_
    split
    · exact Refuses.pure _
    · exact Refuses.throw rfl
  · exact Refuses.throw rfl

theorem decodeVec_refuses {α : Type} {dec : Decoder Error α} (h : Refuses Plain dec) :
    Refuses Plain (decodeVec dec) := by
  refine VarInt.decode_refuses.bind fun length => ?_
  split
  · exact h.many _
  · exact Refuses.throw rfl

theorem decodeOption_refuses {α : Type} {dec : Decoder Error α} (h : Refuses Plain dec) :
    Refuses Plain (decodeOption dec) := by
  refine decodeBool_refuses.bind fun present => ?_
  split
  · exact h.map some
  · exact Refuses.pure none

theorem decodeByteArray_refuses (n : Nat) : Refuses Plain (decodeByteArray n) := by
  intro b
  rw [decodeByteArray]
  split
  · exact Fails.ok _
  · exact Fails.error rfl

theorem decodeClientIntent_refuses : Refuses Plain decodeClientIntent := by
  refine VarInt.decode_refuses.bind fun v => ?_
  split
  · exact Refuses.pure _
  · split
    · exact Refuses.pure _
    · split
      · exact Refuses.pure _
      · exact Refuses.throw rfl

theorem decodeJson_refuses {α : Type} (fromStr : String → Except String α) :
    Refuses Plain (decodeJson fromStr) := by
  refine decodeString_refuses.bind fun s => ?_
  split
  · exact Refuses.pure _
  · exact Refuses.throw rfl

theorem encodeString_fails (s : String) : Fails Textual (encodeString s) := by
  rw [encodeString]
  split
  · exact Fails.ok _
  · exact Fails.error (Textual.msg _)

theorem encodeVec_fails {α : Type} {enc : α → Except Error Bytes} (xs : List α)
    (h : ∀ x ∈ xs, Fails Textual (enc x)) : Fails Textual (encodeVec enc xs) := by
  rw [encodeVec]
  split
  · cases hbs : encodeMany enc xs with
    | ok bs => exact Fails.ok _
    | error e => exact Fails.error (Fails.encodeMany h e hbs)
  · exact Fails.error (Textual.msg _)

theorem encodeOption_fails {α : Type} {enc : α → Except Error Bytes} (x : Option α)
    (h : ∀ a, x = some a → Fails Textual (enc a)) : Fails Textual (encodeOption enc x) := by
  cases x with
  | none => exact Fails.ok _
  | some a =>
    rw [encodeOption]
    cases ha : enc a with
    | ok bs => exact Fails.ok _
    | error e => exact Fails.error (h a rfl e ha)

end Statik
