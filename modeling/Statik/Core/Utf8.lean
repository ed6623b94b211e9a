import Mathlib.Algebra.Order.Group.Nat
import Mathlib.Data.List.Forall2
import Statik.Wire.Decoder

/-!
# UTF-8

`String::from_utf8` and the error it gives.  `fromUtf8` is what the bytes spell,
`utf8Validation` the walk that finds the first byte out of place.  That the one
gives nothing exactly where the other finds an error is `fromUtf8_eq_none_iff`.
-/

namespace Statik

open Wire

/-- The bytes of a Rust `String`. -/
def utf8 (s : String) : Bytes := s.toUTF8.data.toList.map UInt8.toBitVec

/-- `String::from_utf8`. -/
def fromUtf8 (b : Bytes) : Option String :=
  String.fromUTF8? ⟨(b.map UInt8.ofBitVec).toArray⟩

/-- `Utf8Error`: the bytes before the fault, and how many are at fault, where they are not
merely cut short. -/
structure Utf8Error where
  validUpTo : Nat
  errorLen : Option Nat
  deriving DecidableEq, Repr

/-- `Display for Utf8Error`. -/
def Utf8Error.display (e : Utf8Error) : String :=
  let index := e.validUpTo
  match e.errorLen with
  | some len => s!"invalid utf-8 sequence of {len} bytes from index {index}"
  | none => s!"incomplete utf-8 byte sequence from index {index}"

/-- The least and the greatest byte for each place after a first byte, and nothing for one
that begins no sequence. -/
def utf8Tail (first : Byte) : Option (List (Nat × Nat)) :=
  let n := first.toNat
  if n ≤ 0x7f then some []
  else if 0xc2 ≤ n ∧ n ≤ 0xdf then some [(0x80, 0xbf)]
  else if n = 0xe0 then some [(0xa0, 0xbf), (0x80, 0xbf)]
  else if n = 0xed then some [(0x80, 0x9f), (0x80, 0xbf)]
  else if 0xe1 ≤ n ∧ n ≤ 0xef then some [(0x80, 0xbf), (0x80, 0xbf)]
  else if n = 0xf0 then some [(0x90, 0xbf), (0x80, 0xbf), (0x80, 0xbf)]
  else if 0xf1 ≤ n ∧ n ≤ 0xf3 then some [(0x80, 0xbf), (0x80, 0xbf), (0x80, 0xbf)]
  else if n = 0xf4 then some [(0x80, 0x8f), (0x80, 0xbf), (0x80, 0xbf)]
  else none

/-- `run_utf8_validation`, with `seen` bytes of the sequence at `validUpTo` read, and
those of the ranges to come. -/
def utf8Validation (validUpTo seen : Nat) : List (Nat × Nat) → Bytes → Option Utf8Error
  | [], [] => none
  | _ :: _, [] => some { validUpTo := validUpTo, errorLen := none }
  | [], first :: rest =>
    let index := validUpTo + seen
    match utf8Tail first with
    | some ranges => utf8Validation index 1 ranges rest
    | none => some { validUpTo := index, errorLen := some 1 }
  | (low, high) :: ranges, next :: rest =>
    if low ≤ next.toNat ∧ next.toNat ≤ high then
      utf8Validation validUpTo (seen + 1) ranges rest
    else some { validUpTo := validUpTo, errorLen := some seen }

/-- The error `String::from_utf8` gives for bytes that spell nothing. -/
def utf8Error (b : Bytes) : Option Utf8Error := utf8Validation 0 0 [] b

/-- Its text.  There is one wherever `fromUtf8` gives nothing. -/
def utf8ErrorText (b : Bytes) : String := (utf8Error b).elim "" Utf8Error.display

/-! ### Characters and sequences -/

def charBytes (c : Char) : Bytes := (String.utf8EncodeChar c).map UInt8.toBitVec

def InRange (range : Nat × Nat) (b : Byte) : Prop := range.1 ≤ b.toNat ∧ b.toNat ≤ range.2

/-- A first byte and what may follow it. -/
def Sequence (b : Bytes) : Prop :=
  ∃ first ranges rest, b = first :: rest ∧ utf8Tail first = some ranges ∧
    List.Forall₂ InRange ranges rest

theorem fromUtf8_utf8 (s : String) : fromUtf8 (utf8 s) = some s := by
  have hbytes : ((utf8 s).map UInt8.ofBitVec).toArray = s.toUTF8.data := by
    rw [utf8, List.map_map]
    simp [Function.comp_def]
  rw [fromUtf8, hbytes]
  exact dif_pos s.isValidUTF8

/-- A string is only made of bytes that are its own. -/
theorem utf8_of_fromUtf8 {b : Bytes} {s : String} (h : fromUtf8 b = some s) : utf8 s = b := by
  rw [fromUtf8, String.fromUTF8?] at h
  split at h
  · cases h
    rw [utf8]
    simp [String.fromUTF8, Function.comp_def]
  · cases h

theorem utf8_ofList (cs : List Char) : utf8 (.ofList cs) = cs.flatMap charBytes := by
  rw [utf8, String.toUTF8_eq_toByteArray, String.toByteArray_ofList, List.utf8Encode]
  simp only [List.data_toByteArray, List.map_flatMap]
  rfl

/-- The places of a sequence by the size of the character. -/
theorem charBytes_eq (c : Char) :
    charBytes c =
      let v := c.val.toNat
      let place := fun shift limit mark => BitVec.ofNat 8 (v / shift % limit + mark)
      if v ≤ 0x7f then [BitVec.ofNat 8 v]
      else if v ≤ 0x7ff then [place 64 0x20 0xc0, place 1 0x40 0x80]
      else if v ≤ 0xffff then [place 4096 0x10 0xe0, place 64 0x40 0x80, place 1 0x40 0x80]
      else [place 262144 0x08 0xf0, place 4096 0x40 0x80, place 64 0x40 0x80,
        place 1 0x40 0x80] := by
  rw [charBytes, String.utf8EncodeChar]
  simp only [Nat.div_one]
  split
  · rfl
  · split
    · rfl
    · split <;> rfl

theorem char_valid (c : Char) :
    c.val.toNat < 0xd800 ∨ 0xdfff < c.val.toNat ∧ c.val.toNat < 0x110000 := c.valid

/-- The first bytes of two, three and four places, and the second bytes they allow. -/
theorem utf8Tail_two : ∀ t : Fin 32, 2 ≤ t.val →
    utf8Tail (BitVec.ofNat 8 (t.val + 0xc0)) = some [(0x80, 0xbf)] := by decide

theorem utf8Tail_three : ∀ t : Fin 16, utf8Tail (BitVec.ofNat 8 (t.val + 0xe0)) =
    some [(if t.val = 0 then 0xa0 else 0x80, if t.val = 13 then 0x9f else 0xbf),
      (0x80, 0xbf)] := by decide

theorem utf8Tail_four : ∀ t : Fin 5, utf8Tail (BitVec.ofNat 8 (t.val + 0xf0)) =
    some [(if t.val = 0 then 0x90 else 0x80, if t.val = 4 then 0x8f else 0xbf),
      (0x80, 0xbf), (0x80, 0xbf)] := by decide

theorem sequence_charBytes (c : Char) : Sequence (charBytes c) := by
  have hvalid := char_valid c
  rw [charBytes_eq]
  simp only
  generalize c.val.toNat = v at hvalid ⊢
  have htail : ∀ n, InRange (0x80, 0xbf) (BitVec.ofNat 8 (n % 0x40 + 0x80)) := by
    intro n
    rw [InRange, BitVec.toNat_ofNat]
    omega
  by_cases hone : v ≤ 0x7f
  · rw [if_pos hone]
    refine ⟨_, [], [], rfl, ?_, .nil⟩
    rw [utf8Tail, BitVec.toNat_ofNat]
    exact if_pos (by omega)
  rw [if_neg hone]
  by_cases htwo : v ≤ 0x7ff
  · rw [if_pos htwo]
    exact ⟨_, _, _, rfl, utf8Tail_two ⟨v / 64 % 0x20, by omega⟩ (by simp only; omega),
      .cons (htail _) .nil⟩
  rw [if_neg htwo]
  by_cases hthree : v ≤ 0xffff
  · rw [if_pos hthree]
    refine ⟨_, _, _, rfl, utf8Tail_three ⟨v / 4096 % 0x10, by omega⟩,
      .cons ?_ (.cons (htail _) .nil)⟩
    rw [InRange, BitVec.toNat_ofNat]
    simp only
    split <;> split <;> omega
  · rw [if_neg hthree]
    have hfirst : v / 262144 % 0x08 < 5 := by omega
    refine ⟨_, _, _, rfl, utf8Tail_four ⟨v / 262144 % 0x08, hfirst⟩,
      .cons ?_ (.cons (htail _) (.cons (htail _) .nil))⟩
    rw [InRange, BitVec.toNat_ofNat]
    simp only
    split <;> split <;> omega

/-- A character of the value, if there is one. -/
theorem exists_char {v : Nat} (h : v < 0xd800 ∨ 0xdfff < v ∧ v < 0x110000) :
    ∃ c : Char, c.val.toNat = v :=
  ⟨Char.ofNatAux v h, rfl⟩

/-! The places of a value, put together. -/

theorem exists_char_two {t n : Nat} (hlow : 2 ≤ t) (hhigh : t < 32) (hn : n < 0x40) :
    ∃ c, charBytes c = [BitVec.ofNat 8 (t + 0xc0), BitVec.ofNat 8 (n + 0x80)] := by
  obtain ⟨c, hc⟩ : ∃ c : Char, c.val.toNat = t * 64 + n := exists_char (by omega)
  refine ⟨c, ?_⟩
  rw [charBytes_eq, hc]
  simp only
  rw [if_neg (by omega), if_pos (by omega), (by omega : (t * 64 + n) / 64 % 0x20 = t),
    (by omega : (t * 64 + n) / 1 % 0x40 = n)]

theorem exists_char_three {t m n : Nat} (ht : t < 16) (hm : m < 0x40) (hn : n < 0x40)
    (hlong : 0x800 ≤ t * 4096 + m * 64 + n)
    (hvalid : t * 4096 + m * 64 + n < 0xd800 ∨ 0xdfff < t * 4096 + m * 64 + n) :
    ∃ c, charBytes c =
      [BitVec.ofNat 8 (t + 0xe0), BitVec.ofNat 8 (m + 0x80), BitVec.ofNat 8 (n + 0x80)] := by
  obtain ⟨c, hc⟩ : ∃ c : Char, c.val.toNat = t * 4096 + m * 64 + n := exists_char (by omega)
  refine ⟨c, ?_⟩
  rw [charBytes_eq, hc]
  simp only
  rw [if_neg (by omega), if_neg (by omega), if_pos (by omega),
    (by omega : (t * 4096 + m * 64 + n) / 4096 % 0x10 = t),
    (by omega : (t * 4096 + m * 64 + n) / 64 % 0x40 = m),
    (by omega : (t * 4096 + m * 64 + n) / 1 % 0x40 = n)]

theorem exists_char_four {t l m n : Nat} (hl : l < 0x40) (hm : m < 0x40) (hn : n < 0x40)
    (hlong : 0x10000 ≤ t * 262144 + l * 4096 + m * 64 + n)
    (hvalid : t * 262144 + l * 4096 + m * 64 + n < 0x110000) :
    ∃ c, charBytes c = [BitVec.ofNat 8 (t + 0xf0), BitVec.ofNat 8 (l + 0x80),
      BitVec.ofNat 8 (m + 0x80), BitVec.ofNat 8 (n + 0x80)] := by
  obtain ⟨c, hc⟩ : ∃ c : Char, c.val.toNat = t * 262144 + l * 4096 + m * 64 + n :=
    exists_char (by omega)
  refine ⟨c, ?_⟩
  rw [charBytes_eq, hc]
  simp only
  rw [if_neg (by omega), if_neg (by omega), if_neg (by omega),
    (by omega : (t * 262144 + l * 4096 + m * 64 + n) / 262144 % 0x08 = t),
    (by omega : (t * 262144 + l * 4096 + m * 64 + n) / 4096 % 0x40 = l),
    (by omega : (t * 262144 + l * 4096 + m * 64 + n) / 64 % 0x40 = m),
    (by omega : (t * 262144 + l * 4096 + m * 64 + n) / 1 % 0x40 = n)]

theorem utf8Tail_cases : ∀ first : Byte,
    utf8Tail first = none ∨ (first.toNat ≤ 0x7f ∧ utf8Tail first = some []) ∨
    (∃ t : Fin 32, 2 ≤ t.val ∧ first = BitVec.ofNat 8 (t.val + 0xc0)) ∨
    (∃ t : Fin 16, first = BitVec.ofNat 8 (t.val + 0xe0)) ∨
    ∃ t : Fin 5, first = BitVec.ofNat 8 (t.val + 0xf0) := by decide

/-- A byte after the first holds six bits. -/
theorem exists_six {low high : Nat} {b : Byte} (hlow : 0x80 ≤ low) (hhigh : high ≤ 0xbf)
    (h : InRange (low, high) b) :
    ∃ n, n < 0x40 ∧ low ≤ n + 0x80 ∧ n + 0x80 ≤ high ∧ b = BitVec.ofNat 8 (n + 0x80) := by
  obtain ⟨hleast, hmost⟩ := h
  simp only at hleast hmost
  refine ⟨b.toNat - 0x80, by omega, by omega, by omega, ?_⟩
  rw [Nat.sub_add_cancel (by omega), BitVec.ofNat_toNat, BitVec.setWidth_eq]

theorem char_of_sequence {b : Bytes} (h : Sequence b) : ∃ c, charBytes c = b := by
  obtain ⟨first, ranges, rest, rfl, htail, hrest⟩ := h
  rcases utf8Tail_cases first with hnone | ⟨hone, hempty⟩ | ⟨t, ht, rfl⟩ | ⟨t, rfl⟩ | ⟨t, rfl⟩
  · rw [hnone] at htail
    cases htail
  · rw [hempty] at htail
    cases htail
    cases hrest
    obtain ⟨c, hc⟩ := exists_char (v := first.toNat) (by omega)
    refine ⟨c, ?_⟩
    rw [charBytes_eq, hc]
    simp only [if_pos hone]
    rw [BitVec.ofNat_toNat, BitVec.setWidth_eq]
  · rw [utf8Tail_two t ht] at htail
    cases htail
    obtain _ | ⟨hsecond, hnil⟩ := hrest
    cases hnil
    obtain ⟨n, hn, -, -, rfl⟩ := exists_six (Nat.le_refl _) (Nat.le_refl _) hsecond
    exact exists_char_two ht t.isLt hn
  · rw [utf8Tail_three t] at htail
    cases htail
    obtain _ | ⟨hsecond, _ | ⟨hthird, hnil⟩⟩ := hrest
    cases hnil
    obtain ⟨m, hm, hlow, hhigh, rfl⟩ := exists_six (by split <;> omega) (by split <;> omega) hsecond
    obtain ⟨n, hn, -, -, rfl⟩ := exists_six (Nat.le_refl _) (Nat.le_refl _) hthird
    have hfirst := t.isLt
    -- the two ranges leave out the long forms and the surrogates
    have hvalue : 0x800 ≤ t.val * 4096 + m * 64 + n ∧
        (t.val * 4096 + m * 64 + n < 0xd800 ∨ 0xdfff < t.val * 4096 + m * 64 + n) := by
      split at hlow <;> split at hhigh <;> omega
    exact exists_char_three hfirst hm hn hvalue.1 hvalue.2
  · rw [utf8Tail_four t] at htail
    cases htail
    obtain _ | ⟨hsecond, _ | ⟨hthird, _ | ⟨hfourth, hnil⟩⟩⟩ := hrest
    cases hnil
    obtain ⟨l, hl, hlow, hhigh, rfl⟩ := exists_six (by split <;> omega) (by split <;> omega) hsecond
    obtain ⟨m, hm, -, -, rfl⟩ := exists_six (Nat.le_refl _) (Nat.le_refl _) hthird
    obtain ⟨n, hn, -, -, rfl⟩ := exists_six (Nat.le_refl _) (Nat.le_refl _) hfourth
    have hfirst := t.isLt
    -- and here the long forms and what is above the last character
    have hvalue : 0x10000 ≤ t.val * 262144 + l * 4096 + m * 64 + n ∧
        t.val * 262144 + l * 4096 + m * 64 + n < 0x110000 := by
      split at hlow <;> split at hhigh <;> omega
    exact exists_char_four hl hm hn hvalue.1 hvalue.2

/-! ### The walk -/

section

variable {validUpTo seen : Nat} {ranges : List (Nat × Nat)}

/-- Bytes in their ranges are passed, and the walk goes on between sequences. -/
theorem utf8Validation_append {b : Bytes} (h : List.Forall₂ InRange ranges b) (rest : Bytes) :
    ∃ seen', utf8Validation validUpTo seen ranges (b ++ rest) =
      utf8Validation validUpTo seen' [] rest := by
  induction h generalizing seen with
  | nil => exact ⟨seen, rfl⟩
  | cons hnext h ih =>
    obtain ⟨seen', hrest⟩ := @ih (seen + 1)
    refine ⟨seen', ?_⟩
    rw [List.cons_append, utf8Validation]
    exact (if_pos hnext).trans hrest

/-- Without an error the bytes to come are all there and in their ranges. -/
theorem split_of_utf8Validation {b : Bytes} (h : utf8Validation validUpTo seen ranges b = none) :
    ∃ tail rest seen', b = tail ++ rest ∧ List.Forall₂ InRange ranges tail ∧
      utf8Validation validUpTo seen' [] rest = none := by
  induction ranges generalizing seen b with
  | nil => exact ⟨[], b, seen, rfl, .nil, h⟩
  | cons range ranges ih =>
    cases b with
    | nil => cases h
    | cons next b =>
      rw [utf8Validation] at h
      split at h
      · next hnext =>
        obtain ⟨tail, rest, seen', rfl, htail, hrest⟩ := ih h
        exact ⟨next :: tail, rest, seen', rfl, .cons hnext htail, hrest⟩
      · cases h

end

/-- The bytes of a string are passed. -/
theorem utf8Validation_chars (cs : List Char) (validUpTo seen : Nat) :
    utf8Validation validUpTo seen [] (cs.flatMap charBytes) = none := by
  induction cs generalizing validUpTo seen with
  | nil => rfl
  | cons c cs ih =>
    obtain ⟨first, ranges, rest, hbytes, htail, hrest⟩ := sequence_charBytes c
    rw [List.flatMap_cons, hbytes, List.cons_append, utf8Validation, htail]
    obtain ⟨seen', hwalk⟩ := utf8Validation_append hrest (cs.flatMap charBytes)
    exact hwalk.trans (ih _ _)

/-- What is passed is the bytes of a string. -/
theorem chars_of_utf8Validation (b : Bytes) (validUpTo seen : Nat)
    (h : utf8Validation validUpTo seen [] b = none) :
    ∃ cs : List Char, cs.flatMap charBytes = b := by
  induction hlength : b.length using Nat.strongRecOn generalizing b validUpTo seen with
  | ind n ih =>
    cases b with
    | nil => exact ⟨[], rfl⟩
    | cons first b =>
      rw [utf8Validation] at h
      split at h
      · next ranges hranges =>
        obtain ⟨tail, rest, seen', rfl, htail, hrest⟩ := split_of_utf8Validation h
        obtain ⟨c, hc⟩ := char_of_sequence ⟨first, ranges, tail, rfl, hranges, htail⟩
        have hshort : rest.length < n := by
          rw [← hlength, List.length_cons, List.length_append]
          omega
        obtain ⟨cs, hcs⟩ := ih rest.length hshort rest _ _ hrest rfl
        exact ⟨c :: cs, by rw [List.flatMap_cons, hc, hcs, List.cons_append]⟩
      · cases h

/-- Bytes that spell nothing have an error, and no others. -/
theorem fromUtf8_eq_none_iff (b : Bytes) : fromUtf8 b = none ↔ utf8Error b ≠ none := by
  have hspells : utf8Error b = none ↔ fromUtf8 b ≠ none := by
    rw [Option.ne_none_iff_exists']
    constructor
    · intro h
      obtain ⟨cs, rfl⟩ := chars_of_utf8Validation b 0 0 h
      exact ⟨.ofList cs, by rw [← utf8_ofList, fromUtf8_utf8]⟩
    · rintro ⟨s, hs⟩
      rw [← utf8_of_fromUtf8 hs, ← String.ofList_toList (s := s), utf8_ofList]
      exact utf8Validation_chars s.toList 0 0
  rw [ne_eq (utf8Error b) none, hspells, not_ne_iff]

-- a surrogate, and two of the three bytes of a character
example : utf8Error [0x61, 0xed, 0xa0, 0x80] = some { validUpTo := 1, errorLen := some 1 } := by
  decide
example : utf8Error [0x61, 0xe2, 0x82] = some { validUpTo := 1, errorLen := none } := by decide

end Statik
