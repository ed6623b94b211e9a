import Statik.Core.Impls
import Statik.Wire.Canonical

/-!
# What the Decode impls accept

Each reader accepts only values its writer takes back, and no spelling shorter than the
one written.
-/

namespace Statik

open Wire

/-- Every value meets it. -/
abbrev anyValue {α : Type} : α → Prop := fun _ => True

theorem readU8_eq_ok {b rest : Bytes} {x : Byte} (h : readU8 b = .ok (x, rest)) :
    b = x :: rest := by
  cases b with
  | nil => cases h
  | cons y b =>
    cases h
    rfl

theorem normalises_bool : Normalises (fun b => .ok (encodeBool b)) anyValue decodeBool := by
  intro b rest a h
  obtain ⟨x, mid, hx, h⟩ := Decoder.bind_eq_ok.mp h
  rw [readU8_eq_ok hx]
  split at h
  · cases h
    exact ⟨trivial, [x], _, rfl, rfl, Nat.le_refl 1⟩
  · cases h

theorem takeBytes_eq_ok {eof : Error} {n : Nat} {b used rest : Bytes}
    (h : takeBytes eof n b = .ok (used, rest)) : b = used ++ rest ∧ used.length = n := by
  rw [takeBytes] at h
  split at h
  · next hle =>
    cases h
    refine ⟨(List.take_append_drop n b).symm, ?_⟩
    rw [List.length_take]
    omega
  · cases h

theorem normalises_int (n : Nat) :
    Normalises (fun v => .ok (encodeInt n v)) anyValue (decodeInt n) := by
  intro b rest v h
  obtain ⟨used, mid, hused, h⟩ := Decoder.bind_eq_ok.mp h
  obtain ⟨hb, hlen⟩ := takeBytes_eq_ok hused
  cases h
  refine ⟨trivial, used, _, hb, rfl, ?_⟩
  rw [encodeInt, beBytes_length, hlen]

theorem normalises_varInt : Normalises (fun v => .ok v.encode) anyValue VarInt.decode := by
  intro b rest v h
  obtain ⟨used, hb, hterm, hread⟩ := VarInt.decode_ok h
  exact ⟨trivial, used, v.encode, hb, rfl, hterm.encode_length_le hread⟩

theorem normalises_blockPos :
    Normalises (fun p => .ok (encodeBlockPos p)) BlockPos.InRange decodeBlockPos := by
  intro b rest p h
  obtain ⟨w, hw, hp⟩ := Decoder.map_eq_ok.mp h
  obtain ⟨-, used, bs, hb, hbs, hlen⟩ := normalises_int 8 _ _ _ hw
  cases hbs
  obtain rfl : BlockPos.fromPacked w = p := hp
  refine ⟨BlockPos.fromPacked_inRange w, used, _, hb, rfl, ?_⟩
  rw [encodeBlockPos, BlockPos.toPacked_fromPacked]
  exact hlen

theorem normalises_clientIntent :
    Normalises (fun i => .ok i.toVarInt.encode) anyValue decodeClientIntent := by
  intro b rest i h
  obtain ⟨v, mid, hv, h⟩ := Decoder.bind_eq_ok.mp h
  obtain ⟨-, used, bs, hb, hbs, hlen⟩ := normalises_varInt _ _ _ hv
  cases hbs
  -- the intent read is the one whose number was read
  have hintent : mid = rest ∧ i.toVarInt = v := by
    by_cases h1 : v.val = 1
    · rw [if_pos h1] at h
      cases h
      exact ⟨rfl, by rw [ClientIntent.toVarInt, ← h1]⟩
    · rw [if_neg h1] at h
      by_cases h2 : v.val = 2
      · rw [if_pos h2] at h
        cases h
        exact ⟨rfl, by rw [ClientIntent.toVarInt, ← h2]⟩
      · rw [if_neg h2] at h
        by_cases h3 : v.val = 3
        · rw [if_pos h3] at h
          cases h
          exact ⟨rfl, by rw [ClientIntent.toVarInt, ← h3]⟩
        · rw [if_neg h3] at h
          cases h
  obtain ⟨rfl, rfl⟩ := hintent
  exact ⟨trivial, used, _, hb, rfl, hlen⟩

theorem normalises_byteArray (n : Nat) :
    Normalises (fun a => .ok a.val) anyValue (decodeByteArray n) := by
  intro b rest a h
  rw [decodeByteArray] at h
  split at h
  · cases h
    exact ⟨trivial, b.take n, _, (List.take_append_drop n b).symm, rfl, Nat.le_refl _⟩
  · cases h

theorem normalises_rawBytes : Normalises (fun b => .ok b) anyValue decodeRawBytes := by
  intro b rest a h
  cases h
  exact ⟨trivial, b, b, (List.append_nil b).symm, rfl, Nat.le_refl _⟩

/-! ### Strings -/

theorem decodeStringBytes_eq_ok {length : Nat} : ∀ {remaining : Nat} {b buf rest : Bytes},
    decodeStringBytes length remaining b = .ok (buf, rest) →
      b = buf ++ rest ∧ buf.length = remaining := by
  intro remaining
  induction remaining with
  | zero =>
    intro b buf rest h
    cases h
    exact ⟨rfl, rfl⟩
  | succ remaining ih =>
    intro b buf rest h
    obtain ⟨x, mid, hx, h⟩ := Decoder.bind_eq_ok.mp h
    obtain ⟨bs, rest', hbs, h⟩ := Decoder.bind_eq_ok.mp h
    cases h
    rw [readU8_eq_ok (decodeContext_eq_ok.mp hx)]
    obtain ⟨rfl, hlen⟩ := ih hbs
    exact ⟨rfl, by rw [List.length_cons, hlen]⟩

theorem normalises_string :
    Normalises encodeString (fun s => (utf8 s).length ≤ i32Max) decodeString := by
  intro b rest s h
  obtain ⟨length, mid, hlength, h⟩ := Decoder.bind_eq_ok.mp h
  obtain ⟨-, used, bs, hb, hbs, hshort⟩ := normalises_varInt _ _ _ hlength
  cases hbs
  split at h
  · next hnonneg =>
    obtain ⟨buf, rest', hbuf, h⟩ := Decoder.bind_eq_ok.mp h
    obtain ⟨hmid, hcount⟩ := decodeStringBytes_eq_ok hbuf
    cases hs : fromUtf8 buf with
    | none =>
      rw [hs] at h
      cases h
    | some s' =>
      rw [hs] at h
      cases h
      have hutf8 := utf8_of_fromUtf8 hs
      have hmax : (utf8 s).length ≤ i32Max := by
        rw [hutf8, hcount]
        exact (toNat_of_nonneg hnonneg).2
      have henc : encodeString s = .ok (length.encode ++ utf8 s) := by
        rw [encodeString]
        simp only [if_pos hmax]
        rw [hutf8, hcount, ofUsize_toNat_val]
      have hbytes : (utf8 s).length ≤ buf.length := by rw [hutf8]
      obtain ⟨hsplit, hle⟩ := Normalises.append hb hmid hshort hbytes
      exact ⟨hmax, _, _, hsplit, henc, hle⟩
  · cases h

/-! ### Vectors and options -/

theorem normalises_vec {α : Type} {enc : α → Except Error Bytes} {fits : α → Prop}
    {d : Decoder Error α} (h : Normalises enc fits d) :
    Normalises (encodeVec enc) (fun xs => xs.length ≤ i32Max ∧ ∀ x ∈ xs, fits x)
      (decodeVec d) := by
  intro b rest xs hread
  obtain ⟨length, mid, hlength, hread⟩ := Decoder.bind_eq_ok.mp hread
  obtain ⟨-, used, bs, hb, hbs, hshort⟩ := normalises_varInt _ _ _ hlength
  cases hbs
  split at hread
  · next hnonneg =>
    obtain ⟨⟨hcount, hfits⟩, used', bs', hmid, hbs', hshort'⟩ := h.many _ _ _ _ hread
    have hmax : xs.length ≤ i32Max := by
      rw [hcount]
      exact (toNat_of_nonneg hnonneg).2
    have henc : encodeVec enc xs = .ok (length.encode ++ bs') := by
      rw [encodeVec]
      simp only [if_pos hmax, hbs']
      rw [hcount, ofUsize_toNat_val]
    obtain ⟨hsplit, hle⟩ := Normalises.append hb hmid hshort hshort'
    exact ⟨⟨hmax, hfits⟩, _, _, hsplit, henc, hle⟩
  · cases hread

theorem normalises_option {α : Type} {enc : α → Except Error Bytes} {fits : α → Prop}
    {d : Decoder Error α} (h : Normalises enc fits d) :
    Normalises (encodeOption enc) (fun o => ∀ a, o = some a → fits a) (decodeOption d) := by
  intro b rest o hread
  obtain ⟨present, mid, hpresent, hread⟩ := Decoder.bind_eq_ok.mp hread
  obtain ⟨-, used, bs, hb, hbs, hshort⟩ := normalises_bool _ _ _ hpresent
  cases hbs
  cases present with
  | false =>
    cases hread
    refine ⟨fun a ha => ?_, used, _, hb, rfl, hshort⟩
    cases ha
  | true =>
    obtain ⟨a, ha, hsome⟩ := Decoder.map_eq_ok.mp hread
    obtain rfl : some a = o := hsome
    obtain ⟨hfit, used', bs', hmid, hbs', hshort'⟩ := h _ _ _ ha
    obtain ⟨hsplit, hle⟩ := Normalises.append hb hmid hshort hshort'
    refine ⟨fun a' ha' => ?_, _, _, hsplit, ?_, hle⟩
    · cases ha'
      exact hfit
    · rw [encodeOption, hbs']

end Statik
