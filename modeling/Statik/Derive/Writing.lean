import Statik.Derive.PacketGroup
import Statik.Wire.Canonical

/-!
# What the derived encoders refuse

A value cannot be written exactly if a string or a vector in it is longer than `i32::MAX`,
and the error then names the first field that holds one.
-/

namespace Statik

open Wire

section

variable {α : Type} {enc : α → Except Error Bytes}

theorem encodeString_ok_iff {s : String} :
    (∃ bs, encodeString s = .ok bs) ↔ (utf8 s).length ≤ i32Max := by
  constructor
  · rintro ⟨bs, h⟩
    exact encodeString_length h
  · intro h
    exact ⟨_, by rw [encodeString]; exact if_pos h⟩

theorem encodeVec_ok_iff {xs : List α} :
    (∃ bs, encodeVec enc xs = .ok bs) ↔ xs.length ≤ i32Max ∧ ∀ x ∈ xs, ∃ b, enc x = .ok b := by
  rw [← encodeMany_ok_iff, encodeVec]
  by_cases hlen : xs.length ≤ i32Max
  · simp only [if_pos hlen]
    cases hmany : encodeMany enc xs with
    | ok bs => exact ⟨fun _ => ⟨hlen, bs, rfl⟩, fun _ => ⟨_, rfl⟩⟩
    | error e => simp
  · simp [hlen]

theorem encodeOption_ok_iff {o : Option α} :
    (∃ bs, encodeOption enc o = .ok bs) ↔ ∀ a, o = some a → ∃ b, enc a = .ok b := by
  cases o with
  | none =>
    refine ⟨fun _ a ha => ?_, fun _ => ⟨_, rfl⟩⟩
    cases ha
  | some a =>
    rw [encodeOption]
    cases ha : enc a with
    | ok bs =>
      refine ⟨fun _ a' ha' => ?_, fun _ => ⟨_, rfl⟩⟩
      cases ha'
      exact ⟨bs, ha⟩
    | error e =>
      constructor
      · rintro ⟨bs, h⟩
        cases h
      · intro h
        obtain ⟨b, hb⟩ := h a rfl
        rw [ha] at hb
        cases hb

end

namespace Layout

/-- No string (JSON texts included) and no vector in the value is longer than
`i32::MAX`. -/
def Short (serde : Serde) : (t : Layout) → t.Val → Prop
  | .string, s => (utf8 s).length ≤ i32Max
  | .chat, c => (utf8 (serde.chatToString c)).length ≤ i32Max
  | .statusResponse, r => (utf8 (serde.statusToString r)).length ≤ i32Max
  | .option t, o => ∀ a, o = some a → Short serde t a
  | .vec t, (xs : List t.Val) => xs.length ≤ i32Max ∧ ∀ x ∈ xs, Short serde t x
  | .field _ _ t rest, (v, vs) => Short serde t v ∧ Short serde rest vs
  | _, _ => True

theorem encode_ok_iff (serde : Serde) (t : Layout) (v : t.Val) :
    (∃ bs, encode serde t v = .ok bs) ↔ Short serde t v := by
  induction t with
  | string => exact encodeString_ok_iff
  | chat => exact encodeString_ok_iff
  | statusResponse => exact encodeString_ok_iff
  | option t ih =>
    exact encodeOption_ok_iff.trans (forall_congr' fun a => imp_congr_right fun _ => ih a)
  | vec t ih =>
    exact encodeVec_ok_iff.trans
      (and_congr_right fun _ => forall_congr' fun x => imp_congr_right fun _ => ih x)
  | field ident name t rest iht ihrest =>
    obtain ⟨v, vs⟩ := v
    rw [Short, ← iht, ← ihrest]
    constructor
    · rintro ⟨bytes, h⟩
      obtain ⟨b, bs, hb, hbs, -⟩ := encode_field_eq_ok h
      exact ⟨⟨b, hb⟩, ⟨bs, hbs⟩⟩
    · rintro ⟨⟨b, hb⟩, ⟨bs, hbs⟩⟩
      exact ⟨b ++ bs, encode_field hb hbs⟩
  | bool => exact ⟨fun _ => trivial, fun _ => ⟨_, rfl⟩⟩
  | int width => exact ⟨fun _ => trivial, fun _ => ⟨_, rfl⟩⟩
  | varInt => exact ⟨fun _ => trivial, fun _ => ⟨_, rfl⟩⟩
  | blockPos => exact ⟨fun _ => trivial, fun _ => ⟨_, rfl⟩⟩
  | clientIntent => exact ⟨fun _ => trivial, fun _ => ⟨_, rfl⟩⟩
  | byteArray n => exact ⟨fun _ => trivial, fun _ => ⟨_, rfl⟩⟩
  | rawBytes => exact ⟨fun _ => trivial, fun _ => ⟨_, rfl⟩⟩
  | unit => exact ⟨fun _ => trivial, fun _ => ⟨_, rfl⟩⟩

/-! ### Which values come back as they are -/

/-- No part of the layout is written in a form that it may share with another value. -/
def faithful : Layout → Bool
  | .blockPos => false
  | .chat => false
  | .statusResponse => false
  | .option t => t.faithful
  | .vec t => t.faithful
  | .field _ _ t rest => t.faithful && rest.faithful
  | _ => true

/-- There whatever can be written is within what the codec carries. -/
theorem fits_of_short {serde : Serde} {t : Layout} (h : t.faithful = true) {v : t.Val}
    (hshort : Short serde t v) : Fits serde t v := by
  induction t with
  | blockPos => exact absurd h Bool.false_ne_true
  | chat => exact absurd h Bool.false_ne_true
  | statusResponse => exact absurd h Bool.false_ne_true
  | string => exact hshort
  | option t ih => exact fun a ha => ih h (hshort a ha)
  | vec t ih => exact ⟨hshort.1, fun x hx => ih h (hshort.2 x hx)⟩
  | field ident name t rest iht ihrest =>
    rw [faithful, Bool.and_eq_true] at h
    exact ⟨iht h.1 hshort.1, ihrest h.2 hshort.2⟩
  | bool => trivial
  | int width => trivial
  | varInt => trivial
  | clientIntent => trivial
  | byteArray n => trivial
  | rawBytes => trivial
  | unit => trivial

/-! ### What the error says -/

/-- The text is the context of the first field that is too long. -/
def Blames (serde : Serde) : (t : Layout) → t.Val → String → Prop
  | .field ident name t rest, (v, vs), text =>
    (¬ Short serde t v ∧ text = encodeContext ident name) ∨
      (Short serde t v ∧ Blames serde rest vs text)
  | _, _, _ => False

/-- The layout is the field list of a struct. -/
def isStruct : Layout → Bool
  | .unit => true
  | .field _ _ _ rest => rest.isStruct
  | _ => false

theorem encode_blames {serde : Serde} {t : Layout} (h : t.isStruct = true) {v : t.Val} {e : Error}
    (hencode : encode serde t v = .error e) :
    ∃ text source, e = .context text source ∧ Blames serde t v text := by
  induction t with
  | field ident name t rest _ ihrest =>
    obtain ⟨v, vs⟩ := v
    cases hv : encode serde t v with
    | error source =>
      have hlong : ¬ Short serde t v := by
        rw [← encode_ok_iff, hv]
        rintro ⟨bs, hbs⟩
        cases hbs
      rw [encode, hv] at hencode
      cases hencode
      exact ⟨_, source, rfl, .inl ⟨hlong, rfl⟩⟩
    | ok b =>
      have hshort : Short serde t v := (encode_ok_iff serde t v).mp ⟨b, hv⟩
      cases hvs : encode serde rest vs with
      | error e' =>
        rw [encode, hv, withContext_ok] at hencode
        simp only [hvs] at hencode
        cases hencode
        obtain ⟨text, source, rfl, hblames⟩ := ihrest h hvs
        exact ⟨text, source, rfl, .inr ⟨hshort, hblames⟩⟩
      | ok bs =>
        rw [encode_field hv hvs] at hencode
        cases hencode
  | unit => cases hencode
  | _ => cases h

end Layout

namespace PacketGroup

variable {G : PacketGroup} {serde : Serde} {p : G.Packet}

/-- A packet is refused exactly if a string or a vector in it is too long, and then in the
name of the first field that holds one. -/
theorem encode_refuses (hstruct : (G.packet p.1).layout.isStruct = true) :
    ((∃ bs, G.encode serde p = .ok bs) ↔ (G.packet p.1).layout.Short serde p.2) ∧
      ∀ e, G.encode serde p = .error e →
        ∃ text source, e = .context text source ∧ (G.packet p.1).layout.Blames serde p.2 text := by
  rw [← Layout.encode_ok_iff, encode, PacketStruct.encode]
  cases hfields : (G.packet p.1).layout.encode serde p.2 with
  | ok bs =>
    refine ⟨⟨fun _ => ⟨bs, rfl⟩, fun _ => ⟨_, rfl⟩⟩, fun e he => ?_⟩
    cases he
  | error e =>
    refine ⟨by simp, fun e' he => ?_⟩
    cases he
    exact Layout.encode_blames hstruct hfields

/-- Where no field shares its form with another value, a packet is read off whatever it is
written to. -/
theorem decodeInState_faithful {body : Bytes} (h : G.encode serde p = .ok body)
    (htd : (G.packet p.1).layout.tailDelimited = true)
    (hfaithful : (G.packet p.1).layout.faithful = true) :
    ReadsAll (G.decodeInState serde (G.packet p.1).state) body p := by
  obtain ⟨fields, -, hfields⟩ := encode_eq_ok h
  have hshort := (Layout.encode_ok_iff serde _ p.2).mp ⟨fields, hfields⟩
  exact decodeInState_encoded h htd (Layout.fits_of_short hfaithful hshort)

end PacketGroup

end Statik
