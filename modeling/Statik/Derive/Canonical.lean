import Statik.Core.Canonical
import Statik.Derive.PacketGroup

/-!
# What the derived decoders accept
-/

namespace Statik

open Wire

namespace Layout

/-- A struct's fields are read one after the other, and written so. -/
theorem normalises_field {serde : Serde} {t rest : Layout} (ident name : String)
    (ht : Normalises (encode serde t) (Fits serde t) (decode serde t))
    (hrest : Normalises (encode serde rest) (Fits serde rest) (decode serde rest)) :
    Normalises (encode serde (.field ident name t rest)) (Fits serde (.field ident name t rest))
      (decode serde (.field ident name t rest)) := by
  intro b after v hread
  obtain ⟨x, mid, hx, hread⟩ := Decoder.bind_eq_ok.mp hread
  obtain ⟨xs, after', hxs, hread⟩ := Decoder.bind_eq_ok.mp hread
  cases hread
  obtain ⟨hfit, used, bs, hb, hbs, hlen⟩ := ht _ _ _ (decodeContext_eq_ok.mp hx)
  obtain ⟨hfits, used', bs', hmid, hbs', hlen'⟩ := hrest _ _ _ hxs
  obtain ⟨hsplit, hshort⟩ := Normalises.append hb hmid hlen hlen'
  exact ⟨⟨hfit, hfits⟩, _, _, hsplit, encode_field hbs hbs', hshort⟩

/-- Without JSON texts, a layout is only read as values that it writes. -/
theorem normalises (serde : Serde) (t : Layout) (h : t.jsonFree = true) :
    Normalises (encode serde t) (Fits serde t) (decode serde t) := by
  induction t with
  | bool => exact normalises_bool
  | int width => exact normalises_int width
  | varInt => exact normalises_varInt
  | string => exact normalises_string
  | blockPos => exact normalises_blockPos
  | clientIntent => exact normalises_clientIntent
  | chat => exact absurd h Bool.false_ne_true
  | statusResponse => exact absurd h Bool.false_ne_true
  | byteArray n => exact normalises_byteArray n
  | rawBytes => exact normalises_rawBytes
  | option t ih => exact normalises_option (ih h)
  | vec t ih => exact normalises_vec (ih h)
  | unit =>
    intro b rest v hread
    cases hread
    exact ⟨trivial, [], [], rfl, rfl, Nat.le_refl 0⟩
  | field ident name t rest iht ihrest =>
    rw [jsonFree, Bool.and_eq_true] at h
    exact normalises_field ident name (iht h.1) (ihrest h.2)

end Layout

namespace PacketGroup

variable {G : PacketGroup}

/-- A packet that was read can be written, id and fields, in no more bytes. -/
theorem decodeInState_normalises {serde : Serde} {state : State} {b rest : Bytes} {p : G.Packet}
    (hjson : (G.packet p.1).layout.jsonFree = true)
    (h : G.decodeInState serde state b = .ok (p, rest)) :
    G.Fits serde p ∧ ∃ used bs, b = used ++ rest ∧ G.encode serde p = .ok bs ∧
      bs.length ≤ used.length := by
  obtain ⟨id, fields, hid, -, hval, hfields⟩ := decodeInState_eq_ok h
  obtain ⟨-, used, bs, hb, hbs, hlen⟩ := normalises_varInt _ _ _ hid
  cases hbs
  obtain ⟨hfit, used', bs', hmid, hbs', hlen'⟩ :=
    Layout.normalises serde (G.packet p.1).layout hjson _ _ _ hfields
  obtain ⟨hsplit, hshort⟩ := Normalises.append hb hmid hlen hlen'
  refine ⟨hfit, _, _, hsplit, ?_, hshort⟩
  rw [encode_of_fields hbs', ← hval]

/-- What is written for a packet that was read is read as that packet. -/
theorem decodeInState_canonical {serde : Serde} {state : State} {b rest : Bytes} {p : G.Packet}
    (hjson : (G.packet p.1).layout.jsonFree = true)
    (htd : (G.packet p.1).layout.tailDelimited = true)
    (h : G.decodeInState serde state b = .ok (p, rest)) :
    G.Fits serde p ∧ ∃ used bs, b = used ++ rest ∧ G.encode serde p = .ok bs ∧
      bs.length ≤ used.length ∧ G.decodeInState serde state bs = .ok (p, []) := by
  obtain ⟨hfit, used, bs, hb, hencode, hlen⟩ := decodeInState_normalises hjson h
  have hread := decodeInState_encoded hencode htd hfit
  rw [decodeInState_state h] at hread
  exact ⟨hfit, used, bs, hb, hencode, hlen, hread⟩

end PacketGroup

end Statik
