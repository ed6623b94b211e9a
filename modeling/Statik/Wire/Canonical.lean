import Statik.Wire.Decoder

/-!
# Decoders that accept what can be written

A decoder may accept several spellings of a value.  `Normalises` says that the values it
accepts are all within what the encoder takes, and that what the encoder makes of one is
no longer than the spelling it was read off.
-/

namespace Wire

variable {ε α β : Type}

/-- What the decoder reads meets `fits`, and the encoder writes it again in at most as many
bytes as it was read off. -/
def Normalises (enc : α → Except ε Bytes) (fits : α → Prop) (d : Decoder ε α) : Prop :=
  ∀ b rest a, d b = .ok (a, rest) →
    fits a ∧ ∃ used bs, b = used ++ rest ∧ enc a = .ok bs ∧ bs.length ≤ used.length

theorem encodeMany_cons {enc : α → Except ε Bytes} {a : α} {as : List α} {b bs : Bytes}
    (hb : enc a = .ok b) (hbs : encodeMany enc as = .ok bs) :
    encodeMany enc (a :: as) = .ok (b ++ bs) := by
  rw [encodeMany, hb]
  show (encodeMany enc as).bind _ = _
  rw [hbs]
  rfl

theorem encodeMany_cons_eq_ok {enc : α → Except ε Bytes} {a : α} {as : List α} {bytes : Bytes}
    (h : encodeMany enc (a :: as) = .ok bytes) :
    ∃ b bs, enc a = .ok b ∧ encodeMany enc as = .ok bs ∧ bytes = b ++ bs := by
  rw [encodeMany] at h
  cases hb : enc a with
  | error e =>
    rw [hb] at h
    cases h
  | ok b =>
    cases hbs : encodeMany enc as with
    | error e =>
      rw [hb, hbs] at h
      cases h
    | ok bs =>
      rw [hb, hbs] at h
      exact ⟨b, bs, rfl, rfl, (Except.ok.inj h).symm⟩

/-- A list can be written exactly if each of its items can. -/
theorem encodeMany_ok_iff {enc : α → Except ε Bytes} {as : List α} :
    (∃ bs, encodeMany enc as = .ok bs) ↔ ∀ a ∈ as, ∃ b, enc a = .ok b := by
  induction as with
  | nil => exact ⟨fun _ a ha => absurd ha List.not_mem_nil, fun _ => ⟨[], rfl⟩⟩
  | cons a as ih =>
    rw [List.forall_mem_cons, ← ih]
    constructor
    · rintro ⟨bytes, h⟩
      obtain ⟨b, bs, hb, hbs, -⟩ := encodeMany_cons_eq_ok h
      exact ⟨⟨b, hb⟩, ⟨bs, hbs⟩⟩
    · rintro ⟨⟨b, hb⟩, ⟨bs, hbs⟩⟩
      exact ⟨b ++ bs, encodeMany_cons hb hbs⟩

namespace Normalises

variable {enc : α → Except ε Bytes} {fits : α → Prop} {d : Decoder ε α}

/-- What follows a value that was read, with what was written for both. -/
theorem append {b mid rest used used' bs bs' : Bytes} (hb : b = used ++ mid)
    (hmid : mid = used' ++ rest) (hlen : bs.length ≤ used.length)
    (hlen' : bs'.length ≤ used'.length) :
    b = (used ++ used') ++ rest ∧ (bs ++ bs').length ≤ (used ++ used').length := by
  constructor
  · rw [hb, hmid, List.append_assoc]
  · rw [List.length_append, List.length_append]
    omega

theorem many (h : Normalises enc fits d) (n : Nat) :
    Normalises (encodeMany enc) (fun as => as.length = n ∧ ∀ a ∈ as, fits a) (many d n) := by
  induction n with
  | zero =>
    intro b rest as hread
    cases hread
    exact ⟨⟨rfl, fun _ ha => absurd ha List.not_mem_nil⟩, [], [], rfl, rfl, Nat.le_refl 0⟩
  | succ n ih =>
    intro b rest as hread
    obtain ⟨a, mid, ha, hread⟩ := Decoder.bind_eq_ok.mp hread
    obtain ⟨as', rest', has, hread⟩ := Decoder.bind_eq_ok.mp hread
    cases hread
    obtain ⟨hfit, used, bs, hb, hbs, hlen⟩ := h _ _ _ ha
    obtain ⟨⟨hcount, hfits⟩, used', bs', hmid, hbs', hlen'⟩ := ih _ _ _ has
    obtain ⟨hsplit, hshort⟩ := append hb hmid hlen hlen'
    refine ⟨⟨?_, ?_⟩, _, _, hsplit, encodeMany_cons hbs hbs', hshort⟩
    · rw [List.length_cons, hcount]
    · exact List.forall_mem_cons.mpr ⟨hfit, hfits⟩

end Normalises

end Wire
