import Statik.Derive.Layout

/-!
# Packets and packet groups

`derive(Packet)` adds a leading id to a struct's codec and attaches the id and
the connection state to the type.  `derive(PacketGroup)` reads the id and tries
the variants of an enumeration in order, taking the first whose state and id
match.
-/

namespace Statik

open Wire

/-- A struct under `#[packet(id = .., state = ..)]`. -/
structure PacketStruct where
  ident : String
  id : BitVec 32
  state : State
  layout : Layout

/-- The packet struct `ident` with its id, state and fields. -/
def packet (ident : String) (id : BitVec 32) (state : State) (fields : List (String × Layout)) :
    PacketStruct :=
  { ident := ident, id := id, state := state, layout := .struct ident fields }

namespace PacketStruct

abbrev Val (P : PacketStruct) : Type := P.layout.Val

def encode (serde : Serde) (P : PacketStruct) (v : P.Val) : Except Error Bytes :=
  match P.layout.encode serde v with
  | .ok bs => .ok ((VarInt.mk P.id).encode ++ bs)
  | .error e => .error e

/-- Reads the fields only: the id has been read by the group. -/
def decode (serde : Serde) (P : PacketStruct) : Decoder Error P.Val := P.layout.decode serde

def Fits (serde : Serde) (P : PacketStruct) (v : P.Val) : Prop := P.layout.Fits serde v

end PacketStruct

/-- An enumeration under `derive(PacketGroup)`: the variants in their order of
declaration and the packet struct each one holds.  No two variants share both
state and id, so that trying them in order shadows none. -/
structure PacketGroup where
  Variant : Type
  variants : List Variant
  packet : Variant → PacketStruct
  complete : ∀ v, v ∈ variants
  distinct : variants.Pairwise fun v w =>
    (packet v).state ≠ (packet w).state ∨ (packet v).id ≠ (packet w).id

namespace PacketGroup

variable (G : PacketGroup)

abbrev Packet : Type := (v : G.Variant) × (G.packet v).Val

/-- The test of one arm of the generated chain. -/
def Matches (state : State) (id : BitVec 32) (v : G.Variant) : Bool :=
  state == (G.packet v).state && id == (G.packet v).id

/-- The body of one arm of the generated chain. -/
def decodeVariant (serde : Serde) (v : G.Variant) : Decoder Error G.Packet :=
  Sigma.mk v <$> (G.packet v).decode serde

/-- `decode_in_state`. -/
def decodeInState (serde : Serde) (state : State) : Decoder Error G.Packet := do
  let id ← VarInt.decode
  match G.variants.find? (G.Matches state id.val) with
  | some v => G.decodeVariant serde v
  | none =>
    let n := id.val.toInt
    let name := state.debug
    throw (.msg s!"No packet with id {n} in state {name}")

def encode (serde : Serde) (p : G.Packet) : Except Error Bytes := (G.packet p.1).encode serde p.2

def Fits (serde : Serde) (p : G.Packet) : Prop := (G.packet p.1).Fits serde p.2

variable {G}

theorem matches_iff {state : State} {id : BitVec 32} {v : G.Variant} :
    G.Matches state id v = true ↔ state = (G.packet v).state ∧ id = (G.packet v).id := by
  rw [Matches, Bool.and_eq_true, beq_iff_eq, beq_iff_eq]

/-- A variant is the first, and only, one its own state and id match. -/
theorem find_variant (v : G.Variant) :
    G.variants.find? (G.Matches (G.packet v).state (G.packet v).id) = some v := by
  have hfind : ∀ l : List G.Variant, v ∈ l →
      (l.Pairwise fun v w => (G.packet v).state ≠ (G.packet w).state ∨
        (G.packet v).id ≠ (G.packet w).id) →
      l.find? (G.Matches (G.packet v).state (G.packet v).id) = some v := by
    intro l
    induction l with
    | nil => exact fun h _ => absurd h List.not_mem_nil
    | cons w l ih =>
      intro hmem hpair
      rw [List.pairwise_cons] at hpair
      rcases List.mem_cons.mp hmem with rfl | hl
      · exact List.find?_cons_of_pos (matches_iff.mpr ⟨rfl, rfl⟩)
      · have hne : ¬ G.Matches (G.packet v).state (G.packet v).id w = true := by
          intro hm
          obtain ⟨hs, hi⟩ := matches_iff.mp hm
          exact (hpair.1 v hl).elim (fun h => h hs.symm) (fun h => h hi.symm)
        rw [List.find?_cons_of_neg hne]
        exact ih hl hpair.2
  exact hfind G.variants (G.complete v) G.distinct

/-- After the id, the group reads the fields of the variant. -/
theorem decodeInState_id (serde : Serde) (v : G.Variant) (b : Bytes) :
    G.decodeInState serde (G.packet v).state ((VarInt.mk (G.packet v).id).encode ++ b) =
      G.decodeVariant serde v b := by
  rw [decodeInState, Decoder.bind_ok (VarInt.decode_encode ⟨(G.packet v).id⟩ b), find_variant v]

theorem decodeInState_eq_ok {serde : Serde} {state : State} {b : Bytes} {r : G.Packet × Bytes}
    (h : G.decodeInState serde state b = .ok r) :
    ∃ id fields, VarInt.decode b = .ok (id, fields) ∧
      state = (G.packet r.1.1).state ∧ id.val = (G.packet r.1.1).id ∧
      (G.packet r.1.1).decode serde fields = .ok (r.1.2, r.2) := by
  rw [decodeInState, Decoder.bind_eq_ok] at h
  obtain ⟨id, fields, hid, h⟩ := h
  cases hfind : G.variants.find? (G.Matches state id.val) with
  | none => simp [hfind] at h
  | some v =>
    simp only [hfind, decodeVariant, Decoder.map_eq_ok] at h
    obtain ⟨a, ha, hr⟩ := h
    obtain ⟨⟨w, q⟩, rest⟩ := r
    cases hr
    exact ⟨id, fields, hid, (matches_iff.mp (List.find?_some hfind)).1,
      (matches_iff.mp (List.find?_some hfind)).2, ha⟩

/-- A variant comes only out of the state of its packet. -/
theorem decodeInState_state {serde : Serde} {state : State} {b rest : Bytes} {p : G.Packet}
    (h : G.decodeInState serde state b = .ok (p, rest)) : (G.packet p.1).state = state := by
  obtain ⟨_, _, _, hstate, _, _⟩ := decodeInState_eq_ok h
  exact hstate.symm

/-- A variant with a starved layout comes out of no bytes. -/
theorem decodeInState_starved {serde : Serde} {state : State} {b rest : Bytes} {p : G.Packet}
    (hst : (G.packet p.1).layout.starved = true) :
    G.decodeInState serde state b ≠ .ok (p, rest) := by
  intro h
  obtain ⟨_, _, _, _, _, hfields⟩ := decodeInState_eq_ok h
  exact Layout.decode_starved serde hst _ _ hfields

theorem encode_of_fields {serde : Serde} {p : G.Packet} {bs : Bytes}
    (h : (G.packet p.1).layout.encode serde p.2 = .ok bs) :
    G.encode serde p = .ok ((VarInt.mk (G.packet p.1).id).encode ++ bs) := by
  rw [encode, PacketStruct.encode, h]

/-- A packet whose layout has no raw bytes is read back whatever follows it. -/
theorem decodeInState_reads {serde : Serde} {p : G.Packet}
    (hsd : (G.packet p.1).layout.selfDelimiting = true) (hfit : G.Fits serde p) :
    ∃ bs, G.encode serde p = .ok bs ∧
      Reads (G.decodeInState serde (G.packet p.1).state) bs p := by
  obtain ⟨bs, hbs, hread⟩ := Layout.decode_reads _ p.2 hsd hfit
  refine ⟨_, encode_of_fields hbs, fun rest => ?_⟩
  rw [List.append_assoc, decodeInState_id]
  exact hread.map (Sigma.mk p.1) rest

/-- A packet whose raw bytes stand last is read back when the input ends with it. -/
theorem decodeInState_readsAll {serde : Serde} {p : G.Packet}
    (htd : (G.packet p.1).layout.tailDelimited = true) (hfit : G.Fits serde p) :
    ∃ bs, G.encode serde p = .ok bs ∧
      ReadsAll (G.decodeInState serde (G.packet p.1).state) bs p := by
  obtain ⟨bs, hbs, hread⟩ := Layout.decode_readsAll _ p.2 htd hfit
  refine ⟨_, encode_of_fields hbs, ?_⟩
  show G.decodeInState serde _ _ = _
  rw [decodeInState_id]
  exact hread.map (Sigma.mk p.1)

theorem encode_eq_ok {serde : Serde} {p : G.Packet} {body : Bytes}
    (h : G.encode serde p = .ok body) :
    ∃ fields, body = (VarInt.mk (G.packet p.1).id).encode ++ fields ∧
      (G.packet p.1).layout.encode serde p.2 = .ok fields := by
  rw [encode, PacketStruct.encode] at h
  cases hfields : (G.packet p.1).layout.encode serde p.2 with
  | error e =>
    rw [hfields] at h
    cases h
  | ok fields =>
    rw [hfields] at h
    cases h
    exact ⟨fields, rfl, rfl⟩

/-- What a packet was written to is read as that packet. -/
theorem decodeInState_encoded {serde : Serde} {p : G.Packet} {body : Bytes}
    (h : G.encode serde p = .ok body) (htd : (G.packet p.1).layout.tailDelimited = true)
    (hfit : G.Fits serde p) : ReadsAll (G.decodeInState serde (G.packet p.1).state) body p := by
  obtain ⟨bs, hbs, hread⟩ := decodeInState_readsAll htd hfit
  rwa [Except.ok.inj (h.symm.trans hbs)]

/-- No packet is read off the bytes of a packet without raw bytes that are cut short,
be it in the id or in a field. -/
theorem decodeInState_cut {serde : Serde} {p : G.Packet} {b more : Bytes}
    (hsd : (G.packet p.1).layout.selfDelimiting = true)
    (hjson : (G.packet p.1).layout.jsonFree = true)
    (h : G.encode serde p = .ok (b ++ more)) (hmore : more ≠ []) :
    ∃ e, G.decodeInState serde (G.packet p.1).state b = .error e := by
  cases hid : VarInt.decode b with
  | error e => exact ⟨e, Decoder.bind_error hid⟩
  | ok r =>
    obtain ⟨used, heq, hread⟩ := VarInt.decode_delimits b r.2 r.1 hid
    obtain ⟨fields, hbytes, hfields⟩ := encode_eq_ok h
    -- the id read off the beginning is the id of the packet
    have hwhole := VarInt.decode_encode ⟨(G.packet p.1).id⟩ fields
    rw [← hbytes, heq, List.append_assoc, hread] at hwhole
    obtain ⟨hv, hrest⟩ := Prod.mk.inj (Except.ok.inj hwhole)
    obtain ⟨w, hw⟩ := Layout.encode_reads_some _ p.2 fields hsd hjson hfields
    rw [← hrest] at hw
    obtain ⟨e, he⟩ := (Layout.decode_delimits _ hsd).refuses_cut hw hmore
    refine ⟨e, ?_⟩
    rw [decodeInState, Decoder.bind_ok hid]
    simp only [hv, find_variant]
    rw [decodeVariant, Decoder.map_apply, PacketStruct.decode, he]

/-! ### Failures -/

theorem decodeInState_refuses (serde : Serde) (state : State) :
    Refuses Plain (G.decodeInState serde state) := by
  refine VarInt.decode_refuses.bind fun id => ?_
  split
  · exact (Layout.decode_refuses serde _).map _
  · exact Refuses.throw rfl

theorem encode_fails (serde : Serde) (p : G.Packet) : Fails Textual (G.encode serde p) := by
  rw [encode, PacketStruct.encode]
  cases h : (G.packet p.1).layout.encode serde p.2 with
  | ok bs => exact Fails.ok _
  | error e => exact Fails.error (Layout.encode_fails serde _ _ e h)

end PacketGroup

end Statik
