import Statik.Core.Impls

/-!
# Struct layouts and the codecs derived from them

A `Layout` is the shape of a type that travels in a packet, and `Layout.Val` the
values of that shape.  The derive macros turn the field list of a struct into a
writer and a reader that visit the fields in order, so `encode` and `decode` are
those macros as functions of the layout.
-/

namespace Statik

open Wire

/-- The field types of the packets.  `unit` and `field` spell a struct: its
identifier and the name, type and successors of each field. -/
inductive Layout where
  | bool
  | int (width : Nat)
  | varInt
  | string
  | blockPos
  | clientIntent
  | chat
  | statusResponse
  | byteArray (n : Nat)
  | rawBytes
  | option (t : Layout)
  | vec (t : Layout)
  | unit
  | field (ident name : String) (t rest : Layout)

namespace Layout

abbrev u8 : Layout := .int 1
abbrev i8 : Layout := .int 1
abbrev u16 : Layout := .int 2
abbrev i16 : Layout := .int 2
abbrev i32 : Layout := .int 4
abbrev i64 : Layout := .int 8
abbrev f32 : Layout := .int 4
abbrev f64 : Layout := .int 8
abbrev uuid : Layout := .int 16

/-- The struct `ident` with the given fields. -/
def struct (ident : String) : List (String × Layout) → Layout
  | [] => .unit
  | (name, t) :: fields => .field ident name t (struct ident fields)

/-- The values of a layout.  A struct's value is the tuple of its fields, ended
by `()`. -/
def Val : Layout → Type
  | .bool => Bool
  | .int width => BitVec (8 * width)
  | .varInt => VarInt
  | .string => String
  | .blockPos => BlockPos
  | .clientIntent => ClientIntent
  | .chat => Chat
  | .statusResponse => StatusResponse
  | .byteArray n => { b : Bytes // b.length = n }
  | .rawBytes => Bytes
  | .option t => Option t.Val
  | .vec t => List t.Val
  | .unit => Unit
  | .field _ _ t rest => t.Val × rest.Val

instance (width n : Nat) : OfNat (Val (.int width)) n := inferInstanceAs (OfNat (BitVec _) n)

def encodeContext (ident name : String) : String :=
  s!"failed to encode field `{name}` in `{ident}`"

def decodeFieldContext (ident name : String) : String :=
  s!"failed to decode field `{name}` in `{ident}`"

/-- `derive(Encode)`. -/
def encode (serde : Serde) : (t : Layout) → t.Val → Except Error Bytes
  | .bool, b => .ok (encodeBool b)
  | .int width, v => .ok (encodeInt width v)
  | .varInt, v => .ok v.encode
  | .string, s => encodeString s
  | .blockPos, p => .ok (encodeBlockPos p)
  | .clientIntent, i => .ok i.toVarInt.encode
  | .chat, c => encodeString (serde.chatToString c)
  | .statusResponse, r => encodeString (serde.statusToString r)
  | .byteArray _, a => .ok a.val
  | .rawBytes, b => .ok b
  | .option t, o => encodeOption (encode serde t) o
  | .vec t, xs => encodeVec (encode serde t) xs
  | .unit, _ => .ok []
  | .field ident name t rest, (v, vs) =>
    match withContext (encodeContext ident name) (encode serde t v) with
    | .error e => .error e
    | .ok b =>
      match encode serde rest vs with
      | .error e => .error e
      | .ok bs => .ok (b ++ bs)

/-- `derive(Decode)`. -/
def decode (serde : Serde) : (t : Layout) → Decoder Error t.Val
  | .bool => decodeBool
  | .int width => decodeInt width
  | .varInt => VarInt.decode
  | .string => decodeString
  | .blockPos => decodeBlockPos
  | .clientIntent => decodeClientIntent
  | .chat => decodeJson serde.chatFromStr
  | .statusResponse => decodeJson serde.statusFromStr
  | .byteArray n => decodeByteArray n
  | .rawBytes => decodeRawBytes
  | .option t => decodeOption (decode serde t)
  | .vec t => decodeVec (decode serde t)
  | .unit => pure ()
  | .field ident name t rest => do
    let v ← decodeContext (decodeFieldContext ident name) (decode serde t)
    let vs ← decode serde rest
    pure (v, vs)

/-! ### Which layouts can be read back -/

/-- No part of the layout reads to the end of the input. -/
def selfDelimiting : Layout → Bool
  | .rawBytes => false
  | .option t => t.selfDelimiting
  | .vec t => t.selfDelimiting
  | .field _ _ t rest => t.selfDelimiting && rest.selfDelimiting
  | _ => true

def isUnit : Layout → Bool
  | .unit => true
  | _ => false

/-- Only the last field, or what an optional last field holds, reads to the end
of the input. -/
def tailDelimited : Layout → Bool
  | .rawBytes => true
  | .option t => t.tailDelimited
  | .vec t => t.selfDelimiting
  | .field _ _ t rest =>
    (t.selfDelimiting && rest.tailDelimited) || (rest.isUnit && t.tailDelimited)
  | _ => true

/-- The values the wire carries unchanged: strings (JSON texts included) and
vectors no longer than `i32::MAX`, block positions within their 26, 12 and 26
bits, JSON texts that `serde_json` parses back. -/
def Fits (serde : Serde) : (t : Layout) → t.Val → Prop
  | .string, s => (utf8 s).length ≤ i32Max
  | .blockPos, p => p.InRange
  | .chat, c =>
    (utf8 (serde.chatToString c)).length ≤ i32Max ∧
      serde.chatFromStr (serde.chatToString c) = .ok c
  | .statusResponse, r =>
    (utf8 (serde.statusToString r)).length ≤ i32Max ∧
      serde.statusFromStr (serde.statusToString r) = .ok r
  | .option t, o => ∀ a, o = some a → Fits serde t a
  | .vec t, (xs : List t.Val) => xs.length ≤ i32Max ∧ ∀ x ∈ xs, Fits serde t x
  | .field _ _ t rest, (v, vs) => Fits serde t v ∧ Fits serde rest vs
  | _, _ => True

theorem encode_field {serde : Serde} {ident name : String} {t rest : Layout} {v : t.Val}
    {vs : rest.Val} {b bs : Bytes} (hb : encode serde t v = .ok b)
    (hbs : encode serde rest vs = .ok bs) :
    encode serde (.field ident name t rest) (v, vs) = .ok (b ++ bs) := by
  rw [encode, hb, withContext_ok]
  simp only [hbs]

theorem encode_field_eq_ok {serde : Serde} {ident name : String} {t rest : Layout} {v : t.Val}
    {vs : rest.Val} {bytes : Bytes}
    (h : encode serde (.field ident name t rest) (v, vs) = .ok bytes) :
    ∃ b bs, encode serde t v = .ok b ∧ encode serde rest vs = .ok bs ∧ bytes = b ++ bs := by
  rw [encode] at h
  cases hv : encode serde t v with
  | error e =>
    rw [hv] at h
    cases h
  | ok b =>
    cases hvs : encode serde rest vs with
    | error e =>
      rw [hv, hvs] at h
      cases h
    | ok bs =>
      rw [hv, hvs] at h
      cases h
      exact ⟨b, bs, rfl, rfl, rfl⟩

/-- A value of a self-delimiting layout is read back whatever follows it. -/
theorem decode_reads {serde : Serde} :
    ∀ (t : Layout) (v : t.Val), t.selfDelimiting = true → Fits serde t v →
      ∃ bs, encode serde t v = .ok bs ∧ Reads (decode serde t) bs v := by
  intro t
  induction t with
  | bool => exact fun v _ _ => ⟨_, rfl, decodeBool_reads v⟩
  | int width => exact fun v _ _ => ⟨_, rfl, decodeInt_reads width v⟩
  | varInt => exact fun v _ _ => ⟨_, rfl, VarInt.decode_encode v⟩
  | string => exact fun v _ hfit => decodeString_reads hfit
  | blockPos => exact fun v _ hfit => ⟨_, rfl, decodeBlockPos_reads hfit⟩
  | clientIntent => exact fun v _ _ => ⟨_, rfl, decodeClientIntent_reads v⟩
  | chat => exact fun v _ hfit => decodeJson_reads hfit.1 hfit.2
  | statusResponse => exact fun v _ hfit => decodeJson_reads hfit.1 hfit.2
  | byteArray n => exact fun v _ _ => ⟨_, rfl, decodeByteArray_reads v⟩
  | rawBytes => exact fun _ hsd _ => absurd hsd (by decide)
  | option t ih => exact fun v hsd hfit => decodeOption_reads fun a ha => ih a hsd (hfit a ha)
  | vec t ih => exact fun v hsd hfit => decodeVec_reads hfit.1 fun x hx => ih x hsd (hfit.2 x hx)
  | unit => exact fun v _ _ => ⟨[], rfl, Reads.pure v⟩
  | field ident name t rest iht ihrest =>
    intro v hsd hfit
    obtain ⟨v, vs⟩ := v
    rw [selfDelimiting, Bool.and_eq_true] at hsd
    obtain ⟨b, hb, hread⟩ := iht v hsd.1 hfit.1
    obtain ⟨bs, hbs, hreads⟩ := ihrest vs hsd.2 hfit.2
    exact ⟨b ++ bs, encode_field hb hbs,
      (reads_decodeContext _ hread).bind (hreads.bind_nil (Reads.pure (v, vs)))⟩

/-- A value of a tail-delimited layout is read back when the input ends with it. -/
theorem decode_readsAll {serde : Serde} :
    ∀ (t : Layout) (v : t.Val), t.tailDelimited = true → Fits serde t v →
      ∃ bs, encode serde t v = .ok bs ∧ ReadsAll (decode serde t) bs v := by
  have hclosed : ∀ (t : Layout) (v : t.Val), t.selfDelimiting = true → Fits serde t v →
      ∃ bs, encode serde t v = .ok bs ∧ ReadsAll (decode serde t) bs v := by
    intro t v hsd hfit
    obtain ⟨bs, hbs, hread⟩ := decode_reads t v hsd hfit
    exact ⟨bs, hbs, hread.all⟩
  intro t
  induction t with
  | rawBytes => exact fun v _ _ => ⟨v, rfl, rfl⟩
  | option t ih => exact fun v htd hfit => decodeOption_readsAll fun a ha => ih a htd (hfit a ha)
  | vec t _ => exact fun v htd hfit => hclosed (.vec t) v htd hfit
  | field ident name t rest iht ihrest =>
    intro v htd hfit
    obtain ⟨v, vs⟩ := v
    rw [tailDelimited, Bool.or_eq_true, Bool.and_eq_true, Bool.and_eq_true] at htd
    rcases htd with ⟨hsd, htail⟩ | ⟨hunit, htail⟩
    · obtain ⟨b, hb, hread⟩ := decode_reads t v hsd hfit.1
      obtain ⟨bs, hbs, hreads⟩ := ihrest vs htail hfit.2
      exact ⟨b ++ bs, encode_field hb hbs,
        (reads_decodeContext _ hread).bind_all (hreads.bind_all (Reads.pure (v, vs)).all)⟩
    · cases rest with
      | unit =>
        obtain ⟨b, hb, hread⟩ := iht v htail hfit.1
        refine ⟨b ++ [], encode_field hb rfl, ?_⟩
        rw [List.append_nil]
        exact (readsAll_decodeContext _ hread).bind_all (Reads.pure (v, ())).all
      | _ => exact absurd hunit Bool.false_ne_true
  | bool => exact fun v _ hfit => hclosed .bool v rfl hfit
  | int width => exact fun v _ hfit => hclosed (.int width) v rfl hfit
  | varInt => exact fun v _ hfit => hclosed .varInt v rfl hfit
  | string => exact fun v _ hfit => hclosed .string v rfl hfit
  | blockPos => exact fun v _ hfit => hclosed .blockPos v rfl hfit
  | clientIntent => exact fun v _ hfit => hclosed .clientIntent v rfl hfit
  | chat => exact fun v _ hfit => hclosed .chat v rfl hfit
  | statusResponse => exact fun v _ hfit => hclosed .statusResponse v rfl hfit
  | byteArray n => exact fun v _ hfit => hclosed (.byteArray n) v rfl hfit
  | unit => exact fun v _ hfit => hclosed .unit v rfl hfit

/-! ### Truncated inputs -/

/-- No part of the layout travels as JSON text. -/
def jsonFree : Layout → Bool
  | .chat => false
  | .statusResponse => false
  | .option t => t.jsonFree
  | .vec t => t.jsonFree
  | .field _ _ t rest => t.jsonFree && rest.jsonFree
  | _ => true

theorem decode_delimits {serde : Serde} :
    ∀ t : Layout, t.selfDelimiting = true → Delimits (decode serde t) := by
  intro t
  induction t with
  | bool => exact fun _ => decodeBool_delimits
  | int width => exact fun _ => decodeInt_delimits width
  | varInt => exact fun _ => VarInt.decode_delimits
  | string => exact fun _ => decodeString_delimits
  | blockPos => exact fun _ => (decodeInt_delimits 8).map _
  | clientIntent => exact fun _ => decodeClientIntent_delimits
  | chat => exact fun _ => decodeJson_delimits serde.chatFromStr
  | statusResponse => exact fun _ => decodeJson_delimits serde.statusFromStr
  | byteArray n => exact fun _ => decodeByteArray_delimits n
  | rawBytes => exact fun hsd => absurd hsd (by decide)
  | option t ih => exact fun hsd => decodeOption_delimits (ih hsd)
  | vec t ih => exact fun hsd => decodeVec_delimits (ih hsd)
  | unit => exact fun _ => Delimits.pure ()
  | field ident name t rest iht ihrest =>
    intro hsd
    rw [selfDelimiting, Bool.and_eq_true] at hsd
    exact (delimits_decodeContext _ (iht hsd.1)).bind fun v =>
      (ihrest hsd.2).bind fun vs => Delimits.pure (v, vs)

/-- Whatever was written is read as some value: as another one where a block position
lies outside its bits. -/
theorem encode_reads_some {serde : Serde} :
    ∀ (t : Layout) (v : t.Val) (bs : Bytes), t.selfDelimiting = true → t.jsonFree = true →
      encode serde t v = .ok bs → ∃ w, Reads (decode serde t) bs w := by
  intro t
  induction t with
  | bool =>
    intro v bs _ _ h
    cases h
    exact ⟨v, decodeBool_reads v⟩
  | int width =>
    intro v bs _ _ h
    cases h
    exact ⟨v, decodeInt_reads width v⟩
  | varInt =>
    intro v bs _ _ h
    cases h
    exact ⟨v, VarInt.decode_encode v⟩
  | string => exact fun v bs _ _ h => ⟨v, encodeString_reads h⟩
  | blockPos =>
    intro v bs _ _ h
    cases h
    exact ⟨_, (decodeInt_reads 8 v.toPacked).map BlockPos.fromPacked⟩
  | clientIntent =>
    intro v bs _ _ h
    cases h
    exact ⟨v, decodeClientIntent_reads v⟩
  | chat => exact fun _ _ _ hjson _ => absurd hjson (by decide)
  | statusResponse => exact fun _ _ _ hjson _ => absurd hjson (by decide)
  | byteArray n =>
    intro v bs _ _ h
    cases h
    exact ⟨v, decodeByteArray_reads v⟩
  | rawBytes => exact fun _ _ hsd _ _ => absurd hsd (by decide)
  | option t ih =>
    exact fun v bs hsd hjson h => encodeOption_reads_some (fun x b => ih x b hsd hjson) h
  | vec t ih =>
    exact fun v bs hsd hjson h => encodeVec_reads_some (fun x b => ih x b hsd hjson) h
  | unit =>
    intro v bs _ _ h
    cases h
    exact ⟨v, Reads.pure v⟩
  | field ident name t rest iht ihrest =>
    intro v bs hsd hjson h
    obtain ⟨v, vs⟩ := v
    rw [selfDelimiting, Bool.and_eq_true] at hsd
    rw [jsonFree, Bool.and_eq_true] at hjson
    obtain ⟨b, bs', hv, hvs, rfl⟩ := encode_field_eq_ok h
    obtain ⟨w, hw⟩ := iht v b hsd.1 hjson.1 hv
    obtain ⟨ws, hws⟩ := ihrest vs bs' hsd.2 hjson.2 hvs
    exact ⟨(w, ws), (reads_decodeContext _ hw).bind (hws.bind_nil (Reads.pure (w, ws)))⟩

/-! ### Layouts that are never read back -/

/-- Nothing of the layout is read from an empty input. -/
def needsInput : Layout → Bool
  | .int width => 0 < width
  | .byteArray n => 0 < n
  | .rawBytes => false
  | .unit => false
  | .field _ _ t _ => t.needsInput
  | _ => true

def isRawBytes : Layout → Bool
  | .rawBytes => true
  | _ => false

/-- Somewhere raw bytes take the input from a field that needs some. -/
def starved : Layout → Bool
  | .field _ _ t rest => (t.isRawBytes && rest.needsInput) || rest.starved
  | _ => false

theorem decode_nil (serde : Serde) {t : Layout} (h : t.needsInput = true) :
    ∃ e, decode serde t [] = .error e := by
  induction t with
  | int width =>
    have hw : 0 < width := by simpa [needsInput] using h
    refine ⟨.io .unexpectedEof, Decoder.bind_error ?_⟩
    exact if_neg (by simpa using Nat.pos_iff_ne_zero.mp hw)
  | byteArray n =>
    have hn : 0 < n := by simpa [needsInput] using h
    exact ⟨.io .unexpectedEof, dif_neg (by simpa using Nat.pos_iff_ne_zero.mp hn)⟩
  | rawBytes => exact absurd h (by decide)
  | unit => exact absurd h (by decide)
  | field ident name t rest iht _ =>
    obtain ⟨e, he⟩ := iht h
    refine ⟨.context (decodeFieldContext ident name) e, Decoder.bind_error ?_⟩
    rw [decodeContext, he]
    rfl
  | _ => exact ⟨_, rfl⟩

/-- A starved layout is read from no input at all. -/
theorem decode_starved (serde : Serde) {t : Layout} (h : t.starved = true) (b : Bytes)
    (r : t.Val × Bytes) : decode serde t b ≠ .ok r := by
  induction t generalizing b with
  | field ident name t rest _ ihrest =>
    rw [starved, Bool.or_eq_true, Bool.and_eq_true] at h
    intro hok
    obtain ⟨v, b', hv, hok⟩ := Decoder.bind_eq_ok.mp hok
    obtain ⟨vs, b'', hvs, -⟩ := Decoder.bind_eq_ok.mp hok
    rcases h with ⟨hraw, hneeds⟩ | hrest
    · cases t with
      | rawBytes =>
        obtain ⟨-, rfl⟩ : b = v ∧ [] = b' := Prod.mk.inj (Except.ok.inj hv)
        obtain ⟨e, he⟩ := decode_nil serde hneeds
        rw [he] at hvs
        cases hvs
      | _ => exact absurd hraw Bool.false_ne_true
    · exact ihrest hrest b' (vs, b'') hvs
  | _ => exact absurd h Bool.false_ne_true

/-! ### Failures -/

theorem decode_refuses (serde : Serde) (t : Layout) : Refuses Plain (decode serde t) := by
  induction t with
  | bool => exact decodeBool_refuses
  | int width => exact decodeInt_refuses width
  | varInt => exact VarInt.decode_refuses
  | string => exact decodeString_refuses
  | blockPos => exact (decodeInt_refuses 8).map _
  | clientIntent => exact decodeClientIntent_refuses
  | chat => exact decodeJson_refuses serde.chatFromStr
  | statusResponse => exact decodeJson_refuses serde.statusFromStr
  | byteArray n => exact decodeByteArray_refuses n
  | rawBytes => exact fun b => Fails.ok (b, [])
  | option t ih => exact decodeOption_refuses ih
  | vec t ih => exact decodeVec_refuses ih
  | unit => exact Refuses.pure ()
  | field ident name t rest _ ih =>
    exact Refuses.bind (fun b => fails_withContext _ (decode serde t b)) fun v =>
      ih.bind fun vs => Refuses.pure (v, vs)

theorem encode_fails (serde : Serde) (t : Layout) (v : t.Val) :
    Fails Textual (encode serde t v) := by
  induction t with
  | string => exact encodeString_fails v
  | chat => exact encodeString_fails _
  | statusResponse => exact encodeString_fails _
  | option t ih => exact encodeOption_fails v fun a _ => ih a
  | vec t ih => exact encodeVec_fails v fun x _ => ih x
  | field ident name t rest iht ih =>
    obtain ⟨v, vs⟩ := v
    rw [encode]
    cases hv : withContext (encodeContext ident name) (encode serde t v) with
    | error e => exact Fails.error (textual_withContext _ (iht v) e hv)
    | ok b =>
      cases hvs : encode serde rest vs with
      | error e => exact Fails.error (ih vs e hvs)
      | ok bs => exact Fails.ok _
  | _ => exact Fails.ok _

end Layout

end Statik
