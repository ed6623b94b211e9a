import Mathlib.Algebra.Order.Ring.Int
import Mathlib.Data.List.Basic
import Mathlib.Data.List.Induction
import Mathlib.Tactic.Common

/-!
# Byte strings, encoders and decoders

A decoder reads a value off the front of a byte string and returns what it did
not read, or refuses.  `Reads` is the law of a self-delimiting encoding: the
decoder recovers the value whatever follows it and leaves what follows alone.
`ReadsAll` is the weaker law of an encoding that ends with its input, which is
all a reader of "the remaining bytes" can satisfy.  Both compose along the
sequencing of decoders.
-/

namespace Wire

abbrev Byte := BitVec 8

abbrev Bytes := List Byte

/-- Reads an `α` off the front of the input, keeping the rest as the new input,
or refuses with an `ε`. -/
abbrev Decoder (ε α : Type) := StateT Bytes (Except ε) α

variable {ε α β : Type}

namespace Decoder

theorem bind_apply (d : Decoder ε α) (f : α → Decoder ε β) (b : Bytes) :
    (d >>= f) b =
      match d b with
      | .ok (a, rest) => f a rest
      | .error e => .error e := by
  show (Except.bind (d b) fun p => f p.1 p.2) = _
  cases d b with
  | error e => rfl
  | ok p => rfl

@[simp] theorem pure_apply (a : α) (b : Bytes) :
    (pure a : Decoder ε α) b = .ok (a, b) := rfl

@[simp] theorem throw_apply (e : ε) (b : Bytes) :
    (throw e : Decoder ε α) b = .error e := rfl

theorem bind_ok {d : Decoder ε α} {f : α → Decoder ε β} {b rest : Bytes} {a : α}
    (h : d b = .ok (a, rest)) : (d >>= f) b = f a rest := by
  rw [bind_apply, h]

theorem bind_error {d : Decoder ε α} {f : α → Decoder ε β} {b : Bytes} {e : ε}
    (h : d b = .error e) : (d >>= f) b = .error e := by
  rw [bind_apply, h]

theorem bind_eq_ok {d : Decoder ε α} {f : α → Decoder ε β} {b : Bytes} {r : β × Bytes} :
    (d >>= f) b = .ok r ↔ ∃ a rest, d b = .ok (a, rest) ∧ f a rest = .ok r := by
  rw [bind_apply]
  cases d b with
  | error e => simp
  | ok p => exact ⟨fun h => ⟨p.1, p.2, rfl, h⟩, fun ⟨_, _, hp, hf⟩ => by cases hp; exact hf⟩

theorem map_eq_ok {f : α → β} {d : Decoder ε α} {b : Bytes} {r : β × Bytes} :
    (f <$> d) b = .ok r ↔ ∃ a, d b = .ok (a, r.2) ∧ f a = r.1 := by
  rw [map_eq_pure_bind, bind_eq_ok]
  constructor
  · rintro ⟨a, rest, hd, hr⟩
    cases hr
    exact ⟨a, hd, rfl⟩
  · rintro ⟨a, hd, hr⟩
    exact ⟨a, r.2, hd, by rw [pure_apply, hr]⟩

theorem map_apply (f : α → β) (d : Decoder ε α) (b : Bytes) :
    (f <$> d) b =
      match d b with
      | .ok (a, rest) => .ok (f a, rest)
      | .error e => .error e := by
  rw [map_eq_pure_bind, bind_apply]
  cases d b with
  | error e => rfl
  | ok p => rfl

end Decoder

/-- The decoder reads `used` as `a` whatever follows, and leaves what follows. -/
def Reads (d : Decoder ε α) (used : Bytes) (a : α) : Prop :=
  ∀ rest, d (used ++ rest) = .ok (a, rest)

/-- The decoder reads `used` as `a` when the input ends there. -/
def ReadsAll (d : Decoder ε α) (used : Bytes) (a : α) : Prop :=
  d used = .ok (a, [])

theorem Reads.all {d : Decoder ε α} {used : Bytes} {a : α} (h : Reads d used a) :
    ReadsAll d used a := by
  have hnil := h []
  rwa [List.append_nil] at hnil

theorem Reads.pure (a : α) : Reads (pure a : Decoder ε α) [] a := fun _ => rfl

theorem Reads.bind {d : Decoder ε α} {f : α → Decoder ε β} {used used' : Bytes} {a : α} {c : β}
    (hd : Reads d used a) (hf : Reads (f a) used' c) : Reads (d >>= f) (used ++ used') c := by
  intro rest
  rw [List.append_assoc, Decoder.bind_ok (hd (used' ++ rest))]
  exact hf rest

/-- A continuation that reads nothing more. -/
theorem Reads.bind_nil {d : Decoder ε α} {f : α → Decoder ε β} {used : Bytes} {a : α} {c : β}
    (hd : Reads d used a) (hf : Reads (f a) [] c) : Reads (d >>= f) used c := by
  have h := hd.bind hf
  rwa [List.append_nil] at h

theorem Reads.bind_all {d : Decoder ε α} {f : α → Decoder ε β} {used used' : Bytes} {a : α}
    {c : β} (hd : Reads d used a) (hf : ReadsAll (f a) used' c) :
    ReadsAll (d >>= f) (used ++ used') c := by
  show (d >>= f) (used ++ used') = _
  rw [Decoder.bind_ok (hd used')]
  exact hf

theorem ReadsAll.bind_all {d : Decoder ε α} {f : α → Decoder ε β} {used : Bytes} {a : α} {c : β}
    (hd : ReadsAll d used a) (hf : ReadsAll (f a) [] c) : ReadsAll (d >>= f) used c := by
  show (d >>= f) used = _
  rw [Decoder.bind_ok hd]
  exact hf

theorem Reads.map {d : Decoder ε α} {used : Bytes} {a : α} (f : α → β) (h : Reads d used a) :
    Reads (f <$> d) used (f a) := by
  intro rest
  rw [Decoder.map_apply, h rest]

theorem ReadsAll.map {d : Decoder ε α} {used : Bytes} {a : α} (f : α → β)
    (h : ReadsAll d used a) : ReadsAll (f <$> d) used (f a) := by
  show (f <$> d) used = _
  rw [Decoder.map_apply, h]

/-! ### Bytes at a time -/

/-- The next `n` bytes, refusing with `eof` when there are fewer. -/
def takeBytes (eof : ε) (n : Nat) : Decoder ε Bytes := fun b =>
  if n ≤ b.length then .ok (b.take n, b.drop n) else .error eof

theorem takeBytes_reads (eof : ε) {n : Nat} {used : Bytes} (h : used.length = n) :
    Reads (takeBytes eof n) used used := by
  intro rest
  subst h
  simp [takeBytes]

/-! ### Runs of items -/

/-- `n` items read one after the other. -/
def many (d : Decoder ε α) : Nat → Decoder ε (List α)
  | 0 => pure []
  | n + 1 => do
    let a ← d
    let as ← many d n
    pure (a :: as)

/-- The items' encodings back to back, or the first refusal. -/
def encodeMany (enc : α → Except ε Bytes) : List α → Except ε Bytes
  | [] => .ok []
  | a :: as => do
    let b ← enc a
    let bs ← encodeMany enc as
    .ok (b ++ bs)

theorem encodeMany_reads {d : Decoder ε α} {enc : α → Except ε Bytes} :
    ∀ (as : List α), (∀ a ∈ as, ∃ b, enc a = .ok b ∧ Reads d b a) →
      ∃ bs, encodeMany enc as = .ok bs ∧ Reads (many d as.length) bs as := by
  intro as
  induction as with
  | nil => exact fun _ => ⟨[], rfl, Reads.pure []⟩
  | cons a as ih =>
    intro h
    obtain ⟨b, hb, hrb⟩ := h a List.mem_cons_self
    obtain ⟨bs, hbs, hrbs⟩ := ih fun a' ha' => h a' (List.mem_cons_of_mem a ha')
    refine ⟨b ++ bs, ?_, ?_⟩
    · rw [encodeMany, hb]
      show (encodeMany enc as).bind _ = _
      rw [hbs]
      rfl
    · exact hrb.bind (hrbs.bind_nil (Reads.pure (a :: as)))

theorem many_reads {α : Type} {d : Decoder ε α} {bytes : α → Bytes} {as : List α}
    (h : ∀ a ∈ as, Reads d (bytes a) a) : Reads (many d as.length) (as.flatMap bytes) as := by
  induction as with
  | nil => exact Reads.pure []
  | cons a as ih =>
    obtain ⟨hhead, htail⟩ := List.forall_mem_cons.mp h
    exact hhead.bind ((ih htail).bind_nil (Reads.pure (a :: as)))

/-! ### Decoders that look no further than they read -/

/-- What the decoder reads off an input it reads whatever follows. -/
def Delimits (d : Decoder ε α) : Prop :=
  ∀ b rest a, d b = .ok (a, rest) → ∃ used, b = used ++ rest ∧ Reads d used a

theorem Delimits.pure (a : α) : Delimits (pure a : Decoder ε α) := by
  intro b rest a' h
  obtain ⟨rfl, rfl⟩ : a = a' ∧ b = rest := Prod.mk.inj (Except.ok.inj h)
  exact ⟨[], rfl, Reads.pure a⟩

theorem Delimits.throw (e : ε) : Delimits (throw e : Decoder ε α) := by
  intro b rest a h
  cases h

theorem Delimits.bind {d : Decoder ε α} {f : α → Decoder ε β} (hd : Delimits d)
    (hf : ∀ a, Delimits (f a)) : Delimits (d >>= f) := by
  intro b rest c h
  obtain ⟨a, mid, ha, hc⟩ := Decoder.bind_eq_ok.mp h
  obtain ⟨used, rfl, hread⟩ := hd b mid a ha
  obtain ⟨used', rfl, hread'⟩ := hf a mid rest c hc
  exact ⟨used ++ used', (List.append_assoc _ _ _).symm, hread.bind hread'⟩

theorem Delimits.map {d : Decoder ε α} (f : α → β) (hd : Delimits d) : Delimits (f <$> d) := by
  rw [map_eq_pure_bind]
  exact hd.bind fun a => Delimits.pure (f a)

theorem Delimits.many {d : Decoder ε α} (hd : Delimits d) (n : Nat) : Delimits (many d n) := by
  induction n with
  | zero => exact Delimits.pure []
  | succ n ih => exact hd.bind fun a => ih.bind fun as => Delimits.pure (a :: as)

theorem Delimits.takeBytes (eof : ε) (n : Nat) : Delimits (takeBytes eof n) := by
  intro b rest a h
  rw [Wire.takeBytes] at h
  split at h
  · next hle =>
    obtain ⟨rfl, rfl⟩ := Prod.mk.inj (Except.ok.inj h)
    have hlen : (b.take n).length = n := by
      rw [List.length_take]
      omega
    exact ⟨b.take n, (List.take_append_drop n b).symm, takeBytes_reads eof hlen⟩
  · cases h

/-- Nothing is read off an encoding that is cut short. -/
theorem Delimits.refuses_cut {d : Decoder ε α} (hd : Delimits d) {b more : Bytes} {a : α}
    (h : Reads d (b ++ more) a) (hmore : more ≠ []) : ∃ e, d b = .error e := by
  cases hdecode : d b with
  | error e => exact ⟨e, rfl⟩
  | ok r =>
    obtain ⟨used, heq, hread⟩ := hd b r.2 r.1 hdecode
    have hwhole := h []
    rw [List.append_nil, heq, List.append_assoc, hread (r.2 ++ more)] at hwhole
    have hnil := (Prod.mk.inj (Except.ok.inj hwhole)).2
    exact absurd (List.append_eq_nil_iff.mp hnil).2 hmore

/-! ### Which refusals occur -/

/-- Every failure of the result satisfies `P`. -/
def Fails (P : ε → Prop) (r : Except ε α) : Prop := ∀ e, r = .error e → P e

/-- Every refusal of the decoder satisfies `P`. -/
def Refuses (P : ε → Prop) (d : Decoder ε α) : Prop := ∀ b, Fails P (d b)

variable {P : ε → Prop}

theorem Fails.ok (a : α) : Fails P (.ok a) := fun _ h => nomatch h

theorem Fails.error {e : ε} (h : P e) : Fails P (.error e : Except ε α) := by
  intro e' he
  rw [← Except.error.inj he]
  exact h

theorem Fails.bind {r : Except ε α} {f : α → Except ε β} (hr : Fails P r)
    (hf : ∀ a, r = .ok a → Fails P (f a)) : Fails P (r >>= f) := by
  cases r with
  | error e => exact Fails.error (hr e rfl)
  | ok a => exact hf a rfl

theorem Refuses.pure (a : α) : Refuses P (pure a : Decoder ε α) := fun b => Fails.ok (a, b)

theorem Refuses.throw {e : ε} (h : P e) : Refuses P (throw e : Decoder ε α) :=
  fun _ => Fails.error h

theorem Refuses.bind {d : Decoder ε α} {f : α → Decoder ε β} (hd : Refuses P d)
    (hf : ∀ a, Refuses P (f a)) : Refuses P (d >>= f) := by
  intro b
  rw [Decoder.bind_apply]
  cases h : d b with
  | error e => exact Fails.error (hd b e h)
  | ok r => exact hf r.1 r.2

theorem Refuses.map {d : Decoder ε α} (f : α → β) (hd : Refuses P d) : Refuses P (f <$> d) := by
  rw [map_eq_pure_bind]
  exact hd.bind fun a => Refuses.pure (f a)

theorem Refuses.many {d : Decoder ε α} (hd : Refuses P d) (n : Nat) : Refuses P (many d n) := by
  induction n with
  | zero => exact Refuses.pure []
  | succ n ih => exact hd.bind fun a => ih.bind fun as => Refuses.pure (a :: as)

theorem Refuses.takeBytes {eof : ε} (h : P eof) (n : Nat) : Refuses P (takeBytes eof n) := by
  intro b
  rw [Wire.takeBytes]
  split
  · exact Fails.ok _
  · exact Fails.error h

theorem Fails.encodeMany {enc : α → Except ε Bytes} {as : List α}
    (h : ∀ a ∈ as, Fails P (enc a)) : Fails P (encodeMany enc as) := by
  induction as with
  | nil => exact Fails.ok []
  | cons a as ih =>
    have has := ih fun a' ha' => h a' (List.mem_cons_of_mem a ha')
    exact (h a List.mem_cons_self).bind fun b _ => has.bind fun bs _ => Fails.ok (b ++ bs)

/-! ### Big-endian numbers -/

/-- The low `n` bytes of `v`, most significant first. -/
def beBytes : Nat → Nat → Bytes
  | 0, _ => []
  | n + 1, v => beBytes n (v / 256) ++ [BitVec.ofNat 8 v]

/-- The number the bytes spell, most significant first. -/
def beNat (bs : Bytes) : Nat :=
  bs.foldl (fun acc b => acc * 256 + b.toNat) 0

theorem beBytes_length (n v : Nat) : (beBytes n v).length = n := by
  induction n generalizing v with
  | zero => rfl
  | succ n ih => rw [beBytes, List.length_append, ih, List.length_singleton]

theorem beNat_append_byte (bs : Bytes) (b : Byte) :
    beNat (bs ++ [b]) = beNat bs * 256 + b.toNat := by
  simp [beNat, List.foldl_append]

theorem beNat_beBytes (n v : Nat) : beNat (beBytes n v) = v % 256 ^ n := by
  induction n generalizing v with
  | zero => rw [Nat.pow_zero, Nat.mod_one]; rfl
  | succ n ih =>
    rw [beBytes, beNat_append_byte, ih, BitVec.toNat_ofNat]
    have hsplit : v % 256 ^ (n + 1) = v % 256 + 256 * (v / 256 % 256 ^ n) := by
      rw [Nat.pow_succ, Nat.mul_comm, Nat.mod_mul]
    omega

/-- The bytes above the width are not written. -/
theorem beBytes_mod (n v : Nat) : beBytes n (v % 256 ^ n) = beBytes n v := by
  induction n generalizing v with
  | zero => rfl
  | succ n ih =>
    have hlast : BitVec.ofNat 8 (v % 256 ^ (n + 1)) = BitVec.ofNat 8 v := by
      apply BitVec.eq_of_toNat_eq
      rw [BitVec.toNat_ofNat, BitVec.toNat_ofNat]
      exact Nat.mod_mod_of_dvd v (Dvd.intro_left (256 ^ n) rfl)
    rw [beBytes, beBytes, hlast, Nat.pow_succ', Nat.mod_mul_right_div_self, ih]

theorem beBytes_add (m n v : Nat) :
    beBytes (m + n) v = beBytes m (v / 256 ^ n) ++ beBytes n v := by
  induction n generalizing v with
  | zero => rw [Nat.pow_zero, Nat.div_one, beBytes, List.append_nil, Nat.add_zero]
  | succ n ih =>
    rw [← Nat.add_assoc, beBytes, ih, beBytes, List.append_assoc, Nat.div_div_eq_div_mul,
      Nat.pow_succ']

/-- A fixed-width number is recovered from its big-endian bytes. -/
theorem ofNat_beNat_beBytes (n : Nat) (v : BitVec (8 * n)) :
    BitVec.ofNat (8 * n) (beNat (beBytes n v.toNat)) = v := by
  apply BitVec.eq_of_toNat_eq
  rw [beNat_beBytes, BitVec.toNat_ofNat, show (256 : Nat) ^ n = 2 ^ (8 * n) by rw [Nat.pow_mul],
    Nat.mod_mod, Nat.mod_eq_of_lt v.isLt]

end Wire
