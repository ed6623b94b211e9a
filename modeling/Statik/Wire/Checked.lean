import Statik.Wire.Decoder

/-!
# Operations that may be out of range

Shifts, slices, buffer advances and vector allocations with the checks a Rust
program panics on.  A checked decoder is a decoder built from them.  `Safe` says
that, on inputs within a limit, it never leaves a range and decodes what a plain
decoder decodes, and `Writes` the like of a writer onto a vector.
-/

namespace Wire

/-- An operation that left its range, with the value that did. -/
inductive OutOfRange where
  | shift (amount : Nat)
  | slice (start stop : Nat)
  | advance (count : Nat)
  | allocation (bytes : Nat)
  | cursor (length : Nat)
  deriving DecidableEq, Repr

abbrev Checked (α : Type) := Except OutOfRange α

/-- `isize::MAX`, the most bytes of an allocation. -/
def isizeMax : Nat := 9223372036854775807

namespace Checked

variable {α : Type}

def shiftLeft {w : Nat} (x : BitVec w) (n : Nat) : Checked (BitVec w) :=
  if n < w then .ok (x <<< n) else .error (.shift n)

def shiftRight {w : Nat} (x : BitVec w) (n : Nat) : Checked (BitVec w) :=
  if n < w then .ok (x >>> n) else .error (.shift n)

/-- The arithmetic shift of a signed number. -/
def sshiftRight {w : Nat} (x : BitVec w) (n : Nat) : Checked (BitVec w) :=
  if n < w then .ok (x.sshiftRight n) else .error (.shift n)

/-- `&b[start..stop]`. -/
def slice (b : List α) (start stop : Nat) : Checked (List α) :=
  if start ≤ stop ∧ stop ≤ b.length then .ok ((b.take stop).drop start)
  else .error (.slice start stop)

/-- `buffer.advance(n)`. -/
def advance (b : List α) (n : Nat) : Checked (List α) :=
  if n ≤ b.length then .ok (b.drop n) else .error (.advance n)

/-- What is written to the front of an array of `n` zero bytes. -/
def array (n : Nat) (bs : Bytes) : Checked Bytes :=
  if bs.length ≤ n then .ok (bs ++ List.replicate (n - bs.length) 0)
  else .error (.cursor bs.length)

/-- Room for `count` elements of `size` bytes, from an allocator that gives no more
than `room` bytes at once. -/
def allocateWithin (room size count : Nat) : Checked Nat :=
  if size * count ≤ room then .ok count else .error (.allocation (size * count))

/-- Of an allocator that gives whatever is in range. -/
def allocate (size count : Nat) : Checked Nat := allocateWithin isizeMax size count

/-- The capacity a vector begins with when its first element comes. -/
def minNonZeroCap (size : Nat) : Nat := if size = 1 then 8 else if size ≤ 1024 then 4 else 1

/-- The capacity of a vector with room for `needed` elements: the old one, or at
least twice as much. -/
def growWithin (room size capacity needed : Nat) : Checked Nat :=
  if needed ≤ capacity then .ok capacity
  else allocateWithin room size (max (minNonZeroCap size) (max (2 * capacity) needed))

def grow (size capacity needed : Nat) : Checked Nat := growWithin isizeMax size capacity needed

@[simp] theorem ok_bind {β : Type} (a : α) (f : α → Checked β) :
    ((.ok a : Checked α) >>= f) = f a := rfl

theorem shiftLeft_ok {w : Nat} (x : BitVec w) {n : Nat} (h : n < w) :
    shiftLeft x n = .ok (x <<< n) := if_pos h

theorem shiftRight_ok {w : Nat} (x : BitVec w) {n : Nat} (h : n < w) :
    shiftRight x n = .ok (x >>> n) := if_pos h

theorem slice_prefix (b : List α) {stop : Nat} (h : stop ≤ b.length) :
    slice b 0 stop = .ok (b.take stop) := if_pos ⟨Nat.zero_le stop, h⟩

theorem slice_suffix (b : List α) {start : Nat} (h : start ≤ b.length) :
    slice b start b.length = .ok (b.drop start) := by
  rw [slice, if_pos ⟨h, Nat.le_refl _⟩, List.take_length]

theorem advance_ok (b : List α) {n : Nat} (h : n ≤ b.length) : advance b n = .ok (b.drop n) :=
  if_pos h

theorem array_ok {n : Nat} {bs : Bytes} (h : bs.length ≤ n) :
    array n bs = .ok (bs ++ List.replicate (n - bs.length) 0) := if_pos h

theorem allocateWithin_ok {room size count : Nat} (h : size * count ≤ room) :
    allocateWithin room size count = .ok count := if_pos h

theorem allocateWithin_error {room size count : Nat} (h : ¬ size * count ≤ room) :
    allocateWithin room size count = .error (.allocation (size * count)) := if_neg h

theorem allocate_ok {size count : Nat} (h : size * count ≤ isizeMax) :
    allocate size count = .ok count := allocateWithin_ok h

theorem minNonZeroCap_le (size : Nat) : minNonZeroCap size ≤ 8 := by
  rw [minNonZeroCap]
  split
  · omega
  · split <;> omega

/-- A vector of up to `most` elements grows to a capacity within range, if eight
and twice as many elements are. -/
theorem growWithin_ok {room : Nat} (size capacity : Nat) {needed most : Nat}
    (hneeded : needed ≤ most) (hmost : size * (2 * most + 8) ≤ room) :
    ∃ capacity', growWithin room size capacity needed = .ok capacity' := by
  rw [growWithin]
  by_cases hroom : needed ≤ capacity
  · rw [if_pos hroom]
    exact ⟨capacity, rfl⟩
  · rw [if_neg hroom]
    refine ⟨_, allocateWithin_ok (Nat.le_trans (Nat.mul_le_mul_left size ?_) hmost)⟩
    have := minNonZeroCap_le size
    omega

theorem grow_ok (size capacity : Nat) {needed most : Nat} (hneeded : needed ≤ most)
    (hmost : size * (2 * most + 8) ≤ isizeMax) :
    ∃ capacity', grow size capacity needed = .ok capacity' :=
  growWithin_ok size capacity hneeded hmost

theorem growWithin_unchanged {room size capacity needed : Nat} (h : needed ≤ capacity) :
    growWithin room size capacity needed = .ok capacity := if_pos h

/-- A full vector of four elements or more doubles. -/
theorem growWithin_full (room size : Nat) {capacity : Nat} (h : 4 ≤ capacity) :
    growWithin room size capacity (capacity + 1) = allocateWithin room size (2 * capacity) := by
  have hmin : minNonZeroCap size ≤ 2 * capacity := by
    have := minNonZeroCap_le size
    omega
  rw [growWithin, if_neg (by omega), Nat.max_eq_left (by omega : capacity + 1 ≤ 2 * capacity),
    Nat.max_eq_right hmin]

end Checked

/-! ### Checked decoders -/

/-- A decoder whose operations are checked. -/
abbrev CheckedDecoder (ε α : Type) := StateT Bytes (ExceptT ε (Except OutOfRange)) α

/-- On inputs of at most `limit` bytes the checked decoder stays within range and
decodes what the plain one decodes, which leaves no more than it was given. -/
def Safe {ε α : Type} (limit : Nat) (c : CheckedDecoder ε α) (d : Decoder ε α) : Prop :=
  ∀ b, b.length ≤ limit → c b = (.ok (d b) : Checked (Except ε (α × Bytes))) ∧
    ∀ a rest, d b = .ok (a, rest) → rest.length ≤ b.length

namespace CheckedDecoder

variable {ε α β : Type}

/-- A decoder without operations that could leave their range. -/
def of (d : Decoder ε α) : CheckedDecoder ε α := fun b => (.ok (d b) : Checked _)

/-- A checked operation in the middle of a decoder. -/
def check (x : Checked α) : CheckedDecoder ε α := fun b =>
  match x with
  | .ok a => (.ok (.ok (a, b)) : Checked _)
  | .error e => (.error e : Checked _)

theorem bind_apply (c : CheckedDecoder ε α) (f : α → CheckedDecoder ε β) (b : Bytes) :
    (c >>= f) b =
      match (c b : Checked (Except ε (α × Bytes))) with
      | .ok (.ok (a, rest)) => f a rest
      | .ok (.error e) => (.ok (.error e) : Checked _)
      | .error e => (.error e : Checked _) := by
  show Except.bind (c b) _ = _
  cases (c b : Checked (Except ε (α × Bytes))) with
  | error e => rfl
  | ok r =>
    cases r with
    | error e => rfl
    | ok p => rfl

end CheckedDecoder

/-- What a delimiting decoder leaves is no longer than what it was given. -/
theorem Delimits.length_le {ε α : Type} {d : Decoder ε α} (hd : Delimits d) {b rest : Bytes}
    {a : α} (h : d b = .ok (a, rest)) : rest.length ≤ b.length := by
  obtain ⟨used, rfl, -⟩ := hd b rest a h
  rw [List.length_append]
  omega

namespace Safe

variable {ε α β : Type} {limit : Nat}

theorem of {d : Decoder ε α} (h : Delimits d) : Safe limit (.of d) d :=
  fun _ _ => ⟨rfl, fun _ _ => h.length_le⟩

theorem pure (a : α) : Safe limit (pure a : CheckedDecoder ε α) (pure a) := by
  intro b _
  refine ⟨rfl, fun a' rest h => ?_⟩
  cases h
  exact Nat.le_refl _

theorem throw (e : ε) : Safe limit (throw e : CheckedDecoder ε α) (throw e) := by
  intro b _
  exact ⟨rfl, fun a rest h => by cases h⟩

theorem bind {c : CheckedDecoder ε α} {d : Decoder ε α} {f : α → CheckedDecoder ε β}
    {g : α → Decoder ε β} (h : Safe limit c d) (hf : ∀ a, Safe limit (f a) (g a)) :
    Safe limit (c >>= f) (d >>= g) := by
  intro b hb
  obtain ⟨hc, hrest⟩ := h b hb
  rw [CheckedDecoder.bind_apply, hc, Decoder.bind_apply]
  cases hd : d b with
  | error e => exact ⟨rfl, fun a rest h => by cases h⟩
  | ok r =>
    have hle := hrest r.1 r.2 hd
    obtain ⟨hfirst, hsecond⟩ := hf r.1 r.2 (Nat.le_trans hle hb)
    exact ⟨hfirst, fun a rest h => Nat.le_trans (hsecond a rest h) hle⟩

theorem map {c : CheckedDecoder ε α} {d : Decoder ε α} (f : α → β) (h : Safe limit c d) :
    Safe limit (f <$> c) (f <$> d) := by
  rw [map_eq_pure_bind, map_eq_pure_bind]
  exact h.bind fun a => Safe.pure (f a)

/-- A checked operation that stays within range is no step of the plain decoder. -/
theorem check {x : Checked α} {a : α} {f : α → CheckedDecoder ε β} {d : Decoder ε β}
    (hx : x = .ok a) (h : Safe limit (f a) d) : Safe limit (.check x >>= f) d := by
  subst hx
  intro b hb
  rw [CheckedDecoder.bind_apply]
  exact h b hb

end Safe

/-- `n` elements of `size` bytes pushed onto a vector, with the capacity and the
number of those before them. -/
def manyWithin {ε α : Type} (room size : Nat) (c : CheckedDecoder ε α) :
    Nat → Nat → Nat → CheckedDecoder ε (List α)
  | 0, _, _ => pure []
  | n + 1, capacity, length => do
    let a ← c
    let capacity ← .check (Checked.growWithin room size capacity (length + 1))
    let as ← manyWithin room size c n capacity (length + 1)
    pure (a :: as)

section

variable {ε α : Type} {limit room size : Nat} {c : CheckedDecoder ε α} {d : Decoder ε α}

theorem Safe.many (h : Safe limit c d) {most : Nat} (hmost : size * (2 * most + 8) ≤ room)
    (n capacity length : Nat) (hlength : length + n ≤ most) :
    Safe limit (manyWithin room size c n capacity length) (many d n) := by
  induction n generalizing capacity length with
  | zero => exact Safe.pure []
  | succ n ih =>
    refine h.bind fun a => ?_
    have hneeded : length + 1 ≤ most := by omega
    obtain ⟨capacity', hgrow⟩ := Checked.growWithin_ok size capacity hneeded hmost
    refine Safe.check hgrow ?_
    exact (ih capacity' (length + 1) (by omega)).bind fun as => Safe.pure (a :: as)

/-- Elements there is room for need no more of it. -/
theorem Safe.many_reserved (h : Safe limit c d) (n capacity length : Nat)
    (hlength : length + n ≤ capacity) :
    Safe limit (manyWithin room size c n capacity length) (Wire.many d n) := by
  induction n generalizing length with
  | zero => exact Safe.pure []
  | succ n ih =>
    refine h.bind fun a => ?_
    refine Safe.check (Checked.growWithin_unchanged (by omega)) ?_
    exact (ih (length + 1) (by omega)).bind fun as => Safe.pure (a :: as)

end

/-! ### Elements of one width -/

/-- Every doubling of the capacity on the way to `needed` elements is within `room`. -/
def Doubles (room size capacity needed : Nat) : Prop :=
  ∀ j, capacity * 2 ^ j < needed → size * (capacity * 2 ^ (j + 1)) ≤ room

/-- The decoder reads `width` bytes, whatever they are, and refuses fewer. -/
def FixedWidth {ε α : Type} (width : Nat) (d : Decoder ε α) : Prop :=
  ∀ b, if width ≤ b.length then ∃ a, d b = .ok (a, b.drop width) else ∃ e, d b = .error e

namespace Doubles

variable {room size capacity needed : Nat}

theorem of_le (h : needed ≤ capacity) : Doubles room size capacity needed := by
  intro j hj
  have := Nat.le_mul_of_pos_right capacity (Nat.two_pow_pos j)
  omega

/-- The first doubling, and those after it. -/
theorem iff_double (h : capacity < needed) :
    Doubles room size capacity needed ↔
      size * (2 * capacity) ≤ room ∧ Doubles room size (2 * capacity) needed := by
  have hshift : ∀ j, capacity * 2 ^ (j + 1) = 2 * capacity * 2 ^ j := by
    intro j
    rw [Nat.pow_succ', ← Nat.mul_assoc, Nat.mul_comm capacity 2]
  constructor
  · intro hall
    refine ⟨?_, fun j hj => ?_⟩
    · have hfirst := hall 0 (by rwa [Nat.pow_zero, Nat.mul_one])
      rwa [hshift, Nat.pow_zero, Nat.mul_one] at hfirst
    · rw [← hshift] at hj ⊢
      exact hall (j + 1) hj
  · rintro ⟨hfirst, hlater⟩ j hj
    cases j with
    | zero => rwa [hshift, Nat.pow_zero, Nat.mul_one]
    | succ j =>
      rw [hshift] at hj ⊢
      exact hlater j hj

end Doubles

section

variable {ε α : Type} {room size width : Nat} {d : Decoder ε α}

/-- An element is read and pushed, the vector grown for it where it is full. -/
theorem manyWithin_push {n capacity capacity' length : Nat} {b rest : Bytes} {a : α}
    (ha : d b = .ok (a, rest))
    (hgrow : Checked.growWithin room size capacity (length + 1) = .ok capacity') :
    manyWithin room size (.of d) (n + 1) capacity length b =
      ((manyWithin room size (.of d) n capacity' (length + 1) >>= fun as => pure (a :: as)) rest :
        Checked _) := by
  rw [manyWithin, CheckedDecoder.bind_apply, CheckedDecoder.of, ha]
  simp only
  rw [CheckedDecoder.bind_apply, hgrow]
  rfl

theorem manyWithin_full {n capacity length : Nat} {b rest : Bytes} {a : α} {e : OutOfRange}
    (ha : d b = .ok (a, rest))
    (hgrow : Checked.growWithin room size capacity (length + 1) = .error e) :
    manyWithin room size (.of d) (n + 1) capacity length b = (.error e : Checked _) := by
  rw [manyWithin, CheckedDecoder.bind_apply, CheckedDecoder.of, ha]
  simp only
  rw [CheckedDecoder.bind_apply, hgrow]
  rfl

/-- The vector grows for the elements that are there, and no further: within the room
it is read as ever, else the growth it has no room for ends it. -/
theorem manyWithin_fixed (room size : Nat) (hd : FixedWidth width d) (hwidth : 0 < width)
    (n capacity length : Nat) (hcapacity : 4 ≤ capacity) (hlength : length ≤ capacity)
    (b : Bytes) :
    (Doubles room size capacity (length + min n (b.length / width)) →
      manyWithin room size (.of d) n capacity length b = (.ok (many d n b) : Checked _)) ∧
    (¬ Doubles room size capacity (length + min n (b.length / width)) →
      ∃ bytes, manyWithin room size (.of d) n capacity length b =
        (.error (.allocation bytes) : Checked _)) := by
  induction n generalizing capacity length b with
  | zero =>
    refine ⟨fun _ => rfl, fun hnot => absurd (Doubles.of_le ?_) hnot⟩
    rwa [Nat.zero_min, Nat.add_zero]
  | succ n ih =>
    have hread := hd b
    by_cases hb : width ≤ b.length
    · rw [if_pos hb] at hread
      obtain ⟨a, ha⟩ := hread
      have hcount : length + min (n + 1) (b.length / width) =
          length + 1 + min n ((b.drop width).length / width) := by
        rw [List.length_drop, Nat.div_eq_sub_div hwidth hb]
        omega
      rw [hcount]
      -- what the elements after this one come to, with the capacity this one leaves
      have hafter : ∀ capacity', capacity ≤ capacity' → length + 1 ≤ capacity' →
          Checked.growWithin room size capacity (length + 1) = .ok capacity' →
          (Doubles room size capacity' (length + 1 + min n ((b.drop width).length / width)) →
            manyWithin room size (.of d) (n + 1) capacity length b =
              (.ok (many d (n + 1) b) : Checked _)) ∧
          (¬ Doubles room size capacity' (length + 1 + min n ((b.drop width).length / width)) →
            ∃ bytes, manyWithin room size (.of d) (n + 1) capacity length b =
              (.error (.allocation bytes) : Checked _)) := by
        intro capacity' hle hroom hgrow
        obtain ⟨hread, hfull⟩ := ih capacity' (length + 1) (by omega) hroom (b.drop width)
        rw [manyWithin_push ha hgrow, CheckedDecoder.bind_apply]
        refine ⟨fun h => ?_, fun h => ?_⟩
        · rw [hread h, many, Decoder.bind_ok ha, Decoder.bind_apply]
          cases many d n (b.drop width) with
          | error e => rfl
          | ok r => rfl
        · obtain ⟨bytes, herror⟩ := hfull h
          exact ⟨bytes, by rw [herror]⟩
      by_cases hroom : length + 1 ≤ capacity
      · exact hafter capacity (Nat.le_refl _) hroom (Checked.growWithin_unchanged hroom)
      · obtain rfl : length = capacity := by omega
        have hdouble := Checked.growWithin_full room size hcapacity
        have hmore := Nat.lt_of_lt_of_le (Nat.lt_succ_self length)
          (Nat.le_add_right (length + 1) (min n ((b.drop width).length / width)))
        rw [Doubles.iff_double hmore]
        by_cases hfits : size * (2 * length) ≤ room
        · rw [Checked.allocateWithin_ok hfits] at hdouble
          rw [and_iff_right hfits]
          exact hafter (2 * length) (by omega) (by omega) hdouble
        · rw [Checked.allocateWithin_error hfits] at hdouble
          exact ⟨fun h => absurd h.1 hfits, fun _ => ⟨_, manyWithin_full ha hdouble⟩⟩
    · rw [if_neg hb] at hread
      obtain ⟨e, he⟩ := hread
      refine ⟨fun _ => ?_, fun hnot => absurd (Doubles.of_le ?_) hnot⟩
      · rw [manyWithin, CheckedDecoder.bind_apply, CheckedDecoder.of, he, many,
          Decoder.bind_error he]
      · rwa [Nat.div_eq_of_lt (Nat.not_le.mp hb), Nat.min_zero, Nat.add_zero]

end

/-! ### Checked writers -/

/-- A byte vector that is written to. -/
structure Buffer where
  bytes : Bytes
  capacity : Nat

/-- Appends to a byte vector, or refuses. -/
abbrev Writer (ε : Type) := Buffer → Checked (Except ε Buffer)

namespace Writer

variable {ε α : Type}

/-- `write_all`. -/
def write (bs : Bytes) : Writer ε := fun buffer =>
  match Checked.grow 1 buffer.capacity (buffer.bytes.length + bs.length) with
  | .ok capacity => .ok (.ok { bytes := buffer.bytes ++ bs, capacity := capacity })
  | .error e => .error e

def fail (e : ε) : Writer ε := fun _ => .ok (.error e)

def andThen (w w' : Writer ε) : Writer ε := fun buffer =>
  match w buffer with
  | .ok (.ok buffer) => w' buffer
  | .ok (.error e) => .ok (.error e)
  | .error e => .error e

/-- The elements one after the other. -/
def each (w : α → Writer ε) : List α → Writer ε
  | [] => write []
  | a :: as => (w a).andThen (each w as)

end Writer

/-- The bytes of two results, or the first refusal. -/
def appendResults {ε : Type} (r r' : Except ε Bytes) : Except ε Bytes :=
  match r with
  | .error e => .error e
  | .ok b =>
    match r' with
    | .error e => .error e
    | .ok bs => .ok (b ++ bs)

/-- On a vector with room for `most` more bytes within range, the writer stays within
range: it appends the bytes of the result, which are no more than that, or refuses
with the error of the result. -/
def Writes {ε : Type} (w : Writer ε) (most : Nat) (r : Except ε Bytes) : Prop :=
  ∀ buffer, 2 * (buffer.bytes.length + most) + 8 ≤ isizeMax →
    match r with
    | .ok bs => bs.length ≤ most ∧
      ∃ capacity, w buffer = .ok (.ok { bytes := buffer.bytes ++ bs, capacity := capacity })
    | .error e => w buffer = .ok (.error e)

namespace Writes

variable {ε α : Type}

theorem write (bs : Bytes) : Writes (.write bs : Writer ε) bs.length (.ok bs) := by
  intro buffer hroom
  refine ⟨Nat.le_refl _, ?_⟩
  obtain ⟨capacity, hgrow⟩ := Checked.grow_ok 1 buffer.capacity
    (Nat.le_refl (buffer.bytes.length + bs.length)) (by omega)
  exact ⟨capacity, by rw [Writer.write, hgrow]⟩

theorem fail (e : ε) : Writes (.fail e) 0 (.error e) := fun _ _ => rfl

theorem mono {w : Writer ε} {most most' : Nat} {r : Except ε Bytes} (h : Writes w most r)
    (hle : most ≤ most') : Writes w most' r := by
  intro buffer hroom
  have hbuffer := h buffer (by omega)
  cases r with
  | ok bs => exact ⟨Nat.le_trans hbuffer.1 hle, hbuffer.2⟩
  | error e => exact hbuffer

theorem andThen {w w' : Writer ε} {most most' : Nat} {r r' : Except ε Bytes}
    (h : Writes w most r) (h' : Writes w' most' r') :
    Writes (w.andThen w') (most + most') (appendResults r r') := by
  intro buffer hroom
  have hfirst := h buffer (by omega)
  cases r with
  | error e =>
    show w.andThen w' buffer = _
    rw [Writer.andThen, hfirst]
  | ok b =>
    obtain ⟨hb, capacity, hw⟩ := hfirst
    have hsecond := h' { bytes := buffer.bytes ++ b, capacity := capacity } (by
      show 2 * ((buffer.bytes ++ b).length + most') + 8 ≤ isizeMax
      rw [List.length_append]
      omega)
    cases r' with
    | error e =>
      show w.andThen w' buffer = _
      rw [Writer.andThen, hw]
      exact hsecond
    | ok bs =>
      obtain ⟨hbs, capacity', hw'⟩ := hsecond
      refine ⟨?_, capacity', ?_⟩
      · rw [List.length_append]
        omega
      · rw [Writer.andThen, hw]
        simp only
        rw [hw', List.append_assoc]

/-- On an empty vector. -/
theorem empty {w : Writer ε} {most : Nat} {r : Except ε Bytes} (h : Writes w most r)
    (hmost : 2 * most + 8 ≤ isizeMax) (capacity : Nat) :
    (∃ e, r = .error e ∧ w { bytes := [], capacity := capacity } = .ok (.error e)) ∨
    ∃ bs capacity', r = .ok bs ∧ bs.length ≤ most ∧ w { bytes := [], capacity := capacity } =
      .ok (.ok { bytes := bs, capacity := capacity' }) := by
  have hempty := h { bytes := [], capacity := capacity } (by rwa [List.length_nil, Nat.zero_add])
  cases r with
  | error e => exact .inl ⟨e, rfl, hempty⟩
  | ok bs =>
    obtain ⟨hlength, capacity', hw⟩ := hempty
    exact .inr ⟨bs, capacity', rfl, hlength, hw⟩

theorem each {w : α → Writer ε} {most : Nat} {enc : α → Except ε Bytes} {as : List α}
    (h : ∀ a ∈ as, Writes (w a) most (enc a)) :
    Writes (.each w as) (as.length * most) (encodeMany enc as) := by
  induction as with
  | nil => exact (write []).mono (Nat.zero_le _)
  | cons a as ih =>
    have hstep : encodeMany enc (a :: as) = appendResults (enc a) (encodeMany enc as) := by
      rw [encodeMany]
      cases enc a with
      | error e => rfl
      | ok b => cases encodeMany enc as <;> rfl
    rw [hstep, List.length_cons, Nat.succ_mul, Nat.add_comm]
    exact (h a List.mem_cons_self).andThen (ih fun a' ha' => h a' (List.mem_cons_of_mem a ha'))

end Writes

end Wire
