import Statik.Wire.Decoder

/-!
# Decoders with the memory they reserve

A decoder once more, with every vector it makes room for before it reads the elements
as an output of its own, also where it refuses in the end.  `Within` bounds them, and
is decided part by part along the sequencing of decoders.
-/

namespace Wire

/-- `Vec::with_capacity(capacity)`, for elements of `size` bytes. -/
structure Reservation where
  capacity : Nat
  size : Nat
  deriving DecidableEq, Repr

def Reservation.bytes (r : Reservation) : Nat := r.capacity * r.size

/-- The reservations in their order, and what is decoded. -/
def Reserving (ε α : Type) : Type := Bytes → List Reservation × Except ε (α × Bytes)

namespace Reserving

variable {ε α β : Type}

/-- A decoder that reserves nothing. -/
def of (d : Decoder ε α) : Reserving ε α := fun b => ([], d b)

def reserve (capacity size : Nat) : Reserving ε Unit := fun b =>
  ([{ capacity := capacity, size := size }], .ok ((), b))

def andThen (c : Reserving ε α) (f : α → Reserving ε β) : Reserving ε β := fun b =>
  match (c b).2 with
  | .ok (a, rest) => ((c b).1 ++ (f a rest).1, (f a rest).2)
  | .error e => ((c b).1, .error e)

instance : Monad (Reserving ε) where
  pure a := of (pure a)
  bind := andThen

theorem bind_apply (c : Reserving ε α) (f : α → Reserving ε β) (b : Bytes) :
    (c >>= f) b =
      match (c b).2 with
      | .ok (a, rest) => ((c b).1 ++ (f a rest).1, (f a rest).2)
      | .error e => ((c b).1, .error e) := rfl

/-- What the decoder decodes is what the plain one decodes. -/
def Decodes (c : Reserving ε α) (d : Decoder ε α) : Prop := ∀ b, (c b).2 = d b

theorem Decodes.of (d : Decoder ε α) : Decodes (.of d) d := fun _ => rfl

theorem Decodes.pure (a : α) : Decodes (pure a : Reserving ε α) (pure a) := fun _ => rfl

theorem Decodes.bind {c : Reserving ε α} {d : Decoder ε α} {f : α → Reserving ε β}
    {g : α → Decoder ε β} (h : Decodes c d) (hf : ∀ a, Decodes (f a) (g a)) :
    Decodes (c >>= f) (d >>= g) := by
  intro b
  rw [bind_apply, Decoder.bind_apply, h b]
  cases d b with
  | error e => rfl
  | ok r => exact hf r.1 r.2

theorem Decodes.map {c : Reserving ε α} {d : Decoder ε α} (f : α → β) (h : Decodes c d) :
    Decodes (f <$> c) (f <$> d) := by
  show Decodes (c >>= fun a => Pure.pure (f a)) (f <$> d)
  rw [map_eq_pure_bind]
  exact h.bind fun a => Decodes.pure (f a)

/-- A reservation is no step of the plain decoder. -/
theorem Decodes.reserve {d : Decoder ε α} {f : Unit → Reserving ε α} (capacity size : Nat)
    (h : Decodes (f ()) d) : Decodes (reserve capacity size >>= f) d := h

/-- On the bytes every reservation is of at most `limit` bytes. -/
def Within (limit : Nat) (c : Reserving ε α) (b : Bytes) : Prop :=
  ∀ r ∈ (c b).1, r.bytes ≤ limit

variable {limit : Nat}

theorem within_of (d : Decoder ε α) (b : Bytes) : Within limit (.of d) b := by
  intro r hr
  cases hr

theorem within_reserve {capacity size : Nat} {f : Unit → Reserving ε α} {b : Bytes} :
    Within limit (reserve capacity size >>= f) b ↔
      capacity * size ≤ limit ∧ Within limit (f ()) b := by
  show (∀ r ∈ _ :: (f () b).1, r.bytes ≤ limit) ↔ _
  rw [List.forall_mem_cons]
  exact Iff.rfl

/-- The second decoder reads what the first left. -/
theorem within_bind {c : Reserving ε α} {d : Decoder ε α} (h : Decodes c d)
    {f : α → Reserving ε β} {b : Bytes} :
    Within limit (c >>= f) b ↔
      Within limit c b ∧ ∀ a rest, d b = .ok (a, rest) → Within limit (f a) rest := by
  unfold Within
  rw [bind_apply, h b]
  cases d b with
  | error e => simp
  | ok r =>
    simp only [List.forall_mem_append]
    refine and_congr_right fun _ => ⟨fun hr a rest ha => ?_, fun hr => hr r.1 r.2 rfl⟩
    cases ha
    exact hr

theorem within_map {c : Reserving ε α} {d : Decoder ε α} (h : Decodes c d) {f : α → β}
    {b : Bytes} : Within limit (f <$> c) b ↔ Within limit c b := by
  show Within limit (c >>= fun a => Pure.pure (f a)) b ↔ _
  rw [within_bind h]
  exact and_iff_left fun a rest _ => within_of (Pure.pure (f a)) rest

end Reserving

/-- `n` elements one after the other. -/
def manyReserving {ε α : Type} (c : Reserving ε α) : Nat → Reserving ε (List α)
  | 0 => pure []
  | n + 1 => do
    let a ← c
    let as ← manyReserving c n
    pure (a :: as)

namespace Reserving

variable {ε α : Type} {limit : Nat} {c : Reserving ε α} {d : Decoder ε α}

theorem Decodes.many (h : Decodes c d) (n : Nat) : Decodes (manyReserving c n) (Wire.many d n) := by
  induction n with
  | zero => exact Decodes.pure []
  | succ n ih => exact h.bind fun a => ih.bind fun as => Decodes.pure (a :: as)

/-- Each element is read from what those before it left. -/
theorem within_many (h : Decodes c d) (n : Nat) (b : Bytes) :
    Within limit (manyReserving c n) b ↔
      ∀ i < n, ∀ as rest, Wire.many d i b = .ok (as, rest) → Within limit c rest := by
  induction n generalizing b with
  | zero => exact ⟨fun _ i hi => absurd hi (Nat.not_lt_zero i), fun _ => within_of _ b⟩
  | succ n ih =>
    have hrest : ∀ a rest, Within limit (manyReserving c n >>= fun as => Pure.pure (a :: as)) rest ↔
        Within limit (manyReserving c n) rest := by
      intro a rest
      rw [within_bind (h.many n)]
      exact and_iff_left fun as rest' _ => within_of (Pure.pure (a :: as)) rest'
    rw [manyReserving, within_bind h]
    constructor
    · rintro ⟨hfirst, hlater⟩ i hi as rest hmany
      cases i with
      | zero =>
        cases hmany
        exact hfirst
      | succ i =>
        rw [Wire.many, Decoder.bind_eq_ok] at hmany
        obtain ⟨a, rest₁, ha, hmany⟩ := hmany
        rw [Decoder.bind_eq_ok] at hmany
        obtain ⟨as', rest₂, has, hpure⟩ := hmany
        cases hpure
        exact (ih rest₁).mp ((hrest a rest₁).mp (hlater a rest₁ ha)) i (by omega) as' rest has
    · intro hall
      refine ⟨hall 0 (by omega) [] b rfl, fun a rest ha => ?_⟩
      rw [hrest, ih]
      intro i hi as rest' has
      refine hall (i + 1) (by omega) (a :: as) rest' ?_
      rw [Wire.many, Decoder.bind_ok ha, Decoder.bind_ok has]
      rfl

end Reserving

end Wire
