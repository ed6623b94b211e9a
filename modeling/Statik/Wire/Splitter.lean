import Mathlib.Algebra.Order.Ring.Int
import Mathlib.Data.List.Basic
import Mathlib.Data.List.Induction
import Mathlib.Tactic.Common

/-!
# Splitting a stream into items

A splitter takes one item at a time off the front of what has arrived.  Bytes
that arrive later never change an item that was complete, so what a receiver
makes of a stream does not depend on how the stream was cut into chunks.
-/

namespace Wire

/-- Takes an item off the front of a list, if a whole one is there.  The rules may
change from one item to the next, with the state. -/
structure Splitter (σ α β : Type) where
  take : σ → List β → Option (α × σ × List β)
  shrinks : ∀ {s : σ} {b : List β} {a : α} {s' : σ} {rest : List β},
    take s b = some (a, s', rest) → rest.length < b.length
  stable : ∀ {s : σ} {b : List β} {a : α} {s' : σ} {rest : List β} (more : List β),
    take s b = some (a, s', rest) → take s (b ++ more) = some (a, s', rest ++ more)

/-- What a receiver has made of a stream: the items, and what is no item yet. -/
structure Received (σ α β : Type) where
  items : List α
  state : σ
  pending : List β

variable {σ α β : Type}

/-- Items in front of those received. -/
def Received.prepend (items : List α) (r : Received σ α β) : Received σ α β :=
  { r with items := items ++ r.items }

@[simp] theorem Received.prepend_nil (r : Received σ α β) : r.prepend [] = r := rfl

@[simp] theorem Received.prepend_append (items items' : List α) (r : Received σ α β) :
    r.prepend (items ++ items') = (r.prepend items').prepend items := by
  simp only [prepend, List.append_assoc]

namespace Splitter

variable (P : Splitter σ α β)

/-- Takes items until there is no whole one left. -/
def drain (s : σ) (b : List β) : Received σ α β :=
  match _h : P.take s b with
  | none => { items := [], state := s, pending := b }
  | some (a, s', rest) => (drain s' rest).prepend [a]
termination_by b.length
decreasing_by exact P.shrinks _h

/-- Adds a chunk to what is pending, and drains. -/
def feed (r : Received σ α β) (chunk : List β) : Received σ α β :=
  (P.drain r.state (r.pending ++ chunk)).prepend r.items

variable {P} {s : σ} {b : List β}

theorem drain_none (h : P.take s b = none) :
    P.drain s b = { items := [], state := s, pending := b } := by
  rw [drain]
  split
  · rfl
  · next hsome => rw [h] at hsome; cases hsome

theorem drain_some {a : α} {s' : σ} {rest : List β} (h : P.take s b = some (a, s', rest)) :
    P.drain s b = (P.drain s' rest).prepend [a] := by
  rw [drain]
  split
  · next hnone => rw [h] at hnone; cases hnone
  · next hsome => rw [h] at hsome; cases hsome; rfl

/-- Draining a stream is draining its beginning, and then the rest behind what was
left over. -/
theorem drain_append (P : Splitter σ α β) (s : σ) (b more : List β) :
    P.drain s (b ++ more) = P.feed (P.drain s b) more := by
  induction hn : b.length using Nat.strongRecOn generalizing s b with
  | _ n ih =>
    subst hn
    cases h : P.take s b with
    | none => rw [drain_none h, feed, Received.prepend_nil]
    | some r =>
      rw [drain_some h, drain_some (P.stable more h), ih _ (P.shrinks h) _ _ rfl, feed, feed,
        ← Received.prepend_append]
      rfl

/-- Items received before stay in front. -/
theorem feed_prepend (P : Splitter σ α β) (items : List α) (r : Received σ α β)
    (chunk : List β) : P.feed (r.prepend items) chunk = (P.feed r chunk).prepend items := by
  rw [feed, feed, ← Received.prepend_append]
  rfl

/-- The chunks in which a stream arrives do not matter. -/
theorem feed_chunks (P : Splitter σ α β) (s : σ) (chunks : List (List β)) :
    chunks.foldl P.feed { items := [], state := s, pending := [] } =
      P.drain s chunks.flatten := by
  suffices hfrom : ∀ b, chunks.foldl P.feed (P.drain s b) = P.drain s (b ++ chunks.flatten) by
    rw [← List.nil_append chunks.flatten, ← hfrom []]
    cases h : P.take s [] with
    | none => rw [drain_none h]
    | some r => exact absurd (P.shrinks h) (Nat.not_lt_zero _)
  induction chunks with
  | nil => intro b; rw [List.flatten_nil, List.append_nil, List.foldl_nil]
  | cons chunk chunks ih =>
    intro b
    rw [List.foldl_cons, ← drain_append, ih, List.flatten_cons, List.append_assoc]

/-- What holds of every item taken holds of all items drained. -/
theorem drain_items {p : α → Prop}
    (hp : ∀ {s b a s' rest}, P.take s b = some (a, s', rest) → p a) (s : σ) (b : List β) :
    ∀ a ∈ (P.drain s b).items, p a := by
  induction hn : b.length using Nat.strongRecOn generalizing s b with
  | _ n ih =>
    subst hn
    cases h : P.take s b with
    | none =>
      rw [drain_none h]
      exact fun _ ha => absurd ha List.not_mem_nil
    | some r =>
      rw [drain_some h]
      intro a ha
      rcases List.mem_append.mp ha with hself | hrest
      · cases List.mem_singleton.mp hself
        exact hp h
      · exact ih _ (P.shrinks h) _ _ rfl a hrest

end Splitter

end Wire
