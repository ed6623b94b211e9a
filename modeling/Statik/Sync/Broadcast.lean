import Mathlib.Data.List.Basic
import Mathlib.Tactic.Common

/-!
# Channels

A broadcast channel keeps the last values for receivers that read at their own pace;
one that falls behind is told how many it missed.  Of a channel whose values nobody
sends only the number of its senders is left.
-/

namespace Sync

/-- A broadcast channel.  Positions count the values since its beginning, and a
receiver is the position of the value it reads next. -/
structure Broadcast (α : Type) where
  capacity : Nat
  sent : List α
  senders : Nat
  receivers : Nat

/-- What a `recv` completes with. -/
inductive Received (α : Type) where
  | value (a : α)
  | lagged (missed : Nat)
  | closed
  deriving DecidableEq, Repr

namespace Broadcast

variable {α : Type}

/-- The channel, of one sender and one receiver at position 0. -/
def channel (capacity : Nat) : Broadcast α :=
  { capacity := capacity, sent := [], senders := 1, receivers := 1 }

/-- The position of the next value to be sent. -/
def tail (c : Broadcast α) : Nat := c.sent.length

/-- The position of the first value that is not overwritten. -/
def head (c : Broadcast α) : Nat := c.tail - c.capacity

/-- Fails without receivers. -/
def send (c : Broadcast α) (a : α) : Option (Broadcast α) :=
  if c.receivers = 0 then none else some { c with sent := c.sent ++ [a] }

/-- What a receiver receives and its position then, or nothing yet. -/
def recv (c : Broadcast α) (next : Nat) : Option (Received α × Nat) :=
  if next < c.head then some (.lagged (c.head - next), c.head)
  else
    match c.sent[next]? with
    | some a => some (.value a, next + 1)
    | none => if c.senders = 0 then some (.closed, next) else none

/-- A new receiver, which receives what is sent from now on. -/
def subscribe (c : Broadcast α) : Broadcast α × Nat :=
  ({ c with receivers := c.receivers + 1 }, c.tail)

def dropReceiver (c : Broadcast α) : Broadcast α := { c with receivers := c.receivers - 1 }

def cloneSender (c : Broadcast α) : Broadcast α := { c with senders := c.senders + 1 }

def dropSender (c : Broadcast α) : Broadcast α := { c with senders := c.senders - 1 }

theorem send_eq_some {c c' : Broadcast α} {a : α} (h : c.send a = some c') :
    c' = { c with sent := c.sent ++ [a] } := by
  rw [send] at h
  by_cases hnone : c.receivers = 0
  · rw [if_pos hnone] at h
    cases h
  · rw [if_neg hnone] at h
    exact (Option.some.inj h).symm

theorem send_of_receivers {c : Broadcast α} (h : 0 < c.receivers) (a : α) :
    c.send a = some { c with sent := c.sent ++ [a] } := if_neg (by omega)

/-- A receiver with something to read does not wait, and is not told of the end. -/
theorem recv_unread {c : Broadcast α} {next : Nat} (h : next < c.tail) :
    ∃ received next', c.recv next = some (received, next') ∧ received ≠ .closed := by
  rw [recv]
  by_cases hlag : next < c.head
  · rw [if_pos hlag]
    exact ⟨_, _, rfl, by simp⟩
  · rw [if_neg hlag, List.getElem?_eq_getElem h]
    exact ⟨_, _, rfl, by simp⟩

theorem recv_lagged_iff {c : Broadcast α} {next : Nat} :
    (∃ missed next', c.recv next = some (.lagged missed, next')) ↔
      next + c.capacity < c.tail := by
  have hhead : next < c.head ↔ next + c.capacity < c.tail := by
    unfold head
    omega
  rw [← hhead, recv]
  constructor
  · rintro ⟨missed, next', h⟩
    by_contra hlag
    rw [if_neg hlag] at h
    split at h
    · cases h
    · split at h <;> cases h
  · intro hlag
    rw [if_pos hlag]
    exact ⟨_, _, rfl⟩

/-- A receiver that has read everything receives only the end. -/
theorem recv_read {c : Broadcast α} {next : Nat} (h : c.tail ≤ next) :
    c.recv next = if c.senders = 0 then some (.closed, next) else none := by
  have hhead : ¬ next < c.head := by
    unfold head
    omega
  rw [recv, if_neg hhead, List.getElem?_eq_none h]

/-- A receiver never gets ahead of what was sent. -/
theorem recv_next_le {c : Broadcast α} {next next' : Nat} {received : Received α}
    (h : c.recv next = some (received, next')) (hle : next ≤ c.tail) : next' ≤ c.tail := by
  rw [recv] at h
  split at h
  · cases h
    exact Nat.sub_le _ _
  · split at h
    · next hget =>
      cases h
      exact (List.getElem?_eq_some_iff.mp hget).1
    · split at h
      · cases h
        exact hle
      · cases h

/-- Only a receiver that has read everything is told of the end, and stays where it is. -/
theorem recv_closed {c : Broadcast α} {next next' : Nat}
    (h : c.recv next = some (.closed, next')) : c.senders = 0 ∧ next' = next := by
  have hread : c.tail ≤ next := by
    by_contra hunread
    obtain ⟨received, position, hrecv, hne⟩ := recv_unread (Nat.lt_of_not_le hunread)
    rw [hrecv] at h
    cases h
    exact hne rfl
  rw [recv_read hread] at h
  by_cases hsenders : c.senders = 0
  · rw [if_pos hsenders] at h
    cases h
    exact ⟨hsenders, rfl⟩
  · rw [if_neg hsenders] at h
    cases h

/-- A receiver receives what was sent. -/
theorem recv_value {c : Broadcast α} {next next' : Nat} {a : α}
    (h : c.recv next = some (.value a, next')) : a ∈ c.sent := by
  rw [recv] at h
  by_cases hlag : next < c.head
  · rw [if_pos hlag] at h
    cases h
  · rw [if_neg hlag] at h
    cases hget : c.sent[next]? with
    | none =>
      simp only [hget] at h
      split at h <;> cases h
    | some b =>
      simp only [hget] at h
      cases h
      exact List.mem_of_getElem? hget

/-- Before anything is sent a receiver receives nothing but the end. -/
theorem recv_nil {c : Broadcast α} {next next' : Nat} {received : Received α}
    (hnil : c.sent = []) (h : c.recv next = some (received, next')) : received = .closed := by
  have hread : c.tail ≤ next := by
    rw [tail, hnil]
    exact Nat.zero_le next
  rw [recv_read hread] at h
  split at h
  · cases h
    rfl
  · cases h

end Broadcast

/-- The senders of a channel on which nothing is sent. -/
structure Mpsc where
  senders : Nat

namespace Mpsc

def cloneSender (c : Mpsc) : Mpsc := { senders := c.senders + 1 }

def dropSender (c : Mpsc) : Mpsc := { senders := c.senders - 1 }

/-- Whether `recv` completes, with `None`. -/
def closed (c : Mpsc) : Bool := c.senders == 0

end Mpsc

end Sync
