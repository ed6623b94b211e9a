import Mathlib.Data.List.Basic
import Mathlib.Tactic.Common

/-!
# Reading up to a delimiter

What a reader takes of a stream that comes in pieces and that it reads up to a delimiter.
-/

namespace Wire

section

variable {α : Type} [DecidableEq α] (stop : α)

/-- The beginning of a stream up to the first delimiter, with it. -/
def takeThrough : List α → List α
  | [] => []
  | a :: rest => if a = stop then [a] else a :: takeThrough rest

variable {stop} {b more : List α}

theorem takeThrough_append_of_not_mem (h : stop ∉ b) :
    takeThrough stop (b ++ more) = b ++ takeThrough stop more := by
  induction b with
  | nil => rfl
  | cons a rest ih =>
    obtain ⟨hne, hrest⟩ : stop ≠ a ∧ stop ∉ rest := by simpa using h
    rw [List.cons_append, takeThrough, if_neg (Ne.symm hne), ih hrest, List.cons_append]

theorem takeThrough_of_not_mem (h : stop ∉ b) : takeThrough stop b = b := by
  have happend : takeThrough stop (b ++ []) = b ++ [] := takeThrough_append_of_not_mem h
  rwa [List.append_nil] at happend

end

end Wire
