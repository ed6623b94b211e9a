import Statik.Wire.Decoder

/-!
# NBT trees

The named binary tag format: thirteen types of tags, and the trees they make.  The
strings are of any type that has an encoding as bytes.
-/

namespace Nbt

open Wire

inductive Tag where
  | end_
  | byte
  | short
  | int
  | long
  | float
  | double
  | byteArray
  | string
  | list
  | compound
  | intArray
  | longArray
  deriving DecidableEq, Repr

namespace Tag

/-- The byte that stands for the type. -/
def id : Tag → Byte
  | .end_ => 0
  | .byte => 1
  | .short => 2
  | .int => 3
  | .long => 4
  | .float => 5
  | .double => 6
  | .byteArray => 7
  | .string => 8
  | .list => 9
  | .compound => 10
  | .intArray => 11
  | .longArray => 12

def all : List Tag :=
  [.end_, .byte, .short, .int, .long, .float, .double, .byteArray, .string, .list, .compound,
    .intArray, .longArray]

def ofId? (id : Byte) : Option Tag := all.find? fun tag => tag.id == id

@[simp] theorem ofId?_id (tag : Tag) : ofId? tag.id = some tag := by
  cases tag <;> rfl

theorem id_injective : Function.Injective id := by
  intro tag tag' h
  have htag := congrArg ofId? h
  rw [ofId?_id, ofId?_id] at htag
  exact Option.some.inj htag

end Tag

/-- The strings of a tree, and their bytes. -/
structure Text (σ : Type) where
  toBytes : σ → Bytes
  ofBytes : Bytes → Option σ
  ofBytes_toBytes : ∀ s, ofBytes (toBytes s) = some s

/-- A tag with what it holds.  A `float` or `double` is its bits. -/
inductive Tree (σ : Type) where
  | byte (v : BitVec 8)
  | short (v : BitVec 16)
  | int (v : BitVec 32)
  | long (v : BitVec 64)
  | float (bits : BitVec 32)
  | double (bits : BitVec 64)
  | byteArray (vs : List (BitVec 8))
  | string (s : σ)
  | list (inner : Tag) (items : List (Tree σ))
  | compound (entries : List (σ × Tree σ))
  | intArray (vs : List (BitVec 32))
  | longArray (vs : List (BitVec 64))
  deriving Repr

namespace Tree

variable {σ : Type}

def tag : Tree σ → Tag
  | .byte _ => .byte
  | .short _ => .short
  | .int _ => .int
  | .long _ => .long
  | .float _ => .float
  | .double _ => .double
  | .byteArray _ => .byteArray
  | .string _ => .string
  | .list _ _ => .list
  | .compound _ => .compound
  | .intArray _ => .intArray
  | .longArray _ => .longArray

/-- Only a `list` and a `compound` hold trees. -/
theorem induct {P : Tree σ → Prop}
    (flat : ∀ t : Tree σ, t.tag ≠ .list → t.tag ≠ .compound → P t)
    (list : ∀ inner items, (∀ t ∈ items, P t) → P (.list inner items))
    (compound : ∀ entries, (∀ e ∈ entries, P e.2) → P (.compound entries)) (t : Tree σ) : P t := by
  refine @Tree.rec σ P (fun items => ∀ t ∈ items, P t) (fun entries => ∀ e ∈ entries, P e.2)
    (fun e => P e.2) ?_ ?_ ?_ ?_ ?_ ?_ ?_ ?_ list compound ?_ ?_ ?_ ?_ ?_ ?_ ?_ t
  case refine_11 => exact fun t ht => absurd ht List.not_mem_nil
  case refine_12 => exact fun t ts ht hts => List.forall_mem_cons.mpr ⟨ht, hts⟩
  case refine_13 => exact fun e he => absurd he List.not_mem_nil
  case refine_14 => exact fun e es he hes => List.forall_mem_cons.mpr ⟨he, hes⟩
  case refine_15 => exact fun name t ht => ht
  all_goals
    intro v
    exact flat _ Tag.noConfusion Tag.noConfusion

/-! ### What holds of every part -/

mutual

/-- `p` holds of the tree and of all trees in it. -/
def All (p : Tree σ → Prop) : Tree σ → Prop
  | .list inner items => p (.list inner items) ∧ AllItems p items
  | .compound entries => p (.compound entries) ∧ AllEntries p entries
  | t => p t

def AllItems (p : Tree σ → Prop) : List (Tree σ) → Prop
  | [] => True
  | t :: ts => All p t ∧ AllItems p ts

def AllEntries (p : Tree σ → Prop) : List (σ × Tree σ) → Prop
  | [] => True
  | (_, t) :: es => All p t ∧ AllEntries p es

end

variable {p : Tree σ → Prop}

theorem allItems_iff {items : List (Tree σ)} : AllItems p items ↔ ∀ t ∈ items, All p t := by
  induction items with
  | nil => simp [AllItems]
  | cons t ts ih => rw [AllItems, ih, List.forall_mem_cons]

theorem allEntries_iff {entries : List (σ × Tree σ)} :
    AllEntries p entries ↔ ∀ e ∈ entries, All p e.2 := by
  induction entries with
  | nil => simp [AllEntries]
  | cons e es ih => rw [AllEntries, ih, List.forall_mem_cons]

@[simp] theorem all_list {inner : Tag} {items : List (Tree σ)} :
    All p (.list inner items) ↔ p (.list inner items) ∧ ∀ t ∈ items, All p t := by
  rw [All, allItems_iff]

@[simp] theorem all_compound {entries : List (σ × Tree σ)} :
    All p (.compound entries) ↔ p (.compound entries) ∧ ∀ e ∈ entries, All p e.2 := by
  rw [All, allEntries_iff]

/-- What holds of all parts holds of the tree. -/
theorem All.self {t : Tree σ} (h : All p t) : p t := by
  cases t with
  | list inner items => exact (all_list.mp h).1
  | compound entries => exact (all_compound.mp h).1
  | _ => exact h

variable (text : Text σ)

/-- The string can be written: its length is a `u16`. -/
def Short (s : σ) : Prop := (text.toBytes s).length < 2 ^ 16

instance (s : σ) : Decidable (Short text s) :=
  inferInstanceAs (Decidable ((text.toBytes s).length < 2 ^ 16))

/-- The strings of the tag itself are short, and its items have the type it declares. -/
def TypedHere : Tree σ → Prop
  | .string s => Short text s
  | .list inner items => ∀ t ∈ items, t.tag = inner
  | .compound entries => ∀ e ∈ entries, Short text e.1
  | _ => True

def WellTyped : Tree σ → Prop := All (TypedHere text)

/-- The count of the tag itself is an `i32`. -/
def CountedHere : Tree σ → Prop
  | .byteArray vs => vs.length < 2 ^ 31
  | .list _ items => items.length < 2 ^ 31
  | .intArray vs => vs.length < 2 ^ 31
  | .longArray vs => vs.length < 2 ^ 31
  | _ => True

def Counted : Tree σ → Prop := All CountedHere

end Tree

end Nbt
