import Statik.Nbt.Tree

/-!
# The bytes of an NBT tree

The payload of a tag is written without its type, which stands in front of it: once for
each entry of a compound, once for all the items of a list.  The reader reads every tree
back that is well typed and counted, whatever follows it.
-/

namespace Nbt

open Wire

variable {ε σ : Type}

/-! ### Writing -/

section writing

variable (text : Text σ)

def shortString (s : σ) : Bytes := beBytes 2 (text.toBytes s).length ++ text.toBytes s

def array (width : Nat) (vs : List (BitVec (8 * width))) : Bytes :=
  beBytes 4 vs.length ++ vs.flatMap fun v => beBytes width v.toNat

namespace Tree

mutual

def payload : Tree σ → Bytes
  | .byte v => beBytes 1 v.toNat
  | .short v => beBytes 2 v.toNat
  | .int v => beBytes 4 v.toNat
  | .long v => beBytes 8 v.toNat
  | .float bits => beBytes 4 bits.toNat
  | .double bits => beBytes 8 bits.toNat
  | .byteArray vs => array 1 vs
  | .string s => shortString text s
  | .list inner items => inner.id :: (beBytes 4 items.length ++ payloads items)
  | .compound entries => body entries
  | .intArray vs => array 4 vs
  | .longArray vs => array 8 vs

def payloads : List (Tree σ) → Bytes
  | [] => []
  | t :: ts => payload t ++ payloads ts

/-- The entries of a compound, and the end of it. -/
def body : List (σ × Tree σ) → Bytes
  | [] => [Tag.end_.id]
  | (name, t) :: es => t.tag.id :: (shortString text name ++ payload t ++ body es)

end

/-- A tree under no name. -/
def anonymous (t : Tree σ) : Bytes := t.tag.id :: t.payload text

def named (name : σ) (t : Tree σ) : Bytes :=
  t.tag.id :: (shortString text name ++ t.payload text)

end Tree

end writing

/-! ### Reading -/

section reading

variable (eof bad : ε) (text : Text σ)

def readNumber (width : Nat) : Decoder ε (BitVec (8 * width)) :=
  (fun bs => BitVec.ofNat (8 * width) (beNat bs)) <$> takeBytes eof width

/-- A count below zero is no items. -/
def readCount : Decoder ε Nat := (fun v => v.toInt.toNat) <$> readNumber eof 4

def readArray (width : Nat) : Decoder ε (List (BitVec (8 * width))) := do
  let count ← readCount eof
  many (readNumber eof width) count

def readShortString : Decoder ε σ := do
  let length ← readNumber eof 2
  let bs ← takeBytes eof length.toNat
  match text.ofBytes bs with
  | some s => pure s
  | none => throw bad

def readTag : Decoder ε Tag := do
  let id ← readNumber eof 1
  match Tag.ofId? id with
  | some tag => pure tag
  | none => throw bad

mutual

/-- No more than `fuel` trees deep. -/
def readPayload : Nat → Tag → Decoder ε (Tree σ)
  | 0, _ => throw bad
  | _ + 1, .end_ => throw bad
  | _ + 1, .byte => .byte <$> readNumber eof 1
  | _ + 1, .short => .short <$> readNumber eof 2
  | _ + 1, .int => .int <$> readNumber eof 4
  | _ + 1, .long => .long <$> readNumber eof 8
  | _ + 1, .float => .float <$> readNumber eof 4
  | _ + 1, .double => .double <$> readNumber eof 8
  | _ + 1, .byteArray => .byteArray <$> readArray eof 1
  | _ + 1, .string => .string <$> readShortString eof bad text
  | fuel + 1, .list => do
    let inner ← readTag eof bad
    let count ← readCount eof
    let items ← many (readPayload fuel inner) count
    pure (.list inner items)
  | fuel + 1, .compound => .compound <$> readBody fuel
  | _ + 1, .intArray => .intArray <$> readArray eof 4
  | _ + 1, .longArray => .longArray <$> readArray eof 8

/-- The entries up to the end of the compound. -/
def readBody : Nat → Decoder ε (List (σ × Tree σ))
  | 0 => throw bad
  | fuel + 1 => do
    let tag ← readTag eof bad
    if tag = .end_ then pure []
    else
      let name ← readShortString eof bad text
      let t ← readPayload fuel tag
      let entries ← readBody fuel
      pure ((name, t) :: entries)

end

def readAnonymous (fuel : Nat) : Decoder ε (Tree σ) := do
  let tag ← readTag eof bad
  readPayload eof bad text fuel tag

/-- A tree is no deeper than its bytes are long. -/
def read : Decoder ε (Tree σ) := fun b => readAnonymous eof bad text b.length b

def readNamedFuel (fuel : Nat) : Decoder ε (σ × Tree σ) := do
  let tag ← readTag eof bad
  let name ← readShortString eof bad text
  let t ← readPayload eof bad text fuel tag
  pure (name, t)

def readNamed : Decoder ε (σ × Tree σ) := fun b => readNamedFuel eof bad text b.length b

end reading

/-! ### Reading back -/

section laws

variable {eof bad : ε} {text : Text σ}

theorem readNumber_reads (width : Nat) (v : BitVec (8 * width)) :
    Reads (readNumber eof width) (beBytes width v.toNat) v := by
  have h := (takeBytes_reads eof (beBytes_length width v.toNat)).map
    fun bs => BitVec.ofNat (8 * width) (beNat bs)
  rwa [ofNat_beNat_beBytes] at h

theorem readCount_reads {n : Nat} (h : n < 2 ^ 31) : Reads (readCount eof) (beBytes 4 n) n := by
  have hword : (BitVec.ofNat (8 * 4) n).toNat = n := by
    rw [BitVec.toNat_ofNat]
    omega
  have hread : Reads (readCount eof) _ _ :=
    (readNumber_reads 4 (BitVec.ofNat (8 * 4) n)).map fun v : BitVec (8 * 4) => v.toInt.toNat
  rw [hword, BitVec.toInt_eq_toNat_cond, hword, if_pos (by omega), Int.toNat_natCast] at hread
  exact hread

theorem readArray_reads (width : Nat) {vs : List (BitVec (8 * width))} (h : vs.length < 2 ^ 31) :
    Reads (readArray eof width) (array width vs) vs :=
  (readCount_reads h).bind (many_reads fun v _ => readNumber_reads width v)

theorem readShortString_reads {s : σ} (h : Tree.Short text s) :
    Reads (readShortString eof bad text) (shortString text s) s := by
  have hword : (BitVec.ofNat (8 * 2) (text.toBytes s).length).toNat = (text.toBytes s).length := by
    rw [BitVec.toNat_ofNat]
    exact Nat.mod_eq_of_lt h
  have hlength : Reads (readNumber eof 2) _ _ :=
    readNumber_reads 2 (BitVec.ofNat (8 * 2) (text.toBytes s).length)
  rw [hword] at hlength
  refine hlength.bind ((takeBytes_reads eof hword.symm).bind_nil ?_)
  rw [text.ofBytes_toBytes]
  exact Reads.pure s

theorem readTag_reads (tag : Tag) : Reads (readTag eof bad) [tag.id] tag := by
  have hid : beBytes 1 tag.id.toNat = [tag.id] := by
    cases tag <;> rfl
  have hread : Reads (readNumber eof 1) _ tag.id := readNumber_reads 1 tag.id
  rw [hid] at hread
  refine hread.bind_nil ?_
  rw [Tag.ofId?_id]
  exact Reads.pure tag

/-- More fuel than some number is enough for a round. -/
theorem exists_fuel {n fuel : Nat} (h : n < fuel) : ∃ rest, fuel = rest + 1 :=
  Nat.exists_eq_succ_of_ne_zero (Nat.ne_of_gt (Nat.zero_lt_of_lt h))

namespace Tree

theorem tag_ne_end (t : Tree σ) : t.tag ≠ .end_ := by
  cases t <;> exact Tag.noConfusion

theorem payloads_eq (items : List (Tree σ)) :
    payloads text items = items.flatMap (payload text) := by
  induction items with
  | nil => rfl
  | cons t ts ih => rw [payloads, ih, List.flatMap_cons]

theorem body_eq (entries : List (σ × Tree σ)) :
    body text entries = (entries.flatMap fun e => e.2.named text e.1) ++ [Tag.end_.id] := by
  induction entries with
  | nil => rfl
  | cons e es ih =>
    rw [body, ih, List.flatMap_cons]
    simp only [named, List.cons_append, List.append_assoc]

theorem length_payload_le {t : Tree σ} {items : List (Tree σ)} (h : t ∈ items) :
    (payload text t).length ≤ (payloads text items).length := by
  rw [payloads_eq, List.flatMap_def]
  exact (List.sublist_flatten_of_mem (List.mem_map_of_mem h)).length_le

variable (eof bad text) in
/-- The payload is read back when the fuel is more than its bytes. -/
def ReadsBack (t : Tree σ) : Prop :=
  ∀ fuel, (payload text t).length < fuel →
    Reads (readPayload eof bad text fuel t.tag) (payload text t) t

theorem readsBack_flat {t : Tree σ} (hlist : t.tag ≠ .list) (hcompound : t.tag ≠ .compound)
    (htyped : TypedHere text t) (hcounted : CountedHere t) : ReadsBack eof bad text t := by
  intro fuel hfuel
  obtain ⟨fuel, rfl⟩ := exists_fuel hfuel
  cases t with
  | byte v => exact (readNumber_reads 1 v).map _
  | short v => exact (readNumber_reads 2 v).map _
  | int v => exact (readNumber_reads 4 v).map _
  | long v => exact (readNumber_reads 8 v).map _
  | float bits => exact (readNumber_reads 4 bits).map _
  | double bits => exact (readNumber_reads 8 bits).map _
  | byteArray vs => exact (readArray_reads 1 hcounted).map _
  | string s => exact (readShortString_reads htyped).map _
  | list inner items => exact absurd rfl hlist
  | compound entries => exact absurd rfl hcompound
  | intArray vs => exact (readArray_reads 4 hcounted).map _
  | longArray vs => exact (readArray_reads 8 hcounted).map _

/-- The type stands once in front of the items. -/
theorem readsBack_list {inner : Tag} {items : List (Tree σ)}
    (htyped : TypedHere text (.list inner items)) (hcounted : CountedHere (.list inner items))
    (h : ∀ t ∈ items, ReadsBack eof bad text t) :
    ReadsBack eof bad text (.list inner items) := by
  intro fuel hfuel
  obtain ⟨fuel, rfl⟩ := exists_fuel hfuel
  have hitems : ∀ t ∈ items, Reads (readPayload eof bad text fuel inner) (payload text t) t := by
    intro t ht
    have hle : (payload text t).length ≤ (payloads text items).length := length_payload_le ht
    rw [payload, List.length_cons, List.length_append, beBytes_length] at hfuel
    have hread := h t ht fuel (by omega)
    rwa [htyped t ht] at hread
  rw [payload, payloads_eq]
  exact (readTag_reads inner).bind ((readCount_reads hcounted).bind
    ((many_reads hitems).bind_nil (Reads.pure _)))

/-- Every entry has its type and its name in front. -/
theorem readBody_reads {entries : List (σ × Tree σ)} (hshort : ∀ e ∈ entries, Short text e.1)
    (h : ∀ e ∈ entries, ReadsBack eof bad text e.2) {fuel : Nat}
    (hfuel : (body text entries).length ≤ fuel) :
    Reads (readBody eof bad text fuel) (body text entries) entries := by
  induction entries generalizing fuel with
  | nil =>
    obtain ⟨fuel, rfl⟩ := exists_fuel hfuel
    refine (readTag_reads .end_).bind_nil ?_
    exact Reads.pure []
  | cons e es ih =>
    obtain ⟨name, t⟩ := e
    obtain ⟨hname, hnames⟩ := List.forall_mem_cons.mp hshort
    obtain ⟨hfirst, hlater⟩ := List.forall_mem_cons.mp h
    rw [body, List.length_cons, List.length_append, List.length_append, shortString,
      List.length_append, beBytes_length] at hfuel
    obtain ⟨fuel, rfl⟩ := exists_fuel hfuel
    have hpayload : (payload text t).length < fuel := by omega
    have hhead : Reads (readPayload eof bad text fuel t.tag) (payload text t) t :=
      hfirst fuel hpayload
    have htail : Reads (readBody eof bad text fuel) (body text es) es :=
      ih hnames hlater (by omega)
    rw [body, List.append_assoc]
    refine (readTag_reads t.tag).bind ?_
    rw [if_neg t.tag_ne_end]
    exact (readShortString_reads hname).bind (hhead.bind (htail.bind_nil (Reads.pure _)))

theorem readsBack {t : Tree σ} (htyped : t.WellTyped text) (hcounted : t.Counted) :
    ReadsBack eof bad text t := by
  induction t using Tree.induct with
  | flat t hlist hcompound => exact readsBack_flat hlist hcompound htyped.self hcounted.self
  | list inner items ih =>
    obtain ⟨htyped, htypes⟩ := all_list.mp htyped
    obtain ⟨hcounted, hcounts⟩ := all_list.mp hcounted
    exact readsBack_list htyped hcounted fun t ht => ih t ht (htypes t ht) (hcounts t ht)
  | compound entries ih =>
    obtain ⟨hshort, htypes⟩ := all_compound.mp htyped
    obtain ⟨-, hcounts⟩ := all_compound.mp hcounted
    intro fuel hfuel
    obtain ⟨fuel, rfl⟩ := exists_fuel hfuel
    have hentries : ∀ e ∈ entries, ReadsBack eof bad text e.2 :=
      fun e he => ih e he (htypes e he) (hcounts e he)
    exact (readBody_reads hshort hentries (Nat.lt_succ_iff.mp hfuel)).map _

/-- A well-typed tree is read back whatever follows it. -/
theorem read_reads {t : Tree σ} (htyped : t.WellTyped text) (hcounted : t.Counted) :
    Reads (read eof bad text) (t.anonymous text) t := by
  intro rest
  refine ((readTag_reads t.tag).bind (readsBack htyped hcounted _ ?_)) rest
  rw [anonymous, List.length_append, List.length_cons]
  omega

theorem readNamed_reads {name : σ} {t : Tree σ} (hname : Short text name)
    (htyped : t.WellTyped text) (hcounted : t.Counted) :
    Reads (readNamed eof bad text) (t.named text name) (name, t) := by
  intro rest
  refine ((readTag_reads t.tag).bind ((readShortString_reads hname).bind
    ((readsBack htyped hcounted _ ?_).bind_nil (Reads.pure (name, t))))) rest
  rw [named, List.length_append, List.length_cons, List.length_append]
  omega

end Tree

end laws

end Nbt
