import Mathlib.Data.List.DropRight

/-!
# Text

`str::trim` and `str::to_ascii_lowercase`.
-/

namespace Statik

/-- `char::is_whitespace`: the characters with the `White_Space` property. -/
def isWhitespace (c : Char) : Bool :=
  let n := c.toNat
  (9 ≤ n && n ≤ 13) || n == 0x20 || n == 0x85 || n == 0xa0 || n == 0x1680 ||
    (0x2000 ≤ n && n ≤ 0x200a) || n == 0x2028 || n == 0x2029 || n == 0x202f || n == 0x205f ||
    n == 0x3000

/-- `str::trim`. -/
def trim (s : String) : String :=
  .ofList ((s.toList.dropWhile isWhitespace).rdropWhile isWhitespace)

/-- `str::to_ascii_lowercase`. -/
def toAsciiLowercase (s : String) : String := .ofList (s.toList.map Char.toLower)

/-- Lowering leads to letters only. -/
theorem toLower_eq_iff {c d : Char} (hd : d.isAlpha = false) : c.toLower = d ↔ c = d := by
  obtain ⟨hupper, hlower⟩ : d.isUpper = false ∧ d.isLower = false := Bool.or_eq_false_iff.mp hd
  unfold Char.toLower
  split
  · next hletter =>
    have hlow := UInt32.le_iff_toNat_le.mp hletter.1
    have hhigh := UInt32.le_iff_toNat_le.mp hletter.2
    constructor
    · rintro rfl
      replace hlower := Bool.and_eq_false_iff.mp hlower
      simp only [decide_eq_false_iff_not, ge_iff_le, UInt32.le_iff_toNat_le,
        UInt32.toNat_add] at hlower
      simp at hlow hhigh hlower
      omega
    · rintro rfl
      exact absurd hletter (of_decide_eq_false hupper)
  · exact Iff.rfl

theorem toAsciiLowercase_eq_iff {s t : String} (h : t.toList.any Char.isAlpha = false) :
    toAsciiLowercase s = t ↔ s = t := by
  have hlists : ∀ cs ds : List Char, (∀ d ∈ ds, d.isAlpha = false) →
      (cs.map Char.toLower = ds ↔ cs = ds) := by
    intro cs
    induction cs with
    | nil => exact fun ds _ => Iff.rfl
    | cons c cs ih =>
      intro ds hds
      cases ds with
      | nil => simp
      | cons d ds =>
        obtain ⟨hd, hrest⟩ := List.forall_mem_cons.mp hds
        rw [List.map_cons, List.cons.injEq, List.cons.injEq, toLower_eq_iff hd, ih ds hrest]
  have hnone : ∀ d ∈ t.toList, d.isAlpha = false := by simpa using h
  rw [← String.toList_inj, toAsciiLowercase, String.toList_ofList, hlists _ _ hnone,
    String.toList_inj]

end Statik
