import Schematic.Text.Alphanumeric
import Schematic.Basic

set_option autoImplicit false

namespace Schematic.Text

theorem char_le_iff (a b : Char) : a ≤ b ↔ a.toNat ≤ b.toNat := Iff.rfl

theorem char_eq_iff (a b : Char) : a = b ↔ a.toNat = b.toNat := by
  constructor
  · rintro rfl
    rfl
  · exact fun same => Char.ext (UInt32.toNat_inj.mp same)

theorem alphanumeric_codes (c : Char) :
    c.isAlphanum = true ↔
      (65 ≤ c.toNat ∧ c.toNat ≤ 90 ∨ 97 ≤ c.toNat ∧ c.toNat ≤ 122) ∨ 48 ≤ c.toNat ∧ c.toNat ≤ 57 := by
  have parts : c.isAlphanum =
      ((decide (c.val ≥ 65 ∧ c.val ≤ 90) || c.val ≥ 97 && c.val ≤ 122) || c.val ≥ 48 && c.val ≤ 57) := rfl
  simp only [parts, Bool.or_eq_true, Bool.and_eq_true, decide_eq_true_eq, ge_iff_le, UInt32.le_iff_toNat_le, Char.toNat_val,
    UInt32.reduceToNat]

theorem blank_codes (c : Char) (blank : isBlank c = true) :
    c.toNat ≤ 32 ∨ c.toNat = 133 ∨ c.toNat = 160 ∨ c.toNat = 5760 ∨ 8192 ≤ c.toNat ∧ c.toNat ≤ 8202 ∨
      c.toNat = 8232 ∨ c.toNat = 8233 ∨ c.toNat = 8239 ∨ c.toNat = 8287 ∨ c.toNat = 12288 := by
  simp only [isBlank, Bool.or_eq_true, Bool.and_eq_true, beq_iff_eq, decide_eq_true_eq] at blank
  simp only [char_le_iff, char_eq_iff, Char.reduceToNat] at blank
  omega

theorem blank_of_break (c : Char) (breaks : isLineBreak c = true) : isBlank c = true := by
  simp only [isLineBreak, isBlank, Bool.or_eq_true, Bool.and_eq_true, beq_iff_eq, decide_eq_true_eq] at breaks ⊢
  simp only [char_le_iff, char_eq_iff, Char.reduceToNat] at breaks ⊢
  omega

def blankRanges : List (Nat × Nat) :=
  [(133, 133), (160, 160), (5760, 5760), (8192, 8202), (8232, 8233), (8239, 8239), (8287, 8287), (12288, 12288)]

theorem word_ranges_miss_blanks :
    wordRanges.toList.all (fun word => blankRanges.all fun blank => word.2 < blank.1 || blank.2 < word.1) = true := by
  decide +kernel

theorem outside_word_ranges (blank : Nat × Nat) (member : blank ∈ blankRanges) (code : Nat)
    (lower : blank.1 ≤ code) (upper : code ≤ blank.2) : inRanges wordRanges code = false := by
  rw [inRanges, ← Array.any_toList, List.any_eq_false]
  intro word inside
  have apart := List.all_eq_true.mp (List.all_eq_true.mp word_ranges_miss_blanks word inside) blank member
  simp only [Bool.or_eq_true, decide_eq_true_eq] at apart
  simp only [Bool.and_eq_true, decide_eq_true_eq]
  omega

theorem blank_not_alphanumeric (c : Char) (blank : isBlank c = true) : isAlphanumeric c = false := by
  rw [isAlphanumeric]
  rcases blank_codes c blank with low | code
  · have ascii : c.toNat < 128 := by omega
    rw [if_pos ascii]
    rw [← Bool.not_eq_true, alphanumeric_codes]
    omega
  · have beyond : ¬ c.toNat < 128 := by omega
    have found : ∃ range ∈ blankRanges, range.1 ≤ c.toNat ∧ c.toNat ≤ range.2 := by
      simp only [blankRanges, List.mem_cons, List.not_mem_nil, or_false, exists_eq_or_imp, exists_eq_left]
      omega
    obtain ⟨range, member, lower, upper⟩ := found
    rw [if_neg beyond]
    exact outside_word_ranges range member c.toNat lower upper

end Schematic.Text
