import Schematic.Proofs.Text.Blanks
import Schematic.Proofs.Text.Characters
import Schematic.Proofs.Text.Pieces
import Schematic.Source.Reader

set_option autoImplicit false

namespace Schematic

open Text

theorem name_char_codes (c : Char) (named : isNameChar c = true) :
    48 ≤ c.toNat ∧ c.toNat ≤ 57 ∨ 65 ≤ c.toNat ∧ c.toNat ≤ 90 ∨ c.toNat = 95 ∨ 97 ≤ c.toNat ∧ c.toNat ≤ 122 := by
  simp only [isNameChar, Bool.or_eq_true, beq_iff_eq, alphanumeric_codes, char_eq_iff, Char.reduceToNat] at named
  omega

theorem name_char_solid (c : Char) (named : isNameChar c = true) : isBlank c = false := by
  by_contra blank
  have code := blank_codes c (by simpa using blank)
  have range := name_char_codes c named
  omega

theorem name_char_unbroken (c : Char) (named : isNameChar c = true) : isLineBreak c = false := by
  by_contra breaks
  have blank := blank_of_break c (by simpa using breaks)
  rw [name_char_solid c named] at blank
  exact Bool.false_ne_true blank

theorem is_name_iff (text : List Char) : isName text = true ↔ text ≠ [] ∧ ∀ c ∈ text, isNameChar c = true := by
  simp [isName]

theorem name_absent (text : List Char) (d : Char) (named : isName text = true) (other : isNameChar d = false) :
    d ∉ text := by
  intro member
  rw [((is_name_iff text).mp named).2 d member] at other
  exact Bool.noConfusion other

theorem solid_trim (text : List Char) (solid : ∀ c ∈ text, isBlank c = false) : trim text = text := by
  rw [trimmed_iff]
  exact ⟨fun c first => solid c (List.mem_of_head? first), fun c last => solid c (List.mem_of_getLast? last)⟩

theorem name_trim (text : List Char) (named : isName text = true) : trim text = text :=
  solid_trim text fun c member => name_char_solid c (((is_name_iff text).mp named).2 c member)

theorem name_unbroken (text : List Char) (named : isName text = true) : Unbroken text :=
  fun c member => name_char_unbroken c (((is_name_iff text).mp named).2 c member)

theorem take_letters (letter : Char → Bool) (word rest : List Char) (letters : ∀ c ∈ word, letter c = true)
    (stop : ∀ c, rest.head? = some c → letter c = false) :
    (word ++ rest).takeWhile letter = word ∧ (word ++ rest).dropWhile letter = rest := by
  rw [List.takeWhile_append_of_pos letters, List.dropWhile_append_of_pos letters]
  cases rest with
  | nil => simp
  | cons c rest => simp [stop c rfl]

theorem blank_not_name (c : Char) (blank : isBlank c = true) : isNameChar c = false := by
  by_contra named
  rw [name_char_solid c (by simpa using named)] at blank
  exact Bool.false_ne_true blank

theorem drop_prefix_append (pfx text : List Char) : dropPrefix? pfx (pfx ++ text) = some text := by
  induction pfx with
  | nil => rfl
  | cons c pfx ih => rw [List.cons_append, dropPrefix?, if_pos rfl, ih]

theorem drop_prefix_some (pfx text rest : List Char) (found : dropPrefix? pfx text = some rest) :
    text = pfx ++ rest := by
  induction pfx generalizing text with
  | nil => exact Option.some.inj found
  | cons c pfx ih =>
      cases text with
      | nil => simp [dropPrefix?] at found
      | cons d text =>
          by_cases same : c = d
          · rw [dropPrefix?, if_pos same] at found
            rw [same, ih text found, List.cons_append]
          · rw [dropPrefix?, if_neg same] at found
            simp at found

end Schematic
