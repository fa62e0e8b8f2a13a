import Schematic.Basic
import Mathlib.Data.List.DropRight

set_option autoImplicit false

namespace Schematic.Text

def Blanks (text : List Char) : Prop := ∀ c ∈ text, isBlank c = true

theorem blanks_nil : Blanks [] := by
  simp [Blanks]

theorem blanks_cons (c : Char) (rest : List Char) :
    Blanks (c :: rest) ↔ isBlank c = true ∧ Blanks rest := by
  simp [Blanks]

theorem trim_nil : trim [] = [] := rfl

theorem trim_end_eq (text : List Char) : trimEnd text = text.rdropWhile isBlank := by
  induction text with
  | nil => rfl
  | cons c rest ih =>
      rw [List.rdropWhile, List.reverse_cons, List.dropWhile_append, trimEnd]
      have kept : rest.reverse.dropWhile isBlank = (trimEnd rest).reverse := by
        rw [ih, List.rdropWhile, List.reverse_reverse]
      rw [kept]
      cases trimEnd rest with
      | nil => by_cases blank : isBlank c <;> simp [blank]
      | cons d kept => simp

theorem trim_eq (text : List Char) : trim text = (text.dropWhile isBlank).rdropWhile isBlank := by
  rw [trim, trim_end_eq, trimStart]

theorem trim_start_pad (a text : List Char) (blank : Blanks a) : trimStart (a ++ text) = trimStart text :=
  List.dropWhile_append_of_pos blank

theorem trim_end_pad (text b : List Char) (blank : Blanks b) : trimEnd (text ++ b) = trimEnd text := by
  rw [trim_end_eq, trim_end_eq, List.rdropWhile, List.reverse_append, List.dropWhile_append_of_pos]
  · rfl
  · simpa [Blanks] using blank

theorem trim_pad (a text b : List Char) (before : Blanks a) (after : Blanks b) :
    trim (a ++ text ++ b) = trim text := by
  rw [trim, trim, List.append_assoc, trim_start_pad a _ before, trimStart, List.dropWhile_append]
  split
  · rename_i empty
    have none : trimStart text = [] := List.isEmpty_iff.mp empty
    have rest : b.dropWhile isBlank = [] := List.dropWhile_eq_nil_iff.mpr after
    rw [rest, none]
  · exact trim_end_pad _ b after

theorem trim_start_parts (text : List Char) : ∃ a, Blanks a ∧ text = a ++ trimStart text :=
  ⟨text.takeWhile isBlank, fun _ member => List.mem_takeWhile_imp member,
    List.takeWhile_append_dropWhile.symm⟩

theorem trim_end_parts (text : List Char) : ∃ b, Blanks b ∧ text = trimEnd text ++ b := by
  refine ⟨text.rtakeWhile isBlank, fun _ member => List.mem_rtakeWhile_imp member, ?_⟩
  rw [trim_end_eq, List.rdropWhile_append_rtakeWhile]

theorem trim_parts (text : List Char) : ∃ a b, Blanks a ∧ Blanks b ∧ text = a ++ trim text ++ b := by
  obtain ⟨a, before, start⟩ := trim_start_parts text
  obtain ⟨b, after, rest⟩ := trim_end_parts (trimStart text)
  refine ⟨a, b, before, after, ?_⟩
  rw [trim, List.append_assoc, ← rest, ← start]

theorem trimmed_iff (text : List Char) :
    trim text = text ↔
      (∀ c, text.head? = some c → isBlank c = false) ∧ ∀ c, text.getLast? = some c → isBlank c = false := by
  constructor
  · intro same
    constructor
    · intro c first
      have kept : trimStart text = text := by
        obtain ⟨a, before, start⟩ := trim_start_parts text
        obtain ⟨b, after, rest⟩ := trim_end_parts (trimStart text)
        have lengths := congrArg List.length start
        have lengths' := congrArg List.length rest
        rw [← trim, same] at lengths'
        simp only [List.length_append] at lengths lengths'
        have empty : a = [] := List.eq_nil_of_length_eq_zero (by omega)
        rw [empty] at start
        exact start.symm
      cases text with
      | nil => simp at first
      | cons d rest =>
          obtain rfl : d = c := by simpa using first
          by_cases blank : isBlank d
          · have shorter := congrArg List.length kept
            rw [trimStart, List.dropWhile_cons_of_pos blank] at shorter
            have bound := (List.dropWhile_suffix (l := rest) isBlank).length_le
            simp only [List.length_cons] at shorter
            omega
          · simpa using blank
    · intro c last
      have ending : ∀ nonempty : text ≠ [], ¬ isBlank (text.getLast nonempty) = true := by
        have fixed : text.rdropWhile isBlank = text := by
          conv_lhs => rw [← same, trim_eq, List.rdropWhile_idempotent, ← trim_eq, same]
        exact List.rdropWhile_eq_self_iff.mp fixed
      have nonempty : text ≠ [] := by
        rintro rfl
        simp at last
      rw [List.getLast?_eq_some_getLast nonempty] at last
      simpa [← Option.some.inj last] using ending nonempty
  · rintro ⟨first, last⟩
    have kept : text.dropWhile isBlank = text := by
      cases text with
      | nil => rfl
      | cons c rest => exact List.dropWhile_cons_of_neg (by simp [first c rfl])
    rw [trim_eq, kept, List.rdropWhile_eq_self_iff]
    intro nonempty
    simp [last _ (List.getLast?_eq_some_getLast nonempty)]

theorem ends_trim (text : List Char) (first : ∃ c, text.head? = some c ∧ isBlank c = false)
    (last : ∃ c, text.getLast? = some c ∧ isBlank c = false) : trim text = text := by
  obtain ⟨c, head, cSolid⟩ := first
  obtain ⟨d, final, dSolid⟩ := last
  rw [trimmed_iff]
  constructor
  · intro e here
    rw [head] at here
    exact Option.some.inj here ▸ cSolid
  · intro e here
    rw [final] at here
    exact Option.some.inj here ▸ dSolid

theorem trim_after (text : List Char) (first : ∀ c, text.head? = some c → isBlank c = false) :
    ∃ b, Blanks b ∧ text = trim text ++ b := by
  obtain ⟨a, b, before, after, parts⟩ := trim_parts text
  cases a with
  | nil => exact ⟨b, after, parts⟩
  | cons c a =>
      have blank := (blanks_cons c a).mp before
      rw [first c (by rw [parts]; rfl)] at blank
      exact absurd blank.1 Bool.false_ne_true

theorem trim_before (text : List Char) (last : ∀ c, text.getLast? = some c → isBlank c = false) :
    ∃ a, Blanks a ∧ text = a ++ trim text := by
  obtain ⟨a, b, before, after, parts⟩ := trim_parts text
  rcases List.eq_nil_or_concat b with rfl | ⟨b, c, rfl⟩
  · exact ⟨a, before, by simpa using parts⟩
  · have blank := after c (by simp)
    rw [last c (by rw [parts]; simp)] at blank
    exact absurd blank Bool.false_ne_true

theorem trim_trim (text : List Char) : trim (trim text) = trim text := by
  obtain ⟨a, b, before, after, parts⟩ := trim_parts text
  conv_rhs => rw [parts, trim_pad a _ b before after]

theorem mem_of_mem_trim (c : Char) (text : List Char) (member : c ∈ trim text) : c ∈ text := by
  obtain ⟨a, b, _, _, parts⟩ := trim_parts text
  rw [parts]
  simp [member]

end Schematic.Text
