import Schematic.Basic
import Schematic.Source.Format

set_option autoImplicit false

namespace Schematic.Text

def Unbroken (text : List Char) : Prop := ∀ c ∈ text, isLineBreak c = false

theorem unbroken_literal (text : List Char) (whole : text.all (fun c => !isLineBreak c) = true) : Unbroken text :=
  fun c member => by simpa using List.all_eq_true.mp whole c member

theorem mem_cons_first (c d : Char) (pieces : List (List Char)) (piece : List Char)
    (member : piece ∈ consFirst c pieces) (inside : d ∈ piece) :
    d = c ∨ ∃ other ∈ pieces, d ∈ other := by
  cases pieces with
  | nil =>
      obtain rfl : piece = [c] := by simpa [consFirst] using member
      exact .inl (by simpa using inside)
  | cons first rest =>
      rcases List.mem_cons.mp member with rfl | later
      · rcases List.mem_cons.mp inside with same | tail
        · exact .inl same
        · exact .inr ⟨first, List.mem_cons_self, tail⟩
      · exact .inr ⟨piece, List.mem_cons_of_mem _ later, inside⟩

theorem split_on_cons (separator : Char) (text : List Char) :
    ∃ first rest, splitOn separator text = first :: rest := by
  cases text with
  | nil => exact ⟨[], [], rfl⟩
  | cons c text =>
      by_cases same : c = separator
      · exact ⟨[], splitOn separator text, by rw [splitOn, if_pos same]⟩
      · rw [splitOn, if_neg same]
        cases splitOn separator text with
        | nil => exact ⟨[c], [], rfl⟩
        | cons first rest => exact ⟨c :: first, rest, rfl⟩

theorem mem_split_on (separator d : Char) (text piece : List Char) (member : piece ∈ splitOn separator text)
    (inside : d ∈ piece) : d ∈ text ∧ d ≠ separator := by
  induction text generalizing piece with
  | nil =>
      obtain rfl : piece = [] := by simpa [splitOn] using member
      simp at inside
  | cons c text ih =>
      by_cases same : c = separator
      · rw [splitOn, if_pos same] at member
        rcases List.mem_cons.mp member with rfl | later
        · simp at inside
        · have found := ih piece later inside
          exact ⟨List.mem_cons_of_mem _ found.1, found.2⟩
      · rw [splitOn, if_neg same] at member
        rcases mem_cons_first c d _ piece member inside with rfl | ⟨other, among, within⟩
        · exact ⟨List.mem_cons_self, same⟩
        · have found := ih other among within
          exact ⟨List.mem_cons_of_mem _ found.1, found.2⟩

theorem split_on_absent (separator : Char) (text : List Char) (absent : separator ∉ text) :
    splitOn separator text = [text] := by
  induction text with
  | nil => rfl
  | cons c text ih =>
      have different : separator ≠ c ∧ separator ∉ text := by simpa using absent
      rw [splitOn, if_neg (Ne.symm different.1), ih different.2]
      rfl

theorem split_on_append (separator : Char) (a b : List Char) (absent : separator ∉ a) :
    splitOn separator (a ++ separator :: b) = a :: splitOn separator b := by
  induction a with
  | nil => simp [splitOn]
  | cons c a ih =>
      have different : separator ≠ c ∧ separator ∉ a := by simpa using absent
      rw [List.cons_append, splitOn, if_neg (Ne.symm different.1), ih different.2]
      rfl

theorem join_cons (separator item : List Char) (items : List (List Char)) (more : items ≠ []) :
    joinWith separator (item :: items) = item ++ separator ++ joinWith separator items := by
  cases items with
  | nil => exact absurd rfl more
  | cons next rest => rfl

theorem join_split_on (separator : Char) (text : List Char) :
    joinWith [separator] (splitOn separator text) = text := by
  induction text with
  | nil => rfl
  | cons c text ih =>
      obtain ⟨first, rest, pieces⟩ := split_on_cons separator text
      by_cases same : c = separator
      · rw [splitOn, if_pos same, join_cons _ _ _ (by simp [pieces]), ih, same]
        rfl
      · rw [splitOn, if_neg same, pieces, consFirst]
        rw [pieces] at ih
        cases rest with
        | nil => rw [← ih]; rfl
        | cons second rest => rw [← ih]; rfl

theorem split_on_join (separator : Char) (pieces : List (List Char)) (some : pieces ≠ [])
    (absent : ∀ piece ∈ pieces, separator ∉ piece) :
    splitOn separator (joinWith [separator] pieces) = pieces := by
  induction pieces with
  | nil => exact absurd rfl some
  | cons piece rest ih =>
      have here := absent piece List.mem_cons_self
      by_cases last : rest = []
      · subst last
        exact split_on_absent separator piece here
      · rw [join_cons _ _ _ last, List.append_assoc, List.singleton_append,
          split_on_append separator piece _ here, ih last fun other member => absent other (List.mem_cons_of_mem _ member)]

theorem lines_cons (c : Char) (rest : List Char) (plain : isLineBreak c = false) :
    lines (c :: rest) = consFirst c (lines rest) := by
  have other : c ≠ '\r' := by
    rintro rfl
    exact absurd plain (by decide)
  rw [lines]
  · simp [plain]
  · intro tail same
    exact absurd same other

theorem mem_lines (text line : List Char) (member : line ∈ lines text) : Unbroken line := by
  fun_induction lines text generalizing line with
  | case1 => simp at member
  | case2 rest ih =>
      rcases List.mem_cons.mp member with rfl | later
      · intro d inside
        simp at inside
      · exact ih line later
  | case3 c rest _ breaks ih =>
      rcases List.mem_cons.mp member with rfl | later
      · intro d inside
        simp at inside
      · exact ih line later
  | case4 c rest _ plain ih =>
      intro d inside
      rcases mem_cons_first c d _ line member inside with rfl | ⟨other, among, within⟩
      · simpa using plain
      · exact ih other among d within

theorem lines_append (line rest : List Char) (unbroken : Unbroken line) :
    lines (line ++ '\n' :: rest) = line :: lines rest := by
  induction line with
  | nil => rw [List.nil_append, lines] <;> simp [isLineBreak]
  | cons c line ih =>
      rw [List.cons_append, lines_cons c _ (unbroken c List.mem_cons_self),
        ih fun d inside => unbroken d (List.mem_cons_of_mem _ inside)]
      rfl

theorem lines_flat_map (rows : List (List Char)) (unbroken : ∀ row ∈ rows, Unbroken row) :
    lines (rows.flatMap (· ++ ['\n'])) = rows := by
  induction rows with
  | nil => rfl
  | cons row rows ih =>
      rw [List.flatMap_cons, List.append_assoc, List.singleton_append,
        lines_append row _ (unbroken row List.mem_cons_self),
        ih fun other member => unbroken other (List.mem_cons_of_mem _ member)]

end Schematic.Text
