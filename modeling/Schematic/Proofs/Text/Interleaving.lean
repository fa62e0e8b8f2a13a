import Mathlib.Data.List.Infix

set_option autoImplicit false

namespace Schematic.Text

-- Values written as one text: the first, and each of the others behind a mark.
def interleave (first : List Char) (rest : List (List Char × List Char)) : List Char :=
  first ++ rest.flatMap fun pair => pair.1 ++ pair.2

-- A mark between two values at whose place alone the two of them can be parted.
def Parts (mark left right : List Char) : Prop := ∀ x y, x ++ mark ++ y = left ++ mark ++ right → x = left

def AllParted : List Char → List (List Char × List Char) → Prop
  | _, [] => True
  | first, (mark, next) :: rest => Parts mark first next ∧ AllParted next rest

theorem interleave_cons (first mark next : List Char) (rest : List (List Char × List Char)) :
    interleave first ((mark, next) :: rest) = first ++ mark ++ interleave next rest := by
  simp only [interleave, List.flatMap_cons, List.append_assoc]

-- A mark that parts two values stands nowhere further ahead, whatever follows it.
theorem parts_first (mark left right x y rest : List Char) (parts : Parts mark left right)
    (same : x ++ mark ++ y = left ++ mark ++ rest) : left <+: x := by
  have place : x ++ mark <+: left ++ mark ++ rest := same ▸ List.prefix_append _ _
  by_cases long : left.length ≤ x.length
  · have start : left <+: left ++ mark ++ rest := by
      rw [List.append_assoc]
      exact List.prefix_append _ _
    exact List.prefix_of_prefix_length_le start ((List.prefix_append x mark).trans place) long
  · have inside : x ++ mark <+: left ++ mark := by
      refine List.prefix_of_prefix_length_le place (List.prefix_append _ _) ?_
      simp only [List.length_append]
      omega
    obtain ⟨more, whole⟩ := inside
    have here : x = left := parts x (more ++ right) (by rw [← whole]; simp only [List.append_assoc])
    rw [here]

-- Where the mark stands further behind in another text, what follows it there is the end of what follows it here.
theorem parts_aligned (mark left right x y rest : List Char) (parts : Parts mark left right)
    (same : x ++ mark ++ y = left ++ mark ++ rest) :
    ∃ gap shift, x = left ++ gap ∧ mark ++ shift = gap ++ mark ∧ shift ++ y = rest := by
  obtain ⟨gap, rfl⟩ := parts_first _ _ _ _ _ _ parts same
  rw [List.append_assoc left, List.append_assoc left, List.append_assoc left, List.append_cancel_left_eq] at same
  have start : mark <+: gap ++ mark := by
    refine List.prefix_of_prefix_length_le (List.prefix_append _ rest) ?_ (by simp)
    rw [← same]
    exact List.prefix_append _ _
  obtain ⟨shift, moved⟩ := start
  rw [← moved, List.append_assoc, List.append_cancel_left_eq] at same
  exact ⟨gap, shift, rfl, moved, same⟩

theorem parts_unmoved (mark left right value gap shift : List Char) (parts : Parts mark left right)
    (moved : mark ++ shift = gap ++ mark) (found : shift ++ value = right) : gap = [] ∧ shift = [] := by
  have place : left ++ gap = left := by
    refine parts (left ++ gap) value ?_
    rw [List.append_assoc left, ← moved, ← found]
    simp only [List.append_assoc]
  have empty : gap = [] := by simpa using place
  rw [empty, List.nil_append] at moved
  exact ⟨empty, by simpa using moved⟩

theorem all_parted_aligned (rest others : List (List Char × List Char)) (first other lead : List Char)
    (parted : AllParted first rest) (marks : others.map Prod.fst = rest.map Prod.fst)
    (same : lead ++ interleave other others = interleave first rest) : lead ++ other = first ∧ others = rest := by
  induction rest generalizing others first other lead with
  | nil =>
      obtain rfl : others = [] := List.map_eq_nil_iff.mp marks
      simpa [interleave] using same
  | cons pair rest ih =>
      obtain ⟨mark, next⟩ := pair
      obtain ⟨parts, behind⟩ := parted
      cases others with
      | nil => simp at marks
      | cons pair others =>
          obtain ⟨spelled, after⟩ := pair
          obtain ⟨rfl, later⟩ : spelled = mark ∧ others.map Prod.fst = rest.map Prod.fst := by simpa using marks
          rw [interleave_cons, interleave_cons, ← List.append_assoc, ← List.append_assoc] at same
          obtain ⟨gap, shift, ahead, moved, follows⟩ := parts_aligned _ _ _ _ _ _ parts same
          obtain ⟨value, rfl⟩ := ih others next after shift behind later follows
          obtain ⟨rfl, rfl⟩ := parts_unmoved _ _ _ _ _ _ parts moved value
          rw [ahead, List.append_nil, ← value, List.nil_append]
          exact ⟨rfl, rfl⟩

theorem interleave_told_iff (rest : List (List Char × List Char)) (first : List Char) :
    (∀ other others, others.map Prod.fst = rest.map Prod.fst → interleave other others = interleave first rest →
      other = first ∧ others = rest) ↔ AllParted first rest := by
  constructor
  · intro told
    induction rest generalizing first with
    | nil => trivial
    | cons pair rest ih =>
        obtain ⟨mark, next⟩ := pair
        constructor
        · intro x y same
          refine (told x ((mark, y) :: rest) rfl ?_).1
          simp only [interleave, List.flatMap_cons, ← List.append_assoc, same]
        · refine ih next fun other others marks same => ?_
          have whole := (told first ((mark, other) :: others) (by simpa using marks)
            (by rw [interleave_cons, interleave_cons, same])).2
          simpa using whole
  · intro parted other others marks same
    exact all_parted_aligned rest others first other [] parted marks same

theorem mark_again (c : Char) (word gap y rest : List Char) (fresh : c ∉ word)
    (same : (c :: word) ++ y = gap ++ (c :: word) ++ rest) : gap = [] ∨ (c :: word) <+: gap := by
  cases gap with
  | nil => exact .inl rfl
  | cons d gap =>
      refine .inr ?_
      have start : d :: gap <+: (c :: word) ++ y := by
        rw [same, List.append_assoc]
        exact List.prefix_append _ _
      by_cases long : (c :: word).length ≤ (d :: gap).length
      · exact List.prefix_of_prefix_length_le (List.prefix_append _ _) start long
      · have more : (d :: gap) ++ [c] <+: c :: word := by
          have longer : (d :: gap) ++ [c] <+: (c :: word) ++ y := by
            rw [same]
            exact ⟨word ++ rest, by simp⟩
          refine List.prefix_of_prefix_length_le longer (List.prefix_append _ _) ?_
          simp only [List.length_append, List.length_cons, List.length_nil] at long ⊢
          omega
        obtain ⟨tail, whole⟩ := more
        have inside : c ∈ word := by
          rw [← (List.cons.inj whole).2]
          simp
        exact absurd inside fresh

theorem parts_iff (c : Char) (word left right : List Char) (fresh : c ∉ word) :
    Parts (c :: word) left right ↔ ¬ (c :: word) <:+: left ∧ ¬ (c :: word) <:+: right := by
  constructor
  · intro parts
    constructor
    · intro inside
      obtain ⟨x, y, whole⟩ := inside
      have here := parts x (y ++ (c :: word) ++ right) (by rw [← whole]; simp only [List.append_assoc])
      have lengths := congrArg List.length whole
      simp [here] at lengths
    · intro inside
      obtain ⟨x, y, whole⟩ := inside
      have here := parts (left ++ (c :: word) ++ x) y (by rw [← whole]; simp only [List.append_assoc])
      simp at here
  · intro apart x y same
    rw [List.append_assoc, List.append_assoc] at same
    rcases List.append_eq_append_iff.mp same with ⟨gap, whole, behind⟩ | ⟨gap, whole, behind⟩
    · rw [← List.append_assoc] at behind
      rcases mark_again c word gap y right fresh behind with empty | again
      · rw [whole, empty, List.append_nil]
      · have inside : (c :: word) <:+: left := by
          rw [whole]
          exact again.isInfix.trans (List.suffix_append x gap).isInfix
        exact absurd inside apart.1
    · rw [← List.append_assoc] at behind
      rcases mark_again c word gap right y fresh behind with empty | again
      · rw [whole, empty, List.append_nil]
      · obtain ⟨rest, rfl⟩ := again
        rw [List.append_assoc, List.append_assoc, List.append_cancel_left_eq] at behind
        exact absurd ⟨rest, y, by rw [behind, List.append_assoc]⟩ apart.2

theorem letter_parts_iff (c : Char) (left right : List Char) : Parts [c] left right ↔ c ∉ left ∧ c ∉ right := by
  rw [parts_iff c [] left right (by simp), List.singleton_infix_iff, List.singleton_infix_iff]

end Schematic.Text
