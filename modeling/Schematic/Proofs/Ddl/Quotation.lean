import Schematic.Proofs.Ddl.Tokens
import Mathlib.Data.List.Infix

set_option autoImplicit false

namespace Schematic.Ddl

section Quotation

variable (rest : List Char)

-- A mark stands for itself where it is doubled, and ends what it stands in where it is not. The states inside such letters and
-- behind a first mark are the reader's own.
theorem run_doubled (inside ended : List Char → Mode) (mark : Char)
    (ends : ∀ letters, (inside letters).step mark = some ([], ended letters))
    (resumes : ∀ letters, (ended letters).step mark = some ([], inside (letters ++ [mark])))
    (goes : ∀ letters, ∀ c ≠ mark, (inside letters).step c = some ([], inside (letters ++ [c])))
    (letters text : List Char) :
    (inside letters).run (doubled mark text ++ mark :: rest) = (ended (letters ++ text)).run rest := by
  induction text generalizing letters with
  | nil =>
      rw [List.append_nil]
      exact run_silent _ _ _ _ (ends letters)
  | cons c text ih =>
      have whole : letters ++ c :: text = letters ++ [c] ++ text := by simp
      rw [whole, ← ih, doubled, List.flatMap_cons]
      by_cases marked : c = mark
      · rw [if_pos marked, marked]
        exact (run_silent _ _ _ _ (ends letters)).trans (run_silent _ _ _ _ (resumes letters))
      · rw [if_neg marked]
        exact run_silent _ _ _ _ (goes letters c marked)

theorem run_name_letters (name : List Char) :
    (Mode.name []).run (doubled '"' name ++ '"' :: rest) = (Mode.nameEnd name).run rest := by
  refine run_doubled rest .name .nameEnd '"' (fun _ => rfl) (fun _ => rfl) ?_ [] name
  intro letters c other
  rw [Mode.step, if_neg other]

theorem read_name (name : String) (some : name ≠ "") (apart : rest.head? ≠ Option.some '"') :
    Mode.between.run ((quoteName name).toList ++ rest) = (Mode.between.run rest).map (.name name.toList :: ·) := by
  have letters : name.toList ≠ [] := by simpa using some
  have opening : Mode.between.step '"' = Option.some ([], .name []) := rfl
  rw [quoteName, String.toList_ofList, List.append_assoc, List.cons_append, run_silent _ _ _ _ opening]
  refine (run_name_letters rest name.toList).trans ?_
  refine run_over _ _ _ (if_neg letters) fun c here => ?_
  have other : c ≠ '"' := by
    rintro rfl
    exact apart here
  rw [Mode.step, if_neg other, if_neg letters]

-- What may follow a quoted token, before which only spaces stand.
def Apart : List Char → Prop
  | [] => True
  | c :: rest => c ≠ '\x27' ∧ c ≠ '"' ∧ c ≠ '-' ∧ (isSpace c = true → Apart rest)

theorem run_gap (isEscaped isBroken : Bool) (letters : List Char) (apart : Apart rest) :
    (Mode.textGap isEscaped isBroken letters).run rest = (Mode.between.run rest).map (.text letters :: ·) := by
  induction rest generalizing isBroken with
  | nil => rfl
  | cons c rest ih =>
      obtain ⟨quote, -, minus, later⟩ := apart
      by_cases space : isSpace c = true
      · have steps : (Mode.textGap isEscaped isBroken letters).step c =
            some ([], .textGap isEscaped (isBroken || isNewline c) letters) := if_pos space
        have opening : Mode.between.step c = some ([], .between) := if_pos space
        rw [run_silent _ _ _ _ steps, run_silent _ _ _ _ opening]
        exact ih _ (later space)
      · refine run_over _ _ _ rfl fun d here => ?_
        obtain rfl : c = d := Option.some.inj here
        rw [Mode.step, if_neg space, if_neg (fun both => quote both.1), if_neg minus]

theorem run_text_end (isEscaped : Bool) (letters : List Char) (apart : Apart rest) :
    (Mode.textEnd isEscaped letters).run rest = (Mode.between.run rest).map (.text letters :: ·) := by
  cases rest with
  | nil => rfl
  | cons c rest =>
      obtain ⟨quote, -, minus, later⟩ := apart
      by_cases space : isSpace c = true
      · have steps : (Mode.textEnd isEscaped letters).step c = some ([], .textGap isEscaped (isNewline c) letters) := by
          rw [Mode.step, if_neg quote, if_pos space]
        have opening : Mode.between.step c = some ([], .between) := if_pos space
        rw [run_silent _ _ _ _ steps, run_silent _ _ _ _ opening]
        exact run_gap rest _ _ _ (later space)
      · refine run_over _ _ _ rfl fun d here => ?_
        obtain rfl : c = d := Option.some.inj here
        rw [Mode.step, if_neg quote, if_neg space, if_neg minus]

theorem run_text_letters (text : List Char) :
    (Mode.text false []).run (doubled '\x27' text ++ '\x27' :: rest) = (Mode.textEnd false text).run rest := by
  refine run_doubled rest (.text false) (.textEnd false) '\x27' (fun _ => rfl) (fun _ => rfl) ?_ [] text
  intro letters c other
  rw [Mode.step, if_neg other, if_neg (by simp)]

theorem run_escaped_letters (letters text : List Char) :
    (Mode.text true letters).run (doubled '\\' (doubled '\x27' text) ++ '\x27' :: rest) =
      (Mode.textEnd true (letters ++ text)).run rest := by
  induction text generalizing letters with
  | nil =>
      rw [List.append_nil]
      exact run_silent _ _ _ _ rfl
  | cons c text ih =>
      have whole : letters ++ c :: text = letters ++ [c] ++ text := by simp
      have parted : doubled '\\' (doubled '\x27' (c :: text)) =
          doubled '\\' (if c = '\x27' then [c, c] else [c]) ++ doubled '\\' (doubled '\x27' text) := by
        rw [doubled, doubled, List.flatMap_cons, List.flatMap_append]
        rfl
      rw [whole, ← ih, parted]
      by_cases quote : c = '\x27'
      · rw [if_pos quote, quote]
        exact (run_silent _ (.textEnd true letters) _ _ rfl).trans (run_silent _ _ _ _ rfl)
      · rw [if_neg quote]
        by_cases slash : c = '\\'
        · rw [slash]
          exact (run_silent _ (.escape letters) _ _ rfl).trans (run_silent _ _ _ _ rfl)
        · have plain : doubled '\\' [c] = [c] := by simp [doubled, slash]
          rw [plain]
          refine run_silent _ _ _ _ ?_
          rw [Mode.step, if_neg quote, if_neg (fun both => slash both.2)]

theorem read_text (text : String) (apart : Apart rest) :
    Mode.between.run ((quoteText text).toList ++ rest) = (Mode.between.run rest).map (.text text.toList :: ·) := by
  rw [quoteText]
  split
  · have opening : Mode.between.advance [' ', 'E', '\x27'] = some ([], .text true []) := by decide
    have parted : (String.ofList (' ' :: 'E' :: '\x27' :: doubled '\\' (doubled '\x27' text.toList) ++ ['\x27'])).toList ++ rest =
        [' ', 'E', '\x27'] ++ (doubled '\\' (doubled '\x27' text.toList) ++ '\x27' :: rest) := by simp
    rw [parted, run_advance _ _ _ _ _ opening, run_escaped_letters, run_text_end rest true _ apart]
    exact Option.map_id'
  · have parted : (String.ofList ('\x27' :: doubled '\x27' text.toList ++ ['\x27'])).toList ++ rest =
        '\x27' :: (doubled '\x27' text.toList ++ '\x27' :: rest) := by simp
    rw [parted, run_silent _ (.text false []) _ _ rfl, run_text_letters]
    exact run_text_end rest false _ apart

end Quotation

def Single : List Char → Prop
  | [] => True
  | c :: rest => ¬ (c = '$' ∧ rest.head? = some '$') ∧ Single rest

instance decideSingle : (text : List Char) → Decidable (Single text)
  | [] => isTrue trivial
  | c :: rest =>
      have := decideSingle rest
      inferInstanceAs (Decidable (¬ (c = '$' ∧ rest.head? = some '$') ∧ Single rest))

theorem single_iff (text : List Char) : Single text ↔ ¬ ['$', '$'] <:+: text := by
  induction text with
  | nil => simp [Single]
  | cons c text ih =>
      have first : ['$', '$'] <+: c :: text ↔ c = '$' ∧ text.head? = some '$' := by
        cases text with
        | nil => simp [List.cons_prefix_cons]
        | cons d text => simp [List.cons_prefix_cons, eq_comm]
      rw [Single, ih, List.infix_cons_iff, first, not_or]

theorem single_absent (text : List Char) (absent : '$' ∉ text) : Single text := by
  rw [single_iff]
  exact fun pair => absent (pair.subset List.mem_cons_self)

theorem single_append (a b : List Char) (apart : a.getLast? ≠ some '$' ∨ b.head? ≠ some '$') :
    Single (a ++ b) ↔ Single a ∧ Single b := by
  induction a with
  | nil => simp [Single]
  | cons c a ih =>
      cases a with
      | nil =>
          have plain : ¬ (c = '$' ∧ b.head? = some '$') := by
            rintro ⟨rfl, first⟩
            exact apart.elim (fun last => last rfl) fun head => head first
          show ¬ (c = '$' ∧ b.head? = some '$') ∧ Single b ↔ (¬ (c = '$' ∧ none = some '$') ∧ True) ∧ Single b
          simp [plain]
      | cons d a =>
          rw [List.getLast?_cons_cons] at apart
          show ¬ (c = '$' ∧ some d = some '$') ∧ Single (d :: a ++ b) ↔ (¬ (c = '$' ∧ some d = some '$') ∧ Single (d :: a)) ∧ Single b
          rw [ih apart, and_assoc]

theorem doubled_head (mark : Char) (text : List Char) : (doubled mark text).head? = text.head? := by
  cases text with
  | nil => rfl
  | cons c text =>
      rw [doubled, List.flatMap_cons]
      split <;> rfl

theorem single_doubled (mark : Char) (plain : mark ≠ '$') (text : List Char) : Single (doubled mark text) ↔ Single text := by
  induction text with
  | nil => exact Iff.rfl
  | cons c text ih =>
      have parted : doubled mark (c :: text) = (if c = mark then [c, c] else [c]) ++ doubled mark text := List.flatMap_cons
      rw [parted]
      by_cases same : c = mark
      · subst same
        rw [if_pos rfl]
        simp [Single, plain, ih]
      · rw [if_neg same]
        simp only [List.cons_append, List.nil_append, Single, doubled_head, ih]

theorem single_enclosed (mark : Char) (plain : mark ≠ '$') (text : List Char) :
    Single (mark :: text ++ [mark]) ↔ Single text := by
  have closing : Single (mark :: text ++ [mark]) ↔ Single (mark :: text) ∧ Single [mark] :=
    single_append _ _ (.inr (by simpa using plain))
  have last : Single [mark] := by simp [Single]
  rw [closing, Single, and_iff_left last, and_iff_right fun both => plain both.1]

theorem single_quote_name (name : String) : Single (quoteName name).toList ↔ Single name.toList := by
  rw [quoteName, String.toList_ofList, single_enclosed '"' (by decide), single_doubled '"' (by decide)]

theorem single_quote_text (text : String) : Single (quoteText text).toList ↔ Single text.toList := by
  have doubles := single_doubled '\x27' (by decide) text.toList
  rw [quoteText]
  split
  · have opening : Single [' ', 'E'] := by simp [Single]
    have parted : (String.ofList (' ' :: 'E' :: '\x27' :: doubled '\\' (doubled '\x27' text.toList) ++ ['\x27'])).toList =
        [' ', 'E'] ++ ('\x27' :: doubled '\\' (doubled '\x27' text.toList) ++ ['\x27']) := by simp
    rw [parted, single_append _ _ (.inl (by decide)), and_iff_right opening, single_enclosed _ (by decide),
      single_doubled '\\' (by decide), doubles]
  · rw [String.toList_ofList, single_enclosed _ (by decide), doubles]

theorem first_pair (text : List Char) (pair : ¬ Single text) :
    ∃ front back, text = front ++ '$' :: '$' :: back ∧ Single (front ++ ['$']) := by
  induction text with
  | nil => exact absurd trivial pair
  | cons c text ih =>
      by_cases here : c = '$' ∧ text.head? = some '$'
      · obtain ⟨rfl, first⟩ := here
        exact ⟨[], text.tail, congrArg ('$' :: ·) (List.cons_head?_tail first).symm, by simp [Single]⟩
      · obtain ⟨front, back, rfl, single⟩ := ih fun later => pair ⟨here, later⟩
        have head : (front ++ ['$']).head? = (front ++ '$' :: '$' :: back).head? := by cases front <;> rfl
        exact ⟨c :: front, back, rfl, head ▸ here, single⟩

theorem run_body (front back : List Char) (single : Single (front ++ ['$'])) :
    (∀ letters, (Mode.body letters).run (front ++ '$' :: '$' :: back) =
      (Mode.between.run back).map (.text (letters ++ front) :: ·)) ∧
    ((front ++ ['$']).head? ≠ some '$' → ∀ letters, (Mode.bodyDollar letters).run (front ++ '$' :: '$' :: back) =
      (Mode.between.run back).map (.text (letters ++ '$' :: front) :: ·)) := by
  induction front with
  | nil =>
      refine ⟨fun letters => ?_, fun apart => absurd rfl apart⟩
      rw [List.nil_append, List.append_nil, run_silent _ (.bodyDollar letters) _ _ rfl]
      exact run_step (.bodyDollar letters) .between '$' back [.text letters] rfl
  | cons c front ih =>
      obtain ⟨plain, later⟩ := single
      obtain ⟨inside, behind⟩ := ih later
      refine ⟨fun letters => ?_, fun apart letters => ?_⟩
      · by_cases dollar : c = '$'
        · subst dollar
          exact (run_silent _ (.bodyDollar letters) _ _ rfl).trans (behind (fun first => plain ⟨rfl, first⟩) letters)
        · have whole : letters ++ c :: front = letters ++ [c] ++ front := by simp
          rw [whole, ← inside]
          refine run_silent _ _ _ _ ?_
          rw [Mode.step, if_neg dollar]
      · have dollar : c ≠ '$' := by simpa using apart
        have whole : letters ++ '$' :: c :: front = letters ++ ['$', c] ++ front := by simp
        rw [whole, ← inside]
        refine run_silent _ _ _ _ ?_
        rw [Mode.step, if_neg dollar]

theorem read_body (letters text : List Char) (single : Single (text ++ ['$'])) :
    (Mode.body letters).run (text ++ ['$', '$']) = some [.text (letters ++ text)] :=
  (run_body text [] single).1 letters

theorem read_body_iff (text : List Char) :
    (Mode.body []).run (text ++ ['$', '$']) = some [.text text] ↔ Single (text ++ ['$']) := by
  refine ⟨fun read => ?_, fun single => read_body [] text single⟩
  have pair : ¬ Single (text ++ ['$', '$']) := by
    rw [single_iff, not_not]
    exact List.infix_append' text ['$', '$'] []
  obtain ⟨front, back, parts, single⟩ := first_pair _ pair
  rw [parts, (run_body front back single).1 []] at read
  obtain ⟨tokens, -, same⟩ := Option.map_eq_some_iff.mp read
  obtain rfl : front = text := Token.text.inj (List.cons.inj same).1
  exact single

end Schematic.Ddl
