import Schematic.Proofs.Source.TypeGrammar
import Mathlib.Data.List.Forall2

set_option autoImplicit false

namespace Schematic

open Text

inductive Term where
  | primary | unique | index
  | nullable (value : Bool)
  | default (value : DefaultText)

def Modifiers.say (modifiers : Modifiers) : Term → Modifiers
  | .primary => { modifiers with isPrimary := true }
  | .unique => { modifiers with isUnique := true }
  | .index => { modifiers with isIndex := true }
  | .nullable value => { modifiers with isNullable := value }
  | .default value => { modifiers with defaultText := some value }

-- Later terms override earlier ones, and a primary field is never nullable.
def Modifiers.ofTerms (terms : List Term) : Modifiers := (terms.foldl Modifiers.say {}).settle

-- Clauses are parts of one line, so no line break needs to be kept out of a value.
inductive ClauseTail : List Char → Option (List Char) → Prop where
  | bare : ClauseTail [] none
  | enclosed (gap inner : List Char) (blank : Blanks gap) :
      ClauseTail (gap ++ '(' :: inner ++ [')']) (some (trim inner))
  | assigned (gap inner : List Char) (blank : Blanks gap) : ClauseTail (gap ++ '=' :: inner) (some (trim inner))

inductive Accepts : List Char → Option (List Char) → Term → Prop where
  | primary (value : Option (List Char)) (empty : value.getD [] = []) : Accepts "primary".toList value .primary
  | unique (value : Option (List Char)) (empty : value.getD [] = []) : Accepts "unique".toList value .unique
  | index (value : Option (List Char)) (empty : value.getD [] = []) : Accepts "index".toList value .index
  | nullable : Accepts "nullable".toList none (.nullable true)
  | nullableTrue (value : List Char) (word : String.ofList (value.map Char.toLower) = "true") :
      Accepts "nullable".toList (some value) (.nullable true)
  | nullableFalse (value : List Char) (word : String.ofList (value.map Char.toLower) = "false") :
      Accepts "nullable".toList (some value) (.nullable false)
  | default (value : DefaultText) : Accepts "default".toList (some value.text.toList) (.default value)

def ClauseText (text : List Char) (term : Term) : Prop :=
  ∃ word tail value, trim text = word ++ tail ∧ ClauseTail tail value ∧ Accepts word value term

theorem clause_char_named (c : Char) (letter : isClauseChar c = true) : isNameChar c = true := by
  have parts : c.isAlphanum = (c.isAlpha || c.isDigit) := rfl
  simp only [isClauseChar, isNameChar, parts, Bool.or_eq_true] at letter ⊢
  exact letter.elim (fun alpha => .inl (.inl alpha)) .inr

theorem blank_not_clause_char (c : Char) (blank : isBlank c = true) : isClauseChar c = false := by
  by_contra letter
  have named := clause_char_named c (by simpa using letter)
  rw [blank_not_name c blank] at named
  exact Bool.false_ne_true named

theorem clause_tail_head (tail : List Char) (value : Option (List Char)) (read : ClauseTail tail value) (c : Char)
    (first : tail.head? = some c) : isClauseChar c = false := by
  have gap_head : ∀ (gap rest : List Char) (d : Char), Blanks gap → isClauseChar d = false →
      (gap ++ d :: rest).head? = some c → isClauseChar c = false := by
    intro gap rest d blank other first
    cases gap with
    | nil =>
        obtain rfl : d = c := by simpa using first
        exact other
    | cons e gap =>
        obtain rfl : e = c := by simpa using first
        exact blank_not_clause_char e (blank e List.mem_cons_self)
  cases read with
  | bare => simp at first
  | enclosed gap inner blank =>
      rw [List.append_assoc, List.cons_append] at first
      exact gap_head gap (inner ++ [')']) '(' blank (by decide) first
  | assigned gap inner blank => exact gap_head gap inner '=' blank (by decide) first

theorem clause_read_complete (word tail : List Char) (value : Option (List Char)) (some : word ≠ [])
    (letters : ∀ c ∈ word, isClauseChar c = true) (read : ClauseTail tail value) :
    Clause.read? (word ++ tail) = Option.some ⟨word, value⟩ := by
  have head := clause_tail_head tail value read
  have taken : (word ++ tail).takeWhile isClauseChar = word ∧ (word ++ tail).dropWhile isClauseChar = tail := by
    rw [List.takeWhile_append_of_pos letters, List.dropWhile_append_of_pos letters]
    cases tail with
    | nil => simp
    | cons c tail => simp [head c rfl]
  simp only [Clause.read?, taken.1, taken.2, if_neg some]
  cases read with
  | bare => rfl
  | enclosed gap inner blank =>
      have start : trimStart (gap ++ '(' :: inner ++ [')']) = '(' :: (inner ++ [')']) := by
        rw [List.append_assoc, trim_start_pad gap _ blank]
        exact List.dropWhile_cons_of_neg (by decide)
      rw [start]
      have inside := (parenthesized_iff ('(' :: (inner ++ [')'])) inner).mpr rfl
      simp [inside]
  | assigned gap inner blank =>
      have start : trimStart (gap ++ '=' :: inner) = '=' :: inner := by
        rw [trim_start_pad gap _ blank]
        exact List.dropWhile_cons_of_neg (by decide)
      rw [start]
      rfl

theorem clause_read_sound (text : List Char) (clause : Clause) (trimmed : trim text = text)
    (read : Clause.read? text = some clause) : ∃ tail, text = clause.word ++ tail ∧ ClauseTail tail clause.value := by
  rw [Clause.read?] at read
  have whole := List.takeWhile_append_dropWhile (p := isClauseChar) (l := text)
  generalize text.takeWhile isClauseChar = word at read whole
  generalize text.dropWhile isClauseChar = rest at read whole
  by_cases none : word = []
  · simp [none] at read
  · rw [if_neg none] at read
    obtain ⟨gap, blank, start⟩ := trim_start_parts rest
    refine ⟨rest, ?_⟩
    split at read
    · rename_i empty
      obtain rfl := Option.some.inj read
      have blanks : Blanks rest := by
        rw [start, empty, List.append_nil]
        exact blank
      have ended : rest = [] := by
        rcases List.eq_nil_or_concat rest with same | ⟨front, c, same⟩
        · exact same
        · have last := ((trimmed_iff text).mp trimmed).2 c (by rw [← whole, same]; simp)
          rw [blanks c (by simp [same])] at last
          exact Bool.noConfusion last
      exact ⟨whole.symm, by rw [ended]; exact .bare⟩
    · rename_i inner equals
      obtain rfl := Option.some.inj read
      refine ⟨whole.symm, ?_⟩
      rw [start, equals]
      exact .assigned gap inner blank
    · obtain ⟨inner, inside, rfl⟩ := Option.map_eq_some_iff.mp read
      refine ⟨whole.symm, ?_⟩
      rw [start, (parenthesized_iff _ inner).mp inside]
      have built := ClauseTail.enclosed gap inner blank
      rwa [List.append_assoc] at built

theorem accepts_letters (word : List Char) (value : Option (List Char)) (term : Term) (known : Accepts word value term) :
    word ≠ [] ∧ ∀ c ∈ word, isClauseChar c = true := by
  have literal : ∀ text : String, text.toList ≠ [] → text.toList.all isClauseChar = true →
      text.toList ≠ [] ∧ ∀ c ∈ text.toList, isClauseChar c = true :=
    fun _ some letters => ⟨some, fun c member => List.all_eq_true.mp letters c member⟩
  cases known <;> exact literal _ (by decide) (by decide)

theorem flag_accepted (state : ClauseState) (word : String) (value : Option (List Char)) (set : Modifiers → Modifiers)
    (empty : value.getD [] = []) : state.flag word value set = { state with modifiers := set state.modifiers } := by
  rw [ClauseState.flag, if_pos empty]

theorem default_accepted (state : ClauseState) (value : DefaultText) :
    state.default (some value.text.toList) =
      { state with modifiers := { state.modifiers with defaultText := some value } } := by
  have some : value.text.toList ≠ [] := by
    intro empty
    have renderable := value.renderable
    simp [isRenderable, empty] at renderable
  obtain ⟨c, rest, whole⟩ := List.exists_cons_of_ne_nil some
  have read : DefaultText.ofString? value.text = Option.some value := by
    rw [DefaultText.ofString?, dif_pos value.renderable]
  rw [ClauseState.default]
  simp only [Option.getD_some, whole]
  rw [← whole, String.ofList_toList, read]

theorem accepts_step (state : ClauseState) (text word : List Char) (value : Option (List Char)) (term : Term)
    (read : Clause.read? (trim text) = some ⟨word, value⟩) (known : Accepts word value term) :
    state.step text = { state with modifiers := state.modifiers.say term } := by
  rw [ClauseState.step]
  simp only [read]
  cases known with
  | primary _ empty => exact flag_accepted state "primary" value _ empty
  | unique _ empty => exact flag_accepted state "unique" value _ empty
  | index _ empty => exact flag_accepted state "index" value _ empty
  | nullable => rfl
  | nullableTrue value lower =>
      change state.nullable (some value) = _
      simp only [ClauseState.nullable, lower]
      rfl
  | nullableFalse value lower =>
      change state.nullable (some value) = _
      simp only [ClauseState.nullable, lower]
      rfl
  | default value => exact default_accepted state value

theorem clause_step_complete (state : ClauseState) (text : List Char) (term : Term) (said : ClauseText text term) :
    state.step text = { state with modifiers := state.modifiers.say term } := by
  obtain ⟨word, tail, value, whole, read, known⟩ := said
  obtain ⟨some, letters⟩ := accepts_letters word value term known
  exact accepts_step state text word value term
    (by rw [whole]; exact clause_read_complete word tail value some letters read) known

theorem flag_cases (state : ClauseState) (word : String) (value : Option (List Char)) (set : Modifiers → Modifiers)
    (keeps : ∀ modifiers, (set modifiers).defaultText = modifiers.defaultText) :
    value.getD [] = [] ∨
      ∃ modifiers problem, state.flag word value set = ⟨modifiers, state.problems ++ [problem]⟩ ∧
        modifiers.defaultText = state.modifiers.defaultText := by
  by_cases empty : value.getD [] = []
  · exact .inl empty
  · exact .inr ⟨set state.modifiers, .flagWithValue word, by rw [ClauseState.flag, if_neg empty]; rfl, keeps _⟩

theorem nullable_cases (state : ClauseState) (value : Option (List Char)) :
    (∃ term, Accepts "nullable".toList value term) ∨ ∃ problem, state.nullable value = state.report problem := by
  cases value with
  | none => exact .inl ⟨_, .nullable⟩
  | some value =>
      rw [ClauseState.nullable.eq_def]
      simp only
      split
      · rename_i lower
        exact .inl ⟨_, .nullableTrue value lower⟩
      · rename_i lower
        exact .inl ⟨_, .nullableFalse value lower⟩
      · exact .inr ⟨_, rfl⟩

theorem default_cases (state : ClauseState) (value : Option (List Char)) :
    (∃ term, Accepts "default".toList value term) ∨ ∃ problem, state.default value = state.report problem := by
  rw [ClauseState.default]
  split
  · exact .inr ⟨_, rfl⟩
  · rename_i given
    cases value with
    | none => exact absurd rfl given
    | some value =>
        simp only [Option.getD_some]
        split
        · rename_i text read
          have same : text.text = String.ofList value := by
            rw [DefaultText.ofString?] at read
            split at read
            · rw [← Option.some.inj read]
            · simp at read
          have back : (String.ofList value).toList = value := String.toList_ofList
          have built := Accepts.default text
          rw [same, back] at built
          exact .inl ⟨.default text, built⟩
        · exact .inr ⟨_, rfl⟩

-- A clause is understood, or something is said of it; a flag may count all the same.
theorem clause_step_cases (state : ClauseState) (text : List Char) :
    (∃ term, ClauseText text term) ∨
      ∃ modifiers problem, state.step text = ⟨modifiers, state.problems ++ [problem]⟩ ∧
        modifiers.defaultText = state.modifiers.defaultText := by
  cases read : Clause.read? (trim text) with
  | none => exact .inr ⟨state.modifiers, _, by rw [ClauseState.step, read]; rfl, rfl⟩
  | some clause =>
      obtain ⟨tail, whole, follows⟩ := clause_read_sound _ clause (trim_trim text) read
      have understood : (∃ term, Accepts clause.word clause.value term) → ∃ term, ClauseText text term :=
        fun ⟨term, known⟩ => ⟨term, clause.word, tail, clause.value, whole, follows, known⟩
      have spelled : ∀ word : String, String.ofList clause.word = word → clause.word = word.toList := by
        rintro word rfl
        exact String.toList_ofList.symm
      rw [ClauseState.step, read]
      simp only
      split
      · rename_i word
        refine (flag_cases state "primary" clause.value ({ · with isPrimary := true }) fun _ => rfl).imp_left
          fun empty => understood ⟨.primary, ?_⟩
        rw [spelled _ word]
        exact .primary _ empty
      · rename_i word
        refine (flag_cases state "unique" clause.value ({ · with isUnique := true }) fun _ => rfl).imp_left
          fun empty => understood ⟨.unique, ?_⟩
        rw [spelled _ word]
        exact .unique _ empty
      · rename_i word
        refine (flag_cases state "index" clause.value ({ · with isIndex := true }) fun _ => rfl).imp_left
          fun empty => understood ⟨.index, ?_⟩
        rw [spelled _ word]
        exact .index _ empty
      · rename_i word
        refine (nullable_cases state clause.value).imp (fun ⟨term, known⟩ => understood ⟨term, ?_⟩)
          fun ⟨problem, said⟩ => ⟨_, problem, said, rfl⟩
        rw [spelled _ word]
        exact known
      · rename_i word
        refine (default_cases state clause.value).imp (fun ⟨term, known⟩ => understood ⟨term, ?_⟩)
          fun ⟨problem, said⟩ => ⟨_, problem, said, rfl⟩
        rw [spelled _ word]
        exact known
      · exact .inr ⟨_, _, rfl, rfl⟩

theorem clause_problems_grow (clauses : List (List Char)) (state : ClauseState) :
    ∃ more, (clauses.foldl ClauseState.step state).problems = state.problems ++ more := by
  induction clauses generalizing state with
  | nil => exact ⟨[], by simp⟩
  | cons text clauses ih =>
      obtain ⟨more, later⟩ := ih (state.step text)
      rw [List.foldl_cons, later]
      rcases clause_step_cases state text with ⟨term, said⟩ | ⟨modifiers, problem, said, -⟩
      · exact ⟨more, by rw [clause_step_complete state text term said]⟩
      · exact ⟨problem :: more, by rw [said]; simp⟩

theorem clauses_sound (clauses : List (List Char)) (state : ClauseState)
    (clean : (clauses.foldl ClauseState.step state).problems = state.problems) :
    ∃ terms, List.Forall₂ ClauseText clauses terms ∧
      clauses.foldl ClauseState.step state = { state with modifiers := terms.foldl Modifiers.say state.modifiers } := by
  induction clauses generalizing state with
  | nil => exact ⟨[], .nil, rfl⟩
  | cons text clauses ih =>
      rw [List.foldl_cons] at clean ⊢
      rcases clause_step_cases state text with ⟨term, said⟩ | ⟨modifiers, problem, said, -⟩
      · have here := clause_step_complete state text term said
        rw [here] at clean ⊢
        obtain ⟨terms, rest, final⟩ := ih _ clean
        exact ⟨term :: terms, .cons said rest, final⟩
      · obtain ⟨more, later⟩ := clause_problems_grow clauses (state.step text)
        rw [later, said] at clean
        simp at clean

theorem read_clauses_sound (clauses : List (List Char)) (modifiers : Modifiers)
    (read : readClauses clauses = (modifiers, [])) :
    ∃ terms, List.Forall₂ ClauseText clauses terms ∧ modifiers = .ofTerms terms := by
  rw [readClauses, Prod.mk.injEq] at read
  obtain ⟨terms, said, final⟩ := clauses_sound clauses {} read.2
  refine ⟨terms, said, ?_⟩
  rw [← read.1, final]
  rfl

theorem read_clauses_complete (clauses : List (List Char)) (terms : List Term)
    (said : List.Forall₂ ClauseText clauses terms) : readClauses clauses = (.ofTerms terms, []) := by
  have folded : ∀ state : ClauseState, clauses.foldl ClauseState.step state =
      { state with modifiers := terms.foldl Modifiers.say state.modifiers } := by
    induction said with
    | nil => exact fun _ => rfl
    | cons here _ ih =>
        intro state
        rw [List.foldl_cons, clause_step_complete state _ _ here, ih]
        rfl
  rw [readClauses, folded]
  rfl

end Schematic
