import Schematic.Proofs.Source.ClauseGrammar

set_option autoImplicit false

namespace Schematic

open Text

def Names (word text : List Char) : Prop :=
  word ≠ [] ∧ (∀ c ∈ word, isClauseChar c = true) ∧ ∃ tail value, trim text = word ++ tail ∧ ClauseTail tail value

def nullableTerm? : Option (List Char) → Option Term
  | none => some (.nullable true)
  | some value =>
      match String.ofList (value.map Char.toLower) with
      | "true" => some (.nullable true)
      | "false" => some (.nullable false)
      | _ => none

def defaultTerm? (value : Option (List Char)) : Option Term :=
  (DefaultText.ofString? (String.ofList (value.getD []))).map .default

-- What a clause says of a field, if it says anything. A flag counts even where a value is wrongly given to it.
def Clause.term? (clause : Clause) : Option Term :=
  match String.ofList clause.word with
  | "primary" => some .primary
  | "unique" => some .unique
  | "index" => some .index
  | "nullable" => nullableTerm? clause.value
  | "default" => defaultTerm? clause.value
  | _ => none

def termOf? (text : List Char) : Option Term := (Clause.read? (trim text)).bind Clause.term?

def faultsOf (text : List Char) : List Problem := (readClauses [text]).2

theorem faults_step (text : List Char) : faultsOf text = (ClauseState.step {} text).problems := rfl

theorem read_word (text : List Char) (clause : Clause) (read : Clause.read? text = some clause) :
    clause.word = text.takeWhile isClauseChar ∧ text.takeWhile isClauseChar ≠ [] := by
  rw [Clause.read?] at read
  by_cases empty : text.takeWhile isClauseChar = []
  · simp [empty] at read
  · rw [if_neg empty] at read
    split at read
    · exact ⟨congrArg Clause.word (Option.some.inj read).symm, empty⟩
    · exact ⟨congrArg Clause.word (Option.some.inj read).symm, empty⟩
    · obtain ⟨value, -, same⟩ := Option.map_eq_some_iff.mp read
      exact ⟨congrArg Clause.word same.symm, empty⟩

theorem names_iff (word text : List Char) : Names word text ↔ (Clause.read? (trim text)).map Clause.word = some word := by
  constructor
  · intro named
    obtain ⟨filled, letters, tail, value, whole, follows⟩ := named
    rw [whole, clause_read_complete word tail value filled letters follows]
    rfl
  · intro found
    obtain ⟨clause, read, rfl⟩ := Option.map_eq_some_iff.mp found
    obtain ⟨taken, filled⟩ := read_word _ clause read
    have letters : ∀ c ∈ clause.word, isClauseChar c = true := fun c member => List.mem_takeWhile_imp (taken ▸ member)
    obtain ⟨tail, whole, follows⟩ := clause_read_sound _ clause (trim_trim text) read
    exact ⟨taken ▸ filled, letters, tail, clause.value, whole, follows⟩

instance (word text : List Char) : Decidable (Names word text) := decidable_of_iff _ (names_iff word text).symm

def Term.word : Term → String
  | .primary => "primary"
  | .unique => "unique"
  | .index => "index"
  | .nullable _ => "nullable"
  | .default _ => "default"

def Term.nullable? : Term → Option Bool
  | .nullable value => some value
  | _ => none

def Term.default? : Term → Option DefaultText
  | .default value => some value
  | _ => none

theorem nullable_term (value : Option (List Char)) (term : Term) (said : nullableTerm? value = some term) :
    term.word = "nullable" := by
  cases value with
  | none => rw [← Option.some.inj said, Term.word]
  | some value =>
      rw [nullableTerm?] at said
      split at said
      · rw [← Option.some.inj said, Term.word]
      · rw [← Option.some.inj said, Term.word]
      · exact nomatch said

theorem default_term (value : Option (List Char)) (term : Term) (said : defaultTerm? value = some term) :
    term.word = "default" := by
  obtain ⟨text, -, rfl⟩ := Option.map_eq_some_iff.mp said
  rfl

theorem clause_term_word (clause : Clause) (term : Term) (said : clause.term? = some term) :
    clause.word = term.word.toList := by
  have spelled : String.ofList clause.word = term.word := by
    rw [Clause.term?] at said
    split at said
    · rename_i word
      rw [word, ← Option.some.inj said, Term.word]
    · rename_i word
      rw [word, ← Option.some.inj said, Term.word]
    · rename_i word
      rw [word, ← Option.some.inj said, Term.word]
    · rename_i word
      rw [word, nullable_term _ term said]
    · rename_i word
      rw [word, default_term _ term said]
    · exact nomatch said
  rw [← spelled, String.toList_ofList]

theorem term_names (text : List Char) (term : Term) (said : termOf? text = some term) : Names term.word.toList text := by
  obtain ⟨clause, read, told⟩ := Option.bind_eq_some_iff.mp said
  rw [names_iff, read, Option.map_some, clause_term_word clause term told]

theorem primary_term (text : List Char) (named : Names "primary".toList text) : termOf? text = some .primary := by
  obtain ⟨clause, read, word⟩ := Option.map_eq_some_iff.mp ((names_iff _ _).mp named)
  rw [termOf?, read, Option.bind_some, Clause.term?, word]
  rfl

section Step

variable (state : ClauseState) (value : Option (List Char))

theorem flag_told (word : String) (set : Modifiers → Modifiers) :
    state.flag word value set = ⟨set state.modifiers, state.problems ++ (ClauseState.flag {} word value set).problems⟩ := by
  by_cases empty : value.getD [] = []
  · rw [ClauseState.flag, ClauseState.flag, if_pos empty, if_pos empty]
    simp
  · rw [ClauseState.flag, ClauseState.flag, if_neg empty, if_neg empty]
    rfl

theorem nullable_told :
    state.nullable value =
      ⟨(nullableTerm? value).elim state.modifiers state.modifiers.say,
        state.problems ++ (ClauseState.nullable {} value).problems⟩ := by
  cases value with
  | none => simp [ClauseState.nullable, nullableTerm?, Modifiers.say]
  | some value =>
      simp only [ClauseState.nullable, nullableTerm?]
      generalize String.ofList (value.map Char.toLower) = lower
      by_cases yes : lower = "true"
      · simp [yes, Modifiers.say]
      · by_cases no : lower = "false"
        · simp [no, Modifiers.say]
        · simp [ClauseState.report]

theorem default_told :
    state.default value =
      ⟨(defaultTerm? value).elim state.modifiers state.modifiers.say,
        state.problems ++ (ClauseState.default {} value).problems⟩ := by
  rw [ClauseState.default, ClauseState.default, defaultTerm?]
  cases value.getD [] with
  | nil => rfl
  | cons c rest =>
      simp only
      cases DefaultText.ofString? (String.ofList (c :: rest)) with
      | none => rfl
      | some text => simp [Modifiers.say]

end Step

-- One more clause adds what it says and what is wrong with it, whatever stands in front of it.
theorem step_told (state : ClauseState) (text : List Char) :
    state.step text = ⟨(termOf? text).elim state.modifiers state.modifiers.say, state.problems ++ faultsOf text⟩ := by
  rw [faults_step, ClauseState.step, ClauseState.step, termOf?]
  cases Clause.read? (trim text) with
  | none => rfl
  | some clause =>
      simp only [Option.bind_some, Clause.term?]
      generalize String.ofList clause.word = word
      split
      · exact flag_told state clause.value "primary" ({ · with isPrimary := true })
      · exact flag_told state clause.value "unique" ({ · with isUnique := true })
      · exact flag_told state clause.value "index" ({ · with isIndex := true })
      · exact nullable_told state clause.value
      · exact default_told state clause.value
      · simp [ClauseState.report]

theorem clauses_told (clauses : List (List Char)) (state : ClauseState) :
    clauses.foldl ClauseState.step state =
      ⟨(clauses.filterMap termOf?).foldl Modifiers.say state.modifiers, state.problems ++ clauses.flatMap faultsOf⟩ := by
  induction clauses generalizing state with
  | nil => simp
  | cons text clauses ih =>
      rw [List.foldl_cons, ih, step_told, List.flatMap_cons, List.append_assoc]
      cases said : termOf? text with
      | none => rw [List.filterMap_cons_none said, Option.elim_none]
      | some term => rw [List.filterMap_cons_some said, Option.elim_some, List.foldl_cons]

theorem terms_told (terms : List Term) (modifiers : Modifiers) :
    terms.foldl Modifiers.say modifiers =
      { isPrimary := modifiers.isPrimary || terms.any (·.word == "primary")
        isUnique := modifiers.isUnique || terms.any (·.word == "unique")
        isIndex := modifiers.isIndex || terms.any (·.word == "index")
        isNullable := (terms.filterMap Term.nullable?).getLast?.getD modifiers.isNullable
        defaultText := (terms.filterMap Term.default?).getLast?.or modifiers.defaultText } := by
  induction terms generalizing modifiers with
  | nil => simp
  | cons term terms ih =>
      rw [List.foldl_cons, ih]
      cases term <;> simp [Modifiers.say, Term.word, Term.nullable?, Term.default?, List.getLast?_cons]

def termsOf (clauses : List (List Char)) : List Term := clauses.filterMap termOf?

theorem read_clauses_told (clauses : List (List Char)) :
    readClauses clauses =
      ({ isPrimary := (termsOf clauses).any (·.word == "primary")
         isUnique := (termsOf clauses).any (·.word == "unique")
         isIndex := (termsOf clauses).any (·.word == "index")
         isNullable :=
          ((termsOf clauses).filterMap Term.nullable?).getLast?.getD true && !(termsOf clauses).any (·.word == "primary")
         defaultText := ((termsOf clauses).filterMap Term.default?).getLast? },
        clauses.flatMap faultsOf) := by
  rw [readClauses, clauses_told]
  simp only [terms_told, Modifiers.settle, termsOf, Bool.false_or, Option.or_none, List.nil_append]

section Order

variable (clauses others : List (List Char)) (permuted : clauses.Perm others)

-- What is told by the clauses of one word alone, is told by their order alone.
theorem word_order {α : Type} (word : String) (told : Term → Option α)
    (own : ∀ term value, told term = some value → term.word = word)
    (same : clauses.filter (Names word.toList ·) = others.filter (Names word.toList ·)) :
    (termsOf clauses).filterMap told = (termsOf others).filterMap told := by
  have picked : ∀ texts : List (List Char),
      (termsOf texts).filterMap told =
        (texts.filter (Names word.toList ·)).filterMap fun text => (termOf? text).bind told := by
    intro texts
    rw [termsOf, List.filterMap_filterMap, List.filterMap_filter]
    refine List.filterMap_congr fun text _ => ?_
    by_cases named : Names word.toList text
    · simp [named]
    · simp only [named, decide_false, Bool.false_eq_true, if_false]
      -- A term of that word would stand in a clause that names it.
      refine Option.eq_none_iff_forall_ne_some.mpr fun value given => named ?_
      obtain ⟨term, said, own_value⟩ := Option.bind_eq_some_iff.mp given
      rw [← own term value own_value]
      exact term_names text term said
  rw [picked, picked, same]

include permuted

theorem flags_order (word : String) :
    (termsOf clauses).any (·.word == word) = (termsOf others).any (·.word == word) :=
  (permuted.filterMap termOf?).any_eq

theorem faults_order : (readClauses clauses).2.Perm (readClauses others).2 := by
  rw [read_clauses_told, read_clauses_told]
  exact permuted.flatMap_right faultsOf

theorem modifiers_order
    (nullables : clauses.filter (Names "nullable".toList ·) = others.filter (Names "nullable".toList ·))
    (defaults : clauses.filter (Names "default".toList ·) = others.filter (Names "default".toList ·)) :
    (readClauses clauses).1 = (readClauses others).1 := by
  have nullable : ∀ term value, Term.nullable? term = some value → term.word = "nullable" := by
    intro term value given
    cases term with
    | nullable _ => rfl
    | _ => exact nomatch given
  have default : ∀ term value, Term.default? term = some value → term.word = "default" := by
    intro term value given
    cases term with
    | default _ => rfl
    | _ => exact nomatch given
  rw [read_clauses_told, read_clauses_told]
  simp only [flags_order clauses others permuted, word_order clauses others _ _ nullable nullables,
    word_order clauses others _ _ default defaults]

end Order

theorem primary_not_nullable (clauses : List (List Char)) (text : List Char) (member : text ∈ clauses)
    (named : Names "primary".toList text) : (readClauses clauses).1.isNullable = false := by
  have said : Term.primary ∈ termsOf clauses := List.mem_filterMap.mpr ⟨text, member, primary_term text named⟩
  have any : (termsOf clauses).any (·.word == "primary") = true := List.any_eq_true.mpr ⟨_, said, rfl⟩
  rw [read_clauses_told]
  simp only [any, Bool.not_true, Bool.and_false]

-- The clauses of a field may stand in any order that keeps those of nullability and those of defaults in theirs: the modifiers
-- and what is reported at the field's line are the same. A primary field is not nullable, whatever else is said of it.
theorem clauses_order_free :
    (∀ clauses others : List (List Char), clauses.Perm others →
      clauses.filter (Names "nullable".toList ·) = others.filter (Names "nullable".toList ·) →
      clauses.filter (Names "default".toList ·) = others.filter (Names "default".toList ·) →
      (readClauses clauses).1 = (readClauses others).1 ∧
        ∀ line, ((readClauses clauses).2.map (Diagnostic.mk line)).Perm ((readClauses others).2.map (Diagnostic.mk line))) ∧
      ∀ clauses : List (List Char), (∃ text ∈ clauses, Names "primary".toList text) →
        (readClauses clauses).1.isNullable = false := by
  constructor
  · intro clauses others permuted nullables defaults
    exact ⟨modifiers_order clauses others permuted nullables defaults,
      fun line => (faults_order clauses others permuted).map _⟩
  · intro clauses some
    obtain ⟨text, member, named⟩ := some
    exact primary_not_nullable clauses text member named

def mixedClauses : List (List Char) :=
  [" nullable(false) ".toList, "default(a)".toList, "color".toList, "primary(yes)".toList, "nullable = maybe".toList,
    "default((".toList, "b c".toList, "nullable".toList, "default = b".toList, "unique".toList]

def shuffledClauses : List (List Char) :=
  ["unique".toList, "b c".toList, "default(a)".toList, " nullable(false) ".toList, "default((".toList, "nullable = maybe".toList,
    "nullable".toList, "default = b".toList, "primary(yes)".toList, "color".toList]

theorem mixed_clauses_order_free :
    mixedClauses.Perm shuffledClauses ∧
      mixedClauses.filter (Names "nullable".toList ·) = shuffledClauses.filter (Names "nullable".toList ·) ∧
      mixedClauses.filter (Names "default".toList ·) = shuffledClauses.filter (Names "default".toList ·) ∧
      (∃ text ∈ mixedClauses, Names "primary".toList text) ∧
      (readClauses mixedClauses).1 = (readClauses shuffledClauses).1 ∧
      (∀ line, ((readClauses mixedClauses).2.map (Diagnostic.mk line)).Perm
        ((readClauses shuffledClauses).2.map (Diagnostic.mk line))) ∧
      (readClauses mixedClauses).1.isNullable = false := by
  have permuted : mixedClauses.Perm shuffledClauses := by decide +kernel
  have nullables : mixedClauses.filter (Names "nullable".toList ·) = shuffledClauses.filter (Names "nullable".toList ·) := by
    decide +kernel
  have defaults : mixedClauses.filter (Names "default".toList ·) = shuffledClauses.filter (Names "default".toList ·) := by
    decide +kernel
  have primary : ∃ text ∈ mixedClauses, Names "primary".toList text := by decide +kernel
  obtain ⟨modifiers, problems⟩ := clauses_order_free.1 mixedClauses shuffledClauses permuted nullables defaults
  exact ⟨permuted, nullables, defaults, primary, modifiers, problems, clauses_order_free.2 mixedClauses primary⟩

end Schematic
