import Schematic.Proofs.Source.ClauseGrammar
import Schematic.Proofs.Source.TypeWriting

set_option autoImplicit false

namespace Schematic

open Text

def Modifiers.said (modifiers : Modifiers) : List (List Char × Term) :=
  (if modifiers.isPrimary then [("primary".toList, .primary)] else []) ++
  (if modifiers.isUnique then [("unique".toList, .unique)] else []) ++
  (if modifiers.isIndex then [("index".toList, .index)] else []) ++
  (if !modifiers.isNullable && !modifiers.isPrimary then [("nullable(false)".toList, .nullable false)] else []) ++
  match modifiers.defaultText with
  | some value => [("default(".toList ++ value.text.toList ++ [')'], .default value)]
  | none => []

def marked (clauses : List (List Char)) : List Char := clauses.flatMap fun clause => ' ' :: '@' :: clause

structure Clean (clause : List Char) : Prop where
  unbroken : Unbroken clause
  uncommented : ∀ spot : Spot, spot.depth = 0 → Uncommented spot clause
  sheltered : Sheltered fieldMarks 0 clause
  closed : depthOver 0 clause = 0
  solid : ∃ c, clause.getLast? = some c ∧ isBlank c = false

theorem modifiers_render (modifiers : Modifiers) : modifiers.render = modifiers.said.map fun pair => '@' :: pair.1 := by
  obtain ⟨isPrimary, isUnique, isIndex, isNullable, defaultText⟩ := modifiers
  simp only [Modifiers.render, Modifiers.said, List.map_append]
  congr 1
  · cases isPrimary <;> cases isUnique <;> cases isIndex <;> cases isNullable <;> rfl
  · cases defaultText <;> rfl

theorem said_terms (modifiers : Modifiers) (settled : modifiers.isPrimary = true → modifiers.isNullable = false) :
    Modifiers.ofTerms (modifiers.said.map Prod.snd) = modifiers := by
  obtain ⟨isPrimary, isUnique, isIndex, isNullable, defaultText⟩ := modifiers
  cases isPrimary with
  | true =>
      obtain rfl : isNullable = false := settled rfl
      cases isUnique <;> cases isIndex <;> cases defaultText <;> rfl
  | false => cases isUnique <;> cases isIndex <;> cases isNullable <;> cases defaultText <;> rfl

theorem plain_clean (clause : List Char) (letters : clause.all (fun c => isNameChar c || c == '(' || c == ')') = true)
    (closed : depthOver 0 clause = 0) (some : clause ≠ []) : Clean clause := by
  have known : ∀ c ∈ clause, isNameChar c = true ∨ c = '(' ∨ c = ')' := by
    intro c member
    have letter := List.all_eq_true.mp letters c member
    simpa only [Bool.or_eq_true, beq_iff_eq, or_assoc] using letter
  have absent : ∀ c, isNameChar c = false → c ≠ '(' → c ≠ ')' → c ∉ clause := by
    intro c other opening closing member
    rcases known c member with named | same | same
    · exact absurd (other.symm.trans named) Bool.false_ne_true
    · exact opening same
    · exact closing same
  refine ⟨?_, fun spot _ => uncommented_absent spot clause (absent '/' (by decide) (by decide) (by decide)), ?_, closed, ?_⟩
  · intro c member
    rcases known c member with named | rfl | rfl
    · exact name_char_unbroken c named
    · decide
    · decide
  · apply sheltered_absent
    intro c member mark
    simp only [fieldMarks, braces, List.cons_append, List.nil_append, List.mem_cons, List.not_mem_nil, or_false] at mark
    rcases mark with rfl | rfl | rfl <;> exact absent _ (by decide) (by decide) (by decide) member
  · refine ⟨clause.getLast some, List.getLast?_eq_some_getLast some, ?_⟩
    rcases known _ (List.getLast_mem some) with named | same | same
    · exact name_char_solid _ named
    · rw [same]
      decide
    · rw [same]
      decide

theorem default_clean (value : DefaultText) (unbroken : Unbroken value.text.toList) :
    Clean ("default(".toList ++ value.text.toList ++ [')']) := by
  have closed : balanced 0 value.text.toList = true := by
    have renderable := value.renderable
    simp only [isRenderable, Bool.and_eq_true] at renderable
    exact renderable.2
  have opened : depthOver 0 "default(".toList = 1 := by decide
  obtain ⟨depth, sheltered⟩ := balanced_inside fieldMarks value.text.toList 0 1 closed
  refine ⟨?_, ?_, ?_, ?_, ⟨')', by rw [List.getLast?_append]; rfl, by decide⟩⟩
  · intro c member
    simp only [List.mem_append] at member
    rcases member with (word | inside) | last
    · exact unbroken_literal _ (by decide) c word
    · exact unbroken c inside
    · obtain rfl : c = ')' := by simpa using last
      decide
  · intro spot outside
    have inner := balanced_uncommented (spot.over "default(".toList) value.text.toList 0 1 closed (by decide)
      (by rw [over_depth, outside, opened])
    rw [List.append_assoc]
    exact uncommented_after _ _ _ (by decide)
      (uncommented_join _ _ _ inner (uncommented_absent _ _ (by decide)) (by decide))
  · rw [sheltered_append, sheltered_append, opened]
    exact ⟨⟨sheltered_literal _ _ _ (by decide), sheltered (by decide)⟩, sheltered_literal _ _ _ (by decide)⟩
  · rw [depth_over_append, depth_over_append, opened]
    exact congrArg (depthOver · [')']) depth

theorem default_said (value : DefaultText) :
    ClauseText ("default(".toList ++ value.text.toList ++ [')']) (.default value) := by
  have renderable := value.renderable
  simp only [isRenderable, Bool.and_eq_true, decide_eq_true_eq] at renderable
  have trimmed : trim value.text.toList = value.text.toList := renderable.1.1.2.symm
  have read := ClauseTail.enclosed [] value.text.toList blanks_nil
  rw [trimmed] at read
  refine ⟨"default".toList, _, _, ?_, read, .default value⟩
  rw [(trimmed_iff _).mpr]
  · simp
  · refine ⟨fun c first => ?_, fun c last => ?_⟩
    · obtain rfl : 'd' = c := by simpa using first
      decide
    · rw [List.getLast?_concat] at last
      obtain rfl : ')' = c := Option.some.inj last
      decide

theorem bare_said (word : List Char) (term : Term) (known : Accepts word none term) : ClauseText word term := by
  have letters := (accepts_letters word none term known).2
  refine ⟨word, [], none, ?_, .bare, known⟩
  rw [List.append_nil]
  exact solid_trim word fun c member => name_char_solid c (clause_char_named c (letters c member))

theorem mem_said (modifiers : Modifiers)
    (whole : ∀ value, modifiers.defaultText = some value → Unbroken value.text.toList) (clause : List Char) (term : Term)
    (member : (clause, term) ∈ modifiers.said) : ClauseText clause term ∧ Clean clause := by
  simp only [Modifiers.said, List.mem_append] at member
  rcases member with (((flag | flag) | flag) | flag) | given
  · split at flag
    · obtain ⟨rfl, rfl⟩ : clause = "primary".toList ∧ term = .primary := by simpa using flag
      exact ⟨bare_said _ _ (.primary none rfl), plain_clean _ (by decide) (by decide) (by decide)⟩
    · simp at flag
  · split at flag
    · obtain ⟨rfl, rfl⟩ : clause = "unique".toList ∧ term = .unique := by simpa using flag
      exact ⟨bare_said _ _ (.unique none rfl), plain_clean _ (by decide) (by decide) (by decide)⟩
    · simp at flag
  · split at flag
    · obtain ⟨rfl, rfl⟩ : clause = "index".toList ∧ term = .index := by simpa using flag
      exact ⟨bare_said _ _ (.index none rfl), plain_clean _ (by decide) (by decide) (by decide)⟩
    · simp at flag
  · split at flag
    · obtain ⟨rfl, rfl⟩ : clause = "nullable(false)".toList ∧ term = .nullable false := by simpa using flag
      have read : ClauseTail "(false)".toList (some "false".toList) := .enclosed [] "false".toList blanks_nil
      exact ⟨⟨"nullable".toList, _, _, by decide, read, .nullableFalse _ (by decide)⟩,
        plain_clean _ (by decide) (by decide) (by decide)⟩
    · simp at flag
  · cases set : modifiers.defaultText with
    | none => simp [set] at given
    | some value =>
        obtain ⟨rfl, rfl⟩ : clause = "default(".toList ++ value.text.toList ++ [')'] ∧ term = .default value := by
          simpa [set] using given
        exact ⟨default_said value, default_clean value (whole value set)⟩

theorem marked_unbroken (clauses : List (List Char)) (unbroken : ∀ clause ∈ clauses, Unbroken clause) :
    Unbroken (marked clauses) := by
  intro c member
  obtain ⟨clause, among, inside⟩ := List.mem_flatMap.mp member
  simp only [List.mem_cons] at inside
  rcases inside with rfl | rfl | inside
  · decide
  · decide
  · exact unbroken clause among c inside

theorem marked_head (clauses : List (List Char)) : (marked clauses).head? ≠ some '/' := by
  cases clauses with
  | nil => simp [marked]
  | cons clause clauses => simp [marked]

theorem marked_cons (clause : List Char) (clauses : List (List Char)) :
    marked (clause :: clauses) = [' ', '@'] ++ (clause ++ marked clauses) := by
  simp [marked]

theorem marked_uncommented (clauses : List (List Char)) (clean : ∀ clause ∈ clauses, Clean clause) (spot : Spot)
    (outside : spot.depth = 0) : Uncommented spot (marked clauses) := by
  induction clauses generalizing spot with
  | nil => trivial
  | cons clause clauses ih =>
      have here := clean clause List.mem_cons_self
      have opened : (spot.over [' ', '@']).depth = 0 := by
        rw [over_depth, outside]
        rfl
      have behind : ((spot.over [' ', '@']).over clause).depth = 0 := by rw [over_depth, opened, here.closed]
      have rest := ih (fun other member => clean other (List.mem_cons_of_mem _ member)) _ behind
      rw [marked_cons]
      exact uncommented_after _ _ _ (by decide)
        (uncommented_join _ _ _ (here.uncommented _ opened) rest (marked_head clauses))

theorem marked_sheltered (clauses : List (List Char)) (clean : ∀ clause ∈ clauses, Clean clause) :
    Sheltered braces 0 (marked clauses) := by
  induction clauses with
  | nil => trivial
  | cons clause clauses ih =>
      have here := clean clause List.mem_cons_self
      have gap : depthOver 0 [' ', '@'] = 0 := rfl
      rw [marked_cons, sheltered_append, gap, sheltered_append, here.closed]
      exact ⟨sheltered_literal _ _ _ (by decide), ((sheltered_union _ _ _ _).mp here.sheltered).1,
        ih fun other member => clean other (List.mem_cons_of_mem _ member)⟩

theorem marked_depth (clauses : List (List Char)) (clean : ∀ clause ∈ clauses, Clean clause) :
    depthOver 0 (marked clauses) = 0 := by
  induction clauses with
  | nil => rfl
  | cons clause clauses ih =>
      rw [marked_cons, depth_over_append, depth_over_append, show depthOver 0 [' ', '@'] = 0 from rfl,
        (clean clause List.mem_cons_self).closed]
      exact ih fun other member => clean other (List.mem_cons_of_mem _ member)

theorem marked_solid (text : List Char) (clauses : List (List Char)) (clean : ∀ clause ∈ clauses, Clean clause)
    (solid : ∃ c, text.getLast? = some c ∧ isBlank c = false) :
    ∃ c, (text ++ marked clauses).getLast? = some c ∧ isBlank c = false := by
  induction clauses generalizing text with
  | nil => simpa [marked] using solid
  | cons clause clauses ih =>
      obtain ⟨c, last, blank⟩ := (clean clause List.mem_cons_self).solid
      have rest := ih (text ++ [' ', '@'] ++ clause) (fun other member => clean other (List.mem_cons_of_mem _ member))
        ⟨c, by rw [List.getLast?_append, last]; rfl, blank⟩
      rw [marked_cons]
      simpa only [List.append_assoc] using rest

theorem split_marked (text : List Char) (clauses : List (List Char)) (clean : ∀ clause ∈ clauses, Clean clause)
    (sheltered : Sheltered ['@'] 0 text) (closed : clauses = [] ∨ depthOver 0 text = 0) :
    ∃ first rest, splitOutside '@' 0 (text ++ marked clauses) = first :: rest ∧ trim first = trim text ∧
      List.Forall₂ (fun piece clause => trim piece = trim clause) rest clauses := by
  induction clauses generalizing text with
  | nil =>
      refine ⟨text, [], ?_, rfl, .nil⟩
      rw [marked, List.flatMap_nil, List.append_nil]
      exact split_outside_whole '@' 0 text sheltered
  | cons clause clauses ih =>
      have here := clean clause List.mem_cons_self
      have outside : depthOver 0 text = 0 := closed.resolve_left (by simp)
      obtain ⟨first, rest, parted, same, others⟩ := ih clause (fun other member => clean other (List.mem_cons_of_mem _ member))
        ((sheltered_union _ _ _ _).mp here.sheltered).2 (.inr here.closed)
      have spaced : Sheltered ['@'] 0 (text ++ [' ']) := by
        rw [sheltered_append]
        exact ⟨sheltered, sheltered_literal _ _ _ (by decide)⟩
      have end_outside : depthAfter (depthOver 0 (text ++ [' '])) '@' = 0 := by
        rw [depth_over_append, outside]
        rfl
      have whole : text ++ marked (clause :: clauses) = (text ++ [' ']) ++ '@' :: (clause ++ marked clauses) := by
        rw [marked_cons]
        simp
      refine ⟨text ++ [' '], first :: rest, ?_, ?_, .cons same others⟩
      · rw [whole, split_outside_append '@' 0 _ _ spaced end_outside, parted]
      · have blank : Blanks [' '] := by simp [Blanks, isBlank]
        simpa using trim_pad [] text [' '] blanks_nil blank

end Schematic
