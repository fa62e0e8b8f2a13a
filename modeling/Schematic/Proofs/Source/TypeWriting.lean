import Schematic.Proofs.Source.Comments
import Schematic.Proofs.Source.TypeGrammar

set_option autoImplicit false

namespace Schematic

open Text

theorem mem_join (separator : List Char) (items : List (List Char)) (c : Char) (member : c ∈ joinWith separator items) :
    c ∈ separator ∨ ∃ item ∈ items, c ∈ item := by
  induction items with
  | nil => simp [joinWith] at member
  | cons item items ih =>
      by_cases last : items = []
      · subst last
        exact .inr ⟨item, List.mem_cons_self, member⟩
      · rw [join_cons _ _ _ last, List.append_assoc, List.mem_append, List.mem_append] at member
        rcases member with here | here | later
        · exact .inr ⟨item, List.mem_cons_self, here⟩
        · exact .inl here
        · rcases ih later with inside | ⟨other, among, inside⟩
          · exact .inl inside
          · exact .inr ⟨other, List.mem_cons_of_mem _ among, inside⟩

theorem join_trim_depth (depth : Nat) (pieces : List (List Char)) :
    depthOver depth (joinWith [','] (pieces.map trim)) = depthOver depth (joinWith [','] pieces) := by
  induction pieces generalizing depth with
  | nil => rfl
  | cons piece pieces ih =>
      by_cases last : pieces = []
      · subst last
        exact depth_over_trim depth piece
      · have more : pieces.map trim ≠ [] := by simpa using last
        rw [List.map_cons, join_cons _ _ _ last, join_cons _ _ _ more]
        simp only [depth_over_append, depth_over_trim, ih]

theorem sheltered_trim (marks : List Char) (depth : Nat) (text : List Char) (sheltered : Sheltered marks depth text) :
    Sheltered marks depth (trim text) := by
  obtain ⟨a, b, before, after, parts⟩ := trim_parts text
  rw [parts, sheltered_append, sheltered_append, depth_over_blanks depth a before] at sheltered
  exact sheltered.1.2

theorem join_trim_sheltered (marks : List Char) (depth : Nat) (pieces : List (List Char))
    (sheltered : Sheltered marks depth (joinWith [','] pieces)) :
    Sheltered marks depth (joinWith [','] (pieces.map trim)) := by
  induction pieces generalizing depth with
  | nil => exact sheltered
  | cons piece pieces ih =>
      by_cases last : pieces = []
      · subst last
        exact sheltered_trim marks depth piece sheltered
      · have more : pieces.map trim ≠ [] := by simpa using last
        rw [join_cons _ _ _ last, sheltered_append, sheltered_append] at sheltered
        rw [List.map_cons, join_cons _ _ _ more, sheltered_append, sheltered_append, depth_over_trim,
          depth_over_append, depth_over_trim, ← depth_over_append]
        exact ⟨⟨sheltered_trim marks depth piece sheltered.1.1, sheltered.1.2⟩, ih _ sheltered.2⟩

theorem comma_neutral : Neutral ',' := ⟨by decide, by decide⟩

theorem parenthesis_neutral : Neutral '(' := ⟨by decide, by decide⟩

theorem uncommented_trim (spot other : Spot) (text : List Char) (same : spot.depth = other.depth)
    (neutral : Neutral spot.last) (plain : Uncommented spot text) : Uncommented other (trim text) := by
  obtain ⟨a, b, before, after, parts⟩ := trim_parts text
  rw [parts] at plain
  have inner := (uncommented_append _ a _ (uncommented_append _ _ b plain).1).2
  have depth : (spot.over a).depth = other.depth := by rw [over_depth, depth_over_blanks _ a before, same]
  exact uncommented_neutral _ other _ depth (over_blanks_neutral spot a before neutral) inner

-- Trimmed values are read from places as neutral as before, so no comment opens in them that did not before.
theorem join_trim_uncommented (spot other : Spot) (pieces : List (List Char)) (same : spot.depth = other.depth)
    (neutral : Neutral spot.last) (plain : Uncommented spot (joinWith [','] pieces)) :
    Uncommented other (joinWith [','] (pieces.map trim)) := by
  induction pieces generalizing spot other with
  | nil => trivial
  | cons piece pieces ih =>
      by_cases last : pieces = []
      · subst last
        exact uncommented_trim spot other piece same neutral plain
      · have more : pieces.map trim ≠ [] := by simpa using last
        rw [join_cons _ _ _ last, List.append_assoc] at plain
        rw [List.map_cons, join_cons _ _ _ more, List.append_assoc]
        obtain ⟨here, later⟩ := uncommented_append _ _ _ plain
        have depth : ((spot.over piece).next ',').depth = ((other.over (trim piece)).next ',').depth := by
          simp only [Spot.next, over_depth, depth_over_trim, same]
        have rest := ih _ ((other.over (trim piece)).next ',') depth comma_neutral later.2
        have comma : ¬ (other.over (trim piece)).Opens ',' (joinWith [','] (pieces.map trim)).head? := by
          intro opens
          exact absurd opens.1 (by decide)
        exact uncommented_join other _ _ (uncommented_trim spot other piece same neutral here) ⟨comma, rest⟩ (by simp)

theorem enum_values_ne_nil (body : List Char) (values : List String) (listed : EnumBody body values) : values ≠ [] := by
  obtain ⟨first, rest, pieces⟩ := split_on_cons ',' body
  rintro rfl
  have same := listed.1
  simp [pieces] at same

theorem enum_body_render (body : List Char) (values : List String) (listed : EnumBody body values) :
    EnumBody (joinWith [','] (values.map String.toList)) values := by
  have whole : splitOn ',' (joinWith [','] (values.map String.toList)) = values.map String.toList := by
    apply split_on_join
    · simpa using enum_values_ne_nil body values listed
    · rw [listed.1]
      intro piece member comma
      obtain ⟨raw, among, rfl⟩ := List.mem_map.mp member
      exact (mem_split_on ',' ',' body raw among (mem_of_mem_trim _ _ comma)).2 rfl
  refine ⟨?_, listed.2⟩
  rw [whole, listed.1, List.map_map]
  exact List.map_congr_left fun piece _ => (trim_trim piece).symm

theorem enum_render_chars (body : List Char) (values : List String) (listed : EnumBody body values) (c : Char)
    (member : c ∈ joinWith [','] (values.map String.toList)) : c = ',' ∨ c ∈ body := by
  rw [listed.1] at member
  rcases mem_join _ _ c member with comma | ⟨piece, among, inside⟩
  · exact .inl (by simpa using comma)
  · obtain ⟨raw, within, rfl⟩ := List.mem_map.mp among
    exact .inr (mem_split_on ',' c body raw within (mem_of_mem_trim _ _ inside)).1

theorem enum_render (body : List Char) (values : List String) (listed : EnumBody body values) :
    (BaseType.enum values).render = "enum(".toList ++ joinWith [','] ((splitOn ',' body).map trim) ++ [')'] := by
  rw [← listed.1]
  rfl

theorem member_render (entity field : String) (some : field ≠ "") :
    (BaseType.ref entity (Option.some field)).render = entity.toList ++ '.' :: field.toList := if_neg some

theorem name_not_blank (name : String) (named : isName name.toList = true) : name ≠ "" := by
  rintro rfl
  exact absurd named (by decide)

theorem base_text_render (names : List String) (text : List Char) (base : BaseType) (read : BaseText names text base) :
    BaseText names base.render base := by
  cases read with
  | scalar kind => exact .scalar kind
  | enum gap body values blank line listed =>
      refine .enum [] (joinWith [','] (values.map String.toList)) values blanks_nil ?_ (enum_body_render body values listed)
      intro member
      rcases enum_render_chars body values listed _ member with comma | inside
      · exact absurd comma (by decide)
      · exact line inside
  | entity name known named => exact .entity name known named
  | member name field before after known named fieldNamed blankBefore blankAfter =>
      rw [member_render name field (name_not_blank field fieldNamed)]
      have built := BaseText.member name field [] [] known named fieldNamed blanks_nil blanks_nil
      rwa [List.append_nil, List.append_assoc] at built

theorem type_text_render (names : List String) (text : List Char) (type : FieldType) (read : TypeText names text type) :
    TypeText names type.render type := by
  cases read with
  | one _ base read =>
      rw [FieldType.render, if_neg (by simp), List.append_nil]
      exact .one _ base (base_text_render names text base read)
  | many text gap base read blank =>
      rw [FieldType.render, if_pos rfl]
      have built := TypeText.many _ [] base (base_text_render names text base read) blanks_nil
      rwa [List.append_nil] at built

theorem base_render_chars (names : List String) (text : List Char) (base : BaseType) (read : BaseText names text base) :
    (∃ gap body values, text = "enum".toList ++ gap ++ '(' :: body ++ [')'] ∧ Blanks gap ∧ EnumBody body values ∧
      base = .enum values) ∨
    (∀ c ∈ base.render, isNameChar c = true ∨ c = '.') ∧
      ∀ c ∈ text, isNameChar c = true ∨ c = '.' ∨ isBlank c = true := by
  have letters : ∀ name : String, isName name.toList = true → ∀ c ∈ name.toList, isNameChar c = true :=
    fun name named => ((is_name_iff _).mp named).2
  cases read with
  | scalar kind =>
      have named := letters kind.token (token_is_name kind)
      exact .inr ⟨fun c member => .inl (named c member), fun c member => .inl (named c member)⟩
  | enum gap body values blank line listed => exact .inl ⟨gap, body, values, rfl, blank, listed, rfl⟩
  | entity name known named =>
      exact .inr ⟨fun c member => .inl (letters name named c member), fun c member => .inl (letters name named c member)⟩
  | member name field before after known named fieldNamed blankBefore blankAfter =>
      refine .inr ⟨?_, ?_⟩
      · intro c member
        rw [member_render name field (name_not_blank field fieldNamed)] at member
        rcases List.mem_append.mp member with here | there
        · exact .inl (letters name named c here)
        · rcases List.mem_cons.mp there with dot | there
          · exact .inr dot
          · exact .inl (letters field fieldNamed c there)
      · intro c member
        simp only [List.mem_append, List.mem_cons] at member
        rcases member with ((here | here) | here | here) | here
        · exact .inl (letters name named c here)
        · exact .inr (.inr (blankBefore c here))
        · exact .inr (.inl here)
        · exact .inr (.inr (blankAfter c here))
        · exact .inl (letters field fieldNamed c here)

-- What must not stand outside parentheses in a type: it would end the piece or begin a clause.
def fieldMarks : List Char := braces ++ ['@']

theorem word_absent (text : List Char) (words : ∀ c ∈ text, isNameChar c = true ∨ c = '.' ∨ isBlank c = true) (c : Char)
    (named : isNameChar c = false) (dot : c ≠ '.') (blank : isBlank c = false) : c ∉ text := by
  intro member
  rcases words c member with letter | same | space
  · exact absurd (named.symm.trans letter) Bool.false_ne_true
  · exact dot same
  · exact absurd (blank.symm.trans space) Bool.false_ne_true

theorem word_depth (text : List Char) (words : ∀ c ∈ text, isNameChar c = true ∨ c = '.' ∨ isBlank c = true) (depth : Nat) :
    depthOver depth text = depth :=
  depth_over_plain depth text (word_absent text words '(' (by decide) (by decide) (by decide))
    (word_absent text words ')' (by decide) (by decide) (by decide))

theorem word_sheltered (text : List Char) (words : ∀ c ∈ text, isNameChar c = true ∨ c = '.' ∨ isBlank c = true)
    (depth : Nat) : Sheltered fieldMarks depth text := by
  apply sheltered_absent
  intro c member mark
  simp only [fieldMarks, braces, List.cons_append, List.nil_append, List.mem_cons, List.not_mem_nil, or_false] at mark
  rcases mark with rfl | rfl | rfl <;> exact word_absent text words _ (by decide) (by decide) (by decide) member

theorem enum_opening (gap : List Char) (blank : Blanks gap) : depthOver 0 ("enum".toList ++ gap ++ ['(']) = 1 := by
  have word : depthOver 0 "enum".toList = 0 := by decide
  rw [depth_over_append, depth_over_append, word, depth_over_blanks 0 gap blank]
  rfl

theorem base_render_depth (names : List String) (text : List Char) (base : BaseType) (read : BaseText names text base) :
    depthOver 0 base.render = depthOver 0 text := by
  rcases base_render_chars names text base read with ⟨gap, body, values, rfl, blank, listed, rfl⟩ | ⟨written, words⟩
  · have opened : depthOver 0 "enum(".toList = 1 := by decide
    have whole : "enum".toList ++ gap ++ '(' :: body ++ [')'] = "enum".toList ++ gap ++ ['('] ++ body ++ [')'] := by simp
    rw [enum_render body values listed, whole]
    simp only [depth_over_append _ _ [')'], depth_over_append _ _ body, depth_over_append _ _ (joinWith _ _),
      enum_opening gap blank, opened, join_trim_depth, join_split_on]
  · rw [word_depth text words, word_depth base.render fun c member => (written c member).imp_right .inl]

theorem base_render_sheltered (names : List String) (text : List Char) (base : BaseType) (read : BaseText names text base)
    (sheltered : Sheltered fieldMarks 0 text) : Sheltered fieldMarks 0 base.render := by
  rcases base_render_chars names text base read with ⟨gap, body, values, rfl, blank, listed, rfl⟩ | ⟨written, -⟩
  · have whole : "enum".toList ++ gap ++ '(' :: body ++ [')'] = "enum".toList ++ gap ++ ['('] ++ body ++ [')'] := by simp
    rw [whole, sheltered_append, sheltered_append, enum_opening gap blank] at sheltered
    have inner := sheltered.1.2
    rw [← join_split_on ',' body] at inner
    rw [enum_render body values listed, sheltered_append, sheltered_append]
    exact ⟨⟨sheltered_literal _ _ _ (by decide), join_trim_sheltered fieldMarks 1 _ inner⟩, sheltered_literal _ _ _ (by decide)⟩
  · exact word_sheltered base.render (fun c member => (written c member).imp_right .inl) 0

theorem base_render_uncommented (names : List String) (text : List Char) (base : BaseType) (read : BaseText names text base)
    (spot other : Spot) (outside : spot.depth = 0) (start : other.depth = 0) (plain : Uncommented spot text) :
    Uncommented other base.render := by
  rcases base_render_chars names text base read with ⟨gap, body, values, rfl, blank, listed, rfl⟩ | ⟨written, -⟩
  · have whole : "enum".toList ++ gap ++ '(' :: body ++ [')'] = "enum".toList ++ gap ++ ['('] ++ (body ++ [')']) := by simp
    rw [whole] at plain
    have inner := (uncommented_append _ body _ (uncommented_append _ _ _ plain).2).1
    rw [← join_split_on ',' body] at inner
    have neutral : Neutral (spot.over ("enum".toList ++ gap ++ ['('])).last := by
      rw [over_append]
      exact parenthesis_neutral
    have depth : (spot.over ("enum".toList ++ gap ++ ['('])).depth = (other.over "enum(".toList).depth := by
      rw [over_depth, over_depth, outside, start, enum_opening gap blank]
      rfl
    have values := join_trim_uncommented _ _ _ depth neutral inner
    rw [enum_render body _ listed, List.append_assoc]
    have closed := uncommented_join _ _ [')'] values (uncommented_absent _ _ (by decide)) (by decide)
    exact uncommented_after other _ _ (by decide) closed
  · exact uncommented_absent other _ fun slash =>
      word_absent base.render (fun c member => (written c member).imp_right .inl) '/' (by decide) (by decide) (by decide) slash

theorem base_render_unbroken (names : List String) (text : List Char) (base : BaseType) (read : BaseText names text base)
    (unbroken : Unbroken text) : Unbroken base.render := by
  intro c member
  rcases base_render_chars names text base read with ⟨gap, body, values, rfl, blank, listed, rfl⟩ | ⟨written, -⟩
  · rw [enum_render body values listed, ← listed.1, List.mem_append, List.mem_append] at member
    rcases member with (word | inside) | closing
    · exact unbroken_literal _ (by decide) c word
    · rcases enum_render_chars body values listed c inside with rfl | here
      · decide
      · exact unbroken c (by simp [here])
    · obtain rfl : c = ')' := by simpa using closing
      decide
  · rcases written c member with named | rfl
    · exact name_char_unbroken c named
    · decide

theorem type_render_stands (names : List String) (text : List Char) (type : FieldType) (read : TypeText names text type)
    (spot : Spot) (outside : spot.depth = 0) (unbroken : Unbroken text) (plain : Uncommented spot text)
    (sheltered : Sheltered fieldMarks 0 text) :
    Unbroken type.render ∧ (∀ other : Spot, other.depth = 0 → Uncommented other type.render) ∧
      Sheltered fieldMarks 0 type.render ∧ depthOver 0 type.render = depthOver 0 text := by
  cases read with
  | one _ base read =>
      rw [FieldType.render, if_neg (by simp), List.append_nil]
      exact ⟨base_render_unbroken names text base read unbroken,
        fun other start => base_render_uncommented names text base read spot other outside start plain,
        base_render_sheltered names text base read sheltered, base_render_depth names text base read⟩
  | many text gap base read blank =>
      rw [FieldType.render, if_pos rfl]
      have whole : text ++ gap ++ ['[', ']'] = text ++ (gap ++ ['[', ']']) := by simp
      rw [whole] at unbroken plain sheltered ⊢
      have here : Unbroken text := fun c member => unbroken c (List.mem_append_left _ member)
      refine ⟨?_, ?_, ?_, ?_⟩
      · intro c member
        rcases List.mem_append.mp member with inside | mark
        · exact base_render_unbroken names text base read here c inside
        · exact unbroken_literal _ (by decide) c mark
      · intro other start
        have written := base_render_uncommented names text base read spot other outside start (uncommented_append _ _ _ plain).1
        exact uncommented_join other _ _ written (uncommented_absent _ _ (by decide)) (by decide)
      · rw [sheltered_append] at sheltered ⊢
        exact ⟨base_render_sheltered names text base read sheltered.1, sheltered_literal _ _ _ (by decide)⟩
      · have gone : ∀ depth, depthOver depth ['[', ']'] = depth := fun depth => rfl
        rw [depth_over_append, depth_over_append, depth_over_append, depth_over_blanks _ gap blank, gone, gone,
          base_render_depth names text base read]

end Schematic
