import Schematic.Proofs.Source.Coherence

set_option autoImplicit false

namespace Schematic

open Text

-- What the first pass has found at the end of some statements, and the marks that it gives to them.
def registered (statements : List Statement) : Headers := (markHeaders {} statements).1

def marksOf (statements : List Statement) : List Mark := (markHeaders {} statements).2

-- What the second pass has found at the end of some statements, where the entities of the whole text are known.
def readUpTo (known : List Entity) (statements : List Statement) : ReadState :=
  (marksOf statements).foldl ReadState.step { entities := known }

def declared (statements : List Statement) : ReadState := (readUpTo (registered statements).entities statements).reportOpen

-- What the statements of a text say: the entities that are left in the end, and the diagnostics of each stage in turn.
def readStatements (statements : List Statement) : List Entity × List Diagnostic :=
  ((checkReferences (declared statements).entities).1,
    (registered statements).errors ++ (declared statements).errors ++ (checkReferences (declared statements).entities).2)

def Plain (statement : Statement) : Prop := isHeader statement.text = false ∧ statement.text ≠ ['}']

-- A header that brings its entity into the graph: its name is free, and no header in front has it.
structure Introduces (before : List Statement) (header : Statement) (name : String) : Prop where
  written : HeaderText header.text name.toList
  free : name ∉ reservedNames
  first : ∀ other ∈ before, ¬ HeaderText other.text name.toList

-- A header that brings none: it is malformed, or its name is reserved, or a header in front has it.
inductive RejectedHeader (before : List Statement) (header : Statement) : Prop where
  | malformed (opens : isHeader header.text = true) (shapeless : ∀ name : String, ¬ HeaderText header.text name.toList)
  | reserved (name : String) (written : HeaderText header.text name.toList) (taken : name ∈ reservedNames)
  | repeated (name : String) (first : Statement) (written : HeaderText header.text name.toList) (among : first ∈ before)
      (same : HeaderText first.text name.toList)

-- A place in the block of a header: in front of it stand some statements, the header, and plain ones.
structure Inside (before front : List Statement) (header : Statement) (body : List Statement) : Prop where
  whole : before = front ++ header :: body
  opens : isHeader header.text = true
  plain : ∀ statement ∈ body, Plain statement

def Outside (before : List Statement) : Prop := ∀ front header body, ¬ Inside before front header body

theorem mark_headers_append (headers : Headers) (a b : List Statement) :
    markHeaders headers (a ++ b) =
      ((markHeaders (markHeaders headers a).1 b).1, (markHeaders headers a).2 ++ (markHeaders (markHeaders headers a).1 b).2) := by
  induction a generalizing headers with
  | nil => rfl
  | cons statement rest ih =>
      rw [List.cons_append]
      by_cases opens : isHeader statement.text = true
      · rw [mark_headers_header headers _ statement _ (rest ++ b) opens rfl, mark_headers_header headers _ statement _ rest opens rfl,
          ih]
        rfl
      · have plain : isHeader statement.text = false := by simpa using opens
        rw [mark_headers_other headers statement (rest ++ b) plain, mark_headers_other headers statement rest plain, ih]
        rfl

theorem coherent_none : Coherent [] := ⟨List.nodup_nil, by simp [Unreserved, entityNames], by simp⟩

theorem registered_coherent (statements : List Statement) : Coherent (registered statements).entities :=
  (mark_headers_coherent {} statements coherent_none (by simp)).1

theorem marks_statements (statements : List Statement) : (marksOf statements).map Mark.statement = statements :=
  (mark_headers_coherent {} statements coherent_none (by simp)).2

def brings (before : List Statement) (statement : Statement) : Option String :=
  if isHeader statement.text then ((registered before).register statement).2 else none

theorem marks_append (a b : List Statement) : marksOf (a ++ b) = marksOf a ++ (markHeaders (registered a) b).2 := by
  rw [marksOf, mark_headers_append]
  rfl

theorem marks_last (before : List Statement) (statement : Statement) :
    marksOf (before ++ [statement]) = marksOf before ++ [⟨statement, brings before statement⟩] := by
  rw [marks_append, brings]
  by_cases opens : isHeader statement.text = true
  · rw [mark_headers_header _ _ statement _ [] opens rfl, if_pos opens]
    rfl
  · rw [mark_headers_other _ statement [] (by simpa using opens), if_neg opens]
    rfl

theorem registered_last (before : List Statement) (statement : Statement) :
    registered (before ++ [statement]) =
      if isHeader statement.text then ((registered before).register statement).1 else registered before := by
  rw [registered, mark_headers_append]
  by_cases opens : isHeader statement.text = true
  · rw [mark_headers_header _ _ statement _ [] opens rfl, if_pos opens]
    rfl
  · rw [mark_headers_other _ statement [] (by simpa using opens), if_neg opens]
    rfl

theorem registered_cases (before : List Statement) (statement : Statement) :
    registered (before ++ [statement]) = registered before ∨
      (∃ problem, registered (before ++ [statement]) =
        ⟨(registered before).entities, (registered before).errors ++ [⟨statement.line, problem⟩]⟩) ∨
      ∃ name, registered (before ++ [statement]) =
        ⟨(registered before).entities ++ [⟨name, [], statement.line⟩], (registered before).errors⟩ := by
  rw [registered_last]
  by_cases opens : isHeader statement.text = true
  · rw [if_pos opens]
    rcases register_cases (registered before) statement with ⟨problem, refused⟩ | ⟨name, -, -, -, kept⟩
    · rw [refused]
      exact .inr (.inl ⟨problem, rfl⟩)
    · rw [kept]
      exact .inr (.inr ⟨name, rfl⟩)
  · rw [if_neg opens]
    exact .inl rfl

theorem read_last (known : List Entity) (before : List Statement) (statement : Statement) :
    readUpTo known (before ++ [statement]) = (readUpTo known before).step ⟨statement, brings before statement⟩ := by
  rw [readUpTo, marks_last, List.foldl_append]
  rfl

-- The entities known at a place are those of the headers in front of it that could bring one.
theorem registered_iff (before : List Statement) (name : String) :
    name ∈ entityNames (registered before).entities ↔
      name ∉ reservedNames ∧ ∃ header ∈ before, HeaderText header.text name.toList := by
  induction before using List.reverseRecOn with
  | nil => simp [registered, markHeaders, entityNames]
  | append_singleton before statement ih =>
      have either : (∃ header ∈ before ++ [statement], HeaderText header.text name.toList) ↔
          (∃ header ∈ before, HeaderText header.text name.toList) ∨ HeaderText statement.text name.toList := by
        simp [or_and_right, exists_or]
      rw [registered_last, either]
      by_cases opens : isHeader statement.text = true
      · rw [if_pos opens]
        rcases register_cases (registered before) statement with ⟨problem, refused⟩ | ⟨fresh, header, free, absent, kept⟩
        · rw [refused]
          refine ih.trans (and_congr_right fun free => (or_iff_left_of_imp fun text => ?_).symm)
          by_contra missing
          have complete := register_complete (registered before) statement name text free fun known => missing (ih.mp known).2
          rw [complete] at refused
          exact Option.some_ne_none name (congrArg Prod.snd refused)
        · have named : HeaderText statement.text name.toList ↔ name = fresh := by
            constructor
            · intro text
              have same := ((header_name_iff _ _).mpr text).symm.trans ((header_name_iff _ _).mpr header)
              exact String.toList_inj.mp (Option.some.inj same)
            · rintro rfl
              exact header
          have last : name ∈ entityNames [⟨fresh, [], statement.line⟩] ↔ name = fresh := by simp [entityNames]
          rw [kept, entity_names_append, List.mem_append, ih, named, last, and_or_left]
          refine or_congr_right ⟨fun same => ⟨same ▸ free, same⟩, And.right⟩
      · rw [if_neg opens, ih]
        have other : ¬ HeaderText statement.text name.toList := fun text => opens (header_text_opens _ _ text)
        rw [or_iff_left other]

theorem introduces_opens (before : List Statement) (header : Statement) (name : String)
    (introduces : Introduces before header name) : isHeader header.text = true :=
  header_text_opens _ _ introduces.written

theorem introduces_registers (before : List Statement) (header : Statement) (name : String)
    (introduces : Introduces before header name) :
    (registered before).register header =
      ({ registered before with entities := (registered before).entities ++ [⟨name, [], header.line⟩] }, some name) := by
  refine register_complete _ header name introduces.written introduces.free fun known => ?_
  obtain ⟨-, other, member, text⟩ := (registered_iff before name).mp known
  exact introduces.first other member text

theorem rejected_opens (before : List Statement) (header : Statement) (rejected : RejectedHeader before header) :
    isHeader header.text = true := by
  cases rejected with
  | malformed opens => exact opens
  | reserved name written => exact header_text_opens _ _ written
  | repeated name first written => exact header_text_opens _ _ written

theorem header_cases (before : List Statement) (header : Statement) (opens : isHeader header.text = true) :
    (∃ name, Introduces before header name) ∨ RejectedHeader before header := by
  by_cases shaped : ∃ name : String, HeaderText header.text name.toList
  · obtain ⟨name, written⟩ := shaped
    by_cases reserved : name ∈ reservedNames
    · exact .inr (.reserved name written reserved)
    · by_cases repeated : ∃ first ∈ before, HeaderText first.text name.toList
      · obtain ⟨first, among, same⟩ := repeated
        exact .inr (.repeated name first written among same)
      · exact .inl ⟨name, written, reserved, fun other member text => repeated ⟨other, member, text⟩⟩
  · exact .inr (.malformed opens fun name written => shaped ⟨name, written⟩)

theorem rejected_registers (before : List Statement) (header : Statement) (rejected : RejectedHeader before header) :
    ∃ problem, (registered before).register header =
      ({ registered before with errors := (registered before).errors ++ [⟨header.line, problem⟩] }, none) := by
  rcases register_cases (registered before) header with refused | ⟨name, written, free, fresh, -⟩
  · exact refused
  · have named : ∀ other : String, HeaderText header.text other.toList → other = name := fun other text =>
      String.toList_inj.mp (Option.some.inj (((header_name_iff _ _).mpr text).symm.trans ((header_name_iff _ _).mpr written)))
    exfalso
    cases rejected with
    | malformed opens shapeless => exact shapeless name written
    | reserved other text taken => exact free (named other text ▸ taken)
    | repeated other first text among same =>
        exact fresh ((registered_iff before name).mpr ⟨free, first, among, named other text ▸ same⟩)

theorem brings_introduced (before : List Statement) (header : Statement) (name : String)
    (introduces : Introduces before header name) : brings before header = some name := by
  rw [brings, if_pos (introduces_opens before header name introduces), introduces_registers before header name introduces]

theorem brings_rejected (before : List Statement) (header : Statement) (rejected : RejectedHeader before header) :
    brings before header = none := by
  obtain ⟨problem, refused⟩ := rejected_registers before header rejected
  rw [brings, if_pos (rejected_opens before header rejected), refused]

theorem brings_plain (before : List Statement) (statement : Statement) (plain : isHeader statement.text = false) :
    brings before statement = none := by
  rw [brings, plain]
  rfl

theorem report_open_entities (state : ReadState) : state.reportOpen.entities = state.entities := by
  rw [ReadState.reportOpen.eq_def]
  split <;> rfl

theorem step_plain_block (state : ReadState) (mark : Mark) (plain : Plain mark.statement) :
    (state.step mark).block = state.block := by
  by_cases colon : ':' ∈ mark.statement.text
  · rw [step_field state mark colon]
    split
    · rfl
    · rfl
    · rename_i owner _
      rcases read_field_cases state owner mark.statement colon with ⟨problem, read⟩ | ⟨field, problems, -, -, read⟩
      · rw [read]
        rfl
      · rw [read]
  · rw [step_other state mark plain.1 plain.2 colon]
    split <;> rfl

theorem block_inside (known : List Entity) (before front body : List Statement) (header : Statement)
    (inside : Inside before front header body) :
    (readUpTo known before).block = some ⟨header.line, brings front header⟩ := by
  obtain ⟨rfl, opens, plain⟩ := inside
  induction body using List.reverseRecOn with
  | nil => rw [read_last, step_header _ _ opens]
  | append_singleton body statement ih =>
      have whole : front ++ header :: (body ++ [statement]) = front ++ header :: body ++ [statement] := by simp
      rw [whole, read_last, step_plain_block _ _ (plain statement (by simp))]
      exact ih fun other member => plain other (by simp [member])

theorem block_cases (known : List Entity) (before : List Statement) :
    (readUpTo known before).block = none ∨ ∃ front header body, Inside before front header body := by
  induction before using List.reverseRecOn with
  | nil => exact .inl rfl
  | append_singleton before statement ih =>
      by_cases opens : isHeader statement.text = true
      · exact .inr ⟨before, statement, [], rfl, opens, by simp⟩
      · by_cases close : statement.text = ['}']
        · left
          rw [read_last, step_close _ _ close]
        · have plain : Plain statement := ⟨by simpa using opens, close⟩
          rcases ih with none | ⟨front, header, body, whole, here, others⟩
          · left
            rw [read_last, step_plain_block _ _ plain]
            exact none
          · refine .inr ⟨front, header, body ++ [statement], by simp [whole], here, fun other member => ?_⟩
            rcases List.mem_append.mp member with old | last
            · exact others other old
            · obtain rfl : other = statement := by simpa using last
              exact plain

theorem block_outside (known : List Entity) (before : List Statement) (outside : Outside before) :
    (readUpTo known before).block = none := by
  rcases block_cases known before with none | ⟨front, header, body, inside⟩
  · exact none
  · exact absurd inside (outside front header body)

theorem outside_closed (before : List Statement) (close : Statement) (closes : close.text = ['}']) :
    Outside (before ++ [close]) := by
  rintro front header body ⟨whole, opens, plain⟩
  rcases List.eq_nil_or_concat body with rfl | ⟨rest, last, rfl⟩
  · obtain ⟨-, same⟩ := List.append_inj' whole rfl
    rw [← List.singleton_inj.mp same, closes, brace_not_header] at opens
    exact nomatch opens
  · have parts : front ++ header :: (rest.concat last) = front ++ header :: rest ++ [last] := by simp
    obtain ⟨-, same⟩ := List.append_inj' (whole.trans parts) rfl
    exact (plain last (by simp)).2 (List.singleton_inj.mp same ▸ closes)

theorem step_thinned (state : ReadState) (mark : Mark) : Thinned state.entities (state.step mark).entities := by
  rcases step_entities state mark with same | ⟨owner, colon, same⟩
  · rw [same]
    exact thinned_refl _
  · rw [same]
    rcases read_field_cases state owner mark.statement colon with ⟨problem, read⟩ | ⟨field, problems, -, -, read⟩
    · rw [read]
      exact thinned_refl _
    · rw [read, Thinned, updateEntity, List.forall₂_map_right_iff, List.forall₂_same]
      intro entity _
      by_cases here : entity.name = owner
      · rw [if_pos here]
        exact ⟨rfl, rfl, List.sublist_append_left _ _⟩
      · rw [if_neg here]
        exact ⟨rfl, rfl, List.Sublist.refl _⟩

theorem fold_thinned (state : ReadState) (marks : List Mark) :
    Thinned state.entities (marks.foldl ReadState.step state).entities := by
  induction marks generalizing state with
  | nil => exact thinned_refl _
  | cons mark marks ih => exact thinned_trans _ _ _ (step_thinned state mark) (ih (state.step mark))

theorem declared_thinned (statements : List Statement) :
    Thinned (registered statements).entities (declared statements).entities := by
  rw [declared, report_open_entities]
  exact fold_thinned { entities := (registered statements).entities } (marksOf statements)

theorem declared_append (a b : List Statement) :
    declared (a ++ b) = (readUpTo (registered (a ++ b)).entities a).finish (markHeaders (registered a) b).2 := by
  rw [declared, readUpTo, marks_append, List.foldl_append]
  rfl

end Schematic
