import Schematic.Proofs.Graph.Entities
import Schematic.Proofs.Source.Names

set_option autoImplicit false

namespace Schematic

open Text

def HeaderText (text name : List Char) : Prop :=
  ∃ gap space, gap ≠ [] ∧ Blanks gap ∧ Blanks space ∧ isName name = true ∧
    text = "entity".toList ++ gap ++ name ++ space ++ ['{']

theorem header_name_iff (text name : List Char) : headerName? text = some name ↔ HeaderText text name := by
  constructor
  · intro read
    rw [headerName?] at read
    split at read
    · rename_i c rest found
      by_cases blank : isBlank c
      · simp only [blank, if_true] at read
        split at read
        · rename_i whole
          simp only [Bool.and_eq_true, decide_eq_true_eq, ne_eq] at whole
          obtain ⟨a, before, start⟩ := trim_start_parts rest
          obtain ⟨space, after, tail⟩ := trim_start_parts ((trimStart rest).dropWhile isNameChar)
          rw [whole.2] at tail
          refine ⟨c :: a, space, by simp, (blanks_cons c a).mpr ⟨blank, before⟩, after, ?_, ?_⟩
          · rw [← Option.some.inj read, is_name_iff]
            exact ⟨whole.1, fun d member => List.mem_takeWhile_imp member⟩
          · rw [drop_prefix_some _ _ _ found, ← Option.some.inj read]
            conv_lhs => rw [start, ← List.takeWhile_append_dropWhile (p := isNameChar) (l := trimStart rest), tail]
            simp
        · simp at read
      · simp [blank] at read
    · simp at read
  · rintro ⟨gap, space, some, before, after, named, rfl⟩
    obtain ⟨c, rest, rfl⟩ := List.exists_cons_of_ne_nil some
    obtain ⟨blank, before⟩ := (blanks_cons c rest).mp before
    have letters := (is_name_iff name).mp named
    have start : trimStart (rest ++ (name ++ (space ++ ['{']))) = name ++ (space ++ ['{']) := by
      rw [trim_start_pad rest _ before, trimStart]
      obtain ⟨d, tail, rfl⟩ := List.exists_cons_of_ne_nil letters.1
      exact List.dropWhile_cons_of_neg (by simp [name_char_solid d (letters.2 d List.mem_cons_self)])
    have stop : ∀ d, (space ++ ['{']).head? = Option.some d → isNameChar d = false := by
      intro d first
      cases space with
      | nil =>
          obtain rfl : '{' = d := by simpa using first
          decide
      | cons e space =>
          obtain rfl : e = d := by simpa using first
          exact blank_not_name e (after e List.mem_cons_self)
    have pieces := take_letters isNameChar name (space ++ ['{']) letters.2 stop
    have final : trimStart (space ++ ['{']) = ['{'] := trim_start_pad space ['{'] after
    have whole : "entity".toList ++ c :: rest ++ name ++ space ++ ['{'] =
        "entity".toList ++ c :: (rest ++ (name ++ (space ++ ['{']))) := by simp
    rw [headerName?, whole, drop_prefix_append]
    simp only [blank, if_true]
    rw [start, pieces.1, pieces.2, final]
    simp [letters.1]

def Unreserved (names : List String) : Prop := ∀ name ∈ names, name ∉ reservedNames

theorem header_text_plain (text name : List Char) (header : HeaderText text name) : ':' ∉ text := by
  obtain ⟨gap, space, -, blankGap, blankSpace, named, rfl⟩ := header
  have solid : ∀ blank : List Char, Blanks blank → ':' ∉ blank := by
    intro blank blanks member
    exact absurd (blanks ':' member) (by decide)
  simp only [List.mem_append, not_or]
  exact ⟨⟨⟨⟨by decide, solid gap blankGap⟩, name_absent name ':' named (by decide)⟩, solid space blankSpace⟩, by decide⟩

theorem header_text_opens (text name : List Char) (header : HeaderText text name) : isHeader text = true := by
  have plain := header_text_plain text name header
  obtain ⟨gap, space, some, blank, -, -, rfl⟩ := header
  obtain ⟨c, rest, rfl⟩ := List.exists_cons_of_ne_nil some
  have whole : "entity".toList ++ c :: rest ++ name ++ space ++ ['{'] =
      "entity".toList ++ c :: (rest ++ name ++ space ++ ['{']) := by simp
  rw [whole] at plain ⊢
  rw [isHeader, drop_prefix_append]
  simp only [blank c List.mem_cons_self, Bool.true_or, Bool.true_and]
  simpa using plain

theorem colon_not_header (text : List Char) (colon : ':' ∈ text) : isHeader text = false := by
  rw [isHeader]
  split
  · rename_i found
    rw [drop_prefix_some _ _ _ found] at colon
    exact absurd colon (by decide)
  · simp [colon]
  · rfl

theorem brace_not_header : isHeader ['}'] = false := by decide

theorem register_cases (headers : Headers) (statement : Statement) :
    (∃ problem, headers.register statement =
      ({ headers with errors := headers.errors ++ [⟨statement.line, problem⟩] }, none)) ∨
      ∃ name, HeaderText statement.text name.toList ∧ name ∉ reservedNames ∧ name ∉ entityNames headers.entities ∧
        headers.register statement =
          ({ headers with entities := headers.entities ++ [⟨name, [], statement.line⟩] }, some name) := by
  rw [Headers.register]
  cases read : headerName? statement.text with
  | none => exact .inl ⟨_, rfl⟩
  | some name =>
      have back : (String.ofList name).toList = name := String.toList_ofList
      by_cases reserved : String.ofList name ∈ reservedNames
      · simp only [if_pos reserved]
        exact .inl ⟨_, rfl⟩
      · simp only [if_neg reserved]
        cases found : entity? headers.entities (String.ofList name) with
        | some first => exact .inl ⟨_, rfl⟩
        | none =>
            exact .inr ⟨String.ofList name, by rw [back]; exact (header_name_iff _ _).mp read, reserved,
              (entity_missing _ _).mp found, rfl⟩

theorem register_complete (headers : Headers) (statement : Statement) (name : String)
    (header : HeaderText statement.text name.toList) (free : name ∉ reservedNames)
    (fresh : name ∉ entityNames headers.entities) :
    headers.register statement =
      ({ headers with entities := headers.entities ++ [⟨name, [], statement.line⟩] }, some name) := by
  rw [Headers.register, (header_name_iff _ _).mpr header]
  simp only [String.ofList_toList, if_neg free, (entity_missing _ _).mpr fresh]

inductive Marked : List Mark → List Entity → Prop where
  | nil : Marked [] []
  | header (statement : Statement) (name : String) (marks : List Mark) (entities : List Entity)
      (opens : HeaderText statement.text name.toList) (rest : Marked marks entities) :
      Marked (⟨statement, some name⟩ :: marks) (⟨name, [], statement.line⟩ :: entities)
  | other (statement : Statement) (marks : List Mark) (entities : List Entity)
      (plain : isHeader statement.text = false) (rest : Marked marks entities) :
      Marked (⟨statement, none⟩ :: marks) entities

theorem mark_headers_other (headers : Headers) (statement : Statement) (rest : List Statement)
    (plain : isHeader statement.text = false) :
    markHeaders headers (statement :: rest) =
      ((markHeaders headers rest).1, ⟨statement, none⟩ :: (markHeaders headers rest).2) := by
  rw [markHeaders]
  simp [plain]

theorem mark_headers_header (headers next : Headers) (statement : Statement) (name : Option String)
    (rest : List Statement) (opens : isHeader statement.text = true)
    (registered : headers.register statement = (next, name)) :
    markHeaders headers (statement :: rest) =
      ((markHeaders next rest).1, ⟨statement, name⟩ :: (markHeaders next rest).2) := by
  rw [markHeaders]
  simp [opens, registered]

theorem mark_headers_grow (headers : Headers) (statements : List Statement) :
    ∃ more, (markHeaders headers statements).1.errors = headers.errors ++ more := by
  induction statements generalizing headers with
  | nil => exact ⟨[], by simp [markHeaders]⟩
  | cons statement rest ih =>
      by_cases opens : isHeader statement.text = true
      · rcases register_cases headers statement with ⟨problem, registered⟩ | ⟨name, -, -, -, registered⟩
        · obtain ⟨more, later⟩ := ih { headers with errors := headers.errors ++ [⟨statement.line, problem⟩] }
          rw [mark_headers_header headers _ statement _ rest opens registered, later]
          exact ⟨⟨statement.line, problem⟩ :: more, by simp⟩
        · obtain ⟨more, later⟩ := ih { headers with entities := headers.entities ++ [⟨name, [], statement.line⟩] }
          rw [mark_headers_header headers _ statement _ rest opens registered]
          exact ⟨more, later⟩
      · obtain ⟨more, later⟩ := ih headers
        rw [mark_headers_other headers statement rest (by simpa using opens)]
        exact ⟨more, later⟩

theorem mark_headers_sound (headers : Headers) (statements : List Statement)
    (distinct : (entityNames headers.entities).Nodup)
    (clean : (markHeaders headers statements).1.errors = headers.errors) :
    ∃ fresh, (markHeaders headers statements).1.entities = headers.entities ++ fresh ∧
      Marked (markHeaders headers statements).2 fresh ∧
      (markHeaders headers statements).2.map Mark.statement = statements ∧
      (entityNames (headers.entities ++ fresh)).Nodup ∧ Unreserved (entityNames fresh) := by
  induction statements generalizing headers with
  | nil => exact ⟨[], by simp [markHeaders], .nil, rfl, by simpa using distinct, by simp [Unreserved, entityNames]⟩
  | cons statement rest ih =>
      by_cases opens : isHeader statement.text = true
      · rcases register_cases headers statement with ⟨problem, registered⟩ | ⟨name, header, free, fresh, registered⟩
        · obtain ⟨more, later⟩ :=
            mark_headers_grow { headers with errors := headers.errors ++ [⟨statement.line, problem⟩] } rest
          rw [mark_headers_header headers _ statement _ rest opens registered, later] at clean
          simp at clean
        · rw [mark_headers_header headers _ statement _ rest opens registered] at clean ⊢
          have extended : (entityNames (headers.entities ++ [⟨name, [], statement.line⟩])).Nodup := by
            rw [entity_names_append]
            exact nodup_append_one _ name distinct fresh
          obtain ⟨others, entities, marked, same, nodup, unreserved⟩ := ih _ extended clean
          refine ⟨⟨name, [], statement.line⟩ :: others, by rw [entities]; simp, .header statement name _ _ header marked,
            by simp [same], by simpa using nodup, ?_⟩
          intro other member
          rcases List.mem_cons.mp member with rfl | later
          · exact free
          · exact unreserved other later
      · have plain : isHeader statement.text = false := by simpa using opens
        rw [mark_headers_other headers statement rest plain] at clean ⊢
        obtain ⟨fresh, entities, marked, same, nodup, unreserved⟩ := ih headers distinct clean
        exact ⟨fresh, entities, .other statement _ _ plain marked, by simp [same], nodup, unreserved⟩

theorem mark_headers_complete (headers : Headers) (marks : List Mark) (fresh : List Entity) (marked : Marked marks fresh)
    (distinct : (entityNames (headers.entities ++ fresh)).Nodup) (free : Unreserved (entityNames fresh)) :
    markHeaders headers (marks.map Mark.statement) =
      ({ headers with entities := headers.entities ++ fresh }, marks) := by
  induction marked generalizing headers with
  | nil => simp [markHeaders]
  | header statement name marks entities opens _ ih =>
      have here : name ∉ entityNames headers.entities := by
        rw [entity_names_append, List.nodup_append] at distinct
        exact fun member => distinct.2.2 name member name List.mem_cons_self rfl
      have registered := register_complete headers statement name opens (free name List.mem_cons_self) here
      have later := ih { headers with entities := headers.entities ++ [⟨name, [], statement.line⟩] }
        (by simpa using distinct) fun other member => free other (List.mem_cons_of_mem _ member)
      rw [List.map_cons, mark_headers_header headers _ statement _ _ (header_text_opens _ _ opens) registered, later]
      simp
  | other statement marks entities plain _ ih =>
      rw [List.map_cons, mark_headers_other headers statement _ plain, ih headers distinct free]

end Schematic
