import Schematic.Proofs.Source.Headers

set_option autoImplicit false

namespace Schematic

open Text

def EnumBody (body : List Char) (values : List String) : Prop :=
  values.map String.toList = (splitOn ',' body).map trim ∧ "" ∉ values ∧ values.Nodup

inductive BaseText (names : List String) : List Char → BaseType → Prop where
  | scalar (kind : ScalarKind) : BaseText names kind.token.toList (.scalar kind)
  | enum (gap body : List Char) (values : List String) (blank : Blanks gap) (line : '\n' ∉ body)
      (listed : EnumBody body values) :
      BaseText names ("enum".toList ++ gap ++ '(' :: body ++ [')']) (.enum values)
  | entity (name : String) (known : name ∈ names) (named : isName name.toList = true) :
      BaseText names name.toList (.ref name none)
  | member (name field : String) (before after : List Char) (known : name ∈ names)
      (named : isName name.toList = true) (fieldNamed : isName field.toList = true)
      (blankBefore : Blanks before) (blankAfter : Blanks after) :
      BaseText names (name.toList ++ before ++ '.' :: after ++ field.toList) (.ref name (some field))

-- A type expression: what stands for one value, and brackets where there may be many.
inductive TypeText (names : List String) : List Char → FieldType → Prop where
  | one (text : List Char) (base : BaseType) (read : BaseText names text base) : TypeText names text ⟨base, false⟩
  | many (text gap : List Char) (base : BaseType) (read : BaseText names text base) (blank : Blanks gap) :
      TypeText names (text ++ gap ++ ['[', ']']) ⟨base, true⟩

theorem scalar_token (kind : ScalarKind) : ScalarKind.ofToken? kind.token = some kind := by
  cases kind <;> rfl

theorem scalar_all (kind : ScalarKind) : kind ∈ ScalarKind.all := by
  cases kind <;> decide

theorem token_is_name (kind : ScalarKind) : isName kind.token.toList = true := by
  cases kind <;> decide

theorem scalar_found (token : String) (kind : ScalarKind) (found : ScalarKind.ofToken? token = some kind) :
    kind.token = token := by
  have same := List.find?_some found
  simpa using same

theorem unreserved_not_scalar (name : String) (free : name ∉ reservedNames) : ScalarKind.ofToken? name = none := by
  rw [ScalarKind.ofToken?, List.find?_eq_none]
  intro kind _ same
  apply free
  rw [reservedNames, List.mem_append]
  exact .inl (List.mem_map.mpr ⟨kind, scalar_all kind, by simpa using same⟩)

theorem first_repeated_none (seen values : List String) :
    firstRepeated? seen values = none ↔ values.Nodup ∧ ∀ value ∈ values, value ∉ seen := by
  induction values generalizing seen with
  | nil => simp [firstRepeated?]
  | cons value values ih =>
      by_cases repeated : value ∈ seen
      · simp [firstRepeated?, repeated]
      · rw [firstRepeated?, if_neg repeated, ih]
        simp only [List.mem_cons, not_or, List.nodup_cons, forall_eq_or_imp]
        constructor
        · rintro ⟨distinct, fresh⟩
          exact ⟨⟨fun later => (fresh value later).1 rfl, distinct⟩, repeated, fun other later => (fresh other later).2⟩
        · rintro ⟨⟨absent, distinct⟩, -, fresh⟩
          refine ⟨distinct, fun other later => ⟨?_, fresh other later⟩⟩
          rintro rfl
          exact absent later

theorem enum_values_iff (body : List Char) (values : List String) :
    enumValues body = .ok values ↔ EnumBody body values := by
  have texts : values.map String.toList = (splitOn ',' body).map trim ↔
      (splitOn ',' body).map (fun value => String.ofList (trim value)) = values := by
    constructor
    · intro same
      have back := congrArg (List.map String.ofList) same
      simpa [Function.comp_def] using back.symm
    · rintro rfl
      simp [Function.comp_def]
  rw [EnumBody, texts, enumValues]
  generalize (splitOn ',' body).map (fun value => String.ofList (trim value)) = read
  by_cases empty : read = [""]
  · simp only [empty, if_true]
    constructor
    · exact fun impossible => nomatch impossible
    · rintro ⟨rfl, blank, -⟩
      exact absurd List.mem_cons_self blank
  · by_cases blank : "" ∈ read
    · simp only [if_neg empty, if_pos blank]
      constructor
      · exact fun impossible => nomatch impossible
      · rintro ⟨rfl, absent, -⟩
        exact absurd blank absent
    · simp only [if_neg empty, if_neg blank]
      cases found : firstRepeated? [] read with
      | some value =>
          constructor
          · exact fun impossible => nomatch impossible
          · rintro ⟨rfl, -, distinct⟩
            rw [(first_repeated_none [] read).mpr ⟨distinct, by simp⟩] at found
            exact nomatch found
      | none =>
          have distinct := ((first_repeated_none [] read).mp found).1
          constructor
          · intro same
            cases same
            exact ⟨rfl, blank, distinct⟩
          · rintro ⟨rfl, -, -⟩
            rfl

theorem parenthesized_iff (text body : List Char) :
    parenthesized? text = some body ↔ text = '(' :: body ++ [')'] := by
  rw [parenthesized?.eq_def]
  split
  · rename_i rest
    by_cases closed : rest.getLast? = some ')'
    · rw [if_pos closed, Option.some.injEq]
      have parts := List.dropLast_append_getLast? ')' closed
      constructor
      · rintro rfl
        rw [List.cons_append, parts]
      · intro same
        have tail : rest = body ++ [')'] := by simpa using same
        rw [tail, List.dropLast_concat]
    · rw [if_neg closed]
      constructor
      · exact fun impossible => nomatch impossible
      · intro same
        have tail : rest = body ++ [')'] := by simpa using same
        simp [tail] at closed
  · rename_i other
    constructor
    · exact fun impossible => nomatch impossible
    · exact fun same => absurd same (other _)

theorem enum_body_iff (word body : List Char) (trimmed : trim word = word) :
    enumBody? word = some body ↔
      ∃ gap, Blanks gap ∧ '\n' ∉ body ∧ word = "enum".toList ++ gap ++ '(' :: body ++ [')'] := by
  constructor
  · intro read
    rw [enumBody?, Option.bind_eq_some_iff] at read
    obtain ⟨rest, found, read⟩ := read
    obtain ⟨gap, blank, start⟩ := trim_start_parts rest
    have whole := drop_prefix_some _ _ _ found
    have last : (trimStart rest).getLast? ≠ some '\n' := by
      intro last
      have ending := ((trimmed_iff word).mp trimmed).2 '\n'
      rw [whole, start, List.getLast?_append, List.getLast?_append, last] at ending
      exact absurd (ending (by simp)) (by decide)
    simp only [if_neg last, Option.filter_eq_some_iff] at read
    refine ⟨gap, blank, by simpa using read.2, ?_⟩
    rw [whole, start, (parenthesized_iff _ _).mp read.1]
    simp
  · rintro ⟨gap, blank, line, rfl⟩
    have start : trimStart (gap ++ '(' :: body ++ [')']) = '(' :: body ++ [')'] := by
      rw [List.append_assoc, trim_start_pad gap _ blank]
      exact List.dropWhile_cons_of_neg (by decide)
    have whole : "enum".toList ++ gap ++ '(' :: body ++ [')'] = "enum".toList ++ (gap ++ '(' :: body ++ [')']) := by
      simp
    have last : ('(' :: body ++ [')']).getLast? ≠ some '\n' := by
      rw [List.getLast?_append]
      simp
    rw [enumBody?, whole, drop_prefix_append, Option.bind_some]
    simp only [start, if_neg last, Option.filter_eq_some_iff]
    exact ⟨(parenthesized_iff _ _).mpr rfl, by simpa using line⟩

theorem name_not_enum (name : List Char) (named : isName name = true) : enumBody? name = none := by
  cases read : enumBody? name with
  | none => rfl
  | some body =>
      obtain ⟨gap, _, _, rfl⟩ := (enum_body_iff name body (name_trim name named)).mp read
      exact absurd (by simp) (name_absent _ '(' named (by decide))

theorem named_end_not_enum (front name : List Char) (trimmed : trim (front ++ name) = front ++ name)
    (named : isName name = true) : enumBody? (front ++ name) = none := by
  cases read : enumBody? (front ++ name) with
  | none => rfl
  | some body =>
      obtain ⟨gap, -, -, whole⟩ := (enum_body_iff _ body trimmed).mp read
      obtain ⟨nonempty, letters⟩ := (is_name_iff _).mp named
      have last : (front ++ name).getLast? = some (name.getLast nonempty) := by
        rw [List.getLast?_append, List.getLast?_eq_some_getLast nonempty]
        rfl
      rw [whole, List.getLast?_concat, Option.some.injEq] at last
      have closing := letters _ (List.getLast_mem nonempty)
      rw [← last] at closing
      exact absurd closing (by decide)

theorem split_member (base before after field : List Char) (named : isName base = true) (fieldNamed : isName field = true)
    (blankBefore : Blanks before) (blankAfter : Blanks after) :
    splitOn '.' (base ++ before ++ '.' :: after ++ field) = [base ++ before, after ++ field] := by
  have dotless : ∀ blank : List Char, Blanks blank → '.' ∉ blank := by
    intro blank blanks member
    exact absurd (blanks '.' member) (by decide)
  have left : '.' ∉ base ++ before := by
    rw [List.mem_append, not_or]
    exact ⟨name_absent _ '.' named (by decide), dotless before blankBefore⟩
  have right : '.' ∉ after ++ field := by
    rw [List.mem_append, not_or]
    exact ⟨dotless after blankAfter, name_absent _ '.' fieldNamed (by decide)⟩
  rw [List.append_assoc, List.cons_append, split_on_append '.' _ _ left, split_on_absent '.' _ right]

theorem classify_name (names : List String) (name : String) (field : Option String) (isArray : Bool)
    (named : isName name.toList = true) :
    classify names name.toList field isArray =
      match ScalarKind.ofToken? name with
      | some kind => if field.isSome then .error (.scalarQualified name) else .ok ⟨.scalar kind, isArray⟩
      | none => if name ∈ names then .ok ⟨.ref name field, isArray⟩ else .error (.unknown name) := by
  rw [classify, name_not_enum _ named]
  cases found : ScalarKind.ofToken? name with
  | some kind => simp only [String.ofList_toList, found]
  | none => simp only [String.ofList_toList, found]

theorem split_array_mark_plain (text : List Char) (last : text.getLast? ≠ some ']') :
    splitArrayMark text = (text, false) := by
  rw [splitArrayMark, if_neg]
  intro marked
  obtain ⟨rest, same⟩ := List.isSuffixOf_iff_suffix.mp marked
  rw [← same, List.getLast?_append] at last
  exact last rfl

theorem split_array_mark_marked (text : List Char) :
    splitArrayMark (text ++ ['[', ']']) = (trim text, true) := by
  have marked : "[]".toList.isSuffixOf (text ++ ['[', ']']) = true :=
    List.isSuffixOf_iff_suffix.mpr ⟨text, rfl⟩
  rw [splitArrayMark, if_pos marked]
  simp

theorem split_array_mark_cases (text : List Char) :
    splitArrayMark text = (text, false) ∨
      ∃ rest, text = rest ++ ['[', ']'] ∧ splitArrayMark text = (trim rest, true) := by
  by_cases marked : "[]".toList.isSuffixOf text = true
  · obtain ⟨rest, rfl⟩ := List.isSuffixOf_iff_suffix.mp marked
    exact .inr ⟨rest, rfl, split_array_mark_marked rest⟩
  · exact .inl (by rw [splitArrayMark, if_neg marked])

def wordType (names : List String) (word : List Char) (isArray : Bool) : Except TypeFault FieldType :=
  if (enumBody? word).isSome then classify names word none isArray
  else
    match splitOn '.' word with
    | [base] =>
        if isName (trim base) then classify names (trim base) none isArray
        else .error (.unknown (String.ofList (trim base)))
    | [base, field] =>
        if !isName (trim field) then .error (.badQualifier (String.ofList word) (String.ofList (trim field)))
        else if !isName (trim base) then .error (.unknown (String.ofList (trim base)))
        else classify names (trim base) (some (String.ofList (trim field))) isArray
    | _ => .error (.tooManyParts (String.ofList word))

theorem resolve_type_eq (names : List String) (expression : List Char) :
    resolveType names expression =
      if trim expression = [] then .error .missing
      else wordType names (splitArrayMark (trim expression)).1 (splitArrayMark (trim expression)).2 := rfl

theorem base_text_ends (names : List String) (text : List Char) (base : BaseType) (read : BaseText names text base) :
    (∃ c, text.head? = some c ∧ isBlank c = false) ∧
      ∃ c, text.getLast? = some c ∧ isBlank c = false ∧ c ≠ ']' := by
  have name_ends : ∀ name : List Char, isName name = true →
      (∃ c, name.head? = some c ∧ isNameChar c = true) ∧ ∃ c, name.getLast? = some c ∧ isNameChar c = true := by
    intro name named
    obtain ⟨some, letters⟩ := (is_name_iff name).mp named
    exact ⟨⟨_, List.head?_eq_some_head some, letters _ (List.head_mem some)⟩,
      ⟨_, List.getLast?_eq_some_getLast some, letters _ (List.getLast_mem some)⟩⟩
  have solid : ∀ c, isNameChar c = true → isBlank c = false ∧ c ≠ ']' := by
    intro c named
    refine ⟨name_char_solid c named, ?_⟩
    rintro rfl
    exact absurd named (by decide)
  cases read with
  | scalar kind =>
      obtain ⟨⟨c, first, cNamed⟩, d, last, dNamed⟩ := name_ends _ (token_is_name kind)
      exact ⟨⟨c, first, (solid c cNamed).1⟩, d, last, solid d dNamed⟩
  | enum gap body values blank line listed =>
      exact ⟨⟨'e', rfl, by decide⟩, ')', by rw [List.getLast?_append]; rfl, by decide, by decide⟩
  | entity name known named =>
      obtain ⟨⟨c, first, cNamed⟩, d, last, dNamed⟩ := name_ends _ named
      exact ⟨⟨c, first, (solid c cNamed).1⟩, d, last, solid d dNamed⟩
  | member name field before after known named fieldNamed blankBefore blankAfter =>
      obtain ⟨⟨c, first, cNamed⟩, -⟩ := name_ends _ named
      obtain ⟨-, d, last, dNamed⟩ := name_ends _ fieldNamed
      refine ⟨⟨c, ?_, (solid c cNamed).1⟩, d, ?_, solid d dNamed⟩
      · simp [first]
      · rw [List.getLast?_append, last]
        rfl

theorem base_text_trim (names : List String) (text : List Char) (base : BaseType) (read : BaseText names text base) :
    trim text = text := by
  obtain ⟨first, c, last, solid, -⟩ := base_text_ends names text base read
  exact ends_trim text first ⟨c, last, solid⟩

theorem type_text_ends (names : List String) (text : List Char) (type : FieldType) (read : TypeText names text type) :
    (∃ c, text.head? = some c ∧ isBlank c = false) ∧ ∃ c, text.getLast? = some c ∧ isBlank c = false := by
  cases read with
  | one text base read =>
      obtain ⟨first, c, last, solid, -⟩ := base_text_ends names text base read
      exact ⟨first, c, last, solid⟩
  | many text gap base read blank =>
      obtain ⟨⟨c, first, solid⟩, -⟩ := base_text_ends names text base read
      refine ⟨⟨c, ?_, solid⟩, ']', ?_, by decide⟩
      · rw [List.append_assoc, List.head?_append, first]
        rfl
      · rw [List.getLast?_append]
        rfl

theorem type_text_trim (names : List String) (text : List Char) (type : FieldType) (read : TypeText names text type) :
    trim text = text :=
  ends_trim text (type_text_ends names text type read).1 (type_text_ends names text type read).2

theorem classify_name_sound (names : List String) (name : String) (isArray : Bool) (type : FieldType)
    (named : isName name.toList = true) (read : classify names name.toList none isArray = .ok type) :
    ∃ base, BaseText names name.toList base ∧ type = ⟨base, isArray⟩ := by
  rw [classify_name names name none isArray named] at read
  cases found : ScalarKind.ofToken? name with
  | some kind =>
      simp only [found, Option.isSome_none, Bool.false_eq_true, if_false, Except.ok.injEq] at read
      rw [← scalar_found name kind found]
      exact ⟨.scalar kind, .scalar kind, read.symm⟩
  | none =>
      by_cases known : name ∈ names
      · simp only [found, if_pos known, Except.ok.injEq] at read
        exact ⟨.ref name none, .entity name known named, read.symm⟩
      · simp [found, known] at read

theorem classify_member_sound (names : List String) (name field : String) (isArray : Bool) (type : FieldType)
    (named : isName name.toList = true) (read : classify names name.toList (some field) isArray = .ok type) :
    name ∈ names ∧ type = ⟨.ref name (some field), isArray⟩ := by
  rw [classify_name names name (some field) isArray named] at read
  cases found : ScalarKind.ofToken? name with
  | some kind => simp [found] at read
  | none =>
      by_cases known : name ∈ names
      · simp only [found, if_pos known, Except.ok.injEq] at read
        exact ⟨known, read.symm⟩
      · simp [found, known] at read

-- The blanks around the dot are what trimming the two parts takes away.
theorem member_text (names : List String) (base field : List Char)
    (trimmed : trim (base ++ '.' :: field) = base ++ '.' :: field) (named : isName (trim base) = true)
    (fieldNamed : isName (trim field) = true) (known : String.ofList (trim base) ∈ names) :
    BaseText names (base ++ '.' :: field) (.ref (String.ofList (trim base)) (some (String.ofList (trim field)))) := by
  have back : (String.ofList (trim base)).toList = trim base := String.toList_ofList
  have fieldBack : (String.ofList (trim field)).toList = trim field := String.toList_ofList
  have ends := (trimmed_iff _).mp trimmed
  obtain ⟨before, blankBefore, basePart⟩ := trim_after base fun c first => ends.1 c (by
    rw [List.head?_append, first]
    rfl)
  obtain ⟨after, blankAfter, fieldPart⟩ := trim_before field fun c last => ends.2 c (by
    rw [List.getLast?_append, List.getLast?_cons, last]
    rfl)
  have built := @BaseText.member names (String.ofList (trim base)) (String.ofList (trim field))
    before after known (by rw [back]; exact named) (by rw [fieldBack]; exact fieldNamed) blankBefore blankAfter
  rw [back, fieldBack, ← basePart, List.append_assoc, List.cons_append, ← fieldPart] at built
  exact built

theorem word_type_sound (names : List String) (word : List Char) (isArray : Bool) (type : FieldType)
    (trimmed : trim word = word) (read : wordType names word isArray = .ok type) :
    ∃ base, BaseText names word base ∧ type = ⟨base, isArray⟩ := by
  rw [wordType] at read
  cases found : enumBody? word with
  | some body =>
      obtain ⟨gap, blank, line, whole⟩ := (enum_body_iff word body trimmed).mp found
      simp only [found, Option.isSome_some, if_true, classify, Option.isSome_none, Bool.false_eq_true, if_false] at read
      cases listed : enumValues body with
      | error fault => simp [listed, Except.map] at read
      | ok values =>
          simp only [listed, Except.map, Except.ok.injEq] at read
          refine ⟨.enum values, ?_, read.symm⟩
          rw [whole]
          exact .enum gap body values blank line ((enum_values_iff body values).mp listed)
  | none =>
      simp only [found, Option.isSome_none, Bool.false_eq_true, if_false] at read
      have joined := join_split_on '.' word
      split at read
      · rename_i base pieces
        rw [pieces] at joined
        obtain rfl : base = word := joined
        rw [trimmed] at read
        by_cases named : isName base = true
        · simp only [named, if_true] at read
          have back : (String.ofList base).toList = base := String.toList_ofList
          have sound := classify_name_sound names (String.ofList base) isArray type
          rw [back] at sound
          exact sound named read
        · simp [named] at read
      · rename_i base field pieces
        rw [pieces] at joined
        obtain rfl : base ++ '.' :: field = word := by simpa [joinWith] using joined
        by_cases fieldNamed : isName (trim field) = true
        · by_cases named : isName (trim base) = true
          · simp only [fieldNamed, named, Bool.not_true, Bool.false_eq_true, if_false] at read
            have back : (String.ofList (trim base)).toList = trim base := String.toList_ofList
            have sound := classify_member_sound names (String.ofList (trim base)) (String.ofList (trim field)) isArray type
            rw [back] at sound
            obtain ⟨known, same⟩ := sound named read
            exact ⟨_, member_text names base field trimmed named fieldNamed known, same⟩
          · simp [fieldNamed, named] at read
        · simp [fieldNamed] at read
      · simp at read

theorem word_type_complete (names : List String) (word : List Char) (base : BaseType) (isArray : Bool)
    (free : Unreserved names) (read : BaseText names word base) : wordType names word isArray = .ok ⟨base, isArray⟩ := by
  have trimmed := base_text_trim names word base read
  cases read with
  | scalar kind =>
      have named := token_is_name kind
      rw [wordType, name_not_enum _ named, split_on_absent '.' _ (name_absent _ '.' named (by decide))]
      simp only [trimmed, named, if_true, Option.isSome_none, Bool.false_eq_true, if_false]
      rw [classify_name names kind.token none isArray named, scalar_token]
      rfl
  | enum gap body values blank line listed =>
      have found := (enum_body_iff _ body trimmed).mpr ⟨gap, blank, line, rfl⟩
      rw [wordType, if_pos (by rw [found]; rfl), classify, found]
      simp only [Option.isSome_none, Bool.false_eq_true, if_false]
      rw [(enum_values_iff body values).mpr listed]
      rfl
  | entity name known named =>
      rw [wordType, name_not_enum _ named, split_on_absent '.' _ (name_absent _ '.' named (by decide))]
      simp only [trimmed, named, if_true, Option.isSome_none, Bool.false_eq_true, if_false]
      rw [classify_name names name none isArray named, unreserved_not_scalar name (free name known)]
      simp only [if_pos known]
  | member name field before after known named fieldNamed blankBefore blankAfter =>
      have baseTrim : trim (name.toList ++ before) = name.toList := by
        have padded := trim_pad [] name.toList before blanks_nil blankBefore
        rwa [List.nil_append, name_trim _ named] at padded
      have fieldTrim : trim (after ++ field.toList) = field.toList := by
        have padded := trim_pad after field.toList [] blankAfter blanks_nil
        rwa [List.append_nil, name_trim _ fieldNamed] at padded
      rw [wordType, named_end_not_enum _ field.toList trimmed fieldNamed,
        split_member name.toList before after field.toList named fieldNamed blankBefore blankAfter]
      simp only [baseTrim, fieldTrim, named, fieldNamed, Option.isSome_none, Bool.false_eq_true, if_false, Bool.not_true,
        String.ofList_toList]
      rw [classify_name names name (some field) isArray named, unreserved_not_scalar name (free name known)]
      simp only [if_pos known]

theorem resolve_type_sound (names : List String) (expression : List Char) (type : FieldType)
    (read : resolveType names expression = .ok type) : TypeText names (trim expression) type := by
  rw [resolve_type_eq] at read
  by_cases empty : trim expression = []
  · simp [empty] at read
  · rw [if_neg empty] at read
    rcases split_array_mark_cases (trim expression) with plain | ⟨rest, whole, marked⟩
    · rw [plain] at read
      obtain ⟨base, text, rfl⟩ := word_type_sound names _ false type (trim_trim expression) read
      exact .one _ base text
    · rw [marked] at read
      obtain ⟨base, text, rfl⟩ := word_type_sound names _ true type (trim_trim rest) read
      obtain ⟨⟨c, first, _⟩, -⟩ := base_text_ends names _ base text
      have ends := ((trimmed_iff _).mp (trim_trim expression)).1
      have solid : ∀ d, rest.head? = some d → isBlank d = false := by
        intro d here
        exact ends d (by rw [whole, List.head?_append, here]; rfl)
      obtain ⟨gap, blank, same⟩ := trim_after rest solid
      rw [whole, same]
      exact .many _ gap base text blank

theorem resolve_type_complete (names : List String) (expression : List Char) (type : FieldType)
    (free : Unreserved names) (text : TypeText names (trim expression) type) :
    resolveType names expression = .ok type := by
  rw [resolve_type_eq]
  generalize trim expression = word at text
  cases text with
  | one word base read =>
      obtain ⟨⟨c, first, -⟩, d, last, -, other⟩ := base_text_ends names word base read
      have some : word ≠ [] := by
        rintro rfl
        simp at first
      have plain : word.getLast? ≠ Option.some ']' := by
        intro bracket
        rw [last] at bracket
        exact other (Option.some.inj bracket)
      rw [if_neg some, split_array_mark_plain word plain]
      exact word_type_complete names word base false free read
  | many word gap base read blank =>
      have some : word ++ gap ++ ['[', ']'] ≠ [] := by simp
      have same : trim (word ++ gap) = word := by
        have padded := trim_pad [] word gap blanks_nil blank
        rwa [List.nil_append, base_text_trim names word base read] at padded
      rw [if_neg some, split_array_mark_marked, same]
      exact word_type_complete names word base true free read

end Schematic
