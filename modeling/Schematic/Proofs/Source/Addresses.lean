import Schematic.Proofs.Source.Defaults

set_option autoImplicit false

namespace Schematic

open Text

structure SlashRun (value before after : List Char) (count : Nat) : Prop where
  whole : value = before ++ List.replicate count '/' ++ after
  starts : before.getLast? ≠ some '/'
  ends : after.head? ≠ some '/'
  outside : depthOver 0 before = 0

-- Slashes stand together only behind the name of a scheme and its colon.
def AddressRuns (value : List Char) : Prop :=
  ∀ before after count, SlashRun value before after count → 2 ≤ count →
    ∃ front c, before = front ++ [c, ':'] ∧ isAlphanumeric c = true

def Spot.assigning : Spot := ⟨0, 't', '='⟩

theorem slashes_behind (text : List Char) :
    ∃ front count, text = front ++ List.replicate count '/' ∧ front.getLast? ≠ some '/' := by
  induction text using List.reverseRecOn with
  | nil => exact ⟨[], 0, rfl, by simp⟩
  | append_singleton text c ih =>
      obtain ⟨front, count, rfl, apart⟩ := ih
      by_cases slash : c = '/'
      · exact ⟨front, count + 1, by rw [slash, List.replicate_succ', List.append_assoc], apart⟩
      · exact ⟨front ++ List.replicate count '/' ++ [c], 0, by simp, by simpa using slash⟩

theorem slashes_ahead (text : List Char) :
    ∃ count rest, text = List.replicate count '/' ++ rest ∧ rest.head? ≠ some '/' := by
  induction text with
  | nil => exact ⟨0, [], rfl, by simp⟩
  | cons c text ih =>
      by_cases slash : c = '/'
      · obtain ⟨count, rest, rfl, apart⟩ := ih
        exact ⟨count + 1, rest, by rw [slash]; rfl, apart⟩
      · exact ⟨0, c :: text, rfl, by simpa using slash⟩

theorem slashes_depth (depth count : Nat) : depthOver depth (List.replicate count '/') = depth :=
  depth_over_plain depth _ (by simp [List.mem_replicate]) (by simp [List.mem_replicate])

theorem run_around (kept rest : List Char) (outside : depthOver 0 kept = 0) :
    ∃ before passed after count, SlashRun (kept ++ '/' :: '/' :: rest) before after count ∧
      kept = before ++ List.replicate passed '/' ∧ passed + 2 ≤ count := by
  obtain ⟨before, passed, rfl, starts⟩ := slashes_behind kept
  obtain ⟨more, after, rfl, ends⟩ := slashes_ahead rest
  rw [depth_over_append, slashes_depth] at outside
  refine ⟨before, passed, after, passed + (more + 2), ⟨?_, starts, ends, outside⟩, rfl, by omega⟩
  have pair : '/' :: '/' :: (List.replicate more '/' ++ after) = List.replicate (more + 2) '/' ++ after := rfl
  rw [pair]
  simp only [List.replicate_add passed, List.append_assoc]

theorem long_run_opens (spot : Spot) (value before after : List Char) (count : Nat) (here : spot.depth = 0)
    (run : SlashRun value before after count) (long : 3 ≤ count) : ¬ Uncommented spot value := by
  intro plain
  obtain ⟨more, rfl⟩ : ∃ more, count = more + 3 := ⟨count - 3, by omega⟩
  have parts : value = (before ++ ['/']) ++ '/' :: '/' :: (List.replicate more '/' ++ after) := by
    rw [run.whole]
    simp [List.replicate_succ]
  rw [parts] at plain
  refine (uncommented_append spot _ _ plain).2.1 ⟨rfl, rfl, ?_, ?_⟩
  · rw [over_depth, here, depth_over_append, run.outside]
    rfl
  · rw [over_append]
    rintro ⟨colon, -⟩
    exact absurd (show '/' = ':' from colon) (by decide)

-- Where an address is cut, its scheme and one slash are left.
theorem address_stop (spot : Spot) (kept rest : List Char) (here : spot.depth = 0)
    (addressed : AddressRuns (kept ++ '/' :: '/' :: rest)) (plain : Uncommented spot (kept ++ ['/']))
    (stops : (spot.over kept).Opens '/' (some '/')) :
    ∃ before after count, SlashRun (kept ++ '/' :: '/' :: rest) before after count ∧ 3 ≤ count ∧ kept = before ++ ['/'] := by
  obtain ⟨-, -, outside, apart⟩ := stops
  rw [over_depth, here] at outside
  obtain ⟨before, passed, after, count, run, rfl, some⟩ := run_around kept rest outside
  obtain ⟨front, c, rfl, letter⟩ := addressed before after count run (by omega)
  match passed with
  | 0 =>
      rw [List.replicate_zero, List.append_nil, over_append] at apart
      exact absurd ⟨rfl, letter⟩ apart
  | 1 => exact ⟨_, after, count, run, by omega, rfl⟩
  | passed + 2 =>
      have short : SlashRun (front ++ [c, ':'] ++ List.replicate (passed + 2) '/' ++ ['/']) (front ++ [c, ':']) [] (passed + 3) :=
        ⟨by simp [List.replicate_succ'], by simp, by simp, run.outside⟩
      exact absurd plain (long_run_opens spot _ _ _ _ here short (by omega))

section Assigned

variable (value : List Char)

theorem assigned_unbroken (unbroken : Unbroken value) : Unbroken (assigned value) := by
  intro c member
  unfold assigned at member
  rcases List.mem_append.mp member with letter | inside
  · exact unbroken_literal _ (by decide) c letter
  · exact unbroken c inside

theorem assigned_clean (unbroken : Unbroken value) (plain : Uncommented .assigning value)
    (sheltered : Sheltered fieldMarks 0 value) (closed : depthOver 0 value = 0)
    (solid : ∃ c, value.getLast? = some c ∧ isBlank c = false) : Clean (assigned value) := by
  have word : depthOver 0 "default=".toList = 0 := by decide
  have whole := assigned_unbroken value unbroken
  unfold assigned at whole ⊢
  refine ⟨whole, fun spot outside => ?_, ?_, ?_, ?_⟩
  · have depth : (spot.over "default=".toList).depth = 0 := by rw [over_depth, outside, word]
    exact uncommented_after spot "default=".toList value (by decide)
      (uncommented_neutral .assigning _ value depth.symm ⟨by decide, by decide⟩ plain)
  · rw [sheltered_append, word]
    exact ⟨sheltered_literal _ _ _ (by decide), sheltered⟩
  · rw [depth_over_append]
    exact (congrArg (depthOver · value) word).trans closed
  · obtain ⟨c, last, blank⟩ := solid
    exact ⟨c, by rw [List.getLast?_append, last]; rfl, blank⟩

theorem assigned_said (text : DefaultText) : ClauseText (assigned text.text.toList) (.default text) := by
  have renderable := text.renderable
  simp only [isRenderable, Bool.and_eq_true, decide_eq_true_eq] at renderable
  obtain ⟨⟨⟨some, trimmed⟩, -⟩, -⟩ := renderable
  have read := ClauseTail.assigned [] text.text.toList blanks_nil
  rw [← trimmed] at read
  refine ⟨"default".toList, _, _, ?_, read, .default text⟩
  have last := ((trimmed_iff _).mp trimmed.symm).2 _ (List.getLast?_eq_some_getLast some)
  refine ends_trim _ ⟨'d', rfl, by decide⟩ ⟨_, ?_, last⟩
  unfold assigned
  rw [List.getLast?_append, List.getLast?_eq_some_getLast some]
  rfl

theorem renderable_front (front rest : List Char) (renderable : isRenderable (front ++ rest) = true)
    (outside : depthOver 0 front = 0) (solid : ∃ c, front.getLast? = some c ∧ isBlank c = false) : isRenderable front = true := by
  simp only [isRenderable, Bool.and_eq_true, decide_eq_true_eq] at renderable ⊢
  obtain ⟨⟨⟨-, trimmed⟩, unbroken⟩, closed⟩ := renderable
  obtain ⟨d, last, blank⟩ := solid
  have some : front ≠ [] := by
    rintro rfl
    simp at last
  have first := ((trimmed_iff _).mp trimmed.symm).1 (front.head some)
    (by rw [List.head?_append, List.head?_eq_some_head some]; rfl)
  refine ⟨⟨⟨some, ?_⟩, ?_⟩, balanced_front front rest 0 closed outside⟩
  · exact (ends_trim front ⟨_, List.head?_eq_some_head some, first⟩ ⟨d, last, blank⟩).symm
  · simp only [Bool.not_eq_true', List.contains_eq_mem, decide_eq_false_iff_not, List.mem_append, not_or] at unbroken ⊢
    exact unbroken.1

end Assigned

section Vacancy

variable (identifier : String) (vacancy : Vacancy) (value : List Char)

def Vacancy.ended (vacancy : Vacancy) : Vacancy :=
  { vacancy with
    after := []
    others := fun clause member => vacancy.others clause (List.mem_append_left _ (by simpa using member)) }

def Vacancy.opening (vacancy : Vacancy) : List Char :=
  vacancy.field.rowWith vacancy.before ++ ' ' :: '@' :: "default=".toList

theorem vacancy_row : vacancy.field.rowWith (vacancy.clauses (assigned value)) =
    vacancy.opening ++ (value ++ marked vacancy.after) := by
  simp only [Field.rowWith, Field.declaration, Vacancy.opening, Vacancy.clauses, marked, List.flatMap_append, List.flatMap_cons,
    List.append_assoc, List.cons_append]
  rfl

theorem vacancy_opening : Uncommented .start vacancy.opening ∧ Spot.start.over vacancy.opening = .assigning := by
  have clean : ∀ clause ∈ vacancy.before, Clean clause := fun clause member =>
    (vacancy.others clause (List.mem_append_left _ member)).1
  have row := row_with_uncommented _ vacancy.field vacancy.writable _ clean (.inr vacancy.closed)
  refine ⟨uncommented_join _ _ _ row (uncommented_absent _ _ (by decide)) (by decide), ?_⟩
  have depth : (Spot.start.over (vacancy.field.rowWith vacancy.before)).depth = 0 := by
    have opening : depthOver 0 vacancy.field.opening = 0 := opening_depth _ _ vacancy.writable
    have closed : depthOver 0 vacancy.field.type.render = 0 := vacancy.closed
    rw [over_depth, row_with, depth_over_append, depth_over_append, Spot.start, opening, closed]
    exact marked_depth _ clean
  rw [Vacancy.opening, over_append]
  generalize Spot.start.over (vacancy.field.rowWith vacancy.before) = spot at depth
  obtain ⟨opened, before, last⟩ := spot
  obtain rfl : opened = 0 := depth
  rfl

theorem vacancy_before_comment : beforeComment 0 ' ' ' ' (vacancy.field.rowWith (vacancy.clauses (assigned value))) =
    vacancy.opening ++ beforeComment 0 't' '=' (value ++ marked vacancy.after) := by
  obtain ⟨plain, reached⟩ := vacancy_opening vacancy
  have last : vacancy.opening.getLast? ≠ some '/' := by
    unfold Vacancy.opening
    simp [List.getLast?_append]
  have parted := before_comment_append .start vacancy.opening (value ++ marked vacancy.after) plain last
  rw [reached] at parted
  rw [vacancy_row]
  exact parted

theorem vacancy_cut (kept : List Char) (unbroken : Unbroken value) (short : kept <+: value) (plain : Uncommented .assigning kept)
    (cut : ∀ after, beforeComment 0 't' '=' (value ++ after) = kept) :
    vacancy.default? identifier (assigned value) = vacancy.ended.default? identifier (assigned kept) := by
  have whole : ∀ (place : Vacancy) (text : List Char), Unbroken text → ∀ other ∈ place.clauses (assigned text), Unbroken other := by
    intro place text unbroken other member
    rcases List.mem_append.mp member with early | later
    · exact (place.others other (List.mem_append_left _ early)).1.unbroken
    · rcases List.mem_cons.mp later with rfl | late
      · exact assigned_unbroken text unbroken
      · exact (place.others other (List.mem_append_right _ late)).1.unbroken
  have kept_whole : beforeComment 0 't' '=' (kept ++ marked []) = kept := by
    rw [marked, List.flatMap_nil, List.append_nil]
    exact before_comment_whole .assigning kept plain
  have pieces : piecesOfLine (vacancy.field.rowWith (vacancy.clauses (assigned value))) =
      piecesOfLine (vacancy.ended.field.rowWith (vacancy.ended.clauses (assigned kept))) := by
    rw [← pieces_before_comment, vacancy_before_comment, cut, ← pieces_before_comment (vacancy.ended.field.rowWith _),
      vacancy_before_comment vacancy.ended kept]
    exact congrArg (fun text => piecesOfLine (vacancy.opening ++ text)) kept_whole.symm
  have scanned : scan (vacancy.text (assigned value)) = scan (vacancy.ended.text (assigned kept)) := by
    rw [vacancy_scan vacancy _ (whole vacancy value unbroken),
      vacancy_scan vacancy.ended _ (whole vacancy.ended kept fun c member => unbroken c (short.subset member))]
    simp only [Vacancy.rows, scanLines, pieces]
    rfl
  have parsed : Schema.parse identifier (vacancy.text (assigned value)) =
      Schema.parse identifier (vacancy.ended.text (assigned kept)) := by
    rw [Schema.parse, Schema.parse, scanned]
  rw [Vacancy.default?, Vacancy.default?, parsed]
  rfl

theorem vacancy_assigned (text : DefaultText) (unbroken : Unbroken text.text.toList)
    (plain : Uncommented .assigning text.text.toList) (sheltered : Sheltered fieldMarks 0 text.text.toList) :
    vacancy.default? identifier (assigned text.text.toList) = some text.text.toList := by
  have renderable := text.renderable
  simp only [isRenderable, Bool.and_eq_true, decide_eq_true_eq] at renderable
  obtain ⟨⟨⟨some, trimmed⟩, -⟩, balance⟩ := renderable
  have last := List.getLast?_eq_some_getLast some
  have clean := assigned_clean _ unbroken plain sheltered (balanced_inside fieldMarks _ 0 0 balance).1
    ⟨_, last, ((trimmed_iff _).mp trimmed.symm).2 _ last⟩
  exact vacancy_reads identifier vacancy _ text clean (assigned_said text)

end Vacancy

-- A value accepted as a default, whose runs of slashes are those of addresses, is read alike behind an equals sign and between
-- parentheses just where no run is longer than two. Behind a longer one nothing but the scheme and a slash is read.
theorem address_read_alike_iff (identifier : String) (vacancy : Vacancy) (value : List Char)
    (renderable : isRenderable value = true) (unbroken : Unbroken value) (sheltered : Sheltered fieldMarks 0 value)
    (addressed : AddressRuns value) :
    vacancy.default? identifier (enclosed value) = some value ∧
      (vacancy.default? identifier (assigned value) = some value ↔
        ∀ before after count, SlashRun value before after count → count ≤ 2) ∧
      (vacancy.default? identifier (assigned value) ≠ some value →
        ∃ before after count, SlashRun value before after count ∧ 3 ≤ count ∧
          vacancy.default? identifier (assigned value) = some (before ++ ['/'])) := by
  obtain ⟨text, rfl⟩ := written_default value renderable
  have between := vacancy_reads identifier vacancy _ text (default_clean text unbroken) (default_said text)
  by_cases whole : beforeComment 0 't' '=' text.text.toList = text.text.toList
  · have plain : Uncommented .assigning text.text.toList := by
      have kept := before_comment_uncommented .assigning text.text.toList
      exact (congrArg (Uncommented .assigning) whole).mp kept
    have read := vacancy_assigned identifier vacancy text unbroken plain sheltered
    refine ⟨between, ⟨fun _ before after count run => ?_, fun _ => read⟩, fun other => absurd read other⟩
    by_contra long
    exact long_run_opens .assigning _ _ _ _ rfl run (by omega) plain
  · obtain ⟨kept, rest, parts, plain, stops, cut⟩ := before_comment_stop .assigning _ whole
    have outside : depthOver 0 kept = 0 := by
      have depth := stops.2.2.1
      rwa [over_depth] at depth
    rw [parts] at addressed
    obtain ⟨before, after, count, run, long, ending⟩ := address_stop .assigning kept rest rfl addressed plain stops
    rw [← parts] at run
    have solid : ∃ c, kept.getLast? = some c ∧ isBlank c = false := ⟨'/', by rw [ending, List.getLast?_concat], by decide⟩
    have short : kept <+: text.text.toList := ⟨_, parts.symm⟩
    obtain ⟨left, rfl⟩ := written_default kept (renderable_front kept _ (parts ▸ renderable) outside solid)
    have start := (uncommented_append _ _ _ plain).1
    have read := vacancy_assigned identifier vacancy.ended left (fun c member => unbroken c (short.subset member)) start
      ((sheltered_append _ _ _ _).mp (parts ▸ sheltered)).1
    rw [← vacancy_cut identifier vacancy _ _ unbroken short start cut] at read
    refine ⟨between, ⟨fun same => ?_, fun bound => absurd (bound before after count run) (by omega)⟩,
      fun _ => ⟨before, after, count, run, long, ending ▸ read⟩⟩
    have lengths := congrArg List.length (Option.some.inj (read.symm.trans same))
    rw [parts] at lengths
    simp at lengths

def endsInScheme (text : List Char) : Bool :=
  match text.reverse with
  | ':' :: c :: _ => isAlphanumeric c
  | _ => false

theorem address_runs (value : List Char)
    (looked : ∀ n < value.length, (value.drop n).take 2 = ['/', '/'] → (value.take n).getLast? ≠ some '/' →
      endsInScheme (value.take n) = true) : AddressRuns value := by
  rintro before after count ⟨rfl, starts, -, -⟩ several
  obtain ⟨more, rfl⟩ : ∃ more, count = more + 2 := ⟨count - 2, by omega⟩
  have found := looked before.length (by simp only [List.length_append, List.length_replicate]; omega) (by simp [List.replicate_succ]) (by simpa using starts)
  rw [List.append_assoc, List.take_left, endsInScheme] at found
  split at found
  · rename_i c front same
    exact ⟨front.reverse, c, by simpa using congrArg List.reverse same, found⟩
  · exact nomatch found

def webAddress : List Char := "http://a.b/c".toList

theorem web_address_read_alike :
    isRenderable webAddress = true ∧ Unbroken webAddress ∧ Sheltered fieldMarks 0 webAddress ∧ AddressRuns webAddress ∧
      textVacancy.default? "id" (enclosed webAddress) = some webAddress ∧
      textVacancy.default? "id" (assigned webAddress) = some webAddress := by
  have renderable : isRenderable webAddress = true := by decide
  have unbroken : Unbroken webAddress := unbroken_literal _ (by decide)
  have sheltered : Sheltered fieldMarks 0 webAddress := sheltered_literal _ _ _ (by decide)
  have addressed : AddressRuns webAddress := address_runs _ (by decide +kernel)
  obtain ⟨between, behind, -⟩ := address_read_alike_iff "id" textVacancy webAddress renderable unbroken sheltered addressed
  refine ⟨renderable, unbroken, sheltered, addressed, between, behind.mpr fun before after count run => ?_⟩
  by_contra long
  obtain ⟨more, rfl⟩ : ∃ more, count = more + 3 := ⟨count - 3, by omega⟩
  have three : ∀ n < webAddress.length, (webAddress.drop n).take 3 ≠ ['/', '/', '/'] := by decide
  have inside : before.length < webAddress.length := by
    simp only [run.whole, List.length_append, List.length_replicate]
    omega
  refine three before.length inside ?_
  rw [run.whole]
  simp [List.replicate_succ]

-- The address of a file on its own machine begins with three slashes.
def fileAddress : List Char := "file:///x".toList

theorem file_address_cut :
    isRenderable fileAddress = true ∧ Unbroken fileAddress ∧ Sheltered fieldMarks 0 fileAddress ∧ AddressRuns fileAddress ∧
      textVacancy.default? "id" (enclosed fileAddress) = some fileAddress ∧
      textVacancy.default? "id" (assigned fileAddress) = some "file:/".toList :=
  ⟨by decide, unbroken_literal _ (by decide), sheltered_literal _ _ _ (by decide), address_runs _ (by decide +kernel),
    by decide +kernel, by decide +kernel⟩

end Schematic
