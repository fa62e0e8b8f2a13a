import Schematic.Proofs.Source.Listing
import Schematic.Proofs.Source.Recovery

set_option autoImplicit false

namespace Schematic

open Text

-- A line of which nothing is read.
inductive IdleRow : List Char → Prop where
  | blank (row : List Char) (blank : Blanks row) : IdleRow row
  | comment (text : List Char) : IdleRow ('/' :: '/' :: text)

-- Another form of a line: blanks at its ends, a comment behind it where no parenthesis is open, or more behind a comment.
inductive Restyled : List Char → List Char → Prop where
  | padded (before row after : List Char) (start : Blanks before) (ending : Blanks after) : Restyled row (before ++ row ++ after)
  | noted (row comment : List Char) (outside : depthOver 0 row = 0) : Restyled row (row ++ ' ' :: '/' :: '/' :: comment)
  | continued (row more : List Char) (commented : ¬ Uncommented .start row) : Restyled row (row ++ more)

-- Lines in another layout, with the number under which each of them is found there.
inductive Relaid (rows : List (List Char)) : List (List Char) → (Nat → Nat) → Prop where
  | same : Relaid rows rows id
  | restyled (front back : List (List Char)) (row other : List Char) (place : Nat → Nat)
      (laid : Relaid rows (front ++ row :: back) place) (style : Restyled row other) : Relaid rows (front ++ other :: back) place
  | inserted (front back : List (List Char)) (row : List Char) (place : Nat → Nat) (laid : Relaid rows (front ++ back) place)
      (idle : IdleRow row) : Relaid rows (front ++ [row] ++ back) (shifted front.length 1 ∘ place)

-- Places from which the rest of a line is read alike.
structure Spot.Alike (a b : Spot) : Prop where
  depth : a.depth = b.depth
  last : a.last = b.last ∨ Neutral a.last ∧ Neutral b.last
  before : a.last = ':' → b.last = ':' → isAlphanumeric a.before = isAlphanumeric b.before

section Alike

variable (a b : Spot) (alike : a.Alike b)

include alike

theorem alike_next (c : Char) : (a.next c).Alike (b.next c) := by
  refine ⟨congrArg (depthAfter · c) alike.depth, .inl rfl, fun _ _ => ?_⟩
  have passed : isAlphanumeric a.last = isAlphanumeric b.last := by
    rcases alike.last with same | ⟨here, there⟩
    · rw [same]
    · rw [here.2, there.2]
  exact passed

theorem alike_opens (c : Char) (following : Option Char) : a.Opens c following ↔ b.Opens c following := by
  have address : (a.last = ':' ∧ isAlphanumeric a.before = true) ↔ (b.last = ':' ∧ isAlphanumeric b.before = true) := by
    rcases alike.last with same | ⟨here, there⟩
    · constructor
      · rintro ⟨colon, letter⟩
        exact ⟨same ▸ colon, alike.before colon (same ▸ colon) ▸ letter⟩
      · rintro ⟨colon, letter⟩
        exact ⟨same ▸ colon, (alike.before (same ▸ colon) colon).symm ▸ letter⟩
    · exact iff_of_false (fun address => here.1 address.1) fun address => there.1 address.1
  rw [Spot.Opens, Spot.Opens, alike.depth, address]

end Alike

theorem before_comment_alike (a b : Spot) (text : List Char) (alike : a.Alike b) :
    beforeComment a.depth a.before a.last text = beforeComment b.depth b.before b.last text := by
  induction text generalizing a b with
  | nil => rfl
  | cons c text ih =>
      have opens := alike_opens a b alike c text.head?
      by_cases here : a.Opens c text.head?
      · exact (if_pos here).trans (if_pos (opens.mp here)).symm
      · rw [before_comment_pass a c text here, before_comment_pass b c text (mt opens.mpr here), ih _ _ (alike_next a b alike c)]

theorem blanks_absent (text : List Char) (blank : Blanks text) (c : Char) (solid : isBlank c = false) : c ∉ text := by
  intro member
  rw [blank c member] at solid
  exact nomatch solid

theorem before_comment_start (before row : List Char) (start : Blanks before) :
    beforeComment 0 ' ' ' ' (before ++ row) = before ++ beforeComment 0 ' ' ' ' row := by
  have absent := blanks_absent before start '/' (by decide)
  have outside : (Spot.start.over before).depth = 0 := by rw [over_depth]; exact depth_over_blanks 0 before start
  have neutral : Neutral (Spot.start.over before).last := over_blanks_neutral .start before start start_neutral
  have apart : before.getLast? ≠ some '/' := fun last => absent (List.mem_of_getLast? last)
  have passed := before_comment_append .start before row (uncommented_absent _ before absent) apart
  have same := before_comment_alike (Spot.start.over before) .start row
    ⟨outside, .inr ⟨neutral, start_neutral⟩, fun colon => absurd colon neutral.1⟩
  exact passed.trans (congrArg (before ++ ·) same)

theorem before_comment_behind (row more tail : List Char)
    (behind : Uncommented .start row → beforeComment 0 ' ' ' ' (row ++ more) = row ++ tail) (blank : Blanks tail) :
    ∃ blanks, Blanks blanks ∧ beforeComment 0 ' ' ' ' (row ++ more) = beforeComment 0 ' ' ' ' row ++ blanks := by
  by_cases whole : beforeComment 0 ' ' ' ' row = row
  · have plain : Uncommented .start row := whole ▸ before_comment_uncommented .start row
    exact ⟨tail, blank, by rw [behind plain, whole]⟩
  · obtain ⟨kept, -, -, -, -, cut⟩ := before_comment_stop .start row whole
    have short := cut []
    rw [List.append_nil] at short
    exact ⟨[], blanks_nil, by rw [List.append_nil]; exact (cut more).trans short.symm⟩

theorem split_braces_cons (depth : Nat) (text : List Char) : ∃ first rest, splitBraces depth text = first :: rest := by
  cases text with
  | nil => exact ⟨[], [], rfl⟩
  | cons c text =>
      rw [splitBraces]
      split
      · exact ⟨_, _, rfl⟩
      · split
        · exact ⟨_, _, rfl⟩
        · cases splitBraces (depthAfter depth c) text with
          | nil => exact ⟨_, _, rfl⟩
          | cons first rest => exact ⟨_, _, rfl⟩

theorem split_braces_start (before text : List Char) (start : Blanks before) :
    ∃ first rest, splitBraces 0 text = first :: rest ∧ splitBraces 0 (before ++ text) = (before ++ first) :: rest := by
  obtain ⟨first, rest, parts⟩ := split_braces_cons 0 text
  refine ⟨first, rest, parts, ?_⟩
  induction before with
  | nil => exact parts
  | cons c before ih =>
      obtain ⟨here, later⟩ := (blanks_cons c before).mp start
      have depth : depthAfter 0 c = 0 := depth_over_blanks 0 [c] ((blanks_cons c []).mpr ⟨here, blanks_nil⟩)
      have opening : ¬ (c = '{' ∧ depthAfter 0 c = 0) := by
        rintro ⟨rfl, -⟩
        exact absurd here (by decide)
      have closing : ¬ (c = '}' ∧ depthAfter 0 c = 0) := by
        rintro ⟨rfl, -⟩
        exact absurd here (by decide)
      rw [List.cons_append, splitBraces, if_neg opening, if_neg closing, depth, ih later]
      rfl

theorem split_braces_end (depth : Nat) (text after : List Char) (ending : Blanks after) :
    ∃ front last, splitBraces depth text = front ++ [last] ∧ splitBraces depth (text ++ after) = front ++ [last ++ after] := by
  induction text generalizing depth with
  | nil =>
      have solid : ∀ brace ∈ braces, brace ∉ after := by
        intro brace member
        simp only [braces, List.mem_cons, List.not_mem_nil, or_false] at member
        rcases member with rfl | rfl <;> exact blanks_absent after ending _ (by decide)
      exact ⟨[], [], rfl, split_braces_whole depth after (sheltered_absent _ _ _ fun c inside brace => solid c brace inside)⟩
  | cons c text ih =>
      obtain ⟨front, last, parts, longer⟩ := ih (depthAfter depth c)
      rw [List.cons_append, splitBraces, splitBraces, parts, longer]
      split
      · exact ⟨['{'] :: front, last, rfl, rfl⟩
      · split
        · exact ⟨[] :: ['}'] :: front, last, rfl, rfl⟩
        · cases front with
          | nil => exact ⟨[], c :: last, rfl, rfl⟩
          | cons first front => exact ⟨(c :: first) :: front, last, rfl, rfl⟩

theorem pieces_padded (row other before after : List Char) (start : Blanks before) (ending : Blanks after)
    (kept : beforeComment 0 ' ' ' ' other = before ++ beforeComment 0 ' ' ' ' row ++ after) : piecesOfLine other = piecesOfLine row := by
  rw [piecesOfLine, piecesOfLine, kept]
  generalize beforeComment 0 ' ' ' ' row = text
  obtain ⟨front, last, parts, longer⟩ := split_braces_end 0 (before ++ text) after ending
  obtain ⟨first, rest, whole, padded⟩ := split_braces_start before text start
  have trailing : (splitBraces 0 (before ++ text ++ after)).map trim = (splitBraces 0 (before ++ text)).map trim := by
    have same : trim (last ++ after) = trim last := trim_pad [] last after blanks_nil ending
    rw [longer, parts, List.map_append, List.map_append, List.map_singleton, List.map_singleton, same]
  have leading : (splitBraces 0 (before ++ text)).map trim = (splitBraces 0 text).map trim := by
    have same : trim (before ++ first) = trim first := by
      have padded := trim_pad before first [] start blanks_nil
      rwa [List.append_nil] at padded
    rw [padded, whole, List.map_cons, List.map_cons, same]
  rw [trailing, leading]

theorem before_comment_noted (row comment : List Char) (outside : depthOver 0 row = 0) (plain : Uncommented .start row) :
    beforeComment 0 ' ' ' ' (row ++ ' ' :: '/' :: '/' :: comment) = row ++ [' '] := by
  have spaced : Uncommented .start (row ++ [' ']) :=
    uncommented_join .start row [' '] plain (uncommented_absent _ [' '] (by decide)) (by decide)
  have passed := before_comment_append .start (row ++ [' ']) ('/' :: '/' :: comment) spaced (by simp)
  have opens : (Spot.start.over (row ++ [' '])).Opens '/' (some '/') := by
    have depth : (Spot.start.over (row ++ [' '])).depth = 0 := by
      rw [over_depth, depth_over_append, show depthOver Spot.start.depth row = 0 from outside]
      rfl
    refine ⟨rfl, rfl, depth, ?_⟩
    rw [over_append]
    rintro ⟨colon, -⟩
    exact absurd (show ' ' = ':' from colon) (by decide)
  have cut : beforeComment (Spot.start.over (row ++ [' '])).depth (Spot.start.over (row ++ [' '])).before
      (Spot.start.over (row ++ [' '])).last ('/' :: '/' :: comment) = [] := if_pos opens
  rw [cut, List.append_nil, List.append_assoc] at passed
  exact passed

theorem restyled_pieces (row other : List Char) (style : Restyled row other) : piecesOfLine other = piecesOfLine row := by
  cases style with
  | padded before _ after start ending =>
      have absent := blanks_absent after ending '/' (by decide)
      have behind : Uncommented .start row → beforeComment 0 ' ' ' ' (row ++ after) = row ++ after := fun plain =>
        before_comment_whole .start _ (uncommented_join .start row after plain (uncommented_absent _ after absent)
          fun first => absent (List.mem_of_head? first))
      obtain ⟨blanks, blank, kept⟩ := before_comment_behind row after after behind ending
      refine pieces_padded row _ before blanks start blank ?_
      rw [List.append_assoc, before_comment_start before _ start, kept, List.append_assoc]
  | noted _ comment outside =>
      have space : Blanks [' '] := (blanks_cons ' ' []).mpr ⟨rfl, blanks_nil⟩
      obtain ⟨blanks, blank, kept⟩ :=
        before_comment_behind row _ [' '] (before_comment_noted row comment outside) space
      exact pieces_padded row _ [] blanks blanks_nil blank kept
  | continued _ more commented =>
      obtain ⟨blanks, blank, kept⟩ := before_comment_behind row more [] (fun plain => absurd plain commented) blanks_nil
      exact pieces_padded row _ [] blanks blanks_nil blank kept

theorem idle_pieces (row : List Char) (idle : IdleRow row) : piecesOfLine row = [] := by
  cases idle with
  | blank _ blank =>
      have padded := restyled_pieces [] _ (.padded row [] [] blank blanks_nil)
      rw [List.append_nil, List.append_nil] at padded
      exact padded
  | comment text => rfl

section Relaid

variable (rows edited : List (List Char)) (place : Nat → Nat) (laid : Relaid rows edited place)

include laid

theorem relaid_keeps (a b : Nat) : place a ≤ place b ↔ a ≤ b := by
  induction laid with
  | same => rfl
  | restyled front back row other place laid style ih => exact ih
  | inserted front back row place laid idle ih => exact (shifted_keeps _ 1 _ _).trans ih

theorem relaid_stands (index : Nat) (row : List Char) (here : rows[index]? = some row) :
    ∃ found other, place (index + 1) = found + 1 ∧ edited[found]? = some other ∧ piecesOfLine other = piecesOfLine row := by
  induction laid with
  | same => exact ⟨index, row, rfl, here, rfl⟩
  | restyled front back old fresh place laid style ih =>
      obtain ⟨found, other, numbered, stands, pieces⟩ := ih
      by_cases above : found < front.length
      · rw [List.getElem?_append_left above] at stands
        exact ⟨found, other, numbered, by rwa [List.getElem?_append_left above], pieces⟩
      · have below : front.length ≤ found := by omega
        rw [List.getElem?_append_right below] at stands
        cases rest : found - front.length with
        | zero =>
            rw [rest] at stands
            obtain rfl : old = other := by simpa using stands
            refine ⟨found, fresh, numbered, ?_, (restyled_pieces old fresh style).trans pieces⟩
            rw [List.getElem?_append_right below, rest, List.getElem?_cons_zero]
        | succ later =>
            rw [rest, List.getElem?_cons_succ] at stands
            refine ⟨found, other, numbered, ?_, pieces⟩
            rw [List.getElem?_append_right below, rest, List.getElem?_cons_succ, stands]
  | inserted front back fresh place laid idle ih =>
      obtain ⟨found, other, numbered, stands, pieces⟩ := ih
      rw [Function.comp_apply, numbered, shifted, List.append_assoc]
      by_cases above : found < front.length
      · rw [List.getElem?_append_left above] at stands
        rw [if_pos (by omega)]
        exact ⟨found, other, rfl, by rwa [List.getElem?_append_left above], pieces⟩
      · rw [List.getElem?_append_right (by omega)] at stands
        rw [if_neg (by omega)]
        refine ⟨found + 1, other, rfl, ?_, pieces⟩
        rw [List.getElem?_append_right (by omega), Nat.sub_add_comm (by omega), List.singleton_append, List.getElem?_cons_succ, stands]

theorem scan_lines_relaid : scanLines 1 edited = (scanLines 1 rows).map (Statement.moved place) := by
  induction laid with
  | same => exact ((List.map_congr_left fun _ _ => rfl).trans (List.map_id' _)).symm
  | restyled front back row other place laid style ih =>
      rw [← ih, scan_lines_append, scan_lines_append, scanLines, scanLines, restyled_pieces row other style]
  | inserted front back row place laid idle ih =>
      have moved := scan_lines_shifted front back 1
      rw [ih, List.map_map] at moved
      rw [scan_lines_append, scan_lines_append, List.length_append, scanLines, idle_pieces row idle]
      simp only [List.map_nil, scanLines, List.append_nil, List.length_singleton, ← Nat.add_assoc]
      exact moved.symm

end Relaid

theorem problem_kind_moved (place : Nat → Nat) (problem : Problem) : (problem.moved place).kind = problem.kind := by
  cases problem <;> rfl

-- Layout does not matter: blanks at the ends of lines, comments behind them, and further lines of blanks or comments leave the
-- entities, their order and the relations as they were, and each diagnostic is told of the line where its own is then found.
theorem layout_read_alike (identifier : String) (source edited : List Char) (place : Nat → Nat)
    (laid : Relaid (lines source) (lines edited) place) :
    (∀ index row, (lines source)[index]? = some row →
      ∃ found other, place (index + 1) = found + 1 ∧ (lines edited)[found]? = some other ∧ piecesOfLine other = piecesOfLine row) ∧
    (Schema.parse identifier edited).entities = (Schema.parse identifier source).entities.map (Entity.moved place) ∧
    (Schema.parse identifier edited).relations = (Schema.parse identifier source).relations ∧
    (Schema.parse identifier edited).errors = (Schema.parse identifier source).errors.map (Diagnostic.moved place) ∧
    (Schema.parse identifier edited).errors.map (fun told => (told.line, told.problem.kind)) =
      (Schema.parse identifier source).errors.map (fun told => (place told.line, told.problem.kind)) := by
  have scanned : scan edited = (scan source).map (Statement.moved place) := scan_lines_relaid _ _ place laid
  have read := read_moved place (scan source)
  rw [← scanned] at read
  have told : (Schema.parse identifier edited).errors = (Schema.parse identifier source).errors.map (Diagnostic.moved place) := by
    rw [parse_statements, parse_statements, read, by_line_moved place (relaid_keeps _ _ place laid)]
  refine ⟨relaid_stands _ _ place laid, ?_, ?_, told, ?_⟩
  · rw [parse_statements, parse_statements, read]
  · rw [Schema.relations, Schema.relations, parse_statements, parse_statements, read, relations_moved]
  · rw [told, List.map_map]
    refine List.map_congr_left fun diagnostic _ => ?_
    exact congrArg (place diagnostic.line, ·) (problem_kind_moved place diagnostic.problem)

def shopRows : List (List Char) := ["entity Shop \x7b", "  site: url @default=http://x", "  of: Mall", "\x7d"].map String.toList

def annotatedRows : List (List Char) :=
  ["// Shops", "\tentity Shop \x7b", "  site: url @default=http://x // as (yet", "", "  of: Mall", "\x7d"].map String.toList

theorem annotated_relaid : Relaid shopRows annotatedRows (shifted 3 1 ∘ shifted 0 1 ∘ id) := by
  have headed : Relaid shopRows ("// Shops".toList :: shopRows) (shifted 0 1 ∘ id) :=
    .inserted [] shopRows "// Shops".toList id .same (.comment " Shops".toList)
  have tabbed : Relaid shopRows (annotatedRows.take 2 ++ shopRows.drop 1) (shifted 0 1 ∘ id) :=
    .restyled ["// Shops".toList] (shopRows.drop 1) "entity Shop \x7b".toList "\tentity Shop \x7b".toList _ headed
      (.padded ['\t'] _ [] ((blanks_cons '\t' []).mpr ⟨by decide, blanks_nil⟩) blanks_nil)
  have noted : Relaid shopRows (annotatedRows.take 3 ++ shopRows.drop 2) (shifted 0 1 ∘ id) :=
    .restyled (annotatedRows.take 2) (shopRows.drop 2) "  site: url @default=http://x".toList
      "  site: url @default=http://x // as (yet".toList _ tabbed (.noted _ " as (yet".toList (by decide))
  exact .inserted (annotatedRows.take 3) (shopRows.drop 2) [] _ noted (.blank [] blanks_nil)

theorem annotated_shop_read_alike :
    Relaid (lines (onLines shopRows)) (lines (onLines annotatedRows)) (shifted 3 1 ∘ shifted 0 1 ∘ id) ∧
      (Schema.parse "id" (onLines shopRows)).errors = [⟨3, .badType (.unknown "Mall")⟩] ∧
      (Schema.parse "id" (onLines annotatedRows)).errors = [⟨5, .badType (.unknown "Mall")⟩] := by
  have laid : Relaid (lines (onLines shopRows)) (lines (onLines annotatedRows)) (shifted 3 1 ∘ shifted 0 1 ∘ id) := by
    have plain : lines (onLines shopRows) = shopRows := by decide +kernel
    have noted : lines (onLines annotatedRows) = annotatedRows := by decide +kernel
    rw [plain, noted]
    exact annotated_relaid
  have told : (Schema.parse "id" (onLines shopRows)).errors = [⟨3, .badType (.unknown "Mall")⟩] := by decide +kernel
  obtain ⟨-, -, -, moved, -⟩ := layout_read_alike "id" _ _ _ laid
  exact ⟨laid, told, by rw [moved, told]; rfl⟩

end Schematic
