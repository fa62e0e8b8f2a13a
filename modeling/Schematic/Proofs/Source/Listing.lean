import Schematic.Proofs.Source.Accounting

set_option autoImplicit false

namespace Schematic

open Text

-- A piece of a line up to a brace: no brace stands outside parentheses but for an opening one at its end.
inductive Cut (depth : Nat) : List Char → Prop where
  | plain (text : List Char) (sheltered : Sheltered braces depth text) : Cut depth text
  | opening (text : List Char) (sheltered : Sheltered braces depth text) (outside : depthOver depth text = 0) :
      Cut depth (text ++ ['{'])

-- A piece that stays whole on a line of its own, where nothing stands in front of it.
inductive Lone : List Char → Prop where
  | cut (text : List Char) (uncommented : Uncommented .start text) (cut : Cut 0 text) : Lone text
  | closing : Lone ['}']

theorem cut_cons (depth : Nat) (c : Char) (text : List Char) (inside : ∀ brace ∈ braces, ¬ (c = brace ∧ depthAfter depth c = 0))
    (cut : Cut (depthAfter depth c) text) : Cut depth (c :: text) := by
  have here : c ∈ braces → depthAfter depth c ≠ 0 := fun member outside => inside c member ⟨rfl, outside⟩
  cases cut with
  | plain text sheltered => exact .plain _ ⟨here, sheltered⟩
  | opening text sheltered outside => exact .opening (c :: text) ⟨here, sheltered⟩ outside

theorem cut_lone (spot : Spot) (first text : List Char) (start : first <+: text) (plain : Uncommented spot text)
    (outside : spot.depth = 0) (neutral : Neutral spot.last) (cut : Cut spot.depth first) : Lone first := by
  obtain ⟨after, rfl⟩ := start
  have here := (uncommented_append spot first after plain).1
  exact .cut first (uncommented_neutral spot .start first outside neutral here) (outside ▸ cut)

theorem brace_neutral (c : Char) (brace : c ∈ braces) : Neutral c := by
  simp only [braces, List.mem_cons, List.not_mem_nil, or_false] at brace
  rcases brace with rfl | rfl <;> exact ⟨by decide, by decide⟩

theorem start_neutral : Neutral Spot.start.last := ⟨by decide, by decide⟩

theorem split_braces_cut (spot : Spot) (text : List Char) (plain : Uncommented spot text) :
    ∃ first rest, splitBraces spot.depth text = first :: rest ∧ first <+: text ∧ Cut spot.depth first ∧ ∀ piece ∈ rest, Lone piece := by
  induction text generalizing spot with
  | nil => exact ⟨[], [], rfl, List.prefix_refl [], .plain [] trivial, by simp⟩
  | cons c text ih =>
      obtain ⟨first, rest, parts, start, cut, lone⟩ := ih (spot.next c) plain.2
      have next : depthAfter spot.depth c = (spot.next c).depth := rfl
      rw [splitBraces, next, parts]
      by_cases opening : c = '{' ∧ (spot.next c).depth = 0
      · obtain ⟨rfl, outside⟩ := opening
        have later := cut_lone _ first text start plain.2 outside (brace_neutral '{' (by decide)) cut
        rw [if_pos ⟨rfl, outside⟩]
        exact ⟨_, _, rfl, by simp, .opening [] trivial outside, List.forall_mem_cons.mpr ⟨later, lone⟩⟩
      · by_cases closing : c = '}' ∧ (spot.next c).depth = 0
        · obtain ⟨rfl, outside⟩ := closing
          have later := cut_lone _ first text start plain.2 outside (brace_neutral '}' (by decide)) cut
          rw [if_neg opening, if_pos ⟨rfl, outside⟩]
          exact ⟨_, _, rfl, List.nil_prefix, .plain [] trivial,
            List.forall_mem_cons.mpr ⟨.closing, List.forall_mem_cons.mpr ⟨later, lone⟩⟩⟩
        · have inside : ∀ brace ∈ braces, ¬ (c = brace ∧ depthAfter spot.depth c = 0) := by
            intro brace member
            simp only [braces, List.mem_cons, List.not_mem_nil, or_false] at member
            rcases member with rfl | rfl
            · exact opening
            · exact closing
          rw [if_neg opening, if_neg closing]
          exact ⟨c :: first, rest, rfl, List.cons_prefix_cons.mpr ⟨rfl, start⟩, cut_cons _ c first inside cut, lone⟩

theorem cut_trim (text : List Char) (cut : Cut 0 text) : Cut 0 (trim text) := by
  cases cut with
  | plain text sheltered => exact .plain _ (sheltered_trim _ _ _ sheltered)
  | opening text sheltered outside =>
      obtain ⟨a, blank, whole⟩ := trim_start_parts text
      have first : ∃ c, (trimStart text ++ ['{']).head? = some c ∧ isBlank c = false := by
        cases same : trimStart text with
        | nil => exact ⟨'{', rfl, by decide⟩
        | cons c rest =>
            refine ⟨c, rfl, ?_⟩
            have head := List.head?_dropWhile_not isBlank text
            rw [← trimStart.eq_1, same] at head
            simpa using head
      have trimmed : trim (text ++ ['{']) = trimStart text ++ ['{'] := by
        have padded := trim_pad a (trimStart text ++ ['{']) [] blank blanks_nil
        rw [List.append_nil, ← List.append_assoc, ← whole] at padded
        exact padded.trans (ends_trim _ first ⟨'{', by rw [List.getLast?_concat], by decide⟩)
      rw [whole, sheltered_append, depth_over_blanks 0 a blank] at sheltered
      rw [whole, depth_over_append, depth_over_blanks 0 a blank] at outside
      rw [trimmed]
      exact .opening _ sheltered.2 outside

theorem lone_trim (text : List Char) (lone : Lone text) : Lone (trim text) := by
  cases lone with
  | closing => exact .closing
  | cut text uncommented cut =>
      obtain ⟨a, b, before, after, whole⟩ := trim_parts text
      have outside : (Spot.start.over a).depth = 0 := by rw [over_depth]; exact depth_over_blanks 0 a before
      have neutral : Neutral (Spot.start.over a).last := over_blanks_neutral .start a before start_neutral
      rw [whole] at uncommented
      have here := (uncommented_append _ _ _ (uncommented_append _ _ _ uncommented).1).2
      exact .cut _ (uncommented_neutral _ .start _ outside neutral here) (cut_trim text cut)

theorem lone_pieces (text : List Char) (lone : Lone text) (trimmed : trim text = text) (some : text ≠ []) :
    piecesOfLine text = [text] := by
  cases lone with
  | closing => decide +kernel
  | cut text uncommented cut =>
      have uncut : beforeComment 0 ' ' ' ' text = text := before_comment_whole .start text uncommented
      cases cut with
      | plain text sheltered =>
          rw [piecesOfLine, uncut, split_braces_whole 0 text sheltered, List.map_singleton, trimmed]
          simp [some]
      | opening text sheltered outside =>
          rw [piecesOfLine, uncut, split_braces_opening 0 text sheltered outside, List.map_cons, List.map_singleton, trimmed,
            trim_nil]
          simp

theorem pieces_again (row : List Char) : ∀ piece ∈ piecesOfLine row, piecesOfLine piece = [piece] := by
  have plain : Uncommented .start (beforeComment 0 ' ' ' ' row) := before_comment_uncommented .start row
  obtain ⟨first, rest, parts, start, cut, lone⟩ := split_braces_cut .start _ plain
  intro piece member
  rw [piecesOfLine, List.mem_filter, List.mem_map, show splitBraces 0 _ = _ from parts] at member
  obtain ⟨⟨raw, among, rfl⟩, some⟩ := member
  have alone : Lone raw := by
    rcases List.mem_cons.mp among with rfl | later
    · exact cut_lone .start raw _ start plain rfl start_neutral cut
    · exact lone raw later
  exact lone_pieces _ (lone_trim raw alone) (trim_trim raw) (by simpa using some)

theorem scan_lines_alone (number : Nat) (rows : List (List Char)) (alone : ∀ row ∈ rows, piecesOfLine row = [row]) :
    scanLines number rows = rows.mapIdx fun index row => ⟨number + index, row⟩ := by
  induction rows generalizing number with
  | nil => rfl
  | cons row rows ih =>
      rw [scan_lines_one number row row rows (alone row List.mem_cons_self),
        ih (number + 1) fun other member => alone other (List.mem_cons_of_mem _ member), List.mapIdx_cons]
      simp only [Nat.add_zero, Nat.add_right_comm, Nat.add_assoc]

theorem scan_alone (source : List Char) : ∀ row ∈ (scan source).map Statement.text, piecesOfLine row = [row] := by
  intro row member
  obtain ⟨statement, among, rfl⟩ := List.mem_map.mp member
  obtain ⟨-, line, -, piece⟩ := scan_stands source statement among
  exact pieces_again line statement.text piece

def lineOf (statements : List Statement) (number : Nat) : Nat := (statements[number - 1]?.map Statement.line).getD 0

theorem numbered_moved (statements : List Statement) :
    ((statements.map Statement.text).mapIdx fun index text => (⟨1 + index, text⟩ : Statement)).map
      (Statement.moved (lineOf statements)) = statements := by
  apply List.ext_getElem
  · simp
  · intro index _ bound
    simp [Statement.moved, lineOf, bound]

-- A text may as well be written with one statement a line: it is then scanned as those statements, and read as the same entities
-- in the same order, the same relations, and as many diagnostics, each on the line that its statement is now found on.
theorem listing_reads_alike (identifier : String) (source : List Char) :
    lines (onLines ((scan source).map Statement.text)) = (scan source).map Statement.text ∧
      ∀ listed : List Char, lines listed = (scan source).map Statement.text →
        scan listed = ((scan source).map Statement.text).mapIdx (fun index text => ⟨1 + index, text⟩) ∧
        (Schema.parse identifier listed).entities.map Entity.unplaced =
          (Schema.parse identifier source).entities.map Entity.unplaced ∧
        (Schema.parse identifier listed).relations = (Schema.parse identifier source).relations ∧
        ((Schema.parse identifier listed).errors.map (Diagnostic.moved (lineOf (scan source)))).Perm
          (Schema.parse identifier source).errors ∧
        (Schema.parse identifier listed).errors.length = (Schema.parse identifier source).errors.length := by
  refine ⟨lines_flat_map _ fun row member => ?_, fun listed rows => ?_⟩
  · obtain ⟨statement, among, rfl⟩ := List.mem_map.mp member
    exact (scan_tame source statement among).unbroken
  · have scanned : scan listed = ((scan source).map Statement.text).mapIdx fun index text => ⟨1 + index, text⟩ := by
      rw [scan, rows]
      exact scan_lines_alone 1 _ (scan_alone source)
    have placed : (scan listed).map (Statement.moved (lineOf (scan source))) = scan source := by
      rw [scanned]
      exact numbered_moved (scan source)
    have read := read_moved (lineOf (scan source)) (scan listed)
    rw [placed] at read
    have told : ((byLine (readStatements (scan listed)).2).map (Diagnostic.moved (lineOf (scan source)))).Perm
        (byLine (readStatements (scan source)).2) := by
      rw [read]
      exact ((by_line_perm _).map _).trans (by_line_perm _).symm
    have count := told.length_eq
    rw [List.length_map] at count
    rw [parse_statements, parse_statements]
    refine ⟨scanned, ?_, ?_, told, count⟩
    · rw [read, unplaced_moved]
    · rw [Schema.relations, Schema.relations, read, relations_moved]

end Schematic
