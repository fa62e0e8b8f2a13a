import Schematic.Proofs.Source.Depth

set_option autoImplicit false

namespace Schematic

open Text

-- A place in a line: the open parentheses and the two characters already passed.
structure Spot where
  depth : Nat
  before : Char
  last : Char

def Spot.start : Spot := ⟨0, ' ', ' '⟩

def Spot.next (spot : Spot) (c : Char) : Spot := ⟨depthAfter spot.depth c, spot.last, c⟩

def Spot.over (spot : Spot) (text : List Char) : Spot := text.foldl Spot.next spot

def Spot.Opens (spot : Spot) (c : Char) (following : Option Char) : Prop :=
  c = '/' ∧ following = some '/' ∧ spot.depth = 0 ∧ ¬ (spot.last = ':' ∧ isAlphanumeric spot.before = true)

def Uncommented (spot : Spot) : List Char → Prop
  | [] => True
  | c :: rest => ¬ spot.Opens c rest.head? ∧ Uncommented (spot.next c) rest

-- A character after which it does not matter what stood before it.
def Neutral (c : Char) : Prop := c ≠ ':' ∧ isAlphanumeric c = false

theorem over_append (spot : Spot) (a b : List Char) : spot.over (a ++ b) = (spot.over a).over b := List.foldl_append

theorem over_depth (spot : Spot) (text : List Char) : (spot.over text).depth = depthOver spot.depth text := by
  induction text generalizing spot with
  | nil => rfl
  | cons c text ih => exact ih (spot.next c)

theorem blank_neutral (c : Char) (blank : isBlank c = true) : Neutral c := by
  refine ⟨?_, blank_not_alphanumeric c blank⟩
  rintro rfl
  exact absurd blank (by decide)

theorem over_blanks_neutral (spot : Spot) (text : List Char) (blank : Blanks text) (neutral : Neutral spot.last) :
    Neutral (spot.over text).last := by
  induction text generalizing spot with
  | nil => exact neutral
  | cons c text ih =>
      obtain ⟨here, later⟩ := (blanks_cons c text).mp blank
      exact ih (spot.next c) later (blank_neutral c here)

theorem uncommented_append (spot : Spot) (a b : List Char) (plain : Uncommented spot (a ++ b)) :
    Uncommented spot a ∧ Uncommented (spot.over a) b := by
  induction a generalizing spot with
  | nil => exact ⟨trivial, plain⟩
  | cons c a ih =>
      rw [List.cons_append] at plain
      obtain ⟨here, later⟩ := plain
      obtain ⟨first, second⟩ := ih (spot.next c) later
      refine ⟨⟨?_, first⟩, second⟩
      rintro ⟨slash, following, outside⟩
      refine here ⟨slash, ?_, outside⟩
      rw [List.head?_append, following]
      rfl

theorem uncommented_join (spot : Spot) (a b : List Char) (first : Uncommented spot a) (second : Uncommented (spot.over a) b)
    (apart : b.head? ≠ some '/') : Uncommented spot (a ++ b) := by
  induction a generalizing spot with
  | nil => exact second
  | cons c a ih =>
      refine ⟨?_, ih (spot.next c) first.2 second⟩
      rintro ⟨slash, following, outside⟩
      cases a with
      | nil => exact apart following
      | cons d a => exact first.1 ⟨slash, following, outside⟩

theorem uncommented_after (spot : Spot) (a b : List Char) (absent : '/' ∉ a) (plain : Uncommented (spot.over a) b) :
    Uncommented spot (a ++ b) := by
  induction a generalizing spot with
  | nil => exact plain
  | cons c a ih =>
      simp only [List.mem_cons, not_or] at absent
      exact ⟨fun opens => absent.1 opens.1.symm, ih (spot.next c) absent.2 plain⟩

theorem uncommented_absent (spot : Spot) (text : List Char) (absent : '/' ∉ text) : Uncommented spot text := by
  have whole := uncommented_after spot text [] absent trivial
  rwa [List.append_nil] at whole

theorem uncommented_neutral (a b : Spot) (text : List Char) (same : a.depth = b.depth) (neutral : Neutral a.last)
    (plain : Uncommented a text) : Uncommented b text := by
  cases text with
  | nil => trivial
  | cons c text =>
      obtain ⟨here, later⟩ := plain
      refine ⟨?_, ?_⟩
      · rintro ⟨slash, following, outside, -⟩
        exact here ⟨slash, following, same.trans outside, fun address => neutral.1 address.1⟩
      · cases text with
        | nil => trivial
        | cons d text =>
            obtain ⟨there, rest⟩ := later
            have depths : (a.next c).depth = (b.next c).depth := congrArg (depthAfter · c) same
            refine ⟨?_, ?_⟩
            · rintro ⟨slash, following, outside, -⟩
              refine there ⟨slash, following, depths.trans outside, ?_⟩
              rintro ⟨-, alphanumeric⟩
              exact absurd (neutral.2.symm.trans alphanumeric) Bool.false_ne_true
            · have spots : (a.next c).next d = (b.next c).next d := by
                simp only [Spot.next] at depths ⊢
                rw [depths]
              rwa [← spots]

theorem balanced_uncommented (spot : Spot) (text : List Char) (inner outer : Nat) (closed : balanced inner text = true)
    (inside : 0 < outer) (here : spot.depth = outer + inner) : Uncommented spot text := by
  induction text generalizing spot inner with
  | nil => trivial
  | cons c text ih =>
      refine ⟨fun opens => ?_, ?_⟩
      · have outside := opens.2.2.1
        omega
      · rw [balanced.eq_def] at closed
        split at closed
        · simp at *
        · rename_i rest same
          obtain ⟨rfl, rfl⟩ := List.cons.inj same
          exact ih _ (inner + 1) closed (by simp [Spot.next, depthAfter]; omega)
        · rename_i rest same
          obtain ⟨rfl, rfl⟩ := List.cons.inj same
          cases inner with
          | zero => simp at closed
          | succ inner => exact ih _ inner closed (by simp [Spot.next, depthAfter]; omega)
        · rename_i d rest opening closing same
          obtain ⟨rfl, rfl⟩ := List.cons.inj same
          exact ih _ inner closed (by simp only [Spot.next, depth_after_plain _ c opening closing, here])

theorem before_comment_whole (spot : Spot) (text : List Char) (plain : Uncommented spot text) :
    beforeComment spot.depth spot.before spot.last text = text := by
  induction text generalizing spot with
  | nil => rfl
  | cons c text ih =>
      have kept : ¬ (c = '/' ∧ text.head? = some '/' ∧ spot.depth = 0 ∧
          ¬ (spot.last = ':' ∧ isAlphanumeric spot.before = true)) := plain.1
      rw [beforeComment, if_neg kept]
      exact congrArg (c :: ·) (ih (spot.next c) plain.2)

theorem before_comment_prefix (spot : Spot) (text : List Char) :
    beforeComment spot.depth spot.before spot.last text <+: text := by
  induction text generalizing spot with
  | nil => exact List.prefix_refl []
  | cons c text ih =>
      rw [beforeComment]
      split
      · exact List.nil_prefix
      · exact List.cons_prefix_cons.mpr ⟨rfl, ih (spot.next c)⟩

theorem before_comment_uncommented (spot : Spot) (text : List Char) :
    Uncommented spot (beforeComment spot.depth spot.before spot.last text) := by
  induction text generalizing spot with
  | nil => trivial
  | cons c text ih =>
      rw [beforeComment]
      split
      · trivial
      · rename_i kept
        refine ⟨?_, ih (spot.next c)⟩
        rintro ⟨slash, following, outside⟩
        obtain ⟨tail, whole⟩ := before_comment_prefix (spot.next c) text
        refine kept ⟨slash, ?_, outside⟩
        rw [← whole, List.head?_append]
        exact congrArg (Option.or · _) following

theorem before_comment_pass (spot : Spot) (c : Char) (text : List Char) (closed : ¬ spot.Opens c text.head?) :
    beforeComment spot.depth spot.before spot.last (c :: text) =
      c :: beforeComment (spot.next c).depth (spot.next c).before (spot.next c).last text :=
  if_neg closed

theorem before_comment_append (spot : Spot) (a b : List Char) (plain : Uncommented spot a) (apart : a.getLast? ≠ some '/') :
    beforeComment spot.depth spot.before spot.last (a ++ b) =
      a ++ beforeComment (spot.over a).depth (spot.over a).before (spot.over a).last b := by
  induction a generalizing spot with
  | nil => rfl
  | cons c a ih =>
      obtain ⟨here, later⟩ := plain
      have kept : ¬ spot.Opens c (a ++ b).head? := by
        rintro ⟨slash, following, outside⟩
        cases a with
        | nil => exact apart (congrArg some slash)
        | cons d a => exact here ⟨slash, following, outside⟩
      have rest : a.getLast? ≠ some '/' := by
        cases a with
        | nil => simp
        | cons d a => simpa using apart
      rw [List.cons_append, before_comment_pass spot c _ kept, ih (spot.next c) later rest]
      rfl

-- Where a comment is cut off, the line ends in front of two slashes, whatever follows them.
theorem before_comment_stop (spot : Spot) (text : List Char)
    (cut : beforeComment spot.depth spot.before spot.last text ≠ text) :
    ∃ kept rest, text = kept ++ '/' :: '/' :: rest ∧ Uncommented spot (kept ++ ['/']) ∧
      (spot.over kept).Opens '/' (some '/') ∧
      ∀ after, beforeComment spot.depth spot.before spot.last (text ++ after) = kept := by
  induction text generalizing spot with
  | nil => exact absurd rfl cut
  | cons c text ih =>
      by_cases opens : spot.Opens c text.head?
      · obtain ⟨rfl, following, outside⟩ := opens
        obtain ⟨rest, rfl⟩ : ∃ rest, text = '/' :: rest := ⟨text.tail, (List.cons_head?_tail following).symm⟩
        exact ⟨[], rest, rfl, ⟨by simp [Spot.Opens], trivial⟩, ⟨rfl, rfl, outside⟩, fun _ => if_pos ⟨rfl, rfl, outside⟩⟩
      · have later : beforeComment (spot.next c).depth (spot.next c).before (spot.next c).last text ≠ text := by
          intro same
          refine cut ?_
          rw [before_comment_pass spot c text opens, same]
        obtain ⟨kept, rest, rfl, plain, stops, longer⟩ := ih (spot.next c) later
        have following : ∀ after, (kept ++ '/' :: '/' :: rest ++ after).head? = (kept ++ '/' :: '/' :: rest).head? := by
          intro after
          cases kept <;> rfl
        have first : (kept ++ ['/']).head? = (kept ++ '/' :: '/' :: rest).head? := by cases kept <;> rfl
        refine ⟨c :: kept, rest, rfl, ⟨?_, plain⟩, stops, fun after => ?_⟩
        · exact first ▸ opens
        · rw [List.cons_append, before_comment_pass spot c _ (following after ▸ opens), longer after]

theorem pieces_before_comment (text : List Char) : piecesOfLine (beforeComment 0 ' ' ' ' text) = piecesOfLine text := by
  have kept : beforeComment 0 ' ' ' ' (beforeComment 0 ' ' ' ' text) = beforeComment 0 ' ' ' ' text :=
    before_comment_whole .start _ (before_comment_uncommented .start text)
  rw [piecesOfLine, kept]
  rfl

def braces : List Char := ['{', '}']

-- A text on one line, without a comment, whose braces outside parentheses stand only at its end.
structure Tame (text : List Char) : Prop where
  unbroken : Unbroken text
  uncommented : ∃ spot : Spot, spot.depth = 0 ∧ Uncommented spot text
  sheltered : Sheltered braces 0 text.dropLast

theorem sheltered_drop_last (marks : List Char) (depth : Nat) (before text after : List Char)
    (sheltered : Sheltered marks depth (before ++ text ++ after).dropLast) :
    Sheltered marks (depthOver depth before) text.dropLast := by
  rcases List.eq_nil_or_concat text with rfl | ⟨front, c, rfl⟩
  · trivial
  · have whole : before ++ front.concat c ++ after = before ++ front ++ (c :: after) := by simp
    rw [whole, List.dropLast_append_of_ne_nil (by simp), sheltered_append, sheltered_append] at sheltered
    rw [List.concat_eq_append, List.dropLast_concat]
    exact sheltered.1.2

theorem tame_infix (before text after : List Char) (outside : depthOver 0 before = 0)
    (tame : Tame (before ++ text ++ after)) : Tame text := by
  obtain ⟨unbroken, ⟨spot, depth, plain⟩, sheltered⟩ := tame
  refine ⟨fun c member => unbroken c (by simp [member]), ⟨spot.over before, ?_, ?_⟩, ?_⟩
  · rw [over_depth, depth, outside]
  · exact (uncommented_append _ _ _ (uncommented_append _ _ _ plain).1).2
  · have kept := sheltered_drop_last braces 0 before text after sheltered
    rwa [outside] at kept

theorem tame_trim (text : List Char) (tame : Tame text) : Tame (trim text) := by
  obtain ⟨a, b, before, after, parts⟩ := trim_parts text
  rw [parts] at tame
  exact tame_infix a _ b (depth_over_blanks 0 a before) tame

theorem split_braces_tame (spot : Spot) (text : List Char) (unbroken : Unbroken text) (plain : Uncommented spot text) :
    ∃ first rest, splitBraces spot.depth text = first :: rest ∧ first <+: text ∧
      Sheltered braces spot.depth first.dropLast ∧ ∀ piece ∈ rest, Tame piece := by
  induction text generalizing spot with
  | nil => exact ⟨[], [], rfl, List.prefix_refl [], trivial, by simp⟩
  | cons c text ih =>
      have tail : Unbroken text := fun d member => unbroken d (List.mem_cons_of_mem _ member)
      obtain ⟨first, rest, parts, start, sheltered, tame⟩ := ih (spot.next c) tail plain.2
      have next : depthAfter spot.depth c = (spot.next c).depth := rfl
      have opened : (spot.next c).depth = 0 → Tame first := by
        intro outside
        obtain ⟨after, whole⟩ := start
        exact ⟨fun d member => tail d (by rw [← whole]; exact List.mem_append_left _ member),
          ⟨spot.next c, outside, (uncommented_append _ first after (by rw [whole]; exact plain.2)).1⟩,
          by rwa [outside] at sheltered⟩
      rw [splitBraces, next, parts]
      by_cases opening : c = '{' ∧ (spot.next c).depth = 0
      · rw [if_pos opening]
        refine ⟨_, _, rfl, by simp [opening.1], trivial, ?_⟩
        intro piece member
        rcases List.mem_cons.mp member with rfl | later
        · exact opened opening.2
        · exact tame piece later
      · rw [if_neg opening]
        by_cases closing : c = '}' ∧ (spot.next c).depth = 0
        · rw [if_pos closing]
          refine ⟨_, _, rfl, List.nil_prefix, trivial, ?_⟩
          intro piece member
          rcases List.mem_cons.mp member with rfl | member
          · exact ⟨by simp [Unbroken, isLineBreak], ⟨.start, rfl, uncommented_absent _ _ (by decide)⟩, trivial⟩
          · rcases List.mem_cons.mp member with rfl | later
            · exact opened closing.2
            · exact tame piece later
        · rw [if_neg closing]
          refine ⟨c :: first, rest, rfl, List.cons_prefix_cons.mpr ⟨rfl, start⟩, ?_, tame⟩
          cases first with
          | nil => trivial
          | cons d first =>
              refine ⟨fun member outside => ?_, sheltered⟩
              rcases List.mem_cons.mp member with rfl | member
              · exact opening ⟨rfl, outside⟩
              · exact closing ⟨by simpa using member, outside⟩

theorem pieces_tame (text : List Char) (unbroken : Unbroken text) : ∀ piece ∈ piecesOfLine text, Tame piece := by
  have start : beforeComment 0 ' ' ' ' text <+: text := before_comment_prefix .start text
  have plain : Uncommented .start (beforeComment 0 ' ' ' ' text) := before_comment_uncommented .start text
  rw [piecesOfLine]
  generalize beforeComment 0 ' ' ' ' text = kept at start plain
  have whole : Unbroken kept := fun c member => unbroken c (start.subset member)
  obtain ⟨first, rest, parts, ⟨after, rfl⟩, sheltered, tame⟩ := split_braces_tame .start kept whole plain
  intro piece member
  rw [List.mem_filter, List.mem_map] at member
  obtain ⟨⟨raw, among, rfl⟩, -⟩ := member
  apply tame_trim
  rw [show splitBraces 0 _ = _ from parts] at among
  rcases List.mem_cons.mp among with rfl | later
  · exact ⟨fun d inside => whole d (List.mem_append_left _ inside),
      ⟨.start, rfl, (uncommented_append _ _ _ plain).1⟩, sheltered⟩
  · exact tame raw later

theorem scan_lines_tame (number : Nat) (rows : List (List Char)) (unbroken : ∀ row ∈ rows, Unbroken row) :
    ∀ statement ∈ scanLines number rows, Tame statement.text := by
  induction rows generalizing number with
  | nil => simp [scanLines]
  | cons row rows ih =>
      intro statement member
      rw [scanLines, List.mem_append, List.mem_map] at member
      rcases member with ⟨piece, among, rfl⟩ | later
      · exact pieces_tame row (unbroken row List.mem_cons_self) piece among
      · exact ih (number + 1) (fun other inside => unbroken other (List.mem_cons_of_mem _ inside)) statement later

theorem scan_tame (source : List Char) : ∀ statement ∈ scan source, Tame statement.text :=
  scan_lines_tame 1 (lines source) (mem_lines source)

end Schematic
