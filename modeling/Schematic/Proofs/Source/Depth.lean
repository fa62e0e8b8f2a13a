import Schematic.Proofs.Text.Blanks
import Schematic.Proofs.Source.Names

set_option autoImplicit false

namespace Schematic

open Text

def depthOver (depth : Nat) (text : List Char) : Nat := text.foldl depthAfter depth

def Sheltered (marks : List Char) (depth : Nat) : List Char → Prop
  | [] => True
  | c :: rest => (c ∈ marks → depthAfter depth c ≠ 0) ∧ Sheltered marks (depthAfter depth c) rest

theorem depth_after_plain (depth : Nat) (c : Char) (opening : c ≠ '(') (closing : c ≠ ')') : depthAfter depth c = depth := by
  rw [depthAfter, if_neg opening, if_neg closing]

theorem depth_over_cons (depth : Nat) (c : Char) (text : List Char) :
    depthOver depth (c :: text) = depthOver (depthAfter depth c) text := rfl

theorem depth_over_append (depth : Nat) (a b : List Char) : depthOver depth (a ++ b) = depthOver (depthOver depth a) b :=
  List.foldl_append

theorem depth_over_plain (depth : Nat) (text : List Char) (opening : '(' ∉ text) (closing : ')' ∉ text) :
    depthOver depth text = depth := by
  induction text with
  | nil => rfl
  | cons c text ih =>
      simp only [List.mem_cons, not_or] at opening closing
      rw [depth_over_cons, depth_after_plain depth c (Ne.symm opening.1) (Ne.symm closing.1), ih opening.2 closing.2]

theorem depth_over_blanks (depth : Nat) (text : List Char) (blank : Blanks text) : depthOver depth text = depth :=
  depth_over_plain depth text (fun member => absurd (blank '(' member) (by decide))
    fun member => absurd (blank ')' member) (by decide)

theorem depth_over_name (depth : Nat) (name : List Char) (named : isName name = true) : depthOver depth name = depth :=
  depth_over_plain depth name (name_absent name '(' named (by decide)) (name_absent name ')' named (by decide))

theorem depth_over_trim (depth : Nat) (text : List Char) : depthOver depth (trim text) = depthOver depth text := by
  obtain ⟨a, b, before, after, parts⟩ := trim_parts text
  conv_rhs => rw [parts]
  rw [depth_over_append, depth_over_append, depth_over_blanks depth a before, depth_over_blanks _ b after]

theorem sheltered_append (marks : List Char) (depth : Nat) (a b : List Char) :
    Sheltered marks depth (a ++ b) ↔ Sheltered marks depth a ∧ Sheltered marks (depthOver depth a) b := by
  induction a generalizing depth with
  | nil => simp [Sheltered, depthOver]
  | cons c a ih =>
      rw [List.cons_append, Sheltered, Sheltered, ih, depth_over_cons, and_assoc]

theorem sheltered_absent (marks : List Char) (depth : Nat) (text : List Char) (absent : ∀ c ∈ text, c ∉ marks) :
    Sheltered marks depth text := by
  induction text generalizing depth with
  | nil => trivial
  | cons c text ih =>
      exact ⟨fun member => absurd member (absent c List.mem_cons_self),
        ih _ fun d member => absent d (List.mem_cons_of_mem _ member)⟩

theorem sheltered_literal (marks : List Char) (depth : Nat) (text : List Char)
    (absent : text.all (fun c => !marks.contains c) = true) : Sheltered marks depth text :=
  sheltered_absent marks depth text fun c member => by simpa using List.all_eq_true.mp absent c member

theorem sheltered_union (a b : List Char) (depth : Nat) (text : List Char) :
    Sheltered (a ++ b) depth text ↔ Sheltered a depth text ∧ Sheltered b depth text := by
  induction text generalizing depth with
  | nil => simp [Sheltered]
  | cons c text ih =>
      simp only [Sheltered, ih, List.mem_append]
      constructor
      · rintro ⟨here, first, second⟩
        exact ⟨⟨fun member => here (.inl member), first⟩, fun member => here (.inr member), second⟩
      · rintro ⟨⟨here, first⟩, there, second⟩
        exact ⟨fun member => member.elim here there, first, second⟩

-- A text whose parentheses match leaves the depth as it was, and inside other parentheses it shelters everything.
theorem balanced_inside (marks : List Char) (text : List Char) (inner outer : Nat) (closed : balanced inner text = true) :
    depthOver (outer + inner) text = outer ∧ (0 < outer → Sheltered marks (outer + inner) text) := by
  induction text generalizing inner with
  | nil =>
      obtain rfl : inner = 0 := by simpa [balanced] using closed
      exact ⟨rfl, fun _ => trivial⟩
  | cons c text ih =>
      rw [depth_over_cons, Sheltered]
      rw [balanced.eq_def] at closed
      split at closed
      · simp at *
      · rename_i rest same
        obtain ⟨rfl, rfl⟩ := List.cons.inj same
        obtain ⟨depth, sheltered⟩ := ih (inner + 1) closed
        exact ⟨depth, fun inside => ⟨fun _ => by simp [depthAfter], sheltered inside⟩⟩
      · rename_i rest same
        obtain ⟨rfl, rfl⟩ := List.cons.inj same
        cases inner with
        | zero => simp at closed
        | succ inner =>
            obtain ⟨depth, sheltered⟩ := ih inner closed
            exact ⟨depth, fun inside => ⟨fun _ => by simp [depthAfter]; omega, sheltered inside⟩⟩
      · rename_i d rest opening closing same
        obtain ⟨rfl, rfl⟩ := List.cons.inj same
        have plain := depth_after_plain (outer + inner) c opening closing
        obtain ⟨depth, sheltered⟩ := ih inner closed
        rw [plain]
        exact ⟨depth, fun inside => ⟨fun _ => by omega, sheltered inside⟩⟩

theorem balanced_front (a b : List Char) (inner : Nat) (closed : balanced inner (a ++ b) = true)
    (outside : depthOver inner a = 0) : balanced inner a = true := by
  induction a generalizing inner with
  | nil => simpa [balanced, depthOver] using outside
  | cons c a ih =>
      rw [List.cons_append, balanced.eq_def] at closed
      rw [depth_over_cons] at outside
      split at closed
      · simp at *
      · rename_i rest same
        obtain ⟨rfl, rfl⟩ := List.cons.inj same
        exact ih (inner + 1) closed (by simpa [depthAfter] using outside)
      · rename_i rest same
        obtain ⟨rfl, rfl⟩ := List.cons.inj same
        cases inner with
        | zero => simp at closed
        | succ inner => exact ih inner closed (by simpa [depthAfter] using outside)
      · rename_i d rest opening closing same
        obtain ⟨rfl, rfl⟩ := List.cons.inj same
        rw [depth_after_plain inner c opening closing] at outside
        have plain : balanced inner (c :: a) = balanced inner a := by
          rw [balanced.eq_def]
          split <;> simp_all
        rw [plain]
        exact ih inner closed outside

theorem split_outside_cons (separator : Char) (depth : Nat) (text : List Char) :
    ∃ first rest, splitOutside separator depth text = first :: rest := by
  cases text with
  | nil => exact ⟨[], [], rfl⟩
  | cons c text =>
      rw [splitOutside]
      split
      · exact ⟨_, _, rfl⟩
      · cases splitOutside separator (depthAfter depth c) text with
        | nil => exact ⟨_, _, rfl⟩
        | cons first rest => exact ⟨_, _, rfl⟩

theorem split_outside_first (separator : Char) (depth : Nat) (text first : List Char) (rest : List (List Char))
    (parted : splitOutside separator depth text = first :: rest) :
    Sheltered [separator] depth first ∧
      (text = first ∧ rest = [] ∨
        ∃ tail, text = first ++ separator :: tail ∧ depthAfter (depthOver depth first) separator = 0) := by
  induction text generalizing depth first rest with
  | nil =>
      obtain ⟨rfl, rfl⟩ := List.cons.inj parted
      exact ⟨trivial, .inl ⟨rfl, rfl⟩⟩
  | cons c text ih =>
      rw [splitOutside] at parted
      by_cases found : c = separator ∧ depthAfter depth c = 0
      · rw [if_pos found] at parted
        obtain ⟨rfl, rfl⟩ := List.cons.inj parted
        obtain ⟨rfl, outside⟩ := found
        exact ⟨trivial, .inr ⟨text, rfl, outside⟩⟩
      · rw [if_neg found] at parted
        obtain ⟨piece, pieces, later⟩ := split_outside_cons separator (depthAfter depth c) text
        rw [later, consFirst] at parted
        obtain ⟨rfl, rfl⟩ := List.cons.inj parted
        obtain ⟨sheltered, parts⟩ := ih (depthAfter depth c) piece pieces later
        refine ⟨⟨fun member outside => found ⟨by simpa using member, outside⟩, sheltered⟩, ?_⟩
        rcases parts with ⟨rfl, rfl⟩ | ⟨tail, rfl, outside⟩
        · exact .inl ⟨rfl, rfl⟩
        · exact .inr ⟨tail, rfl, outside⟩

theorem split_outside_whole (separator : Char) (depth : Nat) (text : List Char) (sheltered : Sheltered [separator] depth text) :
    splitOutside separator depth text = [text] := by
  induction text generalizing depth with
  | nil => rfl
  | cons c text ih =>
      have inside : ¬ (c = separator ∧ depthAfter depth c = 0) := by
        rintro ⟨rfl, outside⟩
        exact sheltered.1 (by simp) outside
      rw [splitOutside, if_neg inside, ih _ sheltered.2, consFirst]

theorem split_outside_append (separator : Char) (depth : Nat) (a b : List Char) (sheltered : Sheltered [separator] depth a)
    (outside : depthAfter (depthOver depth a) separator = 0) :
    splitOutside separator depth (a ++ separator :: b) = a :: splitOutside separator 0 b := by
  induction a generalizing depth with
  | nil => rw [List.nil_append, splitOutside, if_pos ⟨rfl, outside⟩, show depthAfter depth separator = 0 from outside]
  | cons c a ih =>
      have inside : ¬ (c = separator ∧ depthAfter depth c = 0) := by
        rintro ⟨rfl, here⟩
        exact sheltered.1 (by simp) here
      rw [List.cons_append, splitOutside, if_neg inside, ih _ sheltered.2 outside, consFirst]

end Schematic
