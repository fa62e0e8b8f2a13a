import Schematic.Proofs.Source.Moving

set_option autoImplicit false

namespace Schematic

def Diagnostic.earlier (a b : Diagnostic) : Bool := a.line ≤ b.line

def byLine (found : List Diagnostic) : List Diagnostic := found.mergeSort Diagnostic.earlier

theorem parse_statements (identifier : String) (source : List Char) :
    Schema.parse identifier source = ⟨(readStatements (scan source)).1, byLine (readStatements (scan source)).2, identifier⟩ := rfl

theorem earlier_iff (a b : Diagnostic) : a.earlier b = true ↔ a.line ≤ b.line := by
  rw [Diagnostic.earlier, decide_eq_true_eq]

theorem earlier_trans (a b c : Diagnostic) (first : a.earlier b = true) (second : b.earlier c = true) : a.earlier c = true := by
  rw [earlier_iff] at first second ⊢
  omega

theorem earlier_total (a b : Diagnostic) : (a.earlier b || b.earlier a) = true := by
  rw [Bool.or_eq_true, earlier_iff, earlier_iff]
  omega

theorem by_line_perm (found : List Diagnostic) : (byLine found).Perm found := List.mergeSort_perm found _

theorem by_line_ascending (found : List Diagnostic) : (byLine found).Pairwise fun a b => a.line ≤ b.line :=
  (List.pairwise_mergeSort earlier_trans earlier_total found).imp fun {a b} before => (earlier_iff a b).mp before

theorem by_line_moved (place : Nat → Nat) (keeps : ∀ a b, place a ≤ place b ↔ a ≤ b) (found : List Diagnostic) :
    byLine (found.map (Diagnostic.moved place)) = (byLine found).map (Diagnostic.moved place) := by
  refine (List.map_mergeSort fun a _ b _ => ?_).symm
  rw [Diagnostic.earlier, Diagnostic.earlier, decide_eq_decide]
  exact (keeps a.line b.line).symm

def below (line : Nat) (found : List Diagnostic) : List Diagnostic := found.filter (·.line < line)

def above (line : Nat) (found : List Diagnostic) : List Diagnostic := found.filter (line ≤ ·.line)

theorem below_append (line : Nat) (a b : List Diagnostic) : below line (a ++ b) = below line a ++ below line b :=
  List.filter_append a b

theorem above_append (line : Nat) (a b : List Diagnostic) : above line (a ++ b) = above line a ++ above line b :=
  List.filter_append a b

theorem below_all (line : Nat) (found : List Diagnostic) (less : ∀ told ∈ found, told.line < line) :
    below line found = found ∧ above line found = [] := by
  constructor
  · exact List.filter_eq_self.mpr fun told member => by simpa using less told member
  · exact List.filter_eq_nil_iff.mpr fun told member => by simpa using less told member

theorem above_all (line : Nat) (found : List Diagnostic) (more : ∀ told ∈ found, line ≤ told.line) :
    below line found = [] ∧ above line found = found := by
  constructor
  · exact List.filter_eq_nil_iff.mpr fun told member => by simpa using more told member
  · exact List.filter_eq_self.mpr fun told member => by simpa using more told member

theorem by_line_cons (fresh : Diagnostic) (found : List Diagnostic) :
    byLine (fresh :: found) = below fresh.line (byLine found) ++ fresh :: above fresh.line (byLine found) ∧
      byLine found = below fresh.line (byLine found) ++ above fresh.line (byLine found) := by
  obtain ⟨early, late, whole, rest, smaller⟩ := List.mergeSort_cons earlier_trans earlier_total fresh found
  have less : ∀ told ∈ early, told.line < fresh.line := by
    intro told member
    have apart := smaller told member
    rw [Bool.not_eq_true', ← Bool.not_eq_true, earlier_iff] at apart
    omega
  have more : ∀ told ∈ late, fresh.line ≤ told.line := by
    have sorted := by_line_ascending (fresh :: found)
    rw [byLine, whole, List.pairwise_append] at sorted
    exact fun told member => (List.pairwise_cons.mp sorted.2.1).1 told member
  have split : byLine found = early ++ late := rest
  obtain ⟨keptEarly, dropEarly⟩ := below_all _ early less
  obtain ⟨dropLate, keptLate⟩ := above_all _ late more
  rw [split, below_append, above_append, keptEarly, dropEarly, dropLate, keptLate, List.append_nil, List.nil_append]
  exact ⟨whole, rfl⟩

theorem by_line_insert (before after : List Diagnostic) (fresh : Diagnostic)
    (alone : ∀ told ∈ before ++ after, told.line ≠ fresh.line) :
    ∃ early late, byLine (before ++ after) = early ++ late ∧ byLine (before ++ fresh :: after) = early ++ fresh :: late ∧
      (∀ told ∈ early, told.line < fresh.line) ∧ ∀ told ∈ late, fresh.line < told.line := by
  induction before with
  | nil =>
      obtain ⟨whole, rest⟩ := by_line_cons fresh after
      refine ⟨_, _, rest, whole, fun told member => by simpa using (List.mem_filter.mp member).2, fun told member => ?_⟩
      obtain ⟨among, later⟩ := List.mem_filter.mp member
      have apart := alone told ((by_line_perm after).mem_iff.mp among)
      have least : fresh.line ≤ told.line := by simpa using later
      omega
  | cons first before ih =>
      obtain ⟨early, late, rest, whole, less, more⟩ := ih fun told member => alone told (List.mem_cons_of_mem _ member)
      have apart := alone first List.mem_cons_self
      have without := (by_line_cons first (before ++ after)).1
      have present := (by_line_cons first (before ++ fresh :: after)).1
      rw [rest, below_append, above_append] at without
      rw [whole, below_append, above_append] at present
      by_cases sooner : first.line < fresh.line
      · obtain ⟨none, all⟩ := above_all first.line late fun told member => by have := more told member; omega
        obtain ⟨skipped, kept⟩ := above_all first.line (fresh :: late) fun told member => by
          rcases List.mem_cons.mp member with rfl | later
          · omega
          · have := more told later
            omega
        refine ⟨below first.line early ++ first :: above first.line early, late, ?_, ?_, ?_, more⟩
        · rw [List.cons_append, without, none, all]
          simp
        · rw [List.cons_append, present, skipped, kept]
          simp
        · intro told member
          rcases List.mem_append.mp member with among | among
          · exact less told (List.mem_of_mem_filter among)
          · rcases List.mem_cons.mp among with rfl | among
            · exact sooner
            · exact less told (List.mem_of_mem_filter among)
      · obtain ⟨all, none⟩ := below_all first.line early fun told member => by have := less told member; omega
        have here : below first.line (fresh :: late) = fresh :: below first.line late :=
          List.filter_cons_of_pos (by simp; omega)
        have there : above first.line (fresh :: late) = above first.line late := List.filter_cons_of_neg (by simp; omega)
        refine ⟨early, below first.line late ++ first :: above first.line late, ?_, ?_, less, ?_⟩
        · rw [List.cons_append, without, all, none]
          simp
        · rw [List.cons_append, present, all, none, here, there]
          simp
        · intro told member
          rcases List.mem_append.mp member with among | among
          · exact more told (List.mem_of_mem_filter among)
          · rcases List.mem_cons.mp among with rfl | among
            · omega
            · exact more told (List.mem_of_mem_filter among)

end Schematic
