import Schematic.Proofs.Service.Sessions

set_option autoImplicit false

namespace Schematic

open Schematic.Action

def commits (world : World) : Nat := world.happenings.countP (·.event = .committed)

def savedMarks (world : World) : Nat := world.log.countP Service.isSavedMark

structure Settled (known : Except NumberFault Settings) (id : Int) (text : String) (before : World)
    (result : Except Failure Saved) (after : World) : Prop where
  restored : ∀ failure, result = .error failure → SameRows after.tables before.tables
  committed : ∀ saved, result = .ok saved → after.happenings.head? = some ⟨.committed, after.tables⟩
  stored : ∀ saved, result = .ok saved → ∃ settings, known = .ok settings ∧
    Service.Committed id (validate settings text) (saved.projection, saved.skipped) before after
  commits : commits after = commits before + result.isOk.toNat
  marks : savedMarks after = savedMarks before + result.isOk.toNat
  elsewhere : Elsewhere id after.tables before.tables
  surfaced : waiting after = waiting before ∨ ∃ cause label message others, result = .error (.unsaved id cause) ∧
    cause.root = .storage "RuntimeError" message ∧ ((label, message) :: (others ++ waiting after)).Perm (waiting before) ∧
    (label ≠ "rollback" → others = [])

theorem no_commits (fresh : List Happening) (uncommitted : ∀ happening ∈ fresh, happening.event ≠ .committed) :
    fresh.countP (·.event = .committed) = 0 := by
  rw [List.countP_eq_zero]
  simpa using uncommitted

theorem no_marks (entries : List LogEntry) (unmarked : ∀ entry ∈ entries, Service.isSavedMark entry = false) :
    entries.countP Service.isSavedMark = 0 := by
  rw [List.countP_eq_zero]
  simpa using unmarked

theorem committed_settled (settings : Settings) (id : Int) (text : String) (before after : World) (saved : Saved)
    (keyed : Keyed before.tables)
    (committed : Service.Committed id (validate settings text) (saved.projection, saved.skipped) before after) :
    Settled (.ok settings) id text before (.ok saved) after := by
  obtain ⟨tables, fresh, whole, each⟩ := committed.ended
  obtain ⟨mark, entries, logged, marked, unmarked⟩ := committed.marked
  refine ⟨fun failure impossible => (nomatch impossible), fun _ _ => by rw [whole]; rfl, fun other same => ?_, ?_, ?_, ?_,
    .inl committed.still⟩
  · obtain rfl := Except.ok.inj same
    exact ⟨settings, rfl, committed⟩
  · rw [commits, whole, List.countP_cons_of_pos (by simp), List.countP_cons_of_neg (by simp), List.countP_append,
      no_commits fresh each, Nat.zero_add]
    rfl
  · rw [savedMarks, logged, List.countP_cons_of_pos marked, List.countP_append, no_marks entries unmarked, Nat.zero_add]
    rfl
  · refine ⟨fun other apart => ?_, fun other apart => ?_, fun other apart => ?_, congrArg Table.rows committed.messages, ?_⟩
    · exact rewritten_entities id other _ _ _ committed.stored apart
    · exact rewritten_fields id other _ _ _ committed.stored keyed apart
    · exact rewritten_relations id other _ _ _ committed.stored apart
    · rw [committed.stamped]
      exact stamped_models id before.tables

theorem refused_settled (known : Except NumberFault Settings) (id : Int) (text : String) (before after : World)
    (failure : Failure) (refused : Service.Refused id before failure after) :
    Settled known id text before (.error failure) after := by
  obtain ⟨fresh, whole, each⟩ := refused.uncommitted
  obtain ⟨entries, logged, unmarked⟩ := refused.unmarked
  refine ⟨fun _ _ => refused.rows, fun saved impossible => (nomatch impossible), fun saved impossible => (nomatch impossible),
    ?_, ?_, elsewhere_rows id _ _ refused.rows, ?_⟩
  · rw [commits, whole, List.countP_append, no_commits fresh each, Nat.zero_add]
    rfl
  · rw [savedMarks, logged, List.countP_append, no_marks entries unmarked, Nat.zero_add]
    rfl
  · rcases refused.surfaced with same | ⟨cause, label, message, others, rfl, root, struck⟩
    · exact .inl same
    · exact .inr ⟨cause, label, message, others, rfl, root, struck⟩

theorem replacement_all_or_nothing (session : Session) (reachable : Reachable session) (known : Except NumberFault Settings)
    (id : Int) (text : String) (principal : Option String) :
    Settled known id text session.world (outcome (Service.replaceSchema known id text principal) session.world).1
      (outcome (Service.replaceSchema known id text principal) session.world).2 := by
  rcases outcome_cases (Service.replaceSchema known id text principal) session.world with
    ⟨saved, after, yields⟩ | ⟨failure, after, fails⟩
  · obtain ⟨settings, rfl, -, -, committed⟩ := Service.replace_yields _ _ _ _ _ _ _ yields
    rw [yields]
    exact committed_settled settings id text _ _ saved (reachable_keyed session reachable) committed
  · rw [fails]
    exact refused_settled known id text _ _ failure (Service.replace_fails _ _ _ _ _ _ _ fails)

def brokenSession : Session :=
  (Session.after { world := {}, known := .ok {} } (.create (some "ann") [("name", .str "Shop")])).after
    (.fault ⟨"commit", 1, "disk full"⟩)

def cartText : String := "entity Cart \x7b\n  id: ID\n\x7d\n"

def brokenSave : Except Failure Saved × World :=
  outcome (Service.replaceSchema (.ok {}) 1 cartText (some "ann")) brokenSession.world

theorem broken_save_settled :
    Settled (.ok {}) 1 cartText brokenSession.world brokenSave.1 brokenSave.2 ∧ waiting brokenSession.world = [("commit", "disk full")] ∧
      waiting brokenSave.2 = [] := by
  have started : Reachable { world := {}, known := .ok {} } := .start {} (.ok {}) rfl rfl rfl
  have reachable : Reachable brokenSession := .turn _ _ (.turn _ _ started)
  exact ⟨replacement_all_or_nothing brokenSession reachable (.ok {}) 1 _ (some "ann"), by decide +kernel, by decide +kernel⟩

end Schematic
