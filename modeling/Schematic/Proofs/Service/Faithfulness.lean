import Schematic.Proofs.Service.Loading
import Schematic.Proofs.Service.Sessions

set_option autoImplicit false

namespace Schematic

open Schematic.Action

-- The text that the schema of a data model was last replaced with, empty where it never was.
def Session.text (session : Session) (id : Int) : String := (session.replaced.lookup id).getD ""

def rendering (identifier text : String) : String := String.ofList (Schema.parse identifier text.toList).render

theorem parse_entities (a b : String) (source : List Char) : (Schema.parse a source).entities = (Schema.parse b source).entities :=
  rfl

theorem valid_parse (settings : Settings) (text : String) (valid : (validate settings text).isValid = true) :
    validate settings text = Schema.parse settings.source.identifier text.toList := by
  rw [validate] at valid ⊢
  split at valid
  · simp [Schema.isValid] at valid
  · rename_i fits
    rw [if_neg fits]

def Faithful (session : Session) : Prop :=
  ∀ id identifier, Holds session.world.tables id (Schema.parse identifier (session.text id).toList).entities

theorem effect_faithful (session : Session) (turn : Turn) (keyed : Keyed session.world.tables) (faithful : Faithful session) :
    Faithful (session.after turn) := by
  have effect := turn_effect session.known turn session.world
  intro id identifier
  show Holds (outcome (turn.work session.known) session.world).2.tables id (Schema.parse identifier
    (((((turn.saved? session.world (outcome (turn.work session.known) session.world).2).toList ++
      session.replaced).lookup id).getD "").toList)).entities
  generalize turn.saved? session.world (outcome (turn.work session.known) session.world).2 = saved at effect ⊢
  cases effect with
  | kept entities fields grown => exact holds_rows _ _ id _ entities fields (faithful id identifier)
  | saved target text settings valid stored =>
      rw [valid_parse settings text valid, parse_entities _ identifier] at stored
      rw [Option.toList_some, List.singleton_append]
      by_cases same : id = target
      · subst same
        rw [List.lookup_cons_self]
        exact rewritten_holds id _ _ _ stored keyed
      · have other : ((target, text) :: session.replaced).lookup id = session.replaced.lookup id := by
          have differs : (id == target) = false := by simpa using same
          rw [List.lookup_cons, differs]
        rw [other]
        exact rewritten_holds_other target id _ _ _ _ stored keyed same (faithful id identifier)

theorem reachable_faithful (session : Session) (reachable : Reachable session) : Faithful session := by
  induction reachable with
  | start world known entities fields relations =>
      intro id identifier
      exact holds_none world.tables id entities
  | turn session turn earlier ih => exact effect_faithful session turn (reachable_keyed session earlier) ih

theorem get_schema_last (session : Session) (reachable : Reachable session) (id : Int) (principal : Option String)
    (identifier : String) (after : World) (stored : String × Projection)
    (yields : Yields (Service.getSchema session.known id principal) session.world stored after) :
    stored.1 = rendering identifier (session.text id) := by
  obtain ⟨coherent, -⟩ := parse_coherent identifier (session.text id).toList
  exact Service.get_schema_text session.known id principal session.world after stored _ coherent
    (reachable_faithful session reachable id identifier) yields

theorem draft_asks (session : Session) (reachable : Reachable session) (id : Int) (principal : Option String)
    (identifier : String) (drafter : Drafter) (instructions : String) (after : World) (result : Except Failure Saved)
    (ends : outcome (Service.applyDraft session.known id drafter instructions principal) session.world = (result, after)) :
    (∃ stored ready, Yields (Service.prepared session.known id instructions principal) session.world stored ready ∧
      after.asked = (instructions, Service.told (rendering identifier (session.text id))) :: session.world.asked) ∨
    ∃ failure, Fails (Service.prepared session.known id instructions principal) session.world failure after ∧
      result = .error failure ∧ after.asked = session.world.asked := by
  rcases Service.draft_course _ _ _ _ _ _ _ _ ends with ⟨still, failure, same, fails⟩ | ⟨stored, ready, yields, rest⟩
  · exact .inr ⟨failure, fails, same, still.asked⟩
  · refine .inl ⟨stored, ready, yields, ?_⟩
    obtain ⟨read, got, -⟩ := Service.prepared_yields _ _ _ _ _ _ _ yields
    rw [← get_schema_last session reachable id principal identifier read stored got]
    rcases rest with ⟨still, -⟩ | ⟨given, middle, saved, settled, -, begun, replaced, ended, -⟩
    · exact still.asked
    · exact ended.asked.trans ((replace_asks_nobody _ _ _ _ _ _ _ replaced).trans begun.asked)

-- What is stored follows the replacements that were committed, whatever else was done and broke down in between. A drafter is
-- asked about it once the instructions are stored, and else the draft fails of what went wrong before.
theorem schema_is_last_replacement (session : Session) (reachable : Reachable session) (id : Int) (principal : Option String)
    (identifier : String) :
    (∀ stored, (outcome (Service.getSchema session.known id principal) session.world).1 = .ok stored →
      stored.1 = rendering identifier (session.text id)) ∧
    ∀ drafter instructions,
      let ended := outcome (Service.applyDraft session.known id drafter instructions principal) session.world
      (∀ stored, (outcome (Service.prepared session.known id instructions principal) session.world).1 = .ok stored →
        ended.2.asked = (instructions, Service.told (rendering identifier (session.text id))) :: session.world.asked) ∧
      ∀ failure, (outcome (Service.prepared session.known id instructions principal) session.world).1 = .error failure →
        ended.1 = .error failure ∧ ended.2.asked = session.world.asked := by
  refine ⟨fun stored found => ?_, fun drafter instructions => ?_⟩
  · exact get_schema_last session reachable id principal identifier _ stored (Prod.ext found rfl)
  · have asks := draft_asks session reachable id principal identifier drafter instructions _ _ rfl
    rcases asks with ⟨stored, ready, yields, asked⟩ | ⟨failure, fails, same, unasked⟩
    · rw [yields]
      exact ⟨fun _ _ => asked, fun failure impossible => (nomatch impossible)⟩
    · rw [fails]
      refine ⟨fun stored impossible => (nomatch impossible), fun other told => ?_⟩
      rw [← Except.error.inj told]
      exact ⟨same, unasked⟩

def savedSession : Session :=
  (Session.after { world := {}, known := .ok {} } (.create (some "ann") [("name", .str "Shop")])).after
    (.replace (some "ann") 1 "// A shop.\nentity Cart \x7b\nid :ID\n\x7d")

theorem saved_session_reads_back :
    savedSession.text 1 = "// A shop.\nentity Cart \x7b\nid :ID\n\x7d" ∧
    (∃ stored, (outcome (Service.getSchema savedSession.known 1 (some "ann")) savedSession.world).1 = .ok stored ∧
      stored.1 = rendering "id" (savedSession.text 1)) ∧
    (outcome (Service.applyDraft savedSession.known 1 (fun _ _ => ⟨.ok none, []⟩) "a basket" (some "ann"))
      savedSession.world).2.asked = [("a basket", Service.told (rendering "id" (savedSession.text 1)))] := by
  have started : Reachable { world := {}, known := .ok {} } := .start {} (.ok {}) rfl rfl rfl
  have reachable : Reachable savedSession := .turn _ _ (.turn _ _ started)
  have reads : (outcome (Service.getSchema savedSession.known 1 (some "ann")) savedSession.world).1.isOk = true := by
    decide +kernel
  have prepares : (outcome (Service.prepared savedSession.known 1 "a basket" (some "ann")) savedSession.world).1.isOk = true := by
    decide +kernel
  have nobody : savedSession.world.asked = [] := by decide +kernel
  obtain ⟨read, asked⟩ := schema_is_last_replacement savedSession reachable 1 (some "ann") "id"
  refine ⟨by decide +kernel, ?_, ?_⟩
  · cases found : (outcome (Service.getSchema savedSession.known 1 (some "ann")) savedSession.world).1 with
    | ok stored => exact ⟨stored, rfl, read stored found⟩
    | error failure =>
        rw [found] at reads
        cases reads
  · cases found : (outcome (Service.prepared savedSession.known 1 "a basket" (some "ann")) savedSession.world).1 with
    | ok stored =>
        rw [← nobody]
        exact (asked _ "a basket").1 stored found
    | error failure =>
        rw [found] at prepares
        cases prepares

end Schematic
