import Schematic.Proofs.Service.Constraints
import Schematic.Proofs.Service.Denial
import Schematic.Proofs.Service.Separation

set_option autoImplicit false

namespace Schematic

open Schematic.Action

inductive Answer where
  | model (model : DataModel)
  | models (models : List DataModel)
  | saved (saved : Saved)
  | stored (text : String) (projection : Projection)
  | read (schema : Schema)
  | formatted (canonical : Option String) (schema : Schema)
  | drafted (text : String) (schema : Schema)
  | messages (messages : List ChatMessage)
  | done

def Turn.answer (known : Except NumberFault Settings) : Turn → Action Answer
  | .create actor given => .model <$> Service.createModel actor given
  | .replace actor id text => .saved <$> Service.replaceSchema known id text actor
  | .draft actor id drafter instructions => .saved <$> Service.applyDraft known id drafter instructions actor
  | .get actor id => .model <$> Service.getModel id actor
  | .list actor => .models <$> Service.listModels actor
  | .schema actor id => (fun stored => .stored stored.1 stored.2) <$> Service.getSchema known id actor
  | .validate text => (fun settings => .read (Schematic.validate settings text)) <$> settings known
  | .format text =>
      (fun settings => .formatted (Schematic.formatted settings text).1 (Schematic.formatted settings text).2) <$> settings known
  | .preview drafter instructions current =>
      (fun draft => .drafted draft.1 draft.2) <$> Service.draftSchema known drafter instructions current
  | .chat actor id => .messages <$> Service.chatHistory known id actor
  | .fault breakdown =>
      (fun _ => .done) <$> (modify fun world => { world with breakdowns := world.breakdowns ++ [breakdown] } : Action PUnit)
  | .configure _ => return .done

-- What a step comes to, and what drafters are asked in it, the newest first.
def Session.reply (session : Session) (turn : Turn) : Except Failure Answer × List (String × Option String) :=
  let ended := outcome (turn.answer session.known) session.world
  (ended.1, ended.2.asked.take (ended.2.asked.length - session.world.asked.length))

def replies : Session → List Turn → List (Except Failure Answer × List (String × Option String))
  | _, [] => []
  | session, turn :: turns => session.reply turn :: replies (session.after turn) turns

-- A step that a principal makes, or nobody, or that is nobody's.
def Turn.MadeBy (principal : String) : Turn → Prop
  | .create actor _ | .replace actor _ _ | .draft actor _ _ _ | .get actor _ | .list actor | .schema actor _ | .chat actor _ =>
      actor = none ∨ actor = some principal
  | .validate _ | .format _ | .preview _ _ _ | .fault _ | .configure _ => True

-- The steps about one data model, and the reasons to refuse them to others than its owner.
inductive Concerns (known : Except NumberFault Settings) (actor : Option String) (id : Int) : Turn → (Failure → Prop) → Prop where
  | get : Concerns known actor id (.get actor id) (Denies id)
  | schema : Concerns known actor id (.schema actor id) (Denies id)
  | chat : Concerns known actor id (.chat actor id) (Denies id)
  | draft (drafter : Drafter) (instructions : String) : Concerns known actor id (.draft actor id drafter instructions) (Denies id)
  | replace (text : String) : Concerns known actor id (.replace actor id text) (DeniesText known id)

-- Sessions that began with nothing but data models.
inductive Begun : Session → Prop where
  | start (world : World) (known : Except NumberFault Settings) (models : ∀ row ∈ world.tables.models.rows, row.Whole)
      (entities : world.tables.entities.rows = []) (fields : world.tables.fields.rows = [])
      (relations : world.tables.relations.rows = []) (messages : world.tables.messages.rows = []) : Begun { world, known }
  | turn (session : Session) (turn : Turn) (earlier : Begun session) : Begun (session.after turn)

-- Two stores with the same data models, which have given the same ids and hold the same for the data models of a principal. What
-- is still to be stored there is made at the same times.
structure Agree (principal : String) (a b : Tables) : Prop where
  models : b.models = a.models
  lastEntity : b.entities.lastId = a.entities.lastId
  lastField : b.fields.lastId = a.fields.lastId
  lastRelation : b.relations.lastId = a.relations.lastId
  lastMessage : b.messages.lastId = a.messages.lastId
  clock : b.messages.clock = a.messages.clock
  entities : ∀ id, Owns a principal id → b.entities.belonging id = a.entities.belonging id
  fields : ∀ id, Owns a principal id → b.fieldRows id = a.fieldRows id
  relations : ∀ id, Owns a principal id → b.relations.belonging id = a.relations.belonging id
  messages : ∀ id, Owns a principal id → b.messages.belonging id = a.messages.belonging id

theorem outcome_map {α β : Type} (work : Action α) (change : α → β) (before : World) :
    (outcome (change <$> work) before).2 = (outcome work before).2 := by
  rw [map_eq_pure_bind]
  rcases outcome_cases work before with ⟨value, after, yields⟩ | ⟨failure, after, fails⟩
  · rw [outcome_after _ _ _ _ _ yields, yields]
    rfl
  · rw [outcome_failed _ _ _ _ _ fails, fails]

theorem answer_work (known : Except NumberFault Settings) (turn : Turn) (before : World) :
    (outcome (turn.answer known) before).2 = (outcome (turn.work known) before).2 := by
  cases turn with
  | fault breakdown => rfl
  | configure known => rfl
  | _ => simp only [Turn.answer, Turn.work, outcome_discard, outcome_map]

theorem after_world (session : Session) (turn : Turn) :
    (session.after turn).world = (outcome (turn.answer session.known) session.world).2 :=
  (answer_work session.known turn session.world).symm

section Made

variable (past : List (String × Option String) × List (String × Option String)) (principal : String) (floor : Int)

theorem turn_pairs (known : Except NumberFault Settings) (turn : Turn) (made : turn.MadeBy principal) :
    Pairs past (Alike principal floor Unheld) (turn.answer known) := by
  cases turn with
  | create actor given => exact pairs_map _ _ _ _ (Service.create_pairs past principal floor Unheld actor given)
  | replace actor id text =>
      apply pairs_map
      rcases made with rfl | rfl
      · exact fun a b bond => ⟨.error .unauthenticated, a, b, rfl, rfl, bond⟩
      · exact Service.replace_pairs past principal floor Unheld id known text
  | draft actor id drafter instructions =>
      apply pairs_map
      rcases made with rfl | rfl
      · exact fun a b bond => ⟨.error .unauthenticated, a, b, rfl, rfl, bond⟩
      · exact Service.apply_draft_pairs past principal floor Unheld id known drafter instructions
  | get actor id => exact pairs_map _ _ _ _ (Service.get_pairs past principal floor Unheld id actor)
  | list actor => exact pairs_map _ _ _ _ (Service.list_pairs past principal floor Unheld actor)
  | schema actor id =>
      apply pairs_map
      rcases made with rfl | rfl
      · exact fun a b bond => ⟨.error .unauthenticated, a, b, rfl, rfl, bond⟩
      · exact Service.get_schema_pairs past principal floor Unheld id known
  | validate text => exact pairs_map _ _ _ _ (pairs_settings _ _ known)
  | format text => exact pairs_map _ _ _ _ (pairs_settings _ _ known)
  | preview drafter instructions current => exact pairs_map _ _ _ _ (Service.draft_pairs _ _ known drafter instructions current)
  | chat actor id =>
      apply pairs_map
      rcases made with rfl | rfl
      · exact fun a b bond => ⟨.error .unauthenticated, a, b, rfl, rfl, bond⟩
      · exact Service.chat_pairs past principal floor Unheld id known
  | fault breakdown =>
      apply pairs_map
      apply pairs_modify
      exact fun a b bond => ⟨bond.tables, congrArg (· ++ [breakdown]) bond.breakdowns, bond.asked⟩
  | configure known => exact pairs_pure _ _ _

theorem recent_asked (before after : List (String × Option String)) (old : List (String × Option String)) :
    (after ++ old).take ((after ++ old).length - (before ++ old).length) = after.take (after.length - before.length) := by
  rw [List.length_append, List.length_append, Nat.add_sub_add_right]
  exact List.take_append_of_le_length (Nat.sub_le _ _)

theorem reply_alike (first second : Session) (settings : second.known = first.known)
    (bond : Bond past (Alike principal floor Unheld) first.world second.world) (turn : Turn) (made : turn.MadeBy principal) :
    second.reply turn = first.reply turn ∧
      Bond past (Alike principal floor Unheld) (first.after turn).world (second.after turn).world := by
  obtain ⟨result, a, b, here, there, after⟩ := turn_pairs past principal floor first.known turn made _ _ bond
  rw [← settings] at there
  obtain ⟨old, oldFirst, oldSecond⟩ := bond.asked
  obtain ⟨new, newFirst, newSecond⟩ := after.asked
  constructor
  · simp only [Session.reply, here, there, newFirst, newSecond, oldFirst, oldSecond, recent_asked]
  · rw [after_world, after_world, here, there]
    exact after

theorem after_known (first second : Session) (settings : second.known = first.known) (turn : Turn) :
    (second.after turn).known = (first.after turn).known := by
  cases turn with
  | configure known => rfl
  | _ => exact settings

theorem replies_alike (turns : List Turn) (made : ∀ turn ∈ turns, turn.MadeBy principal) (first second : Session)
    (settings : second.known = first.known) (bond : Bond past (Alike principal floor Unheld) first.world second.world) :
    replies second turns = replies first turns := by
  induction turns generalizing first second with
  | nil => rfl
  | cons turn turns ih =>
      obtain ⟨same, after⟩ := reply_alike past principal floor first second settings bond turn (made turn List.mem_cons_self)
      rw [replies, replies, same, ih (fun later member => made later (List.mem_cons_of_mem _ member)) _ _
        (after_known first second settings turn) after]

end Made

theorem turn_made (turn : Turn) : ∃ principal, turn.MadeBy principal := by
  have known : ∀ actor : Option String, actor = none ∨ actor = some (actor.getD "") := by
    intro actor
    cases actor <;> simp
  cases turn with
  | create actor | replace actor | draft actor | get actor | list actor | schema actor | chat actor => exact ⟨_, known actor⟩
  | validate | format | preview | fault | configure => exact ⟨"", trivial⟩

theorem begun_reachable (session : Session) (begun : Begun session) : Reachable session := by
  induction begun with
  | start world known models entities fields relations messages => exact .start world known entities fields relations
  | turn session turn earlier ih => exact .turn session turn ih

theorem reachable_steady (session : Session) (reachable : Reachable session) : Steady session.world.tables := by
  induction reachable with
  | start world known entities fields relations => exact bare_steady world.tables entities fields relations
  | turn session turn earlier ih =>
      show Steady (outcome (turn.work session.known) session.world).2.tables
      rcases outcome_cases (turn.work session.known) session.world with ⟨value, after, yields⟩ | ⟨failure, after, fails⟩
      · rw [yields]
        exact ((turn_upholds session.known turn).1 _ _ _ yields ih trivial).2
      · rw [fails]
        exact ((turn_upholds session.known turn).2 _ _ _ fails ih trivial).2

structure Rooted (tables : Tables) : Prop where
  whole : ∀ row ∈ tables.models.rows, row.Whole
  messages : ∀ row ∈ tables.messages.rows, ∃ id, row.parent = some id ∧ HasModel tables id

theorem alike_refl (principal : String) (tables : Tables) (rooted : Rooted tables) :
    Alike principal tables.entities.lastId Unheld tables tables :=
  ⟨rfl, ⟨rfl, fun _ _ => rfl⟩, rfl, fun _ _ => rfl, ⟨rfl, fun _ _ => rfl⟩, ⟨rfl, fun _ _ => rfl⟩, rfl,
    Int.le_refl _, fun _ never => never.elim, rooted.whole, rooted.messages⟩

theorem begun_rooted (session : Session) (begun : Begun session) : Rooted session.world.tables := by
  induction begun with
  | start world known models entities fields relations messages => exact ⟨models, by simp [messages]⟩
  | turn session turn earlier ih =>
      obtain ⟨principal, made⟩ := turn_made turn
      have bond : Bond (session.world.asked, session.world.asked)
          (Alike principal session.world.tables.entities.lastId Unheld) session.world session.world :=
        ⟨alike_refl principal session.world.tables ih, rfl, [], rfl, rfl⟩
      obtain ⟨-, after⟩ := reply_alike _ principal _ session session rfl bond turn made
      exact ⟨after.tables.whole, after.tables.rooted⟩

theorem belonging_none {α : Type} (tables : Tables) (table : Table Int α) (id : Int) (absent : tables.model? id = none)
    (rooted : ∀ row ∈ table.rows, ∃ key, row.parent = some key ∧ HasModel tables key) : table.belonging id = [] := by
  rw [Table.belonging, List.filter_eq_nil_iff]
  intro row member owned
  obtain ⟨key, parent, model, inside, same⟩ := rooted row member
  have here : key = id := Option.some.inj (parent.symm.trans (of_decide_eq_true owned))
  have missed := List.find?_eq_none.mp absent model inside
  simp [same, here] at missed

theorem since_rows (tables : Tables) (keyed : Keyed tables) (floor id : Int) (given : tables.entities.lastId ≤ floor) :
    tables.fieldsSince floor id = tables.fieldRows id := by
  refine List.filter_congr fun row member => ?_
  cases owner : row.parent with
  | none => simp
  | some parent =>
      have old := keyed.parented row member parent owner
      have early : ¬ floor < parent := by omega
      simp [early]

theorem fields_none (tables : Tables) (id : Int) (bare : tables.entities.belonging id = []) : tables.fieldRows id = [] := by
  rw [Tables.fieldRows, Tables.entityIds, bare, List.filter_eq_nil_iff]
  intro row _ owned
  obtain ⟨key, never, -⟩ := (is_field_of _ row).mp owned
  cases never

section Begun

variable (session : Session) (begun : Begun session) (id : Int) (absent : session.world.tables.model? id = none)

include begun absent

theorem begun_entities_none : session.world.tables.entities.belonging id = [] := by
  apply belonging_none session.world.tables _ id absent
  intro row member
  obtain ⟨record, -, parent, model⟩ :=
    (reachable_steady session (begun_reachable session begun)).sound.entities row member
  exact ⟨_, parent, model⟩

theorem begun_fields_none : session.world.tables.fieldRows id = [] :=
  fields_none _ id (begun_entities_none session begun id absent)

theorem begun_relations_none : session.world.tables.relations.belonging id = [] := by
  apply belonging_none session.world.tables _ id absent
  intro row member
  obtain ⟨record, -, parent, ⟨⟨entity, inside, -, owned⟩, -⟩, -⟩ :=
    (reachable_steady session (begun_reachable session begun)).sound.relations row member
  obtain ⟨other, -, mine, model⟩ := (reachable_steady session (begun_reachable session begun)).sound.entities entity inside
  exact ⟨_, parent.trans (owned.symm.trans mine), model⟩

theorem begun_messages_none : session.world.tables.messages.belonging id = [] :=
  belonging_none session.world.tables _ id absent (begun_rooted session begun).messages

end Begun

theorem agree_alike (principal : String) (first second : Session) (begun : Begun first) (other : Begun second)
    (agree : Agree principal first.world.tables second.world.tables) :
    Alike principal first.world.tables.entities.lastId Unheld first.world.tables second.world.tables := by
  have absent : ∀ id, first.world.tables.model? id = none → second.world.tables.model? id = none := by
    intro id none
    rw [Tables.model?, agree.models]
    exact none
  have keyed := reachable_keyed first (begun_reachable first begun)
  have keyedToo := reachable_keyed second (begun_reachable second other)
  have rooted := begun_rooted first begun
  refine ⟨agree.models, ⟨agree.lastEntity, ?_⟩, agree.lastField, ?_, ⟨agree.lastRelation, ?_⟩, ⟨agree.lastMessage, ?_⟩,
    agree.clock, Int.le_refl _, fun _ never => never.elim, rooted.whole, rooted.messages⟩
  · rintro id (none | owns)
    · rw [begun_entities_none first begun id none, begun_entities_none second other id (absent id none)]
    · exact agree.entities id owns
  · intro id free
    rw [since_rows _ keyed _ id (Int.le_refl _), since_rows _ keyedToo _ id (Int.le_of_eq agree.lastEntity)]
    rcases free with none | owns
    · rw [begun_fields_none first begun id none, begun_fields_none second other id (absent id none)]
    · exact agree.fields id owns
  · rintro id (none | owns)
    · rw [begun_relations_none first begun id none, begun_relations_none second other id (absent id none)]
    · exact agree.relations id owns
  · rintro id (none | owns)
    · rw [begun_messages_none first begun id none, begun_messages_none second other id (absent id none)]
    · exact agree.messages id owns

theorem stranger_barred (session : Session) (begun : Begun session) (calm : Calm session.world) (actor : Option String) (id : Int)
    (stranger : Stranger session.world.tables actor id) (turn : Turn) (reasons : Failure → Prop)
    (concerns : Concerns session.known actor id turn reasons) : Barred reasons (turn.answer session.known) session.world := by
  have whole : ∀ row, session.world.tables.model? id = some row → row.Whole := fun row found =>
    (begun_rooted session begun).whole row (List.mem_of_find?_eq_some found)
  cases concerns with
  | get => exact barred_map _ _ _ _ (Service.get_barred id actor session.world calm whole stranger)
  | schema => exact barred_map _ _ _ _ (Service.get_schema_barred id actor session.world calm whole stranger session.known)
  | chat => exact barred_map _ _ _ _ (Service.chat_barred id actor session.world calm whole stranger session.known)
  | draft drafter instructions =>
      apply barred_map
      exact Service.draft_barred id actor session.world calm whole stranger session.known drafter instructions
  | replace text =>
      apply barred_map
      exact Service.replace_barred id actor session.world calm whole stranger session.known text

-- What others keep in the store makes no difference to what a principal is answered, and a principal is refused what others own
-- before anything is done.
theorem principals_kept_apart (principal : String) :
    (∀ first second, Begun first → Begun second → second.known = first.known →
      second.world.breakdowns = first.world.breakdowns → Agree principal first.world.tables second.world.tables →
      ∀ turns, (∀ turn ∈ turns, Turn.MadeBy principal turn) → replies second turns = replies first turns) ∧
    ∀ session, Begun session → Calm session.world → ∀ actor, actor = none ∨ actor = some principal →
      ∀ id, ¬ Owns session.world.tables principal id → ∀ turn reasons, Concerns session.known actor id turn reasons →
      ∃ failure, session.reply turn = (.error failure, []) ∧ reasons failure ∧
        (session.after turn).world.tables = session.world.tables := by
  constructor
  · intro first second begun other settings breakdowns agree turns made
    exact replies_alike (first.world.asked, second.world.asked) principal _ turns made first second settings
      ⟨agree_alike principal first second begun other agree, breakdowns, [], rfl, rfl⟩
  · intro session begun calm actor acts id foreign turn reasons concerns
    have stranger : Stranger session.world.tables actor id := by
      intro name same
      rcases acts with rfl | rfl
      · cases same
      · obtain rfl := Option.some.inj same
        exact foreign
    obtain ⟨failure, after, fails, told, unmoved⟩ :=
      stranger_barred session begun calm actor id stranger turn reasons concerns
    rw [Fails] at fails
    refine ⟨failure, ?_, told, ?_⟩
    · simp only [Session.reply, fails, unmoved.asked, Nat.sub_self, List.take_zero]
    · rw [after_world, fails]
      exact unmoved.tables

deriving instance DecidableEq for Row

def draftedBank (instructions text : String) : Session :=
  [Turn.create (some "ann") [("name", .str "Shop")], .create (some "bob") [("name", .str "Bank")],
    .draft (some "bob") 2 (fun _ _ => { outcome := .ok (some text) }) instructions].foldl Session.after
    { world := {}, known := .ok {} }

def safeBank : Session := draftedBank "Keep it." "entity Safe \x7b\n key: ID\n\x7d\n"

def loanBank : Session := draftedBank "Lend it." "entity Loan \x7b\n due: ID\n\x7d\n"

theorem drafted_bank_begun (instructions text : String) : Begun (draftedBank instructions text) :=
  .turn _ _ (.turn _ _ (.turn _ _ (.start {} (.ok {}) (by simp) rfl rfl rfl rfl)))

theorem drafted_bank_clock (instructions text : String) :
    (draftedBank instructions text).world.tables.models.clock = ({} : Tables).models.clock ∧
      (draftedBank instructions text).world.tables.messages.clock = ({} : Tables).messages.clock := by
  have started : Arises {} {} := .start {} rfl rfl rfl rfl rfl
  have arises : Arises {} (draftedBank instructions text).world :=
    .deed _ (.call (.ok {}) _) (.deed _ (.call (.ok {}) _) (.deed _ (.call (.ok {}) _) started))
  exact follows_clock _ _ _ (arises_upheld {} _ arises).follows

theorem drafted_bank_known (instructions text : String) : (draftedBank instructions text).known = .ok {} := rfl

theorem belonging_elsewhere {α : Type} (a b : Table Int α) (parent id : Int) (first : ∀ row ∈ a.rows, row.parent = some parent)
    (second : ∀ row ∈ b.rows, row.parent = some parent) (other : id ≠ parent) : a.belonging id = [] ∧ b.belonging id = [] := by
  have none : ∀ table : Table Int α, (∀ row ∈ table.rows, row.parent = some parent) → table.belonging id = [] := by
    intro table all
    rw [Table.belonging, List.filter_eq_nil_iff]
    intro row member owned
    exact other (Option.some.inj ((of_decide_eq_true owned).symm.trans (all row member)))
  exact ⟨none a first, none b second⟩

theorem ann_owns_other (id : Int) (owns : Owns safeBank.world.tables "ann" id) : id ≠ 2 := by
  rintro rfl
  obtain ⟨model, found, owner⟩ := (owns_model _ _ _).mp owns
  have bobs : (safeBank.world.tables.modelOf? 2).map DataModel.ownerId = some "bob" := by decide +kernel
  rw [found, Option.map_some, owner] at bobs
  exact absurd bobs (by decide)

theorem banks_agree : Agree "ann" safeBank.world.tables loanBank.world.tables := by
  have entities := fun id owns => belonging_elsewhere safeBank.world.tables.entities loanBank.world.tables.entities 2 id
    (by decide +kernel) (by decide +kernel) (ann_owns_other id owns)
  have relations := fun id owns => belonging_elsewhere safeBank.world.tables.relations loanBank.world.tables.relations 2 id
    (by decide +kernel) (by decide +kernel) (ann_owns_other id owns)
  have messages := fun id owns => belonging_elsewhere safeBank.world.tables.messages loanBank.world.tables.messages 2 id
    (by decide +kernel) (by decide +kernel) (ann_owns_other id owns)
  obtain ⟨safeModels, safeMessages⟩ := drafted_bank_clock "Keep it." "entity Safe \x7b\n key: ID\n\x7d\n"
  obtain ⟨loanModels, loanMessages⟩ := drafted_bank_clock "Lend it." "entity Loan \x7b\n due: ID\n\x7d\n"
  have models : loanBank.world.tables.models = safeBank.world.tables.models :=
    Table.ext (by decide +kernel) (by decide +kernel) (loanModels.trans safeModels.symm)
  refine ⟨models, by decide +kernel, by decide +kernel, by decide +kernel, by decide +kernel, loanMessages.trans safeMessages.symm,
    ?_, ?_, ?_, ?_⟩
  · intro id owns
    rw [(entities id owns).1, (entities id owns).2]
  · intro id owns
    rw [fields_none _ id (entities id owns).1, fields_none _ id (entities id owns).2]
  · intro id owns
    rw [(relations id owns).1, (relations id owns).2]
  · intro id owns
    rw [(messages id owns).1, (messages id owns).2]

def annsTurns : List Turn :=
  [.list (some "ann"), .schema (some "ann") 2, .replace (some "ann") 1 "entity Cart \x7b\n id: ID\n\x7d\n",
    .schema (some "ann") 1, .chat (some "ann") 2, .get none 1]

theorem banks_kept_from_ann :
    (outcome (Service.getSchema (.ok {}) 2 (some "bob")) safeBank.world).1.toOption.map Prod.fst ≠
      (outcome (Service.getSchema (.ok {}) 2 (some "bob")) loanBank.world).1.toOption.map Prod.fst ∧
    replies loanBank annsTurns = replies safeBank annsTurns ∧
    ∃ failure, safeBank.reply (.schema (some "ann") 2) = (.error failure, []) ∧ Denies 2 failure ∧
      (safeBank.after (.schema (some "ann") 2)).world.tables = safeBank.world.tables := by
  obtain ⟨alike, barred⟩ := principals_kept_apart "ann"
  have safe : Begun safeBank := drafted_bank_begun _ _
  have loan : Begun loanBank := drafted_bank_begun _ _
  have settings : loanBank.known = safeBank.known := (drafted_bank_known _ _).trans (drafted_bank_known _ _).symm
  have safeCalm : safeBank.world.breakdowns = [] := by decide +kernel
  have loanCalm : loanBank.world.breakdowns = [] := by decide +kernel
  have foreign : ¬ Owns safeBank.world.tables "ann" 2 := fun owns => ann_owns_other 2 owns rfl
  refine ⟨by decide +kernel, ?_, ?_⟩
  · exact alike safeBank loanBank safe loan settings (loanCalm.trans safeCalm.symm) banks_agree annsTurns
      (by simp [annsTurns, Turn.MadeBy])
  · exact barred safeBank safe safeCalm (some "ann") (.inr rfl) 2 foreign (.schema (some "ann") 2) (Denies 2) .schema

end Schematic
