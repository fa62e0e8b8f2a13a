import Schematic.Http.Application
import Schematic.Proofs.Service.Telling

set_option autoImplicit false

namespace Schematic

open Schematic.Action

theorem both_ok {α β : Type} (change : Checked (α → β)) (given : Checked α) (value : β)
    (both : Checked.both change given = .ok value) : ∃ f a, change = .ok f ∧ given = .ok a ∧ value = f a := by
  cases change <;> cases given <;> cases both
  exact ⟨_, _, rfl, rfl, rfl⟩

theorem map_ok {α β : Type} (change : α → β) (given : Checked α) (value : β)
    (mapped : Checked.map change given = .ok value) : ∃ a, given = .ok a ∧ value = change a := by
  cases given <;> cases mapped
  exact ⟨_, rfl, rfl⟩

theorem within_ok {α : Type} (step : Step) (given : Checked α) (value : α) (inside : given.within step = .ok value) :
    given = .ok value := by
  cases given <;> cases inside
  rfl

theorem text_within (limit : Nat) (value : Json) (text : String) (read : Reading.text (some limit) value = .ok text) :
    text.length ≤ limit := by
  cases value with
  | str written =>
      rw [Reading.text] at read
      split at read
      · cases read
      · rename_i within
        obtain rfl := Checked.ok.inj read
        simpa using within
  | _ => cases read

theorem filled_text_within (limit : Nat) (value : Json) (text : String)
    (read : Reading.filledText (some limit) value = .ok text) : text.length ≤ limit := by
  cases value with
  | str written =>
      rw [Reading.filledText] at read
      split at read
      · cases read
      · exact text_within limit _ text read
  | _ => cases read

theorem required_ok {α : Type} (members : List (String × Json)) (key : String) (read : Reading α) (value : α)
    (found : required members key read = .ok value) : ∃ given, read given = .ok value := by
  rw [required] at found
  split at found
  · rename_i given _
    exact ⟨given, within_ok _ _ _ found⟩
  · cases found

theorem defaulted_ok {α : Type} (members : List (String × Json)) (key : String) (read : Reading α) (fallback value : α)
    (found : defaulted members key read fallback = .ok value) : value = fallback ∨ ∃ given, read given = .ok value := by
  rw [defaulted] at found
  split at found
  · rename_i given _
    exact .inr ⟨given, within_ok _ _ _ found⟩
  · exact .inl (Checked.ok.inj found).symm

def Wording.shown : Wording → String
  | .text value => value
  | .loose glyphs => Glyph.shownText glyphs

namespace Http

structure Limited (creation : Creation) : Prop where
  name : creation.name.length ≤ 255
  version : creation.version.length ≤ 64

theorem read_limited (members : List (String × Json)) (creation : Creation) (read : Creation.read members = .ok creation) :
    Limited creation := by
  obtain ⟨described, dbType, first, -, rfl⟩ := both_ok _ _ _ read
  obtain ⟨versioned, description, second, -, rfl⟩ := both_ok _ _ _ first
  obtain ⟨named, version, third, versionRead, rfl⟩ := both_ok _ _ _ second
  obtain ⟨name, nameRead, rfl⟩ := map_ok _ _ _ third
  constructor
  · obtain ⟨given, filled⟩ := required_ok _ _ _ _ nameRead
    exact filled_text_within 255 given name filled
  · rcases defaulted_ok _ _ _ _ _ versionRead with rfl | ⟨given, text⟩
    · exact (by decide : "1".length ≤ 64)
    · exact text_within 64 given version text

theorem payload_read {α : Type} (read : List (String × Json) → Checked α) (payload : Payload) (value : α)
    (found : readPayload read payload = .ok value) : ∃ members, read members = .ok value := by
  have checked := within_ok _ _ _ found
  cases payload with
  | absent | raw | malformed place => cases checked
  | value json =>
      cases json with
      | obj members => exact ⟨members, checked⟩
      | _ => cases checked

theorem with_payload_ok {α β : Type} (payload : Payload) (path : Checked (α → β)) (body : Checked α) (value : β)
    (found : withPayload payload path body = .ok value) : ∃ f a, path = .ok f ∧ body = .ok a ∧ value = f a := by
  rw [withPayload.eq_def] at found
  split at found
  · cases found
  · exact both_ok _ _ _ found

theorem creation_limited (route : Route) (method : String) (payload : Payload) (creation : Creation)
    (accepted : route.call? method payload = some (.ok (.service (.createModel creation)))) : Limited creation := by
  rw [Route.call?] at accepted
  split at accepted
  · cases accepted
  · obtain ⟨checked, found, mapped⟩ := Option.map_eq_some_iff.mp accepted
    obtain ⟨call, rfl, same⟩ := map_ok _ _ _ mapped
    obtain rfl := Call.service.inj same
    rw [Route.serviceCall?.eq_def] at found
    split at found
    case h_3 =>
      obtain ⟨other, read, same⟩ := map_ok _ _ _ (Option.some.inj found)
      obtain rfl := ServiceCall.createModel.inj same
      obtain ⟨members, whole⟩ := payload_read _ _ _ read
      exact read_limited members creation whole
    case h_4 | h_10 => cases found
    case h_7 | h_8 =>
      obtain ⟨make, text, read, -, same⟩ := with_payload_ok _ _ _ _ (Option.some.inj found)
      obtain ⟨id, -, rfl⟩ := map_ok _ _ _ read
      cases same
    case h_1 | h_2 | h_5 | h_6 | h_9 =>
      obtain ⟨given, -, same⟩ := map_ok _ _ _ (Option.some.inj found)
      cases same

theorem db_type_read (dbType : DbType) : DbType.ofText? dbType.text = some dbType := by
  cases dbType <;> rfl

theorem text_fits (limit : Nat) (value : String) (fits : value.length ≤ limit) :
    Reading.text (some limit) (.str value) = .ok value := by
  simp [Reading.text, Nat.not_lt.mpr fits]

theorem text_overlong (limit : Nat) (value : String) (long : limit < value.length) :
    Reading.text (some limit) (.str value) = .complain .stringTooLong := by
  simp [Reading.text, long]

def ownedBy (creation : Creation) (owner : String) : DataModel :=
  { name := creation.name, version := creation.version, description := creation.description.shown
    dbType := creation.dbType, ownerId := owner }

def ownerOverlong : Complaint := ⟨[.key "owner_id"], .stringTooLong⟩

theorem creation_record (creation : Creation) (limited : Limited creation) (owner : String) :
    DataModel.read (creation.members ++ [("owner_id", .str owner)]) =
      if owner.length ≤ 128 then .ok (ownedBy creation owner) else .refused [ownerOverlong] := by
  have name : required (creation.members ++ [("owner_id", .str owner)]) "name" (.text (some 255)) = .ok creation.name :=
    congrArg (Checked.within _) (text_fits 255 _ limited.name)
  have version : defaulted (creation.members ++ [("owner_id", .str owner)]) "version" (.text (some 64)) "1" =
      .ok creation.version := congrArg (Checked.within _) (text_fits 64 _ limited.version)
  have description : defaulted (creation.members ++ [("owner_id", .str owner)]) "description" (.text none) "" =
      .ok creation.description.shown := by
    show (Reading.text none creation.description.json).within _ = _
    cases creation.description <;> rfl
  have dbType : defaulted (creation.members ++ [("owner_id", .str owner)]) "db_type" (.word DbType.ofText?) .sql =
      .ok creation.dbType := by
    show ((Reading.word DbType.ofText? (.str creation.dbType.text)).within _) = _
    rw [Reading.word, db_type_read]
    rfl
  have read : required (creation.members ++ [("owner_id", .str owner)]) "owner_id" (.text (some 128)) =
      (Reading.text (some 128) (.str owner)).within (.key "owner_id") := rfl
  rw [DataModel.read, name, version, description, dbType, read]
  split
  · rename_i short
    rw [text_fits 128 owner short]
    rfl
  · rename_i long
    rw [text_overlong 128 owner (Nat.not_le.mp long)]
    rfl

theorem create_fails (creation : Creation) (limited : Limited creation) (principal : Option String) (before : World)
    (failure : Failure) (hidden : Private failure) :
    (∃ after, Fails (Service.createModel principal creation.members creation.store) before failure after) ↔
      ∃ owner, principal = some owner ∧ 128 < owner.length ∧ failure = .refused .dataModels [ownerOverlong] := by
  constructor
  · rintro ⟨after, fails⟩
    rcases (fails_bind _ _ _ _ _).mp fails with nobody | ⟨owner, middle, acts, later⟩
    · have denied := denies_spoken 0 failure (Service.acting_tells 0 principal _ _ _ nobody)
      exact absurd (denied.symm.trans hidden) (by decide)
    · obtain ⟨rfl, -, -⟩ := Service.acting_found principal before middle owner acts
      rw [creation_record creation limited] at later
      rcases (fails_bind _ _ _ _ _).mp later with refused | ⟨model, last, -, stored⟩
      · split at refused
        · exact absurd refused (fails_pure _ _ _ _)
        · rename_i long
          exact ⟨owner, rfl, Nat.not_le.mp long, ((fails_throw _ _ _ _).mp refused).1⟩
      · exact absurd ((Service.persisting_tells _ _ _ _ _ stored).symm.trans hidden) (by decide)
  · rintro ⟨owner, rfl, long, rfl⟩
    have named : owner ≠ "" := by
      rintro rfl
      exact absurd long (by decide)
    refine ⟨before, (fails_bind _ _ _ _ _).mpr (.inr ⟨owner, before, Service.acting_yields owner named before, ?_⟩)⟩
    rw [creation_record creation limited, if_neg (Nat.not_le.mpr long)]
    exact (fails_bind _ _ _ _ _).mpr (.inl rfl)

def relayed (id : Int) (failure : Failure) : Action Saved := do
  if failure.kind? = some .unpersisted then
    Action.note
      { logger := "api.schema_routes"
        level := Log.error
        message := "Schema save failed for data model " ++ toString id ++ ": " ++ failure.message }
  throw failure

theorem relayed_fails (id : Int) (failure : Failure) (before : World) :
    ∃ after, Fails (relayed id failure) before failure after := by
  rw [relayed]
  split
  · exact ⟨_, rfl⟩
  · exact ⟨before, rfl⟩

theorem noting_fails (id : Int) (work : Action Saved) (before : World) (failure : Failure) :
    (∃ after, Fails (noting id work) before failure after) ↔ ∃ after, Fails work before failure after := by
  have parts : noting id work = tryCatch work (relayed id) := rfl
  rw [parts]
  constructor
  · rintro ⟨after, fails⟩
    obtain ⟨first, middle, here, later⟩ := (fails_try _ _ _ _ _).mp fails
    obtain ⟨last, told⟩ := relayed_fails id first middle
    obtain rfl : first = failure := Except.error.inj (Prod.mk.inj (told.symm.trans later)).1
    exact ⟨middle, here⟩
  · rintro ⟨middle, fails⟩
    obtain ⟨after, told⟩ := relayed_fails id failure middle
    exact ⟨after, (fails_try _ _ _ _ _).mpr ⟨failure, middle, fails, told⟩⟩

def Unencodable (wording : Wording) (failure : Failure) : Prop :=
  ∃ glyphs, wording = .loose glyphs ∧ failure = .unencodable glyphs

def Acts (principal : Option String) : Prop := ∃ owner, principal = some owner ∧ owner ≠ ""

theorem replace_with_fails (settings : Settings) (id : Int) (wording : Wording) (principal : Option String) (before : World)
    (failure : Failure) (hidden : Private failure) :
    (∃ after, Fails (Service.replaceWith (.ok settings) id wording principal) before failure after) ↔
      Acts principal ∧ Unencodable wording failure := by
  cases wording with
  | text value =>
      refine iff_of_false ?_ ?_
      · rintro ⟨after, fails⟩
        have told := Service.replace_spoken settings id value principal before failure after fails
        exact absurd (told.symm.trans hidden) (by decide)
      · rintro ⟨-, glyphs, never, -⟩
        cases never
  | loose glyphs =>
      constructor
      · rintro ⟨after, fails⟩
        rcases (fails_bind _ _ _ _ _).mp fails with nobody | ⟨_, first, acts, later⟩
        · have denied := denies_spoken 0 failure (Service.acting_tells 0 principal _ _ _ (fails_discard _ _ _ _ nobody))
          exact absurd (denied.symm.trans hidden) (by decide)
        · obtain ⟨name, found⟩ := (yields_discard _ _ _ _).mp acts
          obtain ⟨acting, named, -⟩ := Service.acting_found principal before first name found
          refine ⟨⟨name, acting, named⟩, glyphs, rfl, ?_⟩
          rcases (fails_bind _ _ _ _ _).mp later with unset | ⟨_, second, -, thrown⟩
          · cases (Prod.mk.inj unset).1
          · exact ((fails_throw _ _ _ _).mp thrown).1
      · rintro ⟨⟨owner, rfl, named⟩, other, same, rfl⟩
        obtain rfl := Wording.loose.inj same
        have acts : Yields (discard (Service.acting (some owner))) before () before :=
          (yields_discard _ _ _ _).mpr ⟨owner, Service.acting_yields owner named before⟩
        refine ⟨before, (fails_bind _ _ _ _ _).mpr (.inr ⟨(), before, acts, ?_⟩)⟩
        exact (fails_bind _ _ _ _ _).mpr (.inr ⟨(), before, rfl, rfl⟩)

def Raises (settings : Settings) (drafter : Option Drafter) (principal : Option String) (before : World) (failure : Failure) :
    ServiceCall → Prop
  | .validate wording => Unencodable wording failure
  | .format wording => Unencodable wording failure ∨
      ∃ text, wording = .text text ∧ (validate settings text).isValid = false ∧
        failure = .invalid false (validate settings text).errors
  | .createModel creation => ∃ after, Fails (Service.createModel principal creation.members creation.store) before failure after
  | .listModels => ∃ after, Fails (Service.listModels principal) before failure after
  | .getModel id => ∃ after, Fails (Service.getModel id principal) before failure after
  | .getSchema id => ∃ after, Fails (Service.getSchema (.ok settings) id principal) before failure after
  | .replaceSchema id wording => ∃ after, Fails (Service.replaceWith (.ok settings) id wording principal) before failure after
  | .draft id instructions => ∃ present after, drafter = some present ∧
      Fails (Service.applyDraft (.ok settings) id present instructions principal) before failure after
  | .chat id => ∃ after, Fails (Service.chatHistory (.ok settings) id principal) before failure after

def statusOf : Failure → Nat
  | .unauthenticated => 401
  | .notFound _ => 404
  | .forbidden _ => 403
  | .invalid _ _ => 400
  | .undrafted _ => 502
  | _ => 500

theorem spoken_rejection (failure : Failure) (spoken : Spoken failure) :
    ∃ rejection, failure.rejection? = some rejection ∧ rejection.status = statusOf failure := by
  cases failure with
  | unauthenticated | notFound _ | forbidden _ | invalid _ _ | unpersisted _ _ | unsaved _ _ | undrafted _ =>
      exact ⟨_, rfl, rfl⟩
  | _ => cases spoken

theorem private_rejection (failure : Failure) (hidden : Private failure) : failure.rejection? = none := by
  cases failure with
  | unauthenticated | notFound _ | forbidden _ | invalid _ _ | unpersisted _ _ | unsaved _ _ | undrafted _ => cases hidden
  | _ => rfl

-- What becomes of a request: its work was done, or failed in a way that clients hear of, or in another.
inductive Ended (raises : Failure → Prop) : Outcome → Prop
  | replied (reply : Reply) (done : ∀ failure, ¬ raises failure) : Ended raises (.replied reply)
  | rejected (failure : Failure) (rejection : Rejection) (raised : raises failure) (spoken : Spoken failure)
      (told : failure.rejection? = some rejection) (status : rejection.status = statusOf failure) :
      Ended raises (.rejected rejection)
  | broke (failure : Failure) (raised : raises failure) (hidden : Private failure) : Ended raises (.broke failure)

theorem answered_outcome {α : Type} (status : Nat) (encode : α → Json) (work : Action α) (before : World) :
    ((answered status encode work).run before).1 =
      match (outcome work before).1 with
      | .ok value => .replied ⟨status, .json (encode value)⟩
      | .error failure =>
          match failure.rejection? with
          | some rejection => .rejected rejection
          | none => .broke failure := by
  rcases outcome_cases work before with ⟨value, after, yields⟩ | ⟨failure, after, fails⟩
  · have result : outcome work before = (.ok value, after) := yields
    have run : StateT.run (ExceptT.run work) before = (.ok value, after) := yields
    rw [answered, StateT.run_bind, run, result]
    rfl
  · have result : outcome work before = (.error failure, after) := fails
    have run : StateT.run (ExceptT.run work) before = (.error failure, after) := fails
    rw [answered, StateT.run_bind, run, result]
    show (StateT.run (match failure.rejection? with
      | some rejection => (pure (.rejected rejection) : StateM World Outcome)
      | none => pure (.broke failure)) after).1 = match failure.rejection? with
        | some rejection => .rejected rejection
        | none => .broke failure
    cases failure.rejection? <;> rfl

theorem answered_ended {α : Type} (status : Nat) (encode : α → Json) (work : Action α) (before : World)
    (raises : Failure → Prop) (all : ∀ failure, (∃ after, Fails work before failure after) ↔ raises failure) :
    Ended raises ((answered status encode work).run before).1 ∧
      ∀ failure, raises failure → Private failure → ((answered status encode work).run before).1 = .broke failure := by
  rw [answered_outcome]
  rcases outcome_cases work before with ⟨value, after, yields⟩ | ⟨failure, after, fails⟩
  · rw [show outcome work before = (.ok value, after) from yields]
    have done : ∀ failure, ¬ raises failure := fun failure raised => by
      obtain ⟨last, fails⟩ := (all failure).mpr raised
      cases (Prod.mk.inj (yields.symm.trans fails)).1
    exact ⟨.replied _ done, fun failure raised _ => absurd raised (done failure)⟩
  · have raised := (all failure).mp ⟨after, fails⟩
    rw [show outcome work before = (.error failure, after) from fails]
    constructor
    · cases service : failure.isService with
      | true =>
          obtain ⟨rejection, told, status⟩ := spoken_rejection failure service
          simp only [told]
          exact .rejected failure rejection raised service told status
      | false =>
          simp only [private_rejection failure service]
          exact .broke failure raised service
    · intro other raisedToo hidden
      obtain ⟨last, failsToo⟩ := (all other).mpr raisedToo
      obtain rfl := Except.error.inj (Prod.mk.inj (fails.symm.trans failsToo)).1
      simp only [private_rejection failure hidden]

-- A stored field cannot be shown: a principal that owns its data model has its records, and they make no schema.
def Unshowable (id : Int) (principal : Option String) (before : World) (failure : Failure) : Prop :=
  ∃ projection value after, Yields (Service.loaded id principal) before projection after ∧
    projection.toEntities = .error value ∧ failure = .unrenderable value

-- The failures that leave the service without being of its kinds.
def Escapes (drafter : Option Drafter) (principal : Option String) (before : World) (failure : Failure) : ServiceCall → Prop
  | .validate wording | .format wording => Unencodable wording failure
  | .replaceSchema _ wording => Acts principal ∧ Unencodable wording failure
  | .createModel _ => ∃ owner, principal = some owner ∧ 128 < owner.length ∧ failure = .refused .dataModels [ownerOverlong]
  | .getSchema id => Unshowable id principal before failure
  | .draft id _ => drafter.isSome ∧ Unshowable id principal before failure
  | _ => False

theorem unshowable_iff (settings : Settings) (id : Int) (principal : Option String) (before : World) (failure : Failure)
    (hidden : Private failure) :
    (∃ after, Fails (Service.getSchema (.ok settings) id principal) before failure after) ↔
      Unshowable id principal before failure := by
  constructor
  · rintro ⟨after, fails⟩
    obtain ⟨projection, value, found⟩ := (Service.get_schema_fails settings id principal before after failure hidden).mp fails
    exact ⟨projection, value, after, found⟩
  · rintro ⟨projection, value, after, found⟩
    exact ⟨after,
      (Service.get_schema_fails settings id principal before after failure hidden).mpr ⟨projection, value, found⟩⟩

theorem escapes_hidden (drafter : Option Drafter) (principal : Option String) (before : World) (failure : Failure)
    (call : ServiceCall) (escapes : Escapes drafter principal before failure call) : Private failure := by
  cases call with
  | validate wording | format wording =>
      obtain ⟨_, _, rfl⟩ := escapes
      rfl
  | replaceSchema id wording =>
      obtain ⟨-, _, _, rfl⟩ := escapes
      rfl
  | createModel creation =>
      obtain ⟨_, _, _, rfl⟩ := escapes
      rfl
  | getSchema id =>
      obtain ⟨_, _, _, _, _, rfl⟩ := escapes
      rfl
  | draft id instructions =>
      obtain ⟨-, _, _, _, _, _, rfl⟩ := escapes
      rfl
  | _ => cases escapes

-- One case for each call: all that it does is caught, apart from the measuring of a text, the making of a record and the
-- showing of records.
theorem raises_escapes (settings : Settings) (drafter : Option Drafter) (principal : Option String) (before : World)
    (failure : Failure) (hidden : Private failure) (call : ServiceCall)
    (limited : ∀ creation, call = .createModel creation → Limited creation) :
    Raises settings drafter principal before failure call ↔ Escapes drafter principal before failure call := by
  have spoken : ∀ {α : Type} (work : Action α), Tells Spoken work → ¬ ∃ after, Fails work before failure after := by
    rintro α work tells ⟨after, fails⟩
    exact absurd ((tells before failure after fails).symm.trans hidden) (by decide)
  cases call with
  | validate wording => exact Iff.rfl
  | format wording =>
      refine ⟨fun raised => ?_, .inl⟩
      rcases raised with unencodable | ⟨text, -, -, rfl⟩
      · exact unencodable
      · cases hidden
  | createModel creation => exact create_fails creation (limited creation rfl) principal before failure hidden
  | listModels => exact iff_of_false (spoken _ (Service.list_tells principal)) id
  | getModel model => exact iff_of_false (spoken _ (Service.get_tells model principal)) id
  | getSchema model => exact unshowable_iff settings model principal before failure hidden
  | replaceSchema model wording => exact replace_with_fails settings model wording principal before failure hidden
  | draft model instructions =>
      constructor
      · rintro ⟨present, after, rfl, fails⟩
        refine ⟨rfl, (unshowable_iff settings model principal before failure hidden).mp ⟨after, ?_⟩⟩
        exact (Service.apply_draft_fails settings model present instructions principal before after failure hidden).mp fails
      · rintro ⟨some, unshowable⟩
        obtain ⟨present, rfl⟩ := Option.isSome_iff_exists.mp some
        obtain ⟨after, fails⟩ := (unshowable_iff settings model principal before failure hidden).mpr unshowable
        exact ⟨present, after, rfl,
          (Service.apply_draft_fails settings model present instructions principal before after failure hidden).mpr fails⟩
  | chat model => exact iff_of_false (spoken _ (Service.chat_tells settings model principal)) id

def carried? : ServiceCall → Option Wording
  | .validate wording | .format wording | .replaceSchema _ wording => some wording
  | _ => none

-- What was sent, what was stored, or who asks, is to blame for a failure that escapes.
theorem escapes_reason (drafter : Option Drafter) (principal : Option String) (before : World) (failure : Failure)
    (call : ServiceCall) (escapes : Escapes drafter principal before failure call) :
    (∃ glyphs, carried? call = some (.loose glyphs)) ∨ (∃ owner, principal = some owner ∧ 128 < owner.length) ∨
      ∃ id field value, Row.record field = Except.ok value ∧ field ∈ before.tables.fieldsOf id ∧
        ∃ text, Service.Unwritable text value := by
  have stored : ∀ id, Unshowable id principal before failure →
      ∃ field value, Row.record field = Except.ok value ∧ field ∈ before.tables.fieldsOf id ∧
        ∃ text, Service.Unwritable text value := by
    rintro id ⟨projection, text, after, yields, failed, -⟩
    obtain ⟨value, member, unwritable⟩ := Service.to_entities_unwritable projection text failed
    have rows := Service.loaded_rows id principal before after projection yields
    have told : Except.ok value ∈ (before.tables.fieldsOf id).map Row.record := by
      rw [rows]
      exact List.mem_map_of_mem member
    obtain ⟨field, row, same⟩ := List.mem_map.mp told
    exact ⟨field, value, same, row, text, unwritable⟩
  cases call with
  | validate wording | format wording =>
      obtain ⟨glyphs, rfl, -⟩ := escapes
      exact .inl ⟨glyphs, rfl⟩
  | replaceSchema id wording =>
      obtain ⟨-, glyphs, rfl, -⟩ := escapes
      exact .inl ⟨glyphs, rfl⟩
  | createModel creation =>
      obtain ⟨owner, acts, long, -⟩ := escapes
      exact .inr (.inl ⟨owner, acts, long⟩)
  | getSchema id => exact .inr (.inr ⟨id, stored id escapes⟩)
  | draft id instructions => exact .inr (.inr ⟨id, stored id escapes.2⟩)
  | _ => cases escapes

def Draftless (drafter : Option Drafter) (call : ServiceCall) : Prop :=
  drafter = none ∧ ∃ id instructions, call = .draft id instructions

def Served (settings : Settings) (drafter : Option Drafter) (principal : Option String) (before : World) (call : ServiceCall)
    (outcome : Outcome) : Prop :=
  Ended (Raises settings drafter principal before · call) outcome ∧
    ∀ failure, Raises settings drafter principal before failure call → Private failure → outcome = .broke failure

theorem loose_served (settings : Settings) (drafter : Option Drafter) (principal : Option String) (before : World)
    (call : ServiceCall) (glyphs : List Glyph)
    (raises : ∀ failure, Raises settings drafter principal before failure call ↔ failure = .unencodable glyphs) :
    Served settings drafter principal before call (.broke (.unencodable glyphs)) := by
  refine ⟨.broke _ ((raises _).mpr rfl) rfl, fun failure raised _ => ?_⟩
  rw [(raises failure).mp raised]

theorem loose_unencodable (glyphs : List Glyph) (failure : Failure) :
    Unencodable (.loose glyphs) failure ↔ failure = .unencodable glyphs := by
  constructor
  · rintro ⟨other, same, told⟩
    obtain rfl := Wording.loose.inj same
    exact told
  · exact fun told => ⟨glyphs, rfl, told⟩

theorem text_unencodable (text : String) (failure : Failure) : ¬ Unencodable (.text text) failure := by
  rintro ⟨glyphs, never, -⟩
  cases never

theorem validate_served (settings : Settings) (drafter : Option Drafter) (principal : Option String) (before : World)
    (wording : Wording) : Served settings drafter principal before (.validate wording)
      (inspected wording fun text => .replied ⟨200, .json (validate settings text).summary⟩) := by
  cases wording with
  | text text =>
      have done : ∀ failure, ¬ Raises settings drafter principal before failure (.validate (.text text)) :=
        text_unencodable text
      exact ⟨.replied _ done, fun failure raised _ => absurd raised (done failure)⟩
  | loose glyphs => exact loose_served settings drafter principal before _ glyphs (loose_unencodable glyphs)

theorem format_served (settings : Settings) (drafter : Option Drafter) (principal : Option String) (before : World)
    (wording : Wording) :
    Served settings drafter principal before (.format wording) (inspected wording (formatOutcome settings)) := by
  cases wording with
  | text text =>
      have raises : ∀ failure, Raises settings drafter principal before failure (.format (.text text)) ↔
          (validate settings text).isValid = false ∧ failure = .invalid false (validate settings text).errors := by
        intro failure
        constructor
        · rintro (unencodable | ⟨other, same, told⟩)
          · exact absurd unencodable (text_unencodable text failure)
          · obtain rfl := Wording.text.inj same
            exact told
        · exact fun told => .inr ⟨text, rfl, told⟩
      refine ⟨?_, fun failure raised unheard => ?_⟩
      · rw [inspected, formatOutcome, formatted]
        cases valid : (validate settings text).isValid with
        | true =>
            simp only [if_true]
            refine .replied _ fun failure raised => ?_
            cases ((raises failure).mp raised).1.symm.trans valid
        | false =>
            simp only [Bool.false_eq_true, if_false]
            exact .rejected (.invalid false (validate settings text).errors) _ ((raises _).mpr ⟨valid, rfl⟩) rfl rfl rfl
      · obtain ⟨-, rfl⟩ := (raises failure).mp raised
        cases unheard
  | loose glyphs =>
      apply loose_served settings drafter principal before _ glyphs
      intro failure
      constructor
      · rintro (unencodable | ⟨other, never, -⟩)
        · exact (loose_unencodable glyphs failure).mp unencodable
        · cases never
      · exact fun told => .inl ((loose_unencodable glyphs failure).mpr told)

theorem performed (settings : Settings) (drafter : Option Drafter) (principal : Option String) (before : World)
    (call : ServiceCall) (served : ¬ Draftless drafter call) :
    Served settings drafter principal before call ((perform settings drafter principal call).run before).1 := by
  cases call with
  | validate wording => exact validate_served settings drafter principal before wording
  | format wording => exact format_served settings drafter principal before wording
  | replaceSchema id wording => exact answered_ended 200 Saved.json _ before _ fun failure => noting_fails id _ before failure
  | createModel creation => exact answered_ended 201 DataModel.json _ before _ fun _ => Iff.rfl
  | listModels | getModel id | getSchema id | chat id => exact answered_ended 200 _ _ before _ fun _ => Iff.rfl
  | draft id instructions =>
      cases drafter with
      | none => exact absurd ⟨rfl, id, instructions, rfl⟩ served
      | some present =>
          refine answered_ended 200 Saved.json _ before _ fun failure => ⟨?_, ?_⟩
          · rintro ⟨after, fails⟩
            exact ⟨present, after, rfl, fails⟩
          · rintro ⟨other, after, same, fails⟩
            obtain rfl := Option.some.inj same
            exact ⟨after, fails⟩

def serviceMissing : Rejection := ⟨503, .str "Schema service not initialized"⟩

def drafterMissing : Rejection := ⟨503, .str "Schema drafter not configured"⟩

inductive Concluded (application : Application) (principal : Option String) (before : World) (call : ServiceCall) :
    Outcome → Prop
  | replied (settings : Settings) (reply : Reply) (present : application.service = some settings)
      (done : ∀ failure, ¬ Raises settings application.drafter principal before failure call) :
      Concluded application principal before call (.replied reply)
  | unserved (missing : application.service = none) : Concluded application principal before call (.rejected serviceMissing)
  | undrafted (present : application.service.isSome) (draftless : Draftless application.drafter call) :
      Concluded application principal before call (.rejected drafterMissing)
  | rejected (settings : Settings) (failure : Failure) (rejection : Rejection) (present : application.service = some settings)
      (raised : Raises settings application.drafter principal before failure call) (spoken : Spoken failure)
      (told : failure.rejection? = some rejection) (status : rejection.status = statusOf failure) :
      Concluded application principal before call (.rejected rejection)
  | broke (failure : Failure) (present : application.service.isSome)
      (escapes : Escapes application.drafter principal before failure call) :
      Concluded application principal before call (.broke failure)

theorem dispatch_understood (application : Application) (request : Request) (route : Route) (call : ServiceCall)
    (found : Route.find? request.path = some route)
    (understood : route.call? request.method request.payload = some (.ok (.service call))) :
    dispatch application request = handle application request.principal? (.service call) := by
  delta dispatch
  simp only [found, understood]

theorem served_concludes (application : Application) (settings : Settings) (principal : Option String) (before : World)
    (call : ServiceCall) (outcome : Outcome) (service : application.service = some settings)
    (limited : ∀ creation, call = .createModel creation → Limited creation)
    (served : Served settings application.drafter principal before call outcome) :
    Concluded application principal before call outcome ∧
      ∀ failure, Escapes application.drafter principal before failure call → outcome = .broke failure := by
  obtain ⟨ended, escaping⟩ := served
  constructor
  · cases ended with
    | replied reply done => exact .replied settings reply service done
    | rejected failure rejection raised spoken told status =>
        exact .rejected settings failure rejection service raised spoken told status
    | broke failure raised hidden =>
        refine .broke failure (by rw [service]; rfl) ?_
        exact (raises_escapes settings _ _ before failure hidden call limited).mp raised
  · intro failure escapes
    have hidden := escapes_hidden _ _ before failure call escapes
    exact escaping failure ((raises_escapes settings _ _ before failure hidden call limited).mpr escapes) hidden

-- A request that the routes understand is answered, or refused for a failure that clients hear of. What else there is to
-- fail are a text without an encoding, an owner's name that no record has room for and stored fields that cannot be shown,
-- and these do escape.
theorem schema_routes_conclude (application : Application) (request : Request) (route : Route) (call : ServiceCall)
    (found : Route.find? request.path = some route)
    (understood : route.call? request.method request.payload = some (.ok (.service call))) (before : World) :
    Concluded application request.principal? before call ((dispatch application request).run before).1 ∧
      ∀ failure, Escapes application.drafter request.principal? before failure call → application.service.isSome →
        ((dispatch application request).run before).1 = .broke failure := by
  rw [dispatch_understood application request route call found understood]
  cases service : application.service with
  | none =>
      have missing : handle application request.principal? (.service call) = pure (.rejected serviceMissing) := by
        simp only [handle, service, serviceMissing]
      rw [missing]
      exact ⟨.unserved service, fun failure _ present => by cases present⟩
  | some settings =>
      have here : handle application request.principal? (.service call) =
          perform settings application.drafter request.principal? call := by
        simp only [handle, service]
      rw [here]
      by_cases draftless : Draftless application.drafter call
      · obtain ⟨none, id, instructions, rfl⟩ := id draftless
        have missing : perform settings application.drafter request.principal? (.draft id instructions) =
            pure (.rejected drafterMissing) := by
          simp only [perform, none, drafterMissing]
        rw [missing]
        refine ⟨.undrafted (by rw [service]; rfl) draftless, fun failure escapes _ => ?_⟩
        have some := escapes.1
        rw [none] at some
        cases some
      · have served := performed settings application.drafter request.principal? before call draftless
        obtain ⟨concluded, escaping⟩ := served_concludes application settings _ before call _ service
          (fun creation created => creation_limited route _ _ creation (created ▸ understood)) served
        exact ⟨concluded, fun failure escapes _ => escaping failure escapes⟩

def listRequest : Request := { method := "GET", target := "/api/v1/data-models?page=2", headers := [("X-Principal-Id", "ann")] }

theorem list_request_concludes :
    Route.find? listRequest.path = some .models ∧
      Route.models.call? listRequest.method listRequest.payload = some (.ok (.service .listModels)) ∧
        Concluded { service := some {} } (some "ann") {} .listModels
          ((dispatch { service := some {} } listRequest).run {}).1 := by
  have found : Route.find? listRequest.path = some .models := by decide +kernel
  have understood : Route.models.call? listRequest.method listRequest.payload = some (.ok (.service .listModels)) := rfl
  have acts : listRequest.principal? = some "ann" := by decide +kernel
  refine ⟨found, understood, ?_⟩
  rw [← acts]
  exact (schema_routes_conclude { service := some {} } listRequest .models .listModels found understood {}).1

def longOwner : String := String.ofList (List.replicate 129 'a')

def longRequest : Request :=
  { method := "POST"
    target := "/api/v1/data-models"
    headers := [("X-Principal-Id", longOwner), ("Content-Type", "application/json")]
    content := "\x7b\"name\":\"Shop\"\x7d" }

theorem long_owner : 128 < longOwner.length := by
  have length : longOwner.length = 129 := (String.length_ofList).trans List.length_replicate
  omega

theorem long_request_understood :
    Route.models.call? longRequest.method longRequest.payload =
      some (.ok (.service (.createModel ⟨"Shop", "1", .text "", .sql⟩))) := by
  have declared : (longRequest.header? "content-type").any isJsonType = true := by decide +kernel
  have read : Json.read (Json.withoutMark longRequest.content.toList) = .ok (.obj [("name", .str "Shop")]) := by cbv
  rw [Request.payload, if_neg (by decide), if_neg (by rw [declared]; decide), read]
  rfl

-- An owner's name may be longer than the record of a data model allows, and no handler hears of it.
theorem routes_let_failures_escape :
    ¬ ∀ (settings : Settings) (request : Request) (route : Route) (call : ServiceCall) (before : World) (failure : Failure),
      Route.find? request.path = some route → route.call? request.method request.payload = some (.ok (.service call)) →
        ((dispatch { service := some settings } request).run before).1 ≠ .broke failure := by
  intro kept
  have found : Route.find? longRequest.path = some .models := by decide +kernel
  have acts : longRequest.principal? = some longOwner := by decide +kernel
  have limited := creation_limited .models _ _ _ long_request_understood
  have raised := (create_fails _ limited (some longOwner) {} (.refused .dataModels [ownerOverlong]) rfl).mpr
    ⟨longOwner, rfl, long_owner, rfl⟩
  have served := performed {} none (some longOwner) {} (.createModel ⟨"Shop", "1", .text "", .sql⟩)
    fun ⟨_, _, _, same⟩ => by cases same
  refine kept {} longRequest .models _ {} (.refused .dataModels [ownerOverlong]) found long_request_understood ?_
  rw [dispatch_understood _ _ _ _ found long_request_understood, acts]
  exact served.2 _ raised rfl

end Http

end Schematic
