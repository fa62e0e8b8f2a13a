import Schematic.Drafting.Endpoint
import Schematic.Proofs.Json.Strings

set_option autoImplicit false

namespace Schematic

def CarriesText (body text : String) : Prop :=
  ∃ members value, Json.read (Json.withoutMark body.toList) = .ok (.obj members) ∧ members.lookup "text" = some value ∧
    value.shownText? = some text

namespace DrafterFault

-- The faults that the client raises as its own. That of a connection which is lost while an answer is read is not among them.
inductive Own : DrafterFault → Prop where
  | transport (fault : TransportFault) (message : String) (noticed : fault ≠ .lost) : Own (.transport fault message)
  | answered (status : Int) : Own (.answered status)
  | noText (fault : BodyFault) : Own (.noText fault)

def status? : DrafterFault → Option Int
  | answered status => some status
  | _ => none

end DrafterFault

theorem text_of_iff (body text : String) : Endpoint.textOf body = .ok text ↔ CarriesText body text := by
  rw [Endpoint.textOf, CarriesText]
  cases Json.read (Json.withoutMark body.toList) with
  | error stop => simp
  | ok value =>
      cases value with
      | obj members =>
          cases found : members.lookup "text" with
          | none => simp [found]
          | some value => cases shown : value.shownText? <;> simp [found, shown]
      | _ => simp

theorem written_text_carried (text : String) : CarriesText (Json.write (.obj [("text", .str text)])) text := by
  refine ⟨[("text", .str text)], .str text, ?_, rfl, rfl⟩
  have plain : Json.withoutMark (Json.write (.obj [("text", .str text)])).toList = (Json.write (.obj [("text", .str text)])).toList := by
    rw [Json.write_text_object]
    rfl
  rw [plain, Json.text_object_read]

namespace Endpoint

variable (endpoint : Endpoint)

theorem receive_broken (fault : TransportFault) (message : String) :
    (endpoint.receive (.broken fault message)).outcome = .error (.transport fault message) := by
  cases fault <;> rfl

theorem receive_failed (status : Int) (body : String) (failed : 400 ≤ status) :
    (endpoint.receive (.answered status body)).outcome = .error (.answered status) := by
  rw [receive, if_pos failed]
  rfl

theorem receive_fine (status : Int) (body : String) (fine : status < 400) :
    (∃ text, CarriesText body text ∧ (endpoint.receive (.answered status body)).outcome = .ok (some text)) ∨
      ∃ fault, (∀ text, ¬ CarriesText body text) ∧ (endpoint.receive (.answered status body)).outcome = .error (.noText fault) := by
  rw [receive, if_neg (by omega)]
  cases said : textOf body with
  | ok text => exact .inl ⟨text, (text_of_iff body text).mp said, rfl⟩
  | error fault =>
      refine .inr ⟨fault, fun text carried => ?_, rfl⟩
      rw [(text_of_iff body text).mpr carried] at said
      cases said

end Endpoint

theorem carries_one (body a b : String) (first : CarriesText body a) (second : CarriesText body b) : a = b :=
  Except.ok.inj (((text_of_iff body a).mpr first).symm.trans ((text_of_iff body b).mpr second))

inductive Received (reply : EndpointReply) : Except DrafterFault (Option String) → Prop where
  | text (status : Int) (body text : String) (answer : reply = .answered status body) (fine : status < 400)
      (carried : CarriesText body text) : Received reply (.ok (some text))
  | noText (status : Int) (body : String) (fault : BodyFault) (answer : reply = .answered status body) (fine : status < 400)
      (none : ∀ text, ¬ CarriesText body text) : Received reply (.error (.noText fault))
  | refused (status : Int) (body : String) (answer : reply = .answered status body) (failed : 400 ≤ status) :
      Received reply (.error (.answered status))
  | broken (fault : TransportFault) (message : String) (breaks : reply = .broken fault message) :
      Received reply (.error (.transport fault message))

theorem receive_received (endpoint : Endpoint) (reply : EndpointReply) : Received reply (endpoint.receive reply).outcome := by
  cases reply with
  | broken fault message =>
      rw [endpoint.receive_broken]
      exact .broken fault message rfl
  | answered status body =>
      by_cases failed : 400 ≤ status
      · rw [endpoint.receive_failed status body failed]
        exact .refused status body rfl failed
      · have fine : status < 400 := by omega
        rcases endpoint.receive_fine status body fine with ⟨text, carried, outcome⟩ | ⟨fault, none, outcome⟩
        · rw [outcome]
          exact .text status body text rfl fine carried
        · rw [outcome]
          exact .noText status body fault rfl fine none

section Received

variable (reply : EndpointReply) (outcome : Except DrafterFault (Option String)) (received : Received reply outcome)

include received

theorem received_text (drafted : Option String) :
    outcome = .ok drafted ↔
      ∃ status body text, reply = .answered status body ∧ status < 400 ∧ CarriesText body text ∧ drafted = some text := by
  constructor
  · intro given
    cases given
    cases received with
    | text status body text answer fine carried => exact ⟨status, body, text, answer, fine, carried, rfl⟩
  · rintro ⟨status, body, text, answer, fine, carried, rfl⟩
    subst answer
    cases received with
    | text _ _ other answer _ also =>
        cases answer
        rw [carries_one body text other carried also]
    | noText _ _ _ answer _ none =>
        cases answer
        exact absurd carried (none text)
    | refused _ _ answer failed =>
        cases answer
        omega
    | broken _ _ breaks => cases breaks

theorem received_status (status : Int) :
    (∃ fault, outcome = .error fault ∧ fault.status? = some status) ↔ 400 ≤ status ∧ ∃ body, reply = .answered status body := by
  constructor
  · rintro ⟨fault, failed, carries⟩
    subst failed
    cases received with
    | refused _ body answer failed =>
        cases carries
        exact ⟨failed, body, answer⟩
    | noText => cases carries
    | broken => cases carries
  · rintro ⟨failed, body, answer⟩
    subst answer
    cases received with
    | refused _ _ answer _ =>
        cases answer
        exact ⟨.answered status, rfl, rfl⟩
    | text _ _ _ answer fine _ =>
        cases answer
        omega
    | noText _ _ _ answer fine _ =>
        cases answer
        omega
    | broken _ _ breaks => cases breaks

theorem received_foreign (fault : DrafterFault) :
    outcome = .error fault ∧ ¬ fault.Own ↔ ∃ message, reply = .broken .lost message ∧ fault = .transport .lost message := by
  constructor
  · rintro ⟨failed, foreign⟩
    subst failed
    cases received with
    | refused => exact absurd (.answered _) foreign
    | noText => exact absurd (.noText _) foreign
    | broken broke message breaks =>
        have lost : broke = .lost := by
          by_contra noticed
          exact foreign (.transport broke message noticed)
        subst lost
        exact ⟨message, breaks, rfl⟩
  · rintro ⟨message, breaks, rfl⟩
    subst breaks
    cases received with
    | broken _ _ breaks =>
        cases breaks
        refine ⟨rfl, fun own => ?_⟩
        cases own with
        | transport _ _ noticed => exact noticed rfl
    | text _ _ _ answer => cases answer
    | noText _ _ _ answer => cases answer
    | refused _ _ answer => cases answer

end Received

-- Whatever comes back, a drafter gives the text of an answer below 400 that carries one, and else breaks off with a fault of the
-- client, which has a status just where the answer has one from 400 up. Only the loss of the connection leaves it as another fault.
theorem drafter_concludes (endpoint : Endpoint) (reply : EndpointReply) (instructions : String) (current : Option String) :
    (∀ drafted, (endpoint.drafter reply instructions current).outcome = .ok drafted ↔
      ∃ status body text, reply = .answered status body ∧ status < 400 ∧ CarriesText body text ∧ drafted = some text) ∧
    (∀ text, CarriesText (Json.write (.obj [("text", .str text)])) text) ∧
    (∀ status, (∃ fault, (endpoint.drafter reply instructions current).outcome = .error fault ∧ fault.status? = some status) ↔
      400 ≤ status ∧ ∃ body, reply = .answered status body) ∧
    ∀ fault, (endpoint.drafter reply instructions current).outcome = .error fault ∧ ¬ fault.Own ↔
      ∃ message, reply = .broken .lost message ∧ fault = .transport .lost message := by
  have received : Received reply (endpoint.drafter reply instructions current).outcome := receive_received endpoint reply
  exact ⟨received_text reply _ received, written_text_carried, received_status reply _ received, received_foreign reply _ received⟩

theorem lost_connection_escapes :
    ¬ ∀ (endpoint : Endpoint) (reply : EndpointReply) (instructions : String) (current : Option String),
      (∃ text, (endpoint.drafter reply instructions current).outcome = .ok (some text)) ∨
        ∃ fault, (endpoint.drafter reply instructions current).outcome = .error fault ∧ fault.Own := by
  intro kept
  rcases kept ⟨"http://drafter:9000", .int 60⟩ (.broken .lost "reset") "add A" none with ⟨text, drafted⟩ | ⟨fault, failed, own⟩
  · cases drafted
  · cases failed
    cases own with
    | transport _ _ noticed => exact noticed rfl

end Schematic
