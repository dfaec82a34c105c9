/- The operations on one review: replies, retries, drafts, skips and syncs. The agents are the
dispatch systems of the dedupe gate, one for each approval identifier. -/

import OneVoice.Construction.Dedupe.Dispatch
import OneVoice.Construction.Review.Store

namespace OneVoice.Reviews

open Dedupe Function

/-- The position of a publication; without a tool it was not dispatched. -/
inductive PublishPhase where
  | loaded
  | sent
  | dispatched
  | unrouted
  | failed
  | recorded
  deriving DecidableEq

/-- A reply or retry with the review that it has loaded. -/
structure Publish where
  review : Review
  text : String
  phase : PublishPhase

inductive DraftPhase where
  | selected
  | claimed
  deriving DecidableEq

/-- A request on the way to an agent. -/
structure Message where
  key : String
  text : String

/-- The document, the open calls, and the agents with what they published. -/
structure Service (Error : Type) where
  review : Review
  publishes : Nat → Option Publish
  drafts : Nat → Option DraftPhase
  messages : Nat → Option Message
  agents : String → Dispatches Error
  executed : List String

inductive Action (Error : Type) where
  | reply (id : Nat) (automatic : Bool) (businessID text : String)
  | retryReply (id : Nat) (businessID : String)
  | send (id : Nat)
  | unrouted (id : Nat)
  | malformed (id : Nat)
  | agent (key : String) (event : Dedupe.Event Error)
  | answer (id : Nat)
  | lost (id : Nat)
  | record (id : Nat)
  | finish (id : Nat)
  | stop (id : Nat)
  | skip (businessID : String)
  | select (id : Nat)
  | claim (id : Nat)
  | draft (id : Nat) (outcome : Option String)
  | abandon (id : Nat)
  | regenerate (businessID : String)
  | sync (reply : String)

/-- The call of the agent that an event is about. -/
def eventCall {Error : Type} : Dedupe.Event Error → Option Nat
  | .tick _ => none
  | .skipped call | .claimed call | .missed call | .claimFailed call _ | .answered call _
  | .getFailed call | .execReturned call _ _ | .finished call | .released call _
  | .stored call _ _ => some call

/-- The answer of a tool that has done its work. -/
def succeeded {Error : Type} (response : Option ToolResponse) (error : Option Error) : Bool :=
  error.isNone && response.any ToolResponse.success

namespace Service

variable {Error : Type}

variable (service : Service Error)

def setPublish (id : Nat) (publish : Option Publish) : Service Error :=
  { service with publishes := update service.publishes id publish }

def setDraft (id : Nat) (draft : Option DraftPhase) : Service Error :=
  { service with drafts := update service.drafts id draft }

def write (review : Review) : Service Error := { service with review := review }

/-- The text that an event publishes on the platform. -/
def landed (requests : Nat → Dedupe.Call Error) : Dedupe.Event Error → List String
  | .execReturned call response error =>
    if succeeded response ((requests call).dispatcher.classify error) then
      ((service.messages call).map Message.text).toList
    else
      []
  | _ => []

/-- No call is open, and the agents have not seen a request. -/
def start (review : Review) (now : Domain.Time) : Service Error where
  review := review
  publishes := fun _ => none
  drafts := fun _ => none
  messages := fun _ => none
  agents := fun _ => .start now
  executed := []

/-- Before the calls on the review, chat turns have sent replies to it under their own keys. -/
def startAfter (messages : Nat → Option Message) (review : Review) (now : Domain.Time) : Service Error :=
  { start review now with messages := messages }

end Service

/-- The outcome that a publication persists in the end. -/
def PublishPhase.finalStatus : PublishPhase → Option ReplyStatus
  | .recorded | .unrouted => some .replied
  | .failed => some .error
  | .loaded | .sent | .dispatched => none

inductive Step {Error : Type} (requests : Nat → Dedupe.Call Error) :
    Service Error → Action Error → Service Error → Prop
  | reply {service : Service Error} {id automatic businessID text} :
      service.publishes id = none → service.messages id = none → text ≠ "" →
      service.review.businessID = businessID →
      service.review.alreadyAnswered automatic = false →
        Step requests service (.reply id automatic businessID text)
          (service.setPublish id (some ⟨service.review, text, .loaded⟩))
  | retryReply {service : Service Error} {id businessID} :
      service.publishes id = none → service.messages id = none →
      service.review.businessID = businessID → service.review.retryable = true →
        Step requests service (.retryReply id businessID)
          (service.setPublish id (some ⟨service.review, service.review.replyText, .loaded⟩))
  | send {service : Service Error} {id} {publish : Publish} :
      service.publishes id = some publish → publish.phase = .loaded →
        Step requests service (.send id)
          { service.setPublish id (some { publish with phase := .sent }) with
            messages := update service.messages id (some ⟨publish.review.manualReplyApprovalID, publish.text⟩) }
  /-- Without a connection or a tool for the platform nothing is sent. -/
  | unrouted {service : Service Error} {id} {publish : Publish} :
      service.publishes id = some publish → publish.phase = .loaded →
        Step requests service (.unrouted id) (service.setPublish id (some { publish with phase := .unrouted }))
  | malformed {service : Service Error} {id} {publish : Publish} :
      service.publishes id = some publish → publish.phase = .loaded →
        Step requests service (.malformed id) (service.setPublish id (some { publish with phase := .failed }))
  /-- An agent works on the requests it got, also after the caller gave up. -/
  | agent {service : Service Error} {key event next} :
      (∀ call, eventCall event = some call → ∃ message, service.messages call = some message ∧ message.key = key) →
      Dedupe.Step requests key (service.agents key) event next →
        Step requests service (.agent key event)
          { service with
            agents := update service.agents key next
            executed := service.executed ++ service.landed requests event }
  | answer {service : Service Error} {id} {publish : Publish} {message : Message} {response error} :
      service.publishes id = some publish → publish.phase = .sent →
      service.messages id = some message →
      (service.agents message.key).calls id = .returned response error →
        Step requests service (.answer id)
          (service.setPublish id (some { publish with
            phase := if succeeded response error then .dispatched else .failed }))
  /-- The wait for the agent ends without an answer. -/
  | lost {service : Service Error} {id} {publish : Publish} :
      service.publishes id = some publish → publish.phase = .sent →
        Step requests service (.lost id) (service.setPublish id (some { publish with phase := .failed }))
  | record {service : Service Error} {id} {publish : Publish} :
      service.publishes id = some publish → publish.phase = .dispatched →
        Step requests service (.record id)
          ((service.setPublish id (some { publish with phase := .recorded })).write
            (service.review.updateReply publish.text .replied publish.review.manualReplyApprovalID))
  | finish {service : Service Error} {id} {publish : Publish} {status} :
      service.publishes id = some publish → publish.phase.finalStatus = some status →
        Step requests service (.finish id)
          ((service.setPublish id none).write (service.review.updateReply publish.text status ""))
  /-- A refusal, a failed write or a crash ends the call. -/
  | stop {service : Service Error} {id publish} :
      service.publishes id = some publish → Step requests service (.stop id) (service.setPublish id none)
  | skip {service : Service Error} {businessID review} :
      service.review.skipPending businessID = some review →
        Step requests service (.skip businessID) (service.write review)
  | select {service : Service Error} {id} : service.drafts id = none →
      (service.review.pendingWithoutDraft || service.review.draftTarget) = true →
        Step requests service (.select id) (service.setDraft id (some .selected))
  | claim {service : Service Error} {id review} : service.drafts id = some .selected →
      service.review.claimDraftForGenerating = some review →
        Step requests service (.claim id) ((service.setDraft id (some .claimed)).write review)
  /-- The generation ends with a draft or without one. -/
  | draft {service : Service Error} {id} {outcome : Option String} {review} : service.drafts id = some .claimed →
      service.review.updateDraft (outcome.getD "") (if outcome.isSome then .ready else .failed) = some review →
        Step requests service (.draft id outcome) ((service.setDraft id none).write review)
  | abandon {service : Service Error} {id phase} :
      service.drafts id = some phase → Step requests service (.abandon id) (service.setDraft id none)
  | regenerate {service : Service Error} {businessID review} :
      service.review.prepareRegeneration businessID = some review →
        Step requests service (.regenerate businessID) (service.write review)
  | sync {service : Service Error} (reply : String) :
      Step requests service (.sync reply) (service.write (service.review.upsert (Review.incomingFromMap reply)))

/-- The agent works on a request that was sent to it. -/
theorem addressed {messages : Nat → Option Message} {own : Nat} {key text : String}
    (sent : messages own = some ⟨key, text⟩) :
    ∀ call, some own = some call → ∃ message, messages call = some message ∧ message.key = key := by
  rintro _ ⟨⟩
  exact ⟨_, sent, rfl⟩

end OneVoice.Reviews
