/- The chat requests on one conversation, each of which takes the steps of `Run` one store operation
at a time. -/

import OneVoice.Construction.ChatTurn.Turn

namespace OneVoice.ChatTurn

open Domain

/-- The position of a request, with what it has read and stored so far. -/
inductive Phase where
  | idle
  | arrived
  | gating (active : Except StoreError Message)
  | healing (active : Message)
  | admitted
  | asked
  | reserved (streamStartID : String) (streamStartAt : Time)
  | streaming (streamStartID : String) (streamStartAt openedAt : Time)
  | drained (streamStartID : String) (streamStartAt : Time) (exchange : Exchange)
  | rejoined (active : Message)
  | returned (outcome : TurnOutcome)

/-- The clock has left the unset instant behind. -/
structure Conversation where
  clock : Time
  started : clock ≠ 0
  messages : Messages
  requests : Nat → Phase

inductive Action where
  | tick (elapsed : Time)
  | arrive (id : Nat) (conversation : ConversationAnswer)
  | find (id : Nat) (active : Except StoreError Message)
  | gate (id : Nat) (batches : Option (List PendingToolCallBatch))
  | heal (id : Nat) (fails : Bool)
  | refuse (id : Nat) (enriched : Except EnrichError Unit)
  | ask (id : Nat) (messageID : String) (fails : Bool)
  | reserve (id : Nat) (messageID : String) (startedAt : Time) (fails : Bool)
  | connect (id : Nat)
  | close (id : Nat) (exchange : Exchange)
  | finish (id : Nat) (failing : Failing)
  | rejoin (id : Nat) (outcome : TurnOutcome) (fails : Bool) (written : Option Message)

def Phase.afterGate : GateAction → Phase
  | .fresh => .admitted
  | .rejoinResume active _ => .rejoined active
  | .reemitApproval _ _ => .returned .reemittedApproval
  | .healStranded active => .healing active
  | .rejectInProgress _ => .returned .turnInProgress

/-- The resume path writes its message with new status and content. -/
structure Message.Resumes (active written : Message) : Prop where
  id : written.id = active.id
  conversationID : written.conversationID = active.conversationID
  role : written.role = active.role
  createdAt : written.createdAt = active.createdAt
  status : written.status = .complete ∨ written.status = .error ∨ written.status = .pendingApproval

namespace Conversation

variable (state : Conversation)

def advance (elapsed : Time) : Conversation :=
  { state with
    clock := state.clock + elapsed
    started := fun zero => state.started (Nat.eq_zero_of_add_eq_zero_right zero) }

/-- One request moves on and leaves the store in a new state. -/
def move (id : Nat) (phase : Phase) (messages : Messages) : Conversation :=
  { state with messages := messages, requests := Function.update state.requests id phase }

def start (messages : Messages) (now : Time) (started : now ≠ 0) : Conversation :=
  ⟨now, started, messages, fun _ => .idle⟩

/-- A fresh turn of the conversation streams from the orchestrator. -/
def Streams (id : Nat) : Prop :=
  ∃ streamStartID streamStartAt openedAt, state.requests id = .streaming streamStartID streamStartAt openedAt

end Conversation

inductive Step (tr : String → String) (requests : Nat → TurnRequest) :
    Conversation → Action → Conversation → Prop
  /-- A stream's context ends with its budget. -/
  | tick {state : Conversation} {elapsed} :
      (∀ id streamStartID streamStartAt openedAt,
        state.requests id = .streaming streamStartID streamStartAt openedAt →
          state.clock + elapsed < openedAt + streamBudget) →
        Step tr requests state (.tick elapsed) (state.advance elapsed)
  | arrive {state : Conversation} {id conversation} :
      state.requests id = .idle →
        Step tr requests state (.arrive id conversation)
          (state.move id
            (if ownsConversation conversation (requests id) then .arrived
              else .returned .conversationNotFound)
            state.messages)
  /-- The lookup may also fail. -/
  | find {state : Conversation} {id active} : state.requests id = .arrived →
      active ∈ state.messages.findByConversationActive (requests id).conversationID ∨ active = .error .unavailable →
        Step tr requests state (.find id active) (state.move id (.gating active) state.messages)
  | gate {state : Conversation} {id active batches} :
      state.requests id = .gating active →
        Step tr requests state (.gate id batches)
          (state.move id (.afterGate (gateOnRequest active batches state.clock (requests id).resumeBatchID))
            state.messages)
  | heal {state : Conversation} {id active fails} :
      state.requests id = .healing active →
        Step tr requests state (.heal id fails)
          (state.move id .admitted (finalizeStranded state.messages fails active))
  | refuse {state : Conversation} {id enriched outcome} :
      state.requests id = .admitted → refusal (requests id) enriched = some outcome →
        Step tr requests state (.refuse id enriched) (state.move id (.returned outcome) state.messages)
  | ask {state : Conversation} {id messageID fails} :
      state.requests id = .admitted → refusal (requests id) (.ok ()) = none →
        Step tr requests state (.ask id messageID fails)
          (state.move id .asked (persistUserMessage state.messages fails state.clock
            (userMessage (requests id).conversationID messageID (requests id).message)))
  | reserve {state : Conversation} {id messageID startedAt fails} :
      state.requests id = .asked → startedAt ≤ state.clock →
        Step tr requests state (.reserve id messageID startedAt fails)
          (state.move id (.reserved messageID startedAt)
            (reserveAssistantPlaceholder state.messages fails state.clock
              (requests id).conversationID messageID startedAt))
  | connect {state : Conversation} {id streamStartID streamStartAt} :
      state.requests id = .reserved streamStartID streamStartAt →
        Step tr requests state (.connect id)
          (state.move id (.streaming streamStartID streamStartAt state.clock) state.messages)
  | close {state : Conversation} {id streamStartID streamStartAt openedAt exchange} :
      state.requests id = .streaming streamStartID streamStartAt openedAt →
        Step tr requests state (.close id exchange)
          (state.move id (.drained streamStartID streamStartAt exchange) state.messages)
  | finish {state : Conversation} {id streamStartID streamStartAt exchange failing}
      {result : TurnOutcome × Messages} :
      state.requests id = .drained streamStartID streamStartAt exchange →
      result = finishTurn tr state.messages (requests id).conversationID streamStartID
        streamStartAt exchange failing state.clock →
        Step tr requests state (.finish id failing) (state.move id (.returned result.1) result.2)
  /-- The resume path writes its message once at the end, or not at all. -/
  | rejoin {state : Conversation} {id} {active : Message} {outcome fails} {written : Option Message} :
      state.requests id = .rejoined active → (∀ message ∈ written, active.Resumes message) →
        Step tr requests state (.rejoin id outcome fails written)
          (state.move id (.returned outcome)
            (written.elim state.messages fun message =>
              state.messages.attempt (state.messages.update fails message)))

end OneVoice.ChatTurn
