/- One chat request of `chatturn`: the gate and the recovery of `hitl.go`, `Run` of `turn.go` and
the writes of `persist.go`. -/

import OneVoice.Construction.ChatTurn.Stream

namespace OneVoice.ChatTurn

open Domain

/-- Ten minutes. -/
def streamBudget : Time := 10 * 60 * 1000

structure TurnRequest where
  userID : String
  businessID : String
  conversationID : String
  message : String
  resumeBatchID : String

inductive TurnOutcome where
  | done
  | error
  | pauseHITL
  | reemittedApproval
  | rejoinedResume
  | orchestratorUnavailable
  | businessNotFound
  | inlineError
  | missingMessage
  | conversationNotFound
  | turnInProgress
  | resumeInProgress
deriving DecidableEq

inductive GateAction where
  | fresh
  | rejoinResume (active : Message) (batchID : String)
  | reemitApproval (active : Message) (batch : PendingToolCallBatch)
  | healStranded (active : Message)
  | rejectInProgress (active : Message)

/-- The conversation's owner is found, missing or unread. -/
inductive ConversationAnswer where
  | owned (userID businessID : String)
  | notFound
  | failed

inductive EnrichError where
  | businessNotFound
  | other

/-- The writes of one request that the store does not take. -/
structure Failing where
  heal : Bool
  ask : Bool
  reserve : Bool
  update : Bool
  insert : Bool
deriving DecidableEq

def Failing.nothing : Failing := ⟨false, false, false, false, false⟩

/-- What a request meets: answers, clocks, ids, failing writes. -/
structure Surroundings where
  conversation : ConversationAnswer
  active : Except StoreError Message
  batches : Option (List PendingToolCallBatch)
  gatedAt : Time
  enriched : Except EnrichError Unit
  userMessageID : String
  askedAt : Time
  streamStartID : String
  streamStartAt : Time
  reservedAt : Time
  exchange : Exchange
  savedAt : Time
  failing : Failing

/-- Only a conversation that is found with another owner is refused. -/
def ownsConversation (answer : ConversationAnswer) (request : TurnRequest) : Bool :=
  match answer with
  | .owned userID businessID => userID = request.userID && businessID = request.businessID
  | .notFound | .failed => true

def isRecentInProgress (message : Message) (now : Time) : Bool :=
  message.status = .inProgress && message.createdAt ≠ 0 && now < message.createdAt + streamBudget

def claimed (batch : PendingToolCallBatch) : Bool := batch.status = .resolving || batch.status = .resuming

/-- A failed lookup counts as no active message, a failed listing as no batch. -/
def gateOnRequest (active : Except StoreError Message)
    (batches : Option (List PendingToolCallBatch)) (now : Time) (headerBatchID : String) : GateAction :=
  match active with
  | .error _ => .fresh
  | .ok message =>
    if headerBatchID ≠ "" then .rejoinResume message headerBatchID
    else match (batches.getD []).find? claimed with
      | some batch => .rejoinResume message batch.id
      | none => match (batches.getD []).find? fun batch => batch.status = .pending with
        | some batch => .reemitApproval message batch
        | none =>
          if isRecentInProgress message now then .rejectInProgress message
          else .healStranded message

section

variable (state : StreamState) (messages : Messages) (request : TurnRequest)

/-- A write whose failure is logged and not surfaced. -/
def Messages.attempt (result : Except StoreError Messages) : Messages :=
  match result with
  | .ok next => next
  | .error _ => messages

variable (around : Surroundings) (fails : Bool) (now : Time) (conversationID : String) (message : Message)

def finalizeStranded : Messages := messages.attempt (messages.update fails { message with status := .complete })

def userMessage (id content : String) : Message where
  id := id
  conversationID := conversationID
  role := .user
  content := content
  toolCalls := []
  toolResults := []
  errorCode := ""
  status := .unset
  successfulOutcome := false
  createdAt := 0

def persistUserMessage : Messages := messages.attempt (messages.create fails now message)

variable (messageID : String) (createdAt : Time) (enriched : Except EnrichError Unit)

def placeholder : Message where
  id := messageID
  conversationID := conversationID
  role := .assistant
  content := ""
  toolCalls := []
  toolResults := []
  errorCode := ""
  status := .inProgress
  successfulOutcome := false
  createdAt := createdAt

def reserveAssistantPlaceholder : Messages :=
  messages.attempt (messages.create fails now (placeholder conversationID messageID createdAt))

/-- A reservation that was never stored is made up for by an insertion. -/
def finalizeAssistantMessage (failing : Failing) (now : Time) (message : Message) : Messages :=
  match messages.update failing.update message with
  | .ok next => next
  | .error .messageNotFound => messages.attempt (messages.create failing.insert now message)
  | .error _ => messages

def pendingCall (batchID : String) (call : Agent.ApprovalCall) : ToolCall where
  id := call.callID
  name := call.toolName
  arguments := call.args
  approvalID := batchID ++ "-" ++ call.callID
  status := .pending

/-- The calls of the batch in pending form, after those not part of it. -/
def pausedCalls (toolCalls : List ToolCall) (pause : Event) : List ToolCall :=
  (toolCalls.filter fun call => call.id ∉ pause.calls.map Agent.ApprovalCall.callID) ++
    pause.calls.map (pendingCall pause.batchID)

/-- A stream that shows neither its end nor an error has been interrupted. -/
def StreamState.errorCode : String :=
  if !state.doneSeen && state.streamErrCode = "" then "STREAM_INTERRUPTED" else state.streamErrCode

section Turn

variable (tr : String → String)

/-- The message in the placeholder's place; `tr` wraps an error. -/
def assistantMessage (conversationID streamStartID : String) (streamStartAt : Time) (state : StreamState) : Message :=
  match state.pauseEvent with
  | some pause =>
    { placeholder conversationID streamStartID streamStartAt with
      content := state.assistantText
      toolCalls := pausedCalls state.toolCalls pause
      toolResults := state.toolResults
      status := .pendingApproval }
  | none =>
    { placeholder conversationID streamStartID streamStartAt with
      content :=
        if state.assistantText = "" ∧ state.streamErrContent ≠ "" then tr state.streamErrContent
        else state.assistantText
      toolCalls := state.toolCalls
      toolResults := state.toolResults
      status := if state.errorCode ≠ "" then .error else .complete
      errorCode := state.errorCode
      successfulOutcome := state.doneSeen && state.errorCode = "" }

/-- The stream did not open, as far as the text of its error tells. -/
def unavailable (streamErr : Option Failure) : Bool :=
  match streamErr with
  | none => false
  | some failure =>
    state.pauseEvent.isNone && state.streamErrCode = "" && !failure.canceled && failure.mentions "stream chat"

def StreamState.outcome : TurnOutcome :=
  if state.pauseEvent.isSome then .pauseHITL
  else if state.errorCode ≠ "" then .error
  else .done

/-- The end of a fresh turn, from the return of the stream on. -/
def finishTurn (messages : Messages) (conversationID streamStartID : String) (streamStartAt : Time)
    (exchange : Exchange) (failing : Failing) (savedAt : Time) : TurnOutcome × Messages :=
  let (state, streamErr) := streamSSE dispatchEvent exchange newStreamState
  if unavailable state streamErr then (.orchestratorUnavailable, messages)
  else
    (state.outcome, finalizeAssistantMessage messages failing savedAt
      (assistantMessage tr conversationID streamStartID streamStartAt state))

/-- A request ends here, resumes, or goes on as a fresh turn. -/
inductive Admission where
  | over (outcome : TurnOutcome) (messages : Messages)
  | resume (active : Message) (batchID : String)
  | fresh (messages : Messages)

/-- The answer to a request that does not get as far as the stream. -/
def refusal : Option TurnOutcome :=
  if request.message = "" then some .missingMessage
  else match enriched with
    | .error .businessNotFound => some .businessNotFound
    | .error .other => some .error
    | .ok () => none

def prepare : Admission :=
  match refusal request enriched with
  | some outcome => .over outcome messages
  | none => .fresh messages

def admission : Admission :=
  if ownsConversation around.conversation request = false then .over .conversationNotFound messages
  else match gateOnRequest around.active around.batches around.gatedAt request.resumeBatchID with
    | .rejoinResume active batchID => .resume active batchID
    | .reemitApproval _ _ => .over .reemittedApproval messages
    | .rejectInProgress _ => .over .turnInProgress messages
    | .healStranded active =>
      prepare (finalizeStranded messages around.failing.heal active) request around.enriched
    | .fresh => prepare messages request around.enriched

/-- The store at the moment when the stream opens. -/
def reserved : Messages :=
  let asked := persistUserMessage messages around.failing.ask around.askedAt
    (userMessage request.conversationID around.userMessageID request.message)
  reserveAssistantPlaceholder asked around.failing.reserve around.reservedAt request.conversationID
    around.streamStartID around.streamStartAt

/-- One chat request without any other in between. -/
def run (streamResume : Messages → Message → String → TurnOutcome × Messages) (messages : Messages)
    (request : TurnRequest) (around : Surroundings) : TurnOutcome × Messages :=
  match admission messages request around with
  | .over outcome messages => (outcome, messages)
  | .resume active batchID => streamResume messages active batchID
  | .fresh messages =>
    finishTurn tr (reserved messages request around) request.conversationID around.streamStartID
      around.streamStartAt around.exchange around.failing around.savedAt

end Turn

end

namespace Sample

def noMessages : Messages := ⟨[], List.nodup_nil⟩

def request : TurnRequest := ⟨"user", "business", "conversation", "Write a post", ""⟩

/-- The first request on a conversation, one second in. -/
def around (exchange : Exchange) : Surroundings where
  conversation := .notFound
  active := .error .messageNotFound
  batches := some []
  gatedAt := 1000
  enriched := .ok ()
  userMessageID := "question"
  askedAt := 1000
  streamStartID := "answer"
  streamStartAt := 1000
  reservedAt := 1000
  exchange := exchange
  savedAt := 2000
  failing := .nothing

/-- An answer that consists of the given frames. -/
def streamed (events : List Event) : Exchange := .responded ⟨200, "", events.map .frame, none, none⟩

/-- Two calls that wait for approval. -/
def pause : Event :=
  { interruption with
    type := .toolApprovalRequired
    code := ""
    batchID := "batch"
    calls := [⟨"first", "telegram__send_channel_post", ∅, [], .manual⟩,
      ⟨"second", "vk__publish_post", ∅, [], .manual⟩] }

end Sample

end OneVoice.ChatTurn
