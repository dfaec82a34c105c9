/- The resume stream of `chatturn/hitl.go`: the event loop of `runResumeStream` with its index maps,
the writes at its end, and what `postal.go` is handed. The retry comes from `agent_task.go`, the
wire form from package `sseevent`. -/

import OneVoice.Construction.ChatTurn.Turn
import OneVoice.Construction.Orchestrator.Loop
import OneVoice.Library.Indexed

namespace OneVoice.ChatTurn

open Library Domain

/-- A call without an identifier has no key. -/
def resumeApprovalID (batchID callID : String) : String :=
  if callID = "" then "" else batchID ++ "-" ++ callID

structure AgentTask where
  toolCallID : String
  platform : String
  type : String
  input : Args
  dispatchApprovalID : String

/-- Only a platform tool's call with an identifier gets a task. -/
def agentTask? (event : Event) (approvalID : String) : Option AgentTask :=
  match Agent.toolPlatform? event.toolName with
  | none => none
  | some platform =>
    if event.toolCallID = "" then none
    else some
      { toolCallID := event.toolCallID
        platform := platform
        type := .ofList (event.toolName.toList.drop (platform.length + 2))
        input := event.toolArgs
        dispatchApprovalID := approvalID }

/-- The written message, and the calls and results recorded with it. -/
structure ResumeRecord where
  message : Message
  recCalls : List ToolCall
  recResults : List ToolResult

/-- The local variables of the loop. A terminal event sets `saved`. -/
structure ResumeState where
  postText : String
  message : Message
  callIdx : String → Option Nat
  resultIdx : String → Option Nat
  recResultIdx : String → Option Nat
  freshCallIDs : List String
  recCalls : List ToolCall
  recResults : List ToolResult
  tasks : List AgentTask
  rePause : Option Event
  saved : Option ResumeRecord

def ResumeState.start (active : Message) : ResumeState where
  postText := active.content
  message := active
  callIdx := indexKeys (active.toolCalls.map ToolCall.id)
  resultIdx := indexKeys (active.toolResults.map ToolResult.toolCallID)
  recResultIdx := fun _ => none
  freshCallIDs := []
  recCalls := []
  recResults := []
  tasks := []
  rePause := none
  saved := none

/-- A result replaces the one of its call, or goes to the end. -/
def placeResult (index : String → Option Nat) (results : List ToolResult) (result : ToolResult) :
    (String → Option Nat) × List ToolResult :=
  match index result.toolCallID with
  | some position => (index, results.set position result)
  | none => (Function.update index result.toolCallID (some results.length), results ++ [result])

variable (calls : List ToolCall) (trace : List Agent.Observation)

def setStatus (position : Option Nat) (status : ToolCallStatus) : List ToolCall :=
  match position with
  | some position => calls.modify position fun call => { call with status := status }
  | none => calls

namespace ResumeState

variable (state : ResumeState) (event : Event)

/-- A call that the message does not have yet is entered as approved. -/
def enterCall (call : ToolCall) : ResumeState :=
  if call.id = "" then state
  else
    let state := { state with freshCallIDs := call.id :: state.freshCallIDs }
    match state.callIdx call.id with
    | some _ => state
    | none =>
      { state with
        callIdx := Function.update state.callIdx call.id (some state.message.toolCalls.length)
        message :=
          { state.message with
            toolCalls := state.message.toolCalls ++ [{ call with status := .approved }] } }

def onToolCall (batchID : String) : ResumeState :=
  let approvalID := resumeApprovalID batchID event.toolCallID
  let call : ToolCall := ⟨event.toolCallID, event.toolName, event.toolArgs, approvalID, .unset⟩
  { state.enterCall call with
    recCalls := state.recCalls ++ [call]
    tasks := state.tasks ++ (agentTask? event approvalID).toList }

/-- A result without a call that came before it is dropped. -/
def matched : Bool :=
  event.toolCallID ≠ "" && ((state.callIdx event.toolCallID).isSome || event.toolCallID ∈ state.freshCallIDs)

def onToolResult : ResumeState :=
  if state.matched event then
    let result : ToolResult := ⟨event.toolCallID, resultContent event.toolResult, event.toolError ≠ "", event.code⟩
    let results := placeResult state.resultIdx state.message.toolResults result
    let recorded := placeResult state.recResultIdx state.recResults result
    { state with
      resultIdx := results.1
      recResultIdx := recorded.1
      recResults := recorded.2
      message :=
        { state.message with
          toolResults := results.2
          toolCalls := setStatus state.message.toolCalls (state.callIdx event.toolCallID)
            (if event.toolError ≠ "" then .rejected else .approved) } }
  else state

def onToolRejected : ResumeState :=
  { state with
    message :=
      { state.message with
        toolCalls := setStatus state.message.toolCalls (state.callIdx event.toolCallID) .rejected } }

/-- The message is written at once; later events are ignored. -/
def terminate (status : MessageStatus) (errorCode : String) : ResumeState :=
  let message := { state.message with status := status, content := state.postText, errorCode := errorCode }
  { state with message := message, saved := some ⟨message, state.recCalls, state.recResults⟩ }

def onEvent (batchID : String) : ResumeState :=
  if state.saved.isSome then state
  else match event.type with
    | .text => { state with postText := state.postText ++ event.content }
    | .toolCall => state.onToolCall event batchID
    | .toolApprovalRequired => { state with rePause := some event }
    | .toolResult => state.onToolResult event
    | .toolRejected => state.onToolRejected event
    | .error => state.terminate .error (if event.code = "" then "STREAM_ERROR" else event.code)
    | .done => state.terminate .complete state.message.errorCode
    | .other => state

end ResumeState

/-- The exchange of a resume, with its own verb in the errors. -/
def resumeSSE {State : Type} (onEvent : State → Event → State) (exchange : Exchange) (state : State) :
    State × Option Failure :=
  match exchange with
  | .unflushable =>
    (state, some ⟨"orchestratorclient: StreamSSE: writer does not implement http.Flusher", false⟩)
  | .unbuilt cause => (state, some (cause.wrap "orchestratorclient: build resume request: "))
  | .unreachable cause => (state, some (cause.wrap "orchestratorclient: stream resume: "))
  | .responded response =>
    if response.status = 200 then response.read onEvent state
    else
      (state, some ⟨"orchestratorclient: stream resume: unexpected status " ++
        toString response.status ++ ": " ++ response.excerpt, false⟩)

/-- The new pause's calls follow as pending. -/
def rePausedCalls (pause : Event) : List ToolCall :=
  calls ++ (pause.calls.filter fun call => call.callID ∉ calls.map ToolCall.id).map (pendingCall pause.batchID)

/-- A stream that did not open leaves nothing to write. -/
def finishResume (state : ResumeState) (streamErr : Option Failure) : TurnOutcome × Option ResumeRecord :=
  match state.saved with
  | some record => (.rejoinedResume, some record)
  | none =>
    if streamErr.any fun failure => failure.mentions "stream resume:" then
      (.orchestratorUnavailable, none)
    else match state.rePause with
      | some pause =>
        (.pauseHITL, some
          ⟨{ state.message with
              content := state.postText
              toolCalls := rePausedCalls state.message.toolCalls pause
              status := .pendingApproval }, state.recCalls, state.recResults⟩)
      | none =>
        (.rejoinedResume, some
          ⟨{ state.message with
              content := state.postText
              status :=
                if state.message.status = .pendingApproval ∨ state.message.status = .inProgress then .complete
                else state.message.status }, state.recCalls, state.recResults⟩)

/-- The transition of the batch to its resume. -/
inductive ClaimAnswer where
  | claimed
  | notResolving
  | notFound
  | failed

/-- What a resume leaves behind; a failed write is logged only. -/
structure ResumeResult where
  outcome : TurnOutcome
  messages : Messages
  record : Option ResumeRecord := none
  tasks : List AgentTask := []
  compensates : Bool := false

def runResumeStream (messages : Messages) (fails : Bool) (claim : ClaimAnswer) (active : Message)
    (batchID : String) (exchange : Exchange) : ResumeResult :=
  match claim with
  | .notResolving => { outcome := .resumeInProgress, messages := messages }
  | .notFound | .failed => { outcome := .inlineError, messages := messages }
  | .claimed =>
    let (state, streamErr) := resumeSSE (fun state event => state.onEvent event batchID) exchange (.start active)
    let (outcome, record) := finishResume state streamErr
    match record with
    | none =>
      { outcome := outcome, messages := messages, tasks := state.tasks, compensates := true }
    | some saved =>
      { outcome := outcome
        messages := messages.attempt (messages.update fails saved.message)
        record := some saved
        tasks := state.tasks }

/-- Each result with the last call of its identifier, if any. -/
def ResumeRecord.handed (record : ResumeRecord) : List (ToolCall × ToolResult) :=
  record.recResults.filterMap fun result =>
    (record.recCalls.reverse.find? fun call => call.id = result.toolCallID).map fun call =>
      (call, result)

/-- A task without its dispatch's key is retried under its own. -/
def retryApprovalID (taskID : String) (task : AgentTask) : String :=
  if task.dispatchApprovalID ≠ "" then task.dispatchApprovalID else "task-retry-" ++ taskID

/-- The wire form of an event of the agent loop. -/
def fromEvent (event : Agent.Event) : Event :=
  let out : Event := { interruption with code := "" }
  match event with
  | .text content => { out with type := .text, content := content }
  | .toolCall toolCallID toolName args =>
    { out with
      type := .toolCall
      toolCallID := toolCallID
      toolName := toolName
      toolArgs := args }
  | .toolResult toolCallID toolName result toolError code =>
    { out with
      type := .toolResult
      code := code
      toolCallID := toolCallID
      toolName := toolName
      toolResult := result.getD .null
      toolError := toolError }
  | .toolRejected toolCallID toolName content =>
    { out with
      type := .toolRejected
      content := content
      toolCallID := toolCallID
      toolName := toolName }
  | .toolApprovalRequired batchID calls =>
    { out with type := .toolApprovalRequired, batchID := batchID, calls := calls }
  | .error code => { out with type := .error, code := code }
  | .done => { out with type := .done }

/-- The events that a trace of the agent loop sends. -/
def sentEvents : List Agent.Event :=
  trace.filterMap fun
    | .send event => some event
    | _ => none

/-- The answer to a resume: a trace's first events, or a failure. -/
def deliveredStream (arrived : Nat) (failure reportFailure : Option Failure) : Exchange :=
  .responded ⟨200, "", ((sentEvents trace).take arrived).map fun event => .frame (fromEvent event),
    failure, reportFailure⟩

namespace Sample

/-- An answer whose first call waits for approval. -/
def waiting : Message :=
  { placeholder "conversation" "answer" 1000 with
    toolCalls := [⟨"first", "telegram__send_channel_post", ∅, "batch-first", .pending⟩]
    status := .pendingApproval }

def stored : Messages := ⟨[waiting], List.nodup_singleton _⟩

def firstCall : Event :=
  { interruption with
    type := .toolCall
    code := ""
    toolCallID := "first"
    toolName := "telegram__send_channel_post" }

def firstResult : Event := { interruption with type := .toolResult, code := "", toolCallID := "first" }

def ended : Event := { interruption with type := .done, code := "" }

/-- The next call of the turn waits for approval. -/
def nextPause : Event :=
  { interruption with
    type := .toolApprovalRequired
    code := ""
    batchID := "next"
    calls := [⟨"second", "vk__publish_post", ∅, [], .manual⟩] }

end Sample

end OneVoice.ChatTurn
