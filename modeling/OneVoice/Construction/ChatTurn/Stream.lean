/- The stored messages with the operations of `repository/message.go`, and the event stream of a turn:
the frames of `pkg/sse`, the loop of `pkg/orchestratorclient/client.go` and the per-stream state of
`chatturn/stream.go`. -/

import Mathlib.Data.List.Infix
import OneVoice.Construction.Orchestrator.Message
import OneVoice.Library.Table

namespace OneVoice.ChatTurn

open Library Domain

/-- A message from before the statuses carries none. -/
inductive MessageStatus where
  | unset
  | complete
  | error
  | pendingApproval
  | inProgress
deriving DecidableEq

/-- A call that needs no approval carries no status. -/
inductive ToolCallStatus where
  | unset
  | pending
  | approved
  | rejected
  | expired
deriving DecidableEq

structure ToolCall where
  id : String
  name : String
  arguments : Args
  approvalID : String
  status : ToolCallStatus

structure ToolResult where
  toolCallID : String
  content : Args
  isError : Bool
  code : String

structure Message where
  id : String
  conversationID : String
  role : Role
  content : String
  toolCalls : List ToolCall
  toolResults : List ToolResult
  errorCode : String
  status : MessageStatus
  successfulOutcome : Bool
  createdAt : Time

/-- The collection, with the identifier as its primary key. -/
abbrev Messages := Table Message.id

inductive StoreError where
  | idRequired
  | messageNotFound
  | duplicateID
  | unavailable
deriving DecidableEq

/-- The stream-open gate looks for these messages. -/
def Message.active (message : Message) (conversationID : String) : Bool :=
  message.conversationID = conversationID && message.role = .assistant &&
    (message.status = .pendingApproval || message.status = .inProgress)

namespace Messages

variable (messages : Messages)

/-- The insertion stamps the message with its own clock. -/
def create (fails : Bool) (now : Time) (message : Message) : Except StoreError Messages :=
  if fails then .error .unavailable
  else match messages.insert { message with createdAt := now } with
    | none => .error .duplicateID
    | some next => .ok next

/-- The whole document is replaced, also its creation time. -/
def update (fails : Bool) (message : Message) : Except StoreError Messages :=
  if message.id = "" then .error .idRequired
  else if fails then .error .unavailable
  else match messages.replace message with
    | none => .error .messageNotFound
    | some next => .ok next

/-- The messages that the descending sort on `created_at` may put first. -/
def newestActive (conversationID : String) : List Message :=
  let active := messages.rows.filter fun message => message.active conversationID
  active.filter fun message => active.all fun other => other.createdAt ≤ message.createdAt

/-- The answers of the store; equal creation times leave the order open. -/
def findByConversationActive (conversationID : String) : List (Except StoreError Message) :=
  match messages.newestActive conversationID with
  | [] => [.error .messageNotFound]
  | newest => newest.map .ok

end Messages

/-- The types that the client or the turn tells apart. -/
inductive EventType where
  | text
  | toolCall
  | toolResult
  | toolRejected
  | toolApprovalRequired
  | error
  | done
  | other
deriving DecidableEq

/-- A frame; the fields that its type does not use hold their zero values. -/
structure Event where
  type : EventType
  code : String
  content : String
  toolCallID : String
  toolName : String
  toolArgs : Args
  toolResult : Json
  toolError : String
  batchID : String
  calls : List Agent.ApprovalCall

/-- An error value: its text, and whether it wraps a cancelled context. -/
structure Failure where
  text : String
  canceled : Bool
deriving DecidableEq

def Failure.wrap (context : String) (cause : Failure) : Failure := ⟨context ++ cause.text, cause.canceled⟩

/-- The text match on an error. -/
def Failure.mentions (failure : Failure) (words : String) : Bool := words.toList <:+: failure.text.toList

/-- A line of the answer either decodes to a frame or is passed on only. -/
inductive Line where
  | frame (event : Event)
  | other

/-- The orchestrator's answer, and whether a report fails. -/
structure Response where
  status : Nat
  excerpt : String
  lines : List Line
  failure : Option Failure
  reportFailure : Option Failure

/-- What the exchange with the orchestrator comes to. -/
inductive Exchange where
  | unflushable
  | unbuilt (cause : Failure)
  | unreachable (cause : Failure)
  | responded (response : Response)

def Line.event? : Line → Option Event
  | .frame event => some event
  | .other => none

/-- The frames that reach the turn. -/
def Exchange.events : Exchange → List Event
  | .responded response =>
    if response.status = 200 then response.lines.filterMap Line.event? else []
  | _ => []

/-- The client adds this frame when the stream breaks off. -/
def interruption : Event where
  type := .error
  code := "STREAM_INTERRUPTED"
  content := ""
  toolCallID := ""
  toolName := ""
  toolArgs := ∅
  toolResult := .null
  toolError := ""
  batchID := ""
  calls := []

section Client

variable {State : Type} (onEvent : State → Event → State)

/-- The frames are handed to the caller one by one. -/
def drain (lines : List Line) (state : State) : State := (lines.filterMap Line.event?).foldl onEvent state

def seen (type : EventType) (lines : List Line) : Bool :=
  (lines.filterMap Line.event?).any fun event => event.type = type

variable (response : Response)

/-- A stream without failure or terminal frame has ended early. -/
def Response.streamErr : Option Failure :=
  match response.failure with
  | some failure => some failure
  | none =>
    if seen .done response.lines || seen .error response.lines ||
        seen .toolApprovalRequired response.lines then none
    else some ⟨"unexpected EOF", false⟩

def Response.interrupted : Bool :=
  response.streamErr.isSome && !seen .error response.lines && !seen .toolApprovalRequired response.lines

/-- The loop over the body of an answer with status 200. -/
def Response.read (state : State) : State × Option Failure :=
  let drained := drain onEvent response.lines state
  match response.streamErr with
  | none => (drained, none)
  | some failure =>
    if response.interrupted then
      (onEvent drained interruption, some <|
        match response.reportFailure with
        | some cause => cause.wrap "orchestratorclient: write stream failure: "
        | none => failure.wrap "orchestratorclient: scanner: ")
    else
      (drained, some (failure.wrap "orchestratorclient: scanner: "))

/-- The chat stream; a resume differs in the verb of its errors. -/
def streamSSE (exchange : Exchange) (state : State) : State × Option Failure :=
  match exchange with
  | .unflushable =>
    (state, some ⟨"orchestratorclient: StreamSSE: writer does not implement http.Flusher", false⟩)
  | .unbuilt cause => (state, some (cause.wrap "orchestratorclient: build chat request: "))
  | .unreachable cause => (state, some (cause.wrap "orchestratorclient: stream chat: "))
  | .responded response =>
    if response.status = 200 then response.read onEvent state
    else
      (state, some ⟨"orchestratorclient: stream chat: unexpected status " ++
        toString response.status ++ ": " ++ response.excerpt, false⟩)

end Client

/-- The state that the event loop of one request fills. -/
structure StreamState where
  doneSeen : Bool
  assistantText : String
  toolCalls : List ToolCall
  toolResults : List ToolResult
  pauseEvent : Option Event
  streamErrContent : String
  streamErrCode : String

def newStreamState : StreamState := ⟨false, "", [], [], none, "", ""⟩

/-- A result that is not an object is kept under the key `raw`. -/
def resultContent (result : Json) : Args :=
  match result with
  | .obj _ => (Json.decodeMap some result).getD ∅
  | _ => AList.insert "raw" result ∅

def dispatchEvent (state : StreamState) (event : Event) : StreamState :=
  match event.type with
  | .done => { state with doneSeen := true }
  | .text => { state with assistantText := state.assistantText ++ event.content }
  | .toolCall =>
    { state with
      toolCalls := state.toolCalls ++ [⟨event.toolCallID, event.toolName, event.toolArgs, "", .unset⟩] }
  | .toolResult =>
    { state with
      toolResults := state.toolResults ++
        [⟨event.toolCallID, resultContent event.toolResult, event.toolError ≠ "", event.code⟩] }
  | .toolApprovalRequired => { state with pauseEvent := some event }
  | .error =>
    { state with
      streamErrContent := event.content
      streamErrCode := if event.code = "" then "STREAM_ERROR" else event.code }
  | .toolRejected | .other => state

end OneVoice.ChatTurn
