/- The run state of `step.go` with the pause snapshot that `resume.go` decodes, and what the agent loop
writes: the events of `orchestrator.go`, the payloads of `rejection.go`, the request of `step.go` with
the redaction of `redact.go`, and the batch of a pause. -/

import OneVoice.Construction.Orchestrator.Registry

namespace OneVoice.Agent

open Library Domain Json

/-- The mutable state of one agent loop. -/
structure RunState where
  messages : List Message
  systemPlatform : String
  systemBusiness : String
  availableTools : List ToolDefinition
  selectedPlatforms : List String
  platformScopeSet : Bool
  pdnAllowlist : List String
  businessApprovals : ApprovalMap
  projectApprovalOverrides : ApprovalMap
  conversationID : String
  businessID : String
  projectID : String
  userID : String
  messageID : String
  model : String
  tier : String
  iter : Nat
  accumulatedInputTokens : Int
  accumulatedOutputTokens : Int

/-- The decoded fields of a pause snapshot. -/
structure SnapshotDecoded where
  messages : List Message
  systemPlatform : String
  systemBusiness : String
  pdnAllowlist : List String
  accumulatedInputTokens : Int
  accumulatedOutputTokens : Int
  legacy : Bool

/-- These are the fields of the `modelMessagesSnapshotV2` envelope. -/
def envelope (state : RunState) : List (String × Json) :=
  [("v", .num 2), ("messages", encodeList encodeMessage state.messages)] ++
    omitEmpty "system_platform" (.str state.systemPlatform) (state.systemPlatform == "") ++
    omitEmpty "system_business" (.str state.systemBusiness) (state.systemBusiness == "") ++
    omitEmpty "pdn_allowlist" (encodeList .str state.pdnAllowlist) (state.pdnAllowlist == []) ++
    omitEmpty "accumulated_input_tokens" (.num state.accumulatedInputTokens) (state.accumulatedInputTokens == 0) ++
    omitEmpty "accumulated_output_tokens" (.num state.accumulatedOutputTokens) (state.accumulatedOutputTokens == 0)

def encodeSnapshot (state : RunState) : Json := .obj (envelope state)

def decodeEnvelope (fields : List (String × Json)) : Option SnapshotDecoded := do
  let _ ← decodeField decodeInt 0 "v" fields
  let messages ← decodeField (decodeList decodeMessage) [] "messages" fields
  let systemPlatform ← decodeField decodeString "" "system_platform" fields
  let systemBusiness ← decodeField decodeString "" "system_business" fields
  let pdnAllowlist ← decodeField (decodeList decodeString) [] "pdn_allowlist" fields
  let inputTokens ← decodeField decodeInt 0 "accumulated_input_tokens" fields
  let outputTokens ← decodeField decodeInt 0 "accumulated_output_tokens" fields
  some ⟨messages, systemPlatform, systemBusiness, pdnAllowlist, inputTokens, outputTokens, false⟩

/-- An object is the versioned envelope, anything else the legacy array. -/
def decodeSnapshot : RawSnapshot → Option SnapshotDecoded
  | .blank => some ⟨[], "", "", [], 0, 0, false⟩
  | .corrupt => none
  | .text (.obj fields) => decodeEnvelope fields
  | .text value =>
    (decodeList decodeMessage value).map fun messages => ⟨messages, "", "", [], 0, 0, true⟩

section

variable (state : RunState)

/-- A field is read past the optional fields around it. -/
theorem envelope_fields : decodeField decodeInt 0 "v" (envelope state) = some 2 ∧
    decodeField (decodeList decodeMessage) [] "messages" (envelope state) = some state.messages ∧
    decodeField decodeString "" "system_platform" (envelope state) = some state.systemPlatform ∧
    decodeField decodeString "" "system_business" (envelope state) = some state.systemBusiness ∧
    decodeField (decodeList decodeString) [] "pdn_allowlist" (envelope state) = some state.pdnAllowlist ∧
    decodeField decodeInt 0 "accumulated_input_tokens" (envelope state) = some state.accumulatedInputTokens ∧
    decodeField decodeInt 0 "accumulated_output_tokens" (envelope state) = some state.accumulatedOutputTokens := by
  simp (disch := decide) only [envelope, decodeField_append_omitEmpty_ne]
  refine ⟨decodeInt_num 2, decodeList_encodeList decodeMessage_encodeMessage _,
    decodeField_append_omitEmpty rfl (decodeString_str _) (by simp),
    decodeField_append_omitEmpty ?_ (decodeString_str _) (by simp),
    decodeField_append_omitEmpty ?_ (decodeList_encodeList decodeString_str _) (by simp),
    decodeField_append_omitEmpty ?_ (decodeInt_num _) (by simp),
    decodeField_append_omitEmpty ?_ (decodeInt_num _) (by simp)⟩
  all_goals
    simp (disch := decide) only [field?_append_omitEmpty_ne]
    rfl

/-- The whole snapshot survives the pause. -/
theorem decodeSnapshot_encodeSnapshot :
    decodeSnapshot (.text (encodeSnapshot state)) =
      some ⟨state.messages, state.systemPlatform, state.systemBusiness, state.pdnAllowlist,
        state.accumulatedInputTokens, state.accumulatedOutputTokens, false⟩ := by
  simp only [decodeSnapshot, encodeSnapshot, decodeEnvelope, envelope_fields, Option.bind_eq_bind, Option.bind_some]

end

/-- Its options and collaborators. The client is known by its possible replies; the last four fields
are text functions of other packages. -/
structure Orchestrator where
  llm : ChatRequest → Bool → ChatResponse → Prop
  tools : Registry
  maxIterations : Nat
  conversationInputCap : Int
  conversationOutputCap : Int
  redactOutboundPDn : Bool
  hitlConfigured : Bool
  unmarshalArgs : String → Option Args
  marshal : Json → String
  quote : String → String
  redactPIIExcept : String → List String → String

/-- One call on the approval card. -/
structure ApprovalCall where
  callID : String
  toolName : String
  args : Args
  editableFields : List String
  floor : ToolFloor

inductive Event where
  | text (content : String)
  | toolCall (toolCallID toolName : String) (args : Args)
  | toolResult (toolCallID toolName : String) (result : Option Json) (toolError code : String)
  | toolRejected (toolCallID toolName content : String)
  | toolApprovalRequired (batchID : String) (calls : List ApprovalCall)
  | error (code : String)
  | done

/-- A tool returns a value, perhaps unmarshallable, fails or panics. -/
inductive ToolOutcome where
  | value (result : Json)
  | unmarshalable (reason : String)
  | failed (message code : String)
  | panicked

inductive RejectionSource where
  | owner
  | policy
  | decisionState
deriving DecidableEq

def RejectionSource.toString : RejectionSource → String
  | .owner => "owner"
  | .policy => "policy"
  | .decisionState => "decision_state"

def reasonPolicyForbidden : String := "policy_forbidden"
def reasonPolicyRevoked : String := "policy_revoked"
def reasonUserRejected : String := "user_rejected"
def reasonDecisionUnavailable : String := "decision_unavailable"

def decisionUnavailableNote : String := "No valid approval decision is available for this action. " ++
  "The call was never sent to the platform. This does not mean the owner declined it. " ++
  "Do not retry it or substitute another channel or tool; ask the owner for a new approval."

def ownerRejectionNote : String := "The business owner declined this action on the OneVoice approval card. " ++
  "The call was never sent to the platform. Do not retry it and do not substitute another channel or tool; " ++
  "tell the owner the action was canceled and ask what to change."

def policyForbiddenNote : String :=
  "This tool is disabled for the current project or business by the OneVoice tool policy " ++
  "(Settings -> Tools). The call was never sent to the platform, and the platform itself raised no error. " ++
  "Do not retry it and do not substitute another channel; tell the owner the tool is switched off in OneVoice settings."

def policyRevokedNote : String :=
  "The OneVoice tool policy for this business or project changed after the approval card was shown " ++
  "and now forbids this tool. The call was never sent to the platform. Do not retry it and do not substitute " ++
  "another channel; tell the owner the permission was withdrawn in OneVoice settings."

namespace Orchestrator

variable (orchestrator : Orchestrator)

/-- Marshalling plain strings cannot fail, so the fallback is never used. -/
def buildRejectionMessage (source : RejectionSource) (reason note : String) : String :=
  orchestrator.marshal (.obj [("rejected", .bool true), ("by", .str source.toString),
    ("reason", .str reason), ("note", .str note)])

variable (toolCallID toolName : String) (allow : List String)

def toolMessage (content : String) : Message := ⟨.tool, content, [], toolCallID⟩

/-- A payload that is not an object reaches the executor under one field. -/
def parseToolArgs (raw : String) : Args :=
  if raw = "" then ∅
  else match orchestrator.unmarshalArgs raw with
    | some args => args
    | none => (∅ : Args).insert "raw" (.str raw)

/-- The content of the tool message on the fresh dispatch path. -/
def freshContent : ToolOutcome → String
  | .value result => orchestrator.marshal result
  | .unmarshalable reason =>
    "\x7b\"error\":\"marshal failed: " ++ reason ++ "\",\"tool_name\":" ++ orchestrator.quote toolName ++ "\x7d"
  | .failed message _ =>
    orchestrator.marshal (.obj [("error", .str message), ("tool_name", .str toolName)])
  | .panicked => orchestrator.marshal (.obj [("error", .str "internal tool error"), ("tool_name", .str toolName)])

/-- The content of the tool message on the resume path. -/
def approvedContent : ToolOutcome → String
  | .value result => orchestrator.marshal result
  | .unmarshalable reason => "\x7b\"error\":\"marshal failed: " ++ reason ++ "\"\x7d"
  | .failed message _ => "\x7b\"error\":" ++ orchestrator.quote message ++ "\x7d"
  | .panicked => "\x7b\"error\":" ++ orchestrator.quote "internal tool error" ++ "\x7d"

/-- The fresh path has the error payload, a resume an empty result. -/
def freshResultEvent : ToolOutcome → Event
  | .value result => .toolResult toolCallID toolName (some result) "" ""
  | .unmarshalable _ => .toolResult toolCallID toolName none "" ""
  | .failed message code => .toolResult toolCallID toolName
      (some (.obj [("error", .str message), ("tool_name", .str toolName)])) message code
  | .panicked => .toolResult toolCallID toolName
      (some (.obj [("error", .str "internal tool error"), ("tool_name", .str toolName)]))
      "internal tool error" ""

def approvedResultEvent : ToolOutcome → Event
  | .value result => .toolResult toolCallID toolName (some result) "" ""
  | .unmarshalable _ => .toolResult toolCallID toolName none "" ""
  | .failed message code => .toolResult toolCallID toolName none message code
  | .panicked => .toolResult toolCallID toolName none "internal tool error" ""

def redactMessage (message : Message) : Message :=
  { message with
    content := orchestrator.redactPIIExcept message.content allow
    toolCalls := message.toolCalls.map fun call =>
      { call with arguments := orchestrator.redactPIIExcept call.arguments allow } }

/-- The first system block has no business state; it is kept. -/
def redactBlocks : List SystemBlock → List SystemBlock
  | [] => []
  | first :: rest => first :: rest.map fun block =>
    { block with text := orchestrator.redactPIIExcept block.text allow }

def applyOutboundRedaction (request : ChatRequest) (allow : List String) : ChatRequest :=
  if orchestrator.redactOutboundPDn then
    { request with
      messages := request.messages.map (orchestrator.redactMessage allow)
      systemBlocks := orchestrator.redactBlocks allow request.systemBlocks }
  else request

/-- This is the request that one iteration of the loop sends. -/
def chatRequest (state : RunState) : ChatRequest :=
  orchestrator.applyOutboundRedaction
    { conversationID := state.conversationID
      model := state.model
      messages := state.messages
      systemBlocks :=
        if state.systemPlatform ≠ "" ∨ state.systemBusiness ≠ "" then
          [⟨state.systemPlatform, true⟩, ⟨state.systemBusiness, false⟩]
        else []
      tools := state.availableTools
      tier := state.tier }
    state.pdnAllowlist

def pendingCall (call : ToolCall) : PendingCall where
  callID := call.id
  toolName := call.name
  arguments := orchestrator.parseToolArgs call.arguments
  floorAtPause := .manual
  verdict := .missing
  editedArgs := none
  rejectReason := ""
  dispatched := false
  dispatchedAt := none

/-- `Persist` overwrites the status and the instants. -/
def buildPendingBatch (batchID : String) (state : RunState) (manualCalls : List ToolCall) :
    PendingToolCallBatch where
  id := batchID
  conversationID := state.conversationID
  businessID := state.businessID
  projectID := state.projectID
  userID := state.userID
  messageID := state.messageID
  selectedPlatforms := state.selectedPlatforms
  platformScopeSet := state.platformScopeSet
  status := .preparing
  calls := manualCalls.map orchestrator.pendingCall
  modelMessages := .text (encodeSnapshot state)
  iterationIdx := state.iter
  createdAt := 0
  updatedAt := 0
  expiresAt := 0

def summarizeManualCalls (calls : List ToolCall) : List ApprovalCall :=
  calls.map fun call =>
    ⟨call.id, call.name, orchestrator.parseToolArgs call.arguments,
      orchestrator.tools.editableFields call.name, .manual⟩

/-- Redaction changes texts only, so a request's transcript is the state's. -/
@[simp] theorem chatRequest_transcript (state : RunState) :
    transcript (orchestrator.chatRequest state).messages = transcript state.messages := by
  simp only [chatRequest, applyOutboundRedaction]
  split
  · simp only [transcript, List.map_map]
    congr 1
    funext message
    simp only [Function.comp, Message.entry, redactMessage, List.map_map]
    cases message.role <;> rfl
  · rfl

end Orchestrator

/-- A withheld call moves to the forbidden bucket. -/
def enforceOffered (classified forbiddenCalls : List ToolCall) (offered : List String) :
    List ToolCall × List ToolCall :=
  (classified.filter fun call => offered.contains call.name,
    forbiddenCalls ++ classified.filter fun call => !offered.contains call.name)

end OneVoice.Agent
