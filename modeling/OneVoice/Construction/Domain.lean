/- The approval floors of `pkg/domain/tool.go`, the whitelist modes of `project.go`, the conversation types
of `pkg/llm/types.go` with the struct codec of a message, and the approval batch of `repository.go`. -/

import OneVoice.Library.Exchange
import OneVoice.Library.Json

namespace OneVoice.Domain

open Library Json

/-- A floor from settings may be any text, so unknown texts are kept. -/
inductive ToolFloor where
  | auto
  | manual
  | forbidden
  | malformed (raw : String) (outside : raw ∉ ["auto", "manual", "forbidden"])
deriving DecidableEq

variable (floor : ToolFloor) (raw : String)

def ToolFloor.ofString : ToolFloor :=
  if raw = "auto" then .auto
  else if raw = "manual" then .manual
  else if raw = "forbidden" then .forbidden
  else if outside : raw ∉ ["auto", "manual", "forbidden"] then .malformed raw outside
  else .forbidden

def ToolFloor.toString : ToolFloor → String
  | .auto => "auto"
  | .manual => "manual"
  | .forbidden => "forbidden"
  | .malformed raw _ => raw

@[simp] theorem ToolFloor.ofString_toString : ToolFloor.ofString floor.toString = floor := by
  cases floor with
  | malformed raw outside =>
    have known := outside
    simp only [List.mem_cons, not_or] at known
    simp [toString, ofString, known]
  | _ => simp [toString, ofString]

def validToolFloor : ToolFloor → Bool
  | .auto | .manual | .forbidden => true
  | .malformed _ _ => false

/-- An unknown floor ranks below every valid floor. -/
def toolFloorRank : ToolFloor → Int
  | .auto => 0
  | .manual => 1
  | .forbidden => 2
  | .malformed _ _ => -1

/-- An approval map gives a floor to some tools; an absent tool inherits. -/
abbrev ApprovalMap := StringMap ToolFloor

def encodeFloor : Json := .str floor.toString

def decodeFloor : Json → Option ToolFloor := fun value => (decodeString value).map ToolFloor.ofString

@[simp] theorem decodeFloor_encodeFloor : decodeFloor (encodeFloor floor) = some floor := by
  simp [decodeFloor, encodeFloor]

/-- The empty mode and every unknown mode behave as `inherit`. -/
inductive WhitelistMode where
  | inherit
  | all
  | explicit
  | none
  | other (raw : String) (outside : raw ∉ ["inherit", "all", "explicit", "none"])
deriving DecidableEq

def WhitelistMode.ofString : WhitelistMode :=
  if raw = "inherit" then .inherit
  else if raw = "all" then .all
  else if raw = "explicit" then .explicit
  else if raw = "none" then .none
  else if outside : raw ∉ ["inherit", "all", "explicit", "none"] then .other raw outside
  else .none

def WhitelistMode.toString : WhitelistMode → String
  | .inherit => "inherit"
  | .all => "all"
  | .explicit => "explicit"
  | .none => "none"
  | .other raw _ => raw

theorem WhitelistMode.toString_ofString : (WhitelistMode.ofString raw).toString = raw := by
  unfold WhitelistMode.ofString
  split
  · simp_all [WhitelistMode.toString]
  · split
    · simp_all [WhitelistMode.toString]
    · split
      · simp_all [WhitelistMode.toString]
      · split
        · simp_all [WhitelistMode.toString]
        · split
          · rfl
          · simp_all

/-- One of the four wire texts, or a text that no code writes. -/
inductive Role where
  | system
  | user
  | assistant
  | tool
  | other (raw : String) (outside : raw ∉ ["system", "user", "assistant", "tool"])
deriving DecidableEq

def Role.ofString : Role :=
  if raw = "system" then .system
  else if raw = "user" then .user
  else if raw = "assistant" then .assistant
  else if raw = "tool" then .tool
  else if outside : raw ∉ ["system", "user", "assistant", "tool"] then .other raw outside
  else .tool

def Role.toString : Role → String
  | .system => "system"
  | .user => "user"
  | .assistant => "assistant"
  | .tool => "tool"
  | .other raw _ => raw

@[simp] theorem Role.ofString_toString (role : Role) : Role.ofString role.toString = role := by
  cases role with
  | other raw outside =>
    have known := outside
    simp only [List.mem_cons, not_or] at known
    simp [toString, ofString, known]
  | _ => simp [toString, ofString]

/-- The function call is flattened into the tool call that carries it. -/
structure ToolCall where
  id : String
  type : String
  name : String
  arguments : String
deriving DecidableEq

structure Message where
  role : Role
  content : String
  toolCalls : List ToolCall
  toolCallID : String
deriving DecidableEq

/-- An object of arguments as the executor receives it. -/
abbrev Args := StringMap Json

structure ToolDefinition where
  name : String
  description : String
  parameters : Json

structure SystemBlock where
  text : String
  cacheBoundary : Bool

structure ChatRequest where
  conversationID : String
  model : String
  messages : List Message
  systemBlocks : List SystemBlock
  tools : List ToolDefinition
  tier : String

structure ChatResponse where
  content : String
  toolCalls : List ToolCall
  inputTokens : Int
  outputTokens : Int

variable (call : ToolCall) (message : Message)

/-- An assistant message opens calls, a tool message answers one. -/
def Message.entry : Entry String :=
  match message.role with
  | .assistant => .opening (message.toolCalls.map ToolCall.id)
  | .tool => .answer message.toolCallID
  | _ => .other

/-- The transcript view of a message list. -/
def transcript (messages : List Message) : List (Entry String) := messages.map Message.entry

@[simp] theorem transcript_append (first second : List Message) :
    transcript (first ++ second) = transcript first ++ transcript second := List.map_append

def encodeToolCall : Json :=
  .obj [("id", .str call.id), ("type", .str call.type),
    ("function", .obj [("name", .str call.name), ("arguments", .str call.arguments)])]

def decodeToolCall : Json → Option ToolCall
  | .null => some ⟨"", "", "", ""⟩
  | .obj fields => do
      let id ← decodeField decodeString "" "id" fields
      let type ← decodeField decodeString "" "type" fields
      let function ← decodeField some .null "function" fields
      match function with
      | .null => some ⟨id, type, "", ""⟩
      | .obj inner => do
          let name ← decodeField decodeString "" "name" inner
          let arguments ← decodeField decodeString "" "arguments" inner
          some ⟨id, type, name, arguments⟩
      | _ => none
  | _ => none

/-- The fields `tool_calls` and `tool_call_id` carry `omitempty`. -/
def encodeMessage : Json :=
  .obj ([("role", .str message.role.toString), ("content", .str message.content)] ++
    (if message.toolCalls = [] then []
      else [("tool_calls", encodeList encodeToolCall message.toolCalls)]) ++
    (if message.toolCallID = "" then [] else [("tool_call_id", .str message.toolCallID)]))

def decodeMessage : Json → Option Message
  | .null => some ⟨Role.ofString "", "", [], ""⟩
  | .obj fields => do
      let role ← decodeField decodeString "" "role" fields
      let content ← decodeField decodeString "" "content" fields
      let toolCalls ← decodeField (decodeList decodeToolCall) [] "tool_calls" fields
      let toolCallID ← decodeField decodeString "" "tool_call_id" fields
      some ⟨Role.ofString role, content, toolCalls, toolCallID⟩
  | _ => none

@[simp] theorem decodeToolCall_encodeToolCall : decodeToolCall (encodeToolCall call) = some call := by
  simp [decodeToolCall, encodeToolCall, decodeField, field?, List.lookup_cons]

/-- A message survives its encoding. -/
@[simp] theorem decodeMessage_encodeMessage : decodeMessage (encodeMessage message) = some message := by
  obtain ⟨role, content, toolCalls, toolCallID⟩ := message
  have calls := decodeList_encodeList decodeToolCall_encodeToolCall toolCalls
  by_cases noCalls : toolCalls = [] <;> by_cases noID : toolCallID = "" <;>
    simp [decodeMessage, encodeMessage, decodeField, field?, List.lookup_cons, noCalls, noID, calls]

/-- Instants count milliseconds, and zero is the unset instant. -/
abbrev Time := Nat

/-- A decision action and a recorded verdict share one text type. -/
inductive Verdict where
  | approve
  | edit
  | reject
  | other (raw : String) (outside : raw ∉ ["approve", "edit", "reject"])
deriving DecidableEq

/-- A call without a recorded verdict carries the empty text. -/
def Verdict.missing : Verdict := .other "" (by decide)

/-- The store's guard against dropped decisions knows these texts. -/
def recordedVerdicts : List Verdict := [.approve, .edit, .reject]

structure PendingCall where
  callID : String
  toolName : String
  arguments : Args
  floorAtPause : ToolFloor
  verdict : Verdict
  editedArgs : Option Args
  rejectReason : String
  dispatched : Bool
  dispatchedAt : Option Time

inductive BatchStatus where
  | preparing
  | pending
  | resolving
  | resuming
  | resolved
  | expired
deriving DecidableEq

/-- The stored bytes of a snapshot, up to the JSON they spell. -/
inductive RawSnapshot where
  | blank
  | text (value : Json)
  | corrupt

structure PendingToolCallBatch where
  id : String
  conversationID : String
  businessID : String
  projectID : String
  userID : String
  messageID : String
  selectedPlatforms : List String
  platformScopeSet : Bool
  status : BatchStatus
  calls : List PendingCall
  modelMessages : RawSnapshot
  iterationIdx : Nat
  createdAt : Time
  updatedAt : Time
  expiresAt : Time

end OneVoice.Domain
