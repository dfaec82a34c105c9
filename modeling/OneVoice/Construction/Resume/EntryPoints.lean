/- The three paths by which an approved batch is resumed: `HITLHandler.Resume` of `handler/hitl.go`,
the rejoin of `chatturn/hitl.go` and `telegram_approval_consumer.go`. The resume handler of the
orchestrator reads the body that they send. -/

import OneVoice.Construction.Orchestrator.Loop

namespace OneVoice.Resume

open Library Domain Agent Json

/-- The text form of an identifier, from the uuid package. -/
class UUIDFormat (UUID : Type) where
  parse : String → Option UUID
  toString : UUID → String
  parse_toString : ∀ id, parse (toString id) = some id

/-- The settings hold the raw approval object when there is one. -/
structure Business (UUID : Type) where
  id : UUID
  toolApprovalSettings : Option (StringMap Json)

structure Project (UUID : Type) where
  id : UUID
  businessID : UUID
  whitelistMode : WhitelistMode
  allowedTools : List String
  approvalOverrides : ApprovalMap

inductive IntegrationStatus where
  | active
  | tokenExpired
  | other (raw : String)
deriving DecidableEq

structure Integration (UUID : Type) where
  businessID : UUID
  platform : String
  status : IntegrationStatus

/-- The rows that lookups return; by identifier, the row that has it. -/
structure Database (UUID : Type) where
  business : UUID → Option (Business UUID)
  project : UUID → Option (Project UUID)
  integrations : List (Integration UUID)
  identified : ∀ id row, business id = some row → row.id = id

/-- An entry that is not a valid floor is skipped. -/
def keepValid : List (Sigma fun _ : String => Json) → ApprovalMap
  | [] => ∅
  | ⟨name, .str raw⟩ :: rest =>
    if validToolFloor (ToolFloor.ofString raw) then
      (keepValid rest).insert name (ToolFloor.ofString raw)
    else keepValid rest
  | _ :: rest => keepValid rest

def Business.toolApprovals {UUID : Type} (business : Business UUID) : ApprovalMap :=
  match business.toolApprovalSettings with
  | none => ∅
  | some raw => keepValid raw.entries

section

variable {UUID : Type} [DecidableEq UUID]

def listByBusinessID (database : Database UUID) (businessID : UUID) : List (Integration UUID) :=
  database.integrations.filter fun integration => integration.businessID = businessID

def listByBusinessAndPlatform (database : Database UUID) (businessID : UUID) (platform : String) :
    List (Integration UUID) :=
  database.integrations.filter fun integration =>
    integration.businessID = businessID ∧ integration.platform = platform

/-- This loop keeps the platform of each active integration, once. -/
def distinctActive (integrations : List (Integration UUID)) : List String := go integrations []
where
  go : List (Integration UUID) → List String → List String
    | [], seen => seen.reverse
    | integration :: rest, seen =>
      if integration.status = .active ∧ integration.platform ∉ seen then
        go rest (integration.platform :: seen)
      else go rest seen

end

/-- The project fields of a resume body, zero or as the project has them. -/
structure ProjectFields where
  approvalOverrides : Option ApprovalMap
  whitelistMode : String
  allowedTools : Option (List String)

def ProjectFields.blank : ProjectFields := ⟨none, "", none⟩

def ProjectFields.ofProject {UUID : Type} (project : Project UUID) : ProjectFields :=
  ⟨some project.approvalOverrides, project.whitelistMode.toString, some project.allowedTools⟩

/-- Each path reads the project with its own lookup. -/
def projectFields {UUID : Type} [UUIDFormat UUID] (lookup : UUID → Option (Project UUID))
    (projectID : String) : ProjectFields :=
  if projectID = "" then .blank
  else match UUIDFormat.parse projectID with
    | none => .blank
    | some id =>
      match lookup id with
      | none => .blank
      | some project => .ofProject project

def encodeStrings : Option (List String) → Json
  | none => .null
  | some items => encodeList .str items

def encodeApprovals : Option ApprovalMap → Json
  | none => .null
  | some approvals => encodeMap encodeFloor approvals

/-- The body that carries the approval maps. -/
def policyBody (active : List String) (businessApprovals : Option ApprovalMap) (fields : ProjectFields) : Json :=
  .obj [("active_integrations", encodeStrings (some active)), ("allowed_tools", encodeStrings fields.allowedTools),
    ("business_approvals", encodeApprovals businessApprovals),
    ("project_approval_overrides", encodeApprovals fields.approvalOverrides),
    ("whitelist_mode", .str fields.whitelistMode)]

/-- The body that leaves them out. -/
def rejoinBody (active : List String) (fields : ProjectFields) : Json :=
  .obj [("active_integrations", encodeStrings (some active)), ("allowed_tools", encodeStrings fields.allowedTools),
    ("whitelist_mode", .str fields.whitelistMode)]

inductive ResumeRejection where
  | businessNotFound
  | forbidden
  | approvalExpired
  | alreadyResolved
  | inlineError
deriving DecidableEq

section

variable {UUID : Type} [DecidableEq UUID] [UUIDFormat UUID] (database : Database UUID)

namespace HITLHandler

def activeIntegrations (businessID : UUID) : List String := distinctActive (listByBusinessID database businessID)

def resume (callerBusinessID : UUID) (conversationID : String) (batch : PendingToolCallBatch) :
    Except ResumeRejection (Option Json) :=
  match database.business callerBusinessID with
  | none => .error .businessNotFound
  | some business =>
    if batch.businessID ≠ UUIDFormat.toString business.id then .error .forbidden
    else if batch.conversationID ≠ conversationID then .error .forbidden
    else if batch.status = .expired then .error .approvalExpired
    else if batch.status = .resolved then .error .alreadyResolved
    else .ok (some (policyBody (activeIntegrations database business.id)
      (some business.toolApprovals) (projectFields database.project batch.projectID)))

end HITLHandler

variable (batch : PendingToolCallBatch) (businessID : String)

namespace Turn

/-- The project service returns a project of the given business only. -/
def ownedProject (businessID id : UUID) : Option (Project UUID) :=
  match database.project id with
  | none => none
  | some project => if project.businessID = businessID then some project else none

def resumeBody (projectID : String) : Option Json :=
  match UUIDFormat.parse businessID with
  | none => none
  | some id =>
    some (rejoinBody (distinctActive (listByBusinessID database id))
      (projectFields (ownedProject database id) projectID))

def streamResume (conversationID : String) (batch : PendingToolCallBatch) : Except ResumeRejection (Option Json) :=
  if batch.conversationID ≠ conversationID then .error .inlineError
  else .ok (resumeBody database batch.businessID batch.projectID)

end Turn

namespace TelegramApprovalConsumer

/-- The consumer asks for these platforms one by one. -/
def platforms : List String := ["telegram", "vk", "yandex_business"]

def activeIntegrations : List String :=
  match UUIDFormat.parse businessID with
  | none => []
  | some id => platforms.filter fun platform =>
    (listByBusinessAndPlatform database id platform).any fun integration =>
      integration.status = .active

def businessApprovals : Option ApprovalMap :=
  match UUIDFormat.parse businessID with
  | none => none
  | some id => (database.business id).map Business.toolApprovals

def resumeBody : Json :=
  policyBody (activeIntegrations database batch.businessID) (businessApprovals database batch.businessID)
    (projectFields database.project batch.projectID)

end TelegramApprovalConsumer

/-- A path with the request parameters that it reads. -/
inductive EntryPoint (UUID : Type) where
  | httpResume (callerBusinessID : UUID) (conversationID : String)
  | chatRejoin (conversationID : String)
  | telegramConsumer

def EntryPoint.send : EntryPoint UUID → Except ResumeRejection (Option Json)
  | .httpResume callerBusinessID conversationID =>
    HITLHandler.resume database callerBusinessID conversationID batch
  | .chatRejoin conversationID => Turn.streamResume database conversationID batch
  | .telegramConsumer => .ok (some (TelegramApprovalConsumer.resumeBody database batch))

end

/-- The request body as the resume handler of the orchestrator decodes it. -/
structure ResumeBody where
  businessApprovals : ApprovalMap
  projectApprovalOverrides : ApprovalMap
  activeIntegrations : List String
  whitelistMode : String
  allowedTools : List String
  model : String
  tier : String

def ResumeBody.zero : ResumeBody := ⟨∅, ∅, [], "", [], "", ""⟩

def decodeResumeBody : Json → Option ResumeBody
  | .obj fields => do
      let businessApprovals ← decodeField (decodeMap decodeFloor) ∅ "business_approvals" fields
      let projectApprovalOverrides ← decodeField (decodeMap decodeFloor) ∅ "project_approval_overrides" fields
      let activeIntegrations ← decodeField (decodeList decodeString) [] "active_integrations" fields
      let whitelistMode ← decodeField decodeString "" "whitelist_mode" fields
      let allowedTools ← decodeField (decodeList decodeString) [] "allowed_tools" fields
      let model ← decodeField decodeString "" "model" fields
      let tier ← decodeField decodeString "" "tier" fields
      some ⟨businessApprovals, projectApprovalOverrides, activeIntegrations, whitelistMode,
        allowedTools, model, tier⟩
  | .null => some .zero
  | _ => none

def maxResumeBodyBytes : Nat := 256 * 1024

/-- A body over the limit or one that does not decode is the zero request. -/
def readResumeBody : Option Json → ResumeBody
  | none => .zero
  | some body =>
    if body.encodedSize ≤ maxResumeBodyBytes then (decodeResumeBody body).getD .zero else .zero

/-- The request that the resume handler hands to the orchestrator. -/
def resumeRequest (locale : Agent.Locale) (defaultModel batchID : String) (body : ResumeBody) : ResumeRequest where
  locale := locale
  batchID := batchID
  businessApprovals := body.businessApprovals
  projectApprovalOverrides := body.projectApprovalOverrides
  activeIntegrations := body.activeIntegrations
  whitelistMode := WhitelistMode.ofString body.whitelistMode
  allowedTools := body.allowedTools
  model := if body.model = "" then defaultModel else body.model
  tier := body.tier

/-- The request of a fresh turn; without a plan resolver no tier is sent. -/
def Turn.buildOrchestratorRequest {UUID : Type} [UUIDFormat UUID]
    (rateLimitTier : Option (UUID → String)) (businessID : UUID) (request : RunRequest) : RunRequest :=
  { request with
    businessID := UUIDFormat.toString businessID
    tier := match rateLimitTier with
      | none => ""
      | some resolve => resolve businessID }

/-- The request that the chat handler hands to the orchestrator. -/
def ChatHandler.chat (defaultModel : String) (body : RunRequest) : RunRequest :=
  { body with model := if body.model = "" then defaultModel else body.model }

/-- The tier under which the router limits a request. -/
def tierFromRequest (request : ChatRequest) : String :=
  if request.tier = "" then "free" else request.tier

/-! One business, known by the identifier of the sample batch. -/

namespace Sample

def identifier : String := "3f8a1c52-7d1e-4b7a-9c55-0a6f2d9b4e10"

instance : UUIDFormat Unit where
  parse raw := if raw = identifier then some () else none
  toString _ := identifier
  parse_toString _ := rfl

def business (approvals : Option (StringMap Json)) : Business Unit := ⟨(), approvals⟩

/-- The business has one active integration and no project. -/
def database (platform : String) (approvals : Option (StringMap Json)) : Database Unit where
  business _ := some (business approvals)
  project _ := none
  integrations := [⟨(), platform, .active⟩]
  identified _ _ _ := rfl

end Sample

end OneVoice.Resume
