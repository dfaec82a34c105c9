/- The checks and the finalisation of `HITLService.Resolve` in `service/hitl.go`, with
`ValidateEditArgs` of `pkg/tools/validate.go`. -/

import OneVoice.Construction.Hitl.Policy

namespace OneVoice.Hitl

open Library Domain

inductive EditError where
  | fieldNotEditable (tool field : String) (editable : List String)
  | nonScalarValue (tool field : String) (value : Json)
  | fieldTypeMismatch (tool field want : String) (value : Json)

def scalar : Json → Bool
  | .bool _ | .num _ | .str _ => true
  | .null | .arr _ | .obj _ => false

def editableFieldKind (field : String) : Option String :=
  [("text", "string"), ("caption", "string"), ("photo_url", "string"), ("description", "string"),
    ("hours", "string"), ("scheduled_at", "string")].lookup field

variable (parseRFC3339 : String → Option Time)

/-- The parameter stands for `time.Parse` at the RFC 3339 layout. -/
def assertKind (now : Time) (toolName field kind : String) (value : Json) : Except EditError Unit :=
  if kind ≠ "string" then .ok ()
  else match value with
    | .str text =>
      if field = "scheduled_at" ∧ text ≠ "" then
        match parseRFC3339 text with
        | some instant =>
          if now < instant then .ok ()
          else .error (.fieldTypeMismatch toolName field "future RFC3339 timestamp" value)
        | none => .error (.fieldTypeMismatch toolName field "future RFC3339 timestamp" value)
      else .ok ()
    | _ => .error (.fieldTypeMismatch toolName field kind value)

def validateEditArg (now : Time) (toolName : String) (editable : List String) (field : String)
    (value : Json) : Except EditError Unit :=
  if field ∉ editable then .error (.fieldNotEditable toolName field editable)
  else if scalar value = false then .error (.nonScalarValue toolName field value)
  else match editableFieldKind field with
    | none => .ok ()
    | some kind => assertKind parseRFC3339 now toolName field kind value

/-- The first failing entry of one iteration order gives the error. -/
def validateEditArgs (now : Time) (toolName : String) (editedArgs : Args)
    (editable : List String) : Except EditError Unit :=
  editedArgs.entries.forM fun entry =>
    validateEditArg parseRFC3339 now toolName editable entry.1 entry.2

structure DecisionInput where
  id : String
  action : Verdict
  editedArgs : Option Args
  rejectReason : String

structure ResolveInput where
  conversationID : String
  batchID : String
  actorBusinessID : String
  decisions : List DecisionInput

inductive HITLError where
  | batchNotFound
  | invalidPhotoURL
  | forbidden
  | batchExpired
  | batchAlreadyResolving
  | decisionsShape (missing : List String)
  | rejectReasonTooLong (max got : Nat)
  | invalidAction (action : String)
  | editRefused (error : EditError)
  | internal

/-- The authenticated actor that the request context carries. -/
structure BusinessContext where
  businessID : String
  roleID : String
  permissions : List String

/-- The cached editable fields, image ownership, and the timestamp parser. -/
structure HITLService where
  editableFields : String → List String
  ownedMedia : String → String → Bool
  parseRFC3339 : String → Option Time

def maxRejectReasonChars : Nat := 500

def systemRoleOwnerID : String := "00000000-0000-0000-0000-000000000001"

def permContentDelete : String := "content.delete"

def missingCallIDs (calls : List PendingCall) (decisions : List DecisionInput) : List String :=
  (calls.map PendingCall.callID).filter fun callID => callID ∉ decisions.map DecisionInput.id

/-- The last decision with the id counts. -/
def decisionByID (decisions : List DecisionInput) (callID : String) : DecisionInput :=
  (decisions.reverse.find? fun decision => decision.id = callID).getD ⟨"", .missing, none, ""⟩

def telegramDeleteChannelPost : String := "telegram__delete_channel_post"

def telegramSendChannelPost : String := "telegram__send_channel_post"

def telegramSendChannelPhoto : String := "telegram__send_channel_photo"

def vkDeletePost : String := "vk__delete_post"

def vkPostPhoto : String := "vk__post_photo"

/-- An edited photo that differs from the persisted one, already a string. -/
def editedPhoto (editedArgs : Option Args) (arguments : Args) : Option String :=
  match editedArgs.bind (AList.lookup "photo_url"), arguments.lookup "photo_url" with
  | none, _ => none
  | some (.str url), some (.str original) => if url = original then none else some url
  | some (.str url), _ => some url
  | some _, _ => some ""

namespace HITLService

variable (service : HITLService)

variable (context : Option BusinessContext)

def checkDeletion (batch : PendingToolCallBatch) (call : PendingCall) (decision : DecisionInput) :
    Except HITLError Unit :=
  if (call.toolName = telegramDeleteChannelPost ∨ call.toolName = vkDeletePost) ∧ decision.action ≠ .reject then
    match context with
    | none => .error .forbidden
    | some actor =>
      if actor.businessID = batch.businessID ∧ actor.roleID = systemRoleOwnerID ∧
          permContentDelete ∈ actor.permissions then .ok ()
      else .error .forbidden
  else .ok ()

def checkEdit (now : Time) (batch : PendingToolCallBatch) (call : PendingCall)
    (decision : DecisionInput) : Except HITLError Unit :=
  match validateEditArgs service.parseRFC3339 now call.toolName (decision.editedArgs.getD ∅)
      (service.editableFields call.toolName) with
  | .error error => .error (.editRefused error)
  | .ok _ =>
    if call.toolName = telegramSendChannelPhoto ∨ call.toolName = vkPostPhoto then
      match editedPhoto decision.editedArgs call.arguments with
      | none => .ok ()
      | some url =>
        if service.ownedMedia batch.businessID url then .ok () else .error .invalidPhotoURL
    else .ok ()

def checkAction (now : Time) (batch : PendingToolCallBatch) (call : PendingCall)
    (decision : DecisionInput) : Except HITLError Unit :=
  match decision.action with
  | .approve => .ok ()
  | .edit => service.checkEdit now batch call decision
  | .reject =>
    if maxRejectReasonChars < decision.rejectReason.utf8ByteSize then
      .error (.rejectReasonTooLong maxRejectReasonChars decision.rejectReason.utf8ByteSize)
    else .ok ()
  | .other raw _ => .error (.invalidAction raw)

/-- The checks of one call, in the order of the loop body. -/
def checkCall (now : Time) (batch : PendingToolCallBatch) (call : PendingCall)
    (decision : DecisionInput) : Except HITLError Unit := do
  if (decision.editedArgs.bind (AList.lookup "scheduled_at")).isSome ∧ decision.action = .approve ∧
      (call.toolName = telegramSendChannelPost ∨ call.toolName = telegramSendChannelPhoto) then
    .error (.invalidAction "scheduled_at changes require edit")
  else
    checkDeletion context batch call decision
    service.checkAction now batch call decision

/-- What `Resolve` demands of the batch before it claims it. -/
def check (now : Time) (input : ResolveInput) (batch : PendingToolCallBatch) : Except HITLError Unit :=
  if batch.businessID ≠ input.actorBusinessID then .error .forbidden
  else if batch.conversationID ≠ input.conversationID then .error .forbidden
  else if batch.status = .expired then .error .batchExpired
  else if missingCallIDs batch.calls input.decisions ≠ [] then
    .error (.decisionsShape (missingCallIDs batch.calls input.decisions))
  else batch.calls.forM fun call =>
    service.checkCall context now batch call (decisionByID input.decisions call.callID)

end HITLService

variable (businessApprovals projectOverrides : ApprovalMap) (now : Time) (call : PendingCall)
  (decision : DecisionInput)

/-- The decision of a call, unless the policy has revoked the tool since. -/
def finalizeCall : PendingCall :=
  let decided := { call with
    verdict := decision.action
    editedArgs := decision.editedArgs
    rejectReason := decision.rejectReason }
  if (decision.action = .approve ∨ decision.action = .edit) ∧
      resolve call.floorAtPause businessApprovals projectOverrides call.toolName = .forbidden then
    { decided with verdict := .reject, rejectReason := "policy_revoked" }
  else decided

def finalize (calls : List PendingCall) (decisions : List DecisionInput) : List PendingCall :=
  calls.map fun call =>
    finalizeCall businessApprovals projectOverrides call (decisionByID decisions call.callID)

/-- The answer names the reason only where the server rewrote the action. -/
structure ResolvedCall where
  id : String
  action : Verdict
  reason : String

def resolvedCall : ResolvedCall :=
  if (decision.action = .approve ∨ decision.action = .edit) ∧
      resolve call.floorAtPause businessApprovals projectOverrides call.toolName = .forbidden then
    ⟨call.callID, .reject, "policy_revoked"⟩
  else ⟨call.callID, decision.action, ""⟩

structure ResolveResult where
  batchID : String
  resolvedAt : Time
  decisions : List ResolvedCall

def resolveResult (input : ResolveInput) (calls : List PendingCall) : ResolveResult where
  batchID := input.batchID
  resolvedAt := now
  decisions := calls.map fun call =>
    resolvedCall businessApprovals projectOverrides call (decisionByID input.decisions call.callID)

end OneVoice.Hitl
