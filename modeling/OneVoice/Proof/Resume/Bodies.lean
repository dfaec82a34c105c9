import OneVoice.Construction.Resume.EntryPoints

namespace OneVoice.Resume

open Library Domain Agent TelegramApprovalConsumer Json

/-- The three fields of a body that decide which tools are offered. -/
structure Scope where
  active : List String
  whitelistMode : WhitelistMode
  allowedTools : List String

/-- The scope of a body that was not read. -/
def Scope.unread : Scope := ⟨[], WhitelistMode.ofString "", []⟩

def ResumeBody.scope (body : ResumeBody) : Scope :=
  ⟨body.activeIntegrations, WhitelistMode.ofString body.whitelistMode, body.allowedTools⟩

/-- The names that a scope offers under the platform scope of the batch. -/
def Scope.offered (registry : Registry) (locale : Agent.Locale) (batch : PendingToolCallBatch)
    (scope : Scope) : List String :=
  offeredToolSet (registry.availableForWhitelist locale
    (scopedIntegrations scope.active batch.selectedPlatforms batch.platformScopeSet)
    scope.whitelistMode scope.allowedTools)

/-- A decoded body has this scope and looks tools up as these approval maps do. -/
structure Carries (body : ResumeBody) (scope : Scope) (business project : ApprovalMap) : Prop where
  scope : body.scope = scope
  business : ∀ name, body.businessApprovals.lookup name = business.lookup name
  project : ∀ name, body.projectApprovalOverrides.lookup name = project.lookup name

def fieldsScope (active : List String) (fields : ProjectFields) : Scope :=
  ⟨active, WhitelistMode.ofString fields.whitelistMode, fields.allowedTools.getD []⟩

theorem decodeApprovals (approvals : Option ApprovalMap) :
    ∃ decoded, decodeMap decodeFloor (encodeApprovals approvals) = some decoded ∧
      ∀ name, decoded.lookup name = (approvals.getD ∅).lookup name := by
  cases approvals with
  | none => exact ⟨∅, rfl, fun _ => rfl⟩
  | some approvals => exact decodeMap_encodeMap decodeFloor_encodeFloor approvals

theorem decodeStrings (items : Option (List String)) :
    decodeList decodeString (encodeStrings items) = some (items.getD []) := by
  cases items with
  | none => rfl
  | some items => exact decodeList_encodeList decodeString_str items

theorem decodeResumeBody_policyBody (active : List String) (approvals : Option ApprovalMap) (fields : ProjectFields) :
    ∃ decoded, decodeResumeBody (policyBody active approvals fields) = some decoded ∧
      Carries decoded (fieldsScope active fields) (approvals.getD ∅) (fields.approvalOverrides.getD ∅) := by
  obtain ⟨business, decodedBusiness, businessFound⟩ := decodeApprovals approvals
  obtain ⟨project, decodedProject, projectFound⟩ := decodeApprovals fields.approvalOverrides
  have decodedActive := decodeStrings (some active)
  have decodedAllowed := decodeStrings fields.allowedTools
  refine ⟨⟨business, project, active, fields.whitelistMode, fields.allowedTools.getD [], "", ""⟩,
    ?_, rfl, businessFound, projectFound⟩
  simp [decodeResumeBody, policyBody, decodeField, field?, List.lookup_cons,
    decodedBusiness, decodedProject, decodedActive, decodedAllowed]

theorem decodeResumeBody_rejoinBody (active : List String) (fields : ProjectFields) :
    ∃ decoded, decodeResumeBody (rejoinBody active fields) = some decoded ∧
      Carries decoded (fieldsScope active fields) ∅ ∅ := by
  have decodedActive := decodeStrings (some active)
  have decodedAllowed := decodeStrings fields.allowedTools
  refine ⟨⟨∅, ∅, active, fields.whitelistMode, fields.allowedTools.getD [], "", ""⟩, ?_, rfl,
    fun _ => rfl, fun _ => rfl⟩
  simp [decodeResumeBody, rejoinBody, decodeField, field?, List.lookup_cons,
    decodedActive, decodedAllowed]

section

variable {UUID : Type} [DecidableEq UUID] [UUIDFormat UUID]

/-- Every lookup of a resume finds its row. -/
structure LookupsSucceed (db : Database UUID) (batch : PendingToolCallBatch) (business : Business UUID) : Prop where
  parsed : UUIDFormat.parse batch.businessID = some business.id
  found : db.business business.id = some business
  project : batch.projectID = "" ∨ ∃ id project, UUIDFormat.parse batch.projectID = some id ∧
    db.project id = some project ∧ project.businessID = business.id

/-- The platforms that a path finds active. -/
def EntryPoint.active (db : Database UUID) (businessID : UUID) : EntryPoint UUID → List String
  | .httpResume _ _ | .chatRejoin _ => distinctActive (listByBusinessID db businessID)
  | .telegramConsumer => platforms.filter fun platform =>
    (listByBusinessAndPlatform db businessID platform).any fun row =>
      row.status = .active

def EntryPoint.carriesPolicy : EntryPoint UUID → Bool
  | .httpResume _ _ | .telegramConsumer => true
  | .chatRejoin _ => false

/-- The project overrides that the database holds for the batch. -/
def storedOverrides (db : Database UUID) (batch : PendingToolCallBatch) : ApprovalMap :=
  (projectFields db.project batch.projectID).approvalOverrides.getD ∅

/-- The body of a path when every lookup succeeds. -/
def EntryPoint.body (db : Database UUID) (batch : PendingToolCallBatch)
    (business : Business UUID) (entry : EntryPoint UUID) : Json :=
  if entry.carriesPolicy then
    policyBody (entry.active db business.id) (some business.toolApprovals)
      (projectFields db.project batch.projectID)
  else rejoinBody (entry.active db business.id) (projectFields db.project batch.projectID)

/-- The body of a path is within the limit of the resume handler. -/
def EntryPoint.Fits (db : Database UUID) (batch : PendingToolCallBatch)
    (business : Business UUID) (entry : EntryPoint UUID) : Prop :=
  (entry.body db batch business).encodedSize ≤ maxResumeBodyBytes

instance (db : Database UUID) (batch : PendingToolCallBatch) (business : Business UUID)
    (entry : EntryPoint UUID) : Decidable (entry.Fits db batch business) :=
  inferInstanceAs (Decidable (_ ≤ _))

def EntryPoint.scope (db : Database UUID) (batch : PendingToolCallBatch)
    (business : Business UUID) (entry : EntryPoint UUID) : Scope :=
  fieldsScope (entry.active db business.id) (projectFields db.project batch.projectID)

variable {db : Database UUID} {batch : PendingToolCallBatch} {business : Business UUID}

/-- The tenant check of the rejoin passes for a project of the business. -/
theorem projectFields_owned (lookups : LookupsSucceed db batch business) :
    projectFields (Turn.ownedProject db business.id) batch.projectID =
      projectFields db.project batch.projectID := by
  rcases lookups.project with none | ⟨id, project, parsed, found, owned⟩
  · simp only [projectFields, none, if_true]
  · simp only [projectFields, parsed, Turn.ownedProject, found, owned, if_true]

variable {entry : EntryPoint UUID}

/-- A path that sends at all sends its own body. -/
theorem EntryPoint.send_body (lookups : LookupsSucceed db batch business) {sent}
    (sends : entry.send db batch = .ok sent) : sent = some (entry.body db batch business) := by
  cases entry with
  | httpResume callerBusinessID conversationID =>
    simp only [send, HITLHandler.resume] at sends
    split at sends
    · cases sends
    · rename_i row rowFound
      have caller := db.identified callerBusinessID row rowFound
      split at sends
      · cases sends
      · rename_i same
        have parsed := lookups.parsed
        rw [not_not.mp same, UUIDFormat.parse_toString] at parsed
        have sameID : row.id = business.id := Option.some.inj parsed
        rw [← caller, sameID, lookups.found] at rowFound
        obtain rfl : business = row := Option.some.inj rowFound
        split at sends
        · cases sends
        · split at sends
          · cases sends
          · split at sends
            · cases sends
            · exact (Except.ok.inj sends).symm
  | chatRejoin conversationID =>
    simp only [send, Turn.streamResume, Turn.resumeBody, lookups.parsed] at sends
    split at sends
    · cases sends
    · rw [projectFields_owned lookups] at sends
      exact (Except.ok.inj sends).symm
  | telegramConsumer =>
    simp only [send, resumeBody, businessApprovals, activeIntegrations, lookups.parsed, lookups.found] at sends
    exact (Except.ok.inj sends).symm

/-- A body that fits is read with its scope, and any policy. -/
theorem EntryPoint.decode_body (db : Database UUID) (batch : PendingToolCallBatch)
    (business : Business UUID) (entry : EntryPoint UUID) :
    ∃ decoded, decodeResumeBody (entry.body db batch business) = some decoded ∧
      Carries decoded (entry.scope db batch business) (if entry.carriesPolicy then business.toolApprovals else ∅)
        (if entry.carriesPolicy then storedOverrides db batch else ∅) := by
  unfold EntryPoint.body
  split
  · exact decodeResumeBody_policyBody _ _ _
  · exact decodeResumeBody_rejoinBody _ _

theorem readResumeBody_fits (fits : entry.Fits db batch business) :
    Carries (readResumeBody (some (entry.body db batch business))) (entry.scope db batch business)
      (if entry.carriesPolicy then business.toolApprovals else ∅)
      (if entry.carriesPolicy then storedOverrides db batch else ∅) := by
  obtain ⟨decoded, equal, carries⟩ := entry.decode_body db batch business
  have read : readResumeBody (some (entry.body db batch business)) = decoded := by
    simp only [readResumeBody, equal]
    exact if_pos fits
  rw [read]
  exact carries

theorem readResumeBody_unread (tooLarge : ¬ entry.Fits db batch business) :
    readResumeBody (some (entry.body db batch business)) = .zero := by
  exact if_neg tooLarge

theorem readResumeBody_scope (entry : EntryPoint UUID) :
    (readResumeBody (some (entry.body db batch business))).scope =
      if entry.Fits db batch business then entry.scope db batch business else .unread := by
  split
  · rename_i fits
    exact (readResumeBody_fits fits).scope
  · rename_i tooLarge
    rw [readResumeBody_unread tooLarge]
    rfl

end

theorem Sample.lookupsSucceed (platform : String) (approvals : Option (StringMap Json)) :
    LookupsSucceed (Sample.database platform approvals) Agent.Sample.approvedBatch (Sample.business approvals) :=
  ⟨rfl, rfl, .inl rfl⟩

end OneVoice.Resume
