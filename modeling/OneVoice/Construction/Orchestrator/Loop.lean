/- The agent loop: `stepRun` of `step.go`, `Run` and `dispatchToolCalls` of `orchestrator.go`, and
`Resume` with `dispatchApprovedCalls` of `resume.go`. A step relation carries the goroutines, and
cancellation may strike before any step. -/

import OneVoice.Construction.Orchestrator.Message
import OneVoice.Library.Run
import OneVoice.Library.Text

namespace OneVoice.Agent

open Library Domain Orchestrator

/-- The inputs of a fresh turn; the system texts come from `prompt.BuildSplit`. -/
structure RunRequest where
  locale : Locale
  model : String
  systemPlatform : String
  systemBusiness : String
  pdnAllowlist : List String
  whitelistMode : WhitelistMode
  allowedTools : List String
  messages : List Message
  activeIntegrations : List String
  selectedPlatforms : List String
  platformScopeSet : Bool
  tier : String
  conversationID : String
  businessID : String
  projectID : String
  userID : String
  messageID : String
  businessApprovals : ApprovalMap
  projectApprovalOverrides : ApprovalMap

/-- The fresh state that a resume carries. -/
structure ResumeRequest where
  locale : Locale
  batchID : String
  businessApprovals : ApprovalMap
  projectApprovalOverrides : ApprovalMap
  activeIntegrations : List String
  whitelistMode : WhitelistMode
  allowedTools : List String
  model : String
  tier : String

inductive StepOutcome where
  | done
  | paused (batchID : String)
  | error
  | maxIterations
  | panicked
deriving DecidableEq

/-- These are the errors that the router distinguishes for the client. -/
inductive ChatError where
  | dailySpendExceeded
  | rateLimitUnavailable
  | rateLimitExceeded
  | other
deriving DecidableEq

def translateChatError : ChatError → Event
  | .dailySpendExceeded => .error "daily_spend_exceeded"
  | .rateLimitUnavailable => .error "rate_limit_unavailable"
  | .rateLimitExceeded => .error "rate_limit_exceeded"
  | .other => .error "internal_error"

/-- An execution belongs to a call of the latest reply or the resumed batch. -/
inductive Origin where
  | fresh (call : ToolCall)
  | approved (approvalID : String) (call : PendingCall)

/-- What the loop does outside its state; a call records its cancellation. -/
inductive Observation where
  | llmCall (request : ChatRequest) (cancelled : Bool)
  | llmReply (response : ChatResponse)
  | execute (toolName : String) (args : Args) (origin : Origin)
  | send (event : Event)
  | persist (batch : PendingToolCallBatch)
  | markDispatched (batchID callID : String)
  | markResolved (batchID : String)

inductive SlotStatus where
  | waiting
  | running
  | finished (outcome : ToolOutcome)

/-- One entry of the parallel fan-out of a fresh reply. -/
structure Slot where
  call : ToolCall
  args : Args
  status : SlotStatus

inductive WorkerStatus where
  | spawned
  | announced
  | running
deriving DecidableEq

/-- One goroutine of the approved fan-out. -/
structure Worker where
  batchID : String
  call : PendingCall
  status : WorkerStatus

/-- The position of the main goroutine. -/
inductive Phase where
  | chat
  | awaiting (request : ChatRequest) (cancelledAtCall : Bool)
  | speaking (response : ChatResponse)
  | rejecting (forbidden auto manual : List ToolCall)
  | announcing (announced unannounced manual : List ToolCall)
  | executing (slots : List Slot) (manual : List ToolCall)
  | pausing (manual : List ToolCall)
  | dispatching (request : ResumeRequest) (batch : PendingToolCallBatch) (rest : List PendingCall)
  | notifying (request : ResumeRequest) (batch : PendingToolCallBatch) (rest : List PendingCall) (event : Event)
  | joining (batchID : String)
  | emitting (events : List Event) (outcome : StepOutcome)
  | halted (outcome : StepOutcome)

/-- The main goroutine has not reached the end of its body. -/
def Phase.active : Phase → Bool
  | .emitting _ _ | .halted _ => false
  | _ => true

structure Loop where
  state : RunState
  phase : Phase
  workers : List Worker
  cancelled : Bool

def scopedIntegrations (active selected : List String) (scopeSet : Bool) : List String :=
  if scopeSet then intersectSelectedPlatforms active selected else active

namespace RunState

def appendMessage (state : RunState) (message : Message) : RunState :=
  { state with messages := state.messages ++ [message] }

/-- The sums of the tokens wrap around. -/
def accumulate (state : RunState) (response : ChatResponse) : RunState :=
  { state with
    accumulatedInputTokens := wrap64 (state.accumulatedInputTokens + response.inputTokens)
    accumulatedOutputTokens := wrap64 (state.accumulatedOutputTokens + response.outputTokens) }

end RunState

/-- Edited values replace the persisted ones, under an edit verdict only. -/
def approvedArgs (call : PendingCall) : Args :=
  match call.verdict, call.editedArgs with
  | .edit, some edited => edited ∪ call.arguments
  | _, _ => call.arguments

def approvalIDOf (batchID callID : String) : String := batchID ++ "-" ++ callID

/-- What the resume does with one call of the batch. -/
inductive Disposition where
  | refuse (source : RejectionSource) (reason note : String)
  | replay
  | dispatch
deriving DecidableEq

namespace Orchestrator

variable (orchestrator : Orchestrator)

def runState (request : RunRequest) : RunState where
  messages := request.messages
  systemPlatform := request.systemPlatform
  systemBusiness := request.systemBusiness
  availableTools := orchestrator.tools.availableForWhitelist request.locale
    (scopedIntegrations request.activeIntegrations request.selectedPlatforms
      request.platformScopeSet) request.whitelistMode request.allowedTools
  selectedPlatforms := request.selectedPlatforms
  platformScopeSet := request.platformScopeSet
  pdnAllowlist := request.pdnAllowlist
  businessApprovals := request.businessApprovals
  projectApprovalOverrides := request.projectApprovalOverrides
  conversationID := request.conversationID
  businessID := request.businessID
  projectID := request.projectID
  userID := request.userID
  messageID := request.messageID
  model := request.model
  tier := request.tier
  iter := 0
  accumulatedInputTokens := 0
  accumulatedOutputTokens := 0

def resumeState (request : ResumeRequest) (batch : PendingToolCallBatch) (snapshot : SnapshotDecoded) : RunState where
  messages := snapshot.messages
  systemPlatform := snapshot.systemPlatform
  systemBusiness := snapshot.systemBusiness
  availableTools := orchestrator.tools.availableForWhitelist request.locale
    (scopedIntegrations request.activeIntegrations batch.selectedPlatforms batch.platformScopeSet)
    request.whitelistMode request.allowedTools
  selectedPlatforms := batch.selectedPlatforms
  platformScopeSet := batch.platformScopeSet
  pdnAllowlist := snapshot.pdnAllowlist
  businessApprovals := request.businessApprovals
  projectApprovalOverrides := request.projectApprovalOverrides
  conversationID := batch.conversationID
  businessID := batch.businessID
  projectID := batch.projectID
  userID := batch.userID
  messageID := batch.messageID
  model := request.model
  tier := request.tier
  iter := batch.iterationIdx + 1
  accumulatedInputTokens := snapshot.accumulatedInputTokens
  accumulatedOutputTokens := snapshot.accumulatedOutputTokens

variable (state : RunState)

def capped : Bool :=
  (0 < orchestrator.conversationInputCap && orchestrator.conversationInputCap ≤ state.accumulatedInputTokens) ||
  (0 < orchestrator.conversationOutputCap && orchestrator.conversationOutputCap ≤ state.accumulatedOutputTokens)

/-- A reply stops at a token cap, ends the turn without tools, or goes on. -/
def afterReply (response : ChatResponse) : Phase :=
  if orchestrator.capped state then .emitting [.error "conversation_token_cap"] .error
  else if response.toolCalls = [] then
    .emitting ((if response.content = "" then [] else [.text response.content]) ++ [.done]) .done
  else .speaking response

/-- The buckets after the offered set is enforced on the permitted calls. -/
def classify (calls : List ToolCall) : Hitl.Buckets :=
  let buckets := Hitl.bucket orchestrator.tools.floor state.businessApprovals state.projectApprovalOverrides calls
  let offered := offeredToolSet state.availableTools
  let auto := enforceOffered buckets.auto buckets.forbidden offered
  let manual := enforceOffered buckets.manual auto.2 offered
  ⟨auto.1, manual.1, manual.2⟩

def disposition (request : ResumeRequest) (state : RunState) (call : PendingCall) : Disposition :=
  if call.verdict ≠ .approve ∧ call.verdict ≠ .edit then
    if call.verdict = .reject then
      .refuse .owner (if call.rejectReason = "" then reasonUserRejected else call.rejectReason) ownerRejectionNote
    else .refuse .decisionState reasonDecisionUnavailable decisionUnavailableNote
  else if call.toolName ∉ offeredToolSet state.availableTools then
    .refuse .policy reasonPolicyForbidden policyForbiddenNote
  else if Hitl.resolve (orchestrator.tools.floor call.toolName) request.businessApprovals
      request.projectApprovalOverrides call.toolName = .forbidden then
    .refuse .policy reasonPolicyRevoked policyRevokedNote
  else if call.dispatched then .replay
  else .dispatch

/-- The results of a fan-out are appended in the order of the calls. -/
def appendResults (results : List (ToolCall × Args × ToolOutcome)) : RunState :=
  { state with
    messages := state.messages ++ results.map fun result =>
      toolMessage result.1.id (orchestrator.freshContent result.1.name result.2.2) }

def dispatchedContent : String := "\x7b\"dispatched\":true,\"note\":\"result not persisted across resume\"\x7d"

end Orchestrator

/-- The loop pauses when a manual call remains, and iterates otherwise. -/
def afterDispatch (state : RunState) (manual : List ToolCall) : RunState × Phase :=
  if manual = [] then ({ state with iter := state.iter + 1 }, .chat) else (state, .pausing manual)

/-- A send completes unless the context is cancelled. -/
inductive Delivery (cancelled : Bool) (event : Event) : List Observation → Prop
  | sent : Delivery cancelled event [.send event]
  | dropped : cancelled = true → Delivery cancelled event []

/-- One step of `stepRun` in the main goroutine. -/
inductive StepRun (orchestrator : Orchestrator) : Loop → List Observation → Loop → Prop
  | exhausted {state workers cancelled} : orchestrator.maxIterations ≤ state.iter →
      StepRun orchestrator ⟨state, .chat, workers, cancelled⟩ []
        ⟨state, .emitting [.error "max_iterations"] .maxIterations, workers, cancelled⟩
  | called {state workers cancelled} : state.iter < orchestrator.maxIterations →
      StepRun orchestrator ⟨state, .chat, workers, cancelled⟩ [.llmCall (orchestrator.chatRequest state) cancelled]
        ⟨state, .awaiting (orchestrator.chatRequest state) cancelled, workers, cancelled⟩
  | failed {state request cancelledAtCall workers cancelled} (failure : ChatError) :
      StepRun orchestrator ⟨state, .awaiting request cancelledAtCall, workers, cancelled⟩ []
        ⟨state, .emitting [translateChatError failure] .error, workers, cancelled⟩
  | replied {state request cancelledAtCall workers cancelled} (response : ChatResponse) :
      orchestrator.llm request cancelledAtCall response →
      StepRun orchestrator ⟨state, .awaiting request cancelledAtCall, workers, cancelled⟩ [.llmReply response]
        ⟨state.accumulate response, orchestrator.afterReply (state.accumulate response) response,
          workers, cancelled⟩
  | spoke {state response workers cancelled} :
      StepRun orchestrator ⟨state, .speaking response, workers, cancelled⟩
        (if response.content = "" then [] else [.send (.text response.content)])
        ⟨state.appendMessage ⟨.assistant, response.content, response.toolCalls, ""⟩,
          .rejecting (orchestrator.classify state response.toolCalls).forbidden
            (orchestrator.classify state response.toolCalls).auto
            (orchestrator.classify state response.toolCalls).manual, workers, cancelled⟩
  | unspoken {state response workers} : response.content ≠ "" →
      StepRun orchestrator ⟨state, .speaking response, workers, true⟩ [] ⟨state, .halted .error, workers, true⟩
  | rejected {state call forbidden auto manual workers cancelled} :
      StepRun orchestrator ⟨state, .rejecting (call :: forbidden) auto manual, workers, cancelled⟩
        [.send (.toolRejected call.id call.name reasonPolicyForbidden)]
        ⟨state.appendMessage (toolMessage call.id
          (orchestrator.buildRejectionMessage .policy reasonPolicyForbidden policyForbiddenNote)),
          .rejecting forbidden auto manual, workers, cancelled⟩
  | rejectionCut {state call forbidden auto manual workers} :
      StepRun orchestrator ⟨state, .rejecting (call :: forbidden) auto manual, workers, true⟩ []
        ⟨state.appendMessage (toolMessage call.id
          (orchestrator.buildRejectionMessage .policy reasonPolicyForbidden policyForbiddenNote)),
          .halted .error, workers, true⟩
  | fannedOut {state auto manual workers cancelled} : auto ≠ [] →
      StepRun orchestrator ⟨state, .rejecting [] auto manual, workers, cancelled⟩ []
        ⟨state, .announcing [] auto manual, workers, cancelled⟩
  | noFanOut {state manual workers cancelled} :
      StepRun orchestrator ⟨state, .rejecting [] [] manual, workers, cancelled⟩ []
        ⟨(afterDispatch state manual).1, (afterDispatch state manual).2, workers, cancelled⟩
  | announced {state known call unannounced manual workers cancelled} :
      StepRun orchestrator ⟨state, .announcing known (call :: unannounced) manual, workers, cancelled⟩
        [.send (.toolCall call.id call.name (orchestrator.parseToolArgs call.arguments))]
        ⟨state, .announcing (known ++ [call]) unannounced manual, workers, cancelled⟩
  | announcementCut {state known call unannounced manual workers} :
      StepRun orchestrator ⟨state, .announcing known (call :: unannounced) manual, workers, true⟩ []
        ⟨state, .halted .error, workers, true⟩
  | started {state known manual workers cancelled} :
      StepRun orchestrator ⟨state, .announcing known [] manual, workers, cancelled⟩ []
        ⟨state, .executing (known.map fun call =>
          ⟨call, orchestrator.parseToolArgs call.arguments, .waiting⟩) manual, workers, cancelled⟩
  | executed {state before call args after manual workers cancelled} :
      StepRun orchestrator
        ⟨state, .executing (before ++ ⟨call, args, .waiting⟩ :: after) manual, workers, cancelled⟩
        [.execute call.name args (.fresh call)]
        ⟨state, .executing (before ++ ⟨call, args, .running⟩ :: after) manual, workers, cancelled⟩
  | returned {state before call args after manual workers cancelled observed} (outcome : ToolOutcome) :
      Delivery cancelled (freshResultEvent call.id call.name outcome) observed →
      StepRun orchestrator
        ⟨state, .executing (before ++ ⟨call, args, .running⟩ :: after) manual, workers, cancelled⟩
        observed
        ⟨state, .executing (before ++ ⟨call, args, .finished outcome⟩ :: after) manual, workers, cancelled⟩
  | joined {state manual workers} (results : List (ToolCall × Args × ToolOutcome)) :
      StepRun orchestrator
        ⟨state, .executing (results.map fun result =>
          ⟨result.1, result.2.1, .finished result.2.2⟩) manual, workers, false⟩ []
        ⟨(afterDispatch (orchestrator.appendResults state results) manual).1,
          (afterDispatch (orchestrator.appendResults state results) manual).2, workers, false⟩
  | abandoned {state slots manual workers} : (∀ slot ∈ slots, ∃ outcome, slot.status = .finished outcome) →
      StepRun orchestrator ⟨state, .executing slots manual, workers, true⟩ [] ⟨state, .halted .error, workers, true⟩
  | unconfigured {state manual workers cancelled} : orchestrator.hitlConfigured = false →
      StepRun orchestrator ⟨state, .pausing manual, workers, cancelled⟩ []
        ⟨state, .emitting [.error "internal_error"] .error, workers, cancelled⟩
  | persisted {state manual workers cancelled} (batchID : String) : orchestrator.hitlConfigured = true →
      StepRun orchestrator ⟨state, .pausing manual, workers, cancelled⟩
        [.persist (orchestrator.buildPendingBatch batchID state manual)]
        ⟨state, .emitting [.toolApprovalRequired batchID
          (orchestrator.summarizeManualCalls manual)] (.paused batchID), workers, cancelled⟩
  /-- A failed write may still have reached the store. -/
  | persistFailed {state manual workers cancelled} (batchID : String) (stored : Bool) :
      orchestrator.hitlConfigured = true →
      StepRun orchestrator ⟨state, .pausing manual, workers, cancelled⟩
        (if stored then [.persist (orchestrator.buildPendingBatch batchID state manual)] else [])
        ⟨state, .emitting [.error "internal_error"] .error, workers, cancelled⟩
  | emitted {state event events outcome workers cancelled} :
      StepRun orchestrator ⟨state, .emitting (event :: events) outcome, workers, cancelled⟩
        [.send event] ⟨state, .emitting events outcome, workers, cancelled⟩
  | emissionCut {state event events outcome workers} :
      StepRun orchestrator ⟨state, .emitting (event :: events) outcome, workers, true⟩ []
        ⟨state, .halted outcome, workers, true⟩
  | stopped {state outcome workers cancelled} :
      StepRun orchestrator ⟨state, .emitting [] outcome, workers, cancelled⟩ []
        ⟨state, .halted outcome, workers, cancelled⟩

/-- One step of `dispatchApprovedCalls`; a send that fails skips the join. -/
inductive DispatchApproved (orchestrator : Orchestrator) : Loop → List Observation → Loop → Prop
  | broke {state request batch call rest workers} :
      DispatchApproved orchestrator ⟨state, .dispatching request batch (call :: rest), workers, true⟩
        [] ⟨state, .joining batch.id, workers, true⟩
  | refused {state request batch call rest workers source reason note} :
      orchestrator.disposition request state call = .refuse source reason note →
      DispatchApproved orchestrator ⟨state, .dispatching request batch (call :: rest), workers, false⟩ []
        ⟨state.appendMessage (toolMessage call.callID (orchestrator.buildRejectionMessage source reason note)),
          .notifying request batch rest (.toolRejected call.callID call.toolName reason), workers,
          false⟩
  | notified {state request batch rest event workers cancelled} :
      DispatchApproved orchestrator ⟨state, .notifying request batch rest event, workers, cancelled⟩ [.send event]
        ⟨state, .dispatching request batch rest, workers, cancelled⟩
  | notificationCut {state request batch rest event workers} :
      DispatchApproved orchestrator ⟨state, .notifying request batch rest event, workers, true⟩
        [.markResolved batch.id] ⟨state, .chat, workers, true⟩
  | replayed {state request batch call rest workers} : orchestrator.disposition request state call = .replay →
      DispatchApproved orchestrator ⟨state, .dispatching request batch (call :: rest), workers, false⟩ []
        ⟨state.appendMessage (toolMessage call.callID dispatchedContent),
          .dispatching request batch rest, workers, false⟩
  | spawned {state request batch call rest workers} : orchestrator.disposition request state call = .dispatch →
      DispatchApproved orchestrator ⟨state, .dispatching request batch (call :: rest), workers, false⟩ []
        ⟨state, .dispatching request batch rest, workers ++ [⟨batch.id, call, .spawned⟩], false⟩
  | finished {state request batch workers cancelled} :
      DispatchApproved orchestrator ⟨state, .dispatching request batch [], workers, cancelled⟩ []
        ⟨state, .joining batch.id, workers, cancelled⟩
  | joined {state batchID cancelled} :
      DispatchApproved orchestrator ⟨state, .joining batchID, [], cancelled⟩
        [.markResolved batchID] ⟨state, .chat, [], cancelled⟩

/-- One step of one dispatch goroutine, wherever the main goroutine stands. -/
inductive WorkerStep (orchestrator : Orchestrator) : Loop → List Observation → Loop → Prop
  | announced {state phase before batchID call after cancelled} :
      WorkerStep orchestrator ⟨state, phase, before ++ ⟨batchID, call, .spawned⟩ :: after, cancelled⟩
        [.send (.toolCall call.callID call.toolName (approvedArgs call))]
        ⟨state, phase, before ++ ⟨batchID, call, .announced⟩ :: after, cancelled⟩
  | cut {state phase before batchID call after} :
      WorkerStep orchestrator ⟨state, phase, before ++ ⟨batchID, call, .spawned⟩ :: after, true⟩ []
        ⟨state, phase, before ++ after, true⟩
  | executed {state phase before batchID call after cancelled} :
      WorkerStep orchestrator ⟨state, phase, before ++ ⟨batchID, call, .announced⟩ :: after, cancelled⟩
        [.execute call.toolName (approvedArgs call) (.approved (approvalIDOf batchID call.callID) call)]
        ⟨state, phase, before ++ ⟨batchID, call, .running⟩ :: after, cancelled⟩
  | returned {state phase before batchID call after cancelled observed} (outcome : ToolOutcome) :
      Delivery cancelled (approvedResultEvent call.callID call.toolName outcome) observed →
      WorkerStep orchestrator ⟨state, phase, before ++ ⟨batchID, call, .running⟩ :: after, cancelled⟩
        (.markDispatched batchID call.callID :: observed)
        ⟨state.appendMessage (toolMessage call.callID
          (orchestrator.approvedContent outcome)), phase, before ++ after, cancelled⟩
  /-- A goroutine panics in its tool, or on the channel that was closed. -/
  | panicked {state phase before worker after cancelled observed} :
      worker.status = .running ∨ cancelled = true ∨ phase.active = false →
      Delivery cancelled (approvedResultEvent worker.call.callID worker.call.toolName .panicked) observed →
      WorkerStep orchestrator ⟨state, phase, before ++ worker :: after, cancelled⟩ observed
        ⟨state.appendMessage (toolMessage worker.call.callID
          (orchestrator.approvedContent .panicked)), phase, before ++ after, cancelled⟩

/-- A panic in the main goroutine ends the turn with an error. -/
inductive Step (orchestrator : Orchestrator) : Loop → List Observation → Loop → Prop
  | cancel (loop : Loop) : Step orchestrator loop [] { loop with cancelled := true }
  | panic (loop : Loop) : loop.phase.active = true →
      Step orchestrator loop [] { loop with phase := .emitting [.error "internal_error"] .panicked }
  | stepRun {first observed last} : StepRun orchestrator first observed last → Step orchestrator first observed last
  | dispatchApproved {first observed last} :
      DispatchApproved orchestrator first observed last → Step orchestrator first observed last
  | worker {first observed last} :
      WorkerStep orchestrator first observed last → Step orchestrator first observed last

namespace Loop

variable (orchestrator : Orchestrator)

def run (request : RunRequest) : Loop := ⟨orchestrator.runState request, .chat, [], false⟩

/-- A resume of a found batch; expiry and a corrupt snapshot end the turn. -/
def resume (request : ResumeRequest) (batch : PendingToolCallBatch) : Loop :=
  let blank := orchestrator.resumeState request batch ⟨[], "", "", [], 0, 0, false⟩
  if orchestrator.hitlConfigured = false then
    ⟨blank, .emitting [.error "internal_error"] .error, [], false⟩
  else if batch.status = .expired then
    ⟨blank, .emitting [.error "approval_expired"] .error, [], false⟩
  else match decodeSnapshot batch.modelMessages with
    | none => ⟨blank, .emitting [.error "internal_error"] .error, [], false⟩
    | some snapshot =>
      ⟨orchestrator.resumeState request batch snapshot, .dispatching request batch batch.calls, [], false⟩

/-- A batch that is live and readable resumes with its own calls. -/
theorem resume_decoded {orchestrator request batch snapshot}
    (configured : orchestrator.hitlConfigured = true) (live : batch.status ≠ .expired)
    (decoded : decodeSnapshot batch.modelMessages = some snapshot) :
    resume orchestrator request batch =
      ⟨orchestrator.resumeState request batch snapshot, .dispatching request batch batch.calls, [], false⟩ := by
  simp only [resume, configured, if_neg live, decoded, Bool.true_eq_false, if_false]

end Loop

/-- A loop starts from a fresh request or from a persisted batch. -/
inductive Invocation where
  | run (request : RunRequest)
  | resume (request : ResumeRequest) (batch : PendingToolCallBatch)

def Invocation.start (orchestrator : Orchestrator) : Invocation → Loop
  | .run request => .run orchestrator request
  | .resume request batch => .resume orchestrator request batch

/-- Between pause and resume the snapshot and the waiting calls stay. -/
structure Recorded (persisted stored : PendingToolCallBatch) : Prop where
  id : stored.id = persisted.id
  modelMessages : stored.modelMessages = persisted.modelMessages
  iterationIdx : stored.iterationIdx = persisted.iterationIdx
  calls : List.Forall₂ (fun before after => after.callID = before.callID ∧
    after.toolName = before.toolName ∧ after.arguments = before.arguments)
    persisted.calls stored.calls

/-- A fresh run and any chain of resumes of its batches, stopped anywhere. -/
inductive Turn (orchestrator : Orchestrator) (history : List Message) : List Observation → Prop
  | run {labels last} (request : RunRequest) : request.messages = history →
      Run (Step orchestrator) (.run orchestrator request) labels last →
      Turn orchestrator history labels.flatten
  | resume {trace labels last} (request : ResumeRequest) (persisted stored : PendingToolCallBatch) :
      Turn orchestrator history trace → .persist persisted ∈ trace → Recorded persisted stored →
      Run (Step orchestrator) (.resume orchestrator request stored) labels last →
      Turn orchestrator history (trace ++ labels.flatten)

/-- A turn that resumes each batch at most once; the index lists them. -/
inductive SingleTurn (orchestrator : Orchestrator) : List String → List Observation → Prop
  | run {labels last} (request : RunRequest) : Run (Step orchestrator) (.run orchestrator request) labels last →
      SingleTurn orchestrator [] labels.flatten
  | resume {resumed trace labels last} (request : ResumeRequest) (persisted stored : PendingToolCallBatch) :
      SingleTurn orchestrator resumed trace → .persist persisted ∈ trace →
      persisted.id ∉ resumed → Recorded persisted stored →
      Run (Step orchestrator) (.resume orchestrator request stored) labels last →
      SingleTurn orchestrator (persisted.id :: resumed) (trace ++ labels.flatten)

/-- The tool-call ids of every reply of a trace, in order. -/
def replyCallIDs : List Observation → List String
  | [] => []
  | .llmReply response :: rest => response.toolCalls.map ToolCall.id ++ replyCallIDs rest
  | _ :: rest => replyCallIDs rest

/-! A small installation with one automatic and one manual tool. -/

namespace Sample

def tool (name : String) (floor : ToolFloor) (editableFields : List String) : RegistryEntry where
  definition := ⟨name, "", .null⟩
  descriptionEn := ""
  parameterDescriptionsEn := ∅
  hasExecutor := true
  floor := floor
  editableFields := editableFields

def orchestrator : Orchestrator where
  llm _ cancelled _ := cancelled = false
  tools := (Registry.newRegistry.register (tool "google_business__get_reviews" .auto [])).register
    (tool "google_business__reply_review" .manual ["text"])
  maxIterations := 10
  conversationInputCap := 0
  conversationOutputCap := 0
  redactOutboundPDn := false
  hitlConfigured := true
  unmarshalArgs _ := some ∅
  marshal _ := "null"
  quote text := "\"" ++ text ++ "\""
  redactPIIExcept text _ := text

def runRequest : RunRequest where
  locale := .english
  model := "model"
  systemPlatform := ""
  systemBusiness := ""
  pdnAllowlist := []
  whitelistMode := .inherit
  allowedTools := []
  messages := [⟨.user, "Answer the last review", [], ""⟩]
  activeIntegrations := ["google_business"]
  selectedPlatforms := []
  platformScopeSet := false
  tier := ""
  conversationID := "conversation"
  businessID := "3f8a1c52-7d1e-4b7a-9c55-0a6f2d9b4e10"
  projectID := ""
  userID := "user"
  messageID := "message"
  businessApprovals := ∅
  projectApprovalOverrides := ∅

def resumeRequest : ResumeRequest where
  locale := .english
  batchID := "batch"
  businessApprovals := ∅
  projectApprovalOverrides := ∅
  activeIntegrations := ["google_business"]
  whitelistMode := .inherit
  allowedTools := []
  model := "model"
  tier := ""

def replyCall : ToolCall := ⟨"call", "function", "google_business__reply_review", ""⟩

/-- The state in which a reply with the manual call pauses. -/
def pausedState : RunState := (orchestrator.runState runRequest).appendMessage ⟨.assistant, "", [replyCall], ""⟩

def batch : PendingToolCallBatch := orchestrator.buildPendingBatch "batch" pausedState [replyCall]

def approvedCall : PendingCall := { orchestrator.pendingCall replyCall with verdict := .approve }

def approvedBatch : PendingToolCallBatch := { batch with status := .resuming, calls := [approvedCall] }

/-- The loop that the approved batch resumes. -/
def resumed : Loop :=
  ⟨orchestrator.resumeState resumeRequest approvedBatch ⟨pausedState.messages, "", "", [], 0, 0,
    false⟩, .dispatching resumeRequest approvedBatch [approvedCall], [], false⟩

def runLabels : List (List Observation) :=
  [[.llmCall (orchestrator.chatRequest (orchestrator.runState runRequest)) false],
    [.llmReply ⟨"", [replyCall], 0, 0⟩], [], [], [.persist batch]]

/-- The request that carries the answer of the approved call. -/
def answeredRequest : ChatRequest :=
  orchestrator.chatRequest (resumed.state.appendMessage (toolMessage "call" "null"))

def resumeLabels : List (List Observation) :=
  [[], [.send (.toolCall "call" "google_business__reply_review" ∅)],
    [.execute "google_business__reply_review" ∅ (.approved "batch-call" approvedCall)],
    [.markDispatched "batch" "call", .send (.toolResult "call" "google_business__reply_review" (some .null) "" "")],
    [], [.markResolved "batch"], [.llmCall answeredRequest false]]

theorem run_pauses : ∃ last, Run (Step orchestrator) (.run orchestrator runRequest) runLabels last :=
  ⟨_, .cons (.stepRun (.called (by decide))) <| .cons (.stepRun (.replied _ rfl)) <|
    .cons (.stepRun .spoke) <| .cons (.stepRun .noFanOut) <|
    .cons (.stepRun (.persisted "batch" rfl)) <| .nil _⟩

theorem resume_continues :
    ∃ last, Run (Step orchestrator) (.resume orchestrator resumeRequest approvedBatch) resumeLabels last := by
  exact ⟨_, .cons (.dispatchApproved (.spawned (by decide))) <|
    .cons (.worker (@WorkerStep.announced _ _ _ [] _ _ _ _)) <|
    .cons (.worker (@WorkerStep.executed _ _ _ [] _ _ _ _)) <|
    .cons (.worker (@WorkerStep.returned _ _ _ [] _ _ _ _ _ (.value .null) .sent)) <|
    .cons (.dispatchApproved .finished) <| .cons (.dispatchApproved .joined) <|
    .cons (.stepRun (.called (by decide))) <| .nil _⟩

end Sample

end OneVoice.Agent
