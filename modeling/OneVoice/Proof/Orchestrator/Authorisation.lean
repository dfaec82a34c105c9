import OneVoice.Construction.Orchestrator.Loop

namespace OneVoice.Agent

open Library Domain List

namespace Invocation

/-- The tools offered over the scope-intersected integrations. -/
def availableTools (agent : Orchestrator) : Invocation → List ToolDefinition
  | .run request => agent.tools.availableForWhitelist request.locale
      (scopedIntegrations request.activeIntegrations request.selectedPlatforms
        request.platformScopeSet) request.whitelistMode request.allowedTools
  | .resume request batch => agent.tools.availableForWhitelist request.locale
      (scopedIntegrations request.activeIntegrations batch.selectedPlatforms
        batch.platformScopeSet) request.whitelistMode request.allowedTools

def offered (agent : Orchestrator) (invocation : Invocation) : List String :=
  offeredToolSet (invocation.availableTools agent)

def businessApprovals : Invocation → ApprovalMap
  | .run request => request.businessApprovals
  | .resume request _ => request.businessApprovals

def projectApprovalOverrides : Invocation → ApprovalMap
  | .run request => request.projectApprovalOverrides
  | .resume request _ => request.projectApprovalOverrides

/-- The floor of a tool under registry and request maps. -/
def effectiveFloor (agent : Orchestrator) (invocation : Invocation) (toolName : String) : ToolFloor :=
  Hitl.resolve (agent.tools.floor toolName) invocation.businessApprovals
    invocation.projectApprovalOverrides toolName

/-- A fresh run has no batch. -/
def batchCalls : Invocation → List PendingCall
  | .run _ => []
  | .resume _ batch => batch.calls

/-- An automatic tool that the invocation offers. -/
def Automatic (agent : Orchestrator) (invocation : Invocation) (toolName : String) : Prop :=
  toolName ∈ invocation.offered agent ∧ invocation.effectiveFloor agent toolName = .auto

/-- A resumed call that the owner let through and policy still permits. -/
structure Approved (agent : Orchestrator) (invocation : Invocation) (call : PendingCall) : Prop where
  member : call ∈ invocation.batchCalls
  offered : call.toolName ∈ invocation.offered agent
  verdict : call.verdict = .approve ∨ call.verdict = .edit
  undispatched : call.dispatched = false
  permitted : invocation.effectiveFloor agent call.toolName ≠ .forbidden

/-- An execution has an automatic floor or an approved call. -/
def Authorised (agent : Orchestrator) (invocation : Invocation) : Observation → Prop
  | .execute toolName _ origin =>
    toolName ∈ invocation.offered agent ∧
      (invocation.effectiveFloor agent toolName = .auto ∨
        ∃ approvalID call, origin = .approved approvalID call ∧ call.toolName = toolName ∧
          call ∈ invocation.batchCalls ∧ (call.verdict = .approve ∨ call.verdict = .edit) ∧
          call.dispatched = false ∧
          invocation.effectiveFloor agent toolName ≠ .forbidden)
  | _ => True

end Invocation

section

variable {agent : Orchestrator} {invocation : Invocation}

/-- The state still carries the tools and the policy of the request. -/
structure Governed (agent : Orchestrator) (invocation : Invocation) (state : RunState) : Prop where
  tools : state.availableTools = invocation.availableTools agent
  business : state.businessApprovals = invocation.businessApprovals
  project : state.projectApprovalOverrides = invocation.projectApprovalOverrides

/-- Every call that the main goroutine still has to execute is authorised. -/
def PhaseAuthorised (agent : Orchestrator) (invocation : Invocation) : Phase → Prop
  | .rejecting _ auto _ => ∀ call ∈ auto, invocation.Automatic agent call.name
  | .announcing announced unannounced _ =>
    ∀ call ∈ announced ++ unannounced, invocation.Automatic agent call.name
  | .executing slots _ => ∀ slot ∈ slots, invocation.Automatic agent slot.call.name
  | .dispatching request batch rest | .notifying request batch rest _ =>
    invocation = .resume request batch ∧ rest ⊆ batch.calls
  | _ => True

structure LoopAuthorised (agent : Orchestrator) (invocation : Invocation) (loop : Loop) : Prop where
  governed : Governed agent invocation loop.state
  phase : PhaseAuthorised agent invocation loop.phase
  workers : ∀ worker ∈ loop.workers, invocation.Approved agent worker.call

variable {seen : List Observation} {state : RunState} {first last : Loop}

section

variable (governed : Governed agent invocation state)

include governed

theorem Governed.congr {other} (tools : other.availableTools = state.availableTools)
    (business : other.businessApprovals = state.businessApprovals)
    (project : other.projectApprovalOverrides = state.projectApprovalOverrides) : Governed agent invocation other :=
  ⟨tools.trans governed.tools, business.trans governed.business, project.trans governed.project⟩

theorem Governed.appendMessage (message : Message) : Governed agent invocation (state.appendMessage message) :=
  governed.congr rfl rfl rfl

theorem Governed.afterDispatch (manual : List ToolCall) :
    Governed agent invocation (afterDispatch state manual).1 := by
  unfold Agent.afterDispatch
  split
  · exact governed.congr rfl rfl rfl
  · exact governed

end

theorem phaseAuthorised_afterDispatch (state : RunState) (manual : List ToolCall) :
    PhaseAuthorised agent invocation (afterDispatch state manual).2 := by
  unfold afterDispatch
  split <;> trivial

theorem phaseAuthorised_afterReply (state : RunState) (response : ChatResponse) :
    PhaseAuthorised agent invocation (agent.afterReply state response) := by
  unfold Orchestrator.afterReply
  split
  · trivial
  · split <;> trivial

/-- The automatic bucket holds offered automatic tools. -/
theorem classify_auto (governed : Governed agent invocation state) (calls : List ToolCall) :
    ∀ call ∈ (agent.classify state calls).auto, invocation.Automatic agent call.name := by
  intro call member
  simp only [Orchestrator.classify, enforceOffered, mem_filter] at member
  have floor := Hitl.bucket_auto_floor _ _ _ _ call member.1
  rw [governed.business, governed.project] at floor
  have named : call.name ∈ offeredToolSet state.availableTools := by simpa using member.2
  rw [governed.tools] at named
  exact ⟨named, floor⟩

/-- A call that the resume dispatches is approved. -/
theorem disposition_dispatch {request batch}
    (governed : Governed agent (.resume request batch) state) {call} (member : call ∈ batch.calls)
    (dispatched : agent.disposition request state call = .dispatch) :
    (Invocation.resume request batch).Approved agent call := by
  unfold Orchestrator.disposition at dispatched
  split at dispatched
  · split at dispatched <;> cases dispatched
  · split at dispatched
    · cases dispatched
    · rename_i named
      split at dispatched
      · cases dispatched
      · rename_i permitted
        split at dispatched
        · cases dispatched
        · rename_i undispatched
          refine ⟨member, ?_, ?_, by simpa using undispatched, permitted⟩
          · rw [not_not, governed.tools] at named
            exact named
          · tauto

section

variable (start : LoopAuthorised agent invocation first)

include start

theorem StepRun.authorised (taken : StepRun agent first seen last) :
    LoopAuthorised agent invocation last ∧ ∀ observation ∈ seen, invocation.Authorised agent observation := by
  obtain ⟨governed, phase, workers⟩ := start
  cases taken with
  | persistFailed batchID stored =>
    exact ⟨⟨governed, trivial, workers⟩, by cases stored <;> simp [Invocation.Authorised]⟩
  | replied response =>
    exact ⟨⟨governed.congr rfl rfl rfl, phaseAuthorised_afterReply _ response, workers⟩,
      by simp [Invocation.Authorised]⟩
  | @spoke state response =>
    refine ⟨⟨governed.appendMessage _, classify_auto governed response.toolCalls, workers⟩, ?_⟩
    split <;> simp [Invocation.Authorised]
  | rejected =>
    exact ⟨⟨governed.appendMessage _, phase, workers⟩, by simp [Invocation.Authorised]⟩
  | rejectionCut =>
    exact ⟨⟨governed.appendMessage _, trivial, workers⟩, by simp⟩
  | fannedOut => exact ⟨⟨governed, phase, workers⟩, by simp⟩
  | noFanOut =>
    exact ⟨⟨governed.afterDispatch _, phaseAuthorised_afterDispatch _ _, workers⟩, by simp⟩
  | announced | started =>
    refine ⟨⟨governed, ?_, workers⟩, by simp [Invocation.Authorised]⟩
    simpa [PhaseAuthorised] using phase
  | @executed _ before call args after =>
    simp only [PhaseAuthorised, forall_mem_append, forall_mem_cons] at phase
    refine ⟨⟨governed, ?_, workers⟩, ?_⟩
    · simpa only [PhaseAuthorised, forall_mem_append, forall_mem_cons] using phase
    · rw [forall_mem_singleton]
      exact ⟨phase.2.1.1, .inl phase.2.1.2⟩
  | returned outcome delivered =>
    refine ⟨⟨governed, ?_, workers⟩, ?_⟩
    · simpa only [PhaseAuthorised, forall_mem_append, forall_mem_cons] using phase
    · cases delivered <;> simp [Invocation.Authorised]
  | joined results =>
    refine ⟨⟨Governed.afterDispatch ?_ _, phaseAuthorised_afterDispatch _ _, workers⟩, by simp⟩
    exact governed.congr rfl rfl rfl
  | _ => exact ⟨⟨governed, trivial, workers⟩, by simp [Invocation.Authorised]⟩

theorem DispatchApproved.authorised (taken : DispatchApproved agent first seen last) :
    LoopAuthorised agent invocation last ∧ ∀ observation ∈ seen, invocation.Authorised agent observation := by
  obtain ⟨governed, phase, workers⟩ := start
  cases taken with
  | notified => exact ⟨⟨governed, phase, workers⟩, by simp [Invocation.Authorised]⟩
  | refused | replayed =>
    exact ⟨⟨governed.appendMessage _, ⟨phase.1, (cons_subset.mp phase.2).2⟩, workers⟩,
      by simp⟩
  | spawned dispatched =>
    obtain ⟨rfl, remaining⟩ := phase
    obtain ⟨member, rest⟩ := cons_subset.mp remaining
    have approved := disposition_dispatch governed member dispatched
    refine ⟨⟨governed, ⟨rfl, rest⟩, ?_⟩, by simp⟩
    intro worker known
    rcases mem_append.mp known with earlier | new
    · exact workers worker earlier
    · rw [mem_singleton] at new
      exact new ▸ approved
  | _ => exact ⟨⟨governed, trivial, workers⟩, by simp [Invocation.Authorised]⟩

theorem WorkerStep.authorised (taken : WorkerStep agent first seen last) :
    LoopAuthorised agent invocation last ∧ ∀ observation ∈ seen, invocation.Authorised agent observation := by
  obtain ⟨governed, phase, workers⟩ := start
  cases taken with
  | announced =>
    refine ⟨⟨governed, phase, ?_⟩, by simp [Invocation.Authorised]⟩
    simpa only [forall_mem_append, forall_mem_cons] using workers
  | cut =>
    simp only [forall_mem_append, forall_mem_cons] at workers
    exact ⟨⟨governed, phase, forall_mem_append.mpr ⟨workers.1, workers.2.2⟩⟩, by simp⟩
  | @executed _ _ before batchID call after =>
    simp only [forall_mem_append, forall_mem_cons] at workers
    have approved : invocation.Approved agent call := workers.2.1
    refine ⟨⟨governed, phase, ?_⟩, ?_⟩
    · simpa only [forall_mem_append, forall_mem_cons] using workers
    · rw [forall_mem_singleton]
      exact ⟨approved.offered, .inr ⟨_, call, rfl, rfl, approved.member, approved.verdict,
        approved.undispatched, approved.permitted⟩⟩
  | returned outcome delivered | panicked _ delivered =>
    simp only [forall_mem_append, forall_mem_cons] at workers
    refine ⟨⟨governed.appendMessage _, phase, forall_mem_append.mpr ⟨workers.1, workers.2.2⟩⟩, ?_⟩
    cases delivered <;> simp [Invocation.Authorised]

/-- A step keeps the loop's authority and executes with it only. -/
theorem Step.authorised (taken : Step agent first seen last) :
    LoopAuthorised agent invocation last ∧ ∀ observation ∈ seen, invocation.Authorised agent observation := by
  cases taken with
  | cancel => exact ⟨⟨start.governed, start.phase, start.workers⟩, by simp⟩
  | panic => exact ⟨⟨start.governed, trivial, start.workers⟩, by simp⟩
  | stepRun taken | dispatchApproved taken | worker taken => exact taken.authorised start

end

theorem Invocation.start_authorised (agent : Orchestrator) (invocation : Invocation) :
    LoopAuthorised agent invocation (invocation.start agent) := by
  cases invocation with
  | run request => exact ⟨⟨rfl, rfl, rfl⟩, trivial, by simp [start, Loop.run]⟩
  | resume request batch =>
    simp only [start, Loop.resume]
    split
    · exact ⟨⟨rfl, rfl, rfl⟩, trivial, by simp⟩
    · split
      · exact ⟨⟨rfl, rfl, rfl⟩, trivial, by simp⟩
      · split
        · exact ⟨⟨rfl, rfl, rfl⟩, trivial, by simp⟩
        · exact ⟨⟨rfl, rfl, rfl⟩, ⟨rfl, List.Subset.refl _⟩, by simp⟩

theorem Step.run_authorised {labels} (run : Run (Step agent) first labels last)
    (start : LoopAuthorised agent invocation first) :
    ∀ seen ∈ labels, ∀ observation ∈ seen, invocation.Authorised agent observation :=
  run.forall_labels (fun _ _ _ taken start => (taken.authorised start).1)
    (fun _ _ _ taken start => (taken.authorised start).2) start

/-- Only an approved call's goroutine marks a call or uses an approval. -/
def WorkedBy (workers : List Worker) : Observation → Prop
  | .markDispatched batchID callID =>
    ∃ worker ∈ workers, worker.batchID = batchID ∧ worker.call.callID = callID
  | .execute toolName args (.approved approvalID call) => ∃ worker ∈ workers,
      approvalID = approvalIDOf worker.batchID call.callID ∧ worker.call = call ∧
        toolName = call.toolName ∧ args = approvedArgs call
  | _ => True

theorem Step.workedBy (taken : Step agent first seen last) :
    ∀ observation ∈ seen, WorkedBy first.workers observation := by
  cases taken with
  | cancel | panic => simp
  | stepRun taken =>
    cases taken with
    | spoke => split <;> simp [WorkedBy]
    | persistFailed _ stored => cases stored <;> simp [WorkedBy]
    | returned _ delivered => cases delivered <;> simp [WorkedBy]
    | _ => simp [WorkedBy]
  | dispatchApproved taken => cases taken <;> simp [WorkedBy]
  | worker taken =>
    cases taken with
    | returned _ delivered =>
      rw [forall_mem_cons]
      constructor
      · exact ⟨_, mem_append_right _ mem_cons_self, rfl, rfl⟩
      · cases delivered <;> simp [WorkedBy]
    | panicked _ delivered => cases delivered <;> simp [WorkedBy]
    | executed =>
      rw [forall_mem_singleton]
      exact ⟨_, mem_append_right _ mem_cons_self, rfl, rfl, rfl, rfl⟩
    | announced | cut => simp [WorkedBy]

/-- Every execution of every run is authorised. -/
theorem execution_authorised (agent : Orchestrator) (invocation : Invocation) {labels : List (List Observation)}
    {last : Loop} (run : Run (Step agent) (invocation.start agent) labels last) :
    ∀ seen ∈ labels, ∀ observation ∈ seen, invocation.Authorised agent observation :=
  Step.run_authorised run (invocation.start_authorised agent)

end

open Sample

/-- The sample's approved call is executed with its verdict's authority. -/
theorem execution_authorised_approved :
    Invocation.Authorised orchestrator (.resume resumeRequest approvedBatch)
      (.execute "google_business__reply_review" ∅ (.approved "batch-call" approvedCall)) := by
  obtain ⟨last, run⟩ := resume_continues
  exact execution_authorised orchestrator (.resume resumeRequest approvedBatch)
    run [.execute "google_business__reply_review" ∅ (.approved "batch-call" approvedCall)]
    (by simp [resumeLabels]) _ mem_cons_self

end OneVoice.Agent
