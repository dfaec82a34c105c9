import OneVoice.Proof.ChatTurn.ResumeLoop
import OneVoice.Proof.Orchestrator.Authorisation
import OneVoice.Proof.Orchestrator.Transcript

/-! The key that a resume records for a call against the key under which the call was executed. -/

namespace OneVoice.Agent

open Library Domain List

def Origin.callID : Origin → String
  | .fresh call => call.id
  | .approved _ call => call.callID

/-- A call of a reply is executed without an approval. -/
def Origin.approvalID : Origin → String
  | .fresh _ => ""
  | .approved approvalID _ => approvalID

/-- No reply asks for an automatic tool under an identifier. -/
def Invocation.AutomaticUnnamed (agent : Orchestrator) (invocation : Invocation) (seen : List Observation) : Prop :=
  ∀ response, .llmReply response ∈ seen → ∀ call ∈ response.toolCalls,
    invocation.Automatic agent call.name → call.id = ""

section

variable {agent : Orchestrator} {request : ResumeRequest} {batch : PendingToolCallBatch}
  {first last : Loop} {seen : List Observation}

/-- The calls on their way without an approval carry no identifier. -/
def PhaseUnnamed (agent : Orchestrator) (invocation : Invocation) : Phase → Prop
  | .speaking response => ∀ call ∈ response.toolCalls, invocation.Automatic agent call.name → call.id = ""
  | .rejecting _ auto _ => ∀ call ∈ auto, call.id = ""
  | .announcing known unannounced _ => ∀ call ∈ known ++ unannounced, call.id = ""
  | .executing slots _ => ∀ slot ∈ slots, slot.call.id = ""
  | _ => True

theorem phaseUnnamed_afterDispatch (invocation : Invocation) (state : RunState) (manual : List ToolCall) :
    PhaseUnnamed agent invocation (afterDispatch state manual).2 := by
  unfold afterDispatch
  split <;> trivial

theorem phaseUnnamed_afterReply {invocation} (state : RunState) {response}
    (unnamed : ∀ call ∈ response.toolCalls, invocation.Automatic agent call.name → call.id = "") :
    PhaseUnnamed agent invocation (agent.afterReply state response) := by
  unfold Orchestrator.afterReply
  split
  · trivial
  · split
    · trivial
    · exact unnamed

theorem mem_of_mem_auto {state calls call} (member : call ∈ (agent.classify state calls).auto) : call ∈ calls := by
  apply (classify_perm agent state calls).subset
  exact mem_append_left _ (mem_append_right _ member)

theorem StepRun.unnamed {invocation} (taken : StepRun agent first seen last)
    (governed : Governed agent invocation first.state)
    (replies : invocation.AutomaticUnnamed agent seen)
    (phase : PhaseUnnamed agent invocation first.phase) :
    PhaseUnnamed agent invocation last.phase ∧ last.workers = first.workers ∧
      ∀ toolName args origin, .execute toolName args origin ∈ seen →
        origin.callID = "" ∧ origin.approvalID = "" := by
  cases taken with
  | persistFailed batchID stored => exact ⟨trivial, rfl, by cases stored <;> simp⟩
  | replied response =>
    have unnamed := replies response mem_cons_self
    exact ⟨phaseUnnamed_afterReply _ unnamed, rfl, by simp⟩
  | @spoke state response =>
    refine ⟨?_, rfl, ?_⟩
    · intro call member
      exact phase call (mem_of_mem_auto member) (classify_auto governed _ call member)
    · split <;> simp
  | rejected | fannedOut => exact ⟨phase, rfl, by simp⟩
  | noFanOut | joined results => exact ⟨phaseUnnamed_afterDispatch _ _ _, rfl, by simp⟩
  | announced | started =>
    simpa [PhaseUnnamed] using phase
  | @executed _ before call args after =>
    simp only [PhaseUnnamed, forall_mem_append, forall_mem_cons] at phase
    refine ⟨?_, rfl, ?_⟩
    · simpa only [PhaseUnnamed, forall_mem_append, forall_mem_cons] using phase
    · intro toolName values origin member
      cases mem_singleton.mp member
      exact ⟨phase.2.1, rfl⟩
  | returned outcome delivered =>
    refine ⟨?_, rfl, ?_⟩
    · simpa only [PhaseUnnamed, forall_mem_append, forall_mem_cons] using phase
    · cases delivered <;> simp
  | _ => exact ⟨trivial, rfl, by simp⟩

/-- The loop of a resume whose automatic calls carry no identifier. -/
structure LoopUnnamed (agent : Orchestrator) (request : ResumeRequest)
    (batch : PendingToolCallBatch) (loop : Loop) : Prop where
  authorised : LoopAuthorised agent (.resume request batch) loop
  phase : PhaseUnnamed agent (.resume request batch) loop.phase
  workers : ∀ worker ∈ loop.workers, worker.batchID = batch.id

/-- An execution is unnamed and unapproved, or of an approved call. -/
def ExecutesKeyed (agent : Orchestrator) (request : ResumeRequest)
    (batch : PendingToolCallBatch) (origin : Origin) : Prop :=
  origin.callID = "" ∧ origin.approvalID = "" ∨
    ∃ call, (Invocation.resume request batch).Approved agent call ∧
      origin = .approved (approvalIDOf batch.id call.callID) call

theorem DispatchApproved.workers_batch (taken : DispatchApproved agent first seen last)
    (phase : PhaseAuthorised agent (.resume request batch) first.phase)
    (workers : ∀ worker ∈ first.workers, worker.batchID = batch.id) :
    PhaseUnnamed agent (.resume request batch) last.phase ∧ (∀ worker ∈ last.workers, worker.batchID = batch.id) ∧
      ∀ toolName args origin, .execute toolName args origin ∉ seen := by
  cases taken with
  | spawned =>
    obtain ⟨same, _⟩ := phase
    cases same
    refine ⟨trivial, ?_, by simp⟩
    rw [forall_mem_append, forall_mem_singleton]
    exact ⟨workers, rfl⟩
  | _ => exact ⟨trivial, workers, by simp⟩

theorem WorkerStep.workers_batch (taken : WorkerStep agent first seen last)
    (workers : ∀ worker ∈ first.workers, worker.batchID = batch.id) :
    last.phase = first.phase ∧ ∀ worker ∈ last.workers, worker.batchID = batch.id := by
  cases taken with
  | announced | executed =>
    simp only [forall_mem_append, forall_mem_cons] at workers ⊢
    exact ⟨trivial, workers⟩
  | _ =>
    simp only [forall_mem_append, forall_mem_cons] at workers ⊢
    exact ⟨trivial, workers.1, workers.2.2⟩

theorem Step.executesKeyed (taken : Step agent first seen last)
    (replies : (Invocation.resume request batch).AutomaticUnnamed agent seen)
    (start : LoopUnnamed agent request batch first) :
    LoopUnnamed agent request batch last ∧
      ∀ toolName args origin, .execute toolName args origin ∈ seen →
        ExecutesKeyed agent request batch origin := by
  have authorised := (taken.authorised start.authorised).1
  have worked := taken.workedBy
  cases taken with
  | cancel => exact ⟨⟨authorised, start.phase, start.workers⟩, by simp⟩
  | panic => exact ⟨⟨authorised, trivial, start.workers⟩, by simp⟩
  | stepRun taken =>
    obtain ⟨phase, same, executions⟩ := taken.unnamed start.authorised.governed replies start.phase
    refine ⟨⟨authorised, phase, ?_⟩, ?_⟩
    · rw [same]
      exact start.workers
    · intro toolName args origin member
      exact Or.inl (executions toolName args origin member)
  | dispatchApproved taken =>
    obtain ⟨phase, workers, silent⟩ := taken.workers_batch start.authorised.phase start.workers
    refine ⟨⟨authorised, phase, workers⟩, ?_⟩
    intro toolName args origin member
    exact absurd member (silent toolName args origin)
  | worker taken =>
    obtain ⟨same, workers⟩ := taken.workers_batch start.workers
    refine ⟨⟨authorised, same ▸ start.phase, workers⟩, ?_⟩
    intro toolName args origin member
    cases origin with
    | fresh call =>
      cases taken with
      | returned _ delivered | panicked _ delivered => cases delivered <;> simp at member
      | _ => simp at member
    | approved approvalID call =>
      obtain ⟨worker, listed, rfl, rfl, _⟩ := worked _ member
      refine Or.inr ⟨worker.call, start.authorised.workers worker listed, ?_⟩
      rw [start.workers worker listed]

theorem executesKeyed_of_run {labels}
    (run : Run (Guarded (Step agent) fun _ seen =>
      (Invocation.resume request batch).AutomaticUnnamed agent seen)
      (.resume agent request batch) labels last) :
    ∀ seen ∈ labels, ∀ toolName args origin, .execute toolName args origin ∈ seen →
      ExecutesKeyed agent request batch origin := by
  have authorised := (Invocation.resume request batch).start_authorised agent
  have start : LoopUnnamed agent request batch (.resume agent request batch) := by
    refine ⟨authorised, ?_, ?_⟩
    · unfold Loop.resume
      split
      · trivial
      · split
        · trivial
        · split <;> trivial
    · have idle : (Loop.resume agent request batch).workers = [] := by
        unfold Loop.resume
        split
        · rfl
        · split
          · rfl
          · split <;> rfl
      simp [idle]
  exact run.forall_labels (fun _ _ _ taken start => (taken.1.executesKeyed taken.2 start).1)
    (fun _ _ _ taken start => (taken.1.executesKeyed taken.2 start).2) start

end

end OneVoice.Agent

namespace OneVoice.ChatTurn

open Library Domain

/-- The identifier of a call and the key that is recorded on it. -/
def ToolCall.key (call : ToolCall) : String × String := (call.id, call.approvalID)

/-- A recorded key is built from the identifier, unless the call is old. -/
def Rebuilt (active : Message) (batchID : String) (key : String × String) : Prop :=
  key.1 ∈ active.callIDs ∨ key.2 = resumeApprovalID batchID key.1

structure RecordKeyed (active : Message) (batchID : String) (record : ResumeRecord) : Prop where
  calls : ∀ call ∈ record.recCalls, call.approvalID = resumeApprovalID batchID call.id
  entered : ∀ key ∈ record.message.toolCalls.map ToolCall.key, Rebuilt active batchID key

structure StateKeyed (active : Message) (batchID : String) (state : ResumeState) : Prop where
  tasks : ∀ task ∈ state.tasks, task.dispatchApprovalID = resumeApprovalID batchID task.toolCallID
  current : RecordKeyed active batchID ⟨state.message, state.recCalls, state.recResults⟩
  saved : ∀ record, state.saved = some record → RecordKeyed active batchID record

section Keys

variable {active : Message} {batchID : String} {state : ResumeState} {event : Event}

theorem setStatus_keys (calls : List ToolCall) (position : Option Nat) (status : ToolCallStatus) :
    (setStatus calls position status).map ToolCall.key = calls.map ToolCall.key :=
  map_setStatus _ (fun _ _ => rfl) calls position status

/-- What the loop enters for a call, apart from its fresh identifiers. -/
theorem enterCall_keys (state : ResumeState) (call : ToolCall) :
    (state.enterCall call).saved = state.saved ∧
      ((state.enterCall call).message.toolCalls = state.message.toolCalls ∨
        (state.enterCall call).message.toolCalls =
          state.message.toolCalls ++ [{ call with status := .approved }]) := by
  unfold ResumeState.enterCall
  split
  · exact ⟨rfl, Or.inl rfl⟩
  · dsimp only
    split
    · exact ⟨rfl, Or.inl rfl⟩
    · exact ⟨rfl, Or.inr rfl⟩

theorem agentTask?_key {approvalID task} (made : agentTask? event approvalID = some task) :
    task.toolCallID = event.toolCallID ∧ task.dispatchApprovalID = approvalID := by
  unfold agentTask? at made
  split at made
  · cases made
  · split at made
    · cases made
    · cases made
      exact ⟨rfl, rfl⟩

theorem StateKeyed.toolCall (keyed : StateKeyed active batchID state) :
    StateKeyed active batchID (state.onToolCall event batchID) := by
  let call : ToolCall := ⟨event.toolCallID, event.toolName, event.toolArgs,
    resumeApprovalID batchID event.toolCallID, .unset⟩
  obtain ⟨saved, entered⟩ := enterCall_keys state call
  constructor
  · intro task member
    rcases List.mem_append.mp member with earlier | added
    · exact keyed.tasks task earlier
    · obtain ⟨named, stamped⟩ := agentTask?_key (Option.mem_toList.mp added)
      rw [stamped, named]
  · constructor
    · intro recorded member
      rcases List.mem_append.mp member with earlier | added
      · exact keyed.current.calls recorded earlier
      · rw [List.mem_singleton.mp added]
    · intro key member
      change key ∈ (state.enterCall call).message.toolCalls.map ToolCall.key at member
      rcases entered with same | longer
      · rw [same] at member
        exact keyed.current.entered key member
      · rw [longer, List.map_append] at member
        rcases List.mem_append.mp member with earlier | added
        · exact keyed.current.entered key earlier
        · right
          rw [List.mem_singleton.mp added]
          rfl
  · intro record found
    exact keyed.saved record (saved.symm.trans found)

theorem StateKeyed.step (keyed : StateKeyed active batchID state) (event : Event) :
    StateKeyed active batchID (state.onEvent event batchID) := by
  have ended : ∀ status code, StateKeyed active batchID (state.terminate status code) := by
    intro status code
    refine ⟨keyed.tasks, ⟨keyed.current.calls, keyed.current.entered⟩, ?_⟩
    intro record found
    cases found
    exact ⟨keyed.current.calls, keyed.current.entered⟩
  unfold ResumeState.onEvent
  split
  · exact keyed
  · split
    · exact ⟨keyed.tasks, keyed.current, keyed.saved⟩
    · exact keyed.toolCall
    · exact ⟨keyed.tasks, keyed.current, keyed.saved⟩
    · unfold ResumeState.onToolResult
      split
      · refine ⟨keyed.tasks, ⟨keyed.current.calls, ?_⟩, keyed.saved⟩
        dsimp only
        rw [setStatus_keys]
        exact keyed.current.entered
      · exact keyed
    · refine ⟨keyed.tasks, ⟨keyed.current.calls, ?_⟩, keyed.saved⟩
      dsimp only [ResumeState.onToolRejected]
      rw [setStatus_keys]
      exact keyed.current.entered
    · exact ended ..
    · exact ended ..
    · exact keyed

theorem StateKeyed.start (active : Message) (batchID : String) : StateKeyed active batchID (.start active) where
  tasks _ member := by cases member
  current := by
    constructor
    · intro call member
      cases member
    · intro key member
      obtain ⟨call, listed, rfl⟩ := List.mem_map.mp member
      exact Or.inl (List.mem_map_of_mem listed)
  saved _ found := by cases found

theorem StateKeyed.run (keyed : StateKeyed active batchID state) (events : List Event) :
    StateKeyed active batchID (events.foldl (fun state event => state.onEvent event batchID) state) := by
  induction events generalizing state with
  | nil => exact keyed
  | cons event events ih => exact ih (keyed.step event)

theorem stateKeyed_resumeSSE (active : Message) (batchID : String) (exchange : Exchange) :
    StateKeyed active batchID
      (resumeSSE (fun state event => state.onEvent event batchID) exchange (.start active)).1 := by
  have start := StateKeyed.start active batchID
  cases exchange with
  | responded response =>
    unfold resumeSSE
    dsimp only
    split
    · rename_i answered
      rw [read_fst _ answered]
      exact start.run _
    · exact start
  | _ => exact start

/-- The calls of a new pause are the only pending ones that a resume adds. -/
theorem finishResume_keyed (keyed : StateKeyed active batchID state) {streamErr record}
    (written : (finishResume state streamErr).2 = some record) :
    (∀ call ∈ record.recCalls, call.approvalID = resumeApprovalID batchID call.id) ∧
      ∀ call ∈ record.message.toolCalls, call.status ≠ .pending → Rebuilt active batchID call.key := by
  have plain : ∀ call ∈ state.message.toolCalls, Rebuilt active batchID call.key := by
    intro call member
    exact keyed.current.entered _ (List.mem_map_of_mem member)
  unfold finishResume at written
  split at written
  · rename_i kept found
    cases written
    obtain ⟨calls, entered⟩ := keyed.saved _ found
    refine ⟨calls, ?_⟩
    intro call member _
    exact entered _ (List.mem_map_of_mem member)
  · split at written
    · cases written
    · split at written
      · cases written
        refine ⟨keyed.current.calls, ?_⟩
        intro call member settled
        rcases List.mem_append.mp member with earlier | added
        · exact plain call earlier
        · obtain ⟨waiting, _, rfl⟩ := List.mem_map.mp added
          exact absurd rfl settled
      · cases written
        exact ⟨keyed.current.calls, fun call member _ => plain call member⟩

end Keys

/-- What a resume records for an identifier carries one key. -/
structure RecordsKey (active : Message) (result : ResumeResult) (callID approvalID : String) :
    Prop where
  call : ∀ record, result.record = some record → ∀ call ∈ record.recCalls, call.id = callID →
    call.approvalID = approvalID
  entered : ∀ record, result.record = some record → ∀ call ∈ record.message.toolCalls,
    call.id = callID → callID ∉ active.callIDs → call.status ≠ .pending → call.approvalID = approvalID
  task : ∀ task ∈ result.tasks, task.toolCallID = callID →
    task.dispatchApprovalID = approvalID ∧ (approvalID ≠ "" → ∀ taskID, retryApprovalID taskID task = approvalID)

/-- The recorded key depends on the batch and the identifier only. -/
theorem runResumeStream_recordsKey (messages : Messages) (fails : Bool) (active : Message)
    (batchID : String) (exchange : Exchange) (callID : String) :
    RecordsKey active (runResumeStream messages fails .claimed active batchID exchange) callID
      (resumeApprovalID batchID callID) := by
  have keyed := stateKeyed_resumeSSE active batchID exchange
  let read := resumeSSE (fun (state : ResumeState) event => state.onEvent event batchID) exchange
    (ResumeState.start active)
  let result := runResumeStream messages fails .claimed active batchID exchange
  have stated : result.tasks = read.1.tasks ∧ result.record = (finishResume read.1 read.2).2 := by
    simp only [result, runResumeStream]
    split
    · rename_i missing
      exact ⟨rfl, missing.symm⟩
    · rename_i saved found
      exact ⟨rfl, found.symm⟩
  constructor
  · rintro record found call member rfl
    rw [stated.2] at found
    exact (finishResume_keyed keyed found).1 call member
  · rintro record found call member rfl fresh settled
    rw [stated.2] at found
    exact ((finishResume_keyed keyed found).2 call member settled).resolve_left fresh
  · rintro task member rfl
    rw [stated.1] at member
    have stamped := keyed.tasks task member
    refine ⟨stamped, ?_⟩
    intro named taskID
    rw [← stamped] at named ⊢
    exact if_pos named

/-- Where the approved calls carry identifiers and the automatic ones none, every execution runs
under the recorded key. -/
theorem recorded_key_executed (agent : Agent.Orchestrator) (request : Agent.ResumeRequest)
    (batch : PendingToolCallBatch)
    (named : ∀ call, (Agent.Invocation.resume request batch).Approved agent call → call.callID ≠ "")
    {labels : List (List Agent.Observation)} {last : Agent.Loop}
    (run : Run (Guarded (Agent.Step agent) fun _ seen =>
      (Agent.Invocation.resume request batch).AutomaticUnnamed agent seen)
      (.resume agent request batch) labels last) (messages : Messages) (fails : Bool) (active : Message)
    (arrived : Nat) (failure reportFailure : Option Failure) (toolName : String) (args : Args) (origin : Agent.Origin)
    (executed : .execute toolName args origin ∈ labels.flatten) :
    RecordsKey active (runResumeStream messages fails .claimed active batch.id
        (deliveredStream labels.flatten arrived failure reportFailure)) origin.callID origin.approvalID := by
  obtain ⟨seen, listed, member⟩ := List.mem_flatten.mp executed
  have same : resumeApprovalID batch.id origin.callID = origin.approvalID := by
    rcases Agent.executesKeyed_of_run run seen listed toolName args origin member with
      ⟨blank, unapproved⟩ | ⟨call, approved, rfl⟩
    · rw [blank, unapproved]
      exact if_pos rfl
    · exact if_neg (named call approved)
  rw [← same]
  exact runResumeStream_recordsKey ..

open Agent.Sample Sample

/-- The sample's approved call is recorded under its execution's key. -/
theorem recorded_key_executed_approved :
    let result := runResumeStream stored false .claimed waiting "batch"
      (deliveredStream resumeLabels.flatten 2 none none)
    result.tasks.map AgentTask.dispatchApprovalID = ["batch-call"] ∧
      RecordsKey waiting result "call" "batch-call" := by
  have named : ∀ call, (Agent.Invocation.resume resumeRequest
      approvedBatch).Approved orchestrator call → call.callID ≠ "" := by
    intro call approved
    have only : call = approvedCall := List.mem_singleton.mp approved.member
    rw [only]
    decide
  have silent : ∀ seen ∈ resumeLabels,
      (Agent.Invocation.resume resumeRequest approvedBatch).AutomaticUnnamed orchestrator seen := by
    intro seen listed response member
    simp only [resumeLabels, List.mem_cons, List.not_mem_nil, or_false] at listed
    rcases listed with rfl | rfl | rfl | rfl | rfl | rfl | rfl <;> simp at member
  obtain ⟨last, run⟩ := resume_continues
  constructor
  · decide +kernel
  · exact recorded_key_executed orchestrator resumeRequest
      approvedBatch named (run.guarded silent) stored false waiting 2 none none "google_business__reply_review" ∅
      (.approved "batch-call" approvedCall) (by simp [resumeLabels])

/-- After the approved call the model asks for the automatic tool. -/
def Sample.reviewsCall : Domain.ToolCall := ⟨"reviews", "function", "google_business__get_reviews", ""⟩

def Sample.continuedLabels : List (List Agent.Observation) :=
  resumeLabels ++
    [[.llmReply ⟨"", [reviewsCall], 0, 0⟩], [], [],
      [.send (.toolCall "reviews" "google_business__get_reviews" ∅)], [],
      [.execute "google_business__get_reviews" ∅ (.fresh reviewsCall)]]

theorem Sample.resume_asks :
    ∃ last, Run (Agent.Step orchestrator) (.resume orchestrator resumeRequest approvedBatch)
      continuedLabels last := by
  exact ⟨_, .cons (.dispatchApproved (.spawned (by decide))) <|
    .cons (.worker (@Agent.WorkerStep.announced _ _ _ [] _ _ _ _)) <|
    .cons (.worker (@Agent.WorkerStep.executed _ _ _ [] _ _ _ _)) <|
    .cons (.worker (@Agent.WorkerStep.returned _ _ _ [] _ _ _ _ _ (.value .null) .sent)) <|
    .cons (.dispatchApproved .finished) <| .cons (.dispatchApproved .joined) <|
    .cons (.stepRun (.called (by decide))) <| .cons (.stepRun (.replied _ rfl)) <|
    .cons (.stepRun .spoke) <| .cons (.stepRun (.fannedOut (by decide))) <|
    .cons (.stepRun .announced) <| .cons (.stepRun .started) <|
    .cons (.stepRun (@Agent.StepRun.executed _ _ [] _ _ [] _ _ _)) <| .nil _⟩

/-- An automatic call is executed unapproved, yet recorded under a key. -/
theorem automatic_call_recorded_under_key :
    let result := runResumeStream stored false .claimed waiting "batch"
      (deliveredStream continuedLabels.flatten 3 none none)
    (∃ last, Run (Agent.Step orchestrator) (.resume orchestrator resumeRequest approvedBatch)
      continuedLabels last) ∧
    .execute "google_business__get_reviews" ∅ (.fresh reviewsCall) ∈ continuedLabels.flatten ∧
    result.tasks.map (fun task => (task.toolCallID, task.dispatchApprovalID)) =
      [("call", "batch-call"), ("reviews", "batch-reviews")] ∧
    (∀ task ∈ result.tasks, task.toolCallID = "reviews" → ∀ taskID, retryApprovalID taskID task = "batch-reviews") ∧
    ¬ RecordsKey waiting result "reviews" "" := by
  have tasks : ((runResumeStream stored false .claimed waiting "batch"
      (deliveredStream continuedLabels.flatten 3 none none)).tasks.map
        fun task => (task.toolCallID, task.dispatchApprovalID)) =
      [("call", "batch-call"), ("reviews", "batch-reviews")] := by
    decide +kernel
  have stamped : ∀ task ∈ (runResumeStream stored false .claimed waiting "batch"
      (deliveredStream continuedLabels.flatten 3 none none)).tasks,
      task.toolCallID = "reviews" → task.dispatchApprovalID = "batch-reviews" := by
    intro task member named
    have listed : (task.toolCallID, task.dispatchApprovalID) ∈
        [("call", "batch-call"), ("reviews", "batch-reviews")] := by
      rw [← tasks]
      exact List.mem_map_of_mem member
    simpa [named] using listed
  refine ⟨resume_asks, by simp [continuedLabels], tasks, ?_, ?_⟩
  · intro task member named taskID
    rw [← stamped task member named]
    exact if_pos (by rw [stamped task member named]; decide)
  · intro records
    have listed : ("reviews", "batch-reviews") ∈ [("call", "batch-call"), ("reviews", "batch-reviews")] := by decide
    rw [← tasks] at listed
    obtain ⟨task, member, same⟩ := List.mem_map.mp listed
    have named : task.toolCallID = "reviews" := congrArg Prod.fst same
    have blank := (records.task task member named).1
    rw [stamped task member named] at blank
    exact absurd blank (by decide)

end OneVoice.ChatTurn
