/- A batch is marked resolved on a live context only after each of its calls is settled. A call
waits its turn, is carried by a goroutine or has its answer. -/

import OneVoice.Construction.Orchestrator.Loop

namespace OneVoice.Agent

open Library Domain List Orchestrator

/-- The execution of an approved call under its approval id. -/
def executionOf (batchID : String) (call : PendingCall) : Observation :=
  .execute call.toolName (approvedArgs call) (.approved (approvalIDOf batchID call.callID) call)

/-- A call was executed, is with a goroutine, or waits its turn. -/
inductive Carried (batchID : String) (trace : List Observation) (rest : List PendingCall)
    (workers : List Worker) (call : PendingCall) : Prop
  | executed : executionOf batchID call ∈ trace → Carried batchID trace rest workers call
  | worker (status : WorkerStatus) : ⟨batchID, call, status⟩ ∈ workers → status ≠ .running →
      Carried batchID trace rest workers call
  | waiting : call ∈ rest → Carried batchID trace rest workers call

/-- The messages after the snapshot answer the calls that have left. -/
structure Settling (agent : Orchestrator) (request : ResumeRequest)
    (batch : PendingToolCallBatch) (start : RunState) (trace : List Observation)
    (state : RunState) (rest : List PendingCall) (workers : List Worker) : Prop where
  tools : state.availableTools = start.availableTools
  snapshot : ∃ snapshot, decodeSnapshot batch.modelMessages = some snapshot ∧ start.messages = snapshot.messages
  answers : ∃ answers, state.messages = start.messages ++ answers ∧ (∀ message ∈ answers, message.role = .tool) ∧
    (answers.map Message.toolCallID ++ workers.map (fun worker => worker.call.callID) ++
      rest.map PendingCall.callID).Perm (batch.calls.map PendingCall.callID)
  carried : ∀ call ∈ batch.calls, agent.disposition request start call = .dispatch →
    Carried batch.id trace rest workers call
  owned : ∀ worker ∈ workers, worker.batchID = batch.id

/-- The dispatch settles the calls of its batch. Outside it nothing is claimed. -/
def PhaseSettling (agent : Orchestrator) (request : ResumeRequest) (batch : PendingToolCallBatch)
    (start : RunState) (trace : List Observation) (state : RunState) (workers : List Worker) : Phase → Prop
  | .dispatching own resumed rest | .notifying own resumed rest _ =>
    own = request ∧ resumed = batch ∧ Settling agent request batch start trace state rest workers
  | .joining id => id = batch.id ∧ Settling agent request batch start trace state [] workers
  | _ => True

def LoopSettling (agent : Orchestrator) (request : ResumeRequest)
    (batch : PendingToolCallBatch) (start : RunState) (trace : List Observation) (loop : Loop) : Prop :=
  loop.cancelled = false → PhaseSettling agent request batch start trace loop.state loop.workers loop.phase

section

variable {agent : Orchestrator} {request : ResumeRequest} {batch : PendingToolCallBatch}
  {start state : RunState} {trace seen : List Observation} {rest : List PendingCall}
  {workers before after : List Worker} {call : PendingCall} {first last : Loop}

theorem disposition_congr (tools : state.availableTools = start.availableTools) (call : PendingCall) :
    agent.disposition request state call = agent.disposition request start call := by
  unfold disposition
  rw [tools]

theorem Carried.mono (carried : Carried batch.id trace rest workers call) :
    Carried batch.id (trace ++ seen) rest workers call := by
  cases carried with
  | executed known => exact .executed (mem_append_left _ known)
  | worker status member idle => exact .worker status member idle
  | waiting member => exact .waiting member

/-- A longer trace keeps what is settled. -/
theorem Settling.mono (settling : Settling agent request batch start trace state rest workers) :
    Settling agent request batch start (trace ++ seen) state rest workers := { settling with
  carried known member dispatched := (settling.carried known member dispatched).mono }

/-- A call that is refused or replayed is answered in its turn. -/
theorem Settling.answer (settling : Settling agent request batch start trace state (call :: rest) workers)
    (kept : agent.disposition request state call ≠ .dispatch) (content : String) :
    Settling agent request batch start trace
      (state.appendMessage (toolMessage call.callID content)) rest workers := { settling with
  answers := by
    obtain ⟨answers, grown, roles, perm⟩ := settling.answers
    refine ⟨answers ++ [toolMessage call.callID content], ?_, ?_, ?_⟩
    · rw [RunState.appendMessage, grown, append_assoc]
    · rw [forall_mem_append, forall_mem_singleton]
      exact ⟨roles, rfl⟩
    · refine List.Perm.trans ?_ perm
      rw [map_append, append_assoc, append_assoc, append_assoc]
      apply List.Perm.append_left
      show (call.callID :: (workers.map _ ++ rest.map _)).Perm _
      exact perm_middle.symm
  carried known member dispatched := by
    cases settling.carried known member dispatched with
    | executed done => exact .executed done
    | worker status member idle => exact .worker status member idle
    | waiting waits =>
      rcases mem_cons.mp waits with rfl | waits
      · rw [disposition_congr settling.tools] at kept
        exact absurd dispatched kept
      · exact .waiting waits }

theorem Settling.spawn (settling : Settling agent request batch start trace state (call :: rest) workers) :
    Settling agent request batch start trace state rest (workers ++ [⟨batch.id, call, .spawned⟩]) := { settling with
  answers := by
    obtain ⟨answers, grown, roles, perm⟩ := settling.answers
    refine ⟨answers, grown, roles, ?_⟩
    rw [map_append, append_assoc, append_assoc]
    rw [append_assoc] at perm
    exact perm
  carried known member dispatched := by
    cases settling.carried known member dispatched with
    | executed done => exact .executed done
    | worker status member idle => exact .worker status (mem_append_left _ member) idle
    | waiting waits =>
      rcases mem_cons.mp waits with rfl | waits
      · exact .worker .spawned (by simp) (by decide)
      · exact .waiting waits
  owned := by
    rw [forall_mem_append, forall_mem_singleton]
    exact ⟨settling.owned, rfl⟩ }

variable {labels : List (List Observation)} {worker : Worker} (other : RunState)

/-- A goroutine moves on with its call, whose execution is observed. -/
theorem Settling.advance {status}
    (settling : Settling agent request batch start trace state rest (before ++ worker :: after))
    (runs : status = .running → executionOf batch.id worker.call ∈ seen) :
    Settling agent request batch start (trace ++ seen) state rest
      (before ++ { worker with status := status } :: after) := { settling with
  answers := by
    obtain ⟨answers, grown, roles, perm⟩ := settling.answers
    refine ⟨answers, grown, roles, ?_⟩
    simpa only [map_append, map_cons] using perm
  carried known member dispatched := by
    cases settling.carried known member dispatched with
    | executed done => exact .executed (mem_append_left _ done)
    | waiting waits => exact .waiting waits
    | worker old member idle =>
      rw [mem_append, mem_cons] at member
      rcases member with earlier | here | later
      · exact .worker old (mem_append_left _ earlier) idle
      · subst here
        by_cases running : status = .running
        · exact .executed (mem_append_right _ (runs running))
        · exact .worker status (by simp) running
      · refine .worker old ?_ idle
        simp [later]
  owned := by
    have owned := settling.owned
    rw [forall_mem_append, forall_mem_cons] at owned ⊢
    exact owned }

/-- A goroutine that has run its tool leaves its answer. -/
theorem Settling.leave (settling : Settling agent request batch start trace state rest (before ++ worker :: after))
    (ran : worker.status = .running) (content : String) :
    Settling agent request batch start trace
      (state.appendMessage (toolMessage worker.call.callID content)) rest (before ++ after) := { settling with
  answers := by
    obtain ⟨answers, grown, roles, perm⟩ := settling.answers
    refine ⟨answers ++ [toolMessage worker.call.callID content], ?_, ?_, ?_⟩
    · rw [RunState.appendMessage, grown, append_assoc]
    · rw [forall_mem_append, forall_mem_singleton]
      exact ⟨roles, rfl⟩
    · refine List.Perm.trans ?_ perm
      apply List.Perm.append_right
      rw [map_append, append_assoc, map_append, map_append]
      apply List.Perm.append_left
      show (worker.call.callID :: (before.map _ ++ after.map _)).Perm
        (before.map _ ++ worker.call.callID :: after.map _)
      exact perm_middle.symm
  carried known member dispatched := by
    cases settling.carried known member dispatched with
    | executed done => exact .executed done
    | waiting waits => exact .waiting waits
    | worker old member idle =>
      rw [mem_append, mem_cons] at member
      rcases member with earlier | here | later
      · exact .worker old (mem_append_left _ earlier) idle
      · subst here
        exact absurd ran idle
      · exact .worker old (mem_append_right _ later) idle
  owned := by
    have owned := settling.owned
    rw [forall_mem_append, forall_mem_cons] at owned
    rw [forall_mem_append]
    exact ⟨owned.1, owned.2.2⟩ }

theorem phaseSettling_afterReply (response : ChatResponse) :
    PhaseSettling agent request batch start trace state workers (agent.afterReply other response) := by
  unfold afterReply
  split
  · trivial
  · split <;> trivial

theorem phaseSettling_afterDispatch (manual : List ToolCall) :
    PhaseSettling agent request batch start trace state workers (afterDispatch other manual).2 := by
  unfold afterDispatch
  split <;> trivial

theorem settling_stepRun (taken : StepRun agent first seen last) :
    LoopSettling agent request batch start trace last := by
  intro _
  cases taken with
  | replied response => exact phaseSettling_afterReply _ response
  | noFanOut | joined => exact phaseSettling_afterDispatch _ _
  | _ => trivial

theorem settling_dispatchApproved (taken : DispatchApproved agent first seen last)
    (settling : LoopSettling agent request batch start trace first) :
    LoopSettling agent request batch start (trace ++ seen) last := by
  intro live
  cases taken with
  | broke | notificationCut => cases live
  | refused decided | replayed decided =>
    obtain ⟨rfl, rfl, settling⟩ := settling rfl
    refine ⟨rfl, rfl, (settling.answer ?_ _).mono⟩
    simp [decided]
  | notified =>
    obtain ⟨rfl, rfl, settling⟩ := settling live
    exact ⟨rfl, rfl, settling.mono⟩
  | spawned =>
    obtain ⟨rfl, rfl, settling⟩ := settling rfl
    exact ⟨rfl, rfl, settling.spawn.mono⟩
  | finished =>
    obtain ⟨rfl, rfl, settling⟩ := settling live
    exact ⟨rfl, settling.mono⟩
  | joined => trivial

/-- What a goroutine does to settled calls holds in each phase. -/
theorem LoopSettling.work {next phase others cancelled}
    (settling : LoopSettling agent request batch start trace ⟨state, phase, workers, cancelled⟩)
    (worked : ∀ rest, cancelled = false → phase.active = true →
      Settling agent request batch start trace state rest workers →
      Settling agent request batch start (trace ++ seen) next rest others) :
    LoopSettling agent request batch start (trace ++ seen) ⟨next, phase, others, cancelled⟩ := by
  intro live
  have before := settling live
  cases phase with
  | dispatching | notifying =>
    obtain ⟨own, resumed, before⟩ := before
    exact ⟨own, resumed, worked _ live rfl before⟩
  | joining =>
    obtain ⟨own, before⟩ := before
    exact ⟨own, worked _ live rfl before⟩
  | _ => trivial

theorem settling_worker (taken : WorkerStep agent first seen last)
    (settling : LoopSettling agent request batch start trace first) :
    LoopSettling agent request batch start (trace ++ seen) last := by
  cases taken with
  | announced =>
    apply settling.work
    intro rest _ _ before
    exact before.advance nofun
  | cut =>
    intro live
    cases live
  | @executed state phase earlier batchID call later =>
    apply settling.work
    intro rest _ _ before
    have named : batchID = batch.id := before.owned ⟨batchID, call, .announced⟩ (by simp)
    subst named
    exact before.advance fun _ => mem_singleton_self _
  | returned outcome =>
    apply settling.work
    intro rest _ _ before
    exact (before.leave rfl _).mono
  | panicked cause =>
    apply settling.work
    intro rest live active before
    have ran := cause.resolve_right (by simp [live, active])
    exact (before.leave ran _).mono

theorem settling_step (taken : Step agent first seen last)
    (settling : LoopSettling agent request batch start trace first) :
    LoopSettling agent request batch start (trace ++ seen) last := by
  cases taken with
  | cancel =>
    intro live
    cases live
  | panic => exact fun _ => trivial
  | stepRun taken => exact settling_stepRun taken
  | dispatchApproved taken => exact settling_dispatchApproved taken settling
  | worker taken => exact settling_worker taken settling

/-- A resume that reaches its calls starts with all of them waiting. -/
theorem settling_resume (agent : Orchestrator) (request : ResumeRequest) (batch : PendingToolCallBatch) :
    LoopSettling agent request batch (Loop.resume agent request batch).state [] (.resume agent request batch) := by
  unfold Loop.resume
  intro _
  split
  · trivial
  · split
    · trivial
    · cases decoded : decodeSnapshot batch.modelMessages with
      | none => trivial
      | some snapshot =>
        refine ⟨rfl, rfl, rfl, ⟨snapshot, decoded, rfl⟩, ⟨[], by simp⟩, ?_, by simp⟩
        exact fun call member _ => .waiting member

theorem settling_run (run : Run (Step agent) (.resume agent request batch) labels last) :
    LoopSettling agent request batch (Loop.resume agent request batch).state labels.flatten last :=
  run.flattened (fun _ _ _ _ taken settling => settling_step taken settling) (settling_resume agent request batch)

/-- The step that marks a live batch resolved joins the dispatch. -/
theorem joins_of_markResolved (taken : Step agent first seen last)
    (live : first.cancelled = false) {id} (resolved : .markResolved id ∈ seen) :
    first.phase = .joining id ∧ first.workers = [] ∧ last.state = first.state := by
  cases taken with
  | cancel | panic => cases resolved
  | stepRun taken =>
    cases taken with
    | spoke | persistFailed _ stored => split at resolved <;> simp at resolved
    | returned _ delivered => cases delivered <;> simp at resolved
    | _ => simp at resolved
  | dispatchApproved taken =>
    cases taken with
    | joined =>
      cases mem_singleton.mp resolved
      exact ⟨rfl, rfl, rfl⟩
    | notificationCut => cases live
    | _ => simp at resolved
  | worker taken =>
    cases taken with
    | returned _ delivered | panicked _ delivered => cases delivered <;> simp at resolved
    | _ => simp at resolved

/-- A batch is marked resolved on a live context, when each call has its answer and each approved
one that passed was executed or marked before. -/
theorem resolved_batch_settled (agent : Orchestrator) (request : ResumeRequest) (batch : PendingToolCallBatch)
    {labels : List (List Observation)} (run : Run (Step agent) (.resume agent request batch) labels first)
    (taken : Step agent first seen last) (live : first.cancelled = false) {id : String}
    (resolved : .markResolved id ∈ seen) :
    id = batch.id ∧ (∃ snapshot answers, decodeSnapshot batch.modelMessages = some snapshot ∧
        last.state.messages = snapshot.messages ++ answers ∧ (∀ message ∈ answers, message.role = .tool) ∧
        (answers.map Message.toolCallID).Perm (batch.calls.map PendingCall.callID)) ∧
      ∀ call ∈ batch.calls, call.verdict = .approve ∨ call.verdict = .edit →
        call.toolName ∈ offeredToolSet last.state.availableTools →
        Hitl.resolve (agent.tools.floor call.toolName) request.businessApprovals
          request.projectApprovalOverrides call.toolName ≠ .forbidden →
        call.dispatched = true ∨ executionOf batch.id call ∈ labels.flatten := by
  obtain ⟨joining, idle, same⟩ := joins_of_markResolved taken live resolved
  have settling := settling_run run live
  rw [joining] at settling
  obtain ⟨named, settling⟩ := settling
  rw [idle] at settling
  rw [same]
  refine ⟨named, ?_, ?_⟩
  · obtain ⟨snapshot, decoded, begun⟩ := settling.snapshot
    obtain ⟨answers, grown, roles, perm⟩ := settling.answers
    rw [begun] at grown
    rw [map_nil, append_nil, map_nil, append_nil] at perm
    exact ⟨snapshot, answers, decoded, grown, roles, perm⟩
  · intro call member approved offered permitted
    by_cases dispatched : call.dispatched = true
    · exact .inl dispatched
    · right
      have decided : agent.disposition request first.state call = .dispatch := by
        have judged : ¬ (call.verdict ≠ .approve ∧ call.verdict ≠ .edit) := by tauto
        unfold disposition
        rw [if_neg judged, if_neg (not_not_intro offered), if_neg permitted, if_neg dispatched]
      rw [disposition_congr settling.tools] at decided
      cases settling.carried call member decided with
      | executed done => exact done
      | worker _ member | waiting member => cases member

end

open Sample

/-- The sample resume runs its approved call and joins. -/
theorem Sample.resume_joins :
    ∃ first last, Run (Step orchestrator) (.resume orchestrator resumeRequest approvedBatch)
        (resumeLabels.take 5) first ∧
      Step orchestrator first [.markResolved "batch"] last ∧ first.cancelled = false ∧
      last.state.availableTools = resumed.state.availableTools := by
  exact ⟨_, _, .cons (.dispatchApproved (.spawned (by decide))) <|
    .cons (.worker (@WorkerStep.announced _ _ _ [] _ _ _ _)) <|
    .cons (.worker (@WorkerStep.executed _ _ _ [] _ _ _ _)) <|
    .cons (.worker (@WorkerStep.returned _ _ _ [] _ _ _ _ _ (.value .null) .sent)) <|
    .cons (.dispatchApproved .finished) <| .nil _, .dispatchApproved .joined, rfl, rfl⟩

/-- The sample's approved call is executed before the batch resolves. -/
theorem resolved_batch_settled_sample :
    approvedCall.dispatched = true ∨ executionOf "batch" approvedCall ∈ (resumeLabels.take 5).flatten := by
  obtain ⟨first, last, run, taken, live, tools⟩ := resume_joins
  have settled := resolved_batch_settled orchestrator resumeRequest
    approvedBatch run taken live (mem_singleton_self _)
  apply settled.2.2 approvedCall (mem_singleton_self _) (.inl rfl)
  · rw [tools]
    decide
  · decide

end OneVoice.Agent
