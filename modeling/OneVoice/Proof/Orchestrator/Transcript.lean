/- A turn keeps its transcript well formed. The loop owes one answer for each call of the latest
reply, and a pause carries that debt through the snapshot to its resume. -/

import OneVoice.Construction.Orchestrator.Loop

namespace OneVoice.Agent

open Library Library.Entry Domain List Orchestrator

def callIDs (calls : List ToolCall) : List String := calls.map ToolCall.id

def pendingIDs (calls : List PendingCall) : List String := calls.map PendingCall.callID

def slotIDs (slots : List Slot) : List String := slots.map fun slot => slot.call.id

def workerIDs (workers : List Worker) : List String := workers.map fun worker => worker.call.callID

/-- A reply opens its calls; the offered set only moves them. -/
theorem classify_perm (agent : Orchestrator) (state : RunState) (calls : List ToolCall) :
    ((agent.classify state calls).forbidden ++ (agent.classify state calls).auto ++
      (agent.classify state calls).manual).Perm calls := by
  refine .trans ?_ (Hitl.bucket_perm agent.tools.floor state.businessApprovals state.projectApprovalOverrides calls)
  simp only [classify, enforceOffered]
  generalize Hitl.bucket agent.tools.floor state.businessApprovals state.projectApprovalOverrides calls = buckets
  have auto := filter_append_perm
    (fun call : ToolCall => (offeredToolSet state.availableTools).contains call.name) buckets.auto
  have manual := filter_append_perm
    (fun call : ToolCall => (offeredToolSet state.availableTools).contains call.name) buckets.manual
  refine perm_iff_count.mpr fun call => ?_
  have autoCount := auto.count_eq call
  have manualCount := manual.count_eq call
  simp only [count_append] at autoCount manualCount ⊢
  omega

/-- The calls that wait for an answer; cancellation drops some. -/
def PhaseOwing (loop : Loop) : Phase → Prop
  | .chat => loop.cancelled = false → loop.workers = [] ∧ Owing [] (transcript loop.state.messages)
  | .awaiting _ cancelledAtCall => cancelledAtCall = false →
      loop.workers = [] ∧ Owing [] (transcript loop.state.messages)
  | .speaking response => loop.workers = [] ∧ (callIDs response.toolCalls).Nodup ∧
      Owing [] (transcript loop.state.messages)
  | .rejecting forbidden auto manual => loop.workers = [] ∧
      Owing (callIDs (forbidden ++ auto ++ manual)) (transcript loop.state.messages)
  | .announcing announced unannounced manual => loop.workers = [] ∧
      Owing (callIDs (announced ++ unannounced ++ manual)) (transcript loop.state.messages)
  | .executing slots manual => loop.workers = [] ∧
      Owing (slotIDs slots ++ callIDs manual) (transcript loop.state.messages)
  | .pausing manual => loop.workers = [] ∧ Owing (callIDs manual) (transcript loop.state.messages)
  | .dispatching _ _ rest | .notifying _ _ rest _ => loop.cancelled = false →
      Owing (pendingIDs rest ++ workerIDs loop.workers) (transcript loop.state.messages)
  | .joining _ => loop.cancelled = false → Owing (workerIDs loop.workers) (transcript loop.state.messages)
  | .emitting _ _ | .halted _ => True

def LoopOwing (loop : Loop) : Prop := PhaseOwing loop loop.phase

/-- The snapshot of the batch owes exactly the calls of the batch. -/
def BatchOwing (batch : PendingToolCallBatch) : Prop :=
  ∃ snapshot, decodeSnapshot batch.modelMessages = some snapshot ∧
    Owing (pendingIDs batch.calls) (transcript snapshot.messages)

/-- Every client sends with its context, so a cancelled one fails. -/
def RefusesCancelled (agent : Orchestrator) : Prop := ∀ request response, ¬ agent.llm request true response

/-- The calls of one reply carry distinct ids. -/
def ReplyDistinct : Observation → Prop
  | .llmReply response => (callIDs response.toolCalls).Nodup
  | _ => True

/-- What the transcript argument shows of each observation. -/
def ObservationFormed : Observation → Prop
  | .llmCall request cancelled => cancelled = false → WellFormed (transcript request.messages)
  | .persist batch => BatchOwing batch
  | _ => True

@[simp] theorem transcript_appendMessage (state : RunState) (message : Message) :
    transcript (state.appendMessage message).messages = transcript state.messages ++ transcript [message] :=
  transcript_append _ _

section

variable {agent : Orchestrator}

variable {seen : List Observation} {state : RunState} {first last : Loop} {cancelled : Bool}

variable {manual : List ToolCall} {phase : Phase} {trace : List Observation}

/-- The loop leaves the dispatch with the manual calls as its only debt. -/
theorem owing_afterDispatch (owing : Owing (callIDs manual) (transcript state.messages)) :
    LoopOwing ⟨(afterDispatch state manual).1, (afterDispatch state manual).2, [], cancelled⟩ := by
  unfold afterDispatch
  split
  next none =>
    subst none
    exact fun _ => ⟨rfl, owing⟩
  next => exact ⟨rfl, owing⟩

theorem transcript_appendResults (state : RunState) (results : List (ToolCall × Args × ToolOutcome)) :
    transcript (agent.appendResults state results).messages =
      transcript state.messages ++ (results.map fun result => result.1.id).map Entry.answer := by
  simp only [appendResults, transcript_append]
  simp only [transcript, map_map]
  rfl

/-- The batch of a pause carries the debt of the loop that pauses. -/
theorem batchOwing_buildPendingBatch (owing : Owing (callIDs manual) (transcript state.messages))
    (batchID : String) : BatchOwing (agent.buildPendingBatch batchID state manual) := by
  refine ⟨_, decodeSnapshot_encodeSnapshot state, ?_⟩
  have same : pendingIDs (agent.buildPendingBatch batchID state manual).calls =
      callIDs manual := by
    simp only [pendingIDs, buildPendingBatch, map_map]
    rfl
  rw [same]
  exact owing

theorem StepRun.owing (taken : StepRun agent first seen last) (refuses : RefusesCancelled agent)
    (distinct : ∀ observation ∈ seen, ReplyDistinct observation) (start : LoopOwing first) :
    LoopOwing last ∧ ∀ observation ∈ seen, ObservationFormed observation := by
  cases taken with
  | emitted => exact ⟨trivial, by simp [ObservationFormed]⟩
  | called =>
    refine ⟨start, ?_⟩
    rw [forall_mem_singleton]
    intro live
    rw [chatRequest_transcript]
    exact owing_nil_iff.mp (start live).2
  | @replied _ request cancelledAtCall _ _ response replied =>
    refine ⟨?_, by simp [ObservationFormed]⟩
    have ids : (callIDs response.toolCalls).Nodup := distinct _ mem_cons_self
    have live : cancelledAtCall = false := by
      cases cancelledAtCall with
      | false => rfl
      | true => exact absurd replied (refuses request response)
    obtain ⟨idle, owing⟩ := start live
    unfold LoopOwing afterReply
    split
    · trivial
    · split
      · trivial
      · exact ⟨idle, ids, owing⟩
  | @spoke state response =>
    obtain ⟨idle, ids, owing⟩ := start
    refine ⟨⟨idle, ?_⟩, by split <;> simp [ObservationFormed]⟩
    rw [transcript_appendMessage]
    exact (owing.open ids).perm ((classify_perm agent state response.toolCalls).map _).symm
  | rejected =>
    obtain ⟨idle, owing⟩ := start
    refine ⟨⟨idle, ?_⟩, by simp [ObservationFormed]⟩
    rw [transcript_appendMessage]
    exact owing.answer
  | fannedOut => exact ⟨start, by simp⟩
  | noFanOut =>
    obtain ⟨idle, owing⟩ := start
    subst idle
    exact ⟨owing_afterDispatch owing, by simp⟩
  | announced | started | executed =>
    obtain ⟨idle, owing⟩ := start
    refine ⟨⟨idle, ?_⟩, by simp [ObservationFormed]⟩
    simpa [slotIDs, callIDs, Function.comp_def] using owing
  | returned outcome delivered =>
    obtain ⟨idle, owing⟩ := start
    refine ⟨⟨idle, ?_⟩, by cases delivered <;> simp [ObservationFormed]⟩
    simpa [slotIDs] using owing
  | joined results =>
    obtain ⟨idle, owing⟩ := start
    subst idle
    refine ⟨owing_afterDispatch ?_, by simp⟩
    rw [transcript_appendResults]
    refine Owing.answers ?_
    simpa [slotIDs, Function.comp_def] using owing
  | persisted batchID =>
    refine ⟨trivial, ?_⟩
    rw [forall_mem_singleton]
    exact batchOwing_buildPendingBatch start.2 batchID
  | persistFailed batchID stored =>
    refine ⟨trivial, ?_⟩
    cases stored with
    | false => simp
    | true =>
      rw [if_pos rfl, forall_mem_singleton]
      exact batchOwing_buildPendingBatch start.2 batchID
  | _ => exact ⟨trivial, by simp⟩

theorem DispatchApproved.owing (taken : DispatchApproved agent first seen last) (start : LoopOwing first) :
    LoopOwing last ∧ ∀ observation ∈ seen, ObservationFormed observation := by
  cases taken with
  | broke | notificationCut => exact ⟨fun live => Bool.noConfusion live, by simp [ObservationFormed]⟩
  | refused | replayed =>
    refine ⟨fun live => ?_, by simp⟩
    rw [transcript_appendMessage]
    exact (start live).answer
  | notified => exact ⟨start, by simp [ObservationFormed]⟩
  | @spawned _ _ batch call rest workers =>
    refine ⟨fun live => (start live).perm ?_, by simp⟩
    simp only [workerIDs, map_append, ← append_assoc]
    exact (perm_append_singleton _ _).symm
  | finished => exact ⟨start, by simp⟩
  | joined => exact ⟨fun live => ⟨rfl, start live⟩, by simp [ObservationFormed]⟩

/-- The debt depends on the ids of the workers only. -/
theorem LoopOwing.advance {workers others} (start : LoopOwing ⟨state, phase, workers, cancelled⟩)
    (same : workerIDs others = workerIDs workers) : LoopOwing ⟨state, phase, others, cancelled⟩ := by
  have idle : workers = [] → others = [] := by
    rintro rfl
    simpa [workerIDs] using same
  cases phase with
  | chat | awaiting => exact fun live => ⟨idle (start live).1, (start live).2⟩
  | dispatching | notifying | joining =>
    intro live
    have owing := start live
    rw [← same] at owing
    exact owing
  | emitting | halted => trivial
  | _ => exact ⟨idle start.1, start.2⟩

/-- Workers live while approved calls go out, or after cancellation. -/
theorem LoopOwing.leave {next phase before after worker}
    (start : LoopOwing ⟨state, phase, before ++ worker :: after, cancelled⟩)
    (answered : cancelled = false → transcript next.messages =
      transcript state.messages ++ [.answer worker.call.callID]) :
    LoopOwing ⟨next, phase, before ++ after, cancelled⟩ := by
  have busy : before ++ worker :: after ≠ [] := by simp
  have perm : (workerIDs (before ++ worker :: after)).Perm (worker.call.callID :: workerIDs (before ++ after)) := by
    simp only [workerIDs, map_append]
    exact perm_middle
  cases phase with
  | chat | awaiting => exact fun live => absurd (start live).1 busy
  | dispatching request batch rest | notifying request batch rest event =>
    intro live
    rw [answered live]
    exact (start live).answer_mem ((perm.append_left _).trans perm_middle)
  | joining =>
    intro live
    rw [answered live]
    exact (start live).answer_mem perm
  | emitting | halted => trivial
  | _ => exact absurd start.1 busy

theorem WorkerStep.owing (taken : WorkerStep agent first seen last) (start : LoopOwing first) :
    LoopOwing last ∧ ∀ observation ∈ seen, ObservationFormed observation := by
  cases taken with
  | announced | executed => exact ⟨start.advance (by simp [workerIDs]), by simp [ObservationFormed]⟩
  | cut => exact ⟨start.leave fun live => Bool.noConfusion live, by simp⟩
  | returned outcome delivered | panicked _ delivered =>
    refine ⟨start.leave fun _ => transcript_appendMessage _ _, ?_⟩
    cases delivered <;> simp [ObservationFormed]

theorem LoopOwing.cancel {loop} (start : LoopOwing loop) : LoopOwing { loop with cancelled := true } := by
  obtain ⟨state, phase, workers, cancelled⟩ := loop
  cases phase with
  | chat | dispatching | notifying | joining => exact fun live => Bool.noConfusion live
  | emitting | halted => trivial
  | _ => exact start

/-- A step keeps the loop's debt, and what it emits is well formed. -/
theorem Step.owing (taken : Step agent first seen last) (refuses : RefusesCancelled agent)
    (distinct : ∀ observation ∈ seen, ReplyDistinct observation) (start : LoopOwing first) :
    LoopOwing last ∧ ∀ observation ∈ seen, ObservationFormed observation := by
  cases taken with
  | cancel => exact ⟨start.cancel, by simp⟩
  | panic => exact ⟨trivial, by simp⟩
  | stepRun taken => exact taken.owing refuses distinct start
  | dispatchApproved taken | worker taken => exact taken.owing start

theorem observationFormed_run {labels} (run : Run (Step agent) first labels last)
    (refuses : RefusesCancelled agent) (start : LoopOwing first)
    (distinct : ∀ observation ∈ labels.flatten, ReplyDistinct observation) :
    ∀ observation ∈ labels.flatten, ObservationFormed observation := by
  have guarded : Run (Guarded (Step agent) fun _ seen =>
      ∀ observation ∈ seen, ReplyDistinct observation) first labels last :=
    run.guarded fun seen member observation inside =>
      distinct observation (mem_flatten.mpr ⟨seen, member, inside⟩)
  have formed := guarded.forall_labels (fun _ _ _ taken start => (taken.1.owing refuses taken.2 start).1)
    (fun _ _ _ taken start => (taken.1.owing refuses taken.2 start).2) start
  intro observation member
  obtain ⟨seen, inside, known⟩ := mem_flatten.mp member
  exact formed seen inside observation known

theorem loopOwing_run (request : RunRequest) (formed : WellFormed (transcript request.messages)) :
    LoopOwing (.run agent request) :=
  fun _ => ⟨rfl, owing_nil_iff.mpr formed⟩

theorem Recorded.pendingIDs_eq {persisted stored} (recorded : Recorded persisted stored) :
    pendingIDs stored.calls = pendingIDs persisted.calls := by
  have calls := recorded.calls
  generalize persisted.calls = before, stored.calls = after at calls ⊢
  induction calls with
  | nil => rfl
  | cons same _ ih => exact congrArg₂ cons same.1 ih

/-- A resume takes over the debt of the batch. -/
theorem loopOwing_resume (request : ResumeRequest) {persisted stored}
    (recorded : Recorded persisted stored) (owing : BatchOwing persisted) :
    LoopOwing (.resume agent request stored) := by
  obtain ⟨snapshot, decoded, owing⟩ := owing
  unfold Loop.resume
  rw [recorded.modelMessages, decoded]
  split
  · trivial
  · split
    · trivial
    · intro _
      change Owing (pendingIDs stored.calls ++ []) (transcript snapshot.messages)
      rw [append_nil, recorded.pendingIDs_eq]
      exact owing

/-- Distinct ids over a turn are distinct within each reply. -/
theorem callIDs_nodup_of_replyCallIDs {response}
    (distinct : (replyCallIDs trace).Nodup) (member : .llmReply response ∈ trace) :
    (callIDs response.toolCalls).Nodup := by
  induction trace with
  | nil => cases member
  | cons observation rest ih =>
    rcases mem_cons.mp member with rfl | later
    · exact (nodup_append.mp distinct).1
    · refine ih ?_ later
      cases observation with
      | llmReply => exact (nodup_append.mp distinct).2.1
      | _ => exact distinct

theorem Turn.observationFormed {history} (turn : Turn agent history trace)
    (refuses : RefusesCancelled agent) (formed : WellFormed (transcript history))
    (distinct : ∀ observation ∈ trace, ReplyDistinct observation) :
    ∀ observation ∈ trace, ObservationFormed observation := by
  induction turn with
  | run request same run =>
    subst same
    exact observationFormed_run run refuses (loopOwing_run request formed) distinct
  | resume request persisted stored _ known recorded run ih =>
    rw [forall_mem_append] at distinct ⊢
    have earlier := ih distinct.1
    have owing : BatchOwing persisted := earlier _ known
    exact ⟨earlier, observationFormed_run run refuses (loopOwing_resume request recorded owing) distinct.2⟩

/-- Every request on a live context carries a well-formed transcript. -/
theorem turn_transcript_wellFormed (agent : Orchestrator) (refuses : RefusesCancelled agent)
    (history : List Message) (trace : List Observation) (turn : Turn agent history trace)
    (formed : WellFormed (transcript history)) (distinct : (replyCallIDs trace).Nodup) (request : ChatRequest)
    (called : .llmCall request false ∈ trace) : WellFormed (transcript request.messages) := by
  have replies : ∀ observation ∈ trace, ReplyDistinct observation := by
    intro observation member
    cases observation with
    | llmReply response => exact callIDs_nodup_of_replyCallIDs distinct member
    | _ => trivial
  exact turn.observationFormed refuses formed replies _ called rfl

end

open Sample

theorem Sample.turn_resumes : Turn orchestrator runRequest.messages
    (runLabels.flatten ++ resumeLabels.flatten) := by
  obtain ⟨_, run⟩ := run_pauses
  obtain ⟨_, continued⟩ := resume_continues
  exact .resume resumeRequest batch approvedBatch (.run runRequest rfl run)
    (by simp [runLabels]) ⟨rfl, rfl, rfl, .cons ⟨rfl, rfl, rfl⟩ .nil⟩ continued

theorem Sample.history_wellFormed : WellFormed (transcript runRequest.messages) where
  answered before ids after equal := by
    rcases append_eq_singleton_iff.mp equal.symm with ⟨_, same⟩ | ⟨_, same⟩ <;> cases same
  anchored before id after equal := by
    rcases append_eq_singleton_iff.mp equal.symm with ⟨_, same⟩ | ⟨_, same⟩ <;> cases same

/-- The request after the sample's approved call answers it. -/
theorem turn_transcript_wellFormed_resumed : WellFormed (transcript answeredRequest.messages) :=
  turn_transcript_wellFormed orchestrator (fun _ _ replied => Bool.noConfusion replied)
    runRequest.messages _ turn_resumes history_wellFormed (by decide)
    answeredRequest (by simp [runLabels, resumeLabels])

end OneVoice.Agent
