import OneVoice.Construction.Orchestrator.Loop

namespace OneVoice.Agent

open Library Domain Orchestrator WorkerStep

section

variable {agent : Orchestrator}

/-- A resume works through any part of the batch on a live context. -/
theorem dispatching_passes (agent : Orchestrator) (request : ResumeRequest) (batch : PendingToolCallBatch)
    (before rest : List PendingCall) (state : RunState) :
    ∃ labels messages, Run (Step agent) ⟨state, .dispatching request batch (before ++ rest), [], false⟩ labels
      ⟨{ state with messages := messages }, .dispatching request batch rest, [], false⟩ := by
  induction before generalizing state with
  | nil => exact ⟨[], state.messages, .nil _⟩
  | cons call before ih =>
    cases decided : agent.disposition request state call with
    | refuse source reason note =>
      obtain ⟨labels, messages, run⟩ := ih (state.appendMessage (toolMessage call.callID
          (agent.buildRejectionMessage source reason note)))
      exact ⟨_, messages, .cons (.dispatchApproved (.refused decided)) <| .cons (.dispatchApproved .notified) run⟩
    | replay =>
      obtain ⟨labels, messages, run⟩ := ih (state.appendMessage (toolMessage call.callID dispatchedContent))
      exact ⟨_, messages, .cons (.dispatchApproved (.replayed decided)) run⟩
    | dispatch =>
      obtain ⟨labels, messages, run⟩ := ih (state.appendMessage
        (toolMessage call.callID (agent.approvedContent .panicked)))
      exact ⟨_, messages, .cons (.dispatchApproved (.spawned decided)) <|
        .cons (.worker (@announced _ _ _ [] _ _ [] _)) <|
        .cons (.worker (@executed _ _ _ [] _ _ [] _)) <|
        .cons (.worker (@panicked _ _ _ [] _ [] _ _ (.inl rfl) .sent)) run⟩

/-- A call that the resume dispatches is executed in some run. -/
theorem dispatched_call_executes (agent : Orchestrator) (request : ResumeRequest) (batch : PendingToolCallBatch)
    (before after : List PendingCall) (call : PendingCall) (state : RunState)
    (dispatched : ∀ messages, agent.disposition request { state with messages := messages } call = .dispatch) :
    ∃ labels last, Run (Step agent)
        ⟨state, .dispatching request batch (before ++ call :: after), [], false⟩ labels last ∧
      .execute call.toolName (approvedArgs call)
        (.approved (approvalIDOf batch.id call.callID) call) ∈ labels.flatten := by
  obtain ⟨labels, messages, run⟩ := dispatching_passes agent request batch before (call :: after) state
  have tail : ∃ last, Run (Step agent)
      ⟨{ state with messages := messages }, .dispatching request batch (call :: after), [], false⟩
      [[], [.send (.toolCall call.callID call.toolName (approvedArgs call))],
        [.execute call.toolName (approvedArgs call) (.approved (approvalIDOf batch.id call.callID) call)]] last :=
    ⟨_, .cons (.dispatchApproved (.spawned (dispatched messages))) <|
      .cons (.worker (@announced _ _ _ [] _ _ [] _)) <|
      .cons (.worker (@executed _ _ _ [] _ _ [] _)) <| .nil _⟩
  obtain ⟨last, continued⟩ := tail
  refine ⟨_, last, run.append continued, ?_⟩
  simp

/-- An automatic tool that is offered is executed when asked for. -/
theorem automatic_tool_executes (agent : Orchestrator) (state : RunState) (toolName : String)
    (replies : ∀ request response, agent.llm request false response)
    (inputFree : agent.conversationInputCap = 0) (outputFree : agent.conversationOutputCap = 0)
    (room : state.iter < agent.maxIterations) (offered : toolName ∈ offeredToolSet state.availableTools)
    (automatic : Hitl.resolve (agent.tools.floor toolName) state.businessApprovals
      state.projectApprovalOverrides toolName = .auto) :
    ∃ labels last args call, Run (Step agent) ⟨state, .chat, [], false⟩ labels last ∧
      .execute toolName args (.fresh call) ∈ labels.flatten := by
  let call : ToolCall := ⟨"call", "function", toolName, ""⟩
  let response : ChatResponse := ⟨"", [call], 0, 0⟩
  -- A loop without token caps goes on to the calls of a reply.
  have speaking : agent.afterReply (state.accumulate response) response = .speaking response := by
    simp [afterReply, capped, inputFree, outputFree, response]
  have asked : Run (Step agent) ⟨state, .chat, [], false⟩
      [[.llmCall (agent.chatRequest state) false], [.llmReply response]]
      ⟨state.accumulate response, .speaking response, [], false⟩ := by
    rw [← speaking]
    exact .cons (.stepRun (.called room)) <| .cons (.stepRun (.replied response (replies _ _))) <| .nil _
  have spoken := @StepRun.spoke agent (state.accumulate response) response [] false
  have classified : agent.classify (state.accumulate response) response.toolCalls = ⟨[call], [], []⟩ := by
    simp [classify, Hitl.bucket, RunState.accumulate, response, call, automatic, enforceOffered, offered]
  rw [classified] at spoken
  have run := asked.append (.cons (.stepRun spoken) <| .cons (.stepRun (.fannedOut (by simp))) <|
    .cons (.stepRun .announced) <| .cons (.stepRun .started) <|
    .cons (.stepRun (@StepRun.executed _ _ [] call _ [] _ _ _)) <| .nil _)
  refine ⟨_, _, agent.parseToolArgs "", call, run, ?_⟩
  simp only [List.flatten_append]
  simp [call]

/-- A live batch that passes its calls reaches the next model call. -/
theorem resumed_reaches_chat (agent : Orchestrator) (request : ResumeRequest)
    (batch : PendingToolCallBatch) (calls : List PendingCall) (state : RunState) :
    ∃ labels messages, Run (Step agent) ⟨state, .dispatching request batch calls, [], false⟩ labels
      ⟨{ state with messages := messages }, .chat, [], false⟩ := by
  obtain ⟨labels, messages, run⟩ := dispatching_passes agent request batch calls [] state
  rw [List.append_nil] at run
  exact ⟨_, messages, run.append <| .cons (.dispatchApproved .finished) <|
    .cons (.dispatchApproved .joined) <| .nil _⟩

end

end OneVoice.Agent
