import OneVoice.Proof.Orchestrator.Reachability
import OneVoice.Proof.Resume.Bodies

namespace OneVoice.Agent

open Library Domain

section

variable {agent : Orchestrator} {first last : Loop} {seen : List Observation}
variable {request : ChatRequest} {cancelled : Bool}

variable (state : RunState)

/-- The model and the tier of the calls that a state makes. -/
def RunState.routing : String × String := (state.model, state.tier)

/-- The redaction leaves the model and the tier of a request alone. -/
theorem routing_chatRequest :
    ((agent.chatRequest state).model, (agent.chatRequest state).tier) = state.routing := by
  unfold Orchestrator.chatRequest Orchestrator.applyOutboundRedaction
  split <;> rfl

theorem routing_afterDispatch (manual : List ToolCall) :
    (afterDispatch state manual).1.routing = state.routing := by
  unfold afterDispatch
  split <;> rfl

theorem StepRun.routing_eq (taken : StepRun agent first seen last) : last.state.routing = first.state.routing := by
  cases taken with
  | noFanOut | joined => exact routing_afterDispatch _ _
  | _ => rfl

/-- Only `stepRun` calls the model, with the request of its state. -/
theorem StepRun.called_eq (taken : StepRun agent first seen last)
    (called : .llmCall request cancelled ∈ seen) : request = agent.chatRequest first.state := by
  cases taken with
  | called =>
    simp only [List.mem_singleton, Observation.llmCall.injEq] at called
    exact called.1
  | spoke => split at called <;> simp at called
  | returned outcome delivered => cases delivered <;> simp at called
  | persistFailed batchID stored => cases stored <;> simp at called
  | _ => simp at called

/-- A step keeps the model and the tier, and a call of the model has them. -/
theorem Step.routed (taken : Step agent first seen last) :
    last.state.routing = first.state.routing ∧ ∀ request cancelled, .llmCall request cancelled ∈ seen →
        (request.model, request.tier) = first.state.routing := by
  cases taken with
  | cancel | panic => exact ⟨rfl, by simp⟩
  | stepRun taken =>
    refine ⟨taken.routing_eq, fun request cancelled called => ?_⟩
    rw [taken.called_eq called, routing_chatRequest]
  | dispatchApproved taken => cases taken <;> exact ⟨rfl, by simp⟩
  | worker taken =>
    cases taken with
    | returned outcome delivered | panicked fails delivered =>
      exact ⟨rfl, by cases delivered <;> simp⟩
    | _ => exact ⟨rfl, by simp⟩

theorem routing_of_run {labels} (run : Run (Step agent) first labels last)
    (called : .llmCall request cancelled ∈ labels.flatten) :
    (request.model, request.tier) = first.state.routing := by
  obtain ⟨seen, label, member⟩ := List.mem_flatten.mp called
  have kept : ∀ loop labels next, Step agent loop labels next →
      loop.state.routing = first.state.routing → next.state.routing = first.state.routing :=
    fun _ _ _ taken same => taken.routed.1.trans same
  have routed : ∀ seen ∈ labels, ∀ request cancelled, .llmCall request cancelled ∈ seen →
      (request.model, request.tier) = first.state.routing :=
    run.forall_labels kept (fun _ _ _ taken same => same ▸ taken.routed.2) rfl
  exact routed seen label request cancelled member

theorem routing_resume (agent : Orchestrator) (request : ResumeRequest) (batch : PendingToolCallBatch) :
    (Loop.resume agent request batch).state.routing = (request.model, request.tier) := by
  unfold Loop.resume
  split
  · rfl
  · split
    · rfl
    · split <;> rfl

end

end OneVoice.Agent

namespace OneVoice.Resume

open Library Domain Agent

/-- A body without the two fields is read with neither a model nor a tier. -/
theorem decodeResumeBody_unrouted {fields decoded}
    (noModel : Json.field? "model" fields = none) (noTier : Json.field? "tier" fields = none)
    (decodes : decodeResumeBody (.obj fields) = some decoded) : decoded.model = "" ∧ decoded.tier = "" := by
  simp only [decodeResumeBody, Json.decodeField, noModel, noTier, Option.bind_eq_bind,
    Option.bind_eq_some_iff, Option.bind_some, Option.some.injEq] at decodes
  obtain ⟨_, _, _, _, _, _, _, _, _, _, rfl⟩ := decodes
  exact ⟨rfl, rfl⟩

/-- A default for absent texts gives itself for these and for its own text. -/
theorem eq_default_iff (text default : String) :
    (default = if text = "" then default else text) ↔ text = "" ∨ text = default := by
  by_cases absent : text = ""
  · simp only [absent, if_true, true_or]
  · rw [if_neg absent, or_iff_right absent]
    exact eq_comm

section

variable {UUID : Type} [DecidableEq UUID] [UUIDFormat UUID] {db : Database UUID}
variable {entry : EntryPoint UUID}

/-- No path sends a model or a tier. -/
theorem readResumeBody_unrouted {batch business} :
    (readResumeBody (some (entry.body db batch business))).model = "" ∧
      (readResumeBody (some (entry.body db batch business))).tier = "" := by
  obtain ⟨decoded, decodes, -⟩ := entry.decode_body db batch business
  simp only [readResumeBody, decodes]
  split
  · unfold EntryPoint.body at decodes
    split at decodes <;> exact decodeResumeBody_unrouted rfl rfl decodes
  · exact ⟨rfl, rfl⟩

/-- A model call of a fresh turn that has paused, and one of its continuation by a path. -/
inductive Continued (agent : Orchestrator) (defaultModel : String) (db : Database UUID)
    (entry : EntryPoint UUID) (fresh : RunRequest) : ChatRequest → ChatRequest → Prop
  | resumed {asked next cancelled aborted business persisted stored sent locale before paused after last} :
      Run (Step agent) (.run agent fresh) before paused →
      .llmCall asked cancelled ∈ before.flatten → .persist persisted ∈ before.flatten →
      Recorded persisted stored → LookupsSucceed db stored business →
      entry.send db stored = .ok sent →
      Run (Step agent) (.resume agent
        (resumeRequest locale defaultModel stored.id (readResumeBody sent)) stored) after last →
      .llmCall next aborted ∈ after.flatten →
      Continued agent defaultModel db entry fresh asked next

variable {agent : Orchestrator} {defaultModel : String} {asked next : ChatRequest}

/-- The continuation calls the default model and sends no tier. -/
theorem Continued.routing {fresh} (continued : Continued agent defaultModel db entry fresh asked next) :
    (asked.model = fresh.model ∧ asked.tier = fresh.tier) ∧ next.model = defaultModel ∧ next.tier = "" := by
  cases continued with
  | resumed runs asks paused recorded lookups sends resumes asksAgain =>
    obtain rfl := entry.send_body lookups sends
    have routed := routing_of_run resumes asksAgain
    rw [routing_resume] at routed
    simp only [resumeRequest, readResumeBody_unrouted] at routed
    exact ⟨Prod.mk.inj (routing_of_run runs asks), Prod.mk.inj routed⟩

/-- A pause keeps model and tier just where the turn has those that a resume falls back to. -/
theorem pause_keeps_model_and_tier_iff {rateLimitTier : Option (UUID → String)} {businessID : UUID}
    {request : RunRequest} (continued : Continued agent defaultModel db entry (ChatHandler.chat defaultModel
      (Turn.buildOrchestratorRequest rateLimitTier businessID request)) asked next) :
    next.model = asked.model ∧ tierFromRequest next = tierFromRequest asked ↔
      (request.model = "" ∨ request.model = defaultModel) ∧
        ∀ resolve ∈ rateLimitTier, resolve businessID = "" ∨ resolve businessID = "free" := by
  obtain ⟨⟨model, tier⟩, nextModel, nextTier⟩ := continued.routing
  have models : next.model = asked.model ↔ request.model = "" ∨ request.model = defaultModel := by
    rw [nextModel, model]
    exact eq_default_iff request.model defaultModel
  have tiers : tierFromRequest next = tierFromRequest asked ↔
      ∀ resolve ∈ rateLimitTier, resolve businessID = "" ∨ resolve businessID = "free" := by
    simp only [tierFromRequest, nextTier, tier]
    cases rateLimitTier with
    | none => simp [ChatHandler.chat, Turn.buildOrchestratorRequest]
    | some resolve =>
      simp only [Option.mem_def, Option.some.injEq, forall_eq']
      exact eq_default_iff (resolve businessID) "free"
  exact and_congr models tiers

end

namespace Sample

open Agent.Sample

/-- The calls of the sample's turn under a model and a tier, and of its continuation. -/
abbrev ContinuedUnder (model tier : String) : ChatRequest → ChatRequest → Prop :=
  Continued orchestrator "model" (database "google_business" none)
    (.httpResume () "conversation") (ChatHandler.chat "model" (Turn.buildOrchestratorRequest
      (some fun _ => tier) () { runRequest with model := model }))

theorem approvedBatch_calls (request : ResumeRequest) :
    ∃ labels last next, Run (Step orchestrator) (.resume orchestrator request approvedBatch) labels
      last ∧ .llmCall next false ∈ labels.flatten := by
  have live : approvedBatch.status ≠ .expired := by decide
  obtain ⟨labels, messages, reaches⟩ := resumed_reaches_chat orchestrator request approvedBatch
    approvedBatch.calls (orchestrator.resumeState request approvedBatch _)
  have room : 1 < 10 := by decide
  exact ⟨_, _, _, reaches.snoc (.stepRun (.called room)), List.mem_flatten_of_mem
    (List.mem_append_right _ (List.mem_singleton_self _)) (List.mem_singleton_self _)⟩

theorem continued (model tier : String) : ∃ asked next, ContinuedUnder model tier asked next := by
  have room : 0 < 10 := by decide
  have recorded : Recorded batch approvedBatch := ⟨rfl, rfl, rfl, .cons ⟨rfl, rfl, rfl⟩ .nil⟩
  obtain ⟨labels, last, next, resumes, asksAgain⟩ := approvedBatch_calls (resumeRequest .english
    "model" "batch" (readResumeBody (some (EntryPoint.body (database "google_business" none)
      approvedBatch (business none) (.httpResume () "conversation")))))
  exact ⟨_, next, .resumed (.cons (.stepRun (.called room)) <|
    .cons (.stepRun (.replied ⟨"", [replyCall], 0, 0⟩ rfl)) <| .cons (.stepRun .spoke) <|
    .cons (.stepRun .noFanOut) <| .cons (.stepRun (.persisted "batch" rfl)) <| .nil _)
    (.head _) (.tail _ (.tail _ (.head _))) recorded (lookupsSucceed "google_business" none) rfl resumes asksAgain⟩

end Sample

/-- The default model on the free plan: the continuation has the model and the tier of the turn. -/
theorem pause_keeps_model_and_tier_iff_free : ∃ asked next, Sample.ContinuedUnder "model" "free" asked next ∧
      next.model = asked.model ∧ tierFromRequest next = tierFromRequest asked := by
  obtain ⟨asked, next, continued⟩ := Sample.continued "model" "free"
  exact ⟨asked, next, continued, (pause_keeps_model_and_tier_iff continued).mpr (by simp)⟩

/-- Another model on a paid plan: the continuation has the default model and the free tier. -/
theorem pause_drops_model_and_tier : ∃ asked next, Sample.ContinuedUnder "requested" "pro" asked next ∧
      next.model ≠ asked.model ∧ tierFromRequest next ≠ tierFromRequest asked := by
  obtain ⟨asked, next, continued⟩ := Sample.continued "requested" "pro"
  obtain ⟨⟨model, tier⟩, nextModel, nextTier⟩ := continued.routing
  refine ⟨asked, next, continued, ?_⟩
  simp only [tierFromRequest, model, tier, nextModel, nextTier]
  decide

end OneVoice.Resume
