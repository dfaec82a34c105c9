import OneVoice.Proof.Hitl.Approval

namespace OneVoice.Hitl

open Library Domain Agent List

theorem forM_ok {Error Item : Type} {check : Item → Except Error Unit} {items : List Item}
    (passed : items.forM check = .ok ()) : ∀ item ∈ items, check item = .ok () := by
  induction items with
  | nil =>
    intro item member
    cases member
  | cons head rest ih =>
    have both : (check head >>= fun _ => rest.forM check) = .ok () := passed
    cases first : check head with
    | error error =>
      rw [first] at both
      cases both
    | ok value =>
      rw [first] at both
      intro item member
      rcases mem_cons.mp member with rfl | later
      · exact first
      · exact ih both item later

namespace HITLService

variable {service : HITLService} {context : Option BusinessContext} {now : Time} {batch : PendingToolCallBatch}

/-- An accepted request has passed the checks of every call. -/
theorem checkCall_of_check {input : ResolveInput} (accepted : service.check context now input batch = .ok ()) :
    ∀ call ∈ batch.calls, service.checkCall context now batch call
      (decisionByID input.decisions call.callID) = .ok () := by
  unfold check at accepted
  split_ifs at accepted
  exact forM_ok accepted

variable {call : PendingCall} {decision : DecisionInput}

theorem checkAction_of_checkCall (accepted : service.checkCall context now batch call decision = .ok ()) :
    service.checkAction now batch call decision = .ok () := by
  unfold checkCall at accepted
  split_ifs at accepted
  cases deletion : checkDeletion context batch call decision with
  | error error =>
    rw [deletion] at accepted
    cases accepted
  | ok value =>
    rw [deletion] at accepted
    exact accepted

theorem recorded_of_checkCall (accepted : service.checkCall context now batch call decision = .ok ()) :
    decision.action ∈ recordedVerdicts := by
  have action := checkAction_of_checkCall accepted
  unfold checkAction at action
  cases chosen : decision.action with
  | other raw outside =>
    rw [chosen] at action
    cases action
  | _ => simp [recordedVerdicts]

end HITLService

theorem finalizeCall_verdict {businessApprovals projectOverrides call decision}
    (recorded : decision.action ∈ recordedVerdicts) :
    (finalizeCall businessApprovals projectOverrides call decision).verdict ∈ recordedVerdicts := by
  unfold finalizeCall
  split_ifs
  · simp [recordedVerdicts]
  · exact recorded

/-- Every call carries a verdict of the owner. -/
def Decided (calls : List PendingCall) : Prop := ∀ call ∈ calls, call.verdict ∈ recordedVerdicts

instance (calls : List PendingCall) : Decidable (Decided calls) := inferInstanceAs (Decidable (∀ call ∈ calls, _))

/-- The decisions of an accepted request cover every call. -/
theorem decided_finalize {attempt : Attempt} {now : Time} {copy : PendingToolCallBatch}
    (accepted : attempt.service.check attempt.context now attempt.input copy = .ok ())
    (businessApprovals projectOverrides : ApprovalMap) :
    Decided (finalize businessApprovals projectOverrides copy.calls attempt.input.decisions) := by
  intro call member
  obtain ⟨original, inside, rfl⟩ := mem_map.mp member
  apply finalizeCall_verdict
  exact HITLService.recorded_of_checkCall (HITLService.checkCall_of_check accepted original inside)

section

variable {agent : Orchestrator} {id : String} {first last : Approval}

/-- The checks of a resolve call passed on the copy that it holds. -/
def Validated (state : Approval) : Prop :=
  ∀ resolver attempt copy, (state.resolvers resolver).copy = some (attempt, copy) →
    ∃ now, attempt.service.check attempt.context now attempt.input copy = .ok ()

variable {action : Action} {calls : List PendingCall}

theorem Approval.Step.validated (step : Step agent id first action last)
    (valid : Validated first) : Validated last := by
  intro resolver attempt copy held
  rcases step.copies held with before | ⟨doc, _, _, _, accepted⟩
  · exact valid resolver attempt copy before
  · exact ⟨first.now, accepted⟩

/-- The decisions that a step records are complete. -/
theorem Approval.Step.decided_record {resolver : Nat}
    (step : Step agent id first (.record resolver calls) last) (valid : Validated first) : Decided calls := by
  cases step with
  | record businessApprovals projectOverrides _ phase =>
    obtain ⟨now, accepted⟩ := valid resolver _ _ (by rw [phase]; rfl)
    exact decided_finalize accepted businessApprovals projectOverrides

theorem decided_congr {others}
    (same : calls.map PendingCall.verdict = others.map PendingCall.verdict) : Decided calls ↔ Decided others := by
  have view : ∀ calls, Decided calls ↔ ∀ verdict ∈ calls.map PendingCall.verdict, verdict ∈ recordedVerdicts := by
    intro calls
    rw [forall_mem_map]
    rfl
  rw [view, view, same]

/-- From the first recorded decisions on, the document is decided. -/
theorem Approval.Step.decided (step : Step agent id first action last)
    (valid : Validated first) (start : ∀ doc ∈ first.cell, Decided doc.calls) :
    ∀ doc ∈ last.cell, Decided doc.calls := by
  apply step.keeps_calls _ _ start
  · rintro resolver calls rfl
    exact step.decided_record valid
  · intro op doc quiet
    exact (decided_congr (map_set_calls (fun _ _ => rfl) quiet doc)).mpr

/-- Some resolve call has recorded its decisions. -/
def RecordedIn (actions : List Action) : Prop := ∃ resolver calls, Action.record resolver calls ∈ actions

theorem validated_start (batch : PendingToolCallBatch) (now : Time) : Validated (.start batch now) := by
  intro resolver attempt copy held
  cases held

variable {batch : PendingToolCallBatch} {now : Time} {actions : List Action}

theorem validated_of_run (run : Run (Approval.Step agent id) first actions last)
    (valid : Validated first) : Validated last :=
  run.invariant (fun _ _ _ step => step.validated) valid

theorem decided_of_run (run : Run (Approval.Step agent id) first actions last)
    (valid : Validated first) (start : ∀ doc ∈ first.cell, Decided doc.calls) :
    ∀ doc ∈ last.cell, Decided doc.calls := by
  have kept : ∀ first action last, Approval.Step agent id first action last →
      (Validated first ∧ ∀ doc ∈ first.cell, Decided doc.calls) →
      Validated last ∧ ∀ doc ∈ last.cell, Decided doc.calls :=
    fun _ _ _ step holds => ⟨step.validated holds.1, step.decided holds.1 holds.2⟩
  exact (run.invariant kept ⟨valid, start⟩).2

theorem decided_of_recorded (run : Run (Approval.Step agent id) (.start batch now) actions last)
    (recorded : RecordedIn actions) : ∀ doc ∈ last.cell, Decided doc.calls := by
  obtain ⟨resolver, calls, member⟩ := recorded
  obtain ⟨before, after, rfl⟩ := append_of_mem member
  obtain ⟨source, target, head, step, tail⟩ := run.split_at
  have valid := validated_of_run head (validated_start batch now)
  exact decided_of_run tail (step.validated valid) (step.recorded_calls (step.decided_record valid))

theorem undecided_of_unrecorded (fresh : Fresh batch)
    (run : Run (Approval.Step agent id) (.start batch now) actions last)
    (unrecorded : ¬ RecordedIn actions) : ∀ doc ∈ last.cell, ¬ Decided doc.calls := by
  have quiet : ∀ action ∈ actions, ∀ resolver calls, action ≠ .record resolver calls := by
    intro action member resolver calls same
    rw [same] at member
    exact unrecorded ⟨resolver, calls, member⟩
  have kept : ∀ first action last, Guarded (Approval.Step agent id)
      (fun _ action => ∀ resolver calls, action ≠ .record resolver calls) first action last →
      (∀ doc ∈ first.cell, ¬ Decided doc.calls) → ∀ doc ∈ last.cell, ¬ Decided doc.calls := by
    intro first action last taken
    exact taken.1.keeps (fun op doc quiet undecided decided => undecided
      ((decided_congr (map_set_calls (fun _ _ => rfl) quiet doc)).mp decided)) taken.2
  apply (run.guarded quiet).invariant kept
  intro doc member decided
  cases member
  obtain ⟨call, inside⟩ := exists_mem_of_ne_nil _ fresh.waits
  have verdict := decided call inside
  rw [fresh.undecided call inside] at verdict
  exact absurd verdict (by decide)

/-- A recorded verdict is never answered as an unavailable decision. -/
theorem disposition_of_recorded {call} (recorded : call.verdict ∈ recordedVerdicts)
    (request : ResumeRequest) (state : RunState) (reason note : String) :
    agent.disposition request state call ≠ .refuse .decisionState reason note := by
  intro refused
  unfold Orchestrator.disposition at refused
  split_ifs at refused with unapproved rejected
  all_goals try cases refused
  simp only [recordedVerdicts, mem_cons, not_mem_nil, or_false] at recorded
  rcases recorded with approve | edit | reject
  · exact unapproved.1 approve
  · exact unapproved.2 edit
  · exact rejected reject

/-- A resume of a decided document loads a decided batch. -/
theorem loaded_decided {resume loop unanswered request loaded} (run : Run (Approval.Step agent id) first actions last)
    (valid : Validated first) (start : ∀ doc ∈ first.cell, Decided doc.calls)
    (claimed : first.resumes resume = .claimed)
    (running : last.resumes resume = .running request loaded loop unanswered) : Decided loaded.calls := by
  have kept : ∀ first action last, Approval.Step agent id first action last →
      (Validated first ∧ (∀ doc ∈ first.cell, Decided doc.calls) ∧
        ∀ request loaded loop unanswered,
          first.resumes resume = .running request loaded loop unanswered → Decided loaded.calls) →
      Validated last ∧ (∀ doc ∈ last.cell, Decided doc.calls) ∧
        ∀ request loaded loop unanswered,
          last.resumes resume = .running request loaded loop unanswered → Decided loaded.calls := by
    intro first action last step ⟨valid, decided, before⟩
    exact ⟨step.validated valid, step.decided valid decided, fun _ _ _ _ => step.loaded_calls decided before⟩
  refine (run.invariant kept ⟨valid, start, ?_⟩).2.2 _ _ _ _ running
  intro request loaded loop unanswered running
  rw [claimed] at running
  cases running

/-- A continuation finds all verdicts just when they were recorded before. -/
theorem resumeClaim_decided_iff {resume : Nat} {before : List Action} {source target : Approval} (fresh : Fresh batch)
    (run : Run (Approval.Step agent id) (.start batch now) before source)
    (claim : Approval.Step agent id source (.resumeClaim resume) target) :
    ((∀ doc ∈ target.cell, Decided doc.calls) ↔ RecordedIn before) ∧
    (RecordedIn before → ∀ after last request loaded loop unanswered,
      Run (Approval.Step agent id) target after last →
      last.resumes resume = .running request loaded loop unanswered → ∀ call ∈ loaded.calls, ∀ state reason note,
        agent.disposition request state call ≠ .refuse .decisionState reason note) := by
  have joined := run.snoc claim
  have same : RecordedIn (before ++ [.resumeClaim resume]) ↔ RecordedIn before := by
    simp [RecordedIn]
  have phase : target.resumes resume = .claimed := by
    cases claim with
    | resumeClaim => exact Function.update_self ..
  have present : ∃ doc, target.cell = some doc := by
    cases claim with
    | resumeClaim _ stored =>
      obtain ⟨doc, _, _, rfl⟩ := stored.matched
      exact ⟨_, rfl⟩
  constructor
  · constructor
    · intro decided
      by_contra unrecorded
      obtain ⟨doc, member⟩ := present
      exact undecided_of_unrecorded fresh joined (fun recorded => unrecorded (same.mp recorded)) doc
        member (decided doc member)
    · exact fun recorded => decided_of_recorded joined (same.mpr recorded)
  · intro recorded after last request loaded loop unanswered rest running call member state
    have decided := loaded_decided rest (validated_of_run joined (validated_start batch now))
      (decided_of_recorded joined (same.mpr recorded)) phase running
    exact disposition_of_recorded (decided call member) request state

end

open Sample

theorem resumeClaim_decided_approved :
    ∃ source target, Steps (.start batch 1) [.read 0 attempt, .claim 0, .record 0 [approvedCall]] source ∧
      Approval.Step orchestrator "batch" source (.resumeClaim 0) target ∧
      ∀ doc ∈ target.cell, Decided doc.calls := by
  have run : ∃ target, Steps (.start batch 1) ([.read 0 attempt, .claim 0, .record 0 [approvedCall]] ++
        [.resumeClaim 0]) target :=
    ⟨_, .cons (.read attempt rfl rfl rfl) <| .cons (.claim rfl (.updated rfl)) <|
      .cons (@Approval.Step.record _ _ _ _ attempt
        (doc .pending [waitingCall] 1) 1 _ ∅ ∅ true rfl (.updated rfl)) <|
      .cons (.resumeClaim rfl (.updated rfl)) <| .nil _⟩
  obtain ⟨_, all⟩ := run
  obtain ⟨source, target, before, claim, _⟩ := all.split_at
  have decided := resumeClaim_decided_iff fresh_batch before claim
  exact ⟨source, target, before, claim, decided.1.mpr ⟨0, _, mem_cons_of_mem _ (mem_cons_of_mem _ mem_cons_self)⟩⟩

/-- What the model reads about a call whose decision is not there. -/
def Sample.refusal : Message :=
  Orchestrator.toolMessage "call" (orchestrator.buildRejectionMessage .decisionState
    reasonDecisionUnavailable decisionUnavailableNote)

theorem Sample.resume_refuses :
    ∃ after, Agent.Step orchestrator (.resume orchestrator resumeRequest (doc .resuming [waitingCall] 1)) [] after ∧
      refusal ∈ after.state.messages := by
  exact ⟨_, .dispatchApproved (.refused rfl), mem_append_right _ mem_cons_self⟩

/-- A chat message rejoins while the approval is still on its way. -/
theorem not_decided_resumeClaim :
    ∃ target last loaded loop, Steps (.start batch 1) [.read 0 attempt, .claim 0, .resumeClaim 0] target ∧
      (∃ doc ∈ target.cell, ¬ Decided doc.calls) ∧ Steps target [.load 0 resumeRequest, .agent 0 [],
        .record 0 [approvedCall]] last ∧ (∃ doc ∈ last.cell, doc.calls = [approvedCall]) ∧
      last.resumes 0 = .running resumeRequest loaded loop true ∧ refusal ∈ loop.state.messages := by
  obtain ⟨after, refuses, told⟩ := resume_refuses
  have claimed : ∃ target, Steps (.start batch 1) [.read 0 attempt, .claim 0, .resumeClaim 0] target ∧
      target = ⟨1, some (doc .resuming [waitingCall] 1), target.resolvers, target.resumes⟩ ∧
      target.resolvers 0 = .claimed attempt (doc .pending [waitingCall] 1) 1 ∧
      target.resumes 0 = .claimed :=
    ⟨_, .cons (.read attempt rfl rfl rfl) <| .cons (.claim rfl (.updated rfl)) <|
      .cons (.resumeClaim rfl (.updated rfl)) <| .nil _, rfl, rfl, rfl⟩
  obtain ⟨target, run, shape, resolver, resume⟩ := claimed
  rw [shape] at run resolver resume
  exact ⟨_, _, _, _, run, ⟨_, rfl, by decide⟩, .cons (.load _ resume rfl) <|
    .cons (.agent rfl refuses (.nil _) (nil_sublist _)) <|
    .cons (@Approval.Step.record _ _ _ _ attempt
      (doc .pending [waitingCall] 1) 1 _ ∅ ∅ true resolver (.updated rfl)) <|
    .nil _, ⟨_, rfl, rfl⟩, rfl, told⟩

end OneVoice.Hitl
