import OneVoice.Proof.Hitl.Verdicts
import Mathlib.Data.List.Perm.Subperm

namespace OneVoice.Hitl

open Domain PendingCall List

variable {calls : List PendingCall} {decisions : List DecisionInput}

theorem missingCallIDs_eq_nil : missingCallIDs calls decisions = [] ↔
      calls.map callID ⊆ decisions.map DecisionInput.id := by
  simp [missingCallIDs, subset_def]

theorem forM_error {Error Item : Type} {check : Item → Except Error Unit} {items : List Item}
    {error : Error} (failed : items.forM check = .error error) : ∃ item ∈ items, check item = .error error := by
  induction items with
  | nil => cases failed
  | cons head rest ih =>
    have both : (check head >>= fun _ => rest.forM check) = .error error := failed
    cases first : check head with
    | error found =>
      rw [first] at both
      cases both
      exact ⟨head, mem_cons_self, first⟩
    | ok value =>
      rw [first] at both
      obtain ⟨item, member, refused⟩ := ih both
      exact ⟨item, mem_cons_of_mem _ member, refused⟩

namespace HITLService

variable {service : HITLService} {context : Option BusinessContext} {now : Time}
  {input : ResolveInput} {batch : PendingToolCallBatch}

theorem checkCall_ne_shape {call decision missing} :
    service.checkCall context now batch call decision ≠ .error (.decisionsShape missing) := by
  intro refused
  unfold checkCall at refused
  split at refused
  · cases refused
  · cases deletion : checkDeletion context batch call decision with
    | error error =>
      rw [deletion] at refused
      cases refused
      unfold checkDeletion at deletion
      repeat' split at deletion
      all_goals cases deletion
    | ok value =>
      rw [deletion] at refused
      unfold checkAction checkEdit at refused
      repeat' split at refused
      all_goals cases refused

/-- The decisions are refused just where a call has none. -/
theorem check_shape_iff (business : batch.businessID = input.actorBusinessID)
    (conversation : batch.conversationID = input.conversationID) (live : batch.status ≠ .expired) :
    (∃ missing, service.check context now input batch = .error (.decisionsShape missing)) ↔
      missingCallIDs batch.calls input.decisions ≠ [] := by
  unfold check
  rw [if_neg (not_not.mpr business), if_neg (not_not.mpr conversation), if_neg live]
  split
  · next uncovered => exact iff_of_true ⟨_, rfl⟩ uncovered
  · next covered =>
      refine iff_of_false ?_ covered
      rintro ⟨missing, refused⟩
      obtain ⟨call, _, shape⟩ := forM_error refused
      exact checkCall_ne_shape shape

/-- Passing decisions name every call once, or leave one out. -/
theorem passes_shape_perm_iff (distinct : (batch.calls.map callID).Nodup)
    (business : batch.businessID = input.actorBusinessID)
    (conversation : batch.conversationID = input.conversationID) (live : batch.status ≠ .expired) :
    ((¬ ∃ missing, service.check context now input batch = .error (.decisionsShape missing)) ↔
        (input.decisions.map DecisionInput.id).Perm (batch.calls.map callID)) ↔
      (∃ call ∈ batch.calls, call.callID ∉ input.decisions.map DecisionInput.id) ∨
        input.decisions.length = batch.calls.length := by
  have left : (∃ call ∈ batch.calls, call.callID ∉ input.decisions.map DecisionInput.id) ↔
      ¬ batch.calls.map callID ⊆ input.decisions.map DecisionInput.id := by
    simp [subset_def]
  rw [check_shape_iff business conversation live, not_not, missingCallIDs_eq_nil, left]
  by_cases covers : batch.calls.map callID ⊆ input.decisions.map DecisionInput.id
  · -- A covering list as long as the calls permutes their ids.
    have among := subperm_of_subset distinct covers
    have even : (input.decisions.map DecisionInput.id).Perm (batch.calls.map callID) ↔
        input.decisions.length = batch.calls.length :=
      ⟨fun perm => by simpa using perm.length_eq, fun same => (among.perm_of_length_le (by simp [same])).symm⟩
    simp [covers, even]
  · have uneven : ¬ (input.decisions.map DecisionInput.id).Perm
        (batch.calls.map callID) := fun perm => covers perm.symm.subset
    simp [covers, uneven]

/-- The owner's list of one approval. -/
theorem passes_shape_perm_iff_attempt : let batch := Sample.doc .pending [Sample.waitingCall] 1
    let input := Sample.attempt.input
    ((¬ ∃ missing, Sample.attempt.service.check none 2 input batch =
        .error (.decisionsShape missing)) ↔ (input.decisions.map DecisionInput.id).Perm (batch.calls.map callID)) ↔
      (∃ call ∈ batch.calls, call.callID ∉ input.decisions.map DecisionInput.id) ∨
        input.decisions.length = batch.calls.length :=
  passes_shape_perm_iff (nodup_singleton _) rfl rfl BatchStatus.noConfusion

/-- A decision about an unknown call passes beside another. -/
theorem unknown_decision_passes : let batch := Sample.doc .pending [Sample.waitingCall] 1
    let input := { Sample.attempt.input with
      decisions := [⟨"call", .approve, none, ""⟩, ⟨"other", .approve, none, ""⟩] }
    (batch.calls.map callID).Nodup ∧ Sample.attempt.service.check none 2 input batch = .ok () ∧
      ¬ (input.decisions.map DecisionInput.id).Perm (batch.calls.map callID) :=
  ⟨nodup_singleton _, rfl, fun perm => absurd perm.length_eq (by decide)⟩

end HITLService

namespace ResolveCall

variable {call : ResolveCall} {cell : Option PendingToolCallBatch} {doc batch claimed : PendingToolCallBatch}

/-- The checks pass and the transition finds the document. -/
def Accepts (call : ResolveCall) (doc : PendingToolCallBatch) : Prop :=
  call.service.check call.context call.readAt call.input (virtualizeExpiry call.readAt doc) =
      .ok () ∧ doc.status = .pending

/-- What a call asks of its failing operation and document. -/
structure Covers (call : ResolveCall) (doc : PendingToolCallBatch) : Prop where
  acknowledged : call.failing ≠ some (.transition true)
  undecided : call.failing = some (.record false) → undecided doc = true
  waits : call.failing = some (.record true) → doc.calls ≠ []

/-- How a failed call leaves the store. -/
structure Clean (call : ResolveCall) (cell : Option PendingToolCallBatch) : Prop where
  unclaimed : ∀ error stored, call.claim cell = .error (error, stored) → (call.resolve cell).2 = cell
  unrecorded : ∀ claimed, call.claim cell = .ok claimed → call.failing = some (.record false) →
    ∃ doc, (call.resolve cell).2 = some doc ∧ doc.status = .pending ∧ undecided doc = true ∧
      ∀ retry : ResolveCall, (∀ before, cell = some before → retry.Accepts before) →
        retry.failing = none → ∃ result, (retry.resolve (some doc)).1 = .ok result
  recorded : ∀ claimed, call.claim cell = .ok claimed → call.failing = some (.record true) →
    ∃ doc, (call.resolve cell).2 = some doc ∧ doc.status = .resolving ∧ doc.calls = call.finalized claimed.1

theorem claim_of_accepts (accepts : call.Accepts doc) (load : call.failing ≠ some .load)
    (transition : ∀ applied, call.failing ≠ some (.transition applied)) :
    call.claim (some doc) = .ok (virtualizeExpiry call.readAt doc,
      (atomicTransitionToResolving call.claimedAt).set doc) := by
  simp [claim, load, transition, accepts.1, atomicTransitionToResolving, accepts.2]

theorem claim_of_lost (accepts : call.Accepts doc) (lost : call.failing = some (.transition true)) :
    call.claim (some doc) = .error (.internal, some ((atomicTransitionToResolving call.claimedAt).set doc)) := by
  simp [claim, lost, accepts.1, Update.apply, atomicTransitionToResolving, accepts.2]

/-- A call that stops before the transition leaves the store, unless that was applied
unacknowledged. -/
theorem claim_cases (call : ResolveCall) (cell : Option PendingToolCallBatch) :
    (∃ error, call.claim cell = .error (error, cell)) ∨
      ∃ doc, cell = some doc ∧ call.Accepts doc ∧ call.failing ≠ some .load ∧
        (call.failing = some (.transition true) ∨ ∀ applied, call.failing ≠ some (.transition applied)) := by
  by_cases load : call.failing = some .load
  · exact .inl ⟨_, if_pos load⟩
  cases cell with
  | none => exact .inl ⟨_, if_neg load⟩
  | some doc =>
    cases accepted : call.service.check call.context call.readAt call.input (virtualizeExpiry call.readAt doc) with
    | error error => exact .inl ⟨error, by simp [claim, load, accepted]⟩
    | ok value =>
      by_cases pending : doc.status = .pending
      · rcases Decidable.em (call.failing = some (.transition false)) with unapplied | other
        · exact .inl ⟨.internal, by simp [claim, accepted, unapplied]⟩
        · refine .inr ⟨doc, rfl, ⟨accepted, pending⟩, load, ?_⟩
          rcases Decidable.em (call.failing = some (.transition true)) with applied | neither
          · exact .inl applied
          · exact .inr (Bool.forall_bool.mpr ⟨other, neither⟩)
      · left
        have missed : (atomicTransitionToResolving call.claimedAt).filter doc = false := decide_eq_false pending
        simp only [claim, accepted, Update.apply, missed, Bool.false_eq_true, if_false]
        split_ifs <;> exact ⟨_, rfl⟩

theorem resolve_of_error {error stored}
    (failed : call.claim cell = .error (error, stored)) : (call.resolve cell).2 = stored := by
  simp [resolve, failed]

theorem resolve_of_ok (passed : call.claim cell = .ok (batch, claimed)) :
    call.resolve cell = ((call.record batch claimed).1, some (call.record batch claimed).2) := by
  simp [resolve, passed]

/-- A retry reads the batch as it was before the first call. -/
theorem accepts_reset {claimedAt resetAt} (accepts : call.Accepts doc) :
    call.Accepts ((resetResolvingToPending resetAt).set ((atomicTransitionToResolving claimedAt).set doc)) := by
  have aside : virtualizeExpiry call.readAt { doc with updatedAt := resetAt } =
      { virtualizeExpiry call.readAt doc with updatedAt := resetAt } := by
    simp only [virtualizeExpiry]
    split_ifs <;> rfl
  have restored : (resetResolvingToPending resetAt).set
      ((atomicTransitionToResolving claimedAt).set doc) = { doc with updatedAt := resetAt } := by
    simp [resetResolvingToPending, atomicTransitionToResolving, ← accepts.2]
  refine ⟨?_, rfl⟩
  rw [restored, aside]
  exact accepts.1

/-- The reset passes over a document that carries a verdict. -/
theorem record_of_recorded (lost : call.failing = some (.record true)) (accepts : call.Accepts doc)
    (waits : doc.calls ≠ []) :
    (call.record (virtualizeExpiry call.readAt doc) claimed).2 =
      (recordDecisions (call.finalized (virtualizeExpiry call.readAt doc)) call.recordedAt).set claimed := by
  have decided := decided_finalize accepts.1 call.approvals call.overrides
  rw [virtualizeExpiry_calls] at decided
  obtain ⟨first, rest, calls⟩ := exists_cons_of_ne_nil waits
  rw [calls] at decided
  have carried := decided _ mem_cons_self
  simp only [record, lost, Update.apply, if_true, ite_eq_right_iff]
  intro matched
  have bare : undecided ((recordDecisions (call.finalized (virtualizeExpiry call.readAt doc))
      call.recordedAt).set claimed) = true := (Bool.and_eq_true_iff.mp matched).2
  simp only [undecided, recordDecisions, finalized, virtualizeExpiry_calls, calls, finalize,
    map_cons, all_cons, Bool.and_eq_true, decide_eq_true_eq] at bare
  exact absurd carried bare.1

theorem clean_of_covers (covers : ∀ doc, cell = some doc → call.Accepts doc → call.Covers doc) :
    call.Clean cell := by
  rcases call.claim_cases cell with ⟨error, failed⟩ | ⟨doc, rfl, accepts, load, reached⟩
  · refine ⟨fun _ _ _ => resolve_of_error failed, ?_, ?_⟩ <;> intro claimed passed
    all_goals
      rw [failed] at passed
      cases passed
  · have covered := covers doc rfl accepts
    have passed := claim_of_accepts accepts load (reached.resolve_left covered.acknowledged)
    refine ⟨?_, ?_, ?_⟩
    · intro error stored failed
      rw [passed] at failed
      cases failed
    · intro claimed _ lost
      refine ⟨_, congrArg Prod.snd (resolve_of_ok passed), ?_⟩
      have matched : (resetResolvingToPending call.resetAt).filter
          ((atomicTransitionToResolving call.claimedAt).set doc) = true := covered.undecided lost
      simp only [record, lost, Update.apply, Bool.false_eq_true, if_false, matched, if_true]
      refine ⟨rfl, covered.undecided lost, ?_⟩
      intro retry accepted sound
      rw [resolve_of_ok (claim_of_accepts (accepts_reset (accepted doc rfl)) (by simp [sound]) (by simp [sound]))]
      simp [record, sound]
    · intro claimed passes lost
      cases passes.symm.trans passed
      refine ⟨_, congrArg Prod.snd (resolve_of_ok passed), ?_⟩
      rw [record_of_recorded lost accepts (covered.waits lost)]
      exact ⟨rfl, rfl⟩

theorem covers_of_clean (clean : call.Clean (some doc)) (accepts : call.Accepts doc) : call.Covers doc where
  acknowledged lost := by
    have kept := clean.unclaimed _ _ (claim_of_lost accepts lost)
    rw [resolve_of_error (claim_of_lost accepts lost)] at kept
    have status := congrArg PendingToolCallBatch.status (Option.some.inj kept)
    rw [accepts.2] at status
    cases status
  undecided lost := by
    have passed := claim_of_accepts accepts (by simp [lost]) (by simp [lost])
    obtain ⟨after, stored, _, bare, _⟩ := clean.unrecorded _ passed lost
    rw [resolve_of_ok passed] at stored
    cases stored
    simp only [record, lost, Update.apply, Bool.false_eq_true, if_false] at bare
    split at bare <;> exact bare
  waits lost none := by
    have passed := claim_of_accepts accepts (by simp [lost]) (by simp [lost])
    obtain ⟨after, stored, status, _⟩ := clean.recorded _ passed lost
    rw [resolve_of_ok passed] at stored
    cases stored
    have matched : ∀ claimed, claimed.status = .resolving →
        (call.record (virtualizeExpiry call.readAt doc) claimed).2.status = .pending := by
      intro claimed resolving
      simp [record, lost, Update.apply, resetResolvingToPending, recordDecisions, undecided,
        finalized, finalize, virtualizeExpiry_calls, none, resolving]
    rw [matched _ rfl] at status
    cases status

/-- A failed call leaves the store clean just where it covers the calls. -/
theorem resolve_clean_iff (call : ResolveCall) (cell : Option PendingToolCallBatch) :
    call.Clean cell ↔ ∀ doc, cell = some doc → call.Accepts doc → call.Covers doc := by
  constructor
  · rintro clean doc rfl accepts
    exact covers_of_clean clean accepts
  · exact clean_of_covers

/-- The owner's approval, applied without acknowledgement. -/
def Sample.lost : ResolveCall := ⟨Sample.attempt, ∅, ∅, 2, 3, 4, 5, 6, some (.transition true)⟩

/-- The batch stays claimed without a verdict, and a retry is refused. -/
theorem lost_transition_strands :
    let stored := (Sample.lost.resolve (some (Sample.doc .pending [Sample.waitingCall] 1))).2
    stored = some (Sample.doc .resolving [Sample.waitingCall] 3) ∧
      ({ Sample.lost with failing := none }.resolve stored).1 = .error .batchAlreadyResolving :=
  ⟨rfl, rfl⟩

end ResolveCall

end OneVoice.Hitl
