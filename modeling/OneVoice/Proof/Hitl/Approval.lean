import OneVoice.Construction.Hitl.Approval
import OneVoice.Proof.Orchestrator.Authorisation

namespace OneVoice.Hitl

open Library Domain Agent Function List

section Store

variable {id : String} {cell next : Option PendingToolCallBatch} {op : UpdateOp}

theorem StoreStep.matched (step : StoreStep id cell (.update op, true) next) :
    ∃ doc, cell = some doc ∧ op.update.filter doc = true ∧ next = some (op.update.set doc) := by
  cases step with
  | updated matched => exact ⟨_, rfl, matched, rfl⟩

end Store

/-- A write of the parties around a batch other than the decisions. -/
def Quiet : StoreOp → Prop
  | .update (.recordDecisions _ _) => False
  | .update _ => True
  | .delete _ => True
  | .insert _ _ => False

variable {Value : Type}

variable {Known : Type} {store : StoreOp} {view : PendingCall → Value} {doc : PendingToolCallBatch}

/-- A write without a record leaves the calls, or marks one. -/
theorem set_calls {op} (quiet : Quiet (.update op)) (doc : PendingToolCallBatch) :
    (op.update.set doc).calls = doc.calls ∨ ∃ callID now, op = .markDispatched callID now ∧
      (op.update.set doc).calls = markCall callID now doc.calls := by
  cases op with
  | markDispatched callID now => exact .inr ⟨callID, now, rfl, rfl⟩
  | recordDecisions => exact quiet.elim
  | _ => exact .inl rfl

/-- Marking a call keeps what does not read the mark. -/
theorem forall₂_set_calls {relation : Known → PendingCall → Prop}
    (kept : ∀ known call now, relation known call →
      relation known { call with dispatched := true, dispatchedAt := some now })
    {op} (quiet : Quiet (.update op)) {known}
    (related : List.Forall₂ relation known doc.calls) :
    List.Forall₂ relation known (op.update.set doc).calls := by
  rcases set_calls quiet doc with same | ⟨callID, now, _, marked⟩
  · rwa [same]
  · rw [marked]
    generalize doc.calls = calls at related ⊢
    induction related with
    | nil => exact .nil
    | cons head tail ih =>
      unfold markCall
      split_ifs
      · exact .cons (kept _ _ now head) tail
      · exact .cons head ih

theorem map_set_calls
    (stable : ∀ call now, view { call with dispatched := true, dispatchedAt := some now } = view call)
    {op} (quiet : Quiet (.update op)) (doc : PendingToolCallBatch) :
    (op.update.set doc).calls.map view = doc.calls.map view := by
  symm
  rw [← List.forall₂_eq_eq_eq, List.forall₂_map_right_iff]
  apply forall₂_set_calls (fun _ call now same => same.trans (stable call now).symm) quiet
  simp

/-- The writes that an action issues in a state. -/
def Approval.issues (id : String) (state : Approval) : Action → StoreOp → Prop
  | .claim _, store => store = .update (.atomicTransitionToResolving state.now)
  | .record _ calls, store => store = .update (.recordDecisions calls state.now)
  | .compensate _, store => store = .update (.resetResolvingToPending state.now)
  | .resumeClaim _, store => store = .update (.atomicTransitionResolvingToResuming state.now)
  | .agent _ seen, store => store ∈ agentWrites id state.now seen
  | .compensateResuming _, store => store = .update (.atomicTransitionResumingToResolving state.now)
  | .sweepResolving started, store => started ≤ state.now ∧
      store = .update (.reconcileOrphanResolving orphanReconcileWindow started state.now)
  | .sweepResuming started, store => started ≤ state.now ∧
      store = .update (.reconcileOrphanResuming orphanReconcileWindow started state.now)
  | .markExpired, store => store = .update (.markExpired state.now)
  | .delete op, store => store = .delete op
  | _, _ => False

/-- The agent loop marks a call as dispatched or the batch as resolved. -/
theorem mem_agentWrites {id now seen} (member : store ∈ agentWrites id now seen) :
    (∃ callID, .markDispatched id callID ∈ seen ∧
      store = .update (.markDispatched callID now)) ∨ store = .update (.markResolved now) := by
  obtain ⟨observation, inside, written⟩ := mem_filterMap.mp member
  cases observation <;> simp only [reduceCtorEq, Option.ite_none_right_eq_some, Option.some.injEq] at written
  case markDispatched batchID callID =>
    obtain ⟨rfl, rfl⟩ := written
    exact .inl ⟨callID, inside, rfl⟩
  case markResolved =>
    obtain ⟨_, rfl⟩ := written
    exact .inr rfl

theorem Approval.quiet_of_issues {id : String} {state : Approval} {action : Action}
    (issued : state.issues id action store)
    (quiet : ∀ resolver calls, action ≠ .record resolver calls) : Quiet store := by
  cases action <;> simp only [issues] at issued
  case record resolver calls => exact absurd rfl (quiet resolver calls)
  case agent =>
    rcases mem_agentWrites issued with ⟨_, _, rfl⟩ | rfl
    all_goals trivial
  all_goals
    subst_vars
    first
    | trivial
    | (rw [issued.2]; trivial)

theorem virtualizeExpiry_calls (now : Time) (doc : PendingToolCallBatch) :
    (virtualizeExpiry now doc).calls = doc.calls := by
  unfold virtualizeExpiry
  split_ifs <;> rfl

/-- A resolve call's change that adds nothing leaves a view alone. -/
theorem update_view {view : ResolverPhase → Option Value} {resolvers : Nat → ResolverPhase} {changed resolver : Nat}
    {phase : ResolverPhase} {value : Value} (held : view (update resolvers changed phase resolver) = some value)
    (same : view phase = some value → view (resolvers changed) = some value) :
    view (resolvers resolver) = some value := by
  obtain ⟨rfl, here⟩ | ⟨_, kept⟩ := view_update view held
  · exact same here
  · exact kept

theorem forall_mem_of_eq_some {property : PendingToolCallBatch → Prop}
    {cell} (present : cell = some doc) (holds : property doc) : ∀ other ∈ cell, property other := by
  intro other member
  rw [present] at member
  cases member
  exact holds

/-- A document after some writes comes from one before them. -/
def Descends (related : PendingToolCallBatch → PendingToolCallBatch → Prop)
    (cell next : Option PendingToolCallBatch) : Prop :=
  ∀ doc ∈ next, ∃ earlier ∈ cell, related earlier doc

namespace Approval.Step

variable {agent : Orchestrator} {id : String} {first last : Approval} {action : Action}

/-- Every change of the document is a write of the action. -/
theorem issued (step : Step agent id first action last) :
    ∃ writes, Run (StoreStep id) first.cell writes last.cell ∧
      ∀ write ∈ writes, first.issues id action write.1 := by
  have single : ∀ {store : StoreOp} {matched : Bool} {next},
      StoreStep id first.cell (store, matched) next → first.issues id action store →
      ∃ writes, Run (StoreStep id) first.cell writes next ∧ ∀ write ∈ writes, first.issues id action write.1 := by
    intro store matched next taken allowed
    refine ⟨_, .single taken, fun write member => ?_⟩
    rw [mem_singleton.mp member]
    exact allowed
  have silent : ∃ writes, Run (StoreStep id) first.cell writes first.cell ∧
      ∀ write ∈ writes, first.issues id action write.1 :=
    ⟨[], .nil _, fun _ member => by cases member⟩
  cases step with
  | claim _ stored | record _ _ _ _ stored | compensate _ stored | resumeClaim _ stored
  | compensateUnopened _ stored | compensateUnanswered _ stored | markExpired stored
  | delete stored => exact single stored rfl
  | sweepResolving started stored | sweepResuming started stored =>
    exact single stored ⟨started, rfl⟩
  | agent _ _ stored asked =>
    exact ⟨_, stored, fun write member => asked.subset (mem_map_of_mem member)⟩
  | _ => exact silent

variable {batch : PendingToolCallBatch} {property : List PendingCall → Prop}
  {request : ResumeRequest} {unanswered : Bool} {resolver resume : Nat} {loop : Loop}

theorem not_issues_insert {now} : ¬ first.issues id action (.insert batch now) := by
  intro issued
  cases action <;> simp only [issues, reduceCtorEq, and_false] at issued
  rcases mem_agentWrites issued with ⟨_, _, same⟩ | same
  all_goals cases same

/-- A preorder that the updates respect relates later documents to earlier. -/
theorem relates {related : PendingToolCallBatch → PendingToolCallBatch → Prop}
    (step : Step agent id first action last) (reflexive : ∀ doc, related doc doc)
    (transitive : ∀ {a b c}, related a b → related b c → related a c)
    (closed : ∀ op doc, first.issues id action (.update op) → op.update.filter doc = true →
      related doc (op.update.set doc)) : Descends related first.cell last.cell := by
  obtain ⟨writes, run, issued⟩ := step.issued
  have same : ∀ cell, Descends related cell cell := fun cell doc member => ⟨doc, member, reflexive doc⟩
  have chain : ∀ {a b c}, Descends related a b → Descends related b c → Descends related a c := by
    intro a b c left right doc member
    obtain ⟨middle, between, later⟩ := right doc member
    obtain ⟨earlier, inside, sooner⟩ := left middle between
    exact ⟨earlier, inside, transitive sooner later⟩
  have kept : ∀ cell write next, Guarded (StoreStep id)
      (fun _ write => first.issues id action write.1) cell write next →
      Descends related cell next := by
    intro cell write next ⟨taken, issued⟩ doc member
    cases taken with
    | inserted => exact absurd issued not_issues_insert
    | updated matched =>
      cases member
      exact ⟨_, rfl, closed _ _ issued matched⟩
    | deleted => cases member
    | _ => exact ⟨doc, member, reflexive doc⟩
  exact (run.guarded issued).relates same chain kept

/-- A property that the other writes keep survives an unrecorded step. -/
theorem keeps {property : PendingToolCallBatch → Prop}
    (closed : ∀ op doc, Quiet (.update op) → property doc → property (op.update.set doc))
    (step : Step agent id first action last) (quiet : ∀ resolver calls, action ≠ .record resolver calls)
    (start : ∀ doc ∈ first.cell, property doc) : ∀ doc ∈ last.cell, property doc := by
  have related : Descends (fun doc next => property doc → property next) first.cell last.cell :=
    step.relates (fun _ holds => holds) (fun left right holds => right (left holds))
      fun op doc issued _ => closed op doc (quiet_of_issues issued quiet)
  intro doc member
  obtain ⟨earlier, inside, implies⟩ := related doc member
  exact implies (start earlier inside)

/-- Recorded decisions replace the whole call list. -/
theorem recorded {calls} (step : Step agent id first (.record resolver calls) last) :
    ∃ doc, first.cell = some doc ∧ last.cell = some { doc with calls := calls, updatedAt := first.now } := by
  cases step with
  | record _ _ _ _ stored =>
    obtain ⟨doc, present, _, rfl⟩ := stored.matched
    exact ⟨doc, present, rfl⟩

theorem recorded_calls {calls} (step : Step agent id first (.record resolver calls) last)
    (holds : property calls) : ∀ doc ∈ last.cell, property doc.calls := by
  obtain ⟨_, _, written⟩ := step.recorded
  exact forall_mem_of_eq_some written holds

section

variable (step : Step agent id first action last)

include step

/-- A property of the calls stays if decisions have it and writes keep it. -/
theorem keeps_calls (recorded : ∀ resolver calls, action = .record resolver calls → property calls)
    (closed : ∀ op doc, Quiet (.update op) → property doc.calls → property (op.update.set doc).calls)
    (start : ∀ doc ∈ first.cell, property doc.calls) : ∀ doc ∈ last.cell, property doc.calls := by
  by_cases records : ∃ resolver calls, action = .record resolver calls
  · obtain ⟨resolver, calls, rfl⟩ := records
    exact step.recorded_calls (recorded resolver calls rfl)
  · have quiet : ∀ resolver calls, action ≠ .record resolver calls :=
      fun resolver calls same => records ⟨resolver, calls, same⟩
    exact step.keeps closed quiet start

/-- A resolve call works on the copy that it has checked. -/
theorem copies {attempt : Attempt} {copy : PendingToolCallBatch}
    (held : (last.resolvers resolver).copy = some (attempt, copy)) :
    (first.resolvers resolver).copy = some (attempt, copy) ∨
      ∃ doc, first.cell = some doc ∧ copy = virtualizeExpiry first.now doc ∧ action = .read resolver attempt ∧
        attempt.service.check attempt.context first.now attempt.input copy = .ok () := by
  cases step with
  | @read changed doc _ _ present accepted =>
    obtain ⟨rfl, same⟩ | ⟨_, held⟩ := view_update ResolverPhase.copy held
    · cases same
      exact .inr ⟨doc, present, rfl, rfl, accepted⟩
    · exact .inl held
  | claim phase => exact .inl (update_view held fun same => by rw [phase]; exact same)
  | record _ _ acknowledged =>
    refine .inl (update_view held fun same => ?_)
    cases acknowledged <;> cases same
  | readRefused | readMissing | claimRefused | recordRefused | compensate | crash =>
    exact .inl (update_view held fun same => by cases same)
  | _ => exact .inl held

/-- A resume runs the loop of the batch that it has loaded. -/
theorem loaded (running : last.resumes resume = .running request batch loop unanswered) :
    (∃ before open_, first.resumes resume = .running request batch before open_ ∧
      (loop = before ∨ ∃ seen, action = .agent resume seen ∧ Agent.Step agent before seen loop)) ∨
    ∃ doc, first.cell = some doc ∧ action = .load resume request ∧
      batch = virtualizeExpiry first.now doc ∧ loop = .resume agent request batch := by
  have kept : ∀ {changed : Nat} {phase : ResumePhase},
      update first.resumes changed phase resume = .running request batch loop unanswered →
      (phase = .running request batch loop unanswered →
        ∃ open_, first.resumes changed = .running request batch loop open_) →
      ∃ before open_, first.resumes resume = .running request batch before open_ ∧
        (loop = before ∨ ∃ seen, action = .agent resume seen ∧ Agent.Step agent before seen loop) := by
    intro changed phase running same
    obtain ⟨rfl, here⟩ | ⟨_, running⟩ := cell_update running
    · obtain ⟨open_, before⟩ := same here
      exact ⟨loop, open_, before, .inl rfl⟩
    · exact ⟨loop, unanswered, running, .inl rfl⟩
  cases step with
  | @load changed doc _ claimed present =>
    obtain ⟨rfl, same⟩ | ⟨_, running⟩ := cell_update running
    · cases same
      exact .inr ⟨doc, present, rfl, rfl, rfl⟩
    · exact .inl ⟨loop, unanswered, running, .inl rfl⟩
  | @agent changed _ _ before open_ seen _ _ _ phase taken =>
    obtain ⟨rfl, same⟩ | ⟨_, running⟩ := cell_update running
    · cases same
      exact .inl ⟨before, _, phase, .inr ⟨seen, rfl, taken⟩⟩
    · exact .inl ⟨loop, unanswered, running, .inl rfl⟩
  | answered phase | compensateUnanswered phase =>
    refine .inl (kept running fun same => ?_)
    cases same
    exact ⟨_, phase⟩
  | resumeClaim | compensateUnopened | resumeCrash =>
    exact .inl (kept running fun same => by cases same)
  | _ => exact .inl ⟨loop, unanswered, running, .inl rfl⟩

/-- The batch of a resume has what the stored calls had. -/
theorem loaded_calls (stored : ∀ doc ∈ first.cell, property doc.calls) (carried : ∀ request batch loop unanswered,
      first.resumes resume = .running request batch loop unanswered → property batch.calls)
    (running : last.resumes resume = .running request batch loop unanswered) : property batch.calls := by
  rcases step.loaded running with ⟨_, _, earlier, _⟩ | ⟨doc, present, _, rfl, _⟩
  · exact carried _ _ _ _ earlier
  · rw [virtualizeExpiry_calls]
    exact stored doc present

/-- The loop of a resume stays authorised by the batch that it has loaded. -/
theorem loaded_authorised (authorised : ∀ request batch loop unanswered,
      first.resumes resume = .running request batch loop unanswered →
      LoopAuthorised agent (.resume request batch) loop)
    (running : last.resumes resume = .running request batch loop unanswered) :
    LoopAuthorised agent (.resume request batch) loop := by
  rcases step.loaded running with ⟨before, _, earlier, moved⟩ | ⟨_, _, _, _, rfl⟩
  · have kept := authorised _ _ _ _ earlier
    rcases moved with rfl | ⟨_, _, taken⟩
    · exact kept
    · exact (taken.authorised kept).1
  · exact Invocation.start_authorised agent (.resume request batch)

end

end Approval.Step

end OneVoice.Hitl
