import OneVoice.Proof.Hitl.Verdicts

namespace OneVoice.Hitl

open Library Domain Agent Function List Approval.Step

/-- The instant of the claim that a resolve call still acts on. -/
def ResolverPhase.since : ResolverPhase → Option Time
  | .claimed _ _ since => some since
  | .unrecorded since => some since
  | _ => none

/-- The call acts on a claim that no sweep has been allowed to undo yet. -/
def Live (state : Approval) (resolver : Nat) (since : Time) : Prop :=
  (state.resolvers resolver).since = some since ∧ state.now ≤ since + orphanReconcileWindow

/-- Decisions are written or a claim undone within the claim's window. -/
def Timely (state : Approval) : Action → Prop
  | .record resolver _ => ∃ since, Live state resolver since
  | .compensate resolver => ∃ since, Live state resolver since
  | _ => True

namespace Approval.Step

variable {agent : Orchestrator} {id : String} {first last : Approval} {action : Action}

section

variable (step : Step agent id first action last)

include step

theorem now_le : first.now ≤ last.now := by
  cases step with
  | tick later forward => exact forward
  | _ => exact Nat.le_refl _

variable {resolver : Nat}

theorem since {since} (held : (last.resolvers resolver).since = some since) :
    (first.resolvers resolver).since = some since ∨ action = .claim resolver ∧ since = first.now := by
  cases step with
  | @claim changed attempt batch next phase =>
    obtain ⟨rfl, same⟩ | ⟨_, held⟩ := view_update ResolverPhase.since held
    · exact .inr ⟨rfl, (Option.some.inj same).symm⟩
    · exact .inl held
  | record _ _ acknowledged phase =>
    refine .inl (update_view held fun same => ?_)
    rw [phase]
    cases acknowledged with
    | true => cases same
    | false => exact same
  | recordRefused phase => exact .inl (update_view held fun same => by rw [phase]; exact same)
  | read | readRefused | readMissing | claimRefused | compensate | crash =>
    exact .inl (update_view held fun same => by cases same)
  | _ => exact .inl held

/-- A claim is live from the moment on at which it is made. -/
theorem live {since} (alive : Live last resolver since) :
    Live first resolver since ∨ action = .claim resolver ∧ since = first.now := by
  rcases step.since alive.1 with before | claimed
  · exact .inl ⟨before, step.now_le.trans alive.2⟩
  · exact .inr claimed

/-- A call that waits to record did before, or just claims. -/
theorem claimed {attempt copy since} (phase : last.resolvers resolver = .claimed attempt copy since) :
    (first.resolvers resolver = .claimed attempt copy since ∧
      ∀ calls, action ≠ .record resolver calls) ∨ action = .claim resolver := by
  have other : ∀ {changed : Nat} {next : ResolverPhase},
      update first.resolvers changed next resolver = .claimed attempt copy since →
      next ≠ .claimed attempt copy since →
      resolver ≠ changed ∧ first.resolvers resolver = .claimed attempt copy since := by
    intro changed next phase differs
    obtain ⟨_, same⟩ | kept := cell_update phase
    · exact absurd same differs
    · exact kept
  cases step with
  | @claim changed =>
    obtain ⟨rfl, _⟩ | ⟨_, kept⟩ := cell_update phase
    · exact .inr rfl
    · exact .inl ⟨kept, fun calls same => by cases same⟩
  | @record changed _ _ _ _ _ _ acknowledged =>
    have kept := other phase (by cases acknowledged <;> exact ResolverPhase.noConfusion)
    exact .inl ⟨kept.2, fun calls same => by cases same; exact kept.1 rfl⟩
  | read | readRefused | readMissing | claimRefused | recordRefused | compensate | crash =>
    exact .inl ⟨(other phase ResolverPhase.noConfusion).2, fun calls same => by cases same⟩
  | _ => exact .inl ⟨phase, fun calls same => by cases same⟩

end

end Approval.Step

section Documents

variable {op : UpdateOp} {doc : PendingToolCallBatch}

theorem undecided_congr {other} (same : doc.calls.map PendingCall.verdict = other.calls.map PendingCall.verdict) :
    undecided doc = undecided other := by
  have view : ∀ doc : PendingToolCallBatch, undecided doc =
      (doc.calls.map PendingCall.verdict).all fun verdict => verdict ∉ recordedVerdicts := by
    intro doc
    rw [all_map]
    rfl
  rw [view, view, same]

theorem undecided_set (quiet : Quiet (.update op)) (doc : PendingToolCallBatch) :
    undecided (op.update.set doc) = undecided doc :=
  undecided_congr (map_set_calls (fun _ _ => rfl) quiet doc)

/-- Complete decisions of at least one call are not undecided. -/
theorem undecided_of_decided (decided : Decided doc.calls) (waits : doc.calls ≠ []) : undecided doc = false := by
  obtain ⟨call, member⟩ := exists_mem_of_ne_nil _ waits
  have recorded := decided call member
  rw [undecided, all_eq_false]
  exact ⟨call, member, by simpa using recorded⟩

theorem undecided_of_approved {call} (member : call ∈ doc.calls)
    (approved : call.verdict = .approve ∨ call.verdict = .edit) : undecided doc = false := by
  rw [undecided, all_eq_false]
  refine ⟨call, member, ?_⟩
  rcases approved with same | same <;> rw [same] <;> decide

theorem undecided_virtualizeExpiry (now : Time) (doc : PendingToolCallBatch) :
    undecided (virtualizeExpiry now doc) = undecided doc :=
  undecided_congr (by rw [virtualizeExpiry_calls])

end Documents

section Advance

variable {id : String} {state : Approval} {action : Action} {op : UpdateOp} {doc : PendingToolCallBatch}

theorem issues_updatedAt (issued : state.issues id action (.update op)) :
    (op.update.set doc).updatedAt = state.now := by
  cases action <;> simp only [Approval.issues, StoreOp.update.injEq, reduceCtorEq] at issued
  case agent =>
    rcases mem_agentWrites issued with ⟨_, _, same⟩ | same
    all_goals
      cases same
      rfl
  case sweepResolving => rw [issued.2]; rfl
  case sweepResuming => rw [issued.2]; rfl
  all_goals
    rw [issued]
    rfl

/-- Only a compensation and a late sweep reopen a batch, undecided. -/
theorem issues_pending (issued : state.issues id action (.update op))
    (matched : op.update.filter doc = true) (pending : (op.update.set doc).status = .pending) :
    doc.status = .pending ∨ undecided doc = true ∧ ((∃ resolver, action = .compensate resolver) ∨
      doc.updatedAt + orphanReconcileWindow < state.now) := by
  cases action <;> simp only [Approval.issues, StoreOp.update.injEq, reduceCtorEq] at issued
  case record =>
    rw [issued] at pending
    exact .inl pending
  case agent =>
    rcases mem_agentWrites issued with ⟨_, _, same⟩ | same
    · cases same
      exact .inl pending
    · cases same
      cases pending
  case compensate resolver =>
    rw [issued] at matched
    simp only [UpdateOp.update, resetResolvingToPending, Bool.and_eq_true] at matched
    exact .inr ⟨matched.2, .inl ⟨resolver, rfl⟩⟩
  case sweepResolving started =>
    rw [issued.2] at matched
    simp only [UpdateOp.update, reconcileOrphanResolving, Bool.and_eq_true, decide_eq_true_eq] at matched
    exact .inr ⟨matched.2, .inr (Nat.lt_of_lt_of_le matched.1.2 issued.1)⟩
  case sweepResuming =>
    rw [issued.2] at pending
    cases pending
  all_goals
    rw [issued] at pending
    cases pending

/-- What a step that records nothing can do to the document. -/
structure Advances (state : Approval) (action : Action) (doc next : PendingToolCallBatch) : Prop where
  undecided : undecided next = undecided doc
  updatedAt : next.updatedAt = doc.updatedAt ∨ next.updatedAt = state.now
  pending : next.status = .pending → doc.status = .pending ∨ Hitl.undecided doc = true ∧
    ((∃ resolver, action = .compensate resolver) ∨ doc.updatedAt + orphanReconcileWindow < state.now)

theorem Advances.trans {middle last}
    (left : Advances state action doc middle) (right : Advances state action middle last) :
    Advances state action doc last where
  undecided := right.undecided.trans left.undecided
  updatedAt := by
    rcases right.updatedAt with same | late
    · rw [same]
      exact left.updatedAt
    · exact .inr late
  pending pending := by
    rcases right.pending pending with earlier | ⟨open_, compensates | late⟩
    · exact left.pending earlier
    · exact .inr ⟨left.undecided ▸ open_, .inl compensates⟩
    · refine .inr ⟨left.undecided ▸ open_, .inr ?_⟩
      rcases left.updatedAt with same | now
      · rwa [same] at late
      · rw [now] at late
        exact absurd late (Nat.not_lt.mpr (Nat.le_add_right _ _))

variable {agent : Orchestrator}

theorem Approval.Step.advances {first last} (step : Step agent id first action last)
    (quiet : ∀ resolver calls, action ≠ .record resolver calls) :
    Descends (Advances first action) first.cell last.cell :=
  step.relates (fun _ => ⟨rfl, .inl rfl, .inl⟩) Advances.trans fun _ doc issued matched =>
    ⟨undecided_set (quiet_of_issues issued quiet) doc, .inr (issues_updatedAt issued),
      issues_pending issued matched⟩

/-- A step records decisions or advances the document. -/
theorem Approval.Step.records_or_advances {first last} (step : Step agent id first action last) :
    (∃ resolver decisions, action = .record resolver decisions) ∨
      Descends (Advances first action) first.cell last.cell := by
  by_cases records : ∃ resolver decisions, action = .record resolver decisions
  · exact .inl records
  · exact .inr (step.advances fun resolver decisions same => records ⟨resolver, decisions, same⟩)

end Advance

/-- Every document that is there carries a recorded verdict. -/
def Settled (state : Approval) : Prop := ∀ doc ∈ state.cell, undecided doc = false

/-- The live claim owns the batch until its decisions are recorded, and they close the batch to
other claims. -/
structure Exclusive (agent : Orchestrator) (calls : List PendingCall) (state : Approval) : Prop where
  valid : Validated state
  untouched : ∀ doc ∈ state.cell, undecided doc = true → doc.calls = calls
  closed : ∀ doc ∈ state.cell, undecided doc = false → doc.status ≠ .pending
  copied : ∀ resolver attempt copy, (state.resolvers resolver).copy = some (attempt, copy) →
    copy.calls = calls ∨ Settled state
  clock : ∀ resolver since, (state.resolvers resolver).since = some since → since ≤ state.now
  alone : ∀ resolver other since later, Live state resolver since → Live state other later → resolver = other
  held : ∀ resolver since, Live state resolver since → ∀ doc ∈ state.cell,
    doc.status ≠ .pending ∧ since ≤ doc.updatedAt
  unrecorded : ∀ resolver attempt copy since,
    state.resolvers resolver = .claimed attempt copy since → Live state resolver since →
    ∀ doc ∈ state.cell, undecided doc = true
  loaded : ∀ resume request batch loop unanswered, state.resumes resume = .running request batch loop unanswered →
    LoopAuthorised agent (.resume request batch) loop ∧ (undecided batch = true ∨ Settled state)

section Steps

variable {agent : Orchestrator} {id : String} {first last : Approval} {action : Action} {calls : List PendingCall}

/-- A claim needs a pending document and leaves it resolving. -/
theorem Approval.Step.claims {resolver} (step : Step agent id first (.claim resolver) last) :
    ∃ doc, first.cell = some doc ∧ doc.status = .pending ∧
      last.cell = some { doc with status := .resolving, updatedAt := first.now } := by
  cases step with
  | claim _ stored =>
    obtain ⟨doc, present, matched, rfl⟩ := stored.matched
    exact ⟨doc, present, of_decide_eq_true matched, rfl⟩

section

variable (inv : Exclusive agent calls first)

include inv

variable {decisions : List PendingCall} {resolver : Nat} {since : Time} {attempt : Attempt}
  {copy : PendingToolCallBatch}

/-- A timely record writes complete decisions over the persisted calls. -/
theorem Exclusive.record (waits : calls ≠ [])
    (step : Approval.Step agent id first (.record resolver decisions) last)
    (timely : Timely first (.record resolver decisions)) :
    (∀ doc ∈ first.cell, undecided doc = true) ∧ Decided decisions ∧ decisions ≠ [] := by
  have decided := step.decided_record inv.valid
  obtain ⟨since, alive⟩ := timely
  cases step with
  | @record _ attempt copy claimed _ _ _ _ phase stored =>
    obtain ⟨doc, present, _⟩ := stored.matched
    have same : claimed = since := by
      have own := alive.1
      rw [phase] at own
      exact Option.some.inj own
    subst same
    have open_ := inv.unrecorded resolver attempt copy claimed phase alive
    refine ⟨open_, decided, ?_⟩
    rcases inv.copied resolver attempt copy (by rw [phase]; rfl) with original | settled
    · rw [original]
      exact fun none => waits (map_eq_nil_iff.mp none)
    · have closed := settled doc present
      rw [open_ doc present] at closed
      cases closed

/-- A timely record settles the batch. -/
theorem Exclusive.settled_record (waits : calls ≠ [])
    (step : Approval.Step agent id first (.record resolver decisions) last)
    (timely : Timely first (.record resolver decisions)) : Settled last := by
  obtain ⟨_, decided, some_⟩ := inv.record waits step timely
  obtain ⟨_, _, written⟩ := step.recorded
  exact forall_mem_of_eq_some written (undecided_of_decided decided some_)

variable (step : Approval.Step agent id first action last)

include step

/-- Only a settled batch has a call that the loop marks. -/
theorem Exclusive.settled_of_marks {callID now}
    (issued : first.issues id action (.update (.markDispatched callID now))) : Settled first := by
  cases step with
  | agent phase taken =>
    obtain ⟨authorised, settled⟩ := inv.loaded _ _ _ _ _ phase
    rcases mem_agentWrites issued with ⟨_, marked, same⟩ | same
    · obtain ⟨worker, member, _⟩ := taken.workedBy _ marked
      have approved := authorised.workers worker member
      rcases settled with open_ | settled
      · rw [undecided_of_approved approved.member approved.verdict] at open_
        cases open_
      · exact settled
    · cases same
  | sweepResolving | sweepResuming => cases issued.2
  | _ => cases issued

theorem Exclusive.alone_step {other later} (alive : Live last resolver since)
    (rival : Live last other later) : resolver = other := by
  have exclusive : ∀ {claimer holder : Nat} {held : Time}, action = .claim claimer → ¬ Live first holder held := by
    rintro claimer holder held rfl before
    obtain ⟨doc, present, pending, _⟩ := step.claims
    exact (inv.held holder held before doc present).1 pending
  rcases step.live alive with before | ⟨claims, _⟩
  · rcases step.live rival with earlier | ⟨claims, _⟩
    · exact inv.alone _ _ _ _ before earlier
    · exact absurd before (exclusive claims)
  · rcases step.live rival with earlier | ⟨reclaims, _⟩
    · exact absurd earlier (exclusive claims)
    · rw [claims] at reclaims
      exact Action.claim.inj reclaims

variable (timely : Timely first action)

include timely

theorem Exclusive.held_step (alive : Live last resolver since) :
    ∀ doc ∈ last.cell, doc.status ≠ .pending ∧ since ≤ doc.updatedAt := by
  rcases step.live alive with before | ⟨rfl, rfl⟩
  · have inTime := inv.clock resolver since before.1
    rcases step.records_or_advances with ⟨_, _, rfl⟩ | advances
    · obtain ⟨earlier, present, written⟩ := step.recorded
      have notPending := (inv.held resolver since before earlier present).1
      exact forall_mem_of_eq_some written ⟨notPending, inTime⟩
    · intro doc member
      obtain ⟨earlier, inside, advance⟩ := advances doc member
      obtain ⟨notPending, young⟩ := inv.held resolver since before earlier inside
      constructor
      · intro pending
        rcases advance.pending pending with same | ⟨_, ⟨other, rfl⟩ | late⟩
        · exact notPending same
        · -- The live call that compensates is the live call itself, and it ends there.
          obtain ⟨_, mine⟩ := timely
          have same := inv.alone _ _ _ _ before mine
          subst same
          cases step with
          | compensate =>
            have own := alive.1
            simp only [Approval.setResolver, update_self] at own
            cases own
        · have limit : first.now ≤ since + orphanReconcileWindow := before.2
          have bound : since + orphanReconcileWindow ≤ earlier.updatedAt + orphanReconcileWindow :=
            Nat.add_le_add_right young _
          exact absurd late (Nat.not_lt.mpr (limit.trans bound))
      · rcases advance.updatedAt with same | now
        · rw [same]
          exact young
        · rw [now]
          exact inTime
  · obtain ⟨earlier, _, _, written⟩ := step.claims
    exact forall_mem_of_eq_some written ⟨BatchStatus.noConfusion, Nat.le_refl _⟩

theorem Exclusive.closed_step : ∀ doc ∈ last.cell, undecided doc = false → doc.status ≠ .pending := by
  intro doc member settled pending
  rcases step.records_or_advances with ⟨resolver, decisions, rfl⟩ | advances
  · obtain ⟨earlier, present, written⟩ := step.recorded
    obtain ⟨since, alive⟩ := timely
    rw [written] at member
    cases member
    exact (inv.held resolver since alive earlier present).1 pending
  · obtain ⟨earlier, inside, advance⟩ := advances doc member
    rw [advance.undecided] at settled
    rcases advance.pending pending with same | ⟨open_, _⟩
    · exact inv.closed earlier inside settled same
    · rw [open_] at settled
      cases settled

theorem Exclusive.unrecorded_step (phase : last.resolvers resolver = .claimed attempt copy since)
    (alive : Live last resolver since) : ∀ doc ∈ last.cell, undecided doc = true := by
  rcases step.claimed phase with ⟨before, own⟩ | rfl
  · have alive := step.now_le.trans alive.2
    have lives : Live first resolver since := ⟨by rw [before]; rfl, alive⟩
    have quiet : ∀ other decisions, action ≠ .record other decisions := by
      rintro other decisions rfl
      obtain ⟨_, rival⟩ := timely
      exact own decisions (by rw [inv.alone _ _ _ _ lives rival])
    intro doc member
    obtain ⟨earlier, inside, advance⟩ := step.advances quiet doc member
    rw [advance.undecided]
    exact inv.unrecorded resolver attempt copy since before lives earlier inside
  · obtain ⟨earlier, present, pending, written⟩ := step.claims
    cases open_ : undecided earlier with
    | true => exact forall_mem_of_eq_some written open_
    | false => exact absurd pending (inv.closed earlier present open_)

variable (waits : calls ≠ [])

include waits

theorem Exclusive.settled_step (settled : Settled first) : Settled last := by
  rcases step.records_or_advances with ⟨resolver, decisions, rfl⟩ | advances
  · exact inv.settled_record waits step timely
  · intro doc member
    obtain ⟨earlier, inside, advance⟩ := advances doc member
    rw [advance.undecided]
    exact settled earlier inside

theorem Exclusive.untouched_step : ∀ doc ∈ last.cell, undecided doc = true → doc.calls = calls := by
  intro doc member open_
  have unsettled : ¬ Settled last := by
    intro settled
    rw [settled doc member] at open_
    cases open_
  have quiet : ∀ resolver decisions, action ≠ .record resolver decisions := by
    rintro resolver decisions rfl
    exact unsettled (inv.settled_record waits step timely)
  have related : Descends (fun doc next => undecided next = undecided doc ∧ next.calls = doc.calls)
      first.cell last.cell := by
    refine step.relates (fun _ => ⟨rfl, rfl⟩) (fun left right =>
      ⟨right.1.trans left.1, right.2.trans left.2⟩) ?_
    intro op doc issued _
    have silent := Approval.quiet_of_issues issued quiet
    refine ⟨undecided_set silent doc, ?_⟩
    rcases set_calls silent doc with same | ⟨callID, now, rfl, _⟩
    · exact same
    · exact absurd (inv.settled_step step timely waits (inv.settled_of_marks step issued)) unsettled
  obtain ⟨earlier, inside, same, kept⟩ := related doc member
  rw [kept]
  exact inv.untouched earlier inside (same ▸ open_)

theorem Exclusive.copied_step (holds : (last.resolvers resolver).copy = some (attempt, copy)) :
    copy.calls = calls ∨ Settled last := by
  have settles := inv.settled_step step timely waits
  rcases step.copies holds with before | ⟨doc, present, rfl, _, _⟩
  · exact (inv.copied resolver attempt copy before).imp_right settles
  · rw [virtualizeExpiry_calls]
    cases open_ : undecided doc with
    | true => exact .inl (inv.untouched doc present open_)
    | false => exact .inr (settles (forall_mem_of_eq_some present open_))

theorem Exclusive.loaded_step {resume request batch loop unanswered}
    (running : last.resumes resume = .running request batch loop unanswered) :
    LoopAuthorised agent (.resume request batch) loop ∧ (undecided batch = true ∨ Settled last) := by
  have settles := inv.settled_step step timely waits
  constructor
  · exact step.loaded_authorised (fun _ _ _ _ earlier => (inv.loaded _ _ _ _ _ earlier).1) running
  · rcases step.loaded running with ⟨_, _, earlier, _⟩ | ⟨doc, present, _, rfl, _⟩
    · exact (inv.loaded _ _ _ _ _ earlier).2.imp_right settles
    · rw [undecided_virtualizeExpiry]
      cases open_ : undecided doc with
      | true => exact .inl rfl
      | false => exact .inr (settles (forall_mem_of_eq_some present open_))

end

/-- A timely step keeps the claim exclusive. -/
theorem Exclusive.step (inv : Exclusive agent calls first) (waits : calls ≠ [])
    (step : Approval.Step agent id first action last) (timely : Timely first action) :
    Exclusive agent calls last where
  valid := step.validated inv.valid
  untouched := inv.untouched_step step timely waits
  closed := inv.closed_step step timely
  copied _ _ _ := inv.copied_step step timely waits
  clock resolver since held := by
    rcases step.since held with before | ⟨_, rfl⟩
    · exact (inv.clock resolver since before).trans step.now_le
    · exact step.now_le
  alone _ _ _ _ := inv.alone_step step
  held _ _ := inv.held_step step timely
  unrecorded _ _ _ _ := inv.unrecorded_step step timely
  loaded _ _ _ _ _ := inv.loaded_step step timely waits

/-- Only a call's mark has changed, and no mark was taken back. -/
structure Kept (before after : PendingCall) : Prop where
  decision : { after with
    dispatched := before.dispatched, dispatchedAt := before.dispatchedAt } = before
  dispatched : before.dispatched = true → after.dispatched = true

def Flagged (calls : List PendingCall) (position : Nat) : Prop :=
  ∃ call, calls[position]? = some call ∧ call.dispatched = true

variable {known : List PendingCall}

theorem Flagged.kept {position} (flagged : Flagged known position)
    (related : List.Forall₂ Kept known calls) : Flagged calls position := by
  induction related generalizing position with
  | nil => exact flagged
  | cons head tail ih =>
    obtain ⟨call, found, set⟩ := flagged
    cases position with
    | zero =>
      cases found
      exact ⟨_, rfl, head.dispatched set⟩
    | succ position => exact ih ⟨call, found, set⟩

theorem forall₂_kept_refl (calls : List PendingCall) : List.Forall₂ Kept calls calls :=
  forall₂_same.mpr fun _ _ => ⟨rfl, id⟩

/-- A settled batch holds the known decisions, up to marks. -/
structure Sealed (agent : Orchestrator) (calls known : List PendingCall) (state : Approval) : Prop where
  exclusive : Exclusive agent calls state
  settled : Settled state
  related : ∀ doc ∈ state.cell, List.Forall₂ Kept known doc.calls

/-- No decision is recorded in a settled batch. -/
theorem Sealed.quiet (closed : Sealed agent calls known first) (waits : calls ≠ [])
    (step : Approval.Step agent id first action last) (timely : Timely first action) :
    ∀ resolver decisions, action ≠ .record resolver decisions := by
  rintro resolver decisions rfl
  obtain ⟨doc, present, _⟩ := step.recorded
  have open_ := (closed.exclusive.record waits step timely).1 doc present
  rw [closed.settled doc present] at open_
  cases open_

/-- So only marks change there. -/
theorem Sealed.step (closed : Sealed agent calls known first) (waits : calls ≠ [])
    (step : Approval.Step agent id first action last) (timely : Timely first action) :
    Sealed agent calls known last where
  exclusive := closed.exclusive.step waits step timely
  settled := closed.exclusive.settled_step step timely waits closed.settled
  related := by
    have marks : ∀ before after now, Kept before after →
        Kept before { after with dispatched := true, dispatchedAt := some now } :=
      fun _ _ _ kept => ⟨kept.decision, fun _ => rfl⟩
    exact step.keeps (fun _ _ quiet => forall₂_set_calls marks quiet)
      (closed.quiet waits step timely) closed.related

end Steps

section Runs

variable {agent : Orchestrator} {id : String} {batch : PendingToolCallBatch} {now : Time}
  {first last : Approval} {actions : List Action}

theorem exclusive_start (fresh : Fresh batch) : Exclusive agent batch.calls (.start batch now) where
  valid := validated_start batch now
  untouched doc member _ := by
    cases member
    rfl
  closed doc member settled := by
    cases member
    have open_ : undecided ((promote now).set (stage now batch)) = true := by
      rw [undecided, all_eq_true]
      intro call inside
      rw [fresh.undecided call inside]
      decide
    rw [open_] at settled
    cases settled
  copied _ _ _ held := by cases held
  clock _ _ held := by cases held
  alone resolver other since later alive := by
    cases alive.1
  held resolver since alive := by
    cases alive.1
  unrecorded _ _ _ _ phase := by cases phase
  loaded _ _ _ _ _ running := by cases running

theorem exclusive_of_run (fresh : Fresh batch)
    (run : Run (Guarded (Approval.Step agent id) Timely) (.start batch now) actions last) :
    Exclusive agent batch.calls last :=
  run.invariant (fun _ _ _ taken inv => inv.step fresh.waits taken.1 taken.2) (exclusive_start fresh)

theorem sealed_of_run {calls known} (waits : calls ≠ [])
    (run : Run (Guarded (Approval.Step agent id) Timely) first actions last)
    (closed : Sealed agent calls known first) : Sealed agent calls known last :=
  run.invariant (fun _ _ _ taken closed => closed.step waits taken.1 taken.2) closed

/-- A batch that a resume loads after a mark carries the mark. -/
theorem flagged_loaded {calls known position resume} (waits : calls ≠ [])
    (run : Run (Guarded (Approval.Step agent id) Timely) first actions last)
    (closed : Sealed agent calls known first) (flagged : Flagged known position)
    (unloaded : ∀ request loaded loop unanswered, first.resumes resume ≠ .running request loaded loop unanswered)
    {request loaded loop unanswered}
    (running : last.resumes resume = .running request loaded loop unanswered) : Flagged loaded.calls position := by
  have kept : ∀ first action last, Guarded (Approval.Step agent id) Timely first action last →
      (Sealed agent calls known first ∧ ∀ request loaded loop unanswered,
        first.resumes resume = .running request loaded loop unanswered →
        Flagged loaded.calls position) →
      Sealed agent calls known last ∧ ∀ request loaded loop unanswered,
        last.resumes resume = .running request loaded loop unanswered →
        Flagged loaded.calls position := by
    intro first action last ⟨step, timely⟩ ⟨closed, carried⟩
    have marked : ∀ doc ∈ first.cell, Flagged doc.calls position :=
      fun doc present => flagged.kept (closed.related doc present)
    exact ⟨closed.step waits step timely, fun _ _ _ _ running =>
      @loaded_calls _ _ _ _ _ _ (Flagged · position) _ _ _ _ step marked carried running⟩
  have start : ∀ request loaded loop unanswered, first.resumes resume = .running request loaded loop unanswered →
      Flagged loaded.calls position :=
    fun _ _ _ _ running => absurd running (unloaded _ _ _ _)
  exact (run.invariant kept ⟨closed, start⟩).2 _ _ _ _ running

/-- Only a settled batch carries a mark. -/
theorem settled_of_flagged {doc position} (fresh : Fresh batch)
    (inv : Exclusive agent batch.calls first) (present : doc ∈ first.cell)
    (flagged : Flagged doc.calls position) : Settled first := by
  cases open_ : undecided doc with
  | false => exact forall_mem_of_eq_some present open_
  | true =>
    obtain ⟨call, found, set⟩ := flagged
    rw [inv.untouched doc present open_] at found
    rw [fresh.undispatched call (mem_of_getElem? found)] at set
    cases set

/-- While every resolve call writes within the window of its claim, the first decisions stay, and no
later resume executes a marked call. -/
theorem decisions_single_author {before after : List Action} {middle : Approval} (fresh : Fresh batch)
    (run : Run (Guarded (Approval.Step agent id) Timely) (.start batch now) before middle)
    (rest : Run (Guarded (Approval.Step agent id) Timely) middle after last) :
    (∀ resolver decisions, .record resolver decisions ∈ before → (∀ other others, .record other others ∉ after) ∧
        ∀ doc ∈ last.cell, List.Forall₂ Kept decisions doc.calls) ∧
    ∀ doc ∈ middle.cell, ∀ position, Flagged doc.calls position →
      (∀ later ∈ last.cell, Flagged later.calls position) ∧ ∀ resume, (∀ request loaded loop unanswered,
          middle.resumes resume ≠ .running request loaded loop unanswered) → ∀ request loaded loop unanswered,
          last.resumes resume = .running request loaded loop unanswered →
        ∀ seen next toolName args approvalID call, Agent.Step agent loop seen next →
          .execute toolName args (.approved approvalID call) ∈ seen → loaded.calls[position]? ≠ some call := by
  constructor
  · intro resolver decisions member
    obtain ⟨earlier, between, rfl⟩ := append_of_mem member
    obtain ⟨source, target, head, ⟨step, timely⟩, tail⟩ := run.split_at
    have inv := exclusive_of_run fresh head
    have closed : Sealed agent batch.calls decisions target :=
      ⟨inv.step fresh.waits step timely, inv.settled_record fresh.waits step timely,
        step.recorded_calls (forall₂_kept_refl decisions)⟩
    have silent := (tail.append rest).forall_labels
      (fun _ _ _ taken closed => closed.step fresh.waits taken.1 taken.2)
      (fun _ _ _ taken closed => closed.quiet fresh.waits taken.1 taken.2) closed
    exact ⟨fun other others inside => silent _ (mem_append_right _ inside) other others rfl,
      (sealed_of_run fresh.waits (tail.append rest) closed).related⟩
  · intro doc present position flagged
    have inv := exclusive_of_run fresh run
    have closed : Sealed agent batch.calls doc.calls middle :=
      ⟨inv, settled_of_flagged fresh inv present flagged,
        forall_mem_of_eq_some present (forall₂_kept_refl doc.calls)⟩
    constructor
    · intro later member
      exact flagged.kept ((sealed_of_run fresh.waits rest closed).related later member)
    · intro resume unloaded request loaded loop unanswered running seen next toolName args
        approvalID call taken executed found
      obtain ⟨marked, same, set⟩ := flagged_loaded fresh.waits rest closed flagged unloaded running
      rw [found] at same
      cases same
      obtain ⟨worker, member, _, rfl, _⟩ := taken.workedBy _ executed
      have authorised := ((exclusive_of_run fresh (run.append rest)).loaded _ _ _ _ _ running).1
      rw [(authorised.workers worker member).undispatched] at set
      cases set

end Runs

open Sample

theorem decisions_single_author_approved :
    ∃ middle last, Run (Guarded (Approval.Step orchestrator "batch") Timely) (.start batch 1)
        [.read 0 attempt, .claim 0, .record 0 [approvedCall]] middle ∧
      Run (Guarded (Approval.Step orchestrator "batch") Timely) middle [.resumeClaim 0] last ∧
      ∀ doc ∈ last.cell, List.Forall₂ Kept [approvedCall] doc.calls := by
  have run : ∃ last, Run (Guarded (Approval.Step orchestrator "batch") Timely) (.start batch 1)
      ([.read 0 attempt, .claim 0, .record 0 [approvedCall]] ++ [.resumeClaim 0]) last :=
    ⟨_, .cons ⟨.read attempt rfl rfl rfl, trivial⟩ <| .cons ⟨.claim rfl (.updated rfl), trivial⟩ <|
      .cons ⟨@record _ _ _ _ attempt (doc .pending [waitingCall] 1) 1 _ ∅ ∅ true rfl (.updated rfl),
        1, rfl, by decide⟩ <|
      .cons ⟨.resumeClaim rfl (.updated rfl), trivial⟩ <| .nil _⟩
  obtain ⟨last, all⟩ := run
  obtain ⟨middle, before, after⟩ := all.split
  have author := decisions_single_author fresh_batch before after
  have recorded : .record 0 [approvedCall] ∈ [.read 0 attempt, .claim 0, Action.record 0 [approvedCall]] := by simp
  exact ⟨middle, last, before, after, (author.1 0 _ recorded).2⟩

/-- The same owner's second thought on the sample call. -/
def Sample.rejection : Attempt :=
  { attempt with input := { attempt.input with decisions := [⟨"call", .reject, none, "No"⟩] } }

def Sample.rejectedCall : PendingCall := { waitingCall with verdict := .reject, rejectReason := "No" }

def Sample.markedCall : PendingCall := { approvedCall with dispatched := true, dispatchedAt := some 300002 }

/-- A rejection stalls after its claim; the batch is reopened and approved, and a resume loads it.
-/
def Sample.reopened : List Action :=
  [.read 0 rejection, .claim 0, .tick 300002, .sweepResolving 300002, .read 1 attempt, .claim 1,
    .record 1 [approvedCall], .resumeClaim 0, .load 0 resumeRequest]

/-- The resume executes the approved call and marks it. -/
def Sample.dispatched : List Action :=
  [.agent 0 [], .agent 0 [.send (.toolCall "call" "google_business__reply_review" ∅)],
    .agent 0 [.execute "google_business__reply_review" ∅ (.approved "batch-call" approvedCall)],
    .agent 0 [.markDispatched "batch" "call",
      .send (.toolResult "call" "google_business__reply_review" (some .null) "" "")]]

theorem Sample.reopened_run : ∃ middle, Steps (.start batch 1) reopened middle ∧
      middle = ⟨300002, some (doc .resuming [approvedCall] 300002), middle.resolvers, middle.resumes⟩ ∧
      middle.resolvers 0 = .claimed rejection (doc .pending [waitingCall] 1) 1 ∧
      middle.resumes 0 = .running resumeRequest (doc .resuming [approvedCall] 300002)
        (loop [approvedCall] 300002) true := by
  exact ⟨_, .cons (.read _ rfl rfl rfl) <| .cons (.claim rfl (.updated rfl)) <|
    .cons (.tick _ (by decide)) <| .cons (.sweepResolving (by decide) (.updated rfl)) <|
    .cons (.read _ rfl rfl rfl) <| .cons (.claim rfl (.updated rfl)) <|
    .cons (@record _ _ _ _ attempt (doc .pending [waitingCall] 300002) 300002 _ ∅ ∅
      true rfl (.updated rfl)) <|
    .cons (.resumeClaim rfl (.updated rfl)) <| .cons (.load _ rfl rfl) <| .nil _, rfl, rfl, rfl⟩

/-- Then the stalled rejection replaces the approval and clears the mark. -/
theorem decisions_replaced :
    ∃ first middle last, Steps (.start batch 1) reopened first ∧ Steps first dispatched middle ∧
      (∃ doc ∈ middle.cell, doc.calls = [markedCall]) ∧ Steps middle [.record 0 [rejectedCall]] last ∧
      ∃ doc ∈ last.cell, doc.calls = [rejectedCall] := by
  obtain ⟨first, before, shape, resolver, running⟩ := reopened_run
  rw [shape] at before resolver running
  have marked : ∃ middle, Steps ⟨300002, some (doc .resuming [approvedCall] 300002), first.resolvers,
      first.resumes⟩ dispatched middle ∧
      middle = ⟨300002, some (doc .resuming [markedCall] 300002), first.resolvers, middle.resumes⟩ :=
    ⟨_, .cons (.agent running (.dispatchApproved (.spawned (by decide))) (.nil _) (nil_sublist _)) <|
      .cons (.agent rfl (.worker (@WorkerStep.announced _ _ _ [] _ _ _ _)) (.nil _) (nil_sublist _)) <|
      .cons (.agent rfl (.worker (@WorkerStep.executed _ _ _ [] _ _ _ _)) (.nil _) (nil_sublist _)) <|
      .cons (.agent rfl (.worker (@WorkerStep.returned _ _ _ [] _ _ _ _ _ (.value .null) .sent))
        (.single (.updated rfl)) (List.Sublist.refl _)) <| .nil _, rfl⟩
  obtain ⟨middle, steps, after⟩ := marked
  rw [after] at steps
  exact ⟨_, _, _, before, steps, ⟨_, rfl, rfl⟩, .single (@record _ _ _ _ rejection
      (doc .pending [waitingCall] 1) 1 _ ∅ ∅ true resolver (.updated rfl)),
    ⟨_, rfl, rfl⟩⟩

end OneVoice.Hitl
