/- A saved post is published at most once. A claim excludes every other operation until its outcome
is stored, and only an outcome without a sending opens the way to another. -/

import OneVoice.Construction.Posts.Service

namespace OneVoice.Posts

open Library Domain Phase List.Subset

/-- What the answer to an operation says about the platform. -/
inductive Standing where
  | confirmed
  | failed
  | uncertain
deriving DecidableEq

def Job.standing (job : Job) (answer : Answer) : Standing :=
  if job.worker then
    match (job.publishReceipt answer).1 with
    | none => .confirmed
    | some failure => if failure.uncertain then .uncertain else .failed
  else
    match (job.mutateReceipt answer).1 with
    | none => .confirmed
    | some failure => if job.mutateUncertain answer failure then .uncertain else .failed

/-- The operation of the job brings the post onto the platform. -/
def Job.publishes (job : Job) : Bool :=
  match job.operation with
  | .ok operation => operation.tool.publishes
  | .error _ => false

namespace Phase

@[simp] def operationID : Phase → Option String
  | .admitted _ id | .claimed _ id | .sent _ id | .answered _ id _ _ | .completed _ id _ _
  | .lost _ id _ => some id
  | _ => none

@[simp] def job : Phase → Option Job
  | .admitted job _ | .claimed job _ | .sent job _ | .answered job _ _ _ | .completed job _ _ _
  | .lost job _ _ => some job
  | _ => none

/-- The claim of the call has been won and not been given back. -/
@[simp] def holds : Phase → Option String
  | .claimed _ id | .sent _ id | .answered _ id _ _ | .lost _ id _ => some id
  | _ => none

/-- The call has won its claim at some time. -/
@[simp] def hasClaimed : Phase → Bool
  | .claimed .. | .sent .. | .answered .. | .completed .. | .lost .. => true
  | _ => false

/-- The request is out and no answer has told what became of it. -/
def inFlight : Phase → Bool
  | .sent .. => true
  | .lost _ _ out => out
  | .answered job _ out answer | .completed job _ out answer =>
    out && job.standing answer = .uncertain
  | _ => false

/-- A publication has gone out, and no answer has told that it failed. -/
def stands : Phase → Bool
  | .sent job _ => job.publishes
  | .lost job _ out => out && job.publishes
  | .answered job _ out answer | .completed job _ out answer =>
    out && job.publishes && job.standing answer ≠ .failed
  | _ => false

/-- A stored outcome that may have brought the post out. -/
@[simp] def closed : Phase → Bool
  | .completed job _ _ answer => job.action = .retry && job.standing answer ≠ .failed
  | _ => false

@[simp] def unknown : Phase → Bool
  | .completed job _ _ answer => job.standing answer = .uncertain
  | _ => false

end Phase

/-- A worker's copy is what it claimed; a mutation's passed the checks. -/
structure Job.Sound (job : Job) : Prop where
  due : job.worker = true → job = .ofDue job.post
  retried : job.worker = false → job.action = .retry → job.post.status = .error
  changed : job.action ≠ .retry → job.worker = false ∧ job.post.status = .published
  publishes : job.publishes = true → job.action = .retry

section

variable {post changed : Post}

variable {id : String}

theorem claimDue_some {clock} (claimed : post.claimDue clock id = some changed) :
    post.status = .scheduled ∧ post.operationID = "" ∧ (∃ due, post.scheduledAt = some due ∧ due ≤ clock) ∧
      changed = { post with status := .processing, operationID := id } := by
  unfold Post.claimDue at claimed
  split at claimed
  · rename_i ready
    cases claimed
    have due : ∃ due, post.scheduledAt = some due ∧ due ≤ clock := by
      simpa [Option.any_eq_true] using ready.2.1
    exact ⟨ready.1, ready.2.2.2.2, due, rfl⟩
  · cases claimed

variable {businessID : String}

theorem updateScheduled_some {scheduledAt content status}
    (updated : post.updateScheduled businessID scheduledAt content status = some changed) :
    post.status = .scheduled ∧ post.operationID = "" ∧ changed.operationID = "" ∧ changed.status = status := by
  unfold Post.updateScheduled at updated
  split at updated
  · rename_i ready
    cases updated
    exact ⟨ready.2.1, ready.2.2.2, ready.2.2.2, rfl⟩
  · cases updated

theorem claimOperation_some {previous} (claimed : post.claimOperation businessID previous id = some changed) :
    post.status = previous ∧ post.operationID = "" ∧
      changed = { post with status := .processing, operationID := id } := by
  unfold Post.claimOperation at claimed
  split at claimed
  · rename_i ready
    cases claimed
    exact ⟨ready.2.1, ready.2.2, rfl⟩
  · cases claimed

theorem completeOperation_some {outcome} (completed : post.completeOperation outcome id = some changed) :
    changed.operationID = "" ∧ changed.status = outcome.status := by
  unfold Post.completeOperation at completed
  split at completed
  · cases completed
    exact ⟨rfl, rfl⟩
  · cases completed

end

section

variable {job : Job} {answer : Answer} {now : Time} {post : Post}

variable {content : Option String}

variable {action : PostAction} {actor : Actor} {dispatches : Bool}

theorem publishes_of_postOperation {platform result operation}
    (built : postOperation post platform result action content = .ok operation)
    (publishes : operation.tool.publishes = true) : action = .retry := by
  simp only [postOperation, bind_ok] at built
  obtain ⟨_, _, built⟩ := built
  split at built
  · assumption
  · simp only [bind_ok] at built
    obtain ⟨id, _, built⟩ := built
    split at built
    · cases built
      simp only at publishes
      split at publishes <;> cases publishes
    · split at built <;> cases built <;> cases publishes

theorem sound_ofDue (post : Post) : (Job.ofDue post).Sound where
  due := fun _ => rfl
  retried := fun mutation => nomatch mutation
  changed := fun other => absurd rfl other
  publishes := fun _ => rfl

theorem sound_of_admitMutation (admitted : admitMutation post action content = .ok job) :
    job.Sound ∧ job.worker = false := by
  simp only [admitMutation, bind_ok, expect_ok, pure_ok] at admitted
  obtain ⟨_, _, entry, _, _, _, _, checked, _, _, operation, built, rfl⟩ := admitted
  unfold checkStatus at checked
  refine ⟨⟨?_, ?_, ?_, ?_⟩, rfl⟩
  · intro worker
    cases worker
  · intro _ retry
    rw [if_pos retry, require_ok] at checked
    exact checked.1
  · intro other
    rw [if_neg other, require_ok] at checked
    exact ⟨rfl, checked.1⟩
  · exact publishes_of_postOperation built

/-- The job of a mutation has passed the checks for its action. -/
theorem admitMutation_of_mutate {businessID raw}
    (admitted : mutate dispatches actor businessID raw content post = .ok (.inr job)) :
    ∃ action, admitMutation post action content = .ok job := by
  simp only [mutate, bind_ok] at admitted
  obtain ⟨action, _, _, _, _, _, admitted⟩ := admitted
  split at admitted
  · simp only [bind_ok] at admitted
    obtain ⟨_, _, never⟩ := admitted
    cases never
  · simp only [bind_ok, pure_ok] at admitted
    obtain ⟨_, _, admittedJob, checked, same⟩ := admitted
    cases same
    exact ⟨action, checked⟩

theorem sound_of_mutate {businessID raw}
    (admitted : mutate dispatches actor businessID raw content post = .ok (.inr job)) :
    job.Sound ∧ job.worker = false := by
  obtain ⟨action, checked⟩ := admitMutation_of_mutate admitted
  exact sound_of_admitMutation checked

/-- The status that the outcome of a job leaves behind. -/
theorem outcome_status (job : Job) (answer : Answer) (now : Time) :
    (job.outcome answer now).status = match job.standing answer with
      | .uncertain => .uncertain
      | .failed => if job.worker then .error else job.post.status
      | .confirmed => if ¬ job.worker ∧ job.action = .delete then .deleted else .published := by
  unfold Job.outcome Job.standing
  split <;> rename_i worker
  · unfold Job.publishOutcome
    rcases job.publishReceipt answer with ⟨_ | failure, result⟩
    · simp [worker]
    · cases uncertain : failure.uncertain <;> simp [uncertain]
  · unfold Job.mutateOutcome
    rcases job.mutateReceipt answer with ⟨_ | failure, result⟩
    · simp [worker]
    · cases uncertain : job.mutateUncertain answer failure <;>
        simp [uncertain, Post.setResult]

theorem outcome_ne_scheduled (sound : job.Sound) : (job.outcome answer now).status ≠ .scheduled := by
  rw [outcome_status]
  cases job.standing answer with
  | uncertain => simp
  | confirmed => simp only; split <;> simp
  | failed =>
    simp only
    split <;> rename_i worker
    · simp
    · by_cases retry : job.action = .retry
      · simp [sound.retried (by simpa using worker) retry]
      · simp [(sound.changed retry).2]

/-- An outcome from which no publication can start. -/
theorem outcome_ne_error (sound : job.Sound) (closes : job.action = .retry → job.standing answer ≠ .failed) :
    (job.outcome answer now).status ≠ .error := by
  rw [outcome_status]
  by_cases retry : job.action = .retry
  · cases standing : job.standing answer with
    | failed => exact absurd standing (closes retry)
    | uncertain => simp
    | confirmed => simp only; split <;> simp
  · obtain ⟨worker, published⟩ := sound.changed retry
    cases job.standing answer with
    | failed => simp [worker, published]
    | uncertain => simp
    | confirmed => simp only; split <;> simp

end

/-- What holds for each call, whatever the others do. -/
structure CallOk (post : Post) (issued : List String) (now : Time) (phase : Phase) : Prop where
  issued : ∀ id, phase.operationID = some id → id ∈ issued ∧ id ≠ ""
  clock : ∀ clock, phase = .waking clock → clock ≤ now
  mutation : ∀ job id, phase = .admitted job id → job.worker = false
  sound : ∀ job, phase.job = some job → job.Sound
  holder : ∀ id, phase.holds = some id → post.operationID = id ∧ post.status = .processing
  claimed : phase.hasClaimed = true → post.status ≠ .scheduled
  closed : phase.closed = true → post.status ≠ .error
  unknown : phase.unknown = true → post.status = .uncertain ∧ post.operationID = ""

/-- What holds for the phases of two different calls. -/
structure PairOk (first second : Phase) : Prop where
  distinct : ∀ id, first.operationID = some id → second.operationID ≠ some id
  closed : first.closed = true → ∀ id job, second.holds = some id → second.job = some job → job.action ≠ .retry
  unknown : ¬ (first.unknown = true ∧ second.unknown = true)

structure Consistent (state : State) : Prop where
  blank : "" ∈ state.issued
  stored : state.post.operationID ∈ state.issued
  calls : ∀ call phase, state.calls call = some phase → CallOk state.post state.issued state.now phase
  pairs : ∀ call other phase second, call ≠ other → state.calls call = some phase →
    state.calls other = some second → PairOk phase second

section

variable {post next : Post} {issued more : List String} {now later : Time} {phase old new : Phase}
  {id : String} {job : Job} {answer : Answer}

theorem Phase.operationID_of_holds (held : phase.holds = some id) : phase.operationID = some id := by
  cases phase <;> first | exact held | cases held

theorem Phase.hasClaimed_of_holds (held : phase.holds = some id) : phase.hasClaimed = true := by
  cases phase <;> first | rfl | cases held

theorem Phase.hasClaimed_of_closed (closed : phase.closed = true) : phase.hasClaimed = true := by
  cases phase <;> first | rfl | cases closed

theorem Phase.hasClaimed_of_unknown (unknown : phase.unknown = true) : phase.hasClaimed = true := by
  cases phase <;> first | rfl | cases unknown

namespace CallOk

section

variable (ok : CallOk post issued now phase)

include ok

theorem mono (grows : issued ⊆ more) (passes : now ≤ later) : CallOk post more later phase :=
  { ok with
    issued := fun id found => ⟨grows (ok.issued id found).1, (ok.issued id found).2⟩
    clock := fun clock waking => Nat.le_trans (ok.clock clock waking) passes }

/-- Another call claims a post that nobody holds. -/
theorem claim (free : post.operationID = "") (known : post.status ≠ .uncertain) :
    CallOk { post with status := .processing, operationID := id } issued now phase := { ok with
  holder held found := by
    have present := (ok.holder held found).1
    rw [free] at present
    exact absurd present.symm (ok.issued held (operationID_of_holds found)).2
  claimed := by simp
  closed := by simp
  unknown := fun unknown => absurd (ok.unknown unknown).1 known }

/-- Another call changes the queued post, so this one has not claimed it. -/
theorem update (queued : post.status = .scheduled) : CallOk next issued now phase := by
  have unclaimed : phase.hasClaimed ≠ true := fun claimed => ok.claimed claimed queued
  exact
    { issued := ok.issued
      clock := ok.clock
      mutation := ok.mutation
      sound := ok.sound
      holder := fun _ found => absurd (hasClaimed_of_holds found) unclaimed
      claimed := fun claimed => absurd claimed unclaimed
      closed := fun closed => absurd (hasClaimed_of_closed closed) unclaimed
      unknown := fun unknown => absurd (hasClaimed_of_unknown unknown) unclaimed }

/-- Another call stores the outcome of the claim that it holds. -/
theorem complete (holder : CallOk post issued now old) (held : old.holds = some id)
    (works : old.job = some job) (pair : PairOk phase old)
    (stored : next.status = (job.outcome answer now).status) : CallOk next issued now phase := { ok with
  holder other found := by
    have same : other = id := (ok.holder other found).1.symm.trans (holder.holder id held).1
    rw [same] at found
    exact absurd (operationID_of_holds held) (pair.distinct id (operationID_of_holds found))
  claimed _ := by
    rw [stored]
    exact outcome_ne_scheduled (holder.sound job works)
  closed closed := by
    rw [stored]
    exact outcome_ne_error (holder.sound job works) fun retry =>
      absurd retry (pair.closed closed id job held works)
  unknown unknown := by
    have released := (ok.unknown unknown).2
    rw [(holder.holder id held).1] at released
    exact absurd released (holder.issued id (operationID_of_holds held)).2 }

end

end CallOk

/-- A move that neither wins a claim nor gives one back. -/
structure Quiet (old new : Phase) : Prop where
  clock : ∀ clock, new ≠ .waking clock
  mutation : ∀ job id, new ≠ .admitted job id
  operationID : ∀ id, new.operationID = some id → old.operationID = some id
  job : ∀ job, new.job = some job → old.job = some job
  holds : ∀ id, new.holds = some id → old.holds = some id
  hasClaimed : new.hasClaimed = true → old.hasClaimed = true
  closed : new.closed = true → old.closed = true
  unknown : new.unknown = true → old.unknown = true

theorem Quiet.callOk (quiet : Quiet old new) (ok : CallOk post issued now old) : CallOk post issued now new where
  issued := fun id found => ok.issued id (quiet.operationID id found)
  clock := fun clock waking => absurd waking (quiet.clock clock)
  mutation := fun job id admitted => absurd admitted (quiet.mutation job id)
  sound := fun job found => ok.sound job (quiet.job job found)
  holder := fun id found => ok.holder id (quiet.holds id found)
  claimed := fun claimed => ok.claimed (quiet.hasClaimed claimed)
  closed := fun closed => ok.closed (quiet.closed closed)
  unknown := fun unknown => ok.unknown (quiet.unknown unknown)

theorem Quiet.first (quiet : Quiet old new) (pair : PairOk old phase) : PairOk new phase where
  distinct := fun id found => pair.distinct id (quiet.operationID id found)
  closed := fun closed => pair.closed (quiet.closed closed)
  unknown := fun both => pair.unknown ⟨quiet.unknown both.1, both.2⟩

theorem Quiet.second (quiet : Quiet old new) (pair : PairOk phase old) : PairOk phase new where
  distinct := fun id found same => pair.distinct id found (quiet.operationID id same)
  closed := fun closed id job held works =>
    pair.closed closed id job (quiet.holds id held) (quiet.job job works)
  unknown := fun both => pair.unknown ⟨both.1, quiet.unknown both.2⟩

theorem quiet_crash (phase : Phase) : Quiet phase phase.crash := by
  cases phase <;> constructor <;> simp [crash]

/-- A call without a claim fits every other, if its identifier is new. -/
theorem pairOk_of_unclaimed (unclaimed : new.hasClaimed = false)
    (fresh : ∀ id, new.operationID = some id → phase.operationID ≠ some id) :
    PairOk new phase ∧ PairOk phase new := by
  have never : new.hasClaimed ≠ true := by
    rw [unclaimed]
    exact Bool.false_ne_true
  constructor
  · exact
      { distinct := fresh
        closed := fun closed => absurd (hasClaimed_of_closed closed) never
        unknown := fun both => never (hasClaimed_of_unknown both.1) }
  · exact
      { distinct := fun id found same => fresh id same found
        closed := fun _ _ _ held => absurd (hasClaimed_of_holds held) never
        unknown := fun both => never (hasClaimed_of_unknown both.2) }

end

theorem consistent_start (post : Post) (now : Time) : Consistent (.start post now) where
  blank := by simp [State.start]
  stored := by simp [State.start]
  calls := fun _ _ open_ => nomatch open_
  pairs := fun _ _ _ _ _ open_ => nomatch open_

namespace Consistent

variable {state : State} {call : Nat} {phase : Phase} {post : Post} {issued : List String}

section

variable (consistent : Consistent state)

include consistent

/-- A call moves on, and the document changes as suits the others. -/
theorem move (grows : state.issued ⊆ issued) (stored : post.operationID ∈ issued)
    (self : CallOk post issued state.now phase)
    (others : ∀ other second, other ≠ call → state.calls other = some second →
      CallOk state.post state.issued state.now second → CallOk post issued state.now second)
    (pairs : ∀ other second, other ≠ call → state.calls other = some second →
      PairOk phase second ∧ PairOk second phase) :
    Consistent ({ state with issued := issued }.move call phase post) where
  blank := grows consistent.blank
  stored := stored
  calls other second found := by
    obtain ⟨_, ⟨⟩⟩ | ⟨same, old⟩ := cell_update found
    · exact self
    · exact others other second same old (consistent.calls other second old)
  pairs one other first second apart found listed := by
    obtain ⟨moved, ⟨⟩⟩ | ⟨stayed, old⟩ := cell_update found <;>
      obtain ⟨same, ⟨⟩⟩ | ⟨still, kept⟩ := cell_update listed
    · exact absurd (moved.trans same.symm) apart
    · exact (pairs other second still kept).1
    · exact (pairs one first stayed old).2
    · exact consistent.pairs one other first second apart old kept

theorem quiet {old} (found : state.calls call = some old) (quiet : Quiet old phase) :
    Consistent (state.move call phase state.post) := by
  have ok := consistent.calls call old found
  apply consistent.move (refl _) consistent.stored (quiet.callOk ok)
  · exact fun _ _ _ _ same => same
  · intro other second apart listed
    exact ⟨quiet.first (consistent.pairs call other old second apart.symm found listed),
      quiet.second (consistent.pairs other call second old apart listed found)⟩

/-- A call that has claimed nothing yet is let in. -/
theorem enter (unclaimed : phase.hasClaimed = false) (grows : state.issued ⊆ issued)
    (self : CallOk state.post issued state.now phase) (fresh : ∀ id, phase.operationID = some id → id ∉ state.issued) :
    Consistent ({ state with issued := issued }.move call phase state.post) := by
  apply consistent.move grows (grows consistent.stored) self
  · exact fun _ _ _ _ ok => ok.mono grows (Nat.le_refl _)
  · intro other second _ listed
    apply pairOk_of_unclaimed unclaimed
    intro id named same
    exact fresh id named ((consistent.calls other second listed).issued id same).1

variable {id : String} {job : Job}

/-- A call wins its claim on a post that nobody holds. -/
theorem claim {job id} (grows : state.issued ⊆ issued)
    (fresh : id ∈ issued ∧ id ≠ "") (free : state.post.operationID = "") (sound : job.Sound)
    (ready : state.post.status = .scheduled ∨ state.post.status = job.post.status ∧ job.worker = false)
    (distinct : ∀ other second, other ≠ call → state.calls other = some second → second.operationID ≠ some id) :
    Consistent ({ state with issued := issued }.move call (.claimed job id)
      { state.post with status := .processing, operationID := id }) := by
  have known : state.post.status ≠ .uncertain := by
    rcases ready with queued | ⟨same, mutation⟩
    · simp [queued]
    · by_cases retry : job.action = .retry
      · simp [same, sound.retried mutation retry]
      · simp [same, (sound.changed retry).2]
  apply consistent.move grows fresh.1
  · constructor
    · rintro _ ⟨⟩
      exact fresh
    · simp
    · simp
    · rintro _ ⟨⟩
      exact sound
    · rintro _ ⟨⟩
      exact ⟨rfl, rfl⟩
    · simp
    · simp
    · simp
  · exact fun _ _ _ _ ok => (ok.mono grows (Nat.le_refl _)).claim free known
  · intro other second apart listed
    have named := distinct other second apart listed
    have ok := consistent.calls other second listed
    constructor
    · exact
        { distinct := by rintro _ ⟨⟩; exact named
          closed := by simp
          unknown := by simp }
    · constructor
      · rintro held found ⟨⟩
        exact named found
      · rintro closed _ _ ⟨⟩ ⟨⟩ retry
        rcases ready with queued | ⟨same, mutation⟩
        · exact ok.claimed (hasClaimed_of_closed closed) queued
        · exact ok.closed closed (same.trans (sound.retried mutation retry))
      · simp

/-- The holder stores its outcome and gives its claim back. -/
theorem complete {out answer} (found : state.calls call = some (.answered job id out answer))
    (released : post.operationID = "") (stored : post.status = (job.outcome answer state.now).status) :
    Consistent (state.move call (.completed job id out answer) post) := by
  have holder := consistent.calls call _ found
  have sound := holder.sound job rfl
  have held := (holder.holder id rfl).1
  have named := (holder.issued id rfl).2
  have empty : post.operationID ∈ state.issued := by
    rw [released]
    exact consistent.blank
  apply consistent.move (refl _) empty
  · constructor
    · exact holder.issued
    · simp
    · simp
    · exact holder.sound
    · simp
    · intro _
      rw [stored]
      exact outcome_ne_scheduled sound
    · intro closed
      rw [stored]
      simp only [Phase.closed, Bool.and_eq_true, decide_eq_true_eq] at closed
      exact outcome_ne_error sound fun _ => closed.2
    · intro unknown
      simp only [Phase.unknown, decide_eq_true_eq] at unknown
      rw [stored, outcome_status, unknown]
      exact ⟨rfl, released⟩
  · intro other second different listed ok
    exact ok.complete holder rfl rfl (consistent.pairs other call second _ different listed found) stored
  · intro other second different listed
    have ok := consistent.calls other second listed
    have apart := consistent.pairs call other _ second different.symm found listed
    have separate := consistent.pairs other call second _ different listed found
    have settled : second.unknown ≠ true := by
      intro unknown
      have gone := (ok.unknown unknown).2
      rw [held] at gone
      exact named gone
    constructor
    · constructor
      · exact apart.distinct
      · intro _ other _ holds _
        have same : other = id := (ok.holder other holds).1.symm.trans held
        rw [same] at holds
        exact absurd (Phase.operationID_of_holds holds) (apart.distinct id rfl)
      · exact fun both => settled both.2
    · exact
        { distinct := separate.distinct
          closed := fun _ _ _ holds => nomatch holds
          unknown := fun both => settled both.1 }

/-- A queued post is changed, which nobody has claimed. -/
theorem update (queued : state.post.status = .scheduled) (released : post.operationID = "") :
    Consistent (state.move call .changed post) := by
  have empty : post.operationID ∈ state.issued := by
    rw [released]
    exact consistent.blank
  apply consistent.move (refl _) empty
  · constructor <;> simp
  · exact fun _ _ _ _ ok => ok.update queued
  · exact fun _ _ _ _ => pairOk_of_unclaimed rfl (by simp)

end

variable {dispatches : Bool}

theorem step {action next} (taken : Step dispatches state action next)
    (consistent : Consistent state) : Consistent next := by
  have fresh : ∀ {id}, id ∉ state.issued → id ≠ "" := by
    rintro _ new rfl
    exact new consistent.blank
  cases taken with
  | pass duration =>
    exact
      { consistent with
        calls := fun call phase found =>
          (consistent.calls call phase found).mono (refl _) (Nat.le_add_right ..) }
  | wake idle enabled | reschedule idle admitted | mutateQueued idle admitted =>
    apply consistent.enter rfl (refl _) _ (by simp)
    constructor <;> simp
  | claimDue waking new claimed =>
    obtain ⟨queued, free, _, rfl⟩ := claimDue_some claimed
    apply consistent.claim (List.subset_cons_self ..) ⟨List.mem_cons_self .., fresh new⟩ free
      (sound_ofDue _) (.inl queued)
    intro other second _ listed same
    exact new ((consistent.calls other second listed).issued _ same).1
  | mutate idle new admitted =>
    apply consistent.enter rfl (List.subset_cons_self ..)
    · constructor
      · rintro _ ⟨⟩
        exact ⟨List.mem_cons_self .., fresh new⟩
      · simp
      · rintro _ _ ⟨⟩
        exact (sound_of_mutate admitted).2
      · rintro _ ⟨⟩
        exact (sound_of_mutate admitted).1
      all_goals simp
    · rintro _ ⟨⟩
      exact new
  | update changing updated =>
    obtain ⟨queued, _, released, _⟩ := updateScheduled_some updated
    exact consistent.update queued released
  | claimOperation admitted claimed =>
    obtain ⟨same, free, rfl⟩ := claimOperation_some claimed
    have ok := consistent.calls _ _ admitted
    apply consistent.claim (refl _) (ok.issued _ rfl) free (ok.sound _ rfl)
      (.inr ⟨same, ok.mutation _ _ rfl⟩)
    intro other second apart listed named
    exact (consistent.pairs other _ second _ apart listed admitted).distinct _ named rfl
  | send held operation | skip held operation | answer _ held =>
    exact consistent.quiet held (by constructor <;> simp)
  | complete answered completed =>
    obtain ⟨released, stored⟩ := completeOperation_some completed
    exact consistent.complete answered released stored
  | finish found => exact consistent.quiet found (quiet_crash _)

theorem run {actions last} (run : Run (Step dispatches) state actions last)
    (consistent : Consistent state) : Consistent last :=
  run.invariant (fun _ _ _ taken => step taken) consistent

end Consistent

section

variable {phase : Phase} {job : Job}

theorem Phase.holds_or_unknown (flies : phase.inFlight = true) :
    (∃ id, phase.holds = some id) ∨ phase.unknown = true := by
  cases phase with
  | sent job id | answered job id out answer | lost job id out => exact .inl ⟨id, rfl⟩
  | completed job id out answer =>
    simp only [inFlight, Bool.and_eq_true] at flies
    exact .inr flies.2
  | _ => cases flies

/-- A publication that stands is still held or stored. -/
theorem Phase.holds_or_closed (stands : phase.stands = true) (sound : ∀ job, phase.job = some job → job.Sound) :
    (∃ id, phase.holds = some id ∧ ∀ job, phase ≠ .claimed job id) ∨ phase.closed = true := by
  cases phase with
  | sent job id | answered job id out answer | lost job id out => exact .inl ⟨id, rfl, by simp⟩
  | completed job id out answer =>
    simp only [Phase.stands, Bool.and_eq_true] at stands
    have retry := (sound job rfl).publishes stands.1.2
    exact .inr (by simp [retry, stands.2])
  | _ => cases stands

/-- The worker sends the content of its copy. -/
theorem content_of_due {operation} (sound : job.Sound) (worker : job.worker = true)
    (built : job.operation = .ok operation) : operation.content = some job.post.content := by
  rw [sound.due worker] at built ⊢
  simp only [Job.ofDue, postOperation, bind_ok, if_true] at built
  obtain ⟨_, _, built⟩ := built
  unfold publication at built
  split at built <;> cases built <;> rfl

end

namespace State

def InFlight (state : State) (call : Nat) : Prop := ∃ phase, state.calls call = some phase ∧ phase.inFlight = true

/-- A sent publication, confirmed, uncertain or not completed. -/
def Stands (state : State) (call : Nat) : Prop := ∃ phase, state.calls call = some phase ∧ phase.stands = true

def Unclaimed (state : State) : Prop := ∀ call phase, state.calls call = some phase → phase.hasClaimed = false

/-- The operation of the call is on its way. -/
def Sends (state : State) (call : Nat) (worker : Bool) (operation : Operation) : Prop :=
  ∃ job id, state.calls call = some (.sent job id) ∧ job.worker = worker ∧ job.operation = .ok operation

end State

section

variable {state : State}
  {call other : Nat}

namespace Consistent

theorem inFlight_unique (consistent : Consistent state) (flies : state.InFlight call)
    (also : state.InFlight other) : call = other := by
  obtain ⟨first, found, flies⟩ := flies
  obtain ⟨second, listed, also⟩ := also
  by_contra apart
  have ok := consistent.calls call first found
  have good := consistent.calls other second listed
  have pair := consistent.pairs call other first second apart found listed
  rcases holds_or_unknown flies with ⟨id, held⟩ | unknown
  · rcases holds_or_unknown also with ⟨second_id, holds⟩ | settled
    · have same : second_id = id := (good.holder _ holds).1.symm.trans (ok.holder id held).1
      rw [same] at holds
      exact pair.distinct id (operationID_of_holds held) (operationID_of_holds holds)
    · have status := (good.unknown settled).1
      rw [(ok.holder id held).2] at status
      cases status
  · rcases holds_or_unknown also with ⟨id, holds⟩ | settled
    · have status := (ok.unknown unknown).1
      rw [(good.holder id holds).2] at status
      cases status
    · exact pair.unknown ⟨unknown, settled⟩

/-- While a publication stands, no call is ready to send another one. -/
theorem not_publishes (consistent : Consistent state) (stands : state.Stands call) {job id}
    (claimed : state.calls other = some (.claimed job id)) : job.publishes = false := by
  obtain ⟨phase, found, stands⟩ := stands
  have ok := consistent.calls call phase found
  have good := consistent.calls other _ claimed
  rcases holds_or_closed stands ok.sound with ⟨held, holds, beyond⟩ | closed
  · have same : held = id := (ok.holder held holds).1.symm.trans (good.holder id rfl).1
    subst same
    by_cases moved : call = other
    · rw [moved, claimed] at found
      cases found
      exact absurd rfl (beyond job)
    · have pair := consistent.pairs call other phase _ moved found claimed
      exact absurd rfl (pair.distinct held (operationID_of_holds holds))
  · have apart : call ≠ other := by
      rintro rfl
      rw [claimed] at found
      cases found
      cases closed
    have pair := consistent.pairs call other phase _ apart found claimed
    by_contra publishes
    exact pair.closed closed id job rfl rfl ((good.sound job rfl).publishes (Bool.not_eq_false _ ▸ publishes))

theorem unclaimed (consistent : Consistent state) (queued : state.post.status = .scheduled) : state.Unclaimed := by
  intro call phase found
  by_contra claimed
  exact (consistent.calls call phase found).claimed (by simpa using claimed) queued

end Consistent

end

end OneVoice.Posts
