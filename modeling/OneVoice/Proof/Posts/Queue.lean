import OneVoice.Proof.Posts.Publication

namespace OneVoice.Posts

open Library Domain Function

/-- Every later claim, apart from one call's, was there before. -/
def Traced (call : Option Nat) (state next : State) : Prop :=
  ∀ other second, some other ≠ call → next.calls other = some second → second.hasClaimed = true →
    ∃ first, state.calls other = some first ∧ first.hasClaimed = true ∧ second.job = first.job

/-- What a step can do to the document and to the claims on it. -/
inductive Effect (state : State) (action : Action) (next : State) : Prop
  | kept : next.post = state.post → Traced none state next → Effect state action next
  | update {call} : action = .update call → state.post.status = .scheduled →
      Traced none state next → Effect state action next
  | due {call clock id claimed} :
      state.calls call = some (.waking clock) → state.post.claimDue clock id = some claimed →
      next.calls call = some (.claimed (.ofDue claimed) id) → next.post = claimed →
      Traced (some call) state next → Effect state action next
  | claim {call} {job : Job} {id} :
      state.calls call = some (.admitted job id) → state.post.status = job.post.status →
      next.calls call = some (.claimed job id) → next.post.status = .processing →
      Traced (some call) state next → Effect state action next
  | complete {call} {job : Job} {id out answer} : state.calls call = some (.answered job id out answer) →
      next.post.status = (job.outcome answer state.now).status →
      Traced none state next → Effect state action next

section

variable {dispatches : Bool} {state next last : State} {action : Action} {actions : List Action}
  {call : Nat} {phase : Phase} {post changed : Post} {issued : List String}

theorem traced_other : Traced (some call) state ({ state with issued := issued }.move call phase post) := by
  intro other second different found claimed
  obtain ⟨same, _⟩ | ⟨_, old⟩ := cell_update found
  · exact absurd (congrArg some same) different
  · exact ⟨second, old, claimed, rfl⟩

theorem traced_move (known : phase.hasClaimed = true →
      ∃ first, state.calls call = some first ∧ first.hasClaimed = true ∧ phase.job = first.job) :
    Traced none state ({ state with issued := issued }.move call phase post) := by
  intro other second _ found claimed
  obtain ⟨rfl, ⟨⟩⟩ | ⟨_, old⟩ := cell_update found
  · exact known claimed
  · exact ⟨second, old, claimed, rfl⟩

theorem traced_unclaimed (unclaimed : phase.hasClaimed = false) :
    Traced none state ({ state with issued := issued }.move call phase post) := by
  apply traced_move
  intro claimed
  rw [unclaimed] at claimed
  cases claimed

theorem traced_crash (phase : Phase) (claimed : phase.crash.hasClaimed = true) :
    phase.hasClaimed = true ∧ phase.crash.job = phase.job := by
  cases phase <;> first | exact ⟨rfl, rfl⟩ | cases claimed

theorem effect_of_step (taken : Step dispatches state action next) : Effect state action next := by
  cases taken with
  | pass duration => exact .kept rfl fun _ second _ found claimed => ⟨second, found, claimed, rfl⟩
  | claimDue waking _ claimed =>
    exact .due waking claimed (update_self ..) rfl traced_other
  | update _ updated => exact .update rfl (updateScheduled_some updated).1 (traced_unclaimed rfl)
  | claimOperation admitted claimed =>
    obtain ⟨same, _, rfl⟩ := claimOperation_some claimed
    exact .claim admitted same (update_self ..) rfl traced_other
  | send held | skip held | answer _ held =>
    exact .kept rfl (traced_move fun _ => ⟨_, held, rfl, rfl⟩)
  | complete answered completed =>
    exact .complete answered (completeOperation_some completed).2 (traced_move fun _ => ⟨_, answered, rfl, rfl⟩)
  | finish found =>
    exact .kept rfl (traced_move fun claimed => ⟨_, found, traced_crash _ claimed⟩)
  | _ => exact .kept rfl (traced_unclaimed rfl)

theorem now_le_of_step (taken : Step dispatches state action next) : state.now ≤ next.now := by
  cases taken <;> first | exact Nat.le_add_right .. | exact Nat.le_refl _

/-- The post is as changed, or a worker claimed it so at its time. -/
structure Follows (changed : Post) (state : State) : Prop where
  queued : state.post.status = .scheduled →
    state.post.content = changed.content ∧ state.post.scheduledAt = changed.scheduledAt
  workers : ∀ call phase job, state.calls call = some phase → phase.hasClaimed = true →
    phase.job = some job → job.worker = true →
      job.post.content = changed.content ∧ ∃ due, changed.scheduledAt = some due ∧ due ≤ state.now

theorem Follows.traced (follows : Follows changed state) (passes : state.now ≤ next.now)
    (traced : Traced none state next) (queued : next.post.status = .scheduled →
      next.post.content = changed.content ∧ next.post.scheduledAt = changed.scheduledAt) :
    Follows changed next := by
  refine ⟨queued, ?_⟩
  intro call phase job found claimed works worker
  obtain ⟨first, known, before, same⟩ := traced call phase (by simp) found claimed
  obtain ⟨content, due, scheduled, come⟩ := follows.workers call first job known before (same ▸ works) worker
  exact ⟨content, due, scheduled, Nat.le_trans come passes⟩

theorem Follows.step (consistent : Consistent state) (taken : Step dispatches state action next)
    (unchanged : ∀ call, action ≠ .update call) (follows : Follows changed state) : Follows changed next := by
  have passes := now_le_of_step taken
  cases effect_of_step taken with
  | kept same traced =>
    apply follows.traced passes traced
    rw [same]
    exact follows.queued
  | update named => exact absurd named (unchanged _)
  | @due mover _ _ _ waking claimed moved stored traced =>
    obtain ⟨queued, _, ⟨due, scheduled, come⟩, rfl⟩ := claimDue_some claimed
    have started := (consistent.calls _ _ waking).clock _ rfl
    have kept := follows.queued queued
    constructor
    · intro again
      rw [stored] at again
      cases again
    · intro call phase job found claims works worker
      by_cases same : call = mover
      · rw [same, moved] at found
        cases found
        cases works
        rw [← kept.2]
        exact ⟨kept.1, due, scheduled, Nat.le_trans come (Nat.le_trans started passes)⟩
      · obtain ⟨first, known, before, _⟩ := traced call phase (by simpa using same) found claims
        have never := (consistent.calls call first known).claimed before
        exact absurd queued never
  | @claim mover _ _ admitted same moved stored traced =>
    constructor
    · intro again
      rw [stored] at again
      cases again
    · intro call phase job found claims works worker
      by_cases same : call = mover
      · rw [same, moved] at found
        cases found
        cases works
        have mutation := (consistent.calls _ _ admitted).mutation _ _ rfl
        rw [mutation] at worker
        cases worker
      · obtain ⟨first, known, before, kept⟩ := traced call phase (by simpa using same) found claims
        obtain ⟨content, due, scheduled, come⟩ := follows.workers call first job known before (kept ▸ works) worker
        exact ⟨content, due, scheduled, Nat.le_trans come passes⟩
  | complete answered stored traced =>
    apply follows.traced passes traced
    intro again
    rw [stored] at again
    exact absurd again (outcome_ne_scheduled ((consistent.calls _ _ answered).sound _ rfl))

/-- The post was taken out of the queue before anyone claimed it. -/
structure Withdrawn (state : State) : Prop where
  status : state.post.status = .canceled
  unclaimed : state.Unclaimed

theorem Withdrawn.traced (withdrawn : Withdrawn state) (traced : Traced none state next)
    (same : next.post = state.post) : Withdrawn next := by
  refine ⟨same ▸ withdrawn.status, ?_⟩
  intro call phase found
  by_contra claimed
  obtain ⟨first, known, before, _⟩ := traced call phase (by simp) found (by simpa using claimed)
  rw [withdrawn.unclaimed call first known] at before
  cases before

theorem Withdrawn.step (consistent : Consistent state) (taken : Step dispatches state action next)
    (withdrawn : Withdrawn state) : Withdrawn next := by
  have canceled := withdrawn.status
  cases effect_of_step taken with
  | kept same traced => exact withdrawn.traced traced same
  | update _ queued =>
    rw [canceled] at queued
    cases queued
  | due _ claimed =>
    have queued := (claimDue_some claimed).1
    rw [canceled] at queued
    cases queued
  | @claim _ job _ admitted same =>
    have ok := consistent.calls _ _ admitted
    have sound := ok.sound _ rfl
    rw [canceled] at same
    by_cases retry : job.action = .retry
    · rw [sound.retried (ok.mutation _ _ rfl) retry] at same
      cases same
    · rw [(sound.changed retry).2] at same
      cases same
  | complete answered =>
    have never := withdrawn.unclaimed _ _ answered
    cases never

theorem Withdrawn.not_send (withdrawn : Withdrawn state) (taken : Step dispatches state (.send call) next) : False := by
  cases taken with
  | send claimed =>
    have never := withdrawn.unclaimed _ _ claimed
    cases never

/-- A withdrawn post is never sent. -/
theorem Withdrawn.run (consistent : Consistent state) (withdrawn : Withdrawn state)
    (run : Run (Step dispatches) state actions last) (call : Nat) : .send call ∉ actions := by
  induction run with
  | nil => simp
  | cons taken _ ih =>
    intro listed
    rcases List.mem_cons.mp listed with rfl | later
    · exact withdrawn.not_send taken
    · exact ih (consistent.step taken) (withdrawn.step consistent taken) later

theorem Follows.run (consistent : Consistent state) (follows : Follows changed state)
    (run : Run (Step dispatches) state actions last) (unchanged : ∀ call, .update call ∉ actions) :
    Follows changed last := by
  induction run with
  | nil => exact follows
  | @cons _ _ _ action _ taken _ ih =>
    have other : ∀ call, action ≠ .update call := by
      rintro call rfl
      exact unchanged call (List.mem_cons_self ..)
    apply ih (consistent.step taken) (follows.step consistent taken other)
    exact fun call later => unchanged call (List.mem_cons_of_mem _ later)

/-- A change finds an unclaimed post and leaves it as asked. -/
structure Changes (state : State) (call : Nat) (next : State) : Prop where
  unclaimed : state.Unclaimed
  asked : ∃ change, state.calls call = some (.changing change) ∧ next.post.status = change.status ∧
    next.post.content = change.content.getD state.post.content ∧
    next.post.scheduledAt = change.scheduledAt.or state.post.scheduledAt

section

variable (consistent : Consistent state) (taken : Step dispatches state (.update call) next)

include consistent taken

theorem changes_of_step : Changes state call next := by
  cases taken with
  | update changing updated =>
    refine ⟨consistent.unclaimed (updateScheduled_some updated).1, _, changing, ?_⟩
    unfold Post.updateScheduled at updated
    split at updated
    · cases updated
      exact ⟨rfl, rfl, rfl⟩
    · cases updated

theorem unclaimed_of_update : next.Unclaimed := by
  intro other phase found
  by_contra claimed
  have queued : state.post.status = .scheduled := by
    cases taken with
    | update _ updated => exact (updateScheduled_some updated).1
  have traced : Traced none state next := by
    cases taken with
    | update => exact traced_unclaimed rfl
  obtain ⟨first, known, before, _⟩ := traced other phase (by simp) found (by simpa using claimed)
  rw [consistent.unclaimed queued other first known] at before
  cases before

theorem follows_of_update : Follows next.post next := by
  refine ⟨fun _ => ⟨rfl, rfl⟩, ?_⟩
  intro other phase job found claimed
  rw [unclaimed_of_update consistent taken other phase found] at claimed
  cases claimed

end

end

/-- At most one operation is in flight, one publication stands, a cancelled post is never sent, and
a queued one only as it is and when its time has come. -/
theorem saved_post_published_at_most_once {dispatches : Bool} {post : Post} {now : Time} {actions : List Action}
    {state : State} (run : Run (Step dispatches) (.start post now) actions state) :
    (∀ call other, state.InFlight call → state.InFlight other → call = other) ∧
    (∀ call other next worker operation, state.Stands call →
      Step dispatches state (.send other) next → next.Sends other worker operation →
        operation.tool.publishes = false) ∧ ∀ call next, Step dispatches state (.update call) next →
      Changes state call next ∧ (next.post.status = .canceled → ∀ more last, Run (Step dispatches) next more last →
        ∀ other, .send other ∉ more) ∧ ∀ more source last other operation, Run (Step dispatches) next more source →
        (∀ another, .update another ∉ more) → Step dispatches source (.send other) last →
        last.Sends other true operation → operation.content = some next.post.content ∧
            ∃ due, next.post.scheduledAt = some due ∧ due ≤ last.now := by
  have consistent := (consistent_start post now).run run
  refine ⟨fun call other => consistent.inFlight_unique, ?_, ?_⟩
  · intro call other next worker operation stands taken sends
    cases taken with
    | send claimed =>
      have still := consistent.not_publishes stands claimed
      obtain ⟨job, id, found, _, built⟩ := sends
      cases (update_self ..).symm.trans found
      rw [Job.publishes, built] at still
      exact still
  · intro call next taken
    have after := consistent.step taken
    refine ⟨changes_of_step consistent taken, ?_, ?_⟩
    · intro canceled more last rest other
      exact Withdrawn.run after ⟨canceled, unclaimed_of_update consistent taken⟩ rest other
    · intro more source last other operation rest unchanged sending sends
      have follows := (follows_of_update consistent taken).run after rest unchanged
      have followed := follows.step (after.run rest) sending (by simp)
      obtain ⟨job, id, found, worker, built⟩ := sends
      have sound := (((after.run rest).step sending).calls other _ found).sound job rfl
      rw [content_of_due sound worker built]
      obtain ⟨content, due⟩ := followed.workers other _ job found rfl rfl worker
      exact ⟨congrArg some content, due⟩

namespace Sample

/-- A Telegram post in the queue. -/
def post : Post where
  operationID := ""
  businessID := "b"
  content := "Open on Sunday"
  mediaURLs := []
  platformResults := AList.singleton agentTelegram ⟨"-100", "", "", .scheduled, ""⟩
  status := .scheduled
  scheduledAt := some 5
  publishedAt := none

def claimed : Post := { post with status := .processing, operationID := "o" }

theorem claimDue_post : post.claimDue 7 "o" = some claimed := rfl

def message : Operation where
  tool := .telegramSendChannelPost
  target := "-100"
  text := some "Open on Sunday"

theorem operation_claimed : (Job.ofDue claimed).operation = .ok message := rfl

/-- A worker has sent the post. -/
def sent : State :=
  (((State.start post 7).move 0 (.waking 7) post).issue "o").move 0
    (.claimed (.ofDue claimed) "o") claimed |>.move 0 (.sent (.ofDue claimed) "o") claimed

theorem run_sent : Run (Step true) (.start post 7) [.wake 0, .claimDue 0, .send 0] sent :=
  .cons (.wake rfl rfl) (.cons (.claimDue rfl (by decide) claimDue_post) (.single (.send rfl operation_claimed)))

end Sample

open Sample

theorem saved_post_published_at_most_once_sent :
    Run (Step true) (.start post 7) [.wake 0, .claimDue 0, .send 0] sent ∧
      sent.Stands 0 ∧ sent.InFlight 0 ∧ (∀ other, sent.InFlight other → 0 = other) ∧
      ∀ other next worker operation, Step true sent (.send other) next →
        next.Sends other worker operation → operation.tool.publishes = false := by
  obtain ⟨single, stands, _⟩ := saved_post_published_at_most_once run_sent
  have sends : sent.Stands 0 := ⟨.sent (.ofDue claimed) "o", rfl, rfl⟩
  have flies : sent.InFlight 0 := ⟨.sent (.ofDue claimed) "o", rfl, rfl⟩
  exact ⟨run_sent, sends, flies, fun other => single 0 other flies,
    fun other next worker operation => stands 0 other next worker operation sends⟩

end OneVoice.Posts
