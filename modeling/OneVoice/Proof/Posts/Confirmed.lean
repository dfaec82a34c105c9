import OneVoice.Proof.Posts.Publication

namespace OneVoice.Posts

open Library Domain Function Option Phase

/-- The calls on a post, beside the content that its platform shows. -/
structure Shown where
  state : State
  content : String

/-- The content of an operation that the platform has confirmed. -/
def Phase.confirmed : Phase → Option String
  | .answered job _ true answer =>
    if answer.error.isNone then job.operation.toOption.bind Operation.content else none
  | _ => none

/-- What the platform shows after a step. -/
def Action.shows (action : Action) (state : State) (content : String) : String :=
  match action with
  | .answer call => ((state.calls call).bind confirmed).getD content
  | _ => content

/-- A mutation that is admitted is an edit. -/
def Action.AdmitsEdit (action : Action) (state : State) : Prop :=
  ∀ call job id, action = .mutate call → state.calls call = some (.admitted job id) → job.action = .edit

/-- A step of the calls where all mutations are edits. -/
def EditStep (dispatches : Bool) (first : Shown) (action : Action) (last : Shown) : Prop :=
  Step dispatches first.state action last.state ∧ action.AdmitsEdit last.state ∧
    last.content = action.shows last.state first.content

/-- Where nobody holds the post, it is stored as the platform shows it. -/
def Shown.Settled (shown : Shown) (post : Post) : Prop :=
  shown.state.post.operationID = "" →
    shown.state.post.content = shown.content ∧ shown.state.post.mediaURLs = post.mediaURLs

/-- An unconfirmed edit completes while what it read is still stored. -/
def Shown.Fresh (shown : Shown) (action : Action) : Prop :=
  ∀ call job id out answer, action = .complete call →
    shown.state.calls call = some (.answered job id out answer) → answer.error ≠ none →
      job.post.content = shown.state.post.content

/-- The job sends the new content. -/
def Job.SendsEdit (job : Job) : Prop :=
  job.action = .edit ∧ ∃ operation, job.operation = .ok operation ∧ operation.content = some (job.content.getD "")

section

variable {post : Post} {job : Job}

variable {content : Option String}

theorem content_of_edit {platform result operation}
    (built : postOperation post platform result .edit content = .ok operation) :
    operation.content = some (content.getD "") := by
  simp only [postOperation, bind_ok] at built
  obtain ⟨_, _, built⟩ := built
  rw [if_neg (by simp)] at built
  simp only [bind_ok] at built
  obtain ⟨id, _, built⟩ := built
  rw [if_neg (by simp)] at built
  split at built <;> cases built <;> rfl

theorem sendsEdit_of_mutate {dispatches actor businessID raw}
    (admitted : mutate dispatches actor businessID raw content post = .ok (.inr job))
    (edit : job.action = .edit) : job.SendsEdit := by
  obtain ⟨action, checked⟩ := admitMutation_of_mutate admitted
  simp only [admitMutation, bind_ok, expect_ok, pure_ok] at checked
  obtain ⟨_, _, entry, _, _, _, _, _, _, _, operation, built, rfl⟩ := checked
  obtain rfl : action = .edit := edit
  exact ⟨rfl, operation, rfl, content_of_edit built⟩

/-- A confirmed edit stores the new content, any other what it read. -/
theorem outcome_content {answer now} (edit : job.action = .edit) (owner : job.worker = false) :
    (job.outcome answer now).content = if answer.error.isNone then job.content.getD "" else job.post.content := by
  have receipt : job.mutateReceipt answer = (answer.error, job.result) := by
    simp [Job.mutateReceipt, edit]
  rw [Job.outcome, owner, Job.mutateOutcome, receipt]
  cases failed : answer.error with
  | none => simp [edit]
  | some failure =>
    simp only [Bool.false_eq_true, if_false]
    split <;> rfl

end

/-- For the post's holder the stored content is shown until its edit. -/
def Phase.Tracks (stored shown : String) : Phase → Prop
  | .claimed .. | .sent .. => stored = shown
  | .answered job _ _ answer =>
    if answer.error.isNone then shown = job.content.getD "" else stored = shown
  | _ => True

theorem tracks_of_free {stored shown : String} {phase : Phase} (free : phase.holds = none) :
    phase.Tracks stored shown := by
  cases phase with
  | claimed job id | sent job id | answered job id out answer => cases free
  | _ => trivial

structure Tracks (post : Post) (shown : Shown) : Prop where
  consistent : Consistent shown.state
  unqueued : shown.state.post.status ≠ .scheduled
  media : shown.state.post.mediaURLs = post.mediaURLs
  jobs : ∀ {call phase job}, shown.state.calls call = some phase → phase.job = some job → job.SendsEdit
  settled : shown.state.post.operationID = "" → shown.state.post.content = shown.content
  calls : ∀ {call phase}, shown.state.calls call = some phase → phase.Tracks shown.state.post.content shown.content

theorem tracks_start {post now} (published : post.status = .published) :
    Tracks post ⟨.start post now, post.content⟩ where
  consistent := consistent_start post now
  unqueued := by simp [State.start, published]
  media := rfl
  jobs := fun found => by cases found
  settled := fun _ => rfl
  calls := fun found => by cases found

section

variable {dispatches : Bool} {post : Post} {state : State} {shown : Shown} {action : Action}
  {call : Nat} {phase : Phase} {job : Job} {id : String}

/-- Only one call holds the post. -/
theorem Consistent.holds_none (consistent : Consistent state) {other second}
    (found : state.calls call = some phase) (held : phase.holds = some id)
    (apart : other ≠ call) (listed : state.calls other = some second) : second.holds = none := by
  cases also : second.holds with
  | none => rfl
  | some claim =>
    have same : claim = id := ((consistent.calls other second listed).holder claim also).1.symm.trans
      ((consistent.calls call phase found).holder id held).1
    have pair := consistent.pairs other call second phase apart listed found
    rw [same] at also
    exact absurd (operationID_of_holds held) (pair.distinct id (operationID_of_holds also))

variable {content : String} {following : Shown}

theorem Tracks.move {issued changed content} (tracks : Tracks post shown)
    (consistent : Consistent ({ shown.state with issued := issued }.move call phase changed))
    (unqueued : changed.status ≠ .scheduled) (media : changed.mediaURLs = shown.state.post.mediaURLs)
    (edits : ∀ job, phase.job = some job → job.SendsEdit)
    (settled : changed.operationID = "" → changed.content = content) (own : phase.Tracks changed.content content)
    (others : ∀ other second, other ≠ call → shown.state.calls other = some second →
      second.Tracks changed.content content) :
    Tracks post ⟨{ shown.state with issued := issued }.move call phase changed, content⟩ where
  consistent := consistent
  unqueued := unqueued
  media := media.trans tracks.media
  jobs := by
    intro other second job found belongs
    obtain ⟨_, ⟨⟩⟩ | ⟨_, old⟩ := cell_update found
    · exact edits job belongs
    · exact tracks.jobs old belongs
  settled := settled
  calls := by
    intro other second found
    obtain ⟨_, ⟨⟩⟩ | ⟨same, old⟩ := cell_update found
    · exact own
    · exact others other second same old

/-- A step that leaves the document and what is shown, with no new holder. -/
theorem Tracks.keep {issued} (tracks : Tracks post shown)
    (consistent : Consistent ({ shown.state with issued := issued }.move call phase shown.state.post))
    (edits : ∀ job, phase.job = some job → job.SendsEdit) (own : phase.Tracks shown.state.post.content shown.content) :
    Tracks post ⟨{ shown.state with issued := issued }.move call phase shown.state.post, shown.content⟩ :=
  tracks.move consistent tracks.unqueued rfl edits tracks.settled own fun _ _ _ listed => tracks.calls listed

/-- The content that is shown after an answer. -/
theorem shows_answer {answer} (sends : job.SendsEdit) : (Action.answer call).shows
      (state.move call (.answered job id true answer) state.post) content =
      if answer.error.isNone then job.content.getD "" else content := by
  obtain ⟨-, operation, built, edited⟩ := sends
  have found : (state.move call (.answered job id true answer) state.post).calls call =
      some (.answered job id true answer) := update_self ..
  simp only [Action.shows, found, bind_some, confirmed, built]
  split
  · exact congrArg (getD · content) edited
  · rfl

theorem Tracks.claim {claimed} (tracks : Tracks post shown)
    (consistent : Consistent (shown.state.move call (.claimed job id) claimed))
    (admitted : shown.state.calls call = some (.admitted job id))
    (won : shown.state.post.claimOperation job.post.businessID job.post.status id = some claimed) :
    Tracks post ⟨shown.state.move call (.claimed job id) claimed, shown.content⟩ := by
  obtain ⟨-, free, rfl⟩ := claimOperation_some won
  have stored := tracks.settled free
  apply tracks.move consistent
  · simp
  · rfl
  · intro other same
    obtain rfl := some.inj same
    exact tracks.jobs admitted rfl
  · exact fun _ => stored
  · exact stored
  · exact fun _ _ _ listed => tracks.calls listed

theorem Tracks.answer {answer : Answer} (tracks : Tracks post shown)
    (consistent : Consistent (shown.state.move call (.answered job id true answer) shown.state.post))
    (sent : shown.state.calls call = some (.sent job id)) :
    Tracks post ⟨shown.state.move call (.answered job id true answer) shown.state.post, (Action.answer call).shows
        (shown.state.move call (.answered job id true answer) shown.state.post) shown.content⟩ := by
  have sends := tracks.jobs sent rfl
  have stored : shown.state.post.content = shown.content := tracks.calls sent
  have held := ((tracks.consistent.calls call _ sent).holder id rfl).1
  have named := ((tracks.consistent.calls call _ sent).issued id rfl).2
  rw [shows_answer sends]
  apply tracks.move consistent tracks.unqueued rfl
  · intro other same
    obtain rfl := some.inj same
    exact sends
  · intro free
    exact absurd (held.symm.trans free) named
  · cases failed : answer.error with
    | none => simp [Phase.Tracks, failed]
    | some failure => simp [Phase.Tracks, failed, stored]
  · intro other second apart listed
    exact tracks_of_free (tracks.consistent.holds_none sent rfl apart listed)

/-- What a completed edit leaves in the document. -/
theorem completeOperation_content {outcome changed} (completed : post.completeOperation outcome id = some changed) :
    changed.content = outcome.content ∧ changed.mediaURLs = post.mediaURLs := by
  unfold Post.completeOperation at completed
  split at completed
  · cases completed
    exact ⟨rfl, rfl⟩
  · cases completed

theorem Tracks.completed_content {out answer completed} (tracks : Tracks post shown)
    (answered : shown.state.calls call = some (.answered job id out answer))
    (saved : shown.state.post.completeOperation (job.outcome answer shown.state.now) id = some completed) :
    completed.content = if answer.error.isNone then job.content.getD "" else job.post.content := by
  have edit := (tracks.jobs answered rfl).1
  have sound := (tracks.consistent.calls call _ answered).sound job rfl
  have owner := (sound.changed (by simp [edit])).1
  rw [(completeOperation_content saved).1, outcome_content edit owner]

theorem Tracks.complete {out : Bool} {answer : Answer} {completed : Post} (tracks : Tracks post shown)
    (consistent : Consistent (shown.state.move call (.completed job id out answer) completed))
    (answered : shown.state.calls call = some (.answered job id out answer))
    (saved : shown.state.post.completeOperation (job.outcome answer shown.state.now) id = some completed)
    (fresh : answer.error ≠ none → job.post.content = shown.state.post.content) :
    Tracks post ⟨shown.state.move call (.completed job id out answer) completed, shown.content⟩ := by
  have sound := (tracks.consistent.calls call _ answered).sound job rfl
  have own := tracks.calls answered
  have stored : completed.content = shown.content := by
    rw [tracks.completed_content answered saved]
    cases failed : answer.error with
    | none =>
      have shows : shown.content = job.content.getD "" := by
        simpa [Phase.Tracks, failed] using own
      exact shows.symm
    | some failure =>
      have before : shown.state.post.content = shown.content := by
        simpa [Phase.Tracks, failed] using own
      exact (fresh (by simp [failed])).trans before
  apply tracks.move consistent
  · rw [(completeOperation_some saved).2]
    exact outcome_ne_scheduled sound
  · exact (completeOperation_content saved).2
  · intro other same
    obtain rfl := some.inj same
    exact tracks.jobs answered rfl
  · exact fun _ => stored
  · trivial
  · intro other second apart listed
    exact tracks_of_free (tracks.consistent.holds_none answered rfl apart listed)

theorem job_of_crash (belongs : phase.crash.job = some job) : phase.job = some job := by
  cases phase <;> first | exact belongs | cases belongs

/-- A call that has crashed says nothing about the platform. -/
theorem tracks_crash {stored shown} (phase : Phase) : phase.crash.Tracks stored shown := by
  cases phase <;> trivial

theorem Tracks.step (tracks : Tracks post shown)
    (taken : EditStep dispatches shown action following) (fresh : shown.Fresh action) : Tracks post following := by
  obtain ⟨last, content⟩ := following
  obtain ⟨step, edits, same⟩ := taken
  change content = action.shows last shown.content at same
  subst same
  have consistent := tracks.consistent.step step
  cases step with
  | pass duration =>
    exact ⟨consistent, tracks.unqueued, tracks.media, tracks.jobs, tracks.settled, tracks.calls⟩
  | wake idle enabled | reschedule idle admitted | mutateQueued idle admitted =>
    exact tracks.keep consistent (by simp) trivial
  | claimDue waking new claimed => exact absurd (claimDue_some claimed).1 tracks.unqueued
  | @mutate call actor businessID raw id content job idle new admitted =>
    apply tracks.keep consistent _ trivial
    intro other same
    obtain rfl := some.inj same
    exact sendsEdit_of_mutate admitted (edits call _ _ rfl (update_self ..))
  | update changing updated => exact absurd (updateScheduled_some updated).1 tracks.unqueued
  | claimOperation admitted claimed => exact tracks.claim consistent admitted claimed
  | @send call job id operation claimed built =>
    apply tracks.keep consistent
    · intro other same
      obtain rfl := some.inj same
      exact tracks.jobs claimed rfl
    · have stored : shown.state.post.content = shown.content := tracks.calls claimed
      exact stored
  | skip claimed refused =>
    obtain ⟨-, operation, built, -⟩ := tracks.jobs claimed rfl
    cases built.symm.trans refused
  | answer answer sent => exact tracks.answer consistent sent
  | complete answered completed =>
    exact tracks.complete consistent answered completed (fresh _ _ _ _ _ rfl answered)
  | @finish call phase found =>
    apply tracks.keep consistent
    · intro job belongs
      exact tracks.jobs found (job_of_crash belongs)
    · exact tracks_crash phase

theorem Tracks.run {actions last} (tracks : Tracks post shown)
    (run : Run (Guarded (EditStep dispatches) Shown.Fresh) shown actions last) : Tracks post last := by
  have kept : ∀ first action next, Guarded (EditStep dispatches) Shown.Fresh first action next →
      Tracks post first → Tracks post next := by
    intro first action next taken tracks
    exact tracks.step taken.1 taken.2
  exact run.invariant kept tracks

/-- An unconfirmed edit with outdated content takes the post astray. -/
theorem Tracks.unsettled (tracks : Tracks post shown)
    (taken : EditStep dispatches shown action following) (stale : ¬ shown.Fresh action) :
    ¬ following.Settled post := by
  simp only [Shown.Fresh, not_forall] at stale
  obtain ⟨call, job, id, out, answer, rfl, answered, failed, differs⟩ := stale
  obtain ⟨last, content⟩ := following
  obtain ⟨step, edits, same⟩ := taken
  change content = shown.content at same
  subst same
  cases step with
  | @complete _ job' id' out' answer' completed found saved =>
    rw [found] at answered
    obtain ⟨rfl, rfl, rfl, rfl⟩ := Phase.answered.inj (some.inj answered)
    have content := tracks.completed_content found saved
    have own := tracks.calls found
    simp only [isNone_iff_eq_none, failed, Phase.Tracks] at content own
    intro settled
    have stored := (settled (completeOperation_some saved).1).1
    exact differs (content.symm.trans (stored.trans own.symm))

end

/-- Where unconfirmed edits complete on the content that they have read, the post is stored as it is
shown; any other one brings the two apart. -/
theorem stored_content_confirmed {dispatches : Bool} {post : Post} {now : Time} {actions : List Action} {last : Shown}
    (published : post.status = .published)
    (run : Run (Guarded (EditStep dispatches) Shown.Fresh) ⟨.start post now, post.content⟩ actions last) :
    last.Settled post ∧ ∀ action following, EditStep dispatches last action following → ¬ last.Fresh action →
        ¬ following.Settled post := by
  have tracks := (tracks_start published).run run
  constructor
  · intro free
    exact ⟨tracks.settled free, tracks.media⟩
  · intro action following taken stale
    exact tracks.unsettled taken stale

namespace Edited

/-- A post on a Telegram channel. -/
def post : Post where
  operationID := ""
  businessID := "b"
  content := "A"
  mediaURLs := []
  platformResults := AList.singleton agentTelegram ⟨"-100", "7", "", .published, ""⟩
  status := .published
  scheduledAt := none
  publishedAt := some 0

def actor : Actor := ⟨"b", ["content.update"], true⟩

def job (content : String) : Job where
  worker := false
  post := post
  platform := agentTelegram
  result := ⟨"-100", "7", "", .published, ""⟩
  action := .edit
  content := some content
  operation := .ok
    { tool := .telegramEditChannelPost
      target := "-100"
      id := some 7
      text := some content
      isCaption := some false }

theorem mutate_first : mutate true actor "b" "edit" (some "B") post = .ok (.inr (job "B")) := rfl

theorem mutate_second : mutate true actor "b" "edit" (some "C") post = .ok (.inr (job "C")) := rfl

def accepted : Answer := ⟨{}, none⟩

/-- The platform has refused the edit. -/
def refused : Answer := ⟨{}, some ⟨"forbidden", "no"⟩⟩

variable {action : Action} {shown : Shown}

theorem editStep_of_step {first next} (step : Step true first.state action next)
    (other : ∀ call, action ≠ .mutate call) : EditStep true first action ⟨next, action.shows next first.content⟩ :=
  ⟨step, fun call _ _ same _ => absurd same (other call), rfl⟩

theorem editStep_of_mutate {first call id content} (idle : first.state.calls call = none)
    (new : id ∉ first.state.issued)
    (admitted : mutate true actor "b" "edit" (some content) first.state.post = .ok (.inr (job content))) :
    EditStep true first (.mutate call)
      ⟨(first.state.issue id).move call (.admitted (job content) id) first.state.post, first.content⟩ := by
  refine ⟨.mutate idle new admitted, ?_, rfl⟩
  intro other sent claim same found
  obtain rfl := Action.mutate.inj same
  have mine : ((first.state.issue id).move call (.admitted (job content) id)
      first.state.post).calls call = some (.admitted (job content) id) := update_self ..
  obtain ⟨rfl, -⟩ := Phase.admitted.inj (some.inj (mine.symm.trans found))
  rfl

theorem fresh_of_ne (other : ∀ call, action ≠ .complete call) : shown.Fresh action := by
  intro call job id out answer same
  exact absurd same (other call)

theorem fresh_of_accepted {call job id out}
    (found : shown.state.calls call = some (.answered job id out accepted)) : shown.Fresh (.complete call) := by
  intro other second claim sent answer same listed failed
  obtain rfl := Action.complete.inj same
  obtain ⟨-, -, -, rfl⟩ := answered.inj (some.inj (found.symm.trans listed))
  exact absurd rfl failed

/-- Two edits have read the post, and the first is stored. -/
theorem run_first :
    ∃ last, Run (Guarded (EditStep true) Shown.Fresh) ⟨.start post 0, "A"⟩
      [.mutate 0, .mutate 1, .claimOperation 0, .send 0, .answer 0, .complete 0] last ∧
      last.state.post.operationID = "" ∧ last.content = "B" :=
  ⟨_, .cons ⟨editStep_of_mutate rfl (by decide : "x" ∉ _) mutate_first, fresh_of_ne (by simp)⟩
    (.cons ⟨editStep_of_mutate rfl (by decide : "y" ∉ _) mutate_second, fresh_of_ne (by simp)⟩
    (.cons ⟨editStep_of_step (.claimOperation rfl rfl) (by simp), fresh_of_ne (by simp)⟩
    (.cons ⟨editStep_of_step (.send rfl rfl) (by simp), fresh_of_ne (by simp)⟩
    (.cons ⟨editStep_of_step (.answer accepted rfl) (by simp), fresh_of_ne (by simp)⟩
    (.cons ⟨editStep_of_step (.complete rfl rfl) (by simp), fresh_of_accepted rfl⟩ (.nil _)))))), rfl, rfl⟩

end Edited

theorem stored_content_confirmed_edit :
    ∃ last, Run (Guarded (EditStep true) Shown.Fresh) ⟨.start Edited.post 0, "A"⟩
      [.mutate 0, .mutate 1, .claimOperation 0, .send 0, .answer 0, .complete 0] last ∧
      last.content = "B" ∧ last.state.post.content = "B" := by
  obtain ⟨last, run, free, shows⟩ := Edited.run_first
  obtain ⟨settled, -⟩ := stored_content_confirmed rfl run
  exact ⟨last, run, shows, (settled free).1.trans shows⟩

/-- Two edits read A; one is confirmed with B, a refused one restores A. -/
theorem refused_edit_restores_old_content :
    ∃ last, Run (EditStep true) ⟨.start Edited.post 0, "A"⟩
      [.mutate 0, .mutate 1, .claimOperation 0, .send 0, .answer 0, .complete 0, .claimOperation 1,
        .send 1, .answer 1, .complete 1] last ∧
      last.state.post.operationID = "" ∧ last.content = "B" ∧ last.state.post.content = "A" := by
  refine ⟨_, .cons (Edited.editStep_of_mutate rfl (by decide : "x" ∉ _) Edited.mutate_first)
    (.cons (Edited.editStep_of_mutate rfl (by decide : "y" ∉ _) Edited.mutate_second)
    (.cons (Edited.editStep_of_step (.claimOperation rfl rfl) (by simp))
    (.cons (Edited.editStep_of_step (.send rfl rfl) (by simp))
    (.cons (Edited.editStep_of_step (.answer Edited.accepted rfl) (by simp))
    (.cons (Edited.editStep_of_step (.complete rfl rfl) (by simp))
    (.cons (Edited.editStep_of_step (.claimOperation rfl rfl) (by simp))
    (.cons (Edited.editStep_of_step (.send rfl rfl) (by simp))
    (.cons (Edited.editStep_of_step (.answer Edited.refused rfl) (by simp))
    (.cons (Edited.editStep_of_step (.complete rfl rfl) (by simp)) (.nil _)))))))))),
    rfl, rfl, rfl⟩

end OneVoice.Posts
