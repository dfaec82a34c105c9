import OneVoice.Construction.Review.Service

namespace OneVoice.Reviews

open Library Function Review

variable {Error : Type} {requests : Nat → Dedupe.Call Error}

def Service.Quiet (service : Service Error) : Prop := ∀ id, service.publishes id = none

/-- No reply, retry or platform reply comes while another one is open. -/
def OneAtATime (service : Service Error) : Action Error → Prop
  | .reply _ _ _ _ => service.Quiet
  | .retryReply _ _ => service.Quiet
  | .sync reply => reply ≠ "" → service.Quiet
  | _ => True

/-- The open publication found the review unanswered, and it still is. -/
structure Service.Ordered (service : Service Error) : Prop where
  single : ∀ {first second one two}, service.publishes first = some one →
    service.publishes second = some two → first = second
  unanswered : ∀ {id publish}, service.publishes id = some publish → publish.phase ≠ .recorded →
    service.review.replyStatus ≠ .replied

namespace Service.Ordered

variable {service next : Service Error} {id : Nat}

theorem of_quiet (quiet : service.Quiet) : service.Ordered where
  single := fun found => absurd found (by rw [quiet]; nofun)
  unanswered := fun found => absurd found (by rw [quiet]; nofun)

theorem alone (ordered : service.Ordered) {publish}
    (found : service.publishes id = some publish) (other : Nat) (apart : other ≠ id) :
    service.publishes other = none := by
  cases open_ : service.publishes other with
  | none => rfl
  | some another => exact absurd (ordered.single open_ found) apart

/-- A step that starts or moves the one publication. -/
theorem move {moved} (alone : ∀ other ≠ id, service.publishes other = none)
    (unanswered : moved.phase ≠ .recorded → next.review.replyStatus ≠ .replied)
    (publishes : next.publishes = update service.publishes id (some moved)) : next.Ordered := by
  have only : ∀ {other another}, next.publishes other = some another →
      other = id ∧ another = moved := by
    intro other another open_
    rw [publishes] at open_
    obtain ⟨rfl, ⟨⟩⟩ | ⟨same, old⟩ := cell_update open_
    · exact ⟨rfl, rfl⟩
    · rw [alone other same] at old
      cases old
  constructor
  · intro first second one two left right
    rw [(only left).1, (only right).1]
  · intro other another open_ phase
    rw [(only open_).2] at phase
    exact unanswered phase

/-- A step that ends the one publication leaves none. -/
theorem close (alone : ∀ other ≠ id, service.publishes other = none)
    (publishes : next.publishes = update service.publishes id none) : next.Ordered := by
  apply of_quiet
  intro other
  rw [publishes]
  by_cases same : other = id
  · rw [same, update_self]
  · rw [update_of_ne same, alone other same]

theorem keep (ordered : service.Ordered) (publishes : next.publishes = service.publishes)
    (kept : next.review.replyStatus = .replied → service.review.replyStatus = .replied) : next.Ordered where
  single := by
    rw [publishes]
    exact ordered.single
  unanswered := by
    rw [publishes]
    intro id publish found phase replied
    exact ordered.unanswered found phase (kept replied)

theorem step {action} (taken : Step requests service action next)
    (guard : OneAtATime service action) (ordered : service.Ordered) : next.Ordered := by
  cases taken with
  | reply _ _ _ _ unanswered =>
    apply move (fun other _ => guard other) _ rfl
    exact fun _ => replyStatus_of_alreadyAnswered unanswered
  | retryReply _ _ _ retryable =>
    apply move (fun other _ => guard other) _ rfl
    intro _ replied
    cases (replyStatus_of_retryable retryable).symm.trans replied
  | send found open_ | unrouted found open_ | malformed found open_ | answer found open_
  | lost found open_ =>
    apply move (ordered.alone found) _ rfl
    exact fun _ => ordered.unanswered found (by rw [open_]; nofun)
  | record found _ =>
    apply move (ordered.alone found) _ rfl
    exact fun unrecorded => absurd rfl unrecorded
  | finish found _ | stop found => exact close (ordered.alone found) rfl
  | skip skipped =>
    apply keep ordered
    · rfl
    intro replied
    cases (replyStatus_skipPending skipped).2.symm.trans replied
  | claim _ claimed => exact ordered.keep rfl (reply_claimDraft claimed).1.symm.trans
  | draft _ written => exact ordered.keep rfl (reply_updateDraft written).1.symm.trans
  | regenerate prepared =>
    exact ordered.keep rfl (reply_prepareRegeneration prepared).1.symm.trans
  | sync reply =>
    by_cases shown : reply ≠ ""
    · exact of_quiet (guard shown)
    · apply keep ordered
      · rfl
      have same := replyStatus_upsert service.review reply
      rw [if_neg shown] at same
      exact same.symm.trans
  | _ => exact ordered.keep rfl id

end Service.Ordered

/-- What follows for one step from a review that is replied. -/
theorem Step.replied_kept {service next action}
    (taken : Step requests service action next) (ordered : service.Ordered)
    (replied : service.review.replyStatus = .replied) : next.review.replyStatus = .replied := by
  cases taken with
  | record => exact replyStatus_updateReply _ _ _ _
  | @finish id publish status found outcome =>
    refine (replyStatus_updateReply _ _ _ _).trans ?_
    by_cases recorded : publish.phase = .recorded
    · rw [recorded] at outcome
      exact (Option.some.inj outcome).symm
    · exact absurd replied (ordered.unanswered found recorded)
  | skip skipped => cases (replyStatus_skipPending skipped).1.symm.trans replied
  | claim _ claimed => exact (reply_claimDraft claimed).1.trans replied
  | draft _ written => exact (reply_updateDraft written).1.trans replied
  | regenerate prepared => exact (reply_prepareRegeneration prepared).1.trans replied
  | sync reply =>
    refine (replyStatus_upsert service.review reply).trans ?_
    split
    · rfl
    · exact replied
  | _ => exact replied

/-- While replies and retries take turns, a replied review stays so. -/
theorem published_stays_published {review : Review} {now : Domain.Time} {before after : List (Action Error)}
    {service last : Service Error} (run : Run (Guarded (Step requests) OneAtATime) (.start review now) before service)
    (replied : service.review.replyStatus = .replied)
    (later : Run (Guarded (Step requests) OneAtATime) service after last) : last.review.replyStatus = .replied := by
  have ordered : service.Ordered := by
    apply run.invariant _ (Service.Ordered.of_quiet fun _ => rfl)
    intro first action next taken
    exact Service.Ordered.step taken.1 taken.2
  have kept : last.Ordered ∧ last.review.replyStatus = .replied := by
    apply later.invariant _ ⟨ordered, replied⟩
    intro first action next taken held
    exact ⟨held.1.step taken.1 taken.2, taken.1.replied_kept held.1 held.2⟩
  exact kept.2

theorem published_stays_published_sync : ∃ service last : Service String,
    Run (Guarded (Step Dedupe.Sample.requests) OneAtATime) (.start Sample.review 0) [.sync "Thank you"] service ∧
    Run (Guarded (Step Dedupe.Sample.requests) OneAtATime) service [.sync ""] last ∧
    last.review.replyStatus = .replied := by
  have run : Run (Guarded (Step Dedupe.Sample.requests) OneAtATime) (.start Sample.review 0)
      [.sync "Thank you"] _ := .single ⟨.sync _, fun _ _ => rfl⟩
  have later (service : Service String) :
      Run (Guarded (Step Dedupe.Sample.requests) OneAtATime) service [.sync ""] _ :=
    .single ⟨.sync _, fun shown => absurd rfl shown⟩
  exact ⟨_, _, run, later _, published_stays_published run rfl (later _)⟩

/-- Two clicks on one reply: the outcome of the second, in flight, replaces the first by an error.
-/
theorem published_reply_overwritten : ∃ service last : Service String,
    Run (Step Dedupe.Sample.requests) (.start Sample.review 0)
      [.reply 0 false "b" "Thank you", .reply 1 false "b" "Thank you", .send 0, .send 1,
        .agent "review-reply-r" (.claimed 0), .agent "review-reply-r" (.missed 1),
        .agent "review-reply-r" (.answered 1 (Dedupe.inFlightResponse "1")),
        .agent "review-reply-r" (.execReturned 0 (some Dedupe.Sample.response) none),
        .agent "review-reply-r" (.stored 0 0 true), .answer 0, .answer 1, .record 0] service ∧
    service.review.replyStatus = .replied ∧ Step Dedupe.Sample.requests service (.finish 1) last ∧
    last.review.replyStatus = .error := by
  exact ⟨_, _, .cons (.reply rfl rfl (by decide) rfl rfl) <| .cons (.reply rfl rfl (by decide) rfl rfl) <|
    .cons (.send rfl rfl) <| .cons (.send rfl rfl) <|
    .cons (.agent (addressed rfl) (.claimed rfl rfl rfl)) <|
    .cons (.agent (addressed rfl) (.missed rfl rfl rfl)) <|
    .cons (.agent (addressed rfl) (.answered _ rfl rfl)) <|
    .cons (.agent (addressed rfl) (.execReturned _ _ rfl)) <|
    .cons (.agent (addressed rfl) (.stored _ true rfl rfl)) <|
    .cons (.answer rfl rfl rfl rfl) <| .cons (.answer rfl rfl rfl rfl) <|
    .cons (.record rfl rfl) <| .nil _,
    rfl, .finish rfl rfl, rfl⟩

end OneVoice.Reviews
