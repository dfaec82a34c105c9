import OneVoice.Construction.Review.Service
import OneVoice.Proof.Dedupe.Answers

namespace OneVoice.Reviews

open Library Dedupe Function

variable {Error : Type} {requests : Nat → Dedupe.Call Error}

theorem succeeded_iff {response : Option ToolResponse} {error : Option Error} :
    succeeded response error = true ↔
      ∃ given, Dedupe.outcome response error = some given ∧ given.success = true := by
  cases error <;> cases response <;> simp [succeeded, Dedupe.outcome]

/-- The requests under one key carry one text. -/
def OneText (messages : Nat → Option Message) : Prop :=
  ∀ {first second one two}, messages first = some one → messages second = some two →
    one.key = two.key → one.text = two.text

/-- One key has one text, each publication a tool, no sync a reply. -/
def SameText (service : Service Error) : Action Error → Prop
  | .send id => ∀ publish, service.publishes id = some publish →
      ∀ other message, service.messages other = some message →
        message.key = publish.review.manualReplyApprovalID → message.text = publish.text
  | .unrouted _ => False
  | .sync reply => reply = ""
  | _ => True

namespace Service

/-- A request under the key has been executed. -/
def Landed (service : Service Error) (key : String) : Prop :=
  ∃ id message, service.messages id = some message ∧ message.key = key ∧ message.text ∈ service.executed

/-- What a publication may rely on at its position. -/
def Publishes (service : Service Error) (id : Nat) (publish : Publish) : Prop :=
  match publish.phase with
  | .loaded => service.messages id = none
  | .sent => service.messages id = some ⟨publish.review.manualReplyApprovalID, publish.text⟩
  | .dispatched | .recorded => publish.text ∈ service.executed
  | .failed => True
  | .unrouted => False

structure Honest (service : Service Error) : Prop where
  texts : OneText service.messages
  backed : ∀ key, Backed (service.Landed key) (service.agents key)
  publishes : ∀ {id publish}, service.publishes id = some publish → service.Publishes id publish
  stored : service.review.replyStatus = .replied → service.review.replyText ∈ service.executed

namespace Honest

variable {service next : Service Error} {id : Nat}

theorem start {messages review now} (texts : OneText messages) (unanswered : review.replyStatus ≠ .replied) :
    (Service.startAfter messages review now : Service Error).Honest where
  texts := texts
  backed := fun _ => .start now
  publishes := nofun
  stored := fun replied => absurd replied unanswered

section

variable (honest : service.Honest)

include honest

theorem move {moved} (own : ∀ publish, moved = some publish → service.Publishes id publish) :
    (service.setPublish id moved).Honest := { honest with
  publishes := by
    intro other publish found
    obtain ⟨rfl, here⟩ | ⟨_, old⟩ := cell_update found
    · exact own publish here
    · exact honest.publishes old }

theorem close : (service.setPublish id none).Honest := honest.move nofun

variable {review : Review} {publish : Publish}

theorem write (stored : review.replyStatus = .replied → review.replyText ∈ service.executed) :
    (service.write review).Honest := { honest with
  stored := stored }

/-- An update that keeps the reply. -/
theorem keep
    (kept : review.replyStatus = service.review.replyStatus ∧ review.replyText = service.review.replyText) :
    (service.write review).Honest := by
  apply honest.write
  intro replied
  rw [kept.2]
  exact honest.stored (kept.1.symm.trans replied)

theorem setDraft (id : Nat) (draft : Option DraftPhase) : (service.setDraft id draft).Honest := { honest with }

/-- A publication goes out with the text that its key has carried before. -/
theorem send (found : service.publishes id = some publish) (loaded : publish.phase = .loaded)
    (text : ∀ other message, service.messages other = some message →
      message.key = publish.review.manualReplyApprovalID → message.text = publish.text) :
    ({ service.setPublish id (some { publish with phase := .sent }) with
      messages := update service.messages id
        (some ⟨publish.review.manualReplyApprovalID, publish.text⟩) } : Service Error).Honest := by
  have unsent : service.messages id = none := by
    have own := honest.publishes found
    unfold Publishes at own
    rwa [loaded] at own
  have kept : ∀ {other message}, service.messages other = some message →
      update service.messages id
        (some ⟨publish.review.manualReplyApprovalID, publish.text⟩) other = some message := by
    intro other message known
    rw [update_of_ne]
    · exact known
    · rintro rfl
      cases unsent.symm.trans known
  constructor
  case texts =>
    intro first second one two
    apply forall_update_pair fun _ _ (left right : Option Message) =>
      left = some one → right = some two → one.key = two.key → one.text = two.text
    · rintro ⟨⟩ ⟨⟩ _
      rfl
    · rintro other _ ⟨⟩ known same
      exact (text other two known same.symm).symm
    · rintro other _ known ⟨⟩ same
      exact text other one known same
    · exact fun _ _ => honest.texts
  case backed =>
    intro key
    apply (honest.backed key).mono
    rintro ⟨other, message, known, same, executed⟩
    exact ⟨other, message, kept known, same, executed⟩
  case publishes =>
    intro other another open_
    obtain ⟨rfl, ⟨⟩⟩ | ⟨here, old⟩ := cell_update open_
    · exact update_self ..
    · have own := honest.publishes old
      unfold Publishes at own ⊢
      cases phase : another.phase with
      | loaded =>
        rw [phase] at own
        exact (update_of_ne here ..).trans own
      | sent =>
        rw [phase] at own
        exact kept own
      | _ =>
        rw [phase] at own
        exact own
  case stored => exact honest.stored

/-- An agent adds the text of a request that it has executed. -/
theorem agent {key : String} {event : Dedupe.Event Error} {moved : Dispatches Error}
    (known : ∀ call, eventCall event = some call →
      ∃ message, service.messages call = some message ∧ message.key = key)
    (taken : Dedupe.Step requests key (service.agents key) event moved) :
    ({ service with
      agents := update service.agents key moved
      executed := service.executed ++ service.landed requests event } : Service Error).Honest := by
  have more : ∀ {text}, text ∈ service.executed →
      text ∈ service.executed ++ service.landed requests event :=
    fun member => List.mem_append_left _ member
  have landed : ∀ {other}, service.Landed other → Landed
      { service with
        executed := service.executed ++ service.landed requests event } other := by
    rintro other ⟨id, message, found, same, executed⟩
    exact ⟨id, message, found, same, more executed⟩
  constructor
  case texts => exact honest.texts
  case backed =>
    intro other
    by_cases here : other = key
    · subst here
      show Backed _ (update service.agents other moved other)
      rw [update_self]
      apply Backed.step taken _ ((honest.backed other).mono landed)
      intro response completed success
      cases event with
      | execReturned call given error =>
        obtain ⟨message, found, same⟩ := known call rfl
        refine ⟨call, message, found, same, List.mem_append_right _ ?_⟩
        have done : succeeded given ((requests call).dispatcher.classify error) = true :=
          succeeded_iff.mpr ⟨response, completed, success⟩
        simp [Service.landed, done, found]
      | _ => cases completed
    · show Backed _ (update service.agents key moved other)
      rw [update_of_ne here]
      exact (honest.backed other).mono landed
  case publishes =>
    intro id publish found
    have own := honest.publishes found
    unfold Publishes at own ⊢
    cases phase : publish.phase <;> rw [phase] at own <;> first | exact own | exact more own
  case stored =>
    intro replied
    exact more (honest.stored replied)

/-- The agent confirms a text only after its execution. -/
theorem answer {message : Message} {response : Option ToolResponse} {error : Option Error}
    (found : service.publishes id = some publish) (sent : publish.phase = .sent)
    (known : service.messages id = some message)
    (returned : (service.agents message.key).calls id = .returned response error)
    (success : succeeded response error = true) : publish.text ∈ service.executed := by
  have own := honest.publishes found
  unfold Publishes at own
  rw [sent] at own
  cases known.symm.trans own
  obtain ⟨given, outcome, success⟩ := succeeded_iff.mp success
  obtain ⟨other, message, asked, same, executed⟩ :=
    (honest.backed _).answered id given (by rw [returned]; exact outcome) success
  have text : publish.text = message.text := honest.texts own asked same.symm
  rw [text]
  exact executed

end

theorem step {action} (taken : Step requests service action next)
    (guard : SameText service action) (honest : service.Honest) : next.Honest := by
  cases taken with
  | reply _ unsent | retryReply _ unsent =>
    apply honest.move
    rintro publish ⟨⟩
    exact unsent
  | send found loaded => exact honest.send found loaded (guard _ found)
  | unrouted => exact guard.elim
  | malformed | lost =>
    apply honest.move
    rintro publish ⟨⟩
    exact trivial
  | agent known moved => exact honest.agent known moved
  | @answer id publish message response error found sent known returned =>
    apply honest.move
    rintro other ⟨⟩
    cases success : succeeded response error with
    | true =>
      have executed := honest.answer found sent known returned success
      exact executed
    | false => exact trivial
  | @record id publish found dispatched =>
    have executed : publish.text ∈ service.executed := by
      have own := honest.publishes found
      unfold Publishes at own
      rwa [dispatched] at own
    apply Honest.write
    · apply honest.move
      rintro other ⟨⟩
      exact executed
    · intro _
      rw [Review.replyText_updateReply]
      exact executed
  | @finish id publish status found outcome =>
    apply honest.close.write
    intro replied
    rw [Review.replyStatus_updateReply] at replied
    rw [Review.replyText_updateReply]
    have own := honest.publishes found
    unfold Publishes at own
    rw [replied] at outcome
    cases phase : publish.phase <;> rw [phase] at own outcome
    case recorded => exact own
    case unrouted => exact own.elim
    all_goals cases outcome
  | stop => exact honest.close
  | skip skipped =>
    apply honest.write
    intro replied
    cases (Review.replyStatus_skipPending skipped).2.symm.trans replied
  | select | abandon => exact honest.setDraft _ _
  | claim _ claimed => exact (honest.setDraft _ _).keep (Review.reply_claimDraft claimed)
  | draft _ written => exact (honest.setDraft _ _).keep (Review.reply_updateDraft written)
  | regenerate prepared => exact honest.keep (Review.reply_prepareRegeneration prepared)
  | sync reply =>
    cases guard
    exact honest.keep ⟨rfl, rfl⟩

end Honest

end Service

/-- While one key carries one text, also in the requests of chat turns, the recorded reply was
published. -/
theorem recorded_reply_executed {messages : Nat → Option Message} {review : Review} {now : Domain.Time}
    {service : Service Error} {actions : List (Action Error)} (texts : OneText messages)
    (unanswered : review.replyStatus ≠ .replied)
    (run : Run (Guarded (Step requests) SameText) (.startAfter messages review now) actions service)
    (replied : service.review.replyStatus = .replied) :
    service.review.replyText ∈ service.executed := by
  have honest : service.Honest := by
    apply run.invariant _ (Service.Honest.start texts unanswered)
    intro first action next taken
    exact Service.Honest.step taken.1 taken.2
  exact honest.stored replied

def Sample.chatMessages : Nat → Option Message
  | 0 => some ⟨"batch-call", "Thank you"⟩
  | _ => none

/-- A chat turn answers the review and leaves its key; a reply with that text is answered from the cache. -/
theorem recorded_reply_executed_again : ∃ service : Service String,
    Run (Guarded (Step Dedupe.Sample.requests) SameText)
      (.startAfter Sample.chatMessages { Sample.review with dispatchApprovalID := "batch-call" } 0)
      [.agent "batch-call" (.claimed 0),
        .agent "batch-call" (.execReturned 0 (some Dedupe.Sample.response) none),
        .agent "batch-call" (.stored 0 0 true), .reply 1 false "b" "Thank you", .send 1,
        .agent "batch-call" (.missed 1),
        .agent "batch-call" (.answered 1 { Dedupe.Sample.response with taskID := "1" }),
        .answer 1, .record 1] service ∧
    service.review.replyStatus = .replied ∧ service.review.replyText ∈ service.executed := by
  have single : ∀ {id message}, Sample.chatMessages id = some message → message.text = "Thank you" := by
    intro id message found
    cases id <;> cases found
    rfl
  exact Run.reaches (.cons ⟨.agent (addressed rfl) (.claimed rfl rfl rfl), trivial⟩ <|
    .cons ⟨.agent (addressed rfl) (.execReturned _ _ rfl), trivial⟩ <|
    .cons ⟨.agent (addressed rfl) (.stored _ true rfl rfl), trivial⟩ <|
    .cons ⟨.reply rfl rfl (by decide) rfl rfl, trivial⟩ <|
    .cons ⟨.send rfl rfl, by
      rintro publish ⟨⟩ other message found _
      exact single found⟩ <|
    .cons ⟨.agent (addressed rfl) (.missed rfl rfl rfl), trivial⟩ <|
    .cons ⟨.agent (addressed rfl) (.answered _ rfl rfl), trivial⟩ <|
    .cons ⟨.answer rfl rfl rfl rfl, trivial⟩ <| .cons ⟨.record rfl rfl, trivial⟩ <| .nil _)
    fun run => ⟨rfl, recorded_reply_executed
      (fun one two _ => (single one).trans (single two).symm) (by decide) run rfl⟩

/-- An answer is lost, and a second text is recorded from the first's. -/
theorem recorded_reply_not_executed : ∃ service : Service String,
    Run (Step Dedupe.Sample.requests) (.start Sample.review 0)
      [.reply 0 false "b" "Thank you", .send 0, .agent "review-reply-r" (.claimed 0),
        .agent "review-reply-r" (.execReturned 0 (some Dedupe.Sample.response) none),
        .agent "review-reply-r" (.stored 0 0 true), .lost 0, .finish 0, .reply 1 false "b" "Sorry", .send 1,
        .agent "review-reply-r" (.missed 1),
        .agent "review-reply-r" (.answered 1 { Dedupe.Sample.response with taskID := "1" }),
        .answer 1, .record 1] service ∧
    service.review.replyStatus = .replied ∧ service.review.replyText = "Sorry" ∧
      service.executed = ["Thank you"] := by
  exact ⟨_, .cons (.reply rfl rfl (by decide) rfl rfl) <| .cons (.send rfl rfl) <|
    .cons (.agent (addressed rfl) (.claimed rfl rfl rfl)) <|
    .cons (.agent (addressed rfl) (.execReturned _ _ rfl)) <|
    .cons (.agent (addressed rfl) (.stored _ true rfl rfl)) <|
    .cons (.lost rfl rfl) <| .cons (.finish rfl rfl) <|
    .cons (.reply rfl rfl (by decide) rfl rfl) <| .cons (.send rfl rfl) <|
    .cons (.agent (addressed rfl) (.missed rfl rfl rfl)) <|
    .cons (.agent (addressed rfl) (.answered _ rfl rfl)) <|
    .cons (.answer rfl rfl rfl rfl) <| .cons (.record rfl rfl) <| .nil _,
    rfl, rfl, rfl⟩

end OneVoice.Reviews
