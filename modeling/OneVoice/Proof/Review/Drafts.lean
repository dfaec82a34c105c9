import OneVoice.Construction.Review.Service

namespace OneVoice.Reviews

open Library Review

namespace Review

/-- A review that is answered or skipped offers no draft. -/
def Clean (review : Review) : Prop :=
  review.replyStatus = .replied ∨ review.replyStatus = .skipped → review.draftReply = "" ∧ review.draftStatus = none

variable {review next : Review}

theorem clean_unsetDraft (review : Review) : review.unsetDraft.Clean := fun _ => ⟨rfl, rfl⟩

/-- An update that leaves the status open may write a draft. -/
theorem clean_of_open (replied : review.replyStatus ≠ .replied)
    (skipped : review.replyStatus ≠ .skipped) : review.Clean := by
  rintro (settled | settled)
  · exact absurd settled replied
  · exact absurd settled skipped

theorem clean_updateReply (review : Review) (replyText : String) (replyStatus : ReplyStatus)
    (dispatchApprovalID : String) : (review.updateReply replyText replyStatus dispatchApprovalID).Clean := by
  unfold updateReply
  dsimp only
  split
  · rename_i failed
    apply clean_of_open <;> simp [failed]
  · exact clean_unsetDraft _

variable {businessID : String}

theorem clean_skipPending (skipped : review.skipPending businessID = some next) : next.Clean := by
  unfold skipPending at skipped
  split at skipped
  · cases skipped
    exact clean_unsetDraft _
  · cases skipped

theorem clean_claimDraftForGenerating (unanswered : review.replyStatus ≠ .replied)
    (claimed : review.claimDraftForGenerating = some next) : next.Clean := by
  unfold claimDraftForGenerating at claimed
  split at claimed
  · rename_i matched
    cases claimed
    exact clean_of_open unanswered matched.1
  · cases claimed

theorem clean_updateDraft {draft status} (unanswered : review.replyStatus ≠ .replied)
    (written : review.updateDraft draft status = some next) : next.Clean := by
  unfold updateDraft at written
  split at written
  · rename_i unskipped
    cases status <;> cases written <;> exact clean_of_open unanswered unskipped
  · cases written

theorem clean_prepareRegeneration (prepared : review.prepareRegeneration businessID = some next) : next.Clean := by
  unfold prepareRegeneration at prepared
  split at prepared
  · rename_i matched
    cases prepared
    apply clean_of_open <;> simp [matched.2.1]
  · cases prepared

theorem clean_upsert (clean : review.Clean) (incoming : Incoming) : (review.upsert incoming).Clean := by
  unfold upsert
  dsimp only
  split
  · exact clean_unsetDraft _
  · exact clean

end Review

variable {Error : Type} {requests : Nat → Dedupe.Call Error}

/-- A draft is claimed and written only while the review is not replied. -/
def DraftsUnanswered (service : Service Error) : Action Error → Prop
  | .claim _ => service.review.replyStatus ≠ .replied
  | .draft _ _ => service.review.replyStatus ≠ .replied
  | _ => True

theorem Step.clean {service next action} (taken : Step requests service action next)
    (guard : DraftsUnanswered service action) (clean : service.review.Clean) : next.review.Clean := by
  cases taken with
  | record | finish => exact clean_updateReply _ _ _ _
  | skip skipped => exact clean_skipPending skipped
  | claim _ claimed => exact clean_claimDraftForGenerating guard claimed
  | draft _ written => exact clean_updateDraft guard written
  | regenerate prepared => exact clean_prepareRegeneration prepared
  | sync reply => exact clean_upsert clean _
  | _ => exact clean

/-- While drafts are for unreplied reviews, no settled one has a draft. -/
theorem settled_carries_no_draft {review : Review} {now : Domain.Time} {service : Service Error}
    {actions : List (Action Error)} (inserted : review.unsetDraft = review)
    (run : Run (Guarded (Step requests) DraftsUnanswered) (.start review now) actions service)
    (settled : service.review.replyStatus = .replied ∨ service.review.replyStatus = .skipped) :
    service.review.draftReply = "" ∧ service.review.draftStatus ≠ some .ready ∧
      service.review.draftStatus ≠ some .generating := by
  have start : review.Clean := by
    rw [← inserted]
    exact clean_unsetDraft review
  have clean : service.review.Clean := by
    apply run.invariant _ start
    intro first action last taken
    exact taken.1.clean taken.2
  obtain ⟨draft, status⟩ := clean settled
  rw [status]
  exact ⟨draft, nofun, nofun⟩

theorem settled_carries_no_draft_skipped : ∃ service : Service String,
    Run (Guarded (Step Dedupe.Sample.requests) DraftsUnanswered) (.start Sample.review 0)
      [.select 0, .claim 0, .draft 0 (some "Thank you"), .skip "b"] service ∧
    service.review.replyStatus = .skipped ∧ service.review.draftReply = "" := by
  exact Run.reaches (.cons ⟨.select rfl rfl, trivial⟩ <| .cons ⟨.claim rfl rfl, nofun⟩ <|
    .cons ⟨.draft rfl rfl, nofun⟩ <|
    .cons ⟨.skip rfl, trivial⟩ <| .nil _)
    fun run => ⟨rfl, (settled_carries_no_draft rfl run (.inr rfl)).1⟩

/-- A sync brings a reply after the selection, and the claim matches. -/
theorem replied_review_drafted : ∃ service : Service String,
    Run (Step Dedupe.Sample.requests) (.start Sample.review 0) [.select 0, .sync "Thank you", .claim 0] service ∧
    service.review.replyStatus = .replied ∧ service.review.draftStatus = some .generating := by
  exact ⟨_, .cons (.select rfl rfl) <| .cons (.sync "Thank you") <| .cons (.claim rfl rfl) <| .nil _, rfl, rfl⟩

end OneVoice.Reviews
