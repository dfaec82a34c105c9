/- The stored document of one review and the updates of its repository, each of them one atomic
command with a filter. -/

import Mathlib.Logic.Basic

namespace OneVoice.Reviews

inductive ReplyStatus where
  | pending
  | skipped
  | replied
  | error
  deriving DecidableEq, Repr

inductive DraftStatus where
  | generating
  | ready
  | failed
  deriving DecidableEq, Repr

/-- To every filter an absent draft status equals an empty one. -/
structure Review where
  id : String
  businessID : String
  replyText : String := ""
  replyStatus : ReplyStatus := .pending
  draftReply : String := ""
  draftStatus : Option DraftStatus := none
  dispatchApprovalID : String := ""
  deriving DecidableEq, Repr

namespace Review

def unsetDraft (review : Review) : Review := { review with draftReply := "", draftStatus := none }

/-- A failed send keeps the draft. The update ignores the status it replaces. -/
def updateReply (review : Review) (replyText : String) (replyStatus : ReplyStatus)
    (dispatchApprovalID : String) : Review :=
  let set :=
    { review with
      replyText := replyText
      replyStatus := replyStatus
      dispatchApprovalID :=
        if dispatchApprovalID ≠ "" then dispatchApprovalID else review.dispatchApprovalID }
  if replyStatus = .error then set else set.unsetDraft

/-- The claim is won only when no draft is there or the last one failed. -/
def claimDraftForGenerating (review : Review) : Option Review :=
  if review.replyStatus ≠ .skipped ∧ (review.draftStatus = none ∨ review.draftStatus = some .failed) then
    some { review with draftStatus := some .generating }
  else
    none

def updateDraft (review : Review) (draft : String) (status : DraftStatus) : Option Review :=
  if review.replyStatus ≠ .skipped then
    match status with
    | .ready => some { review with draftStatus := some .ready, draftReply := draft }
    | .generating => some { review with draftStatus := some .generating }
    | .failed => some { review with draftStatus := some .failed }
  else
    none

def prepareRegeneration (review : Review) (businessID : String) : Option Review :=
  if review.businessID = businessID ∧ review.replyStatus = .pending ∧ review.draftStatus ≠ some .generating then
    some { review with draftStatus := none }
  else
    none

def skipPending (review : Review) (businessID : String) : Option Review :=
  if review.businessID = businessID ∧ review.replyStatus = .pending then
    some { review with replyStatus := .skipped }.unsetDraft
  else
    none

/-- A sync carries the reply that the platform shows, and its status. -/
structure Incoming where
  replyText : String
  replyStatus : ReplyStatus

def incomingFromMap (reply : String) : Incoming where
  replyText := reply
  replyStatus := if reply ≠ "" then .replied else .pending

/-- An upsert of a stored review carries only `replied` forward. -/
def upsert (review : Review) (incoming : Incoming) : Review :=
  let set :=
    { review with
      replyText := if incoming.replyText ≠ "" then incoming.replyText else review.replyText
      replyStatus :=
        if incoming.replyStatus = .replied then .replied else review.replyStatus }
  if incoming.replyStatus = .replied then set.unsetDraft else set

/-- The guard of a reply; the autopilot also spares skipped ones. -/
def alreadyAnswered (review : Review) (automatic : Bool) : Bool :=
  (automatic ∧ review.replyStatus = .skipped) ∨ review.replyStatus = .replied ∨
    (review.replyText ≠ "" ∧ review.replyStatus ≠ .error)

def retryable (review : Review) : Bool := review.replyStatus = .error ∧ review.replyText ≠ ""

def pendingWithoutDraft (review : Review) : Bool :=
  (review.replyStatus = .pending ∨ review.replyStatus = .error) ∧
    (review.draftStatus = none ∨ review.draftStatus = some .failed)

/-- The reviews that a batch of explicit identifiers drafts. -/
def draftTarget (review : Review) : Bool :=
  review.replyStatus ≠ .skipped ∧ review.replyStatus ≠ .replied ∧
    (review.replyText = "" ∨ review.replyStatus = .error)

/-- The key under which the agent deduplicates the replies to a review. -/
def manualReplyApprovalID (review : Review) : String :=
  if review.dispatchApprovalID ≠ "" then review.dispatchApprovalID
  else "review-reply-" ++ review.id

end Review

/-- A review as a sync inserts it. -/
def Sample.review : Review := { id := "r", businessID := "b" }

namespace Review

variable {review next : Review}

section

variable (review : Review) (replyText : String) (replyStatus : ReplyStatus) (dispatchApprovalID : String)

@[simp]
theorem replyStatus_updateReply :
    (review.updateReply replyText replyStatus dispatchApprovalID).replyStatus = replyStatus := by
  unfold updateReply
  dsimp only
  split <;> rfl

@[simp]
theorem replyText_updateReply :
    (review.updateReply replyText replyStatus dispatchApprovalID).replyText = replyText := by
  unfold updateReply
  dsimp only
  split <;> rfl

end

variable {businessID : String}

theorem replyStatus_skipPending (skipped : review.skipPending businessID = some next) :
    review.replyStatus = .pending ∧ next.replyStatus = .skipped := by
  unfold skipPending at skipped
  split at skipped
  · rename_i matched
    cases skipped
    exact ⟨matched.2, rfl⟩
  · cases skipped

theorem reply_claimDraft (claimed : review.claimDraftForGenerating = some next) :
    next.replyStatus = review.replyStatus ∧ next.replyText = review.replyText := by
  unfold claimDraftForGenerating at claimed
  split at claimed <;> cases claimed
  exact ⟨rfl, rfl⟩

theorem reply_updateDraft {draft status} (written : review.updateDraft draft status = some next) :
    next.replyStatus = review.replyStatus ∧ next.replyText = review.replyText := by
  unfold updateDraft at written
  split at written
  · cases status <;> cases written <;> exact ⟨rfl, rfl⟩
  · cases written

theorem reply_prepareRegeneration (prepared : review.prepareRegeneration businessID = some next) :
    next.replyStatus = review.replyStatus ∧ next.replyText = review.replyText := by
  unfold prepareRegeneration at prepared
  split at prepared <;> cases prepared
  exact ⟨rfl, rfl⟩

/-- A sync changes the status only when the platform shows a reply. -/
theorem replyStatus_upsert (review : Review) (reply : String) :
    (review.upsert (incomingFromMap reply)).replyStatus = if reply ≠ "" then .replied else review.replyStatus := by
  by_cases shown : reply ≠ "" <;> simp [upsert, incomingFromMap, shown, unsetDraft]

theorem replyStatus_of_alreadyAnswered {automatic}
    (unanswered : review.alreadyAnswered automatic = false) : review.replyStatus ≠ .replied := by
  intro replied
  simp [alreadyAnswered, replied] at unanswered

theorem replyStatus_of_retryable (retryable : review.retryable = true) : review.replyStatus = .error := by
  simp only [Review.retryable, decide_eq_true_eq] at retryable
  exact retryable.1

end Review

end OneVoice.Reviews
