/- The draft worker of `review_drafter.go`. A pass is a function of the answers that its calls get,
and it returns the calls that it makes. -/

import OneVoice.Construction.Review.Autopilot

namespace OneVoice.Reviews.Autopilot

open Library Domain Agents

/-- The wired collaborators; the last two are optional interfaces. -/
structure Drafter where
  autoPublisher : Bool
  autoPublishRedis : Bool
  skipsPending : Bool
  defersReplies : Bool

/-- The answers for one review, and the gate's clock readings. -/
structure Answers where
  skipped : Option String
  claimed : Except String Bool
  drafted : Except String String
  persisted : Option String
  recheckedAt : Int
  cleared : Option String
  decidedAt : Int
  counted : Except String Int
  replied : Option String

inductive Effect where
  | skipPending (reviewID : String)
  | claimDraftForGenerating (reviewID : String)
  | draftReply (reviewID : String)
  | updateDraft (reviewID draft : String) (status : DraftStatus) (error : String) (needsReview : Bool)
  | setAutoReplyDeferred (reviewID : String) (deferred : Bool)
  | incrWithHeal (key : String)
  | reply (review : ReviewSnapshot) (draft : Draft)
  | logReviewAutoReplied (review : ReviewSnapshot) (tool : String)

/-- The calls in their order, and the error that the function returns. -/
structure Outcome where
  effects : List Effect
  error : Option String := none

def yandexAutoRepliesPerHour : Int := 10

def yandexReplyMaxRunes : Nat := 2500

def replyToolForPlatform : Option Platform → String
  | some .vk => "vk__reply_comment"
  | some .telegram => "telegram__reply_to_comment"
  | some .googleBusiness => "google_business__reply_review"
  | some .yandexBusiness => "yandex_business__reply_review"
  | none => ""

def clampDraftForPlatform (platform : Option Platform) (draft : String) : String :=
  if platform = some .yandexBusiness ∧ draft.length > yandexReplyMaxRunes then
    .ofList (draft.toList.take yandexReplyMaxRunes)
  else draft

namespace Drafter

variable (drafter : Drafter) (runtime : Runtime) (business : Business) (review : ReviewSnapshot)
  (draft : Draft) (answers : Answers)

/-- The audit follows a publication that succeeds. -/
def publish : List Effect :=
  .reply review draft ::
    if answers.replied = none then
      [.logReviewAutoReplied review (replyToolForPlatform review.platform)]
    else []

/-- The hourly counter of the Yandex replies. -/
def publishWithinCap : List Effect :=
  .incrWithHeal ("reviews:auto:yandex:" ++ business.id) ::
    match answers.counted with
    | .error _ => []
    | .ok count =>
      if count > yandexAutoRepliesPerHour then
        if drafter.defersReplies then [.setAutoReplyDeferred review.id true] else []
      else publish review draft answers

def publishAutomaticReply : List Effect :=
  if ¬ drafter.autoPublisher then []
  else if replyToolForPlatform review.platform = "" then []
  else if business.holds (replyToolForPlatform review.platform) then []
  else if review.platform = some .yandexBusiness then
    if ¬ drafter.autoPublishRedis then []
    else publishWithinCap drafter business review draft answers
  else publish review draft answers

def maybeAutoPublish : List Effect :=
  if ¬ drafter.autoPublisher then []
  else if ¬ autopilotShouldPublish runtime (reviewAutopilotFromSettings business.settings) review
      draft answers.decidedAt then []
  else publishAutomaticReply drafter business review draft answers

/-- An empty draft is an error of the orchestrator. -/
def callOrchestrator (answer : Except String String) : Except String String := do
  let reply ← answer.mapError fun error => "post draft-reply: " ++ error
  require (Access.trimSpace reply ≠ "") "orchestrator returned empty draft"
  return Access.trimSpace reply

/-- The draft is stored before it is published. -/
def store (failure : String) (publication : List Effect) : Outcome :=
  let update := Effect.updateDraft review.id draft.text .ready "" draft.needsReview
  match answers.persisted with
  | some error => ⟨[update], some (failure ++ error)⟩
  | none => ⟨update :: publication, none⟩

def generateDraft : Outcome :=
  match callOrchestrator answers.drafted with
  | .error error =>
    ⟨[.draftReply review.id, .updateDraft review.id "" .failed error false], some error⟩
  | .ok reply =>
    let draft := ⟨clampDraftForPlatform review.platform reply, review.rating ≤ reviewNeedsReviewMaxRating⟩
    let stored := store review draft answers "persist draft: "
      (drafter.maybeAutoPublish runtime business review draft answers)
    ⟨.draftReply review.id :: stored.effects, stored.error⟩

def draftClaimed : Outcome :=
  let facts :=
    if (reviewAutopilotFromSettings business.settings).autoAnswerFacts then
      factualCommentReply runtime business review
    else none
  match facts with
  | some reply =>
    store review ⟨reply, false⟩ answers "persist factual draft: "
      (drafter.publishAutomaticReply business review ⟨reply, false⟩ answers)
  | none => drafter.generateDraft runtime business review answers

def generateOne : Outcome :=
  if (reviewAutopilotFromSettings business.settings).ignoreFourStar ∧
      review.replyStatus = .pending ∧ review.rating = reviewAutopilotMinRatingFloor then
    if ¬ drafter.skipsPending then ⟨[], some "four-star disposition storage unavailable"⟩
    else ⟨[.skipPending review.id], answers.skipped⟩
  else
    let claim := Effect.claimDraftForGenerating review.id
    match answers.claimed with
    | .error error => ⟨[claim], some ("claim row: " ++ error)⟩
    | .ok false => ⟨[claim], none⟩
    | .ok true =>
      let drafted := drafter.draftClaimed runtime business review answers
      ⟨claim :: drafted.effects, drafted.error⟩

/-- A batch drafts its reviews one by one. -/
def draftReviewByID : Outcome := drafter.generateOne runtime business review answers

/-- A deferred reply is checked again with the draft that is stored. -/
def publishDeferred (drafter : Drafter) (runtime : Runtime) (business : Business) :
    List (ReviewSnapshot × Answers) → Outcome
  | [] => ⟨[], none⟩
  | (review, answers) :: rest =>
    let draft := ⟨review.draftReply, review.needsReview⟩
    let config := reviewAutopilotFromSettings business.settings
    let others := drafter.publishDeferred runtime business rest
    if ¬ autopilotShouldPublish runtime config review draft answers.recheckedAt then
      let clear := Effect.setAutoReplyDeferred review.id false
      match answers.cleared with
      | some error => ⟨[clear], some ("clear ineligible auto-reply deferral: " ++ error)⟩
      | none => ⟨clear :: others.effects, others.error⟩
    else
      ⟨drafter.maybeAutoPublish runtime business review draft answers ++ others.effects, others.error⟩

/-- An error on one review does not end the pass. -/
def generateEach (pending : List (ReviewSnapshot × Answers)) : List Effect :=
  pending.flatMap fun entry => (drafter.generateOne runtime business entry.1 entry.2).effects

/-- The rows that a pass reads; over all platforms it is `none`. -/
structure Listing where
  platform : Option Platform
  pending : Except String (List (ReviewSnapshot × Answers))
  deferred : Except String (List (ReviewSnapshot × Answers))
  business : Except String Business

def Listing.deferredReplies (listing : Listing) (drafter : Drafter) :
    Except String (List (ReviewSnapshot × Answers)) :=
  if (listing.platform = some .yandexBusiness ∨ listing.platform = none) ∧
      drafter.defersReplies then listing.deferred
  else .ok []

def runPass (deferred pending : List (ReviewSnapshot × Answers)) : Outcome :=
  let first := drafter.publishDeferred runtime business deferred
  match first.error with
  | some error => ⟨first.effects, some error⟩
  | none => ⟨first.effects ++ drafter.generateEach runtime business pending, none⟩

def generateForBusiness (listing : Listing) : Outcome :=
  match listing.pending, listing.deferredReplies drafter with
  | .error error, _ => ⟨[], some ("list pending without draft: " ++ error)⟩
  | .ok _, .error error => ⟨[], some ("list deferred auto-replies: " ++ error)⟩
  | .ok [], .ok [] => ⟨[], none⟩
  | .ok pending, .ok deferred =>
    match listing.business with
    | .error error => ⟨[], some ("get business: " ++ error)⟩
    | .ok business => drafter.runPass runtime business deferred pending

end Drafter

namespace Sample

def runtime : Runtime where
  lower := Char.toLower
  formatFloat := fun value => Decimal.formatInt value.num
  parseRFC3339 := fun _ => none

def drafter : Drafter where
  autoPublisher := true
  autoPublishRedis := true
  skipsPending := true
  defersReplies := true

def business : Business where
  id := "b"
  address := "Main st. 1"
  settings := ∅

/-- A comment in the group of a channel. -/
def question : ReviewSnapshot where
  id := "q"
  platform := some .telegram
  externalID := "-1002_7"
  rating := 0
  text := "What is  your address?"
  replyStatus := .pending
  platformMeta := ((∅ : Args).insert "chat_id" (.num (-1002))).insert "message_id" (.num 7)
  draftReply := ""
  needsReview := false

/-- Every call succeeds. -/
def answers : Answers where
  skipped := none
  claimed := .ok true
  drafted := .ok "Thank you"
  persisted := none
  recheckedAt := 0
  cleared := none
  decidedAt := 0
  counted := .ok 1
  replied := none

end Sample

end OneVoice.Reviews.Autopilot
