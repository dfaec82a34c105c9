import OneVoice.Construction.Review.Drafter

namespace OneVoice.Reviews.Autopilot

open Library Domain Agents List Option

section

variable {drafter : Drafter} {runtime : Runtime} {business : Business}
  {review published : ReviewSnapshot} {draft sent : Draft} {answers : Answers} {now : Int}

/-- The consent to answer a rated review with a draft of the model. -/
structure RatedConsent (runtime : Runtime) (config : ReviewAutopilotConfig)
    (review : ReviewSnapshot) (draft : Draft) (now : Int) : Prop where
  enabled : config.enabled = true
  positive : max 4 config.minRating ≤ review.rating
  known : review.rating ≤ 5
  notIgnored : ¬ (config.ignoreFourStar = true ∧ review.rating = 4)
  unflagged : draft.needsReview = false
  nonempty : draft.text ≠ ""
  short : draft.text.length ≤ 800
  scheme : contains (toLower runtime.lower draft.text) "://" = false
  domain : contains (toLower runtime.lower draft.text) "www." = false
  link : contains draft.text "](" = false
  recent : review.platform = some .yandexBusiness → ∃ instant,
    runtime.parseRFC3339 (stringArg review.platformMeta "published_at") = some instant ∧
      instant ≤ now ∧ now - instant ≤ 7 * 24 * 60 * 60 * 1000000000

/-- The consent to answer a factual question under a post. -/
structure FactualConsent (runtime : Runtime) (business : Business) (review : ReviewSnapshot)
    (draft : Draft) : Prop where
  consent : (reviewAutopilotFromSettings business.settings).autoAnswerFacts = true
  unrated : review.rating = 0
  pending : review.replyStatus = .pending
  comment : review.platform = some .telegram ∨ review.platform = some .vk
  recognised : factualBusinessReply runtime business review.text = some draft.text

/-- What holds for every automatic reply, whatever the consent to it. -/
structure Unblocked (business : Business) (review : ReviewSnapshot) (answers : Answers) : Prop where
  floor : ∀ floor, business.toolApprovals.lookup (replyToolForPlatform review.platform) =
    some floor → toolFloorRank floor ≤ toolFloorRank .auto
  cap : review.platform = some .yandexBusiness → ∃ count, answers.counted = .ok count ∧ count ≤ 10

structure Consented (runtime : Runtime) (business : Business) (review : ReviewSnapshot)
    (draft : Draft) (answers : Answers) : Prop where
  unblocked : Unblocked business review answers
  consent : FactualConsent runtime business review draft ∨
    RatedConsent runtime (reviewAutopilotFromSettings business.settings) review draft answers.decidedAt

theorem Consented.not_negative (consented : Consented runtime business review draft answers) :
    ¬ (1 ≤ review.rating ∧ review.rating ≤ 3) := by
  rcases consented.consent with factual | rated
  · have unrated := factual.unrated
    omega
  · have positive := rated.positive
    omega

theorem ReviewAutopilotConfig.minRating_raise (config : ReviewAutopilotConfig) : 4 ≤ config.raise.minRating := by
  unfold raise reviewAutopilotMinRatingFloor reviewNeedsReviewMaxRating
  split
  · exact Int.le_refl 4
  · omega

/-- The minimum that is set can only be above the floor. -/
theorem minRating_of_enabled (settings : Args) (enabled : (reviewAutopilotFromSettings settings).enabled = true) :
    4 ≤ (reviewAutopilotFromSettings settings).minRating := by
  unfold reviewAutopilotFromSettings at *
  split at enabled
  · decide
  · decide
  · decide
  · split at enabled
    · cases enabled
    · exact ReviewAutopilotConfig.minRating_raise _
  · cases enabled

theorem isDraftSafe_iff (text : String) : isDraftSafeForAutoPublish runtime text = true ↔
    text.length ≤ 800 ∧ contains (toLower runtime.lower text) "://" = false ∧
      contains (toLower runtime.lower text) "www." = false ∧ contains text "](" = false := by
  simp [isDraftSafeForAutoPublish, autoPublishMaxRunes]

theorem isRecent_iff : isRecent runtime review now = true ↔ ∃ instant,
    runtime.parseRFC3339 (stringArg review.platformMeta "published_at") = some instant ∧
      instant ≤ now ∧ now - instant ≤ 7 * 24 * 60 * 60 * 1000000000 := by
  unfold isRecent yandexReviewPublishedAtKey yandexAutoReplyMaxAge
  cases runtime.parseRFC3339 (stringArg review.platformMeta "published_at") with
  | none => simp
  | some instant =>
    simp only [decide_eq_true_eq, some.injEq, exists_eq_left']
    omega

theorem RatedConsent.of_shouldPublish {settings}
    (decided : autopilotShouldPublish runtime (reviewAutopilotFromSettings settings) review draft now = true) :
    RatedConsent runtime (reviewAutopilotFromSettings settings) review draft now := by
  have raised := minRating_of_enabled settings
  revert raised decided
  intro decided raised
  simp only [autopilotShouldPublish, Bool.if_false_left, Bool.and_eq_true, Bool.not_eq_true',
    decide_eq_false_iff_not, not_or, Decidable.not_not] at decided
  obtain ⟨notIgnored, enabled, ready, safe, least, decided⟩ := decided
  simp only [isPositiveDraftReady, decide_eq_true_eq] at ready
  rw [isDraftSafe_iff] at safe
  have floor := raised enabled.1
  constructor
  · exact enabled.1
  · omega
  · omega
  · exact notIgnored
  · exact ready.2.1
  · exact ready.1
  · exact safe.1
  · exact safe.2.1
  · exact safe.2.2.1
  · exact safe.2.2.2
  · intro yandex
    rw [if_pos yandex] at decided
    exact isRecent_iff.mp decided

theorem FactualConsent.of_reply {reply needsReview}
    (consent : (reviewAutopilotFromSettings business.settings).autoAnswerFacts = true)
    (answered : factualCommentReply runtime business review = some reply) :
    FactualConsent runtime business review ⟨reply, needsReview⟩ := by
  unfold factualCommentReply at answered
  split at answered
  · cases answered
  rename_i eligible
  simp only [not_or, not_and, Decidable.not_not] at eligible
  obtain ⟨found, recognised, rest⟩ := bind_eq_some_iff.mp answered
  obtain ⟨_, _, rest⟩ := bind_eq_some_iff.mp rest
  obtain ⟨⟨tool, first, second⟩, _, rest⟩ := bind_eq_some_iff.mp rest
  obtain ⟨_, _, rest⟩ := bind_eq_some_iff.mp rest
  obtain ⟨_, _, rest⟩ := bind_eq_some_iff.mp rest
  cases rest
  constructor
  · exact consent
  · exact eligible.2.1
  · exact eligible.2.2.1
  · by_cases telegram : review.platform = some .telegram
    · exact .inl telegram
    · exact .inr (eligible.2.2.2 telegram)
  · exact recognised

theorem not_holds {tool} (free : ¬ business.holds tool = true) {floor}
    (found : business.toolApprovals.lookup tool = some floor) : toolFloorRank floor ≤ toolFloorRank .auto := by
  simp only [Business.holds, found, any_some, decide_eq_true_eq, Decidable.not_not] at free
  rw [free]

namespace Drafter

theorem mem_publish (member : .reply published sent ∈ publish review draft answers) :
    published = review ∧ sent = draft := by
  rcases mem_cons.mp member with same | logged
  · cases same
    exact ⟨rfl, rfl⟩
  · split at logged <;> simp at logged

theorem mem_publishWithinCap (member : .reply published sent ∈ drafter.publishWithinCap business review draft answers) :
    (∃ count, answers.counted = .ok count ∧ count ≤ 10) ∧ published = review ∧ sent = draft := by
  rcases mem_cons.mp member with counter | later
  · cases counter
  split at later
  · cases later
  rename_i count counted
  split at later
  · split at later <;> simp at later
  · rename_i within
    unfold yandexAutoRepliesPerHour at within
    exact ⟨⟨count, counted, by omega⟩, mem_publish later⟩

/-- A reply is for the call's review and draft, unblocked. -/
theorem mem_publishAutomaticReply
    (member : .reply published sent ∈ drafter.publishAutomaticReply business review draft answers) :
    Unblocked business review answers ∧ published = review ∧ sent = draft := by
  unfold publishAutomaticReply at member
  split at member
  · cases member
  split at member
  · cases member
  split at member
  · cases member
  rename_i free
  split at member
  · split at member
    · cases member
    obtain ⟨within, same⟩ := mem_publishWithinCap member
    exact ⟨⟨fun floor found => not_holds free found, fun _ => within⟩, same⟩
  · rename_i other
    exact ⟨⟨fun floor found => not_holds free found, fun yandex => absurd yandex other⟩, mem_publish member⟩

theorem mem_maybeAutoPublish
    (member : .reply published sent ∈ drafter.maybeAutoPublish runtime business review draft answers) :
    Consented runtime business review draft answers ∧ published = review ∧ sent = draft := by
  unfold maybeAutoPublish at member
  split at member
  · cases member
  split at member
  · cases member
  rename_i decided
  rw [Decidable.not_not] at decided
  obtain ⟨unblocked, same⟩ := mem_publishAutomaticReply member
  exact ⟨⟨unblocked, .inr (.of_shouldPublish decided)⟩, same⟩

theorem mem_store {failure publication}
    (member : .reply published sent ∈ (store review draft answers failure publication).effects) :
    .reply published sent ∈ publication := by
  unfold store at member
  split at member
  · simp at member
  · simpa using member

theorem mem_generateDraft
    (member : .reply published sent ∈ (drafter.generateDraft runtime business review answers).effects) :
    published = review ∧ Consented runtime business published sent answers := by
  unfold generateDraft at member
  split at member
  · simp at member
  · rcases mem_cons.mp member with request | later
    · cases request
    obtain ⟨consented, rfl, rfl⟩ := mem_maybeAutoPublish (mem_store later)
    exact ⟨rfl, consented⟩

theorem mem_draftClaimed
    (member : .reply published sent ∈ (drafter.draftClaimed runtime business review answers).effects) :
    published = review ∧ Consented runtime business published sent answers := by
  unfold draftClaimed at member
  dsimp only at member
  split at member
  · rename_i reply answered
    split at answered
    · rename_i consent
      obtain ⟨unblocked, rfl, rfl⟩ := mem_publishAutomaticReply (mem_store member)
      exact ⟨rfl, unblocked, .inl (.of_reply consent answered)⟩
    · cases answered
  · exact mem_generateDraft member

theorem mem_generateOne (member : .reply published sent ∈ (drafter.generateOne runtime business review answers).effects)
    : published = review ∧ Consented runtime business published sent answers := by
  unfold generateOne at member
  split at member
  · split at member <;> simp at member
  split at member
  · simp at member
  · simp at member
  · rcases mem_cons.mp member with claim | later
    · cases claim
    exact mem_draftClaimed later

theorem mem_publishDeferred {deferred}
    (member : .reply published sent ∈ (drafter.publishDeferred runtime business deferred).effects) :
    ∃ answers, (published, answers) ∈ deferred ∧ Consented runtime business published sent answers := by
  induction deferred with
  | nil => cases member
  | cons entry rest inductionHypothesis =>
    obtain ⟨review, answers⟩ := entry
    have below (member : .reply published sent ∈ (drafter.publishDeferred runtime business rest).effects) :
        ∃ one, (published, one) ∈ (review, answers) :: rest ∧
          Consented runtime business published sent one := by
      obtain ⟨one, listed, consented⟩ := inductionHypothesis member
      exact ⟨one, mem_cons_of_mem _ listed, consented⟩
    unfold publishDeferred at member
    dsimp only at member
    split at member
    · split at member
      · simp at member
      · rcases mem_cons.mp member with clear | later
        · cases clear
        · exact below later
    · rcases mem_append.mp member with here | later
      · obtain ⟨consented, rfl, rfl⟩ := mem_maybeAutoPublish here
        exact ⟨answers, mem_cons_self, consented⟩
      · exact below later

theorem mem_runPass {deferred pending}
    (member : .reply published sent ∈ (drafter.runPass runtime business deferred pending).effects) :
    ∃ answers, (published, answers) ∈ deferred ++ pending ∧ Consented runtime business published sent answers := by
  have early (member : .reply published sent ∈ (drafter.publishDeferred runtime business deferred).effects) :
      ∃ answers, (published, answers) ∈ deferred ++ pending ∧
        Consented runtime business published sent answers := by
    obtain ⟨answers, listed, consented⟩ := mem_publishDeferred member
    exact ⟨answers, mem_append_left _ listed, consented⟩
  unfold runPass at member
  dsimp only at member
  split at member
  · exact early member
  · rcases mem_append.mp member with here | later
    · exact early here
    · obtain ⟨⟨review, answers⟩, listed, generated⟩ := mem_flatMap.mp later
      obtain ⟨rfl, consented⟩ := mem_generateOne generated
      exact ⟨answers, mem_append_right _ listed, consented⟩

end Drafter

/-- The listed reviews, with the answers to their calls. -/
def Drafter.Listing.Lists (listing : Listing) (drafter : Drafter) (review : ReviewSnapshot)
    (answers : Answers) : Prop :=
  ∃ pending deferred, listing.pending = .ok pending ∧
    listing.deferredReplies drafter = .ok deferred ∧ (review, answers) ∈ deferred ++ pending

theorem Drafter.mem_generateForBusiness {listing}
    (member : .reply published sent ∈ (drafter.generateForBusiness runtime listing).effects) :
    ∃ business answers, listing.business = .ok business ∧ listing.Lists drafter published answers ∧
      Consented runtime business published sent answers := by
  unfold generateForBusiness at member
  split at member
  · cases member
  · cases member
  · cases member
  · rename_i pending deferred _ pendingOk deferredOk
    split at member
    · cases member
    · rename_i business found
      obtain ⟨answers, listed, consented⟩ := mem_runPass member
      exact ⟨business, answers, found, ⟨pending, deferred, pendingOk, deferredOk, listed⟩, consented⟩

/-- Every reply that the worker publishes is within the consent, and no rating is from one to three.
-/
theorem automatic_replies_within_consent (drafter : Drafter) (runtime : Runtime) (listing : Drafter.Listing)
    (business : Business) (review : ReviewSnapshot) (answers : Answers) :
    (∀ published sent, .reply published sent ∈ (drafter.generateForBusiness runtime listing).effects →
        ∃ business answers, listing.business = .ok business ∧ listing.Lists drafter published answers ∧
          Consented runtime business published sent answers ∧
          ¬ (1 ≤ published.rating ∧ published.rating ≤ 3)) ∧ (∀ published sent,
      .reply published sent ∈ (drafter.draftReviewByID runtime business review answers).effects →
        published = review ∧ Consented runtime business published sent answers ∧
          ¬ (1 ≤ published.rating ∧ published.rating ≤ 3)) := by
  constructor
  · intro published sent member
    obtain ⟨owner, one, found, listed, consented⟩ := Drafter.mem_generateForBusiness member
    exact ⟨owner, one, found, listed, consented, consented.not_negative⟩
  · intro published sent member
    obtain ⟨same, consented⟩ := Drafter.mem_generateOne member
    exact ⟨same, consented, consented.not_negative⟩

end

open Autopilot.Sample

theorem automatic_replies_within_consent_facts :
    .reply question ⟨"Our address: Main st. 1", false⟩ ∈
      (drafter.draftReviewByID runtime business question answers).effects ∧
    Consented runtime business question ⟨"Our address: Main st. 1", false⟩ answers := by
  have published : (drafter.draftReviewByID runtime business question answers).effects =
      [.claimDraftForGenerating "q", .updateDraft "q" "Our address: Main st. 1" .ready "" false,
        .reply question ⟨"Our address: Main st. 1", false⟩,
        .logReviewAutoReplied question "telegram__reply_to_comment"] := by
    have answered : factualCommentReply runtime business question =
        some "Our address: Main st. 1" := by
      decide +kernel
    have claimed : drafter.draftClaimed runtime business question
        answers = Drafter.store question ⟨"Our address: Main st. 1", false⟩
          answers "persist factual draft: " (drafter.publishAutomaticReply
            business question ⟨"Our address: Main st. 1", false⟩ answers) := by
      unfold Drafter.draftClaimed
      rw [answered, if_pos (by decide)]
    show _ :: (drafter.draftClaimed _ _ _ _).effects = _
    rfl
  have member : .reply question ⟨"Our address: Main st. 1", false⟩ ∈
      (drafter.draftReviewByID runtime business question answers).effects := by
    rw [published]
    simp
  have consented := (automatic_replies_within_consent drafter runtime
    ⟨none, .ok [], .ok [], .ok business⟩ business question answers).2
    _ _ member
  exact ⟨member, consented.2.1⟩

end OneVoice.Reviews.Autopilot
