import Mathlib.Data.List.Induction
import OneVoice.Construction.Review.Statistics

/-! The dashboard, the chat and the brief give the same numbers unless a review was skipped or has a
reply time without a reply. -/

namespace OneVoice.Reviews.Statistics

open Statistics.Review

def Review.skipped (r : Review) : Bool := r.replyStatus = some .skipped

/-- The review has a latency without a reply. -/
def Review.stray (r : Review) : Bool := r.replyStatus ≠ some .replied ∧ r.latency.isSome

/-- How the numbers differ after rounds with so many skipped and stray reviews. -/
structure Differ (skipped stray : Nat) (sla chat brief : Stats) : Prop where
  answered : sla.answered = chat.answered ∧ chat.answered = brief.answered
  unanswered : sla.unanswered + skipped = chat.unanswered ∧ chat.unanswered = brief.unanswered
  measured : sla.latencies.length + stray = chat.latencies.length
  same : stray = 0 → sla.latencies = chat.latencies

/-- A round of the dashboard in the numbers that all three reports have. -/
theorem toStats_slaRound (now : Int) (stats : SLAStats) (r : Review) :
    (slaRound now stats r).toStats = if r.replyStatus = some .replied then stats.answer.measure r.latency
      else if r.replyStatus = some .skipped then { stats.toStats with total := stats.total + 1 }
      else stats.await := by
  unfold slaRound SLAStats.bucketUnanswered
  repeat' split
  all_goals rfl

theorem Differ.round {skipped stray chat brief} {sla : SLAStats} (differ : Differ skipped stray sla.toStats chat brief)
    (now : Int) (r : Review) :
    Differ (skipped + if r.skipped then 1 else 0) (stray + if r.stray then 1 else 0)
      (slaRound now sla r).toStats (chatRound chat r) (briefRound brief r) := by
  obtain ⟨⟨answered, briefed⟩, ⟨unanswered, waits⟩, measured, same⟩ := differ
  rw [toStats_slaRound]
  by_cases replied : r.replyStatus = some .replied
  · have counted : r.skipped = false ∧ r.stray = false := by
      simp [Review.skipped, Review.stray, replied]
    simp only [chatRound, briefRound, counted]
    refine ⟨?_, ?_, ?_, fun strays => ?_⟩ <;> simp [Stats.answer, Stats.measure, *]
    · omega
    · exact same strays
  · have apart : r.stray = r.latency.isSome := by simp [Review.stray, replied]
    simp only [chatRound, briefRound, apart, Review.skipped]
    by_cases skips : r.replyStatus = some .skipped <;> cases r.latency <;>
      refine ⟨?_, ?_, ?_, ?_⟩ <;> simp [Stats.await, Stats.measure, *] <;> omega

theorem differ_of_reviews (reviews : List Review) (now : Int) :
    Differ (reviews.countP skipped) (reviews.countP stray) (computeSLA reviews now).toStats
      (aggregate reviews) (aggregateOwnerBriefStats reviews) := by
  induction reviews using List.reverseRecOn with
  | nil => exact ⟨⟨rfl, rfl⟩, ⟨rfl, rfl⟩, rfl, fun _ => rfl⟩
  | append_singleton reviews r ih =>
    have round := ih.round now r
    simpa [computeSLA, aggregate, aggregateOwnerBriefStats] using round

/-- The three reports agree exactly if no review was skipped and a reply time comes with a reply. -/
theorem reputation_agrees_iff (reviews : List Review) (now : Int) :
    ((computeSLA reviews now).answered = (aggregate reviews).answered ∧
        (aggregate reviews).answered = (aggregateOwnerBriefStats reviews).answered ∧
        (computeSLA reviews now).unanswered = (aggregate reviews).unanswered ∧
        (aggregate reviews).unanswered = (aggregateOwnerBriefStats reviews).unanswered ∧
        (computeSLA reviews now).measuredResponses = (aggregate reviews).measuredResponses ∧
        (computeSLA reviews now).medianResponse = (aggregate reviews).medianResponse) ↔
      ∀ r ∈ reviews, r.replyStatus ≠ some .skipped ∧ (r.latency.isSome → r.replyStatus = some .replied) := by
  obtain ⟨⟨answered, briefed⟩, ⟨unanswered, waits⟩, measured, same⟩ := differ_of_reviews reviews now
  have clean : (∀ r ∈ reviews, r.replyStatus ≠ some .skipped ∧
      (r.latency.isSome → r.replyStatus = some .replied)) ↔
        reviews.countP skipped = 0 ∧ reviews.countP stray = 0 := by
    simp only [List.countP_eq_zero, skipped, stray, ← forall_and]
    grind
  rw [clean]
  constructor
  · rintro ⟨-, -, waiting, -, latencies, -⟩
    unfold Stats.measuredResponses at latencies
    omega
  · rintro ⟨skips, strays⟩
    have equal := same strays
    refine ⟨answered, briefed, by omega, waits, ?_, ?_⟩
    · exact congrArg List.length equal
    · unfold Stats.medianResponse Stats.measuredResponses
      rw [equal]

/-- A skipped review waits in the chat and in the brief only, and the reply time of a failed reply
counts in the chat only. -/
theorem skipped_and_failed_counted_apart :
    let skipped : Review := ⟨some .skipped, 0, none, "vk"⟩
    let failed : Review := ⟨some .error, 0, some 60, "vk"⟩
    (computeSLA [skipped] 100).unanswered = 0 ∧ (aggregate [skipped]).unanswered = 1 ∧
      (aggregateOwnerBriefStats [skipped]).unanswered = 1 ∧
      (computeSLA [failed] 100).measuredResponses = 0 ∧ (aggregate [failed]).measuredResponses = 1 :=
  ⟨rfl, rfl, rfl, rfl, rfl⟩

end OneVoice.Reviews.Statistics
