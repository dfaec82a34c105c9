import OneVoice.Proof.Review.Isolation

namespace OneVoice.Reviews

open Library Domain Agents Decimal

namespace SyncedReview

/-- A Telegram review comes from the syncs; any other may be stored. -/
def Stored (review : SyncedReview) : Prop :=
  review.platform = .telegram → ∃ handler token queue actions last key,
    Run (Ingest.Step handler token) (.start queue) actions last ∧ last.store key = some review

/-- The numbers of VK are written as printed, within JSON's range. -/
def Canonical (review : SyncedReview) : Prop :=
  review.platform = .vk → ∀ post comment, cut '_' review.externalID = some (post, comment) →
    ∃ postID commentID : WireInt,
      post = formatInt postID.value ∧ comment = formatInt commentID.value

end SyncedReview

section

variable {review : SyncedReview}

/-- A stored review of Telegram is named after its coordinates. -/
theorem SyncedReview.Stored.coordinates (stored : review.Stored)
    (telegram : review.platform = .telegram) : ∃ chatID messageID : WireInt,
      review.platformMeta = ⟨some chatID.value, some messageID.value⟩ ∧ review.externalID =
        formatInt chatID.value ++ "_" ++ formatInt messageID.value := by
  obtain ⟨handler, token, queue, actions, last, key, run, found⟩ := stored telegram
  have sound : Sound (fun _ _ => True) last :=
    run.invariant (fun _ _ _ taken sound => sound.step taken (by
      rename_i action _
      cases action <;> simp [FetchesOwn, Confined])) (sound_start _ queue)
  obtain ⟨update, _, ⟨entry, kept, named, _, _, carried⟩, _⟩ := sound.stored key review found
  obtain ⟨message, _, made⟩ := Option.bind_eq_some_iff.mp kept
  obtain ⟨chat, located, id, -⟩ := reviewEntry_coordinates made
  refine ⟨chat.id, message.messageID, ?_, ?_⟩
  · rw [carried, platformMeta_of_reviewEntry located made]
  · rw [named]
    simp [reviewFromMap, externalIDFromMap, stringArg, id]

theorem replyReviewExternalID_congr {args decoded}
    (same : ∀ name, decoded.lookup name = args.lookup name) (tool : String) :
    replyReviewExternalID tool decoded = replyReviewExternalID tool args := by
  simp only [replyReviewExternalID, argInt, metaInt, stringArg, same]

/-- The reply to a stored review names it, also once sent. -/
theorem reply_names_review {replyText tool : String} {args : Args} (stored : review.Stored)
    (canonical : review.Canonical) (built : buildPlatformReply review replyText = .ok (tool, args)) :
    replyReviewExternalID tool args = review.externalID ∧
      ∃ decoded, Json.decodeMap some (Json.encodeMap id args) = some decoded ∧
        replyReviewExternalID tool decoded = review.externalID := by
  have named : replyReviewExternalID tool args = review.externalID := by
    unfold buildPlatformReply at built
    cases platform : review.platform with
    | vk =>
      simp only [platform] at built
      split at built
      · cases built
      · next post comment parts =>
          obtain ⟨postID, commentID, rfl, rfl⟩ := canonical platform post comment parts
          rw [parseInt_wireInt, parseInt_wireInt] at built
          obtain ⟨rfl, rfl⟩ := Prod.mk.inj (Except.ok.inj built)
          rw [eq_of_cut parts]
          simp [replyReviewExternalID, vkReplyArgs, argInt, metaInt, -AList.insert_empty]
    | telegram =>
      obtain ⟨chatID, messageID, carried, externalID⟩ := stored.coordinates platform
      simp only [platform, carried] at built
      obtain ⟨rfl, rfl⟩ := Prod.mk.inj (Except.ok.inj built)
      rw [externalID]
      simp [replyReviewExternalID, telegramReplyArgs, argInt, metaInt, -AList.insert_empty]
    | yandexBusiness | googleBusiness =>
      simp only [platform, bind_ok] at built
      obtain ⟨_, _, rfl, rfl⟩ := built
      simp [replyReviewExternalID, stringArg, -AList.insert_empty]
  obtain ⟨decoded, done, same⟩ := Json.decodeMap_encodeMap (fun _ => rfl) args
  exact ⟨named, decoded, done, (replyReviewExternalID_congr same tool).trans named⟩

end

/-- A comment on VK. -/
def Sample.comment12 : SyncedReview := ⟨"acme", .vk, "12_34", "Anna", 0, "hello", "", .pending, {}⟩

theorem reply_names_review_comment :
    buildPlatformReply Sample.comment12 "thanks" = .ok ("vk__reply_comment", vkReplyArgs 12 34 "thanks") ∧
      replyReviewExternalID "vk__reply_comment" (vkReplyArgs 12 34 "thanks") = "12_34" := by
  have built : buildPlatformReply Sample.comment12 "thanks" =
      .ok ("vk__reply_comment", vkReplyArgs 12 34 "thanks") := rfl
  have stored : Sample.comment12.Stored := fun telegram => by cases telegram
  refine ⟨built, (reply_names_review stored ?_ built).1⟩
  rintro _ _ _ ⟨⟩
  exact ⟨⟨12, by decide⟩, ⟨34, by decide⟩, rfl, rfl⟩

end OneVoice.Reviews
