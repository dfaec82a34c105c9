/- The ingestion of `review_sync.go`, which makes reviews of entries, the builder of `review.go` of
their replies, the reader of `chatturn/postal.go`, which names the review answered, and the upserts of
`repository/review.go`. -/

import OneVoice.Construction.Agents.Request
import OneVoice.Construction.Review.Store

namespace OneVoice.Reviews

open Library Domain Agents Decimal

/-- The coordinates of the message that a review was made from. -/
structure PlatformMeta where
  chatID : Option Int := none
  messageID : Option Int := none
deriving DecidableEq

/-- The fields of a review that a sync writes. -/
structure SyncedReview where
  businessID : String
  platform : Platform
  externalID : String
  authorName : String
  rating : Int
  text : String
  replyText : String
  replyStatus : ReplyStatus
  platformMeta : PlatformMeta
deriving DecidableEq

def reviewSyncBatchSize : Int := 50

def ingestedTextMaxRunes : Nat := 8000

def vkUnknownUserName : String := "Пользователь ВКонтакте"

def vkUnknownCommunityName : String := "Сообщество ВКонтакте"

/-- The request that a sync sends to the agent of a platform. -/
def syncRequest (businessID tool : String) : ToolRequest where
  tool := tool
  businessID := businessID
  args := (∅ : Args).insert "limit" (.num reviewSyncBatchSize)
  approvalID := ""

def clampRunes (text : String) (maxRunes : Nat) : String :=
  if maxRunes = 0 ∨ text.length ≤ maxRunes then text else .ofList (text.toList.take maxRunes)

variable (review : SyncedReview) (replyText : String) (entry : Args)

variable (tool businessID : String) (platform : Platform) (args : Args) (name : String)

def metaInt : Option Int :=
  match entry.lookup name with
  | some (.num value) => some (toInt value)
  | some (.str value) => parseInt value
  | _ => none

/-- The name of a legacy row carries the identifier of its author. -/
def vkReviewAuthorName (fromID : Int) : String :=
  let name := Access.trimSpace name
  let legacy :=
    if "vk_user_".toList.isPrefixOf name.toList then
      parseInt (.ofList (name.toList.drop 8))
    else none
  let fromID := legacy.getD fromID
  if name ≠ "" ∧ legacy = none then name
  else if fromID < 0 then vkUnknownCommunityName
  else vkUnknownUserName

/-- The numbers of comments on VK count within a post only. -/
def externalIDFromMap : String :=
  if stringArg entry "id" ≠ "" then stringArg entry "id"
  else
    match metaInt entry "id", metaInt entry "post_id" with
    | none, _ => ""
    | some id, some postID =>
      if platform = .vk then formatInt postID ++ "_" ++ formatInt id
      else formatInt id
    | some id, none => formatInt id

def platformMetaFromMap : PlatformMeta where
  chatID := metaInt entry "chat_id"
  messageID := metaInt entry "message_id"

def ratingFromMap : Int :=
  match entry.lookup "rating" with
  | some (.num value) => toInt value
  | some (.str value) =>
    match parseInt value with
    | some rating => if 1 ≤ rating ∧ rating ≤ 5 then rating else 0
    | none => 0
  | _ => 0

def reviewFromMap : SyncedReview :=
  let author := stringArg entry "author"
  let reply := clampRunes (stringArg entry "reply") ingestedTextMaxRunes
  { businessID := businessID
    platform := platform
    externalID := externalIDFromMap entry platform
    authorName :=
      if platform = .vk then vkReviewAuthorName author ((metaInt entry "from_id").getD 0) else author
    rating := ratingFromMap entry
    text := clampRunes (stringArg entry "text") ingestedTextMaxRunes
    replyText := reply
    replyStatus := if reply ≠ "" then .replied else .pending
    platformMeta := if platform = .yandexBusiness then {} else platformMetaFromMap entry }

/-- A later review replaces an earlier one with its external identifier. -/
def placeReview (out : List SyncedReview) (review : SyncedReview) : List SyncedReview :=
  if review.externalID = "" then out
  else if out.any fun old => old.externalID = review.externalID then
    out.map fun old => if old.externalID = review.externalID then review else old
  else out ++ [review]

def dedupeReviewsByExternalID (entries : List Args) (businessID : String) (platform : Platform) :
    List SyncedReview :=
  (entries.map fun entry => reviewFromMap entry businessID platform).foldl placeReview []

structure ReviewKey where
  businessID : String
  platform : Platform
  externalID : String
deriving DecidableEq

def SyncedReview.key : ReviewKey := ⟨review.businessID, review.platform, review.externalID⟩

/-- What the platform shows is taken over. A known author, a reply and coordinates survive where
nothing comes. -/
def SyncedReview.upsert (stored : Option SyncedReview) (incoming : SyncedReview) : SyncedReview :=
  match stored with
  | none => incoming
  | some old =>
    let unknown := incoming.platform = .vk ∧
      (incoming.authorName = vkUnknownUserName ∨ incoming.authorName = vkUnknownCommunityName)
    { incoming with
      authorName := if unknown then old.authorName else incoming.authorName
      replyText := if incoming.replyText ≠ "" then incoming.replyText else old.replyText
      replyStatus := if incoming.replyStatus = .replied then .replied else old.replyStatus
      platformMeta := if incoming.platformMeta ≠ {} then incoming.platformMeta else old.platformMeta }

/-- A reply names chat and message, but not the channel of the agent. -/
def telegramReplyArgs (chatID messageID : Int) (replyText : String) : Args :=
  (((∅ : Args).insert "chat_id" (.str (formatInt chatID))).insert
    "message_id" (.num messageID)).insert "text" (.str replyText)

/-- A reply names the post and the comment, but not the community. -/
def vkReplyArgs (postID commentID : Int) (replyText : String) : Args :=
  (((∅ : Args).insert "post_id" (.num postID)).insert "comment_id" (.num commentID)).insert "text" (.str replyText)

/-- The tool and the arguments that carry a reply to the agent. -/
def buildPlatformReply : Except String (String × Args) :=
  match review.platform with
  | .vk =>
    match cut '_' review.externalID with
    | none => .error ("vk external_id " ++ review.externalID.quote ++ " is not <post>_<comment>")
    | some (post, comment) => do
        let postID ← expect (parseInt post) ("vk post_id " ++ post.quote)
        let commentID ← expect (parseInt comment) ("vk comment_id " ++ comment.quote)
        return ("vk__reply_comment", vkReplyArgs postID commentID replyText)
  | .telegram => do
      let chatID ← expect review.platformMeta.chatID "missing chat_id in platform_meta"
      let messageID ← expect review.platformMeta.messageID "missing message_id in platform_meta"
      return ("telegram__reply_to_comment", telegramReplyArgs chatID messageID replyText)
  | .yandexBusiness => do
      require (review.externalID ≠ "") "empty external_id"
      return ("yandex_business__reply_review",
        ((∅ : Args).insert "review_id" (.str review.externalID)).insert "text" (.str replyText))
  | .googleBusiness => do
      require (review.externalID ≠ "") "empty external_id"
      return ("google_business__reply_review",
        ((∅ : Args).insert "review_name" (.str review.externalID)).insert "text" (.str replyText))

/-- The request of a reply acts for the business of the review. -/
def replyRequest (approvalID : String) : Except String ToolRequest := do
  let (tool, args) ← buildPlatformReply review replyText
  return ⟨tool, review.businessID, args, approvalID⟩

def argInt : Option Int := metaInt args name

/-- The external identifier of the review that a reply answered. -/
def replyReviewExternalID : String :=
  let joined := fun first second =>
    match argInt args first, argInt args second with
    | some first, some second => formatInt first ++ "_" ++ formatInt second
    | _, _ => ""
  if tool = "yandex_business__reply_review" then stringArg args "review_id"
  else if tool = "google_business__reply_review" then stringArg args "review_name"
  else if tool = "vk__reply_comment" then joined "post_id" "comment_id"
  else if tool = "telegram__reply_to_comment" then joined "chat_id" "message_id"
  else ""

structure DraftFields where
  reply : String := ""
  status : Option DraftStatus := none
  generatedAt : Option Int := none
  error : String := ""
deriving DecidableEq

structure Document extends SyncedReview where
  id : String
  createdAt : Int
  draft : DraftFields := {}
deriving DecidableEq

namespace Document

def key (document : Document) : ReviewKey := document.toSyncedReview.key

/-- It sets the fields the review brings; a platform reply unsets the draft. -/
def update (review : Document) : Option Document → Document
  | none => { review with draft := {} }
  | some document =>
    { document with
      toSyncedReview := review.upsert (some document.toSyncedReview)
      draft := if review.replyStatus = .replied then {} else document.draft }

/-- A document as the updates of its reply and its draft see it. -/
def asReview (document : Document) (dispatchApprovalID : String) : Review :=
  ⟨document.id, document.businessID, document.replyText, document.replyStatus, document.draft.reply,
    document.draft.status, dispatchApprovalID⟩

/-- For them a sync is the upsert of a single review. -/
theorem asReview_update {incoming document : Document} (same : incoming.businessID = document.businessID)
    (key : String) : (incoming.update (some document)).asReview key =
      (document.asReview key).upsert ⟨incoming.replyText, incoming.replyStatus⟩ := by
  by_cases replied : incoming.replyStatus = .replied <;>
    simp [asReview, update, SyncedReview.upsert, Review.upsert, Review.unsetDraft, replied, same]

/-- A write replaces the document under its key, or comes last. -/
def place (write : Option Document → Document) (key : ReviewKey) : List Document → List Document
  | [] => [write none]
  | document :: rest =>
    if document.key = key then write (some document) :: rest
    else document :: place write key rest

def upsertInto (documents : List Document) (review : Document) : List Document :=
  place review.update review.key documents

/-- A later review takes the place of an earlier one with its natural key. -/
def collapse (deduped : List Document) (review : Document) : List Document :=
  if review.externalID = "" then deduped else place (fun _ => review) review.key deduped

/-- The reviews whose updates a bulk write holds. -/
def models (reviews : List Document) : List Document := reviews.foldl collapse []

/-- The store runs the updates of a bulk write in some order. -/
def bulkWrite (stored order : List Document) : List Document := order.foldl upsertInto stored

end Document

end OneVoice.Reviews
