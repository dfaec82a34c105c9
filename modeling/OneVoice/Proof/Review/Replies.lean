import OneVoice.Construction.Agents.Updates
import OneVoice.Construction.Review.Sync
import OneVoice.Proof.Agents.Tools

namespace OneVoice.Reviews

open Library Domain Agents Decimal Telegram

/-- The post of the channel adds two fields of its own. -/
theorem lookup_channelPost (message : Telegram.Message) (entry : Args) {name}
    (channel : name ≠ "channel_id") (post : name ≠ "channel_post_id") :
    (message.channelPost entry).lookup name = entry.lookup name := by
  unfold Telegram.Message.channelPost
  split
  · split
    · rw [AList.lookup_insert_ne post]
      split
      · rw [AList.lookup_insert_ne channel]
      · rfl
    · rfl
  · rfl

variable {entry : Args} {message : Telegram.Message} {chat : Telegram.Chat} {businessID : String}

/-- The entry of a message carries the chat and the number of the message. -/
theorem reviewEntry_coordinates (kept : message.reviewEntry = some entry) :
    ∃ chat, message.chat = some chat ∧ entry.lookup "id" = some (.str
        (formatInt chat.id.value ++ "_" ++ formatInt message.messageID.value)) ∧
      entry.lookup "chat_id" = some (.num chat.id.value) ∧
      entry.lookup "message_id" = some (.num message.messageID.value) := by
  unfold Telegram.Message.reviewEntry at kept
  split_ifs at kept
  obtain ⟨chat, located, rfl⟩ := Option.map_eq_some_iff.mp kept
  exact ⟨chat, located, by simp [lookup_channelPost, -AList.insert_empty]⟩

/-- A message's coordinates survive in its review. -/
theorem platformMeta_of_reviewEntry (located : message.chat = some chat)
    (kept : message.reviewEntry = some entry) (businessID : String) :
    (reviewFromMap entry businessID .telegram).platformMeta =
      ⟨some chat.id.value, some message.messageID.value⟩ := by
  obtain ⟨other, found, -, chatID, messageID⟩ := reviewEntry_coordinates kept
  obtain rfl := Option.some.inj (located.symm.trans found)
  simp [reviewFromMap, platformMetaFromMap, metaInt, chatID, messageID]

theorem externalID_of_row (comment : Vk.Comment) (businessID : String) :
    (reviewFromMap comment.row businessID .vk).externalID =
      formatInt comment.postID.value ++ "_" ++ formatInt comment.id.value := by
  have rows : comment.row.lookup "id" = some (.num comment.id.value) ∧
      comment.row.lookup "post_id" = some (.num comment.postID.value) := by
    unfold Vk.Comment.row
    constructor <;> split <;> simp [-AList.insert_empty]
  simp [reviewFromMap, externalIDFromMap, stringArg, metaInt, rows]

/-- The agents at a reply, and the chats' public names then. -/
structure Platforms where
  telegram : Telegram.Handler
  vk : Vk.Handler
  directory : String → Option Int

/-- A message that became a review, on VK of the chosen community. -/
inductive Source (businessID : String) where
  | telegram (message : Telegram.Message) (chat : Telegram.Chat) (entry : Args)
      (located : message.chat = some chat) (kept : message.reviewEntry = some entry)
  | vk (reader : Vk.Handler) (token groupID : String) (count owner : Int) (comment : Vk.Comment)
      (read : reader.handle (syncRequest businessID "vk__get_comments") = .ok ⟨token, .getComments groupID 0 count⟩)
      (numbered : parseInt groupID = some owner)

namespace Source

variable {businessID : String}

def review : Source businessID → SyncedReview
  | .telegram _ _ entry _ _ => reviewFromMap entry businessID .telegram
  | .vk _ _ _ _ _ comment _ _ => reviewFromMap comment.row businessID .vk

/-- The agent fails, or replies under the review's message. -/
def AnsweredBy (platforms : Platforms) (request : ToolRequest) (replyText : String) : Source businessID → Prop
  | .telegram message chat _ _ _ =>
    ∀ performed, platforms.telegram.handle request = .ok performed →
      ∃ target, performed.call = .sendReply target message.messageID.value replyText ∧
        ∀ landed, recipient platforms.directory target = some landed → landed = chat.id.value
  | .vk _ _ _ _ owner comment _ _ =>
    ∀ performed, platforms.vk.handle request = .ok performed →
      ∃ groupID, performed.call = .replyComment groupID comment.postID.value comment.id.value replyText ∧
        ∀ landed, parseInt groupID = some landed → landed = owner

/-- The first active integration now leads to another chat or community. -/
def Misdirected (platforms : Platforms) (replyText : String) : Source businessID → Prop
  | .telegram message chat _ _ _ =>
    0 < message.messageID.value ∧ ∃ row tokens landed,
      platforms.telegram.tokens.Releases businessID .telegram "" row tokens ∧
      platforms.telegram.reachable tokens.accessToken ∧
      isValidChatTarget row.externalID ∧
      recipient platforms.directory row.externalID = some landed ∧
      landed ≠ chat.id.value
  | .vk _ _ _ _ owner comment _ _ =>
    replyText ≠ "" ∧ comment.postID.value ≠ 0 ∧ comment.id.value ≠ 0 ∧
      ∃ row tokens landed, platforms.vk.tokens.Releases businessID .vk "" row tokens ∧
        parseInt (Vk.ensureNegativeGroupID row.externalID) = some landed ∧
        landed ≠ owner

end Source

theorem replyRequest_telegram (located : message.chat = some chat)
    (kept : message.reviewEntry = some entry) (replyText approvalID : String) :
    replyRequest (reviewFromMap entry businessID .telegram) replyText approvalID =
      .ok ⟨"telegram__reply_to_comment", businessID,
        telegramReplyArgs chat.id.value message.messageID.value replyText, approvalID⟩ := by
  have coordinates := platformMeta_of_reviewEntry located kept businessID
  have platform : (reviewFromMap entry businessID .telegram).platform = .telegram := rfl
  have business : (reviewFromMap entry businessID .telegram).businessID = businessID := rfl
  simp only [replyRequest, buildPlatformReply, business, coordinates]
  rfl

theorem replyRequest_vk (comment : Vk.Comment) (businessID replyText approvalID : String) :
    replyRequest (reviewFromMap comment.row businessID .vk) replyText approvalID =
      .ok ⟨"vk__reply_comment", businessID,
        vkReplyArgs comment.postID.value comment.id.value replyText, approvalID⟩ := by
  have named := externalID_of_row comment businessID
  have platform : (reviewFromMap comment.row businessID .vk).platform = .vk := rfl
  have business : (reviewFromMap comment.row businessID .vk).businessID = businessID := rfl
  have split : cut '_'
      (formatInt comment.postID.value ++ "_" ++ formatInt comment.id.value) =
        some (formatInt comment.postID.value, formatInt comment.id.value) :=
    cut_append (not_mem_formatInt (by decide) (by decide) _) _
  simp only [replyRequest, buildPlatformReply, business, named, split, parseInt_wireInt]
  rfl

/-- The agent replies in the chat of the first active integration. -/
theorem handle_telegramReply {handler : Telegram.Handler} {replyText approvalID : String}
    {chatID : Int} {messageID : WireInt} {performed : Telegram.Performed} :
    handler.handle ⟨"telegram__reply_to_comment", businessID,
        telegramReplyArgs chatID messageID.value replyText, approvalID⟩ = .ok performed ↔
      0 < messageID.value ∧ ∃ row tokens, handler.tokens.Releases businessID .telegram "" row tokens ∧
        handler.reachable tokens.accessToken ∧ isValidChatTarget row.externalID ∧
        performed = ⟨tokens.accessToken, .sendReply row.externalID messageID.value replyText⟩ := by
  have reads : let args := telegramReplyArgs chatID messageID.value replyText
      replyMessageID args = .ok messageID.value ∧ stringArg args "channel_id" = "" ∧
      stringArg args "text" = replyText := by
    simp [replyMessageID, stringArg, telegramReplyArgs, -AList.insert_empty]
  obtain ⟨read, unnamed, text⟩ := reads
  simp only [Telegram.Handler.handle, replyToComment_ok, read, text, Except.ok.injEq]
  constructor
  · rintro ⟨_, row, tokens, rfl, positive, ⟨released, reachable⟩, valid, same⟩
    exact ⟨positive, row, tokens, released, reachable, valid, same⟩
  · rintro ⟨positive, row, tokens, released, reachable, valid, same⟩
    exact ⟨_, row, tokens, rfl, positive, ⟨released, reachable⟩, valid, same⟩

/-- On VK the comment is sought in the first active community. -/
theorem handle_vkReply {handler : Vk.Handler} {replyText approvalID : String}
    {postID commentID : WireInt} {performed : Vk.Performed} :
    handler.handle ⟨"vk__reply_comment", businessID,
        vkReplyArgs postID.value commentID.value replyText, approvalID⟩ = .ok performed ↔
      postID.value ≠ 0 ∧ commentID.value ≠ 0 ∧ replyText ≠ "" ∧ ∃ row tokens,
        handler.tokens.Releases businessID .vk "" row tokens ∧ performed = ⟨tokens.accessToken, .replyComment
          (Vk.ensureNegativeGroupID row.externalID) postID.value commentID.value replyText⟩ := by
  have read : let args := vkReplyArgs postID.value commentID.value replyText
      getIntParam args "post_id" 0 = some postID.value ∧
      getIntParam args "comment_id" 0 = some commentID.value ∧ stringArg args "text" = replyText ∧
      stringArg args "group_id" = "" ∧ boolArg args "strict_target" = false := by
    simp [getIntParam, stringArg, boolArg, vkReplyArgs, -AList.insert_empty]
  obtain ⟨post, comment, text, unnamed, lenient⟩ := read
  simp only [Vk.Handler.handle, Vk.Handler.replyComment, bind_ok, require_ok, pure_ok,
    Vk.getClient_ok, Prod.exists, post, comment, unnamed, Option.getD_some]
  constructor
  · rintro ⟨_, hasPost, _, hasComment, _, hasText, _, _, ⟨row, tokens, released, _, rfl, rfl⟩, rfl⟩
    exact ⟨hasPost, hasComment, hasText, row, tokens, released, rfl⟩
  · rintro ⟨hasPost, hasComment, hasText, row, tokens, released, rfl⟩
    exact ⟨(), hasPost, (), hasComment, (), hasText, _, _,
      ⟨row, tokens, released, fun strict => absurd strict Bool.false_ne_true, rfl, rfl⟩, rfl⟩

/-- A reply answers the message of its review unless the first active integration leads elsewhere.
-/
theorem reply_answers_source_iff {businessID : String} (platforms : Platforms)
    (source : Source businessID) (replyText approvalID : String) :
    (∀ request, replyRequest source.review replyText approvalID = .ok request →
        source.AnsweredBy platforms request replyText) ↔ ¬ source.Misdirected platforms replyText := by
  cases source with
  | telegram message chat entry located kept =>
    simp only [Source.review, replyRequest_telegram located kept, Except.ok.injEq, forall_eq',
      Source.AnsweredBy, handle_telegramReply]
    constructor
    · rintro answered ⟨positive, row, tokens, landed, released, reachable, valid, reached, other⟩
      obtain ⟨target, same, lands⟩ := answered _ ⟨positive, row, tokens, released, reachable, valid, rfl⟩
      cases same
      exact other (lands landed reached)
    · rintro aligned _ ⟨positive, row, tokens, released, reachable, valid, rfl⟩
      refine ⟨row.externalID, rfl, fun landed reached => ?_⟩
      by_contra other
      exact aligned ⟨positive, row, tokens, landed, released, reachable, valid, reached, other⟩
  | vk reader token groupID count owner comment read numbered =>
    simp only [Source.review, replyRequest_vk, Except.ok.injEq, forall_eq', Source.AnsweredBy, handle_vkReply]
    constructor
    · rintro answered ⟨hasText, hasPost, hasComment, row, tokens, landed, released, reached, other⟩
      obtain ⟨target, same, lands⟩ := answered _ ⟨hasPost, hasComment, hasText, row, tokens, released, rfl⟩
      cases same
      exact other (lands landed reached)
    · rintro aligned _ ⟨hasPost, hasComment, hasText, row, tokens, released, rfl⟩
      refine ⟨_, rfl, fun landed reached => ?_⟩
      by_contra other
      exact aligned ⟨hasText, hasPost, hasComment, row, tokens, landed, released, reached, other⟩

namespace Sample

/-- One channel, and a comment in its discussion group. -/
def platforms : Platforms where
  telegram :=
    { tokens :=
        { integrations := [⟨"acme", .telegram, "@acme", .active⟩]
          release := fun _ => .ok ⟨"system-bot", ""⟩ }
      reachable := fun _ => true
      approvalHMACSecret := ""
      computeMAC := fun _ _ _ => "" }
  vk :=
    { tokens := { integrations := [], release := fun _ => .error .tokenExpired }
      serviceKey := ""
      now := 0
      parseRFC3339 := fun _ => none }
  directory := fun name => if name = "@acme" then some (-1001) else none

def group : Telegram.Chat := ⟨⟨-1002, by decide⟩, "acme talk"⟩

def comment : Telegram.Message := { messageID := ⟨7, by decide⟩, chat := some group, text := "is it open today" }

def source : Source "acme" := .telegram comment group (comment.reviewEntry.get rfl) rfl rfl

end Sample

theorem reply_lands_in_channel :
    ∃ request performed, replyRequest Sample.source.review "yes" "review-reply-r" = .ok request ∧
      Sample.platforms.telegram.handle request = .ok performed ∧ performed.call = .sendReply "@acme" 7 "yes" ∧
      recipient Sample.platforms.directory "@acme" = some (-1001) ∧ Sample.group.id.value = -1002 :=
  ⟨_, ⟨"system-bot", .sendReply "@acme" 7 "yes"⟩, rfl, by decide +kernel, rfl, by decide +kernel, rfl⟩

end OneVoice.Reviews
