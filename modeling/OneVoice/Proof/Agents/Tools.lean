import OneVoice.Construction.Agents.Telegram
import OneVoice.Construction.Agents.Vk

namespace OneVoice.Agents

open Library Domain TelegramCallback

/-- An integration's tokens are released to a request for an identifier. -/
def TokenService.Releases (service : TokenService) (businessID : String) (platform : Platform)
    (externalID : String) (row : Integration) (tokens : Tokens) : Prop :=
  service.select businessID platform externalID = some row ∧ row.status = .active ∧ service.release row = .ok tokens

theorem fetchToken_ok {service businessID externalID platform info} :
    fetchToken service businessID platform externalID = .ok info ↔
      ∃ row tokens, service.Releases businessID platform externalID row tokens ∧
        info = { tokens with externalID := row.externalID } := by
  have unwrapped : fetchToken service businessID platform externalID = .ok info ↔
      service.getDecryptedToken businessID platform externalID = .ok info := by
    unfold fetchToken
    split <;> simp [*]
  rw [unwrapped]
  simp only [TokenService.getDecryptedToken, bind_ok, expect_ok, require_ok, pure_ok]
  constructor
  · rintro ⟨row, selected, _, active, tokens, released, rfl⟩
    exact ⟨row, tokens, ⟨selected, active, released⟩, rfl⟩
  · rintro ⟨row, tokens, ⟨selected, active, released⟩, rfl⟩
    exact ⟨row, selected, (), active, tokens, released, rfl⟩

/-- The identifier with which the handler of a tool fetches its token. -/
def selector (platform : Platform) (request : ToolRequest) : String :=
  match platform, request.tool with
  | .telegram, "telegram__send_notification" => stringArg request.args "chat_id"
  | .telegram, "telegram__get_reviews" => ""
  | _, _ => externalIDFromToolArgs platform request.args

namespace Telegram

variable {handler : Handler} {request : ToolRequest} {performed : Performed}

/-- A bot answers for the integration that is released to a request. -/
def Handler.Sends (handler : Handler) (request : ToolRequest) (externalID : String)
    (row : Integration) (tokens : Tokens) : Prop :=
  handler.tokens.Releases request.businessID .telegram externalID row tokens ∧ handler.reachable tokens.accessToken

/-- Whatever was supplied, the target is the resolved chat. -/
theorem resolveChatTarget_ok {supplied resolved target} :
    resolveChatTarget supplied resolved = .ok target ↔ target = resolved ∧ isValidChatTarget resolved := by
  unfold resolveChatTarget
  split
  · rename_i own
    obtain ⟨_, rfl, valid⟩ := own
    rw [Except.ok.injEq, and_iff_left valid, eq_comm]
  · split <;> rename_i valid
    · rw [Except.ok.injEq, and_iff_left valid, eq_comm]
    · simp [valid]

theorem getSender_ok {externalID token resolved} :
    handler.getSender request externalID = .ok (token, resolved) ↔
      ∃ row tokens, handler.Sends request externalID row tokens ∧
        tokens.accessToken = token ∧ row.externalID = resolved := by
  simp only [Handler.getSender, bind_ok, fetchToken_ok, require_ok, pure_ok, Prod.mk.injEq]
  constructor
  · rintro ⟨_, ⟨row, tokens, released, rfl⟩, _, reachable, rfl, rfl⟩
    exact ⟨row, tokens, ⟨released, reachable⟩, rfl, rfl⟩
  · rintro ⟨row, tokens, ⟨released, reachable⟩, rfl, rfl⟩
    exact ⟨_, ⟨row, tokens, released, rfl⟩, (), reachable, rfl, rfl⟩

theorem replyToComment_ok :
    handler.replyToComment request = .ok performed ↔ ∃ messageID row tokens,
        replyMessageID request.args = .ok messageID ∧ 0 < messageID ∧
        handler.Sends request (stringArg request.args "channel_id") row tokens ∧
        isValidChatTarget row.externalID ∧ performed = ⟨tokens.accessToken,
          .sendReply row.externalID messageID (stringArg request.args "text")⟩ := by
  simp only [Handler.replyToComment, bind_ok, pure_ok, require_ok, getSender_ok, resolveChatTarget_ok, Prod.exists]
  constructor
  · rintro ⟨messageID, read, _, positive, _, _, ⟨row, tokens, sends, rfl, rfl⟩, _, ⟨rfl, valid⟩, rfl⟩
    exact ⟨messageID, row, tokens, read, positive, sends, valid, rfl⟩
  · rintro ⟨messageID, row, tokens, read, positive, sends, valid, rfl⟩
    exact ⟨messageID, read, (), positive, _, _, ⟨row, tokens, sends, rfl, rfl⟩, _, ⟨rfl, valid⟩, rfl⟩

theorem approvalMarkup_isOk (handler : Handler) (args : Args) :
    ∃ markup, handler.approvalMarkup args = .ok markup := by
  by_cases batch : stringArg args "approval_batch_id" = ""
  · exact ⟨none, by simp [Handler.approvalMarkup, batch]⟩
  · by_cases secret : handler.approvalHMACSecret = ""
    · exact ⟨none, by simp [Handler.approvalMarkup, secret]⟩
    · have built : ∀ action : CallbackAction, ∃ data, buildCallbackData handler.computeMAC
          (stringArg args "approval_batch_id") action.text handler.approvalHMACSecret = .ok data := by
        intro action
        cases action <;> simp [buildCallbackData, actionToByte, CallbackAction.text, require, batch, secret]
      obtain ⟨approveData, approve⟩ := built .approve
      obtain ⟨rejectData, reject⟩ := built .reject
      simp only [CallbackAction.text] at approve reject
      simp [Handler.approvalMarkup, batch, secret, approve, reject]

theorem sendNotification_ok :
    handler.sendNotification request = .ok performed ↔
      isValidChatTarget (stringArg request.args "chat_id") ∧ ∃ row tokens markup,
          handler.Sends request (stringArg request.args "chat_id") row tokens ∧
          handler.approvalMarkup request.args = .ok markup ∧ performed = ⟨tokens.accessToken, .sendMessageWithMarkup
            (stringArg request.args "chat_id") (stringArg request.args "text") markup⟩ := by
  simp only [Handler.sendNotification, bind_ok, pure_ok, require_ok, getSender_ok, Prod.exists]
  constructor
  · rintro ⟨_, valid, _, _, ⟨row, tokens, sends, rfl, _⟩, markup, built, rfl⟩
    exact ⟨valid, row, tokens, markup, sends, built, rfl⟩
  · rintro ⟨valid, row, tokens, markup, sends, built, rfl⟩
    exact ⟨(), valid, _, _, ⟨row, tokens, sends, rfl, rfl⟩, markup, built, rfl⟩

/-- A call writes to a chat; only a notification writes to another one. -/
def Call.On (request : ToolRequest) (chat : String) : Call → Prop
  | .sendMessage target _ | .sendPhoto target .. | .sendReply target .. | .editMessage target ..
  | .deleteMessage target _ => target = chat
  | .sendMessageWithMarkup .. => request.tool = "telegram__send_notification"
  | .getReviews _ => True

/-- A call with the token released under an identifier, on its chat. -/
def Handler.Lends (handler : Handler) (request : ToolRequest) (externalID : String) (performed : Performed) : Prop :=
  ∃ row tokens, handler.Sends request externalID row tokens ∧
    performed.token = tokens.accessToken ∧ performed.call.On request row.externalID

theorem lends_of_sendToChannel {call} (sent : handler.sendToChannel request call = .ok performed)
    (on : ∀ target, (call target).On request target) :
    handler.Lends request (stringArg request.args "channel_id") performed := by
  simp only [Handler.sendToChannel, bind_ok, pure_ok, getSender_ok, resolveChatTarget_ok, Prod.exists] at sent
  obtain ⟨_, _, _, _, ⟨row, tokens, sends, rfl, rfl⟩, _, _, _, ⟨rfl, _⟩, rfl⟩ := sent
  exact ⟨row, tokens, sends, rfl, on _⟩

theorem lends_of_mutateChannelPost (sent : handler.mutateChannelPost request = .ok performed) :
    handler.Lends request (stringArg request.args "channel_id") performed := by
  simp only [Handler.mutateChannelPost, bind_ok, pure_ok, require_ok, getSender_ok, Prod.exists] at sent
  obtain ⟨_, _, _, _, _, _, _, _, _, _, ⟨row, tokens, sends, rfl, rfl⟩, _, same, rfl⟩ := sent
  refine ⟨row, tokens, sends, rfl, ?_⟩
  split <;> exact same

/-- Every tool works with the token that is released under its selector. -/
theorem lends_of_handle (performs : handler.handle request = .ok performed) :
    handler.Lends request (selector .telegram request) performed := by
  unfold Handler.handle at performs
  split at performs <;> rename_i named <;> simp only [selector, named]
  · exact lends_of_sendToChannel performs fun _ => rfl
  · exact lends_of_mutateChannelPost performs
  · exact lends_of_mutateChannelPost performs
  · exact lends_of_sendToChannel performs fun _ => rfl
  · obtain ⟨_, row, tokens, _, sends, _, rfl⟩ := sendNotification_ok.mp performs
    exact ⟨row, tokens, sends, rfl, named⟩
  · simp only [Handler.getReviews, bind_ok, pure_ok, getSender_ok, Prod.exists] at performs
    obtain ⟨_, _, ⟨row, tokens, sends, rfl, rfl⟩, rfl⟩ := performs
    exact ⟨row, tokens, sends, rfl, trivial⟩
  · obtain ⟨_, row, tokens, _, _, sends, _, rfl⟩ := replyToComment_ok.mp performs
    exact ⟨row, tokens, sends, rfl, rfl⟩
  · cases performs

end Telegram

namespace Vk

variable {handler : Handler} {request : ToolRequest} {performed : Performed}

theorem resolveGroupTarget_eq (supplied resolved : String) :
    resolveGroupTarget supplied resolved = ensureNegativeGroupID resolved := by
  unfold resolveGroupTarget
  split
  · rename_i own
    rw [own.2]
  · rfl

/-- A client acts on the community released to its request. -/
theorem getClient_ok {token groupID} :
    handler.getClient request = .ok (token, groupID) ↔ ∃ row tokens,
        handler.tokens.Releases request.businessID .vk (stringArg request.args "group_id") row tokens ∧
        (boolArg request.args "strict_target" → ensureNegativeGroupID (stringArg request.args "group_id") =
            ensureNegativeGroupID row.externalID) ∧
        tokens.accessToken = token ∧ ensureNegativeGroupID row.externalID = groupID := by
  simp only [Handler.getClient, bind_ok, fetchToken_ok, require_ok, pure_ok, Prod.mk.injEq,
    resolveGroupTarget_eq, not_and, not_not]
  constructor
  · rintro ⟨_, ⟨row, tokens, released, rfl⟩, _, strict, rfl, rfl⟩
    exact ⟨row, tokens, released, strict, rfl, rfl⟩
  · rintro ⟨row, tokens, released, strict, rfl, rfl⟩
    exact ⟨_, ⟨row, tokens, released, rfl⟩, (), strict, rfl, rfl⟩

/-- The community that a call is made on. -/
def Call.groupID : Call → String
  | .publishPost groupID .. | .postPhoto groupID .. | .schedulePost groupID ..
  | .updateGroupInfo groupID .. | .replyComment groupID .. | .deleteComment groupID ..
  | .editPost groupID .. | .deletePost groupID .. | .getComments groupID ..
  | .getCommunityInfo groupID | .getWallPosts groupID .. => groupID

/-- The integration released to a request has a call's community. -/
def Handler.On (handler : Handler) (request : ToolRequest) (groupID : String) : Prop :=
  ∃ row tokens,
    handler.tokens.Releases request.businessID .vk (stringArg request.args "group_id") row
      tokens ∧ groupID = ensureNegativeGroupID row.externalID

theorem on_of_getClient {token groupID}
    (found : handler.getClient request = .ok (token, groupID)) : handler.On request groupID := by
  obtain ⟨row, tokens, released, _, _, same⟩ := getClient_ok.mp found
  exact ⟨row, tokens, released, same.symm⟩

theorem on_of_getReadClient {token groupID} (found : handler.getReadClient request = .ok (token, groupID)) :
    handler.On request groupID := by
  simp only [Handler.getReadClient, bind_ok, fetchToken_ok, pure_ok, Prod.mk.injEq, resolveGroupTarget_eq] at found
  obtain ⟨_, ⟨row, tokens, released, rfl⟩, _, same⟩ := found
  exact ⟨row, tokens, released, same.symm⟩

theorem on_of_mutatePost (sent : handler.mutatePost request = .ok performed) :
    handler.On request performed.call.groupID := by
  simp only [Handler.mutatePost, bind_ok, pure_ok, require_ok, fetchToken_ok] at sent
  obtain ⟨_, _, _, _, _, _, _, _, _, ⟨row, tokens, released, rfl⟩, _, same, _, _, rfl⟩ := sent
  refine ⟨row, tokens, released, ?_⟩
  rw [← same]
  split <;> rfl

/-- Every tool acts on the community released to its request. -/
theorem on_of_handle (performs : handler.handle request = .ok performed) :
    handler.On request performed.call.groupID := by
  unfold Handler.handle at performs
  split at performs
  case h_2 | h_3 => exact on_of_mutatePost performs
  case h_12 => cases performs
  all_goals
    simp only [Handler.publishPost, Handler.postPhoto, Handler.updateGroupInfo, Handler.schedulePost,
      Handler.getComments, Handler.replyComment, Handler.deleteComment, Handler.getCommunityInfo,
      Handler.getWallPosts, bind_ok, pure_ok, Prod.exists] at performs
  case h_1 | h_5 =>
    obtain ⟨_, _, found, rfl⟩ := performs
    exact on_of_getClient found
  case h_4 | h_9 =>
    obtain ⟨_, _, _, _, found, rfl⟩ := performs
    exact on_of_getClient found
  case h_6 =>
    obtain ⟨_, _, _, _, _, _, _, _, _, _, found, rfl⟩ := performs
    exact on_of_getClient found
  case h_7 =>
    obtain ⟨_, _, found, rfl⟩ := performs
    exact on_of_getReadClient found
  case h_8 =>
    obtain ⟨_, _, _, _, _, _, _, _, found, rfl⟩ := performs
    exact on_of_getClient found
  case h_10 | h_11 =>
    obtain ⟨_, _, found, _, _, rfl⟩ := performs
    exact on_of_getReadClient found

end Vk

end OneVoice.Agents
