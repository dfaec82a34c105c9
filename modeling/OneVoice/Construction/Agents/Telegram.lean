/- The tools of `agent-telegram/internal/agent/handler.go` and `post_mutation.go`. A tool that
passes its checks makes one call of the Bot API. -/

import OneVoice.Construction.Agents.Request
import OneVoice.Construction.OwnerLink.Nonce

namespace OneVoice.Agents.Telegram

open Library Domain TelegramCallback

structure Keyboard where
  approveLabel : String
  approveData : String
  rejectLabel : String
  rejectData : String
deriving DecidableEq

inductive Call where
  | sendMessage (chat text : String)
  | sendPhoto (chat photoURL caption : String)
  | sendMessageWithMarkup (chat text : String) (markup : Option Keyboard)
  | sendReply (chat : String) (messageID : Int) (text : String)
  | editMessage (chat : String) (messageID : Int) (text : String) (caption : Bool)
  | deleteMessage (chat : String) (messageID : Int)
  | getReviews (limit : Int)
deriving DecidableEq

/-- A call with the bot token that it is made under. -/
structure Performed where
  token : String
  call : Call
deriving DecidableEq

/-- A sender exists when its token's bot answers; a code is a truncated HMAC. -/
structure Handler where
  tokens : TokenService
  reachable : String → Bool
  approvalHMACSecret : String
  computeMAC : (batchID action secret : String) → String

/-- A chat is a number or a public name that starts with `@`. -/
def isValidChatTarget (text : String) : Bool :=
  match text.toList with
  | '@' :: name => name ≠ []
  | _ => (Decimal.parseInt text).isSome

/-- Telegram sends to the chat with the number, or to the one of the name. -/
def recipient (directory : String → Option Int) (chat : String) : Option Int :=
  (Decimal.parseInt chat).or (directory chat)

def resolveChatTarget (supplied resolved : String) : Except AgentError String :=
  if supplied ≠ "" ∧ supplied = resolved ∧ isValidChatTarget supplied then .ok supplied
  else if isValidChatTarget resolved then .ok resolved
  else .error
    { code := "channel_not_found"
      nonRetryable := false
      text := "telegram: invalid chat target (channel_id=" ++ supplied.quote ++ ", resolved=" ++
        resolved.quote ++ ")" }

def scheduledError : AgentError := { text := "scheduled Telegram posts must be queued by OneVoice" }

/-- Only an approved call may carry the argument, and only empty. -/
def checkScheduledAt (request : ToolRequest) : Except AgentError Unit :=
  match request.args.lookup "scheduled_at" with
  | none => .ok ()
  | some (.str value) => require (value = "" ∧ request.approvalID ≠ "") scheduledError
  | some _ => .error scheduledError

variable (args : Args)

/-- The identifier of a message is a number or its numeral. -/
def replyMessageID : Except AgentError Int :=
  match args.lookup "message_id" with
  | some (.num value) => .ok (toInt value)
  | some (.str value) =>
    expect (Decimal.parseInt value) { text := "telegram: invalid message_id " ++ value.quote }
  | _ => .ok 0

/-- The argument is optional, but never of another type. -/
def checkCaption : Except AgentError Unit :=
  match args.lookup "is_caption" with
  | none | some (.bool _) => .ok ()
  | some _ => .error { text := "telegram: is_caption must be a boolean" }

/-- A text that is there may be empty for the caption of a photo. -/
def editableText : Bool :=
  match args.lookup "text" with
  | some (.str text) => boolArg args "is_caption" || Access.trimSpace text ≠ ""
  | _ => false

def telegramReviewLimitDefault : Int := 500
def telegramReviewLimitMax : Int := 500

def reviewLimit : Int :=
  let limit := (getIntParam args "limit" telegramReviewLimitDefault).getD telegramReviewLimitDefault
  let limit := if limit ≤ 0 then telegramReviewLimitDefault else limit
  if telegramReviewLimitMax < limit then telegramReviewLimitMax else limit

/-- The default is Russian. -/
def approvalButtonLabels (locale : String) : String × String :=
  if ['e', 'n'].isPrefixOf locale.toLower.toList then ("Approve", "Reject")
  else ("Одобрить", "Отклонить")

namespace Handler

variable (handler : Handler)

variable (request : ToolRequest)

/-- The bot token and the external identifier that it was released for. -/
def getSender (externalID : String) : Except AgentError (String × String) := do
  let info ← fetchToken handler.tokens request.businessID .telegram externalID
  require (handler.reachable info.accessToken) { text := "create sender" }
  return (info.accessToken, info.externalID)

/-- A text and a photo for a channel differ in the call only. -/
def sendToChannel (call : String → Call) : Except AgentError Performed := do
  checkScheduledAt request
  let channelID := stringArg request.args "channel_id"
  let (token, resolvedID) ← handler.getSender request channelID
  require (¬ (boolArg request.args "strict_target" ∧ channelID ≠ resolvedID))
    { code := "channel_not_found", text := "telegram: original connected channel is unavailable" }
  let target ← resolveChatTarget channelID resolvedID
  return ⟨token, call target⟩

def sendChannelPost : Except AgentError Performed :=
  handler.sendToChannel request fun target => .sendMessage target (stringArg request.args "text")

def sendChannelPhoto : Except AgentError Performed :=
  handler.sendToChannel request fun target =>
    .sendPhoto target (stringArg request.args "photo_url") (stringArg request.args "caption")

/-- Without a batch or a secret the notification goes out without buttons. -/
def approvalMarkup (args : Args) : Except AgentError (Option Keyboard) :=
  let batchID := stringArg args "approval_batch_id"
  if batchID = "" then .ok none
  else if handler.approvalHMACSecret = "" then .ok none
  else
    let labels := approvalButtonLabels (stringArg args "locale")
    let build action := buildCallbackData handler.computeMAC batchID action handler.approvalHMACSecret
    match build "approve", build "reject" with
    | .ok approveData, .ok rejectData => .ok (some ⟨labels.1, approveData, labels.2, rejectData⟩)
    | .error error, _ => .error { text := "telegram: build approve callback: " ++ error.text }
    | .ok _, .error error => .error { text := "telegram: build reject callback: " ++ error.text }

/-- The supplied chat is the target; the integration lends a token. -/
def sendNotification : Except AgentError Performed := do
  let chatID := stringArg request.args "chat_id"
  require (isValidChatTarget chatID)
    { code := "notification_recipient_unconfigured"
      text := "telegram: no private owner recipient configured for notification" }
  let (token, _) ← handler.getSender request chatID
  let markup ← handler.approvalMarkup request.args
  return ⟨token, .sendMessageWithMarkup chatID (stringArg request.args "text") markup⟩

def getReviews (request : ToolRequest) : Except AgentError Performed := do
  let (token, _) ← handler.getSender request ""
  return ⟨token, .getReviews (reviewLimit request.args)⟩

def replyToComment : Except AgentError Performed := do
  let messageID ← replyMessageID request.args
  require (0 < messageID) { text := "telegram: message_id is required and must be > 0" }
  let (token, resolvedID) ← handler.getSender request (stringArg request.args "channel_id")
  let target ← resolveChatTarget (stringArg request.args "chat_id") resolvedID
  return ⟨token, .sendReply target messageID (stringArg request.args "text")⟩

def mutateChannelPost : Except AgentError Performed := do
  let target := stringArg request.args "channel_id"
  let required : AgentError :=
    { text := "telegram: explicit channel_id and positive integer message_id are required" }
  let id ← expect (getIntParam request.args "message_id" 0) required
  require (0 < id ∧ isTruncated request.args "message_id" id = false ∧ isValidChatTarget target) required
  checkCaption request.args
  require (request.tool = "telegram__edit_channel_post" → editableText request.args)
    { text := "telegram: text is required (may be empty for a media caption)" }
  let (token, resolved) ← handler.getSender request target
  require (target = resolved) { text := "telegram: channel_id does not match the connected channel" }
  return ⟨token,
    if request.tool = "telegram__edit_channel_post" then
      .editMessage target id (stringArg request.args "text") (boolArg request.args "is_caption")
    else .deleteMessage target id⟩

def handle : Except AgentError Performed :=
  match request.tool with
  | "telegram__send_channel_post" => handler.sendChannelPost request
  | "telegram__edit_channel_post" | "telegram__delete_channel_post" =>
    handler.mutateChannelPost request
  | "telegram__send_channel_photo" => handler.sendChannelPhoto request
  | "telegram__send_notification" => handler.sendNotification request
  | "telegram__get_reviews" => handler.getReviews request
  | "telegram__reply_to_comment" => handler.replyToComment request
  | tool => .error { nonRetryable := false, text := "unknown tool: " ++ tool }

end Handler

end OneVoice.Agents.Telegram
