/- The messages of the Bot API with the entries that `GetReviews` of `bot.go` makes from them, and
the rows of `GetComments` of `agent-vk/internal/vk/client.go`. -/

import OneVoice.Construction.Agents.Request

namespace OneVoice.Agents

open Library Domain

namespace Telegram

structure Chat where
  id : WireInt
  title : String
deriving DecidableEq

structure User where
  firstName : String
  lastName : String
  userName : String
deriving DecidableEq

/-- The attachment that the summary of a message is about. -/
inductive Media where
  | photo
  | video
  | videoNote
  | voice (duration : Nat)
  | audio
  | animation
  | sticker (emoji : String)
  | document
  | contact
  | location
  | poll
deriving DecidableEq

structure RepliedMessage where
  isAutomaticForward : Bool
  senderChat : Option Chat
  forwardFromMessageID : WireInt
deriving DecidableEq

structure Message where
  messageID : WireInt
  chat : Option Chat
  author : Option User := none
  senderChat : Option Chat := none
  isAutomaticForward : Bool := false
  text : String := ""
  caption : String := ""
  media : Option Media := none
  replyToMessage : Option RepliedMessage := none
deriving DecidableEq

structure Update where
  updateID : Nat
  message : Option Message
  channelPost : Option Message := none
deriving DecidableEq

def mediaSummary : Option Media → String
  | none => ""
  | some .photo => "[photo]"
  | some .video => "[video]"
  | some .videoNote => "[video note]"
  | some (.voice duration) => "[voice " ++ Decimal.formatInt duration ++ "s]"
  | some .audio => "[audio]"
  | some .animation => "[gif]"
  | some (.sticker emoji) => if emoji ≠ "" then "[sticker " ++ emoji ++ "]" else "[sticker]"
  | some .document => "[document]"
  | some .contact => "[contact]"
  | some .location => "[location]"
  | some .poll => "[poll]"

namespace Message

variable (message : Message)

/-- A channel that writes in its own name is the operator, not a customer. -/
def isPostOfChat : Bool :=
  match message.senderChat, message.chat with
  | some sender, some chat => sender.id = chat.id
  | _, _ => false

def content : String :=
  if message.text ≠ "" then message.text
  else if message.caption ≠ "" then message.caption
  else mediaSummary message.media

def authorName : String :=
  let named :=
    match message.author with
    | none => ""
    | some user =>
      let full := user.firstName ++ if user.lastName ≠ "" then " " ++ user.lastName else ""
      if full = "" then user.userName else full
  let named := if named = "" then (message.senderChat.map Chat.title).getD "" else named
  if named = "" then (message.chat.map Chat.title).getD "" else named

/-- The channel and the post under which a comment stands. -/
def channelPost (entry : Args) : Args :=
  match message.replyToMessage with
  | some replied =>
    if replied.isAutomaticForward then
      let entry :=
        match replied.senderChat with
        | some sender => entry.insert "channel_id" (Json.num sender.id.value)
        | none => entry
      entry.insert "channel_post_id" (Json.num replied.forwardFromMessageID.value)
    else entry
  | none => entry

/-- The entry of a kept message, whichever business asks. -/
def reviewEntry : Option Args :=
  if message.isAutomaticForward then none
  else if message.isPostOfChat then none
  else if message.content = "" then none
  else message.chat.map fun chat =>
    let id := Decimal.formatInt chat.id.value ++ "_" ++ Decimal.formatInt message.messageID.value
    let entry := (∅ : Args).insert "id" (.str id)
    let entry := entry.insert "message_id" (.num message.messageID.value)
    let entry := entry.insert "chat_id" (.num chat.id.value)
    let entry := entry.insert "author" (.str message.authorName)
    let entry := entry.insert "rating" (.num 0)
    let entry := entry.insert "text" (.str message.content)
    let entry := entry.insert "reply" (.str "")
    message.channelPost entry

end Message

def Update.reviewEntry (update : Update) : Option Args :=
  (update.message.or update.channelPost).bind Message.reviewEntry

end Telegram

namespace Vk

/-- The latest answer of the community in the thread of a comment. -/
structure CommentReply where
  text : String
  id : WireInt
  date : WireInt

/-- A comment with its text and its author as the client has cleaned them. -/
structure Comment where
  id : WireInt
  postID : WireInt
  fromID : WireInt
  date : WireInt
  text : String
  author : String
  reply : Option CommentReply

def Comment.row (comment : Comment) : Args :=
  let row := (∅ : Args).insert "id" (.num comment.id.value)
  let row := row.insert "text" (.str comment.text)
  let row := row.insert "date" (.num comment.date.value)
  let row := row.insert "from_id" (.num comment.fromID.value)
  let row := row.insert "author" (.str comment.author)
  let row := row.insert "post_id" (.num comment.postID.value)
  match comment.reply with
  | none => row
  | some reply =>
    let row := row.insert "reply" (.str reply.text)
    let row := row.insert "reply_id" (.num reply.id.value)
    row.insert "reply_date" (.num reply.date.value)

end Vk

end OneVoice.Agents
