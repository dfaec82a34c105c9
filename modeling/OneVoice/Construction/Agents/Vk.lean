/- The tools of `agent-vk/internal/agent/handler.go` and `post_mutation.go`. A tool that passes its
checks uses one method of the client with a token. -/

import OneVoice.Construction.Agents.Request

namespace OneVoice.Agents.Vk

open Library Domain

inductive Call where
  | publishPost (groupID text : String)
  | postPhoto (groupID photoURL caption : String)
  | schedulePost (groupID text : String) (publishDate : Int)
  | updateGroupInfo (groupID description : String)
  | replyComment (groupID : String) (postID commentID : Int) (text : String)
  | deleteComment (groupID : String) (commentID : Int)
  | editPost (groupID : String) (postID : Int) (text : String)
  | deletePost (groupID : String) (postID : Int)
  | getComments (groupID : String) (postID count : Int)
  | getCommunityInfo (groupID : String)
  | getWallPosts (groupID : String) (count : Int)
deriving DecidableEq

structure Performed where
  token : String
  call : Call
deriving DecidableEq

/-- The service key may be empty. The clock is the one of the request. -/
structure Handler where
  tokens : TokenService
  serviceKey : String
  now : Int
  parseRFC3339 : String → Option Int

/-- The community in a request's address: an owner text or a group number. -/
inductive Address where
  | owner (id : String)
  | group (id : Int)
deriving DecidableEq

def trimMinus (text : String) : String :=
  match text.toList with
  | '-' :: rest => .ofList rest
  | _ => text

/-- Photos go to the group and its wall; a group without a number ends this. -/
def Call.address : Call → Option Address
  | .postPhoto groupID .. | .updateGroupInfo groupID .. =>
    (Decimal.parseInt (trimMinus groupID)).map .group
  | .publishPost groupID .. | .schedulePost groupID .. | .replyComment groupID ..
  | .deleteComment groupID .. | .editPost groupID .. | .deletePost groupID .. =>
    some (.owner groupID)
  | .getComments .. | .getCommunityInfo .. | .getWallPosts .. => none

/-- The walls of communities have negative owners. -/
def ensureNegativeGroupID (groupID : String) : String :=
  match groupID.toList with
  | [] | '-' :: _ => groupID
  | _ => if (Decimal.parseInt groupID).isSome then "-" ++ groupID else groupID

def resolveGroupTarget (supplied resolved : String) : String :=
  if supplied ≠ "" ∧ supplied = resolved then ensureNegativeGroupID supplied
  else ensureNegativeGroupID resolved

def defaultCommentCount : Int := 20
def defaultWallPostCount : Int := 10
def maxWallPostCount : Int := 100

def countArg (args : Args) (default : Int) : Int :=
  let count := (getIntParam args "count" default).getD default
  let count := if count ≤ 0 then default else count
  if 100 < count then maxWallPostCount else count

namespace Handler

variable (handler : Handler)

variable (request : ToolRequest)

/-- The token of the community and the community that the request acts on. -/
def getClient : Except AgentError (String × String) := do
  let supplied := stringArg request.args "group_id"
  let info ← fetchToken handler.tokens request.businessID .vk supplied
  require (¬ (boolArg request.args "strict_target" ∧
      ensureNegativeGroupID supplied ≠ ensureNegativeGroupID info.externalID))
    { code := "channel_not_found", text := "vk: original connected community is unavailable" }
  return (info.accessToken, resolveGroupTarget supplied info.externalID)

def getReadClient : Except AgentError (String × String) := do
  let supplied := stringArg request.args "group_id"
  let info ← fetchToken handler.tokens request.businessID .vk supplied
  let groupID := resolveGroupTarget supplied info.externalID
  return (if info.userToken ≠ "" then info.userToken
    else if handler.serviceKey ≠ "" then handler.serviceKey
    else info.accessToken, groupID)

def publishPost (request : ToolRequest) : Except AgentError Performed := do
  let (token, groupID) ← handler.getClient request
  return ⟨token, .publishPost groupID (stringArg request.args "text")⟩

def postPhoto (request : ToolRequest) : Except AgentError Performed := do
  let photoURL := stringArg request.args "photo_url"
  require (photoURL ≠ "") { text := "vk: photo_url is required" }
  let (token, groupID) ← handler.getClient request
  return ⟨token, .postPhoto groupID photoURL (stringArg request.args "caption")⟩

/-- The instant is a Unix time or a date. -/
def parsePublishDate (text : String) : Option Int := (Decimal.parseInt text).or (handler.parseRFC3339 text)

def schedulePost (request : ToolRequest) : Except AgentError Performed := do
  let text := stringArg request.args "text"
  require (text ≠ "") { text := "vk: text is required for scheduled post" }
  let publishDateText := stringArg request.args "publish_date"
  require (publishDateText ≠ "") { text := "vk: publish_date is required" }
  let publishDate ← expect (handler.parsePublishDate publishDateText)
    { text := "vk: invalid publish_date: expected Unix timestamp or RFC3339 format, got " ++ publishDateText.quote }
  require (handler.now < publishDate) { text := "vk: publish_date must be in the future" }
  let (token, groupID) ← handler.getClient request
  return ⟨token, .schedulePost groupID text publishDate⟩

def updateGroupInfo (request : ToolRequest) : Except AgentError Performed := do
  let (token, groupID) ← handler.getClient request
  return ⟨token, .updateGroupInfo groupID (stringArg request.args "description")⟩

/-- Without a post the comments of the latest posts are read. -/
def getComments (request : ToolRequest) : Except AgentError Performed := do
  let (token, groupID) ← handler.getReadClient request
  return ⟨token, .getComments groupID ((getIntParam request.args "post_id" 0).getD 0)
    (countArg request.args defaultCommentCount)⟩

def replyComment (request : ToolRequest) : Except AgentError Performed := do
  let postID := (getIntParam request.args "post_id" 0).getD 0
  require (postID ≠ 0) { text := "vk: post_id is required and must be > 0" }
  let commentID := (getIntParam request.args "comment_id" 0).getD 0
  require (commentID ≠ 0) { text := "vk: comment_id is required and must be > 0" }
  let text := stringArg request.args "text"
  require (text ≠ "") { text := "vk: text is required for reply" }
  let (token, groupID) ← handler.getClient request
  return ⟨token, .replyComment groupID postID commentID text⟩

def deleteComment (request : ToolRequest) : Except AgentError Performed := do
  let commentID := (getIntParam request.args "comment_id" 0).getD 0
  require (commentID ≠ 0) { text := "vk: comment_id is required and must be > 0" }
  let (token, groupID) ← handler.getClient request
  return ⟨token, .deleteComment groupID commentID⟩

def getCommunityInfo (request : ToolRequest) : Except AgentError Performed := do
  let (token, groupID) ← handler.getReadClient request
  require (groupID ≠ "") { text := "vk: group_id is required" }
  return ⟨token, .getCommunityInfo groupID⟩

def getWallPosts (request : ToolRequest) : Except AgentError Performed := do
  let (token, groupID) ← handler.getReadClient request
  require (groupID ≠ "") { text := "vk: group_id is required" }
  return ⟨token, .getWallPosts groupID (countArg request.args defaultWallPostCount)⟩

/-- The text of a post may be empty, but it has to be a text. -/
def hasText (args : Args) : Bool :=
  match args.lookup "text" with
  | some (.str _) => true
  | _ => false

/-- A mutation takes the administrator's token, for its community. -/
def mutatePost : Except AgentError Performed := do
  let supplied := stringArg request.args "group_id"
  let groupID := ensureNegativeGroupID supplied
  let required : AgentError :=
    { text := "vk: explicit community group_id and positive integer post_id are required" }
  let owner ← expect (Decimal.parseInt groupID) required
  let id ← expect (getIntParam request.args "post_id" 0) required
  require (owner < 0 ∧ supplied ≠ "" ∧ 0 < id ∧ isTruncated request.args "post_id" id = false) required
  require (request.tool = "vk__edit_post" → hasText request.args) { text := "vk: text is required" }
  let info ← fetchToken handler.tokens request.businessID .vk supplied
  require (groupID = ensureNegativeGroupID info.externalID)
    { text := "vk: group_id does not match the connected community" }
  require (info.userToken ≠ "")
    { code := "integration_token_invalid"
      text := "vk: editing and deleting posts require the connected administrator's user token" }
  return ⟨info.userToken,
    if request.tool = "vk__edit_post" then .editPost groupID id (stringArg request.args "text")
    else .deletePost groupID id⟩

def handle : Except AgentError Performed :=
  match request.tool with
  | "vk__publish_post" => handler.publishPost request
  | "vk__edit_post" | "vk__delete_post" => handler.mutatePost request
  | "vk__post_photo" => handler.postPhoto request
  | "vk__update_group_info" => handler.updateGroupInfo request
  | "vk__schedule_post" => handler.schedulePost request
  | "vk__get_comments" => handler.getComments request
  | "vk__reply_comment" => handler.replyComment request
  | "vk__delete_comment" => handler.deleteComment request
  | "vk__get_community_info" => handler.getCommunityInfo request
  | "vk__get_wall_posts" => handler.getWallPosts request
  | tool => .error { nonRetryable := false, text := "unknown tool: " ++ tool }

end Handler

end OneVoice.Agents.Vk
