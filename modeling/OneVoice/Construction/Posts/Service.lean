/- The saved post with the updates of `repository/post.go` and `post_schedule.go`, and the services
`post_schedule.go` and `post_mutation.go` as concurrent calls on it. Every command and every dispatch
is one step, and a call may crash between any two. -/

import OneVoice.Construction.Access.Requests
import OneVoice.Library.Text
import OneVoice.Library.Run

namespace OneVoice.Posts

open Library Domain Access

inductive PostStatus where
  | scheduled
  | processing
  | published
  | error
  | uncertain
  | canceled
  | deleted
  | other (raw : String)
deriving DecidableEq

structure PlatformResult where
  externalID : String
  postID : String
  url : String
  status : PostStatus
  error : String
deriving DecidableEq

/-- The result that a lookup of an absent platform yields. -/
def PlatformResult.zero : PlatformResult := ⟨"", "", "", .other "", ""⟩

def agentTelegram : String := "telegram"

def agentVK : String := "vk"

/-- To every filter an absent operation identifier equals an empty one. -/
structure Post where
  operationID : String
  businessID : String
  content : String
  mediaURLs : List String
  platformResults : StringMap PlatformResult
  status : PostStatus
  scheduledAt : Option Time
  publishedAt : Option Time

variable (post : Post) (now : Time) (businessID platform : String)

variable (scheduledAt : Option Time)

namespace Post

def result : PlatformResult := (post.platformResults.lookup platform).getD .zero

def setResult (result : PlatformResult) : Post :=
  { post with platformResults := post.platformResults.insert platform result }

/-- The claim takes a due Telegram post that nobody holds. -/
def claimDue (operationID : String) : Option Post :=
  if post.status = .scheduled ∧ post.scheduledAt.any (· ≤ now) ∧
      (post.result agentTelegram).externalID ≠ "" ∧ post.platformResults.lookup agentVK = none ∧
      post.operationID = "" then
    some { post with status := .processing, operationID := operationID }
  else
    none

def updateScheduled (content : Option String) (status : PostStatus) : Option Post :=
  if post.businessID = businessID ∧ post.status = .scheduled ∧
      (post.result agentTelegram).externalID ≠ "" ∧ post.operationID = "" then
    some
      { post.setResult agentTelegram { post.result agentTelegram with status := status } with
        status := status
        scheduledAt := scheduledAt.or post.scheduledAt
        content := content.getD post.content }
  else
    none

def claimOperation (previousStatus : PostStatus) (operationID : String) : Option Post :=
  if post.businessID = businessID ∧ post.status = previousStatus ∧ post.operationID = "" then
    some { post with status := .processing, operationID := operationID }
  else
    none

/-- The outcome is written only while the claim is still there. -/
def completeOperation (outcome : Post) (operationID : String) : Option Post :=
  if post.businessID = outcome.businessID ∧ post.operationID = operationID then
    some
      { post with
        content := outcome.content
        platformResults := outcome.platformResults
        status := outcome.status
        publishedAt := outcome.publishedAt
        operationID := "" }
  else
    none

end Post

inductive PostError where
  | forbidden
  | notFound
  | conflict (detail : String)

def PostError.text : PostError → String
  | .forbidden => "forbidden"
  | .notFound => "post not found"
  | .conflict "" => "post operation unavailable"
  | .conflict detail => "post operation unavailable: " ++ detail

inductive PostAction where
  | edit
  | delete
  | retry
deriving DecidableEq

def PostAction.parse : String → Except PostError PostAction
  | "edit" => .ok .edit
  | "delete" => .ok .delete
  | "retry" => .ok .retry
  | _ => .error (.conflict "")

def PostAction.permission : PostAction → Permission
  | .edit => "content.update"
  | .delete => "content.delete"
  | .retry => "content.create"

inductive PostTool where
  | telegramSendChannelPost
  | telegramSendChannelPhoto
  | telegramEditChannelPost
  | telegramDeleteChannelPost
  | vkPublishPost
  | vkPostPhoto
  | vkEditPost
  | vkDeletePost
deriving DecidableEq

/-- The arguments of an operation; platforms name target and post differently. -/
structure Operation where
  tool : PostTool
  strictTarget : Bool := true
  target : String
  id : Option Int := none
  text : Option String := none
  photoURL : Option String := none
  caption : Option String := none
  isCaption : Option Bool := none

def PostTool.publishes : PostTool → Bool
  | .telegramSendChannelPost | .telegramSendChannelPhoto | .vkPublishPost | .vkPostPhoto => true
  | _ => false

/-- The post as it goes out, in the text or under the photo. -/
def Operation.content (operation : Operation) : Option String := operation.text.or operation.caption

/-- The operation that publishes a post. -/
def publication (result : PlatformResult) : Except PostError Operation :=
  match post.mediaURLs with
  | [] => .ok
      { tool := if platform = agentTelegram then .telegramSendChannelPost else .vkPublishPost
        target := result.externalID
        text := some post.content }
  | [photoURL] => .ok
      { tool := if platform = agentTelegram then .telegramSendChannelPhoto else .vkPostPhoto
        target := result.externalID
        photoURL := some photoURL
        caption := some post.content }
  | _ => .error (.conflict "retry supports one photo per post")

def postOperation (result : PlatformResult) (action : PostAction) (content : Option String) :
    Except PostError Operation := do
  require (platform = agentTelegram ∨ platform = agentVK)
    (.conflict "this platform does not support post lifecycle operations")
  if action = .retry then publication post platform result
  else do
    let id ← expect ((Decimal.parseInt result.postID).filter fun id => 0 < id)
      (.conflict "saved platform post ID is invalid")
    if action = .delete then
      return {
        tool := if platform = agentTelegram then .telegramDeleteChannelPost else .vkDeletePost
        target := result.externalID
        id := some id }
    else if platform = agentTelegram then
      return {
        tool := .telegramEditChannelPost
        target := result.externalID
        id := some id
        text := some (content.getD "")
        isCaption := some (0 < post.mediaURLs.length) }
    else
      return {
        tool := .vkEditPost
        target := result.externalID
        id := some id
        text := some (content.getD "") }

/-- The identifiers in a receipt are texts as the service prints them. -/
structure Receipt where
  messageID : Option String := none
  postID : Option String := none
  url : Option String := none
  mutationRejected : Bool := false

/-- An error without a code carries the empty one. -/
structure Failure where
  code : String
  text : String

structure Answer where
  receipt : Receipt
  error : Option Failure

/-- The platform may have done what was asked. -/
def Failure.uncertain (failure : Failure) : Bool := failure.code = "" ∨ failure.code = "transient"

/-- The user of a request, with the business's permissions. -/
structure Actor where
  businessID : String
  permissions : List Permission
  owner : Bool

def Actor.may (actor : Actor) (businessID : String) (permission : Permission) : Prop :=
  actor.businessID = businessID ∧ permission ∈ actor.permissions
deriving Decidable

/-- A change of a queued post. -/
structure Change where
  businessID : String
  scheduledAt : Option Time
  content : Option String
  status : PostStatus

/-- A claim on a post, with the copy of the post that it works on. -/
structure Job where
  worker : Bool
  post : Post
  platform : String
  result : PlatformResult
  action : PostAction
  content : Option String
  operation : Except PostError Operation

def admitChange (content : Option String) (status : PostStatus) :
    Except PostError Change := do
  require (post.platformResults.entries.length = 1 ∧ (post.result agentTelegram).externalID ≠ "")
    (.conflict "only OneVoice-held Telegram schedules can be changed")
  require (content.all fun text => trimSpace text ≠ "" || !post.mediaURLs.isEmpty)
    (.conflict "post content is required")
  return ⟨post.businessID, scheduledAt, content, status⟩

def reschedule (now : Time) (actor : Actor) (businessID : String) (scheduledAt : Option Time)
    (content : Option String) (post : Post) : Except PostError Change := do
  require (actor.may businessID "content.update") .forbidden
  require (scheduledAt.all fun instant => now < instant) (.conflict "scheduled time must be in the future")
  require (post.businessID = businessID) .notFound
  require (post.status = .scheduled) (.conflict "only an unclaimed scheduled post can be rescheduled")
  admitChange post scheduledAt content .scheduled

variable (job : Job) (answer : Answer) (result : PlatformResult)

/-- A failed post can be published again, a published one changed. -/
def checkStatus (action : PostAction) : Except PostError Unit :=
  if action = .retry then
    require (post.status = .error ∧ result.status = .error ∧ result.postID = "")
      (.conflict "only a failed unpublished platform can be retried")
  else
    require (post.status = .published ∧ result.postID ≠ "") (.conflict "only a published post can be changed")

/-- The checks before a mutation of a post that has left the queue. -/
def admitMutation (action : PostAction) (content : Option String) : Except PostError Job := do
  require (post.platformResults.entries.length = 1) (.conflict "select an individual platform post")
  let entry ← expect post.platformResults.entries.head? (.conflict "select an individual platform post")
  let result := entry.2
  require (result.externalID ≠ "") (.conflict <| "original connected channel/community target was " ++
    "not recorded; this legacy post cannot be changed safely")
  checkStatus post result action
  require (action = .edit → content.any fun text => trimSpace text ≠ "" || !post.mediaURLs.isEmpty)
    (.conflict "replacement content is required")
  let operation ← postOperation post entry.1 result action content
  return ⟨false, post, entry.1, result, action, content, .ok operation⟩

def mutate (dispatches : Bool) (actor : Actor) (businessID : String) (raw : String)
    (content : Option String) (post : Post) : Except PostError (Change ⊕ Job) := do
  let action ← PostAction.parse raw
  require (actor.may businessID action.permission ∧ (action = .delete → actor.owner)) .forbidden
  require (post.businessID = businessID) .notFound
  if post.status = .scheduled ∧ action ≠ .retry then
    let status := if action = .delete then .canceled else .scheduled
    return .inl (← admitChange post none content status)
  else do
    require dispatches (.conflict "platform dispatch is unavailable")
    return .inr (← admitMutation post action content)

/-- A worker publishes the post that it has claimed. -/
def Job.ofDue : Job where
  worker := true
  post := post
  platform := agentTelegram
  result := post.result agentTelegram
  action := .retry
  content := none
  operation := postOperation post agentTelegram (post.result agentTelegram) .retry none

/-- A publication needs the number of the post in its receipt. -/
def requireID (text : String) : Option Failure :=
  if result.postID = "" then some ⟨"", text⟩ else none

/-- What a worker makes of the answer: the error left and the result. -/
def Job.publishReceipt : Option Failure × PlatformResult :=
  match answer.error with
  | some failure => (some failure, job.result)
  | none =>
    let result := { job.result with postID := answer.receipt.messageID.getD job.result.postID }
    (requireID result "telegram did not confirm a message ID", result)

def Job.publishOutcome (now : Time) : Post :=
  match job.publishReceipt answer with
  | (some failure, result) =>
    let status := if failure.uncertain then PostStatus.uncertain else .error
    { job.post.setResult agentTelegram { result with error := failure.text, status := status } with
      status := status }
  | (none, result) =>
    { job.post.setResult agentTelegram
        { result with
          error := ""
          url := answer.receipt.url.getD result.url
          status := .published } with
      status := .published
      publishedAt := some now }

def Job.mutateReceipt : Option Failure × PlatformResult :=
  if answer.error.isNone ∧ job.action = .retry then
    let result :=
      { job.result with
        postID := answer.receipt.postID.getD (answer.receipt.messageID.getD job.result.postID) }
    (requireID result "platform did not confirm a published post ID", result)
  else
    (answer.error, job.result)

/-- A rejection by the platform leaves a published post as it was. -/
def Job.mutateUncertain (failure : Failure) : Bool :=
  (!answer.receipt.mutationRejected || job.action = .retry) && failure.uncertain

def Job.mutateOutcome (now : Time) : Post :=
  match job.mutateReceipt answer with
  | (some failure, result) =>
    let result := { result with error := failure.text }
    if job.mutateUncertain answer failure then
      { job.post.setResult job.platform { result with status := .uncertain } with
        status := .uncertain }
    else
      job.post.setResult job.platform result
  | (none, result) =>
    let status := if job.action = .delete then PostStatus.deleted else .published
    { job.post.setResult job.platform
        { result with
          error := ""
          url := (answer.receipt.url.filter (· ≠ "")).getD result.url
          status := status } with
      status := status
      content := if job.action = .edit then job.content.getD "" else job.post.content
      publishedAt := if job.action = .retry then some now else job.post.publishedAt }

def Job.outcome (now : Time) : Post :=
  if job.worker then job.publishOutcome answer now else job.mutateOutcome answer now

/-- The position of a call; the flag says if its request went out. -/
inductive Phase where
  | waking (clock : Time)
  | changing (change : Change)
  | changed
  | admitted (job : Job) (operationID : String)
  | claimed (job : Job) (operationID : String)
  | sent (job : Job) (operationID : String)
  | answered (job : Job) (operationID : String) (out : Bool) (answer : Answer)
  | completed (job : Job) (operationID : String) (out : Bool) (answer : Answer)
  | lost (job : Job) (operationID : String) (out : Bool)
  | ended

structure State where
  post : Post
  now : Time
  issued : List String
  calls : Nat → Option Phase

inductive Action where
  | pass (duration : Time)
  | wake (call : Nat)
  | claimDue (call : Nat)
  | reschedule (call : Nat)
  | mutate (call : Nat)
  | update (call : Nat)
  | claimOperation (call : Nat)
  | send (call : Nat)
  | skip (call : Nat)
  | answer (call : Nat)
  | complete (call : Nat)
  | finish (call : Nat)

namespace State

/-- No call is open on the saved post. -/
def start : State := ⟨post, now, [post.operationID, ""], fun _ => none⟩

def move (state : State) (call : Nat) (phase : Phase) (post : Post) : State :=
  { state with post := post, calls := Function.update state.calls call (some phase) }

def issue (state : State) (operationID : String) : State := { state with issued := operationID :: state.issued }

end State

/-- A call that has claimed the post keeps it in a crash; another is gone. -/
def Phase.crash : Phase → Phase
  | .claimed job operationID => .lost job operationID false
  | .sent job operationID => .lost job operationID true
  | .answered job operationID out _ => .lost job operationID out
  | phase@(.completed ..) | phase@(.lost ..) | phase@.changed => phase
  | .waking _ | .changing _ | .admitted .. | .ended => .ended

/-- Operation ids are unique; a claim of another document changes nothing. -/
inductive Step (dispatches : Bool) : State → Action → State → Prop
  | pass {state : State} (duration : Time) :
      Step dispatches state (.pass duration) { state with now := state.now + duration }
  | wake {state : State} {call} :
      state.calls call = none → dispatches = true →
        Step dispatches state (.wake call) (state.move call (.waking state.now) state.post)
  | claimDue {state : State} {call clock operationID claimed} :
      state.calls call = some (.waking clock) → operationID ∉ state.issued →
      state.post.claimDue clock operationID = some claimed →
        Step dispatches state (.claimDue call)
          ((state.issue operationID).move call (.claimed (.ofDue claimed) operationID) claimed)
  | reschedule {state : State} {call actor businessID scheduledAt content change} : state.calls call = none →
      Posts.reschedule state.now actor businessID scheduledAt content state.post = .ok change →
        Step dispatches state (.reschedule call) (state.move call (.changing change) state.post)
  | mutateQueued {state : State} {call actor businessID raw content change} : state.calls call = none →
      Posts.mutate dispatches actor businessID raw content state.post = .ok (.inl change) →
        Step dispatches state (.mutate call) (state.move call (.changing change) state.post)
  | mutate {state : State} {call actor businessID raw operationID content job} :
      state.calls call = none → operationID ∉ state.issued →
      Posts.mutate dispatches actor businessID raw content state.post = .ok (.inr job) →
        Step dispatches state (.mutate call)
          ((state.issue operationID).move call (.admitted job operationID) state.post)
  | update {state : State} {call} {change : Change} {changed} : state.calls call = some (.changing change) →
      state.post.updateScheduled change.businessID change.scheduledAt change.content change.status = some changed →
        Step dispatches state (.update call) (state.move call .changed changed)
  | claimOperation {state : State} {call} {job : Job} {operationID claimed} :
      state.calls call = some (.admitted job operationID) →
      state.post.claimOperation job.post.businessID job.post.status operationID = some claimed →
        Step dispatches state (.claimOperation call) (state.move call (.claimed job operationID) claimed)
  | send {state : State} {call} {job : Job} {operationID operation} :
      state.calls call = some (.claimed job operationID) → job.operation = .ok operation →
        Step dispatches state (.send call) (state.move call (.sent job operationID) state.post)
  /-- A post that cannot be sent counts as failed without a code. -/
  | skip {state : State} {call} {job : Job} {operationID} {error : PostError} :
      state.calls call = some (.claimed job operationID) → job.operation = .error error →
        Step dispatches state (.skip call)
          (state.move call (.answered job operationID false ⟨{}, some ⟨"", error.text⟩⟩) state.post)
  | answer {state : State} {call job operationID} (answer : Answer) :
      state.calls call = some (.sent job operationID) →
        Step dispatches state (.answer call) (state.move call (.answered job operationID true answer) state.post)
  | complete {state : State} {call} {job : Job} {operationID out answer completed} :
      state.calls call = some (.answered job operationID out answer) →
      state.post.completeOperation (job.outcome answer state.now) operationID = some completed →
        Step dispatches state (.complete call) (state.move call (.completed job operationID out answer) completed)
  /-- A refusal, a failed command or a crash ends the call where it stands. -/
  | finish {state : State} {call} {phase : Phase} :
      state.calls call = some phase → Step dispatches state (.finish call) (state.move call phase.crash state.post)

end OneVoice.Posts
