/- The three consumers of one bot's update queue in `agent-telegram/internal/telegram/bot.go`. Every
call of `GetUpdates` is one step, and a callback is handled in a step of its own. -/

import OneVoice.Construction.Access.Requests
import OneVoice.Library.Queue
import OneVoice.Library.Run
import OneVoice.Library.Text

namespace OneVoice.Agents.Pollers

open Library

structure Sender where
  id : Int
  userName : String

structure Message where
  sender : Option Sender
  text : String

/-- The chat is the one of the message under which the button stands. -/
structure CallbackQuery where
  id : String
  sender : Option Sender
  data : String
  chatID : Option Int

inductive Content where
  | message (message : Message)
  | editedMessage (message : Message)
  | callbackQuery (query : CallbackQuery)
  | other

structure Update where
  updateID : Nat
  content : Content

structure CallbackEvent where
  queryID : String
  fromID : Int
  data : String
  chatID : Int

structure StartEvent where
  token : String
  fromID : Int
  userName : String

def startCommand : String := "/start"

/-- Exactly one argument follows the command. -/
def parseStartToken (message : Message) : Option String :=
  match message.sender with
  | none => none
  | some _ =>
    let text := (Access.trimSpace message.text).toList
    if startCommand.toList.isPrefixOf text then
      match fields Access.isSpace (.ofList (text.drop startCommand.length)) with
      | [token] => some token
      | _ => none
    else
      none

namespace Update

/-- The types of `allowedUpdateTypes`. -/
def forReviews (update : Update) : Bool :=
  match update.content with
  | .message _ | .editedMessage _ => true
  | _ => false

/-- The type of `callbackUpdateTypes`. -/
def forCallbacks (update : Update) : Bool :=
  match update.content with
  | .callbackQuery _ => true
  | _ => false

/-- The type of `startUpdateTypes`. -/
def forStart (update : Update) : Bool :=
  match update.content with
  | .message _ => true
  | _ => false

/-- A callback without a sender is passed over. -/
def callbackEvent (update : Update) : Option CallbackEvent :=
  match update.content with
  | .callbackQuery query =>
    query.sender.map fun sender => ⟨query.id, sender.id, query.data, query.chatID.getD 0⟩
  | _ => none

def startEvent (update : Update) : Option StartEvent :=
  match update.content with
  | .message message => do
      let token ← parseStartToken message
      let sender ← message.sender
      return ⟨token, sender.id, sender.userName⟩
  | _ => none

/-- A message that is not a start command belongs to the reviews. -/
def isComment (update : Update) : Bool := update.forStart && update.startEvent.isNone

end Update

/-- The callbacks that were received and are not handed over yet. -/
structure CallbackPoll where
  offset : Nat := 0
  batch : List Update := []

structure Fetch where
  limit : Int
  offset : Nat := 0
  fetched : List Update := []
  polling : Bool := true

def defaultReviewLimit : Int := 500

def Fetch.new (limit : Int) : Fetch where
  limit := if limit ≤ 0 then defaultReviewLimit else limit

/-- The loop ends with an empty batch or at the limit. -/
def Fetch.extend (fetch : Fetch) (batch : List Update) : Fetch :=
  match batch.getLast? with
  | none => { fetch with polling := false }
  | some last =>
    { fetch with
      fetched := fetch.fetched ++ batch
      offset := last.updateID + 1
      polling := decide ((fetch.fetched ++ batch).length < fetch.limit) }

theorem Fetch.offset_extend (fetch : Fetch) (batch : List Update) :
    (fetch.extend batch).offset = (batch.getLast?.map fun update => update.updateID + 1).getD fetch.offset := by
  unfold extend
  split <;> next ends => rw [ends]; rfl

/-- The queue, its consumers, what they were given, and what was forgotten. -/
structure Bot where
  queue : List Update
  nextID : Nat
  callbacks : CallbackPoll
  startOffset : Nat
  fetches : Nat → Option Fetch
  handed : List (Nat × CallbackEvent)
  started : List StartEvent
  returned : List Nat
  lost : List Update

variable (bot : Bot) (update : Update)

namespace Bot

def start : Bot where
  queue := []
  nextID := 0
  callbacks := {}
  startOffset := 0
  fetches := fun _ => none
  handed := []
  started := []
  returned := []
  lost := []

/-- A callback no handler has got, or a comment no fetch has got. -/
def owes : Bool :=
  (update.callbackEvent.isSome && update.updateID ∉ bot.handed.map Prod.fst) ||
    (update.isComment && update.updateID ∉ bot.returned)

/-- The offset of a call confirms all updates below it. -/
def getUpdates (offset : Nat) : Bot :=
  { bot with
    queue := discard Update.updateID offset bot.queue
    lost := bot.lost ++ bot.queue.filter fun update => update.updateID < offset && bot.owes update }

/-- The first updates of the requested types. -/
def batch (requested : Update → Bool) (count : Nat) : List Update := (bot.queue.filter requested).take count

def setFetch (id : Nat) (fetch : Option Fetch) : Bot := { bot with fetches := Function.update bot.fetches id fetch }

def receiveCallbacks (count : Nat) : Bot :=
  { bot with callbacks := { bot.callbacks with batch := bot.batch Update.forCallbacks count } }

def handOver (rest : List Update) : Bot :=
  { bot with
    callbacks := ⟨update.updateID + 1, rest⟩
    handed := bot.handed ++ (update.callbackEvent.map fun event => (update.updateID, event)).toList }

/-- The poll advances over start commands at the front only. -/
def receiveStarts (count : Nat) : Bot :=
  let leading := (bot.batch Update.forStart count).takeWhile fun update => update.startEvent.isSome
  { bot with
    startOffset := (leading.getLast?.map fun update => update.updateID + 1).getD bot.startOffset
    started := bot.started ++ leading.filterMap Update.startEvent }

def receiveReviews (id : Nat) (fetch : Fetch) (count : Nat) : Bot :=
  let batch := bot.batch Update.forReviews count
  { bot.setFetch id (some (fetch.extend batch)) with
    returned := bot.returned ++ batch.map Update.updateID }

end Bot

inductive Action where
  | arrive (update : Update)
  | pollCallbacks (count : Nat)
  | callbacksRetried
  | handOver
  | callbacksRestarted
  | pollStart (count : Nat)
  | startRetried
  | startRestarted
  | begin (id : Nat) (limit : Int)
  | pollReviews (id count : Nat)
  | reviewsRetried (id : Nat)
  | reviewsFailed (id : Nat)
  | finish (id : Nat) (confirmed : Bool)

/-- A call that reports an error may have reached Telegram; its offset counts. -/
inductive Step : Bot → Action → Bot → Prop
  | arrive {bot : Bot} (update : Update) :
      bot.nextID ≤ update.updateID →
        Step bot (.arrive update) { bot with queue := bot.queue ++ [update], nextID := update.updateID + 1 }
  | pollCallbacks {bot : Bot} (count : Nat) :
      bot.callbacks.batch = [] →
        Step bot (.pollCallbacks count) ((bot.getUpdates bot.callbacks.offset).receiveCallbacks count)
  | callbacksRetried {bot : Bot} :
      bot.callbacks.batch = [] → Step bot .callbacksRetried (bot.getUpdates bot.callbacks.offset)
  | handOver {bot : Bot} {update rest} :
      bot.callbacks.batch = update :: rest → Step bot .handOver (bot.handOver update rest)
  /-- The offset is in memory only. -/
  | callbacksRestarted {bot : Bot} :
      Step bot .callbacksRestarted { bot with callbacks := {} }
  | pollStart {bot : Bot} (count : Nat) :
      Step bot (.pollStart count) ((bot.getUpdates bot.startOffset).receiveStarts count)
  | startRetried {bot : Bot} : Step bot .startRetried (bot.getUpdates bot.startOffset)
  | startRestarted {bot : Bot} : Step bot .startRestarted { bot with startOffset := 0 }
  | begin {bot : Bot} {id} (limit : Int) :
      bot.fetches id = none → Step bot (.begin id limit) (bot.setFetch id (some (.new limit)))
  | pollReviews {bot : Bot} {id} {fetch : Fetch} (count : Nat) :
      bot.fetches id = some fetch → fetch.polling = true →
        Step bot (.pollReviews id count) ((bot.getUpdates fetch.offset).receiveReviews id fetch count)
  | reviewsRetried {bot : Bot} {id} {fetch : Fetch} :
      bot.fetches id = some fetch → fetch.polling = true →
        Step bot (.reviewsRetried id) (bot.getUpdates fetch.offset)
  /-- A failed call ends the fetch when nothing was fetched before. -/
  | reviewsFailed {bot : Bot} {id} {fetch : Fetch} :
      bot.fetches id = some fetch → fetch.polling = true →
        Step bot (.reviewsFailed id)
          (bot.setFetch id (if fetch.fetched.isEmpty then none else some { fetch with polling := false }))
  /-- The last call only confirms, and its error is dropped. -/
  | finish {bot : Bot} {id} {fetch : Fetch} (confirmed : Bool) :
      bot.fetches id = some fetch → fetch.polling = false →
        Step bot (.finish id confirmed)
          ((if confirmed ∧ 0 < fetch.offset then bot.getUpdates fetch.offset else bot).setFetch id none)

end OneVoice.Agents.Pollers
