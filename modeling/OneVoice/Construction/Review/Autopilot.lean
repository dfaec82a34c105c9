/- What the autopilot decides with: the settings of `platform/helpers.go`, the answers of
`factual_reply.go` and `review_factual.go`, and the gate of `review_drafter.go`. -/

import OneVoice.Construction.Resume.EntryPoints
import OneVoice.Construction.Review.Sync
import Mathlib.Data.List.Infix

namespace OneVoice.Reviews.Autopilot

open Library Domain Agents Json Decimal

/-- Case mapping and formats of the library; instants are nanoseconds. -/
structure Runtime where
  lower : Char → Char
  formatFloat : Rat → String
  parseRFC3339 : String → Option Int

structure Business where
  id : String
  address : String
  settings : Args

def Business.toolApprovals (business : Business) : ApprovalMap :=
  match business.settings.lookup "tool_approvals" with
  | some (.obj fields) => Resume.keepValid (fields.map fun field => ⟨field.1, field.2⟩)
  | _ => ∅

/-- A tool with an explicit floor above automatic is left to the operator. -/
def Business.holds (business : Business) (tool : String) : Bool :=
  (business.toolApprovals.lookup tool).any fun floor => floor ≠ .auto

/-- A stored review; its platform is `none` where the name is unknown. -/
structure ReviewSnapshot where
  id : String
  platform : Option Platform
  externalID : String
  rating : Int
  text : String
  replyStatus : ReplyStatus
  platformMeta : Args
  draftReply : String
  needsReview : Bool

/-- A draft with the flag that is stored beside it. -/
structure Draft where
  text : String
  needsReview : Bool

structure ReviewAutopilotConfig where
  enabled : Bool
  ignoreFourStar : Bool
  autoAnswerFacts : Bool
  minRating : Int
deriving DecidableEq

def reviewNeedsReviewMaxRating : Int := 3

def reviewAutopilotDefaultMinRating : Int := 5

def reviewAutopilotMinRatingFloor : Int := reviewNeedsReviewMaxRating + 1

namespace ReviewAutopilotConfig

def defaults : ReviewAutopilotConfig where
  enabled := true
  ignoreFourStar := true
  autoAnswerFacts := true
  minRating := reviewAutopilotDefaultMinRating

def zero : ReviewAutopilotConfig where
  enabled := false
  ignoreFourStar := false
  autoAnswerFacts := false
  minRating := 0

def decode (fields : List (String × Json)) : Option ReviewAutopilotConfig := do
  let fields := sortFields fields
  let enabled ← decodeMatching decodeBool false "enabled" fields
  let ignoreFourStar ← decodeMatching decodeBool false "ignoreFourStar" fields
  let autoAnswerFacts ← decodeMatching decodeBool false "autoAnswerFacts" fields
  let minRating ← decodeMatching decodeInt64 0 "minRating" fields
  return ⟨enabled, ignoreFourStar, autoAnswerFacts, minRating⟩

def raise (config : ReviewAutopilotConfig) : ReviewAutopilotConfig :=
  if config.minRating < reviewAutopilotMinRatingFloor then
    { config with minRating := reviewAutopilotMinRatingFloor }
  else config

end ReviewAutopilotConfig

/-- Absent or empty settings are the defaults, malformed ones no consent. -/
def reviewAutopilotFromSettings (settings : Args) : ReviewAutopilotConfig :=
  match settings.lookup "reviewAutopilot" with
  | none | some .null | some (.obj []) => .defaults
  | some (.obj fields) =>
    match ReviewAutopilotConfig.decode fields with
    | none => .zero
    | some config => config.raise
  | some _ => .zero

def contains (text part : String) : Bool := part.toList <:+: text.toList

def autoPublishMaxRunes : Nat := 800

variable (english : Bool) (runtime : Runtime) (business : Business) (review : ReviewSnapshot)

def isDraftSafeForAutoPublish (draft : String) : Bool :=
  draft.length ≤ autoPublishMaxRunes ∧
    ¬ (contains (toLower runtime.lower draft) "://" ∨ contains (toLower runtime.lower draft) "www." ∨
      contains draft "](")

/-- The draft counts as ready here. -/
def isPositiveDraftReady (draft : Draft) : Bool :=
  draft.text ≠ "" ∧ draft.needsReview = false ∧ review.rating > reviewNeedsReviewMaxRating

def yandexReviewPublishedAtKey : String := "published_at"

/-- Seven days. -/
def yandexAutoReplyMaxAge : Int := 7 * 24 * 60 * 60 * 1000000000

/-- A date that does not parse, or in the future, is too old. -/
def isRecent (now : Int) : Bool :=
  match runtime.parseRFC3339 (stringArg review.platformMeta yandexReviewPublishedAtKey) with
  | none => false
  | some published => ¬ (now - published < 0 ∨ now - published > yandexAutoReplyMaxAge)

def autopilotShouldPublish (runtime : Runtime) (config : ReviewAutopilotConfig)
    (review : ReviewSnapshot) (draft : Draft) (now : Int) : Bool :=
  if config.ignoreFourStar ∧ review.rating = reviewAutopilotMinRatingFloor then false
  else if ¬ config.enabled ∨ review.rating > 5 then false
  else if ¬ isPositiveDraftReady review draft then false
  else if ¬ isDraftSafeForAutoPublish runtime draft.text then false
  else if review.rating < config.minRating then false
  else if review.platform = some .yandexBusiness then isRecent runtime review now
  else true

def dayOrder : List String := ["mon", "tue", "wed", "thu", "fri", "sat", "sun"]

def dayRU : List (String × String) :=
  [("mon", "Пн"), ("tue", "Вт"), ("wed", "Ср"), ("thu", "Чт"), ("fri", "Пт"), ("sat", "Сб"), ("sun", "Вс")]

def englishDays : List (String × String) :=
  [("mon", "Mon"), ("tue", "Tue"), ("wed", "Wed"), ("thu", "Thu"), ("fri", "Fri"), ("sat", "Sat"), ("sun", "Sun")]

structure ScheduleDay where
  day : String
  opens : String
  closes : String
  closed : Bool

def decodeScheduleDay : Json → Option ScheduleDay
  | .null => some ⟨"", "", "", false⟩
  | .obj fields => do
      let fields := sortFields fields
      let day ← decodeMatching decodeString "" "Day" fields
      let opens ← decodeMatching decodeString "" "Open" fields
      let closes ← decodeMatching decodeString "" "Close" fields
      let closed ← decodeMatching decodeBool false "Closed" fields
      return ⟨day, opens, closes, closed⟩
  | _ => none

/-- The layout 15:04 takes one or two digits for the hour. -/
def parseClock (text : String) : Option Nat := do
  let (hour, minute) ← cut ':' text
  let hours ← parseDigits hour.toList
  let minutes ← parseDigits minute.toList
  guard (hour.length ≤ 2 ∧ minute.length = 2 ∧ hours < 24 ∧ minutes < 60)
  return 60 * hours + minutes

/-- The text of one day, or none when the day cannot be shown. -/
def dayText (day : ScheduleDay) : Option String := do
  let label ← (if english then englishDays else dayRU).lookup day.day
  if day.closed then
    return label ++ if english then ": closed" else ": выходной"
  else
    let opens ← parseClock day.opens
    let closes ← parseClock day.closes
    guard (opens < closes)
    return label ++ " " ++ day.opens ++ "–" ++ day.closes

/-- A repeated day makes the whole schedule unusable. -/
def dayTexts (english : Bool) (byDay : List (String × String)) : List ScheduleDay → Option (List (String × String))
  | [] => some byDay
  | day :: days =>
    if (byDay.lookup day.day).isSome then none
    else
      match dayText english day with
      | none => none
      | some text => dayTexts english (byDay ++ [(day.day, text)]) days

def scheduleReply (settings : Args) : Option String := do
  let days ← decodeList decodeScheduleDay ((settings.lookup "schedule").getD .null)
  guard (days.length = dayOrder.length)
  let byDay ← dayTexts english [] days
  return (if english then "Regular weekly hours: " else "Обычные часы работы: ") ++
    "; ".intercalate (dayOrder.map fun key => (byDay.lookup key).getD "")

def addressReply (address : String) : Option String :=
  if Access.trimSpace address = "" ∨ (Access.trimSpace address).toList.any (· ∈ "<>\r\n\x7b\x7d".toList) then none
  else
    some ((if english then "Our address: " else "Наш адрес: ") ++ Access.trimSpace address)

def normalizeQuestion (question : String) : String :=
  let joined := toLower runtime.lower (" ".intercalate (fields Access.isSpace question))
  if joined.toList.getLast? = some '?' then .ofList joined.toList.dropLast else joined

/-- Only a few exact questions have an answer. -/
def factualBusinessReply (question : String) : Option String :=
  let normalized := normalizeQuestion runtime question
  if normalized ∈ ["какой у вас адрес", "какой ваш адрес", "где вы находитесь"] then
    addressReply false business.address
  else if normalized ∈ ["what is your address", "where are you located"] then
    addressReply true business.address
  else if normalized ∈ ["какой у вас график работы", "какие у вас часы работы", "график работы"] then
    scheduleReply false business.settings
  else if normalized ∈ ["what are your opening hours", "what are your hours"] then
    scheduleReply true business.settings
  else none

def metaString (entry : Args) (name : String) : Option String :=
  match entry.lookup name with
  | some (.str "") => none
  | some (.str value) => some value
  | some (.num value) => some (runtime.formatFloat value)
  | _ => none

/-- The tool of a reply, and the two numbers of the comment. -/
def commentTarget : Option (String × Option Int × Int) :=
  match review.platform with
  | some .telegram => do
      let chatID ← metaString runtime review.platformMeta "chat_id"
      let messageID ← metaInt review.platformMeta "message_id"
      return ("telegram__reply_to_comment", parseInt chatID, messageID)
  | some .vk => do
      let (post, comment) ← cut '_' review.externalID
      let postID ← parseInt post
      let commentID ← parseInt comment
      return ("vk__reply_comment", some postID, commentID)
  | _ => none

/-- A Telegram group has a negative number. -/
def targetIsComment (platform : Option Platform) (first : Option Int) (second : Int) : Bool :=
  match first with
  | none => false
  | some first => (if platform = some .telegram then first < 0 else first > 0) ∧ second > 0

def factualCommentReply : Option String :=
  if review.needsReview ∨ review.rating ≠ 0 ∨ review.replyStatus ≠ .pending ∨
      (review.platform ≠ some .telegram ∧ review.platform ≠ some .vk) then none
  else do
    let reply ← factualBusinessReply runtime business review.text
    guard (isDraftSafeForAutoPublish runtime reply)
    let (tool, first, second) ← commentTarget runtime review
    guard (¬ business.holds tool)
    guard (targetIsComment review.platform first second)
    return reply

end OneVoice.Reviews.Autopilot
