/- The tools of `agent-yandex-business/internal/agent/handler.go` that address one channel, and their
callers in `reconciliation.go`, `yandex_syncer.go` and `sync_special_dates.go`; and the read-back of a
saved field in `yandex/helpers.go`. -/

import OneVoice.Construction.Agents.Request
import Mathlib.Data.List.Infix

namespace OneVoice.Agents.Yandex

open Library Domain

/-- A browser on the organisation of a permalink, with its own session or the shared one. -/
structure Browser where
  cookies : String
  permalink : String
  delegated : Bool

inductive Call where
  | getInfo
  | updateHours (hours : String)
  | updateSpecialDates (change : String)

structure Performed where
  browser : Browser
  call : Call

/-- The shared session is `none` where it is not provisioned. -/
structure Handler where
  tokens : TokenService
  shared : Option (Except AgentError String)
  parseSpecialDateHoursChange : String → Except String Unit

namespace Handler

variable (handler : Handler) (request : ToolRequest)

def sharedBrowser (permalink : String) : Except AgentError Browser := do
  let session ← expect handler.shared
    { code := "integration_not_configured", text := "delegated access not configured" }
  return ⟨← session, permalink, true⟩

def getBrowserForExternalID (resolveExternalID : String) : Except AgentError Browser := do
  let info ← fetchToken handler.tokens request.businessID .yandexBusiness resolveExternalID
  if info.accessToken ≠ "" then return ⟨info.accessToken, info.externalID, false⟩
  handler.sharedBrowser info.externalID

def getBrowser : Except AgentError Browser := handler.getBrowserForExternalID request ""

def getInfo : Except AgentError Performed := do
  return ⟨← handler.getBrowserForExternalID request (stringArg request.args "external_id"), .getInfo⟩

def updateSpecialDates (raw : Json) : Except AgentError Performed := do
  require (request.args.lookup "hours" = none) { text := "hours and special_dates must be saved separately" }
  match raw with
  | .str value =>
    match handler.parseSpecialDateHoursChange value with
    | .error text => throw { text := text }
    | .ok _ => return ⟨← handler.getBrowser request, .updateSpecialDates value⟩
  | _ => throw { text := "special_dates must be a JSON string" }

def updateHours : Except AgentError Performed := do
  match request.args.lookup "special_dates" with
  | some raw => handler.updateSpecialDates request raw
  | none =>
    return ⟨← handler.getBrowser request, .updateHours (stringArg request.args "hours")⟩

end Handler

/-- What the api does for one channel: a check of its row, or the update of a sync task. -/
inductive Operation where
  | fetchYandex
  | syncSchedule (hours : String)
  | syncSpecialDates (change : String)

/-- The arguments of the three dispatches. The channel is in none of them. -/
def Operation.dispatch (handler : Handler) (businessID : String) : Operation → Except AgentError Performed
  | .fetchYandex => handler.getInfo ⟨"yandex_business__get_info", businessID, ∅, ""⟩
  | .syncSchedule hours => handler.updateHours
    ⟨"yandex_business__update_hours", businessID, (∅ : Args).insert "hours" (.str hours), ""⟩
  | .syncSpecialDates change => handler.updateHours
    ⟨"yandex_business__update_hours", businessID, (∅ : Args).insert "special_dates" (.str change), ""⟩

/-- The row or the task is recorded under the channel that it is for. -/
def Operation.run (handler : Handler) (own : Integration) (operation : Operation) :
    Except AgentError (String × Performed) := do
  return (own.externalID, ← operation.dispatch handler own.businessID)

variable (lower : Char → Char) (text : String)

/-- A non-breaking space becomes a plain one. -/
def normalizeWhitespace : String :=
  let plain := text.toList.map fun char => if char.val = 0xA0 then ' ' else char
  " ".intercalate (fields Access.isSpace (.ofList plain))

/-- A value as the read-back compares it. -/
def normal : String := toLower lower (normalizeWhitespace text)

def fieldSavedMatches (expected actual : String) : Bool :=
  normal lower expected ≠ "" ∧ (normal lower expected).toList <:+: (normal lower actual).toList

/-- The error of a save that is not confirmed. -/
def confirmFieldSaved (quote : String → String) (expected actual : String) : Option String :=
  if fieldSavedMatches lower expected actual then none
  else some ("update not confirmed — field still reads " ++ quote actual ++ " after save, expected " ++ quote expected)

end OneVoice.Agents.Yandex
