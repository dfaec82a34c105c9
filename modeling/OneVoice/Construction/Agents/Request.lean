/- What the agents share: the readers of tool arguments in `pkg/a2a`, and the token service of
`api/internal/service/integration.go`. -/

import OneVoice.Construction.Access.Requests
import OneVoice.Library.Text

namespace OneVoice.Agents

open Library Domain

inductive Platform where
  | telegram
  | vk
  | yandexBusiness
  | googleBusiness
deriving DecidableEq

structure ToolRequest where
  tool : String
  businessID : String
  args : Args
  approvalID : String

/-- The code is empty where the classifier of the platform sets it; the text is without its cause.
-/
structure AgentError where
  code : String := ""
  nonRetryable : Bool := true
  text : String
deriving DecidableEq

/-- An integer that a JSON number carries without rounding. -/
structure WireInt where
  value : Int
  bounded : value.natAbs < 2 ^ 53
deriving DecidableEq

variable (id : WireInt) (args : Args) (name : String)

/-- A missing argument or one of another type reads as the empty text. -/
def stringArg : String :=
  match args.lookup name with
  | some (.str value) => value
  | _ => ""

def boolArg : Bool :=
  match args.lookup name with
  | some (.bool value) => value
  | _ => false

/-- A number outside of 64 bits converts to the smallest integer. -/
def toInt (value : Rat) : Int :=
  let whole := value.num.tdiv value.den
  if -2 ^ 63 ≤ whole ∧ whole < 2 ^ 63 then whole else -2 ^ 63

theorem WireInt.fits : -2 ^ 63 ≤ id.value ∧ id.value < 2 ^ 63 := by
  have bounded := id.bounded
  omega

@[simp]
theorem toInt_wireInt : toInt (id.value : Rat) = id.value := by
  have whole : (id.value : Rat).num.tdiv (id.value : Rat).den = id.value := by
    exact Int.tdiv_one id.value
  unfold toInt
  rw [whole]
  exact if_pos id.fits

@[simp]
theorem parseInt_wireInt : Decimal.parseInt (Decimal.formatInt id.value) = some id.value :=
  Decimal.parseInt_formatInt id.fits.1 id.fits.2

/-- A numeral in a text counts as a number; a refused value as the default. -/
def getIntParam (default : Int) : Option Int :=
  match args.lookup name with
  | none => some default
  | some (.num value) => some (toInt value)
  | some (.str value) => Decimal.parseInt (Access.trimSpace value)
  | some _ => none

/-- A number that is not an integer is told apart from its truncation. -/
def isTruncated (id : Int) : Bool :=
  match args.lookup name with
  | some (.num value) => value ≠ id
  | _ => false

inductive IntegrationStatus where
  | active
  | tokenExpired
deriving DecidableEq

structure Integration where
  businessID : String
  platform : Platform
  externalID : String
  status : IntegrationStatus
deriving DecidableEq

structure Tokens where
  accessToken : String
  userToken : String

structure TokenInfo extends Tokens where
  externalID : String

inductive TokenError where
  | integrationNotFound
  | tokenExpired
  | transient (text : String)
  | other (text : String)

/-- The integrations in database order; a release may fail. -/
structure TokenService where
  integrations : List Integration
  release : Integration → Except TokenError Tokens

namespace TokenService

variable (service : TokenService)

def listByBusinessAndPlatform (businessID : String) (platform : Platform) : List Integration :=
  service.integrations.filter fun integration =>
    integration.businessID = businessID ∧ integration.platform = platform

def getByBusinessPlatformExternal (businessID : String) (platform : Platform)
    (externalID : String) : Option Integration :=
  (service.listByBusinessAndPlatform businessID platform).find? fun integration =>
    integration.externalID = externalID

/-- The first active integration stands in for a missing one, not an inactive one. -/
def select (businessID : String) (platform : Platform) (externalID : String) : Option Integration :=
  let exact :=
    if externalID ≠ "" then service.getByBusinessPlatformExternal businessID platform externalID
    else none
  exact.or <| (service.listByBusinessAndPlatform businessID platform).find? fun integration =>
    integration.status = .active

def getDecryptedToken (businessID : String) (platform : Platform) (externalID : String) :
    Except TokenError TokenInfo := do
  let integration ← expect (service.select businessID platform externalID) .integrationNotFound
  require (integration.status = .active) .tokenExpired
  let tokens ← service.release integration
  return { tokens with externalID := integration.externalID }

end TokenService

def wrapTokenFetchError : TokenError → AgentError
  | .integrationNotFound =>
    { code := "integration_token_invalid", text := "fetch token: tokenclient: integration not found" }
  | .tokenExpired =>
    { code := "integration_token_invalid"
      text := "fetch token: tokenclient: token expired and refresh failed" }
  | .transient text => { nonRetryable := false, text := "fetch token: " ++ text }
  | .other text => { text := "fetch token: " ++ text }

def fetchToken (tokens : TokenService) (businessID : String) (platform : Platform)
    (externalID : String) : Except AgentError TokenInfo :=
  match tokens.getDecryptedToken businessID platform externalID with
  | .ok info => .ok info
  | .error error => .error (wrapTokenFetchError error)

variable (rows : List Integration) (businessID : String) (platform : Platform) (externalID : String)

/-- The update of the active integrations, and how many it affects. -/
def markTokenExpiredWhere : List Integration × Nat :=
  let matched (row : Integration) : Bool :=
    row.businessID = businessID ∧ row.platform = platform ∧ row.status = .active ∧
      (externalID ≠ "" → row.externalID = externalID)
  (rows.map fun row => if matched row then { row with status := .tokenExpired } else row, rows.countP matched)

def integrationExists : Bool :=
  rows.any fun row =>
    row.businessID = businessID ∧ row.platform = platform ∧ row.externalID = externalID

/-- An id that names no integration falls back to the platform. -/
def markTokenExpired : List Integration :=
  let (rows, affected) := markTokenExpiredWhere rows businessID platform externalID
  if 0 < affected ∨ externalID = "" then rows
  else if integrationExists rows businessID platform externalID then rows
  else (markTokenExpiredWhere rows businessID platform "").1

def externalIDFromToolArgs (args : Args) : String :=
  match platform with
  | .telegram => stringArg args "channel_id"
  | .vk => stringArg args "group_id"
  | .yandexBusiness | .googleBusiness => ""

def integrationTokenInvalidCode : String := "integration_token_invalid"

/-- What the result of a tool call does to the integrations. -/
def onToolResult (request : ToolRequest) (toolErrorCode : String) : List Integration :=
  if toolErrorCode = integrationTokenInvalidCode then
    markTokenExpired rows request.businessID platform (externalIDFromToolArgs platform request.args)
  else rows

end OneVoice.Agents
