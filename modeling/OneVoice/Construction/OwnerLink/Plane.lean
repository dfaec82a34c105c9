/- The approvals from Telegram: the owner links of `telegram_owner_link.go` and the consumer of
`telegram_approval_consumer.go`. -/

import OneVoice.Construction.Agents.Request
import OneVoice.Construction.Hitl.PendingStore
import OneVoice.Construction.Hitl.Resolve
import OneVoice.Construction.OwnerLink.Nonce
import OneVoice.Library.Uuid

namespace OneVoice.OwnerLink

open Library Domain Agents Hitl TelegramCallback

/-- An account of Telegram, as a signed 64-bit number. -/
structure TelegramID where
  value : Int
  low : -2 ^ 63 ≤ value
  high : value < 2 ^ 63
deriving DecidableEq

/-- A Telegram integration that is not deleted. -/
structure Row where
  id : UUID
  businessID : UUID
  status : IntegrationStatus
  metadata : Args

structure LinkToken where
  businessID : UUID
  tokenHash : String
  expiresAt : Time
  consumed : Bool
deriving DecidableEq

def decisionAction : CallbackAction → Verdict
  | .approve => .approve
  | .reject => .reject

/-- A deployment's configuration, and the functions it takes from libraries. -/
structure Deployment where
  botUsername : String
  secret : String
  computeMAC : String → String → String → String
  sha256 : String → String
  parseUUID : String → Option UUID
  hitl : HITLService

def Deployment.parseAndVerify (deployment : Deployment) (data : String) :
    Except CallbackError (String × CallbackAction) :=
  TelegramCallback.parseAndVerify deployment.computeMAC data deployment.secret

def telegramUserIDKey : String := "telegram_user_id"

/-- The stored owner is a text. A number is accepted as well. -/
def ownerTelegramUserID (metadata : Args) : Option Int :=
  match metadata.lookup telegramUserIDKey with
  | some (.str "") => none
  | some (.str text) => Decimal.parseInt text
  | some (.num value) => some (toInt value)
  | _ => none

def mergeOwnerID (existing : Args) (fromID : TelegramID) : Args :=
  existing.insert telegramUserIDKey (.str (Decimal.formatInt fromID.value))

def activeTelegramIntegration (listing : List Row) : Option Row := listing.find? fun row => row.status = .active

def tapperIsOwner (listing : List Row) (fromID : TelegramID) : Bool :=
  listing.any fun row =>
    row.status = .active ∧ ownerTelegramUserID row.metadata = some fromID.value

/-- The tables, and the last successful bind of each business. -/
structure Plane where
  rows : List Row
  tokens : List LinkToken
  batches : String → Option PendingToolCallBatch
  latest : UUID → Option Int
  distinct : (rows.map Row.id).Nodup

/-- The answers to a listing of the integrations. A failed query has none. -/
abbrev Listing := UUID → Option (List Row)

section

variable (plane : Plane) (id : UUID) (metadata : Args) (deployment : Deployment)

namespace Plane

variable (token : String) (fromID : TelegramID) (now : Time) (listing : Listing)

/-- A listing comes in any order. -/
def Lists : Prop :=
  ∀ businessID rows, listing businessID = some rows →
    rows.Perm (plane.rows.filter fun row => row.businessID = businessID)

def insertToken (token : LinkToken) : Plane := { plane with tokens := plane.tokens ++ [token] }

variable (row : Row) (businessID : UUID) (tokenHash : String)

def invalidateAllForBusiness : Plane :=
  { plane with tokens := plane.tokens.map fun token =>
      if token.businessID = businessID then { token with consumed := true } else token }

/-- The token that a consumption finds. -/
def liveToken (now : Time) : Option LinkToken :=
  plane.tokens.find? fun token =>
    token.tokenHash = tokenHash ∧ token.consumed = false ∧ now < token.expiresAt

def consume (now : Time) : Plane :=
  { plane with tokens := plane.tokens.map fun token =>
      if token.tokenHash = tokenHash ∧ token.consumed = false ∧ now < token.expiresAt then
        { token with consumed := true }
      else token }

def setMetadata : Row :=
  if row.id = id then { row with metadata := metadata } else row

theorem id_setMetadata : (setMetadata id metadata row).id = row.id := by
  unfold setMetadata
  split <;> rfl

def updateMetadata : Plane :=
  { plane with
    rows := plane.rows.map (setMetadata id metadata)
    distinct := by
      rw [List.map_map, show Row.id ∘ setMetadata id metadata = Row.id from
        funext fun row => id_setMetadata id metadata row]
      exact plane.distinct }

def ownerLinkTokenTTL : Time := 10 * 60 * 1000

def ownerLinkTokenLen : Nat := 43

def isBase64URL (text : String) : Bool :=
  text.toList.all fun char =>
    ('A' ≤ char ∧ char ≤ 'Z') ∨ ('a' ≤ char ∧ char ≤ 'z') ∨ ('0' ≤ char ∧ char ≤ '9') ∨ char = '-' ∨ char = '_'

/-- Older links are revoked first, even if the insertion fails. -/
def mint (plaintext : String) (now : Time) (inserted : Bool) : Plane :=
  if deployment.botUsername = "" ∨ businessID = 0 then plane
  else if inserted then
    (plane.invalidateAllForBusiness businessID).insertToken
      ⟨businessID, deployment.sha256 plaintext, now + ownerLinkTokenTTL, false⟩
  else plane.invalidateAllForBusiness businessID

/-- The integration that a bind writes to, once the business is known. -/
def bindTarget : Option (UUID × Row) :=
  if token.utf8ByteSize ≠ ownerLinkTokenLen ∨ ¬ isBase64URL token ∨ fromID.value = 0 then none
  else do
    let found ← plane.liveToken (deployment.sha256 token) now
    let rows ← listing found.businessID
    let target ← activeTelegramIntegration rows
    return (found.businessID, target)

/-- The token is spent even when no integration can be written. -/
def spend : Plane :=
  if token.utf8ByteSize ≠ ownerLinkTokenLen ∨ ¬ isBase64URL token ∨ fromID.value = 0 then plane
  else plane.consume (deployment.sha256 token) now

def bind (written : Bool) : Plane :=
  let spent := plane.spend deployment token fromID now
  match plane.bindTarget deployment token fromID now listing with
  | none => spent
  | some (businessID, target) =>
    if written then
      { spent.updateMetadata target.id (mergeOwnerID target.metadata fromID) with
        latest := Function.update plane.latest businessID (some fromID.value) }
    else spent

end Plane

/-- A tap on a button, as the agent reports it. -/
structure Callback where
  data : String
  fromID : TelegramID

def allDecisions (calls : List PendingCall) (action : Verdict) : List DecisionInput :=
  calls.map fun call => ⟨call.callID, action, none, ""⟩

inductive ResolveOutcome where
  | approved
  | rejected
  | expired
  | alreadyResolved
  | denied
  | error
deriving DecidableEq

/-- The approval maps that a resolution reads. -/
structure Policies where
  business : ApprovalMap
  project : ApprovalMap

/-- What a successful `Resolve` leaves; the context has no actor. -/
def resolveBatch (service : HITLService) (policies : Policies) (now : Time) (input : ResolveInput)
    (doc : PendingToolCallBatch) : Except HITLError PendingToolCallBatch := do
  let batch := virtualizeExpiry now doc
  service.check none now input batch
  require ((atomicTransitionToResolving now).filter doc) .batchAlreadyResolving
  let calls := finalize policies.business policies.project batch.calls input.decisions
  return (recordDecisions calls now).set ((atomicTransitionToResolving now).set doc)

def outcomeOfError : HITLError → ResolveOutcome
  | .batchAlreadyResolving | .batchNotFound => .alreadyResolved
  | .batchExpired => .expired
  | _ => .error

namespace Plane

/-- Every decline is an outcome; only the last branch resolves. -/
def authorise (callback : Callback) (now : Time) (listing : Listing) :
    Except ResolveOutcome (CallbackAction × PendingToolCallBatch × ResolveInput) := do
  let (batchID, action) ← (deployment.parseAndVerify callback.data).mapError fun _ => .denied
  let doc ← expect (plane.batches batchID) .alreadyResolved
  let batch := virtualizeExpiry now doc
  require (batch.status ≠ .expired) .expired
  require (batch.status = .pending) .alreadyResolved
  let businessID ← expect (deployment.parseUUID batch.businessID) .denied
  let rows ← expect (listing businessID) .denied
  require (tapperIsOwner rows callback.fromID) .denied
  let decisions := allDecisions batch.calls (decisionAction action)
  return (action, doc, ⟨batch.conversationID, batchID, batch.businessID, decisions⟩)

def handle (callback : Callback) (now : Time) (listing : Listing) (policies : Policies) : Plane × ResolveOutcome :=
  match plane.authorise deployment callback now listing with
  | .error outcome => (plane, outcome)
  | .ok (action, doc, input) =>
    match resolveBatch deployment.hitl policies now input doc with
    | .error error => (plane, outcomeOfError error)
    | .ok resolved =>
      ({ plane with batches := Function.update plane.batches input.batchID (some resolved) },
        match action with
        | .approve => .approved
        | .reject => .rejected)

end Plane

inductive Call where
  | mint (businessID : UUID) (plaintext : String) (now : Time) (inserted : Bool)
  | bind (token : String) (fromID : TelegramID) (now : Time) (listing : Listing) (written : Bool)
  | callback (callback : Callback) (now : Time) (listing : Listing) (policies : Policies)

def Plane.run : Call → Plane
  | .mint businessID plaintext now inserted =>
    plane.mint deployment businessID plaintext now inserted
  | .bind token fromID now listing written =>
    plane.bind deployment token fromID now listing written
  | .callback callback now listing policies =>
    (plane.handle deployment callback now listing policies).1

end

def Call.listing : Call → Option Listing
  | .mint _ _ _ _ => none
  | .bind _ _ _ listing _ => some listing
  | .callback _ _ listing _ => some listing

def Step (deployment : Deployment) (plane : Plane) (call : Call) (next : Plane) : Prop :=
  (∀ listing, call.listing = some listing → plane.Lists listing) ∧ next = plane.run deployment call

namespace Sample

def deployment : Deployment where
  botUsername := "bot"
  secret := "secret"
  computeMAC := fun _ _ _ => "mac"
  sha256 := id
  parseUUID := fun _ => some 1
  hitl := ⟨fun _ => [], fun _ _ => false, fun _ => none⟩

def row (id : UUID) (metadata : Args) : Row := ⟨id, 1, .active, metadata⟩

def account : TelegramID := ⟨5, by decide, by decide⟩

def otherAccount : TelegramID := ⟨6, by decide, by decide⟩

def batch : PendingToolCallBatch where
  id := "batch"
  conversationID := "conversation"
  businessID := "business"
  projectID := ""
  userID := "user"
  messageID := "message"
  selectedPlatforms := []
  platformScopeSet := false
  status := .pending
  calls := [⟨"call", "telegram__send_channel_post", ∅, .manual, .missing, none, "", false, none⟩]
  modelMessages := .blank
  iterationIdx := 0
  createdAt := 0
  updatedAt := 0
  expiresAt := 100

/-- A business with two channels and a batch that waits. -/
def plane : Plane where
  rows := [row 1 ∅, row 2 ∅]
  tokens := []
  batches := fun id => if id = "batch" then some batch else none
  latest := fun _ => none
  distinct := by decide

def token : String := "AAAAAAAAAAAAAAAAAAAAAAAAAAAAAAAAAAAAAAAAAAA"

def otherToken : String := "BBBBBBBBBBBBBBBBBBBBBBBBBBBBBBBBBBBBBBBBBBB"

def listing (rows : List Row) : Listing := fun id => if id = 1 then some rows else none

def firstMint : Call := .mint 1 token 0 true

def firstBind : Call := .bind token account 1 (listing plane.rows) true

def minted : Plane := plane.run deployment firstMint

/-- The first account is bound to the first channel. -/
def bound : Plane := minted.run deployment firstBind

def secondMint : Call := .mint 1 otherToken 2 true

/-- The channels come in the other order. -/
def secondBind : Call := .bind otherToken otherAccount 3 (listing bound.rows.reverse) true

def mintedAgain : Plane := bound.run deployment secondMint

/-- The second account is bound to the second channel. -/
def rebound : Plane := mintedAgain.run deployment secondBind

/-- A tap on the button that approves the batch. -/
def tap (fromID : TelegramID) : Callback := ⟨"v1:batch:a:mac", fromID⟩

end Sample

end OneVoice.OwnerLink
