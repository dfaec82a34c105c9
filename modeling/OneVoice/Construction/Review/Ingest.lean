/- The syncs of Telegram reviews around the update queue of one bot token. Every `GetUpdates`,
answer of the agent and write of reviews is one step of any number of syncs. -/

import OneVoice.Construction.Agents.Telegram
import OneVoice.Construction.Agents.Updates
import OneVoice.Construction.Review.Sync
import OneVoice.Library.Run

namespace OneVoice.Reviews

open Agents

/-- The parameter `limit` of `GetUpdates`. -/
def updateBatchSize : Nat := 100

inductive SyncPhase where
  | polling
  | polled
  | answered
deriving DecidableEq

/-- A run of `GetReviews`, with the updates that it has fetched. -/
structure Sync where
  businessID : String
  limit : Int
  offset : Nat := 0
  fetched : List Telegram.Update := []
  phase : SyncPhase := .polling

/-- The reviews that the API makes of the answer. -/
def Sync.reviews (sync : Sync) : List SyncedReview :=
  dedupeReviewsByExternalID (sync.fetched.filterMap Telegram.Update.reviewEntry) sync.businessID .telegram

structure Ingest where
  queue : List Telegram.Update
  syncs : Nat → Option Sync
  store : ReviewKey → Option SyncedReview

variable (sync : Sync) (ingest : Ingest) (offset : Nat)

namespace Ingest

/-- The bot has some updates waiting, and nothing was synced yet. -/
def start (queue : List Telegram.Update) : Ingest := ⟨queue, fun _ => none, fun _ => none⟩

/-- An offset confirms the updates below it, and Telegram forgets them. -/
def confirm : Ingest := { ingest with queue := ingest.queue.filter fun update => offset ≤ update.updateID }

def batch : List Telegram.Update := (ingest.confirm offset).queue.take updateBatchSize

def setSync (id : Nat) (sync : Option Sync) : Ingest :=
  { ingest with syncs := Function.update ingest.syncs id sync }

def upsert (ingest : Ingest) (review : SyncedReview) : Ingest :=
  { ingest with
    store := Function.update ingest.store review.key (some (review.upsert (ingest.store review.key))) }

def bulkUpsert (reviews : List SyncedReview) : Ingest := reviews.foldl upsert ingest

end Ingest

/-- The loop ends with an empty batch or at the limit. -/
def Sync.extend (batch : List Telegram.Update) : Sync :=
  match batch.getLast? with
  | none => { sync with phase := .polled }
  | some last =>
    { sync with
      fetched := sync.fetched ++ batch
      offset := last.updateID + 1
      phase := if sync.limit ≤ (sync.fetched ++ batch).length then .polled else .polling }

/-- A failed call ends the tool when nothing was fetched before. -/
def Sync.cutOff : Option Sync :=
  if sync.fetched = [] then none else some { sync with phase := .polled }

namespace Ingest

inductive Action where
  | arrive (update : Telegram.Update)
  | consume (offset : Nat)
  | begin (id : Nat) (businessID : String)
  | poll (id : Nat)
  | pollFailed (id : Nat)
  | confirm (id : Nat) (sent : Bool)
  | deliver (id : Nat) (written : List SyncedReview)
  | abandon (id : Nat)

/-- One handler serves all businesses; syncs under a token share its queue. -/
inductive Step (handler : Telegram.Handler) (token : String) : Ingest → Action → Ingest → Prop
  | arrive {ingest : Ingest} (update : Telegram.Update) :
      (∀ other ∈ ingest.queue, other.updateID < update.updateID) →
        Step handler token ingest (.arrive update) { ingest with queue := ingest.queue ++ [update] }
  /-- The poll for owner links advances on the same queue. -/
  | consume {ingest : Ingest} (offset : Nat) : Step handler token ingest (.consume offset) (ingest.confirm offset)
  | begin {ingest : Ingest} {id businessID limit} : ingest.syncs id = none →
      handler.handle (syncRequest businessID "telegram__get_reviews") = .ok ⟨token, .getReviews limit⟩ →
        Step handler token ingest (.begin id businessID)
          (ingest.setSync id (some { businessID := businessID, limit := limit }))
  | poll {ingest : Ingest} {id} {sync : Sync} :
      ingest.syncs id = some sync → sync.phase = .polling →
        Step handler token ingest (.poll id)
          ((ingest.confirm sync.offset).setSync id (some (sync.extend (ingest.batch sync.offset))))
  | pollFailed {ingest : Ingest} {id} {sync : Sync} :
      ingest.syncs id = some sync → sync.phase = .polling →
        Step handler token ingest (.pollFailed id) (ingest.setSync id sync.cutOff)
  /-- The last call only confirms, and its error is dropped. -/
  | confirm {ingest : Ingest} {id} {sync : Sync} (sent : Bool) :
      ingest.syncs id = some sync → sync.phase = .polled →
        Step handler token ingest (.confirm id sent)
          ((if sent ∧ 0 < sync.offset then ingest.confirm sync.offset else ingest).setSync id
            (some { sync with phase := .answered }))
  /-- The bulk write is unordered; an error leaves reviews out. -/
  | deliver {ingest : Ingest} {id} {sync : Sync} {written : List SyncedReview} :
      ingest.syncs id = some sync → sync.phase = .answered → written.Sublist sync.reviews →
        Step handler token ingest (.deliver id written) ((ingest.setSync id none).bulkUpsert written)
  /-- The answer is lost on its way to the API. -/
  | abandon {ingest : Ingest} {id sync} :
      ingest.syncs id = some sync → Step handler token ingest (.abandon id) (ingest.setSync id none)

end Ingest

end OneVoice.Reviews
