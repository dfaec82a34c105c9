/- The collection of `pkg/hitlstore/pending_tool_call.go`. Every write is a filter and a change of
one document, and bulk writes reach one document at a time. -/

import OneVoice.Construction.Domain
import OneVoice.Library.Run

namespace OneVoice.Hitl

open Library Domain

def pendingToolCallTTL : Time := 24 * 60 * 60 * 1000

/-- A conditional update of one document. -/
structure Update where
  filter : PendingToolCallBatch → Bool
  set : PendingToolCallBatch → PendingToolCallBatch

/-- No call of the document carries a recorded verdict. -/
def undecided (doc : PendingToolCallBatch) : Bool := doc.calls.all fun call => call.verdict ∉ recordedVerdicts

/-- `Persist` refuses a batch that names no conversation or no business. -/
def persistable (batch : PendingToolCallBatch) : Bool := batch.conversationID ≠ "" ∧ batch.businessID ≠ ""

variable (now : Time)

/-- The document that `Persist` inserts. -/
def stage (batch : PendingToolCallBatch) : PendingToolCallBatch :=
  { batch with status := .preparing, createdAt := now, updatedAt := now }

/-- The second write of `Persist`. -/
def promote : Update where
  filter doc := doc.status = .preparing
  set doc := { doc with status := .pending, expiresAt := now + pendingToolCallTTL, updatedAt := now }

def atomicTransitionToResolving : Update where
  filter doc := doc.status = .pending
  set doc := { doc with status := .resolving, updatedAt := now }

def atomicTransitionResolvingToResuming : Update where
  filter doc := doc.status = .resolving
  set doc := { doc with status := .resuming, updatedAt := now }

def atomicTransitionResumingToResolving : Update where
  filter doc := doc.status = .resuming
  set doc := { doc with status := .resolving, updatedAt := now }

def resetResolvingToPending : Update where
  filter doc := doc.status = .resolving && undecided doc
  set doc := { doc with status := .pending, updatedAt := now }

/-- The whole call list is replaced, whatever the status. -/
def recordDecisions (calls : List PendingCall) (now : Time) : Update where
  filter _ := true
  set doc := { doc with calls := calls, updatedAt := now }

/-- The positional operator reaches the first call with the id. -/
def markCall (callID : String) (now : Time) : List PendingCall → List PendingCall
  | [] => []
  | call :: calls =>
    if call.callID = callID then { call with dispatched := true, dispatchedAt := some now } :: calls
    else call :: markCall callID now calls

def markDispatched (callID : String) (now : Time) : Update where
  filter doc := doc.calls.any fun call => call.callID = callID
  set doc := { doc with calls := markCall callID now doc.calls, updatedAt := now }

def markResolved : Update where
  filter _ := true
  set doc := { doc with status := .resolved, updatedAt := now }

def markExpired : Update where
  filter _ := true
  set doc := { doc with status := .expired, updatedAt := now }

def reconcileOrphanPreparing (olderThan now : Time) : Update where
  filter doc := doc.status = .preparing && doc.createdAt + olderThan < now
  set doc := { doc with status := .expired, expiresAt := now, updatedAt := now }

/-- The first phase of `ReconcileOrphanResolving`, with the cutoff of its start. -/
def reconcileOrphanResolving (olderThan started now : Time) : Update where
  filter doc := doc.status = .resolving && doc.updatedAt + olderThan < started && undecided doc
  set doc := { doc with status := .pending, updatedAt := now }

/-- The second phase of `ReconcileOrphanResolving`. -/
def reconcileOrphanResuming (olderThan started now : Time) : Update where
  filter doc := doc.status = .resuming && doc.updatedAt + olderThan < started
  set doc := { doc with status := .resolving, updatedAt := now }

/-- The stored status is read as expired from the deadline on. -/
def virtualizeExpiry (doc : PendingToolCallBatch) : PendingToolCallBatch :=
  if doc.expiresAt = 0 then doc
  else if doc.status ≠ .pending ∧ doc.status ≠ .resolving ∧ doc.status ≠ .resuming then doc
  else if doc.expiresAt < now then { doc with status := .expired } else doc

inductive UpdateOp where
  | promote (now : Time)
  | atomicTransitionToResolving (now : Time)
  | atomicTransitionResolvingToResuming (now : Time)
  | atomicTransitionResumingToResolving (now : Time)
  | resetResolvingToPending (now : Time)
  | recordDecisions (calls : List PendingCall) (now : Time)
  | markDispatched (callID : String) (now : Time)
  | markResolved (now : Time)
  | markExpired (now : Time)
  | reconcileOrphanPreparing (olderThan now : Time)
  | reconcileOrphanResolving (olderThan started now : Time)
  | reconcileOrphanResuming (olderThan started now : Time)

def UpdateOp.update : UpdateOp → Update
  | .promote now => Hitl.promote now
  | .atomicTransitionToResolving now => Hitl.atomicTransitionToResolving now
  | .atomicTransitionResolvingToResuming now => Hitl.atomicTransitionResolvingToResuming now
  | .atomicTransitionResumingToResolving now => Hitl.atomicTransitionResumingToResolving now
  | .resetResolvingToPending now => Hitl.resetResolvingToPending now
  | .recordDecisions calls now => Hitl.recordDecisions calls now
  | .markDispatched callID now => Hitl.markDispatched callID now
  | .markResolved now => Hitl.markResolved now
  | .markExpired now => Hitl.markExpired now
  | .reconcileOrphanPreparing olderThan now => Hitl.reconcileOrphanPreparing olderThan now
  | .reconcileOrphanResolving olderThan started now =>
    Hitl.reconcileOrphanResolving olderThan started now
  | .reconcileOrphanResuming olderThan started now =>
    Hitl.reconcileOrphanResuming olderThan started now

inductive DeleteOp where
  | deleteByConversationIDs (ids : List String)
  | deleteByBusinessID (businessID : String)
  /-- The monitor of the TTL index. -/
  | expire (now : Time)

def DeleteOp.filter : DeleteOp → PendingToolCallBatch → Bool
  | .deleteByConversationIDs ids, doc => doc.conversationID ∈ ids
  | .deleteByBusinessID businessID, doc => businessID ≠ "" ∧ doc.businessID = businessID
  | .expire now, doc => doc.expiresAt ≠ 0 ∧ doc.expiresAt ≤ now

inductive StoreOp where
  | insert (batch : PendingToolCallBatch) (now : Time)
  | update (op : UpdateOp)
  | delete (op : DeleteOp)

/-- A write at one id, and whether it matched. -/
inductive StoreStep (id : String) :
    Option PendingToolCallBatch → StoreOp × Bool → Option PendingToolCallBatch → Prop
  | inserted {batch now} : persistable batch = true → batch.id = id →
      StoreStep id none (.insert batch now, true) (some (stage now batch))
  | insertFailed {cell batch now} : cell.isSome = true ∨ persistable batch = false →
      StoreStep id cell (.insert batch now, false) cell
  | updated {doc op} : op.update.filter doc = true →
      StoreStep id (some doc) (.update op, true) (some (op.update.set doc))
  | updateMissed {cell op} : (∀ doc, cell = some doc → op.update.filter doc = false) →
      StoreStep id cell (.update op, false) cell
  | deleted {doc op} : op.filter doc = true → StoreStep id (some doc) (.delete op, true) none
  | deleteMissed {cell op} : (∀ doc, cell = some doc → op.filter doc = false) →
      StoreStep id cell (.delete op, false) cell

/-- The collection as a whole: any client writes to any document. -/
abbrev Collection := String → Option PendingToolCallBatch

abbrev Collection.Step : Collection → String × StoreOp × Bool → Collection → Prop := Keyed StoreStep

end OneVoice.Hitl
