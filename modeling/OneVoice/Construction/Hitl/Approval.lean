/- The parties that touch one approval batch: the resolve calls of `service/hitl.go`, the resumes of
`chatturn/hitl.go` with the agent loop behind them, and the sweep of `wire/databases.go`. Every
write is one step, and a party may stop between any two. -/

import OneVoice.Construction.Hitl.PendingStore
import OneVoice.Construction.Hitl.Resolve
import OneVoice.Construction.Orchestrator.Loop

namespace OneVoice.Hitl

open Library Domain Agent

def orphanReconcileWindow : Time := 5 * 60 * 1000

/-- One request to `Resolve` and the services that it consults. -/
structure Attempt where
  service : HITLService
  context : Option BusinessContext
  input : ResolveInput

/-- The position of a resolve call, with its own copy of the batch. -/
inductive ResolverPhase where
  | idle
  | checked (attempt : Attempt) (batch : PendingToolCallBatch)
  | claimed (attempt : Attempt) (batch : PendingToolCallBatch) (since : Time)
  | unrecorded (since : Time)
  | ended (result : Except HITLError ResolveResult)
  | crashed

/-- The position of a resume, unanswered until the orchestrator's first byte. -/
inductive ResumePhase where
  | idle
  | claimed
  | running (request : ResumeRequest) (batch : PendingToolCallBatch) (loop : Loop) (unanswered : Bool)
  | ended

/-- The copy of the batch that a resolve call still works on. -/
def ResolverPhase.copy : ResolverPhase → Option (Attempt × PendingToolCallBatch)
  | .checked attempt batch => some (attempt, batch)
  | .claimed attempt batch _ => some (attempt, batch)
  | _ => none

structure Approval where
  now : Time
  cell : Option PendingToolCallBatch
  resolvers : Nat → ResolverPhase
  resumes : Nat → ResumePhase

namespace Approval

def setResolver (state : Approval) (resolver : Nat) (phase : ResolverPhase) : Approval :=
  { state with resolvers := Function.update state.resolvers resolver phase }

def setResume (state : Approval) (resume : Nat) (phase : ResumePhase) : Approval :=
  { state with resumes := Function.update state.resumes resume phase }

def setCell (state : Approval) (cell : Option PendingToolCallBatch) : Approval := { state with cell := cell }

end Approval

inductive Action where
  | tick (later : Time)
  | read (resolver : Nat) (attempt : Attempt)
  | readRefused (resolver : Nat) (attempt : Attempt)
  | claim (resolver : Nat)
  | claimRefused (resolver : Nat)
  | record (resolver : Nat) (calls : List PendingCall)
  | recordRefused (resolver : Nat)
  | compensate (resolver : Nat)
  | crash (resolver : Nat)
  | resumeClaim (resume : Nat)
  | load (resume : Nat) (request : ResumeRequest)
  | agent (resume : Nat) (observed : List Observation)
  | answered (resume : Nat)
  | compensateResuming (resume : Nat)
  | resumeCrash (resume : Nat)
  | sweepResolving (started : Time)
  | sweepResuming (started : Time)
  | markExpired
  | delete (op : DeleteOp)

/-- The writes to the batch that a step of the agent loop asks for. -/
def agentWrites (id : String) (now : Time) (observed : List Observation) : List StoreOp :=
  observed.filterMap fun
    | .markDispatched batchID callID =>
      if batchID = id then some (.update (.markDispatched callID now)) else none
    | .markResolved batchID => if batchID = id then some (.update (.markResolved now)) else none
    | _ => none

/-- The error that follows a claim which matched nothing. -/
def claimError : Option PendingToolCallBatch → HITLError
  | none => .batchNotFound
  | some _ => .batchAlreadyResolving

/-- One step of the parties around the batch with the given id. -/
inductive Approval.Step (orchestrator : Orchestrator) (id : String) :
    Approval → Action → Approval → Prop
  | tick {state} (later : Time) :
      state.now ≤ later → Step orchestrator id state (.tick later) { state with now := later }
  | read {state resolver doc} (attempt : Attempt) : state.resolvers resolver = .idle → state.cell = some doc →
      attempt.service.check attempt.context state.now attempt.input (virtualizeExpiry state.now doc) = .ok () →
      Step orchestrator id state (.read resolver attempt)
        (state.setResolver resolver (.checked attempt (virtualizeExpiry state.now doc)))
  | readRefused {state resolver doc} (attempt : Attempt) (error : HITLError) :
      state.resolvers resolver = .idle → state.cell = some doc →
      attempt.service.check attempt.context state.now attempt.input
        (virtualizeExpiry state.now doc) = .error error →
      Step orchestrator id state (.readRefused resolver attempt)
        (state.setResolver resolver (.ended (.error error)))
  | readMissing {state resolver} (attempt : Attempt) : state.resolvers resolver = .idle → state.cell = none →
      Step orchestrator id state (.readRefused resolver attempt)
        (state.setResolver resolver (.ended (.error .batchNotFound)))
  | claim {state resolver attempt batch next} : state.resolvers resolver = .checked attempt batch →
      StoreStep id state.cell (.update (.atomicTransitionToResolving state.now), true) next →
      Step orchestrator id state (.claim resolver)
        ((state.setCell next).setResolver resolver (.claimed attempt batch state.now))
  | claimRefused {state resolver attempt batch next} : state.resolvers resolver = .checked attempt batch →
      StoreStep id state.cell (.update (.atomicTransitionToResolving state.now), false) next →
      Step orchestrator id state (.claimRefused resolver)
        (state.setResolver resolver (.ended (.error (claimError state.cell))))
  /-- The write may reach the store although the caller sees an error. -/
  | record {state resolver attempt batch since next} (businessApprovals projectOverrides : ApprovalMap)
      (acknowledged : Bool) :
      state.resolvers resolver = .claimed attempt batch since →
      StoreStep id state.cell (.update (.recordDecisions (finalize businessApprovals projectOverrides
        batch.calls attempt.input.decisions) state.now), true) next →
      Step orchestrator id state
        (.record resolver (finalize businessApprovals projectOverrides batch.calls attempt.input.decisions))
        ((state.setCell next).setResolver resolver (if acknowledged then
          .ended (.ok (resolveResult businessApprovals projectOverrides state.now attempt.input
            batch.calls)) else .unrecorded since))
  | recordRefused {state resolver attempt batch since} : state.resolvers resolver = .claimed attempt batch since →
      Step orchestrator id state (.recordRefused resolver) (state.setResolver resolver (.unrecorded since))
  | compensate {state resolver since matched next} : state.resolvers resolver = .unrecorded since →
      StoreStep id state.cell (.update (.resetResolvingToPending state.now), matched) next →
      Step orchestrator id state (.compensate resolver)
        ((state.setCell next).setResolver resolver (.ended (.error .internal)))
  | crash {state} (resolver : Nat) :
      Step orchestrator id state (.crash resolver) (state.setResolver resolver .crashed)
  | resumeClaim {state resume next} : state.resumes resume = .idle →
      StoreStep id state.cell (.update (.atomicTransitionResolvingToResuming state.now), true) next →
      Step orchestrator id state (.resumeClaim resume) ((state.setCell next).setResume resume .claimed)
  | load {state resume doc} (request : ResumeRequest) : state.resumes resume = .claimed → state.cell = some doc →
      Step orchestrator id state (.load resume request)
        (state.setResume resume (.running request (virtualizeExpiry state.now doc)
          (.resume orchestrator request (virtualizeExpiry state.now doc)) true))
  /-- Each write that the loop asks for may fail. -/
  | agent {state resume request batch loop unanswered observed after writes next} :
      state.resumes resume = .running request batch loop unanswered →
      Agent.Step orchestrator loop observed after →
      Run (StoreStep id) state.cell writes next →
      (writes.map Prod.fst).Sublist (agentWrites id state.now observed) →
      Step orchestrator id state (.agent resume observed)
        ((state.setCell next).setResume resume (.running request batch after unanswered))
  | answered {state resume request batch loop unanswered} :
      state.resumes resume = .running request batch loop unanswered →
      Step orchestrator id state (.answered resume) (state.setResume resume (.running request batch loop false))
  /-- The request failed before the orchestrator took it up. -/
  | compensateUnopened {state resume matched next} : state.resumes resume = .claimed →
      StoreStep id state.cell (.update (.atomicTransitionResumingToResolving state.now), matched) next →
      Step orchestrator id state (.compensateResuming resume) ((state.setCell next).setResume resume .ended)
  /-- The request failed after it was taken up, and the loop goes on. -/
  | compensateUnanswered {state resume request batch loop matched next} :
      state.resumes resume = .running request batch loop true →
      StoreStep id state.cell (.update (.atomicTransitionResumingToResolving state.now), matched) next →
      Step orchestrator id state (.compensateResuming resume)
        ((state.setCell next).setResume resume (.running request batch loop false))
  | resumeCrash {state} (resume : Nat) :
      Step orchestrator id state (.resumeCrash resume) (state.setResume resume .ended)
  | sweepResolving {state started matched next} : started ≤ state.now →
      StoreStep id state.cell
        (.update (.reconcileOrphanResolving orphanReconcileWindow started state.now), matched) next →
      Step orchestrator id state (.sweepResolving started) (state.setCell next)
  | sweepResuming {state started matched next} : started ≤ state.now →
      StoreStep id state.cell
        (.update (.reconcileOrphanResuming orphanReconcileWindow started state.now), matched) next →
      Step orchestrator id state (.sweepResuming started) (state.setCell next)
  | markExpired {state matched next} : StoreStep id state.cell (.update (.markExpired state.now), matched) next →
      Step orchestrator id state .markExpired (state.setCell next)
  | delete {state op matched next} : StoreStep id state.cell (.delete op, matched) next →
      Step orchestrator id state (.delete op) (state.setCell next)

/-- A batch as the orchestrator persists it. -/
structure Fresh (batch : PendingToolCallBatch) : Prop where
  waits : batch.calls ≠ []
  undecided : ∀ call ∈ batch.calls, call.verdict = .missing
  undispatched : ∀ call ∈ batch.calls, call.dispatched = false

/-- The promoted batch, before any party has touched it. -/
def Approval.start (batch : PendingToolCallBatch) (now : Time) : Approval where
  now := now
  cell := some ((promote now).set (stage now batch))
  resolvers _ := .idle
  resumes _ := .idle

/-- A pause persists a fresh batch as soon as one manual call waits. -/
theorem fresh_buildPendingBatch (orchestrator : Orchestrator) (batchID : String) (state : RunState)
    {manual} (waits : manual ≠ []) : Fresh (orchestrator.buildPendingBatch batchID state manual) where
  waits none := by
    exact waits (List.map_eq_nil_iff.mp none)
  undecided call member := by
    obtain ⟨_, _, rfl⟩ := List.mem_map.mp member
    rfl
  undispatched call member := by
    obtain ⟨_, _, rfl⟩ := List.mem_map.mp member
    rfl

/-! The owner of the sample batch approves its call. -/

namespace Sample

def attempt : Attempt where
  service := ⟨fun _ => ["text"], fun _ _ => false, fun _ => none⟩
  context := none
  input := ⟨"conversation", "batch", "3f8a1c52-7d1e-4b7a-9c55-0a6f2d9b4e10", [⟨"call", .approve, none, ""⟩]⟩

theorem fresh_batch : Fresh Agent.Sample.batch := fresh_buildPendingBatch _ _ _ (List.cons_ne_nil _ _)

abbrev Steps := Run (Approval.Step Agent.Sample.orchestrator "batch")

def waitingCall : PendingCall := Agent.Sample.orchestrator.pendingCall Agent.Sample.replyCall

/-- The sample document at a status, with its calls. -/
def doc (status : BatchStatus) (calls : List PendingCall) (updatedAt : Time) : PendingToolCallBatch :=
  { (promote 1).set (stage 1 Agent.Sample.batch) with
    status := status, calls := calls, updatedAt := updatedAt }

/-- The loop that resumes the sample document. -/
def loop (calls : List PendingCall) (updatedAt : Time) : Loop :=
  ⟨Agent.Sample.orchestrator.resumeState Agent.Sample.resumeRequest (doc .resuming calls updatedAt)
    ⟨Agent.Sample.pausedState.messages, "", "", [], 0, 0, false⟩,
    .dispatching Agent.Sample.resumeRequest (doc .resuming calls updatedAt) calls, [], false⟩

end Sample

/-- A write may take effect although its caller sees an error. -/
inductive Failure where
  | load
  | transition (applied : Bool)
  | probe
  | business
  | project
  | record (applied : Bool)
deriving DecidableEq

/-- The policies are those that the two reads find when they succeed. -/
structure ResolveCall extends Attempt where
  businessApprovals : ApprovalMap
  projectOverrides : ApprovalMap
  readAt : Time
  claimedAt : Time
  resolvedAt : Time
  recordedAt : Time
  resetAt : Time
  failing : Option Failure

def Update.apply (update : Update) (doc : PendingToolCallBatch) : PendingToolCallBatch :=
  if update.filter doc then update.set doc else doc

namespace ResolveCall

variable (call : ResolveCall)

/-- Up to the transition: an error and the store, or copy and claimed document. -/
def claim (cell : Option PendingToolCallBatch) :
    Except (HITLError × Option PendingToolCallBatch) (PendingToolCallBatch × PendingToolCallBatch) :=
  if call.failing = some .load then .error (.internal, cell)
  else match cell with
    | none => .error (.batchNotFound, none)
    | some doc =>
      let batch := virtualizeExpiry call.readAt doc
      let transition := atomicTransitionToResolving call.claimedAt
      match call.service.check call.context call.readAt call.input batch with
      | .error error => .error (error, some doc)
      | .ok _ =>
        if call.failing = some (.transition true) then
          .error (.internal, some (transition.apply doc))
        else if call.failing = some (.transition false) then .error (.internal, some doc)
        else if transition.filter doc then .ok (batch, transition.set doc)
        else if call.failing = some .probe then .error (.internal, some doc)
        else .error (.batchAlreadyResolving, some doc)

/-- A failed read of a policy leaves it empty. -/
def approvals : ApprovalMap := if call.failing = some .business then ∅ else call.businessApprovals

def overrides : ApprovalMap := if call.failing = some .project then ∅ else call.projectOverrides

def finalized (batch : PendingToolCallBatch) : List PendingCall :=
  finalize call.approvals call.overrides batch.calls call.input.decisions

/-- A failed write of the decisions is followed by `compensateResolving`. -/
def record (batch doc : PendingToolCallBatch) : Except HITLError ResolveResult × PendingToolCallBatch :=
  let recorded := (recordDecisions (call.finalized batch) call.recordedAt).set doc
  match call.failing with
  | some (.record applied) =>
    (.error .internal, (resetResolvingToPending call.resetAt).apply (if applied then recorded else doc))
  | _ => (.ok (resolveResult call.approvals call.overrides call.resolvedAt call.input batch.calls), recorded)

/-- The answer of a call and what is stored after it. -/
def resolve (cell : Option PendingToolCallBatch) : Except HITLError ResolveResult × Option PendingToolCallBatch :=
  match call.claim cell with
  | .error (error, stored) => (.error error, stored)
  | .ok (batch, doc) => ((call.record batch doc).1, some (call.record batch doc).2)

end ResolveCall

end OneVoice.Hitl
