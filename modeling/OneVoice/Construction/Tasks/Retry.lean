/- The `Retry` calls on one task of `service/agent_task.go`, the update of its repository, and the
agent. All calls carry one approval identifier, so the agent's gate is one dispatch system. -/

import OneVoice.Construction.Review.Service

namespace OneVoice.Tasks

open Library Domain Dedupe

inductive TaskStatus where
  | running
  | done
  | error
  deriving DecidableEq

inductive VerificationStatus where
  | pending
  | running
  | verified
  | mismatch
  | unverifiable
  | error
  | unsupported
  deriving DecidableEq

/-- A record of one dispatched tool, with argument maps only. -/
structure AgentTask where
  id : String
  type : String := ""
  platform : String := ""
  input : Option Args := none
  status : TaskStatus
  output : Option Args := none
  error : String := ""
  errorCode : String := ""
  dispatchApprovalID : String := ""
  verificationStatus : Option VerificationStatus := none
  verificationExpected : StringMap String := ∅
  verificationTarget : String := ""
  verificationAttempt : Nat := 0
  completedAt : Option Time := none
  dismissedAt : Option Time := none

/-- The expected values, the target and the status of a write's check. -/
structure Intent where
  expected : StringMap String
  target : String
  status : VerificationStatus

variable (args : Args) (task : AgentTask)

def stringArg (name : String) : Option String :=
  (args.lookup name).bind fun value =>
    match value with
    | .str text => some text
    | _ => none

/-- The intent of a tool that writes one field. -/
def singleIntent (target argument field : String) : Option Intent := do
  let target ← stringArg args target
  let value ← stringArg args argument
  pure ⟨(∅ : StringMap String).insert field value, target, .pending⟩

def groupExpected : StringMap String :=
  let named := ["title", "description", "website"].foldl (fun expected field =>
    match stringArg args field with
    | none => expected
    | some value => expected.insert field value) ∅
  match stringArg args "phone" with
  | none => named
  | some phone => if phone = "" then named else named.insert "phone" phone

def groupIntent : Option Intent := do
  let target ← stringArg args "group_id"
  if (groupExpected args).entries.isEmpty then none
  else pure ⟨groupExpected args, target, .pending⟩

def verificationIntent (platform type : String) (input : Option Args) : Intent :=
  match input with
  | none => ⟨∅, "", .unverifiable⟩
  | some args =>
    let intent := match platform ++ "__" ++ type with
      | "telegram__sync_title" => singleIntent args "channel_id" "name" "title"
      | "telegram__sync_description" => singleIntent args "channel_id" "description" "description"
      | "vk__update_group_info" | "vk__sync_info" => groupIntent args
      | "yandex_business__update_hours" | "yandex_business__sync_hours" =>
        singleIntent args "permalink" "hours" "schedule"
      | _ => none
    intent.getD ⟨∅, "", .unsupported⟩

namespace AgentTask

/-- Present fields are written, whatever the status; an empty result as null. -/
def update (stored task : AgentTask) : AgentTask :=
  { stored with
    status := task.status
    output := match task.output with
      | none => stored.output
      | some result => if result.entries.isEmpty then none else some result
    error :=
      if task.status = .done then "" else if task.error ≠ "" then task.error else stored.error
    errorCode :=
      if task.status = .done then ""
      else if task.errorCode ≠ "" then task.errorCode
      else stored.errorCode
    verificationStatus :=
      if task.status = .error then none
      else task.verificationStatus.orElse fun _ => stored.verificationStatus
    verificationExpected :=
      if task.verificationExpected.entries.isEmpty then stored.verificationExpected
      else task.verificationExpected
    verificationTarget :=
      if task.verificationTarget = "" ∧ task.verificationExpected.entries.isEmpty then
        stored.verificationTarget
      else task.verificationTarget
    verificationAttempt :=
      if 0 < task.verificationAttempt then task.verificationAttempt
      else stored.verificationAttempt
    completedAt := task.completedAt.orElse fun _ => stored.completedAt }

def retryableErrorCodes : List String := ["transient", "rate_limit_exceeded", "channel_not_found"]

/-- The checks with which `Retry` begins. -/
def retryable : Bool :=
  task.dismissedAt.isNone && task.status == .error && retryableErrorCodes.contains task.errorCode

/-- The task as `freezeRetryIntent` writes it; most tools have no intent. -/
def freezeRetryIntent : Option AgentTask :=
  let intent := verificationIntent task.platform task.type task.input
  if task.verificationExpected.entries.isEmpty = false then none
  else if intent.expected.entries.isEmpty ∨ intent.target = "" ∨ intent.status = .unsupported then
    none
  else some { task with
    verificationExpected := intent.expected
    verificationTarget := intent.target
    verificationStatus := none }

def retryApprovalID : String :=
  if task.dispatchApprovalID ≠ "" then task.dispatchApprovalID else "task-retry-" ++ task.id

/-- The tool and its arguments, if the task still has both. -/
def rebuildToolRequest : Option (String × Args) :=
  if task.platform = "" ∨ task.type = "" then none
  else task.input.map fun args => (task.platform ++ "__" ++ task.type, args)

/-- The task as `scheduleVerification` writes it back. -/
def scheduleVerification : Option AgentTask :=
  if task.verificationExpected.entries.isEmpty ∨ task.verificationTarget = "" ∨
      task.verificationStatus = some .unsupported then none
  else some { task with
    verificationStatus := some .pending
    verificationAttempt := task.verificationAttempt + 1 }

end AgentTask

structure DispatchError where
  message : String
  code : String

/-- The reply of an agent to a returned call; an error has text and code. -/
def reply {Error : Type} (describe : Error → String × String) (taskID : String) :
    Option ToolResponse → Option Error → ToolResponse
  | _, some error => ⟨taskID, false, ∅, (describe error).1, (describe error).2⟩
  | none, none => ⟨taskID, false, ∅, "handler returned nil response and nil error", "transient"⟩
  | some response, none => response

/-- What `dispatchToolWithApproval` makes of a decoded reply. -/
def dispatchOutcome (response : ToolResponse) : Except DispatchError Args :=
  if response.success then .ok response.result
  else .error ⟨"agent error: " ++ response.error, response.code⟩

/-- The update with which `persistRetryOutcome` records an outcome. -/
def retryOutcome (outcome : Except DispatchError Args) (now : Time) : AgentTask :=
  match outcome with
  | .ok result =>
    { id := task.id, status := .done, output := some result, completedAt := some now }
  | .error failure =>
    { id := task.id
      status := .error
      error := failure.message
      errorCode := failure.code
      completedAt := some now }

inductive Phase where
  | loaded
  | ready
  | sent
  | answered (outcome : Except DispatchError Args)
  | recorded
  | reloaded
  | ended

/-- A call of `Retry` with the task as it has loaded it last. -/
structure Retry where
  task : AgentTask
  phase : Phase

/-- The stored task, the calls, the requests under way, and the gate. -/
structure Service (Error : Type) where
  task : AgentTask
  retries : Nat → Option Retry
  sent : Nat → Bool
  agent : Dispatches Error

inductive Action (Error : Type) where
  | load (id : Nat)
  | freeze (id : Nat)
  | send (id : Nat)
  | agent (event : Dedupe.Event Error)
  | answer (id : Nat)
  | lost (id : Nat) (message : String)
  | record (id : Nat) (now : Time)
  | reload (id : Nat)
  | schedule (id : Nat)
  | stop (id : Nat)

namespace Service

variable {Error : Type}

variable (service : Service Error)

def move (id : Nat) (retry : Retry) : Service Error :=
  { service with retries := Function.update service.retries id (some retry) }

def write (task : AgentTask) : Service Error := { service with task := service.task.update task }

/-- No retry has begun, but earlier dispatches may be under way. -/
def start (task : AgentTask) (sent : Nat → Bool) (now : Time) : Service Error :=
  ⟨task, fun _ => none, sent, .start now⟩

end Service

/-- One step of the calls; every write and reading of the task is one. -/
inductive Step {Error : Type} (requests : Nat → Dedupe.Call Error) (describe : Error → String × String) :
    Service Error → Action Error → Service Error → Prop
  | load {service : Service Error} {id} :
      service.retries id = none → service.sent id = false → service.task.retryable = true →
        Step requests describe service (.load id) (service.move id ⟨service.task, .loaded⟩)
  | freeze {service : Service Error} {id} {task frozen : AgentTask} :
      service.retries id = some ⟨task, .loaded⟩ → task.freezeRetryIntent = some frozen →
        Step requests describe service (.freeze id) ((service.move id ⟨frozen, .ready⟩).write frozen)
  | unfrozen {service : Service Error} {id} {task : AgentTask} :
      service.retries id = some ⟨task, .loaded⟩ → task.freezeRetryIntent = none →
        Step requests describe service (.freeze id) (service.move id ⟨task, .ready⟩)
  | send {service : Service Error} {id} {task : AgentTask} {request} :
      service.retries id = some ⟨task, .ready⟩ → task.rebuildToolRequest = some request →
        Step requests describe service (.send id)
          { service.move id ⟨task, .sent⟩ with sent := Function.update service.sent id true }
  /-- The agent works on the requests it got, also after the caller gave up. -/
  | agent {service : Service Error} {event next} :
      (∀ call, Reviews.eventCall event = some call → service.sent call = true) →
      Dedupe.Step requests service.task.retryApprovalID service.agent event next →
        Step requests describe service (.agent event) { service with agent := next }
  | answer {service : Service Error} {id task response error decoded} : service.retries id = some ⟨task, .sent⟩ →
      service.agent.calls id = .returned response error →
      ToolResponse.decode (reply describe (requests id).taskID response error).encode = some decoded →
        Step requests describe service (.answer id) (service.move id ⟨task, .answered (dispatchOutcome decoded)⟩)
  /-- The request could not be sent, or the wait ends without an answer. -/
  | lost {service : Service Error} {id task} (message : String) :
      service.retries id = some ⟨task, .sent⟩ →
        Step requests describe service (.lost id message) (service.move id ⟨task, .answered (.error ⟨message, ""⟩)⟩)
  | record {service : Service Error} {id task result} (now : Time) :
      service.retries id = some ⟨task, .answered (.ok result)⟩ →
        Step requests describe service (.record id now)
          ((service.move id ⟨task, .recorded⟩).write (retryOutcome task (.ok result) now))
  | fail {service : Service Error} {id task failure} (now : Time) :
      service.retries id = some ⟨task, .answered (.error failure)⟩ →
        Step requests describe service (.record id now)
          ((service.move id ⟨task, .ended⟩).write (retryOutcome task (.error failure) now))
  | reload {service : Service Error} {id task} :
      service.retries id = some ⟨task, .recorded⟩ →
        Step requests describe service (.reload id) (service.move id ⟨service.task, .reloaded⟩)
  | schedule {service : Service Error} {id} {task scheduled : AgentTask} :
      service.retries id = some ⟨task, .reloaded⟩ → task.scheduleVerification = some scheduled →
        Step requests describe service (.schedule id) ((service.move id ⟨scheduled, .ended⟩).write scheduled)
  /-- A refusal, a failed read or write or a crash ends the call. -/
  | stop {service : Service Error} {id} {retry : Retry} :
      service.retries id = some retry →
        Step requests describe service (.stop id) (service.move id ⟨retry.task, .ended⟩)

end OneVoice.Tasks
