/- The statements of `repository/email_outbox.go` and the worker of `wire/email.go`, which has one
statement or one call of the sender under way at a time. -/

import OneVoice.Construction.Domain
import OneVoice.Library.Table
import OneVoice.Library.Uuid

namespace OneVoice.Email

open Library Domain

structure Message where
  toEmail : String
  subject : String
  bodyText : String
  bodyHTML : String
  deriving DecidableEq

inductive Status where
  | pending
  | sent
  | failed
  | canceled
  deriving DecidableEq

structure Row where
  id : UUID
  toEmail : String
  subject : String
  bodyText : String
  bodyHTML : Option String
  businessID : Option UUID
  status : Status
  attempts : Nat
  nextAttemptAt : Time

/-- A pending row as the worker has read it. -/
structure OutboxRow where
  id : UUID
  message : Message
  attempts : Nat

variable (now : Time) (row : Row)

namespace Row

def message : Message := ⟨row.toEmail, row.subject, row.bodyText, row.bodyHTML.getD ""⟩

def scrub : Row := { row with bodyText := "", bodyHTML := none }

def due : Bool := row.status == .pending && decide (row.nextAttemptAt ≤ now)

end Row

abbrev Outbox := Table Row.id

def outboxBatchLimit : Nat := 25

def outboxBackoffBase : Nat := 2

/-- The delay before an attempt, in minutes of 60000 milliseconds. -/
def backoff (newAttempts : Nat) : Time := Nat.pow outboxBackoffBase newAttempts * 60000

structure OutboxEnqueueInput where
  message : Message
  businessID : Option UUID

namespace Outbox

variable (outbox : Outbox) (id : UUID)

/-- The insertion of a row, due at once or from the given instant on. -/
def enqueue (input : OutboxEnqueueInput) (nextAttemptAt : Time) : Option Outbox :=
  outbox.insert
    { id := id
      toEmail := input.message.toEmail
      subject := input.message.subject
      bodyText := input.message.bodyText
      bodyHTML := some input.message.bodyHTML
      businessID := input.businessID
      status := .pending
      attempts := 0
      nextAttemptAt := nextAttemptAt }

/-- The due rows, oldest first. -/
def drainPending (now : Time) (limit : Nat) : List OutboxRow :=
  (((outbox.rows.filter (Row.due now)).insertionSort fun first second =>
    first.nextAttemptAt ≤ second.nextAttemptAt).take limit).map fun row =>
      ⟨row.id, row.message, row.attempts⟩

/-- Every update of a status has the guard that the row is still pending. -/
def updatePending (condition : Row → Bool) (change : Row → Row)
    (keeps : ∀ row, (change row).id = row.id) : Outbox :=
  outbox.updateWhere (fun row => condition row && row.status == .pending) change keeps

def cancelPendingBySubjectAndRecipient (toEmail subject : String) : Outbox :=
  outbox.updatePending (fun row => row.toEmail == toEmail && row.subject == subject)
    (fun row => { row.scrub with status := .canceled }) fun _ => rfl

def cancelPendingBusinessT7ByRecipient (toEmail subject : String) (businessID : UUID) : Outbox :=
  outbox.updatePending
    (fun row => row.toEmail == toEmail && row.subject == subject && row.businessID == some businessID)
    (fun row => { row.scrub with status := .canceled }) fun _ => rfl

def markSent : Outbox :=
  outbox.updatePending (fun row => row.id == id)
    (fun row => { row.scrub with status := .sent, attempts := row.attempts + 1 }) fun _ => rfl

def markFailed : Outbox :=
  outbox.updatePending (fun row => row.id == id)
    (fun row => { row.scrub with status := .failed, attempts := row.attempts + 1 }) fun _ => rfl

def reschedule (currentAttempts maxAttempts : Nat) (now : Time) : Outbox :=
  let newAttempts := currentAttempts + 1
  if newAttempts ≥ maxAttempts then
    outbox.updatePending (fun row => row.id == id)
      (fun row => { row.scrub with status := .failed, attempts := newAttempts }) fun _ => rfl
  else
    outbox.updatePending (fun row => row.id == id)
      (fun row => { row with attempts := newAttempts, nextAttemptAt := now + backoff newAttempts })
      fun _ => rfl

/-- The bodies go also where the row stays pending. -/
def rescheduleStrandedSent (currentAttempts maxAttempts : Nat) (now : Time) : Outbox :=
  let newAttempts := currentAttempts + 1
  if newAttempts ≥ maxAttempts then
    outbox.updatePending (fun row => row.id == id)
      (fun row => { row.scrub with status := .failed, attempts := newAttempts }) fun _ => rfl
  else
    outbox.updatePending (fun row => row.id == id)
      (fun row => { row.scrub with
        attempts := newAttempts
        nextAttemptAt := now + backoff newAttempts }) fun _ => rfl

end Outbox

inductive SendResult where
  | accepted
  | permanent
  | transient
  deriving DecidableEq

/-- What the worker does with the first row of its batch. -/
inductive Phase where
  | ready
  | accepted
  | stranded
  | permanent
  | transient
  deriving DecidableEq

def SendResult.phase : SendResult → Phase
  | .accepted => .accepted
  | .permanent => .permanent
  | .transient => .transient

structure State where
  now : Time
  outbox : Outbox
  batch : List OutboxRow
  phase : Phase

/-- A write carries whether Postgres applied it; the worker may see an error. -/
inductive Action where
  | tick (later : Time)
  | enqueue (id : UUID) (input : OutboxEnqueueInput) (nextAttemptAt : Time)
  | cancel (toEmail subject : String)
  | cancelBusiness (toEmail subject : String) (businessID : UUID)
  | drain
  | send (row : OutboxRow) (result : SendResult)
  | markSent (id : UUID) (applied reported : Bool)
  | rescheduleStrandedSent (id : UUID) (applied : Bool)
  | markFailed (id : UUID) (applied : Bool)
  | reschedule (id : UUID) (applied : Bool)
  | stop

namespace State

/-- The worker turns to the rest of its batch. -/
def settle (state : State) (outbox : Outbox) (rest : List OutboxRow) : State :=
  { state with outbox := outbox, batch := rest, phase := .ready }

def start : State := ⟨now, ⟨[], List.nodup_nil⟩, [], .ready⟩

end State

inductive Step (maxAttempts : Nat) : State → Action → State → Prop
  | tick {state : State} {later} :
      state.now ≤ later → Step maxAttempts state (.tick later) { state with now := later }
  | enqueue {state : State} {id input nextAttemptAt outbox} :
      state.outbox.enqueue id input nextAttemptAt = some outbox →
        Step maxAttempts state (.enqueue id input nextAttemptAt) { state with outbox := outbox }
  | cancel {state : State} (toEmail subject : String) :
      Step maxAttempts state (.cancel toEmail subject)
        { state with outbox := state.outbox.cancelPendingBySubjectAndRecipient toEmail subject }
  | cancelBusiness {state : State} (toEmail subject : String) (businessID : UUID) :
      Step maxAttempts state (.cancelBusiness toEmail subject businessID)
        { state with
          outbox := state.outbox.cancelPendingBusinessT7ByRecipient toEmail subject businessID }
  | drain {state : State} :
      state.batch = [] → state.phase = .ready →
        Step maxAttempts state .drain { state with batch := state.outbox.drainPending state.now outboxBatchLimit }
  | send {state : State} {row rest} (result : SendResult) :
      state.batch = row :: rest → state.phase = .ready →
        Step maxAttempts state (.send row result) { state with phase := result.phase }
  | markSent {state : State} {row : OutboxRow} {rest} :
      state.batch = row :: rest → state.phase = .accepted →
        Step maxAttempts state (.markSent row.id true true) (state.settle (state.outbox.markSent row.id) rest)
  /-- The write of the status fails, or its answer is lost. -/
  | markSentFailed {state : State} {row : OutboxRow} {rest} (applied : Bool) :
      state.batch = row :: rest → state.phase = .accepted →
        Step maxAttempts state (.markSent row.id applied false)
          { state with
            outbox := if applied then state.outbox.markSent row.id else state.outbox
            phase := .stranded }
  | rescheduleStrandedSent {state : State} {row : OutboxRow} {rest} (applied : Bool) :
      state.batch = row :: rest → state.phase = .stranded →
        Step maxAttempts state (.rescheduleStrandedSent row.id applied)
          (state.settle
            (if applied then
              state.outbox.rescheduleStrandedSent row.id row.attempts maxAttempts state.now
            else state.outbox) rest)
  | markFailed {state : State} {row : OutboxRow} {rest} (applied : Bool) :
      state.batch = row :: rest → state.phase = .permanent →
        Step maxAttempts state (.markFailed row.id applied)
          (state.settle (if applied then state.outbox.markFailed row.id else state.outbox) rest)
  | reschedule {state : State} {row : OutboxRow} {rest} (applied : Bool) :
      state.batch = row :: rest → state.phase = .transient →
        Step maxAttempts state (.reschedule row.id applied)
          (state.settle
            (if applied then
              state.outbox.reschedule row.id row.attempts maxAttempts state.now
            else state.outbox) rest)
  /-- The process ends between any two calls. -/
  | stop {state : State} :
      Step maxAttempts state .stop { state with batch := [], phase := .ready }

end OneVoice.Email
