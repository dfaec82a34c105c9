/- The deletion state of a user or a business, and the calls of `account_deletion.go` and
`business_deletion.go` side by side, each in its own transaction. An update waits for the lock of its
row and tests the row it then finds, a sweeper passes over locked rows, and `NOW()` is the start of a
transaction. -/

import OneVoice.Construction.Domain
import OneVoice.Library.RowLocks
import OneVoice.Library.Run
import OneVoice.Library.Table
import OneVoice.Library.Transaction
import OneVoice.Library.Uuid

namespace OneVoice.Deletion

open Domain Library

/-- The services differ in how a sweep handles a failed statement. -/
inductive Kind where
  | users
  | businesses
  deriving DecidableEq

/-- The label is the address of a user or the name of a business. -/
structure Row where
  label : String
  requestedAt : Option Time
  canceledAt : Option Time
  deletedAt : Option Time
  deriving DecidableEq

/-- Why a request or a cancellation is refused. -/
inductive Refusal where
  | notFound
  | alreadyPending
  | noDeletionPending
  | alreadyPurged
  deriving DecidableEq

variable (id : UUID) (row : Row)

namespace Row

/-- The condition of the update of a request. -/
def requestable : Bool := row.requestedAt.isNone || row.canceledAt.isSome

variable (now : Time)

def request : Row := { row with requestedAt := some now, deletedAt := some now, canceledAt := none }

/-- The condition of the update of a cancellation. -/
def cancellable (grace : Nat) : Bool :=
  row.canceledAt.isNone && row.requestedAt.any fun requested => (now : Int) - grace < requested

def cancel : Row := { row with canceledAt := some now, deletedAt := none }

/-- The condition of the enumeration. -/
def due (before : Int) : Bool := row.canceledAt.isNone && row.requestedAt.any fun requested => requested < before

end Row

/-- The read after a request that has matched no row. -/
def classifyRequest : Option Row → Refusal
  | none => .notFound
  | some row =>
    if row.requestedAt.isSome && row.canceledAt.isNone then .alreadyPending else .notFound

/-- After a cancellation that matched no row, a restored row is a success. -/
def classifyCancel : Option Row → Except Refusal Unit
  | none => .error .alreadyPurged
  | some row =>
    if row.requestedAt.isNone then .error .noDeletionPending
    else if row.canceledAt.isSome then .ok ()
    else .error .alreadyPurged

abbrev Rows := Table (Prod.fst : UUID × Row → UUID)

/-- The rows that the enumeration lists, the oldest request first. -/
def candidates (rows : List (UUID × Row)) (before : Int) : List (UUID × Row) :=
  (rows.filter (·.2.due before)).insertionSort fun first second =>
    first.2.requestedAt.getD 0 ≤ second.2.requestedAt.getD 0

def batchSize : Nat := 100

/-- The rows of one sweep. -/
def batch (table : Rows) (before : Int) : List (UUID × Row) := (candidates table.rows before).take batchSize

/-- A write of the sweeping transaction. -/
inductive Write where
  | audit (id : UUID) (label : String)
  | delete (id : UUID)
  deriving DecidableEq

/-- The statements of one row. -/
inductive Statement where
  | audit
  | delete
  deriving DecidableEq

/-- The audit row goes in before the row goes. -/
def purgeStatements (label : String) (failing : Option Statement) : List (Bool × Write) :=
  [(failing != some .audit, .audit id label), (failing != some .delete, .delete id)]

/-- Only the sweeper of the users sets a savepoint for a row. -/
def Kind.purge : Kind → Transaction Write → List (Bool × Write) → Transaction Write × Bool
  | .users => Transaction.nested
  | .businesses => Transaction.execAll

/-- The transaction of a sweep and the rows that it has counted. -/
structure Sweep where
  tx : Transaction Write
  purged : List (UUID × String)

def Sweep.start : Sweep := ⟨.start, []⟩

/-- One row of a sweep: unread in an aborted transaction, left if restored. -/
def Kind.sweepRow (kind : Kind) (sweep : Sweep) (id : UUID) (read : Option Row) (failing : Option Statement) : Sweep :=
  if sweep.tx.aborted then sweep
  else match read with
    | none => sweep
    | some row =>
      if row.canceledAt.isSome then sweep
      else
        let (tx, done) := kind.purge sweep.tx (purgeStatements id row.label failing)
        ⟨tx, if done then sweep.purged ++ [(id, row.label)] else sweep.purged⟩

def auditRows (writes : List Write) : List (UUID × String) :=
  writes.filterMap fun write =>
    match write with
    | .audit id label => some (id, label)
    | .delete _ => none

def deletedRows (writes : List Write) : List UUID :=
  writes.filterMap fun write =>
    match write with
    | .audit _ _ => none
    | .delete id => some id

/-- What a sweep returns and leaves. A failed commit leaves all as it was. -/
structure Outcome where
  count : Nat
  failed : Bool
  rows : Rows
  audit : List (UUID × String)

def Kind.hardDeleteSweeper (kind : Kind) (table : Rows) (before : Int) (failing : UUID → Option Statement) : Outcome :=
  let sweep := (batch table before).foldl
    (fun sweep entry => kind.sweepRow sweep entry.1 ((table.find entry.1).map Prod.snd) (failing entry.1)) .start
  match sweep.tx.commit with
  | none => ⟨0, true, table, []⟩
  | some writes =>
    ⟨sweep.purged.length, false,
      table.deleteWhere fun entry => (deletedRows writes).contains entry.1, auditRows writes⟩

/-- The position of a call. -/
inductive Phase where
  | idle
  | requesting (id : UUID) (now : Time)
  | written (id : UUID) (now : Time)
  | refusing (id : UUID)
  | cancelling (id : UUID) (now : Time)
  | classifying (id : UUID)
  | sweeping (began : Time)
  | selecting (began : Time) (rest taken : List UUID)
  | purging (began : Time) (todo : List UUID) (sweep : Sweep)
  | returned

/-- The rows with their locks, the clock, the calls, the audit. -/
structure State where
  rows : RowLocks UUID Row Nat
  now : Time
  calls : Nat → Phase
  audit : List (UUID × String)

inductive Event where
  | tick
  | beginRequest (call : Nat) (id : UUID)
  | update (call : Nat)
  | unrequested (call : Nat)
  | refused (call : Nat) (refusal : Refusal)
  | requested (call : Nat) (id : UUID) (now : Time)
  | beginCancel (call : Nat) (id : UUID)
  | cancelled (call : Nat) (id : UUID)
  | uncancelled (call : Nat)
  | confirmed (call : Nat) (id : UUID)
  | denied (call : Nat) (refusal : Refusal)
  | beginSweep (call : Nat)
  | enumerate (call : Nat)
  | visit (call : Nat)
  | selected (call : Nat)
  | purge (call : Nat) (failing : Option Statement)
  | swept (call : Nat)
  | stop (call : Nat)

namespace State

/-- No deletion has been requested, and no call is open. -/
def start (labels : Table (Prod.fst : UUID × String → UUID)) : State where
  rows := .unlocked fun id => (labels.find id).map fun entry => ⟨entry.2, none, none, none⟩
  now := 0
  calls := fun _ => .idle
  audit := []

variable (state : State)

def move (call : Nat) (phase : Phase) : State := { state with calls := Function.update state.calls call phase }

def withRows (rows : RowLocks UUID Row Nat) : State := { state with rows := rows }

/-- An update matches no row: the row is gone or fails its condition. -/
def unmatched (id : UUID) (condition : Row → Bool) : Bool := !(state.rows.row id).any condition

/-- A visited row is taken where it is still due and nobody has locked it. -/
def visit (grace : Nat) (call : Nat) (id : UUID) (began : Time) (rest taken : List UUID) : State :=
  if (state.rows.row id).any (·.due ((began : Int) - grace)) && (state.rows.holder id).isNone then
    (state.withRows (state.rows.acquire call id)).move call (.selecting began rest (taken ++ [id]))
  else state.move call (.selecting began rest taken)

/-- The end of a sweep; an aborted transaction rolls back. -/
def finish (call : Nat) (sweep : Sweep) : State :=
  match sweep.tx.commit with
  | none => (state.withRows (state.rows.release call)).move call .returned
  | some writes =>
    { (state.withRows (state.rows.commit call
        ((deletedRows writes).map fun id => (id, none)))).move call .returned with
      audit := state.audit ++ auditRows writes }

end State

section

variable (kind : Kind) (grace : Nat) (ids : List UUID)

/-- One step. A call may stop anywhere and is rolled back. -/
inductive Step : State → Event → State → Prop
  | tick {state later} (forward : state.now ≤ later) :
      Step state .tick { state with now := later }
  | beginRequest {state call id} (here : state.calls call = .idle) :
      Step state (.beginRequest call id) (state.move call (.requesting id state.now))
  | update {state call id now row} (here : state.calls call = .requesting id now)
      (free : state.rows.holder id = none) (found : state.rows.row id = some row)
      (meets : row.requestable = true) :
      Step state (.update call) ((state.withRows (state.rows.acquire call id)).move call (.written id now))
  | unrequested {state call id now} (here : state.calls call = .requesting id now)
      (misses : state.unmatched id Row.requestable = true) :
      Step state (.unrequested call) (state.move call (.refusing id))
  | refused {state call id} (here : state.calls call = .refusing id) :
      Step state (.refused call (classifyRequest (state.rows.row id))) (state.move call .returned)
  | requested {state call id now row}
      (here : state.calls call = .written id now) (found : state.rows.row id = some row) :
      Step state (.requested call id now)
        ((state.withRows (state.rows.commit call [(id, some (row.request now))])).move call .returned)
  | beginCancel {state call id} (here : state.calls call = .idle) :
      Step state (.beginCancel call id) (state.move call (.cancelling id state.now))
  | cancelled {state call id now row} (here : state.calls call = .cancelling id now)
      (free : state.rows.holder id = none) (found : state.rows.row id = some row)
      (meets : row.cancellable now grace = true) :
      Step state (.cancelled call id)
        ((state.withRows (state.rows.commit call [(id, some (row.cancel now))])).move call .returned)
  | uncancelled {state call id now} (here : state.calls call = .cancelling id now)
      (misses : state.unmatched id (·.cancellable now grace) = true) :
      Step state (.uncancelled call) (state.move call (.classifying id))
  | confirmed {state call id} (here : state.calls call = .classifying id)
      (restored : classifyCancel (state.rows.row id) = .ok ()) :
      Step state (.confirmed call id) (state.move call .returned)
  | denied {state call id refusal} (here : state.calls call = .classifying id)
      (no : classifyCancel (state.rows.row id) = .error refusal) :
      Step state (.denied call refusal) (state.move call .returned)
  | beginSweep {state call} (here : state.calls call = .idle) :
      Step state (.beginSweep call) (state.move call (.sweeping state.now))
  | enumerate {state call began} (here : state.calls call = .sweeping began) :
      Step state (.enumerate call)
        (state.move call (.selecting began
          ((candidates (ids.filterMap fun id => (state.rows.row id).map (id, ·))
            ((began : Int) - grace)).map Prod.fst) []))
  | visit {state call id began rest taken} (here : state.calls call = .selecting began (id :: rest) taken)
      (open_ : taken.length < batchSize) :
      Step state (.visit call) (state.visit grace call id began rest taken)
  | selected {state call began rest taken} (here : state.calls call = .selecting began rest taken)
      (full : rest = [] ∨ taken.length = batchSize) :
      Step state (.selected call) (state.move call (.purging began taken .start))
  | purge {state call id began todo sweep failing} (here : state.calls call = .purging began (id :: todo) sweep) :
      Step state (.purge call failing)
        (state.move call (.purging began todo (kind.sweepRow sweep id (state.rows.row id) failing)))
  | swept {state call began sweep} (here : state.calls call = .purging began [] sweep) :
      Step state (.swept call) (state.finish call sweep)
  | stop {state call} : Step state (.stop call) ((state.withRows (state.rows.release call)).move call .returned)

end

end OneVoice.Deletion
