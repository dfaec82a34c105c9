/- The credit ledger: its rows, the charge of one usage, the monthly grant, and the transactions
that the advisory lock of a business orders; and the daily spend of `repository/billing.go`. -/

import Mathlib.Data.Rat.Defs
import OneVoice.Library.Checks
import OneVoice.Library.Running
import OneVoice.Library.Uuid

namespace OneVoice.Billing

open Library

inductive CreditReason where
  | grant
  | consume
  | overage
  | refund
  | expire
  deriving DecidableEq, Repr

structure CreditLedgerEntry where
  businessID : UUID
  deltaCredits : Int
  balanceAfter : Int
  overageCredits : Int := 0
  reason : CreditReason
  usageLogID : Option UUID := none
  subscriptionPeriod : Option String := none
  idempotencyKey : Option String
  deriving DecidableEq, Repr

/-- A stored row carries the number that the identity column has given it. -/
structure Row extends CreditLedgerEntry where
  seq : Nat
  deriving DecidableEq, Repr

/-- The split of one charge against a balance. -/
structure Result where
  delta : Int
  balanceAfter : Int
  overageCredits : Int
  reason : CreditReason
  deriving DecidableEq, Repr

def compute (prevBalance consume : Int) : Result :=
  if consume ≤ 0 then
    { delta := 0, balanceAfter := max prevBalance 0, overageCredits := 0, reason := .consume }
  else if consume ≤ prevBalance then
    { delta := -consume, balanceAfter := prevBalance - consume, overageCredits := 0
      reason := .consume }
  else
    let drawn := if prevBalance < 0 then 0 else prevBalance
    { delta := -drawn, balanceAfter := 0, overageCredits := consume - drawn, reason := .overage }

/-- The credits that one usage row consumes. -/
def creditsPerUsage : Int := 1

def grantIdempotencyKey (businessID : UUID) (period : String) : String :=
  "grant:" ++ UUID.text businessID ++ ":" ++ period

def expireIdempotencyKey (businessID : UUID) (period : String) : String :=
  "expire:" ++ UUID.text businessID ++ ":" ++ period

/-- The lock of a business is the first eight bytes of its id. -/
def advisoryLockKey (id : UUID) : BitVec 64 := id.extractLsb' 64 64

/-- The `INTEGER` columns and the checks of the table. -/
def CreditLedgerEntry.storable (entry : CreditLedgerEntry) : Bool :=
  let fits (value : Int) : Bool := -2 ^ 31 ≤ value ∧ value < 2 ^ 31
  fits entry.deltaCredits && fits entry.balanceAfter && fits entry.overageCredits &&
    decide (0 ≤ entry.balanceAfter) && decide (0 ≤ entry.overageCredits)

/-- The ledger rows of one business. -/
def rowsOf (businessID : UUID) (rows : List Row) : List Row := rows.filter fun row => row.businessID = businessID

/-- The balance on the row with the greatest `seq`, or zero. -/
def currentBalance (rows : List Row) (businessID : UUID) : Int :=
  ((newest Row.seq (rowsOf businessID rows)).map fun row => row.balanceAfter).getD 0

def sumDeltas (rows : List Row) (businessID : UUID) : Int :=
  total (fun row => row.deltaCredits) (rowsOf businessID rows)

def hasKey (rows : List Row) (key : String) : Bool := rows.any fun row => row.idempotencyKey = some key

inductive Refusal where
  | businessRequired
  | periodRequired
  | constraint
  deriving DecidableEq, Repr

/-- An open transaction sees the committed rows and those it has inserted. -/
structure Tx where
  committed : List Row
  inserted : List Row := []
  nextSeq : Nat

variable (tx : Tx)

namespace Tx

def visible : List Row := tx.committed ++ tx.inserted

/-- A row whose key is taken is not inserted, but a number is used. -/
def append (entry : CreditLedgerEntry) : Except Refusal Tx := do
  require (entry.businessID ≠ 0) .businessRequired
  require entry.storable .constraint
  if entry.idempotencyKey.any (hasKey tx.visible) then
    return { tx with nextSeq := tx.nextSeq + 1 }
  else
    return { tx with
      inserted := tx.inserted ++ [{ entry with seq := tx.nextSeq }]
      nextSeq := tx.nextSeq + 1 }

def meterUsage (businessID usageLogID : UUID) : Except Refusal Tx := do
  require (businessID ≠ 0) .businessRequired
  let res := compute (currentBalance tx.visible businessID) creditsPerUsage
  tx.append
    { businessID := businessID
      deltaCredits := res.delta
      balanceAfter := res.balanceAfter
      overageCredits := res.overageCredits
      reason := res.reason
      usageLogID := some usageLogID
      idempotencyKey := some (UUID.text usageLogID) }

/-- The flag tells whether the period is granted by this call. -/
def grantMonthly (businessID : UUID) (monthlyCredits : Int) (period : String) :
    Except Refusal (Tx × Bool) := do
  require (businessID ≠ 0) .businessRequired
  require (period ≠ "") .periodRequired
  if monthlyCredits ≤ 0 then
    return (tx, false)
  else if hasKey tx.visible (grantIdempotencyKey businessID period) then
    return (tx, false)
  else
    let prevBalance := currentBalance tx.visible businessID
    let expired ←
      if 0 < prevBalance then
        tx.append
          { businessID := businessID
            deltaCredits := -prevBalance
            balanceAfter := 0
            reason := .expire
            subscriptionPeriod := some period
            idempotencyKey := some (expireIdempotencyKey businessID period) }
      else
        pure tx
    let granted ← expired.append
      { businessID := businessID
        deltaCredits := monthlyCredits
        balanceAfter := monthlyCredits
        reason := .grant
        subscriptionPeriod := some period
        idempotencyKey := some (grantIdempotencyKey businessID period) }
    return (granted, true)

end Tx

/-- The calls that open a transaction on the ledger. -/
inductive Call where
  | logUsage (businessID usageLogID : UUID)
  | meterUsage (businessID usageLogID : UUID)
  | grantMonthly (businessID : UUID) (monthlyCredits : Int) (period : String)
  deriving DecidableEq

namespace Call

def businessID : Call → UUID
  | .logUsage businessID _ => businessID
  | .meterUsage businessID _ => businessID
  | .grantMonthly businessID _ _ => businessID

/-- The usage row that the call inserts before it meters. -/
def usageRow : Call → Option UUID
  | .logUsage _ usageLogID => some usageLogID
  | .meterUsage _ _ => none
  | .grantMonthly _ _ _ => none

/-- The checks that stand before the lock. -/
def reachesLock : Call → Bool
  | .logUsage businessID _ => businessID ≠ 0
  | .meterUsage businessID _ => businessID ≠ 0
  | .grantMonthly businessID monthlyCredits period =>
    businessID ≠ 0 ∧ period ≠ "" ∧ 0 < monthlyCredits

def perform : Call → Except Refusal Tx
  | .logUsage businessID usageLogID => tx.meterUsage businessID usageLogID
  | .meterUsage businessID usageLogID => tx.meterUsage businessID usageLogID
  | .grantMonthly businessID monthlyCredits period =>
    (tx.grantMonthly businessID monthlyCredits period).map Prod.fst

end Call

/-- A call waits for its lock, holds it, and has written its rows. -/
inductive Phase where
  | waiting
  | locked
  | written (rows : List Row)
  deriving DecidableEq

structure Session where
  call : Call
  phase : Phase

namespace Session

def holdsLock (session : Session) : Prop := session.phase ≠ .waiting

def pending (session : Session) : List Row :=
  match session.phase with
  | .waiting => []
  | .locked => []
  | .written rows => rows

end Session

/-- The committed tables and the open transactions. -/
structure Server where
  ledger : List Row
  usageLogs : List UUID
  nextSeq : Nat
  sessions : Nat → Option Session

inductive Action where
  | start (id : Nat) (call : Call)
  | lock (id : Nat)
  | write (id : Nat)
  | commit (id : Nat)
  | rollback (id : Nat)
  deriving DecidableEq

namespace Server

def empty : Server where
  ledger := []
  usageLogs := []
  nextSeq := 1
  sessions := fun _ => none

def setSession (server : Server) (id : Nat) (session : Option Session) : Server :=
  { server with sessions := Function.update server.sessions id session }

/-- What holds of every other open transaction. -/
def Others (server : Server) (id : Nat) (holds : Session → Prop) : Prop :=
  ∀ other session, other ≠ id → server.sessions other = some session → holds session

/-- Usage rows, locks and keys of open transactions make others wait; a read under the lock and its
inserts are one step. -/
inductive Step : Server → Action → Server → Prop
  | start {server : Server} {id} {call : Call} : server.sessions id = none →
      (∀ usage, call.usageRow = some usage → (∀ logged ∈ server.usageLogs, logged ≠ usage) ∧
        server.Others id fun session => session.call.usageRow ≠ some usage) →
        Step server (.start id call) (server.setSession id (some ⟨call, .waiting⟩))
  | lock {server : Server} {id} {call : Call} :
      server.sessions id = some ⟨call, .waiting⟩ → call.reachesLock = true →
      (server.Others id fun session => session.holdsLock →
        advisoryLockKey session.call.businessID ≠ advisoryLockKey call.businessID) →
        Step server (.lock id) (server.setSession id (some ⟨call, .locked⟩))
  | write {server : Server} {id} {call : Call} {tx : Tx} : server.sessions id = some ⟨call, .locked⟩ →
      call.perform { committed := server.ledger, nextSeq := server.nextSeq } = .ok tx →
      (server.Others id fun session => ∀ row ∈ tx.inserted, ∀ held ∈ session.pending,
        row.idempotencyKey ≠ held.idempotencyKey) →
        Step server (.write id)
          { server.setSession id (some ⟨call, .written tx.inserted⟩) with nextSeq := tx.nextSeq }
  | commit {server : Server} {id} {call : Call} {rows} :
      server.sessions id = some ⟨call, .written rows⟩ →
        Step server (.commit id)
          { server.setSession id none with
            ledger := server.ledger ++ rows
            usageLogs := server.usageLogs ++ call.usageRow.toList }
  | rollback {server : Server} {id session} :
      server.sessions id = some session → Step server (.rollback id) (server.setSession id none)

end Server

structure UsageLog where
  businessID : UUID
  providerCostUSD : ℚ
  commissionUSD : ℚ
  createdAt : Int

/-- An instant in nanoseconds since 1970 in UTC, with its location's offset. -/
structure ZonedTime where
  instant : Int
  offset : Int

def dayWindow : Int := 24 * 60 * 60 * 1000000000

/-- The calendar of package `time`: dates, day numbers, and layout `2006-01-02`. -/
structure Calendar (Date Key : Type) where
  date : Int → Date
  number : Date → Int
  format : Date → Key
  number_date : ∀ day, number (date day) = day
  format_injective : Function.Injective format

variable {Date Key : Type} (calendar : Calendar Date Key)

namespace ZonedTime

def utc (day : ZonedTime) : ZonedTime := ⟨day.instant, 0⟩

/-- What `Year`, `Month` and `Day` read off the local clock. -/
def date (day : ZonedTime) : Date := calendar.date ((day.instant + day.offset) / dayWindow)

end ZonedTime

def UsageLog.cost (log : UsageLog) : ℚ := log.providerCostUSD + log.commissionUSD

def getDailySpend (logs : List UsageLog) (businessID : UUID) (day : ZonedTime) : ℚ :=
  let dayUTC := calendar.number (day.date calendar) * dayWindow
  (logs.filter fun log => log.businessID = businessID ∧ dayUTC ≤ log.createdAt ∧
    log.createdAt < dayUTC + dayWindow).foldl (fun total log => total + log.cost) 0

/-- The key under which the cache keeps a reading. -/
def dayKey (day : ZonedTime) : Key := calendar.format (day.utc.date calendar)

/-- The spend of the records whose own instant has the key. -/
def spendUnder [DecidableEq Key] (logs : List UsageLog) (businessID : UUID) (key : Key) : ℚ :=
  (logs.filter fun log => log.businessID = businessID ∧
    dayKey calendar ⟨log.createdAt, 0⟩ = key).foldl (fun total log => total + log.cost) 0

end OneVoice.Billing
