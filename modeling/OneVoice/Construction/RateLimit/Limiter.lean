/- The rate limiter of one user: the gates of a tier, the two scripts, and the calls that use them. -/

import Mathlib.Algebra.Order.Ring.Unbundled.Rat
import OneVoice.Library.Counters
import OneVoice.Library.Uuid

namespace OneVoice.RateLimit

open Library

/-- The counter store with its clock in milliseconds. -/
structure Redis where
  now : Nat
  keys : String → Counter

namespace Redis

def empty (now : Nat) : Redis where
  now := now
  keys := fun _ => none

def get (redis : Redis) (key : String) : Option Int := (redis.keys key).get redis.now

def pttl (redis : Redis) (key : String) : Int := (redis.keys key).pttl redis.now

def incrBy (redis : Redis) (key : String) (increment : Int) : Redis :=
  { redis with
    keys := Function.update redis.keys key ((redis.keys key).incrBy redis.now increment) }

def pexpire (redis : Redis) (key : String) (ttl : Nat) : Redis :=
  { redis with keys := Function.update redis.keys key ((redis.keys key).pexpire redis.now ttl) }

end Redis

/-- One gate of a reservation. The time to live counts milliseconds. -/
structure Bucket where
  key : String
  increment : Int
  reserved : Int
  limit : Int
  ttl : Nat

/-- The increment stamps a deadline only when the key has none. -/
def incrWithExpiryScript (redis : Redis) (key : String) (increment : Int) (ttl : Nat) : Redis :=
  let redis := redis.incrBy key increment
  if redis.pttl key < 0 then redis.pexpire key ttl else redis

/-- A missing deadline is repaired. -/
def repairExpiry (redis : Redis) (bucket : Bucket) : Redis :=
  if redis.pttl bucket.key = -1 then redis.pexpire bucket.key bucket.ttl else redis

/-- Count, charge and reserved part stay within the limit. -/
def Bucket.fits (redis : Redis) (bucket : Bucket) : Bool :=
  let count := (redis.get bucket.key).getD 0
  !decide (bucket.limit < count + bucket.increment + bucket.reserved)

/-- The reservation's first loop reads the count, heals and compares. -/
def checkBucket (found : Redis × Bool) (bucket : Bucket) : Redis × Bool :=
  (repairExpiry found.1 bucket, found.2 && bucket.fits found.1)

/-- The second loop of the reservation charges the gate. -/
def chargeBucket (redis : Redis) (bucket : Bucket) : Redis :=
  incrWithExpiryScript redis bucket.key bucket.increment bucket.ttl

def reserveChargeScript (redis : Redis) (buckets : List Bucket) : Redis × Bool :=
  let checked := buckets.foldl checkBucket (redis, true)
  if checked.2 then (buckets.foldl chargeBucket checked.1, true) else (checked.1, false)

structure Limits where
  requestsPerMin : Int
  tokensPerMin : Int
  tokensPerMonth : Int
  dailySpendUSD : Rat

variable (userID : UUID) (limits : Limits)

def Limits.isUnlimited : Bool :=
  limits.requestsPerMin = -1 ∧ limits.tokensPerMin = -1 ∧ limits.tokensPerMonth = -1 ∧ limits.dailySpendUSD = -1

/-- A tier without an entry is unknown. -/
abbrev TierLimits := String → Option Limits

/-- The estimate of a request: its messages and what every call resends. -/
structure TokenCharge where
  variableTokens : Nat
  stableTokens : Nat

def TokenCharge.total (charge : TokenCharge) : Nat := charge.variableTokens + charge.stableTokens

/-- A reading of the clock in UTC, with the nanoseconds left of its month. -/
structure Instant where
  year : Nat
  month : Nat
  untilNextMonth : Nat
  inside : 0 < untilNextMonth

/-- The layout `2006-01`. -/
def Instant.format (instant : Instant) : String :=
  let pad (width value : Nat) : String :=
    let digits := toString value
    "".pushn '0' (width - digits.length) ++ digits
  pad 4 instant.year ++ "-" ++ pad 2 instant.month

def nanosecondsPerMillisecond : Nat := 1000000

def minuteMilliseconds : Nat := 60000

def requestsMinKey : String := "ratelimit:" ++ UUID.text userID ++ ":requests:min"

def tokensMinKey : String := "ratelimit:" ++ UUID.text userID ++ ":tokens:min"

def tokensMonthKey (instant : Instant) : String :=
  "ratelimit:" ++ UUID.text userID ++ ":tokens:month:" ++ instant.format

/-- The time to live of a month counter in whole milliseconds. -/
def monthTTL (instant : Instant) : Nat := instant.untilNextMonth / nanosecondsPerMillisecond

/-- The gates of a reservation; only positive limits are enabled. -/
def enabledBuckets (charge : TokenCharge) (instant : Instant) : List Bucket :=
  [ { key := requestsMinKey userID, increment := 1, reserved := 0
      limit := limits.requestsPerMin, ttl := minuteMilliseconds },
    { key := tokensMinKey userID, increment := charge.variableTokens
      reserved := charge.stableTokens, limit := limits.tokensPerMin, ttl := minuteMilliseconds },
    { key := tokensMonthKey userID instant, increment := charge.total, reserved := 0
      limit := limits.tokensPerMonth, ttl := monthTTL instant } ].filter
    fun bucket => 0 < bucket.limit

/-- A cap that is not positive is disabled. -/
def exceedsAlone (total : Int) (caps : List Int) : Bool := caps.any fun cap => 0 < cap ∧ cap < total

inductive LimitError where
  | unknownTier (tier : String)
  | rateLimitUnavailable
  | rateLimitExceeded
  | dailySpendExceeded
  deriving DecidableEq

def dailySpendEpsilon : Rat := 1 / 1000000000

inductive RedisDownPolicy where
  | block
  | localFallback
  | other
  deriving DecidableEq

/-- The answer of the script arrives, or the exchange fails after or before the script has run. -/
inductive Exchange where
  | answered
  | lost
  | unreached
  deriving DecidableEq

/-- What a call reads beside the counters; the spend and the local bucket may be absent. -/
structure LimitCall where
  businessID : UUID
  instant : Instant
  spend : Option (Option Rat)
  charge : TokenCharge
  exchange : Exchange := .answered
  redisDownPolicy : RedisDownPolicy := .block
  localBucket : Option Bool := none

def handleRedisError (call : LimitCall) : Except LimitError Bool :=
  match call.redisDownPolicy, call.localBucket with
  | .localFallback, some true => .ok true
  | .localFallback, some false => .error .rateLimitExceeded
  | _, _ => .error .rateLimitUnavailable

def reserveCharge (redis : Redis) (userID : UUID) (limits : Limits) (call : LimitCall) :
    Redis × Except LimitError Bool :=
  let buckets := enabledBuckets userID limits call.charge call.instant
  if buckets.isEmpty then (redis, .ok true)
  else
    let script := reserveChargeScript redis buckets
    match call.exchange with
    | .answered => (script.1, .ok script.2)
    | .lost => (script.1, handleRedisError call)
    | .unreached => (redis, handleRedisError call)

/-- The daily-spend gate runs before any effect on the counters. -/
def dailySpendGate (call : LimitCall) : Option LimitError :=
  match call.spend with
  | none => none
  | some spend =>
    if 0 < limits.dailySpendUSD ∧ call.businessID ≠ 0 then
      match spend with
      | none => some .rateLimitUnavailable
      | some spend =>
        if limits.dailySpendUSD ≤ spend + dailySpendEpsilon then some .dailySpendExceeded
        else none
    else
      none

def checkLimit (tierLimits : TierLimits) (redis : Redis) (userID : UUID) (tier : String)
    (call : LimitCall) : Redis × Except LimitError Bool :=
  match tierLimits tier with
  | none => if userID = 0 then (redis, .ok true) else (redis, .error (.unknownTier tier))
  | some limits =>
    if limits.isUnlimited then
      (redis, .ok true)
    else
      match dailySpendGate limits call with
      | some error => (redis, .error error)
      | none =>
        if userID ≠ 0 ∧ exceedsAlone call.charge.total [limits.tokensPerMin, limits.tokensPerMonth] then
          (redis, .ok false)
        else if userID = 0 then
          (redis, .ok true)
        else
          reserveCharge redis userID limits call

def recordTokens (tierLimits : TierLimits) (redis : Redis) (userID : UUID) (tier : String)
    (instant : Instant) (deltaTokens : Int) : Redis :=
  if deltaTokens ≤ 0 ∨ userID = 0 then
    redis
  else
    match tierLimits tier with
    | none => redis
    | some limits =>
      if limits.isUnlimited ∨ limits.tokensPerMonth ≤ 0 then
        redis
      else
        incrWithExpiryScript redis (tokensMonthKey userID instant) deltaTokens (monthTTL instant)

/-- The gates that are enabled for a call. The system caller has none. -/
def gates (tierLimits : TierLimits) (userID : UUID) (tier : String) (call : LimitCall) : List Bucket :=
  match tierLimits tier with
  | none => []
  | some limits =>
    if userID = 0 then [] else enabledBuckets userID limits call.charge call.instant

/-- The label of a check carries its answer. -/
inductive Action where
  | checkLimit (call : LimitCall) (answer : Except LimitError Bool)
  | recordTokens (instant : Instant) (deltaTokens : Int)
  | passed (milliseconds : Nat)

namespace Action

def admitted : Action → Bool
  | .checkLimit _ (.ok true) => true
  | _ => false

/-- The exchange of a check with Redis did not fail. -/
def answered : Action → Prop
  | .checkLimit call _ => call.exchange = .answered
  | _ => True

/-- The tokens that an admitted call adds to the minute window. -/
def reservedTokens : Action → Int
  | .checkLimit call (.ok true) => call.charge.variableTokens
  | _ => 0

end Action

/-- A call is the step of its script; its clock can be older. -/
inductive Step (tierLimits : TierLimits) (userID : UUID) (tier : String) :
    Redis → Action → Redis → Prop
  | checkLimit {redis} (call : LimitCall) :
      Step tierLimits userID tier redis (.checkLimit call (checkLimit tierLimits redis userID tier call).2)
        (checkLimit tierLimits redis userID tier call).1
  | recordTokens {redis} (instant : Instant) (deltaTokens : Int) :
      Step tierLimits userID tier redis (.recordTokens instant deltaTokens)
        (recordTokens tierLimits redis userID tier instant deltaTokens)
  | passed {redis : Redis} (milliseconds : Nat) :
      Step tierLimits userID tier redis (.passed milliseconds) { redis with now := redis.now + milliseconds }

end OneVoice.RateLimit
