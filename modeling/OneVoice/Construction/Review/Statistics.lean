/- The counts and latencies of `service/reviewsla.go`, `reviewstats/stats.go` and
`service/owner_brief_stats.go`. Durations are 64-bit numbers of nanoseconds. -/

import OneVoice.Construction.Review.Store
import OneVoice.Library.Text

namespace OneVoice.Reviews.Statistics

open Library

/-- A status may be unset. -/
structure Review where
  replyStatus : Option ReplyStatus
  createdAt : Int
  repliedAt : Option Int
  platform : String

/-- `time.Time.Sub` stops at the longest duration. -/
def sub (time earlier : Int) : Int := max (-2 ^ 63) (min (2 ^ 63 - 1) (time - earlier))

/-- The latency of a review with a reply time; one before its creation is not measured. -/
def Review.latency (r : Review) : Option Int :=
  r.repliedAt.bind fun repliedAt =>
    if repliedAt < r.createdAt then none else some (sub repliedAt r.createdAt)

structure Stats where
  total : Nat := 0
  answered : Nat := 0
  unanswered : Nat := 0
  latencies : List Int := []

namespace Stats

variable (stats : Stats)

def answer : Stats := { stats with total := stats.total + 1, answered := stats.answered + 1 }

def await : Stats := { stats with total := stats.total + 1, unanswered := stats.unanswered + 1 }

def measure (latency : Option Int) : Stats := { stats with latencies := stats.latencies ++ latency.toList }

end Stats

structure SLAStats extends Stats where
  lt24h : Nat := 0
  h24to72 : Nat := 0
  gt72h : Nat := 0
  latenciesByPlatform : List (String × List Int) := []
  latencySum : Int := 0

def hour : Int := 3600000000000

def appendTo (platform : String) (latency : Int) : List (String × List Int) → List (String × List Int)
  | [] => [(platform, [latency])]
  | (name, ds) :: rest =>
    if name = platform then (name, ds ++ [latency]) :: rest else (name, ds) :: appendTo platform latency rest

namespace SLAStats

variable (stats : SLAStats)

def bucketUnanswered (age : Int) : SLAStats :=
  if age < 24 * hour then { stats with lt24h := stats.lt24h + 1 }
  else if age < 72 * hour then { stats with h24to72 := stats.h24to72 + 1 }
  else { stats with gt72h := stats.gt72h + 1 }

/-- The latency, if there is one, counts for its platform and in the sum, which wraps around. -/
def measured (platform : String) (latency : Option Int) : SLAStats :=
  { stats with
    toStats := stats.measure latency
    latenciesByPlatform := latency.elim stats.latenciesByPlatform (appendTo platform · stats.latenciesByPlatform)
    latencySum := latency.elim stats.latencySum fun latency => wrap64 (stats.latencySum + latency) }

def averageResponse : Int := stats.latencySum.tdiv stats.latencies.length

end SLAStats

/-- The dashboard leaves skipped reviews out and measures replied ones. -/
def slaRound (now : Int) (stats : SLAStats) (r : Review) : SLAStats :=
  if r.replyStatus = some .replied then { stats with toStats := stats.answer }.measured r.platform r.latency
  else if r.replyStatus = some .skipped then { stats with total := stats.total + 1 }
  else { stats with toStats := stats.await }.bucketUnanswered (sub now r.createdAt)

variable (stats : Stats) (r : Review) (reviews : List Review) (now : Int)

def computeSLA : SLAStats := reviews.foldl (slaRound now) {}

def briefRound : Stats :=
  if r.replyStatus = some .replied then stats.answer else stats.await

def aggregateOwnerBriefStats : Stats := reviews.foldl briefRound {}

/-- The chat measures each review that has a latency. -/
def chatRound : Stats := (briefRound stats r).measure r.latency

def aggregate : Stats := reviews.foldl chatRound {}

/-- The middle of the sorted durations, or the mean of the two in the middle. -/
def medianDuration (ds : List Int) : Int :=
  let sorted := ds.mergeSort
  let mid := sorted.length / 2
  if sorted.length % 2 = 1 then sorted.getD mid 0
  else (wrap64 (sorted.getD (mid - 1) 0 + sorted.getD mid 0)).tdiv 2

def Stats.measuredResponses : Nat := stats.latencies.length

def Stats.medianResponse : Int :=
  if stats.measuredResponses = 0 then 0 else medianDuration stats.latencies

end OneVoice.Reviews.Statistics
