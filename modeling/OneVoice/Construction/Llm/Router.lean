/- The choice of a provider in `pkg/llm/selector.go`, and `Router.Chat` of `pkg/llm/router.go`. -/

import Mathlib.Data.Rat.Defs

namespace OneVoice.Llm

inductive HealthStatus where
  | healthy
  | degraded
  | down
deriving DecidableEq

/-- `Record` leaves the entry's status and latency. -/
structure ModelProviderEntry where
  model : String
  provider : String
  inputCostPer1MTok : ℚ
  outputCostPer1MTok : ℚ
  avgLatencyMs : Nat
  healthStatus : HealthStatus
  enabled : Bool

/-- A provider is registered once for a model. -/
structure Registry where
  entries : String → List ModelProviderEntry
  distinct : ∀ model, ((entries model).map ModelProviderEntry.provider).Nodup

inductive Strategy where
  | cost
  | speed
deriving DecidableEq

def avgCost (entry : ModelProviderEntry) : ℚ := (entry.inputCostPer1MTok + entry.outputCostPer1MTok) / 2

def betterLatency (candidate current : ModelProviderEntry) : Bool :=
  if candidate.avgLatencyMs = 0 then false
  else if current.avgLatencyMs = 0 then true
  else candidate.avgLatencyMs < current.avgLatencyMs

/-- The order of the sort. -/
def before (strategy : Strategy) (first second : ModelProviderEntry) : Bool :=
  let healthy := fun entry : ModelProviderEntry => decide (entry.healthStatus = .healthy)
  if healthy first ≠ healthy second then healthy first
  else match strategy with
    | .cost => avgCost first < avgCost second
    | .speed => betterLatency first second

section

variable {Provider Response Error : Type}

structure Candidate (Provider : Type) where
  entry : ModelProviderEntry
  provider : Provider

variable (registry : Registry) (providers : String → Option Provider) (model : String)

/-- The enabled entries with a registered provider, in registry order. -/
def usable : List (Candidate Provider) :=
  (registry.entries model).filterMap fun entry =>
    if entry.enabled then (providers entry.provider).map (⟨entry, ·⟩) else none

/-- The sort is stable. -/
def buildCandidates (strategy : Strategy) : List (Candidate Provider) :=
  (usable registry providers model).mergeSort fun first second =>
    !before strategy second.entry first.entry

/-- A response, none without an error, or an error. -/
abbrev Reply (Response Error : Type) := Except Error (Option Response)

structure Router (Error : Type) where
  errNilProviderResponse : Error
  errNoProvider : Error
  isTransientLLMError : Error → Bool
  billing : Bool

/-- The answer of `Chat`, the candidates called and what it logged. -/
structure Chatted (Provider Response Error : Type) where
  result : Except Error Response
  called : List (Candidate Provider)
  billed : List (ModelProviderEntry × Response)

def maxChatAttempts : Nat := 2

namespace Router

variable (router : Router Error)

/-- The error of a reply or its response. -/
def outcome : Reply Response Error → Except Error Response
  | .ok (some response) => .ok response
  | .ok none => .error router.errNilProviderResponse
  | .error error => .error error

/-- The loop of `Chat` from an attempt on, with the error before it. -/
def attempts (namesBusiness : Bool) (candidates : Nat) (replies : Nat → Reply Response Error) :
    Nat → List (Candidate Provider) → Error → Chatted Provider Response Error
  | _, [], lastErr => ⟨.error lastErr, [], []⟩
  | attempt, candidate :: rest, lastErr =>
    if maxChatAttempts ≤ attempt then ⟨.error lastErr, [], []⟩
    else match router.outcome (replies attempt) with
      | .ok response => ⟨.ok response, [candidate],
          if router.billing && namesBusiness then [(candidate.entry, response)] else []⟩
      | .error error =>
        if router.isTransientLLMError error && attempt = 0 && 2 ≤ candidates then
          let later := attempts namesBusiness candidates replies (attempt + 1) rest error
          { later with called := candidate :: later.called }
        else ⟨.error error, [candidate], []⟩

/-- `Chat` behind the rate limits. The replies are those of its attempts. -/
def chat (namesBusiness : Bool) (candidates : List (Candidate Provider))
    (replies : Nat → Reply Response Error) : Chatted Provider Response Error :=
  router.attempts namesBusiness candidates.length replies 0 candidates router.errNoProvider

end Router

end

end OneVoice.Llm
