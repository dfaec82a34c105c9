/- The iterations and tokens of a turn are counted through its pauses. Each batch carries the
counters of its pause, and its one resume goes on from them. A sum of tokens that wraps around is below
every cap. -/

import Mathlib.Algebra.Order.BigOperators.Group.List
import Mathlib.Algebra.Order.Monoid.Prod
import Mathlib.Algebra.Order.Ring.Int
import Mathlib.Algebra.Ring.Nat
import OneVoice.Construction.Orchestrator.Loop

namespace OneVoice.Agent

open Library Domain List Observation

def Observation.calls : Observation → Nat
  | .llmCall _ _ => 1
  | _ => 0

/-- The input and the output tokens of a reply. -/
def Observation.tokens : Observation → Int × Int
  | .llmReply response => (response.inputTokens, response.outputTokens)
  | _ => 0

def llmCalls (trace : List Observation) : Nat := (trace.map calls).sum

def tokens (trace : List Observation) : Int × Int := (trace.map Observation.tokens).sum

/-- The sums as the loop counts them. -/
def wrapped (sums : Int × Int) : Int × Int := (wrap64 sums.1, wrap64 sums.2)

def RunState.tokens (state : RunState) : Int × Int := (state.accumulatedInputTokens, state.accumulatedOutputTokens)

/-- An observation that moves no counter. -/
def Observation.still : Observation → Bool
  | .llmCall _ _ | .llmReply _ => false
  | _ => true

/-- An observation that moves no counter and persists no batch. -/
def Observation.quiet : Observation → Bool
  | .persist _ => false
  | observation => observation.still

def Orchestrator.caps (agent : Orchestrator) : Int × Int := (agent.conversationInputCap, agent.conversationOutputCap)

/-- The sums with an enabled cap are below their bounds. -/
structure Orchestrator.Below (agent : Orchestrator) (bounds sums : Int × Int) : Prop where
  input : 0 < agent.conversationInputCap → sums.1 < bounds.1
  output : 0 < agent.conversationOutputCap → sums.2 < bounds.2

/-- Before each call of a trace the sums of all earlier replies meet a condition. -/
def CallsMeet (room : Int × Int → Prop) (trace : List Observation) : Prop :=
  ∀ past request cancelled rest, trace = past ++ .llmCall request cancelled :: rest → room (tokens past)

/-- Every call of a trace is made below the caps. -/
def CallsBelow (agent : Orchestrator) : List Observation → Prop := CallsMeet (agent.Below agent.caps)

section Tallies

variable {trace more : List Observation}

theorem llmCalls_append : llmCalls (trace ++ more) = llmCalls trace + llmCalls more := by
  simp [llmCalls]

theorem tokens_append : tokens (trace ++ more) = tokens trace + tokens more := by
  simp [tokens]

theorem Observation.still_of_quiet {observation : Observation} (quiet : observation.quiet = true) :
    observation.still = true := by
  cases observation with
  | persist => cases quiet
  | _ => exact quiet

/-- Observations that are still leave the tallies of a trace as they are. -/
theorem tallies_still (still : ∀ observation ∈ more, observation.still) :
    llmCalls (trace ++ more) = llmCalls trace ∧ tokens (trace ++ more) = tokens trace := by
  have zero : llmCalls more = 0 ∧ tokens more = 0 := by
    induction more with
    | nil => exact ⟨rfl, rfl⟩
    | cons observation more ih =>
      rw [forall_mem_cons] at still
      obtain ⟨calls, sums⟩ := ih still.2
      unfold llmCalls tokens at *
      simp only [map_cons, sum_cons, calls, sums]
      cases observation with
      | llmCall | llmReply => cases still.1
      | _ => exact ⟨rfl, rfl⟩
  rw [llmCalls_append, tokens_append, zero.1, zero.2]
  exact ⟨rfl, add_zero _⟩

end Tallies

/-- An iteration before its call, after it, or at the turn's end. -/
inductive Stage where
  | ready
  | spent
  | over
deriving DecidableEq

def Phase.stage : Phase → Stage
  | .chat | .dispatching _ _ _ | .notifying _ _ _ _ | .joining _ => .ready
  | .emitting _ _ | .halted _ => .over
  | _ => .spent

/-- What a step does to the counters. -/
inductive Spends (agent : Orchestrator) : Loop → List Observation → Loop → Prop
  | called {first last : Loop} (request : ChatRequest) (cancelled : Bool) :
      first.phase.stage = .ready → first.state.iter < agent.maxIterations →
      last.state = first.state → last.phase.stage = .spent →
      Spends agent first [.llmCall request cancelled] last
  | replied {first last : Loop} (response : ChatResponse) :
      first.phase.stage = .spent → last.state = first.state.accumulate response →
      last.phase = agent.afterReply last.state response →
      Spends agent first [.llmReply response] last
  | advanced {first last : Loop} : first.phase.stage = .spent → last.phase.stage = .ready →
      last.state.iter = first.state.iter + 1 → last.state.tokens = first.state.tokens →
      Spends agent first [] last
  | persisted {first last : Loop} (batchID : String) (manual : List ToolCall) :
      first.phase.stage = .spent → last.phase.stage = .over →
      Spends agent first [.persist (agent.buildPendingBatch batchID first.state manual)] last
  | quiet {first last : Loop} {seen} : (∀ observation ∈ seen, observation.quiet) →
      last.state.iter = first.state.iter → last.state.tokens = first.state.tokens →
      last.phase.stage = first.phase.stage ∨ last.phase.stage = .over →
      Spends agent first seen last

section Steps

variable {agent : Orchestrator} {first last : Loop} {seen : List Observation}

variable {cancelled : Bool}

/-- A finished fan-out goes on to an iteration or the pause. -/
theorem Spends.dispatched {state after phase manual workers} (spent : phase.stage = .spent)
    (iter : after.iter = state.iter) (sums : after.tokens = state.tokens) :
    Spends agent ⟨state, phase, workers, cancelled⟩ []
      ⟨(afterDispatch after manual).1, (afterDispatch after manual).2, workers, cancelled⟩ := by
  unfold afterDispatch
  split
  · exact .advanced spent rfl (congrArg (· + 1) iter) sums
  · exact .quiet (by simp) iter sums (.inl spent.symm)

theorem Delivery.quiet {event seen} (delivered : Delivery cancelled event seen) :
    ∀ observation ∈ seen, observation.quiet := by
  cases delivered <;> simp [Observation.quiet, Observation.still]

theorem spends_of_stepRun (taken : StepRun agent first seen last) : Spends agent first seen last := by
  cases taken with
  | called room => exact .called _ _ rfl room rfl rfl
  | replied response => exact .replied response rfl rfl rfl
  | noFanOut | joined => exact .dispatched rfl rfl rfl
  | persisted batchID => exact .persisted batchID _ rfl rfl
  | persistFailed batchID stored =>
    cases stored with
    | true => exact .persisted batchID _ rfl rfl
    | false => exact .quiet (by simp) rfl rfl (.inr rfl)
  | returned outcome delivered => exact .quiet delivered.quiet rfl rfl (.inl rfl)
  | spoke =>
    refine .quiet ?_ rfl rfl (.inl rfl)
    split <;> simp [quiet, still]
  | rejected | announced | executed | emitted =>
    exact .quiet (by simp [quiet, still]) rfl rfl (.inl rfl)
  | fannedOut | started => exact .quiet (by simp) rfl rfl (.inl rfl)
  | _ => exact .quiet (by simp) rfl rfl (.inr rfl)

theorem spends_of_dispatchApproved (taken : DispatchApproved agent first seen last) :
    Spends agent first seen last := by
  cases taken with
  | notified | notificationCut | joined =>
    exact .quiet (by simp [quiet, still]) rfl rfl (.inl rfl)
  | _ => exact .quiet (by simp) rfl rfl (.inl rfl)

theorem spends_of_worker (taken : WorkerStep agent first seen last) : Spends agent first seen last := by
  cases taken with
  | announced | executed => exact .quiet (by simp [quiet, still]) rfl rfl (.inl rfl)
  | cut => exact .quiet (by simp) rfl rfl (.inl rfl)
  | returned outcome delivered =>
    refine .quiet ?_ rfl rfl (.inl rfl)
    rw [forall_mem_cons]
    exact ⟨rfl, delivered.quiet⟩
  | panicked _ delivered => exact .quiet delivered.quiet rfl rfl (.inl rfl)

theorem spends_of_step (taken : Step agent first seen last) : Spends agent first seen last := by
  cases taken with
  | cancel => exact .quiet (by simp) rfl rfl (.inl rfl)
  | panic => exact .quiet (by simp) rfl rfl (.inr rfl)
  | stepRun taken => exact spends_of_stepRun taken
  | dispatchApproved taken => exact spends_of_dispatchApproved taken
  | worker taken => exact spends_of_worker taken

end Steps

/-- The counters are the trace's; only the ready stage has a call left. -/
structure Tallied (agent : Orchestrator) (trace : List Observation) (loop : Loop) : Prop where
  calls : llmCalls trace ≤ loop.state.iter + if loop.phase.stage = .spent then 1 else 0
  room : loop.phase.stage = .spent → loop.state.iter < agent.maxIterations
  sums : loop.state.tokens = wrapped (tokens trace)
  below : agent.Below agent.caps (wrapped (tokens trace))

/-- A pause's batch carries the counters of its trace. -/
structure Carries (agent : Orchestrator) (trace : List Observation) (batch : PendingToolCallBatch) : Prop where
  calls : llmCalls trace ≤ batch.iterationIdx + 1
  below : agent.Below agent.caps (wrapped (tokens trace))
  snapshot : ∃ decoded, decodeSnapshot batch.modelMessages = some decoded ∧
    (decoded.accumulatedInputTokens, decoded.accumulatedOutputTokens) = wrapped (tokens trace)

/-- The traces of a turn and its current loop, which a batch ends. -/
structure Budget (agent : Orchestrator) (before current : List Observation) (loop : Loop) : Prop where
  bound : llmCalls (before ++ current) ≤ agent.maxIterations
  below : CallsMeet (agent.Below agent.caps ∘ wrapped) (before ++ current)
  tallied : loop.phase.stage ≠ .over → Tallied agent (before ++ current) loop
  carries : ∀ batch, .persist batch ∈ current → loop.phase.stage = .over ∧ Carries agent (before ++ current) batch
  single : ∀ batch other, .persist batch ∈ current → .persist other ∈ current → batch = other

section Invariant

variable {agent : Orchestrator} {trace before current seen : List Observation} {first last : Loop}

variable {room : Int × Int → Prop}

theorem CallsMeet.quiet (below : CallsMeet room trace)
    (silent : ∀ observation ∈ seen, observation.calls = 0) : CallsMeet room (trace ++ seen) := by
  intro past request cancelled rest same
  rcases append_eq_append_iff.mp same with ⟨middle, rfl, tail⟩ | ⟨middle, split, tail⟩
  · have member : .llmCall request cancelled ∈ seen := by simp [tail]
    cases silent _ member
  · cases middle with
    | nil =>
      have member : .llmCall request cancelled ∈ seen := by
        rw [nil_append] at tail
        simp [← tail]
      cases silent _ member
    | cons observation middle =>
      rw [cons_append, cons.injEq] at tail
      rw [← tail.1] at split
      exact below past request cancelled middle split

theorem CallsMeet.call (below : CallsMeet room trace) (request : ChatRequest) (cancelled : Bool)
    (here : room (tokens trace)) : CallsMeet room (trace ++ [.llmCall request cancelled]) := by
  intro past other canceled rest same
  rcases eq_nil_or_concat rest with rfl | ⟨rest, final, rfl⟩
  · have ends : trace = past := (append_inj' same rfl).1
    rw [← ends]
    exact here
  · rw [concat_eq_append, ← cons_append, ← append_assoc] at same
    exact below past other canceled rest (append_inj' same rfl).1

/-- A reply that the caps let pass leaves them unreached. -/
theorem below_of_afterReply {state response} (goes : (agent.afterReply state response).stage ≠ .over) :
    (agent.afterReply state response).stage = .spent ∧
      agent.Below agent.caps state.tokens := by
  unfold Orchestrator.afterReply at goes ⊢
  split
  · rename_i capped
    rw [if_pos capped] at goes
    exact absurd rfl goes
  · rename_i uncapped
    rw [if_neg uncapped] at goes
    split
    · rename_i answered
      rw [if_pos answered] at goes
      exact absurd rfl goes
    · refine ⟨rfl, ?_⟩
      simp only [Orchestrator.capped, Bool.or_eq_true, Bool.and_eq_true, decide_eq_true_eq,
        not_or, not_and, Int.not_le] at uncapped
      exact ⟨uncapped.1, uncapped.2⟩

theorem carries_buildPendingBatch (tallied : Tallied agent trace first)
    (spent : first.phase.stage = .spent) (batchID : String) (manual : List ToolCall) :
    Carries agent trace (agent.buildPendingBatch batchID first.state manual) where
  calls := by
    have calls := tallied.calls
    rw [if_pos spent] at calls
    exact calls
  below := tallied.below
  snapshot := ⟨_, decodeSnapshot_encodeSnapshot first.state, tallied.sums⟩

theorem Carries.still {batch} (carries : Carries agent trace batch)
    (still : ∀ observation ∈ seen, observation.still) : Carries agent (trace ++ seen) batch := by
  have tallies := @tallies_still trace seen still
  constructor
  · rw [tallies.1]
    exact carries.calls
  · rw [tallies.2]
    exact carries.below
  · rw [tallies.2]
    exact carries.snapshot

section

variable (tallied : Tallied agent trace first)

include tallied

theorem Tallied.still (still : ∀ observation ∈ seen, observation.still) (iter : last.state.iter = first.state.iter)
    (sums : last.state.tokens = first.state.tokens) (stage : last.phase.stage = first.phase.stage) :
    Tallied agent (trace ++ seen) last := by
  have tallies := @tallies_still trace seen still
  constructor
  · rw [tallies.1, iter, stage]
    exact tallied.calls
  · rw [stage, iter]
    exact tallied.room
  · rw [tallies.2, sums]
    exact tallied.sums
  · rw [tallies.2]
    exact tallied.below

theorem Tallied.call (ready : first.phase.stage = .ready) (room : first.state.iter < agent.maxIterations)
    (state : last.state = first.state) (spent : last.phase.stage = .spent) (request : ChatRequest) (cancelled : Bool) :
    Tallied agent (trace ++ [.llmCall request cancelled]) last := by
  have calls := tallied.calls
  have sums : tokens (trace ++ [.llmCall request cancelled]) = tokens trace := by
    simp [tokens, Observation.tokens]
  rw [ready] at calls
  constructor
  · rw [llmCalls_append, if_pos spent, state]
    exact Nat.succ_le_succ calls
  · rw [state]
    exact fun _ => room
  · rw [sums, state]
    exact tallied.sums
  · rw [sums]
    exact tallied.below

theorem Tallied.reply (spent : first.phase.stage = .spent) {response}
    (state : last.state = first.state.accumulate response)
    (phase : last.phase = agent.afterReply last.state response) (runs : last.phase.stage ≠ .over) :
    Tallied agent (trace ++ [.llmReply response]) last := by
  have calls := tallied.calls
  have sums : last.state.tokens = wrapped (tokens (trace ++ [.llmReply response])) := by
    obtain ⟨input, output⟩ := Prod.mk.inj tallied.sums
    rw [state]
    simp [RunState.tokens, RunState.accumulate, input, output, wrapped, wrap64_add, tokens, Observation.tokens]
  have iter : last.state.iter = first.state.iter := by rw [state]; rfl
  rw [phase] at runs
  obtain ⟨stays, below⟩ := below_of_afterReply runs
  rw [← phase] at stays
  constructor
  · rw [llmCalls_append, iter, if_pos stays]
    rw [if_pos spent] at calls
    exact calls
  · rw [iter]
    exact fun _ => tallied.room spent
  · exact sums
  · rw [← sums]
    exact below

theorem Tallied.advance (spent : first.phase.stage = .spent) (ready : last.phase.stage = .ready)
    (iter : last.state.iter = first.state.iter + 1) (sums : last.state.tokens = first.state.tokens) :
    Tallied agent trace last := by
  have calls := tallied.calls
  constructor
  · rw [iter, ready]
    rw [if_pos spent] at calls
    exact calls
  · rw [ready]
    exact nofun
  · exact sums.trans tallied.sums
  · exact tallied.below

end

theorem calls_of_still (still : ∀ observation ∈ seen, observation.still) :
    ∀ observation ∈ seen, observation.calls = 0 := by
  intro observation member
  have silent := still observation member
  cases observation with
  | llmCall => cases silent
  | _ => rfl

section

variable (budget : Budget agent before current first)

include budget

/-- A batch of a loop that runs is one of its latest step. -/
theorem Budget.persisted_running (runs : first.phase.stage ≠ .over) {batch}
    (member : .persist batch ∈ current ++ seen) : .persist batch ∈ seen := by
  rcases mem_append.mp member with old | new
  · exact absurd (budget.carries batch old).1 runs
  · exact new

/-- The batch of a loop is written, and the loop is over. -/
theorem Budget.persist (batchID : String) (manual : List ToolCall)
    (spent : first.phase.stage = .spent) (ended : last.phase.stage = .over) :
    Budget agent before (current ++ [.persist (agent.buildPendingBatch batchID first.state manual)]) last := by
  have runs : first.phase.stage ≠ .over := by simp [spent]
  have still : ∀ observation ∈ [Observation.persist (agent.buildPendingBatch batchID
      first.state manual)], observation.still := by simp [Observation.still]
  constructor <;> try rw [← append_assoc]
  · rw [(tallies_still still).1]
    exact budget.bound
  · exact budget.below.quiet (calls_of_still still)
  · exact fun goes => absurd ended goes
  · intro batch member
    cases mem_singleton.mp (budget.persisted_running runs member)
    have carries := carries_buildPendingBatch (budget.tallied runs) spent batchID manual
    exact ⟨ended, carries.still still⟩
  · intro batch other member also
    cases mem_singleton.mp (budget.persisted_running runs member)
    cases mem_singleton.mp (budget.persisted_running runs also)
    rfl

/-- What is observed is no call, no reply and no batch. -/
theorem Budget.quiet (silent : ∀ observation ∈ seen, observation.quiet) (iter : last.state.iter = first.state.iter)
    (sums : last.state.tokens = first.state.tokens)
    (stage : last.phase.stage = first.phase.stage ∨ last.phase.stage = .over) :
    Budget agent before (current ++ seen) last := by
  have still := fun observation member => still_of_quiet (silent observation member)
  have kept : ∀ {batch}, .persist batch ∈ current ++ seen → .persist batch ∈ current := by
    intro batch member
    rcases mem_append.mp member with old | new
    · exact old
    · cases silent _ new
  constructor <;> try rw [← append_assoc]
  · rw [(tallies_still still).1]
    exact budget.bound
  · exact budget.below.quiet (calls_of_still still)
  · intro runs
    have same := stage.resolve_right runs
    rw [same] at runs
    exact (budget.tallied runs).still still iter sums same
  · intro batch member
    obtain ⟨ended, carries⟩ := budget.carries batch (kept member)
    refine ⟨?_, carries.still still⟩
    rcases stage with same | ended
    · exact same.trans ended
    · exact ended
  · intro batch other member also
    exact budget.single batch other (kept member) (kept also)

theorem Budget.step (taken : Step agent first seen last) : Budget agent before (current ++ seen) last := by
  cases spends_of_step taken with
  | called request cancelled ready room state spent =>
    have runs : first.phase.stage ≠ .over := by simp [ready]
    have tallied := budget.tallied runs
    have called := tallied.call ready room state spent request cancelled
    constructor <;> try rw [← append_assoc]
    · have calls := called.calls
      rw [if_pos spent, state] at calls
      omega
    · exact budget.below.call request cancelled tallied.below
    · exact fun _ => called
    all_goals
      intros
      exact absurd (budget.persisted_running runs ‹_›) (by simp)
  | replied response spent state phase =>
    have runs : first.phase.stage ≠ .over := by simp [spent]
    constructor <;> try rw [← append_assoc]
    · rw [llmCalls_append]
      exact budget.bound
    · exact budget.below.quiet (by simp [calls])
    · exact (budget.tallied runs).reply spent state phase
    all_goals
      intros
      exact absurd (budget.persisted_running runs ‹_›) (by simp)
  | advanced spent ready iter sums =>
    have runs : first.phase.stage ≠ .over := by simp [spent]
    rw [append_nil]
    refine ⟨budget.bound, budget.below, ?_, ?_, budget.single⟩
    · exact fun _ => (budget.tallied runs).advance spent ready iter sums
    · exact fun batch member => absurd (budget.carries batch member).1 runs
  | persisted batchID manual spent ended => exact budget.persist batchID manual spent ended
  | quiet silent iter sums stage => exact budget.quiet silent iter sums stage

end

theorem Budget.run {labels} (start : Budget agent before [] first)
    (run : Run (Step agent) first labels last) : Budget agent before labels.flatten last :=
  run.flattened (fun _ _ _ _ taken budget => budget.step taken) start

/-- A fresh run starts with empty counters. -/
theorem Budget.start (agent : Orchestrator) (request : RunRequest) : Budget agent [] [] (.run agent request) where
  bound := Nat.zero_le _
  below past called cancelled rest same := by
    simp at same
  tallied _ := ⟨Nat.le_refl 0, nofun, rfl, ⟨id, id⟩⟩
  carries := by simp
  single := by simp

/-- A resume starts with the counters of its batch. -/
theorem Budget.resumed {persisted stored}
    (bound : llmCalls trace ≤ agent.maxIterations) (below : CallsMeet (agent.Below agent.caps ∘ wrapped) trace)
    (carries : Carries agent trace persisted) (recorded : Recorded persisted stored)
    (request : ResumeRequest) : Budget agent trace [] (.resume agent request stored) := by
  obtain ⟨snapshot, decoded, sums⟩ := carries.snapshot
  have calls := carries.calls
  constructor
  · rw [append_nil]
    exact bound
  · rw [append_nil]
    exact below
  · intro runs
    rw [append_nil]
    unfold Loop.resume at runs ⊢
    rw [recorded.modelMessages, decoded] at runs ⊢
    split
    · rename_i unconfigured
      rw [if_pos unconfigured] at runs
      exact absurd rfl runs
    · rename_i configured
      rw [if_neg configured] at runs
      split
      · rename_i expired
        rw [if_pos expired] at runs
        exact absurd rfl runs
      · refine ⟨?_, nofun, sums, carries.below⟩
        show llmCalls trace ≤ stored.iterationIdx + 1 + 0
        rw [recorded.iterationIdx]
        exact calls
  · simp
  · simp

/-- Unresumed batches carry the turn's counters; there is at most one. -/
structure TurnBudget (agent : Orchestrator) (resumed : List String) (trace : List Observation) : Prop where
  bound : llmCalls trace ≤ agent.maxIterations
  below : CallsMeet (agent.Below agent.caps ∘ wrapped) trace
  carries : ∀ batch, .persist batch ∈ trace → batch.id ∉ resumed → Carries agent trace batch
  single : ∀ batch other, .persist batch ∈ trace → .persist other ∈ trace → batch.id ∉ resumed →
    other.id ∉ resumed → batch = other

theorem turnBudget_of_turn {resumed} (turn : SingleTurn agent resumed trace) : TurnBudget agent resumed trace := by
  induction turn with
  | run request run =>
    have budget := (Budget.start agent request).run run
    exact ⟨budget.bound, budget.below, fun batch member _ => (budget.carries batch member).2,
      fun batch other member also _ _ => budget.single batch other member also⟩
  | @resume resumed trace labels last request persisted stored _ known unresumed recorded run ih =>
    have carries := ih.carries persisted known unresumed
    have budget := (Budget.resumed ih.bound ih.below carries recorded request).run run
    have latest : ∀ {batch}, .persist batch ∈ trace ++ labels.flatten →
        batch.id ∉ persisted.id :: resumed → .persist batch ∈ labels.flatten := by
      intro batch member open_
      rw [mem_cons, not_or] at open_
      rcases mem_append.mp member with old | new
      · have same := ih.single batch persisted old known open_.2 unresumed
        exact absurd (congrArg _ same) open_.1
      · exact new
    refine ⟨budget.bound, budget.below, ?_, ?_⟩
    · intro batch member open_
      exact (budget.carries batch (latest member open_)).2
    · intro batch other member also open_ alsoOpen
      exact budget.single batch other (latest member open_) (latest also alsoOpen)

theorem tokens_nonneg (counts : ∀ response, .llmReply response ∈ trace →
    0 ≤ response.inputTokens ∧ 0 ≤ response.outputTokens) : 0 ≤ tokens trace := by
  apply sum_nonneg
  simp only [forall_mem_map]
  intro observation member
  cases observation with
  | llmReply response => exact counts response member
  | _ => exact le_rfl

/-- A turn stays within its iterations. Before each model call the sums of the tokens are below their
caps just as long as they are numbers of their type. -/
theorem turn_within_budgets {resumed : List String} (turn : SingleTurn agent resumed trace) :
    llmCalls trace ≤ agent.maxIterations ∧
      ((∀ response, .llmReply response ∈ trace → 0 ≤ response.inputTokens ∧ 0 ≤ response.outputTokens) →
        agent.conversationInputCap < 2 ^ 63 → agent.conversationOutputCap < 2 ^ 63 →
        (CallsBelow agent trace ↔ CallsMeet (agent.Below (2 ^ 63, 2 ^ 63)) trace)) := by
  have budget := turnBudget_of_turn turn
  refine ⟨budget.bound, fun counts inputFits outputFits => ?_⟩
  constructor
  · intro below past request cancelled rest same
    obtain ⟨input, output⟩ := below past request cancelled rest same
    exact ⟨fun capped => (input capped).trans inputFits, fun capped => (output capped).trans outputFits⟩
  · intro fits past request cancelled rest same
    have counted := budget.below past request cancelled rest same
    obtain ⟨inputSum, outputSum⟩ := fits past request cancelled rest same
    have positive : 0 ≤ tokens past := tokens_nonneg fun response member =>
      counts response (by rw [same]; exact mem_append_left _ member)
    constructor
    · intro capped
      have input := counted.input capped
      rwa [wrapped, wrap64_eq_self (by have := positive.1; simp at this; omega) (inputSum capped)] at input
    · intro capped
      have output := counted.output capped
      rwa [wrapped, wrap64_eq_self (by have := positive.2; simp at this; omega) (outputSum capped)] at output

open Sample

/-- The sample turn with its one resume makes two calls. -/
theorem turn_within_budgets_resumed :
    llmCalls (runLabels.flatten ++ resumeLabels.flatten) = 2 ∧
      llmCalls (runLabels.flatten ++ resumeLabels.flatten) ≤ orchestrator.maxIterations ∧
      CallsBelow orchestrator (runLabels.flatten ++ resumeLabels.flatten) := by
  obtain ⟨_, run⟩ := run_pauses
  obtain ⟨_, continued⟩ := resume_continues
  have fresh : SingleTurn orchestrator [] runLabels.flatten := .run runRequest run
  have recorded : Recorded batch approvedBatch := ⟨rfl, rfl, rfl, .cons ⟨rfl, rfl, rfl⟩ .nil⟩
  have known : .persist batch ∈ runLabels.flatten := by simp [runLabels]
  have turn := fresh.resume resumeRequest batch approvedBatch known not_mem_nil recorded continued
  have calls : llmCalls (runLabels.flatten ++ resumeLabels.flatten) = 2 := by
    simp [llmCalls, runLabels, resumeLabels, calls]
  obtain ⟨bound, below⟩ := turn_within_budgets turn
  refine ⟨calls, bound, (below ?_ (by decide) (by decide)).mpr fun _ _ _ _ _ => ⟨nofun, nofun⟩⟩
  simp [runLabels, resumeLabels]

/-- After 500 tokens and the largest count the sum is negative, and a cap of 1000 admits a third call. -/
theorem wrapped_sum_admits_call : let agent := { orchestrator with conversationInputCap := 1000 }
    ∃ trace, SingleTurn agent [] trace ∧ (∀ response, .llmReply response ∈ trace →
      0 ≤ response.inputTokens ∧ 0 ≤ response.outputTokens) ∧ ¬ CallsBelow agent trace := by
  intro agent
  let reply : Int → ChatResponse := (⟨"", [⟨"call", "function", "unknown", ""⟩], ·, 0⟩)
  refine ⟨_, .run runRequest (.cons (.stepRun (.called (by decide))) <|
    .cons (.stepRun (.replied (reply 500) rfl)) <| .cons (.stepRun .spoke) <| .cons (.stepRun .rejected) <|
    .cons (.stepRun .noFanOut) <| .cons (.stepRun (.called (by decide))) <|
    .cons (.stepRun (.replied (reply 9223372036854775807) rfl)) <| .cons (.stepRun .spoke) <|
    .cons (.stepRun .rejected) <| .cons (.stepRun .noFanOut) <| .cons (.stepRun (.called (by decide))) <|
    .nil _), by simp [reply], fun below => ?_⟩
  have sums := (below [_, _, _, _, _, _] _ _ [] rfl).input (by decide)
  exact absurd sums (by decide)

/-- A batch that a step persists, changed in between only as the store may, resumes as it paused. -/
theorem resume_restores_pause {persisted stored : PendingToolCallBatch} (taken : Step agent first seen last)
    (saved : .persist persisted ∈ seen) (recorded : Recorded persisted stored)
    (configured : agent.hitlConfigured = true) (live : stored.status ≠ .expired) (request : ResumeRequest) :
    .resume agent request stored = Loop.mk (agent.resumeState request stored
        ⟨first.state.messages, first.state.systemPlatform, first.state.systemBusiness, first.state.pdnAllowlist,
          first.state.accumulatedInputTokens, first.state.accumulatedOutputTokens, false⟩)
      (.dispatching request stored stored.calls) [] false ∧ stored.iterationIdx = first.state.iter := by
  have built : ∃ batchID manual, persisted = agent.buildPendingBatch batchID first.state manual := by
    cases spends_of_step taken with
    | persisted batchID manual => exact ⟨batchID, manual, by simpa using saved⟩
    | quiet still => exact absurd (still _ saved) (by simp [quiet])
    | _ => simp at saved
  obtain ⟨batchID, manual, rfl⟩ := built
  refine ⟨Loop.resume_decoded configured live ?_, recorded.iterationIdx⟩
  rw [recorded.modelMessages]
  exact decodeSnapshot_encodeSnapshot first.state

theorem resume_restores_pause_approved :
    .resume orchestrator resumeRequest approvedBatch = resumed ∧ approvedBatch.iterationIdx = 0 :=
  @resume_restores_pause orchestrator _ ⟨pausedState, .pausing [replyCall], [], false⟩ _ batch approvedBatch
    (.stepRun (.persisted "batch" rfl)) (mem_singleton_self _) ⟨rfl, rfl, rfl, .cons ⟨rfl, rfl, rfl⟩ .nil⟩ rfl
    (by decide) resumeRequest

/-- At most one batch of a turn waits for its resume, and it carries the counters of the whole turn. -/
theorem waiting_batch_carries {resumed : List String} (turn : SingleTurn agent resumed trace)
    {batch : PendingToolCallBatch} (saved : .persist batch ∈ trace) (waits : batch.id ∉ resumed) :
    Carries agent trace batch ∧ ∀ other, .persist other ∈ trace → other.id ∉ resumed → other = batch := by
  have budget := turnBudget_of_turn turn
  exact ⟨budget.carries batch saved waits,
    fun other known open_ => budget.single other batch known saved open_ waits⟩

theorem waiting_batch_carries_paused : Carries orchestrator runLabels.flatten batch ∧
    ∀ other, .persist other ∈ runLabels.flatten → other.id ∉ [] → other = batch := by
  obtain ⟨_, run⟩ := run_pauses
  exact waiting_batch_carries (.run runRequest run) (by simp [runLabels]) not_mem_nil

end Invariant

end OneVoice.Agent
