/- Which sentinel a release removes. The text names no owner, so ownership is an invariant of the
schedule: an execution inside its sentinel's lifetime made the last claim. -/

import OneVoice.Construction.Dedupe.Dispatch

namespace OneVoice.Dedupe

open Library Domain Dispatches Expiring

variable {Error : Type} {requests : Nat → Call Error} {approvalID : String}

def Event.claimant : Event Error → Option Nat
  | .claimed call => some call
  | _ => none

/-- The call whose successful claim came last. -/
def lastClaim (past : List (Event Error)) : Option Nat := (past.filterMap Event.claimant).getLast?

theorem lastClaim_claimed (past : List (Event Error)) (call : Nat) :
    lastClaim (past ++ [.claimed call]) = some call := by
  simp [lastClaim, Event.claimant]

variable {event : Event Error} {state : Dispatches Error} {past : List (Event Error)}

theorem lastClaim_other (past : List (Event Error)) (other : event.claimant = none) :
    lastClaim (past ++ [event]) = lastClaim past := by
  simp [lastClaim, other]

/-- A move gives no call an execution that the moving call did not have. -/
theorem Dispatches.execution_of_move {call other phase claim}
    (executes : ((state.move call phase).calls other).execution = some claim)
    (kept : phase.execution = some claim → (state.calls call).execution = some claim) :
    (state.calls other).execution = some claim := by
  obtain ⟨rfl, here⟩ | ⟨_, old⟩ := view_update Phase.execution executes
  · exact kept here
  · exact old

/-- The key outlives a claim; its sentinel is the last claimant's. -/
def Covered (past : List (Event Error)) (state : Dispatches Error) (call : Nat) (since : Time) : Prop :=
  ∃ entry, state.key = some entry ∧ since + executingTTL ≤ entry.deadline ∧
    (entry.value = .executing → lastClaim past = some call)

/-- Every execution inside its sentinel's lifetime is covered. -/
def Leased (past : List (Event Error)) (state : Dispatches Error) : Prop :=
  ∀ call since, (state.calls call).execution = some (some since) →
    since ≤ state.now ∧ (state.now ≤ since + executingTTL → Covered past state call since)

namespace Leased

variable {past : List (Event Error)} {state next : Dispatches Error}

variable {event : Event Error} {call : Nat} {since : Time}

/-- Time may pass and executions may end while the key stays. -/
theorem mono (leased : Leased past state) {event} (other : event.claimant = none)
    (later : state.now ≤ next.now) (same : next.key = state.key)
    (fewer : ∀ call since, (next.calls call).execution = some (some since) →
      (state.calls call).execution = some (some since)) : Leased (past ++ [event]) next := by
  intro call since executes
  obtain ⟨began, covered⟩ := leased call since (fewer call since executes)
  refine ⟨Nat.le_trans began later, fun live => ?_⟩
  rw [Covered, same, lastClaim_other past other]
  exact covered (Nat.le_trans later live)

/-- A call may move on with the claim that it has. -/
theorem move (leased : Leased past state) {event} (other : event.claimant = none) {call phase}
    (kept : ∀ since, phase.execution = some (some since) → (state.calls call).execution = some (some since)) :
    Leased (past ++ [event]) (state.move call phase) :=
  leased.mono other (Nat.le_refl _) rfl fun _ since executes =>
    execution_of_move executes (kept since)

/-- An execution inside its sentinel's lifetime finds the key taken. -/
theorem found (leased : Leased past state) (executes : (state.calls call).execution = some (some since))
    (live : state.now ≤ since + executingTTL) :
    ∃ value, state.found = some value ∧ (value = .executing → lastClaim past = some call) := by
  obtain ⟨entry, present, outlives, owned⟩ := (leased call since executes).2 live
  exact ⟨entry.value, read_some present (Nat.le_trans live outlives), owned⟩

/-- So a free key means that every execution has outlived its sentinel. -/
theorem expired (leased : Leased past state) (free : state.found = none)
    (executes : (state.calls call).execution = some (some since)) : ¬ state.now ≤ since + executingTTL := by
  intro live
  obtain ⟨value, found, _⟩ := leased.found executes live
  rw [free] at found
  cases found

end Leased

/-- Each release comes from a claimant within its sentinel's lifetime. -/
def Timely (state : Dispatches Error) : Event Error → Prop
  | .released call _ => ∃ since, (state.calls call).execution = some (some since) ∧ state.now ≤ since + executingTTL
  | _ => True

namespace Leased

variable {past : List (Event Error)} {state : Dispatches Error}

theorem start (now : Time) : Leased [] (.start now : Dispatches Error) := by
  intro call since executes
  cases executes

theorem claimed (leased : Leased past state) (free : state.setNX.1 = true) (call : Nat) :
    Leased (past ++ [.claimed call]) ((state.setKey state.setNX.2).move call (.running (some state.now))) := by
  obtain ⟨absent, installed⟩ := setNX_free free
  intro other since executes
  obtain ⟨rfl, ⟨⟩⟩ | ⟨_, before⟩ := view_update Phase.execution executes
  · refine ⟨Nat.le_refl _, fun _ => ⟨_, installed, Nat.le_refl _, fun _ => ?_⟩⟩
    exact lastClaim_claimed past other
  · refine ⟨(leased other since before).1, fun live => ?_⟩
    exact absurd live (leased.expired absent before)

/-- A set whose reply was lost leaves no covered execution. -/
theorem claimFailed (leased : Leased past state) (call : Nat) (applied : Bool) :
    Leased (past ++ [.claimFailed call applied])
      ((state.setKey (if applied then state.setNX.2 else state.key)).move call (.running none)) := by
  cases applied with
  | false => exact leased.move rfl (by intro since began; cases began)
  | true =>
    cases free : state.setNX.1 with
    | true =>
      obtain ⟨absent, _⟩ := setNX_free free
      intro other since executes
      have before := execution_of_move executes (by intro began; cases began)
      refine ⟨(leased other since before).1, fun live => ?_⟩
      exact absurd live (leased.expired absent before)
    | false =>
      have same : state.setNX.2 = state.key := setNX_held free
      rw [same]
      exact leased.move rfl (by intro since began; cases began)

/-- A release by the last claimant leaves no live execution. -/
theorem released (leased : Leased past state) {call since}
    (executes : (state.calls call).execution = some (some since)) (live : state.now ≤ since + executingTTL)
    (applied : Bool) (response : Option ToolResponse) (error : Option Error) :
    Leased (past ++ [.released call applied])
      ((state.setKey (if applied then state.releaseSentinel else state.key)).move call
        (.returned response error)) := by
  obtain ⟨value, found, owned⟩ := leased.found executes live
  by_cases removes : applied = true ∧ value = .executing
  · intro other began later
    have apart : other ≠ call := by
      rintro rfl
      simp [Phase.execution] at later
    have before : (state.calls other).execution = some (some began) := by
      rwa [move_calls_of_ne _ apart] at later
    refine ⟨(leased other began before).1, fun still => ?_⟩
    obtain ⟨same, again, others⟩ := leased.found before still
    rw [found, Option.some.injEq] at again
    have last := others (again ▸ removes.2)
    rw [owned removes.2, Option.some.injEq] at last
    exact absurd last.symm apart
  · have same : (if applied then state.releaseSentinel else state.key) = state.key := by
      cases applied with
      | false => rfl
      | true =>
        cases value with
        | executing => exact absurd ⟨rfl, rfl⟩ removes
        | payload value => exact deleteIf_of_not found rfl
    rw [same]
    exact leased.move rfl (by intro since began; cases began)

/-- A stored result outlives every claim. -/
theorem stored (leased : Leased past state) (call : Nat) (completed : ToolResponse)
    (applied : Bool) (response : Option ToolResponse) (error : Option Error) :
    Leased (past ++ [.stored call state.now applied])
      ((state.setKey (if applied then state.store completed else state.key)).move call
        (.returned response error)) := by
  cases applied with
  | false => exact leased.move rfl (by intro since began; cases began)
  | true =>
    intro other since executes
    have before := execution_of_move executes (by intro began; cases began)
    have began := (leased other since before).1
    refine ⟨began, fun _ => ⟨_, rfl, ?_, by intro sentinel; cases sentinel⟩⟩
    exact Nat.add_le_add began (by decide)

end Leased

/-- One timely step keeps the ownership of the sentinel. -/
theorem Step.leased {next} (taken : Step requests approvalID state event next)
    (timely : Timely state event) (leased : Leased past state) : Leased (past ++ [event]) next := by
  cases taken with
  | tick later passes => exact leased.mono rfl passes rfl fun _ _ executes => executes
  | claimed _ _ free => exact leased.claimed free _
  | claimFailed applied _ _ => exact leased.claimFailed _ applied
  | execReturned response error running =>
    apply leased.move rfl
    intro since kept
    rw [running]
    exact kept
  | released applied _ _ =>
    obtain ⟨since, executes, live⟩ := timely
    exact leased.released executes live applied _ _
  | stored completed applied _ _ => exact leased.stored _ completed applied _ _
  | skipped _ _ | missed _ _ _ | answered _ _ _ | getFailed _ | finished _ _ =>
    exact leased.move rfl (by intro since began; cases began)

theorem leased_of_run {now} (run : Run (Guarded (Step requests approvalID) Timely) (.start now) past state) :
    Leased past state :=
  run.history (fun _ _ _ _ taken leased => taken.1.leased taken.2 leased) (Leased.start now)

/-- No release removes a completed result. -/
theorem Step.release_keeps_payload {next call applied value}
    (taken : Step requests approvalID state (.released call applied) next)
    (completed : state.found = some (.payload value)) : next.key = state.key := by
  cases taken with
  | released _ _ _ =>
    cases applied with
    | false => rfl
    | true => exact deleteIf_of_not completed rfl

/-- A release never removes a completed result, and in a timely schedule it finds the sentinel of
its own call. -/
theorem release_frees_own_claim (requests : Nat → Call Error) (approvalID : String) :
    (∀ state call applied next value, Step requests approvalID state (.released call applied) next →
      state.found = some (.payload value) → next.key = state.key) ∧ ∀ now past state call applied next,
      Run (Guarded (Step requests approvalID) Timely) (.start now) past state →
      Guarded (Step requests approvalID) Timely state (.released call applied) next →
      state.found = some .executing → lastClaim past = some call := by
  constructor
  · intro state call applied next value taken completed
    exact taken.release_keeps_payload completed
  · intro now past state call applied next run taken sentinel
    obtain ⟨since, executes, live⟩ := taken.2
    obtain ⟨value, found, owned⟩ := (leased_of_run run).found executes live
    rw [sentinel, Option.some.injEq] at found
    exact owned found.symm

theorem release_frees_own_claim_failed :
    lastClaim ([.claimed 0, .missed 1, .tick 300000, .execReturned 0 none (some "timeout")] :
      List (Event String)) = some 0 := by
  have run : Run (Guarded (Step Sample.requests "approval") Timely) (.start 0)
      [.claimed 0, .missed 1, .tick 300000, .execReturned 0 none (some "timeout")] _ :=
    .cons ⟨.claimed rfl rfl rfl, trivial⟩ <| .cons ⟨.missed rfl rfl rfl, trivial⟩ <|
    .cons ⟨.tick 300000 (by decide), trivial⟩ <| .cons ⟨.execReturned _ _ rfl, trivial⟩ <| .nil _
  exact (release_frees_own_claim Sample.requests "approval").2 0 _ _ 0 true _ run
    ⟨.released true rfl rfl, 0, rfl, by decide⟩ rfl

/-- An execution that outlives its sentinel releases the one of its successor, and a third call
claims the key. -/
theorem release_removes_successor_claim :
    ∃ past state next final, Run (Step Sample.requests "approval") (.start 0) past state ∧
      lastClaim past = some 1 ∧ state.found = some .executing ∧
      Step Sample.requests "approval" state (.released 0 true) next ∧ next.key = none ∧
      Step Sample.requests "approval" next (.claimed 2) final ∧
      final.calls 1 = .running (some 300001) ∧ final.calls 2 = .running (some 300001) := by
  have run : Run (Step Sample.requests "approval") (.start 0)
      [.claimed 0, .tick 300001, .claimed 1, .execReturned 0 none (some "timeout")] _ :=
    .cons (.claimed rfl rfl rfl) <| .cons (.tick 300001 (by decide)) <|
    .cons (.claimed rfl rfl rfl) <| .cons (.execReturned _ _ rfl) <| .nil _
  exact ⟨_, _, _, _, run, rfl, rfl, .released true rfl rfl, rfl, .claimed rfl rfl rfl, rfl, rfl⟩

end OneVoice.Dedupe
