import OneVoice.Proof.Dedupe.Answers

namespace OneVoice.Dedupe

open Library Domain Dispatches Option Phase

variable {Error : Type} {requests : Nat → Call Error} {approvalID : String}

/-- Redis applies the commands, and no key expires. -/
def Answering (state : Dispatches Error) (event : Event Error) : Prop :=
  Prompt state event ∧ ∀ later entry, event = .tick later → state.key = some entry → later ≤ entry.deadline

/-- Only the sentinel is under the key. -/
def Unsettled (state : Dispatches Error) : Prop := ∀ entry, state.key = some entry → entry.value = .executing

/-- The call has come back and has no success to hand out. -/
def Phase.Failed (phase : Phase Error) : Prop :=
  ∀ response, phase.outcome = some response → phase = .returned (some response) none ∧ response.success = false

/-- A first execution completes and is stored, and later calls get it. -/
inductive Course (past : List (Event Error)) (state : Dispatches Error) : Prop
  | undecided : Owned past state → Unsettled state → (∀ call, (state.calls call).Failed) → Course past state
  | pending (call : Nat) (claim : Option Time) (response : ToolResponse) : Owned past state → Unsettled state →
      state.calls call = .executed claim (some response) none →
      (∀ other ≠ call, (state.calls other).Failed) → Course past state
  | cached (call : Nat) (response : ToolResponse) (instant : Time) :
      Cached call response instant state → state.now ≤ instant + dedupeTTL →
      (∀ other answer, (state.calls other).outcome = some answer → answer.success = true →
        ∀ name, answer.result.lookup name = response.result.lookup name) →
      Course past state

namespace Course

variable {past : List (Event Error)} {state : Dispatches Error}

theorem start (now : Time) : Course [] (.start now : Dispatches Error) :=
  .undecided (Owned.start now) (by intro entry present; cases present) (by intro call response found; cases found)

/-- The successes of two calls agree. -/
theorem agree (course : Course past state) {call other response answer}
    (first : state.calls call = .returned (some response) none) (success : response.success = true)
    (second : state.calls other = .returned (some answer) none) (also : answer.success = true) :
    ∀ name, response.result.lookup name = answer.result.lookup name := by
  cases course with
  | undecided owned unsettled failed =>
    have fails := (failed call response (by rw [first]; rfl)).2
    rw [success] at fails
    cases fails
  | pending winner claim stored owned unsettled ended failed =>
    have apart : call ≠ winner := by
      rintro rfl
      rw [first] at ended
      cases ended
    have fails := (failed call apart response (by rw [first]; rfl)).2
    rw [success] at fails
    cases fails
  | cached winner stored instant cached fresh agrees =>
    intro name
    rw [agrees call response (by rw [first]; rfl) success name, agrees other answer (by rw [second]; rfl) also name]

end Course

theorem failed_of_outcome {phase : Phase Error} (nothing : phase.outcome = none) : phase.Failed := by
  intro response found
  rw [nothing] at found
  cases found

variable {state next : Dispatches Error} {event : Event Error}

/-- While nothing is stored, the gate answers without a success. -/
theorem Unsettled.answer (unsettled : Unsettled state) {taskID response}
    (answered : gateResponse taskID (outcomeAfterMiss state.found) = some response) : response.success = false := by
  cases found : state.found with
  | none =>
    rw [found] at answered
    obtain rfl := some.inj answered
    rfl
  | some value =>
    obtain ⟨entry, kept, same⟩ := map_eq_some_iff.mp found
    have executing := unsettled entry (filter_eq_some_iff.mp kept).1
    rw [found, ← same, executing] at answered
    obtain rfl := some.inj answered
    rfl

/-- What a step does to the key while nothing is stored. -/
theorem Unsettled.step (unsettled : Unsettled state) (taken : Step requests approvalID state event next)
    (other : ∀ call instant applied, event ≠ .stored call instant applied) : Unsettled next := by
  have taken_free : Unsettled (state.setKey state.setNX.2) := by
    intro entry present
    cases free : state.setNX.1 with
    | true =>
      have installed := (Expiring.setNX_free free).2.symm.trans present
      cases installed
      rfl
    | false => exact unsettled entry ((Expiring.setNX_held free).symm.trans present)
  cases taken with
  | claimed idle gated free => exact taken_free
  | claimFailed applied idle gated =>
    cases applied with
    | true => exact taken_free
    | false => exact unsettled
  | released applied ended settles =>
    cases applied with
    | false => exact unsettled
    | true =>
      intro entry present
      change state.releaseSentinel = some entry at present
      unfold releaseSentinel Expiring.deleteIf at present
      split at present
      · cases present
      · exact unsettled entry present
  | stored completed applied ended settles => exact absurd rfl (other _ _ _)
  | _ => exact unsettled

variable {error : Option Error} {response : Option ToolResponse} {call : Nat}

theorem outcome_of_executed {claim} (failed : (executed claim response error).Failed) :
    (returned response error).outcome = none := by
  cases found : (returned response error).outcome with
  | none => rfl
  | some completed => cases (failed completed found).1

/-- A call stays without a success while nothing completes. -/
theorem Step.failed {call : Nat} (taken : Step requests approvalID state event next)
    (unsettled : Unsettled state) (failed : (state.calls call).Failed)
    (incomplete : ∀ response error, event = .execReturned call response error →
      outcome response ((requests call).dispatcher.classify error) = none) : (next.calls call).Failed := by
  have moved : ∀ {other : Nat} {phase : Phase Error} (key : Expiring StoredValue), (other = call → phase.Failed) →
      (((state.setKey key).move other phase).calls call).Failed := by
    intro other phase key own
    by_cases same : call = other
    · subst same
      rw [move_calls_self]
      exact own rfl
    · rwa [move_calls_of_ne _ same]
  cases taken with
  | tick later passes => exact failed
  | skipped idle gated | missed idle gated held | getFailed missed =>
    exact moved state.key fun _ => failed_of_outcome rfl
  | claimed idle gated free | claimFailed applied idle gated =>
    exact moved _ fun _ => failed_of_outcome rfl
  | answered response missed replies =>
    apply moved state.key
    intro _ other found
    obtain rfl := some.inj found
    exact ⟨rfl, unsettled.answer replies⟩
  | execReturned response error running =>
    apply moved state.key
    rintro rfl
    exact failed_of_outcome (incomplete response error rfl)
  | finished ended settles =>
    apply moved state.key
    rintro rfl
    rw [ended] at failed
    exact failed_of_outcome (outcome_of_executed failed)
  | released applied ended settles | stored completed applied ended settles =>
    apply moved
    rintro rfl
    rw [ended] at failed
    exact failed_of_outcome (outcome_of_executed failed)

namespace Course

variable {past : List (Event Error)} {state next : Dispatches Error} {event : Event Error}
  (gated : ∀ call, (requests call).dispatcher.gated approvalID = true)
  (taken : Step requests approvalID state event next)

include gated taken

/-- Nothing is decided until an execution completes. -/
theorem undecided_step (prompt : Prompt state event) (owned : Owned past state)
    (unsettled : Unsettled state) (failed : ∀ call, (state.calls call).Failed) : Course (past ++ [event]) next := by
  have owns := taken.owned gated prompt owned
  have unstored : ∀ call instant applied, event ≠ .stored call instant applied := by
    rintro call instant applied rfl
    cases taken with
    | stored completed _ ended settles =>
      obtain ⟨rfl, rfl⟩ := dedupeStore_store settles
      have fails := failed call
      rw [ended] at fails
      cases (fails completed rfl).1
  have unsettles := unsettled.step taken unstored
  by_cases completes : ∃ call response error, event = .execReturned call (some response) error ∧
      (requests call).dispatcher.classify error = none
  · obtain ⟨call, response, error, rfl, fine⟩ := completes
    have still := fun other (apart : other ≠ call) =>
      taken.failed unsettled (failed other) fun reply problem same => by
        exact absurd (Event.execReturned.inj same).1.symm apart
    cases taken with
    | @execReturned _ claim _ _ running =>
      refine .pending call claim response owns unsettles ?_ still
      rw [move_calls_self, fine]
  · apply Course.undecided owns unsettles
    intro call
    apply taken.failed unsettled (failed call)
    rintro response error rfl
    cases fine : (requests call).dispatcher.classify error with
    | some problem => rfl
    | none =>
      cases response with
      | none => rfl
      | some completed => exact absurd ⟨call, completed, error, rfl, fine⟩ completes

variable {call : Nat} {response : ToolResponse}

theorem pending_step (prompt : Prompt state event) {claim} (owned : Owned past state) (unsettled : Unsettled state)
    (ended : state.calls call = .executed claim (some response) none)
    (failed : ∀ other ≠ call, (state.calls other).Failed) : Course (past ++ [event]) next := by
  have still : ∀ other ≠ call, (next.calls other).Failed := by
    intro other apart
    apply taken.failed unsettled (failed other apart)
    rintro reply problem rfl
    cases taken with
    | execReturned _ _ running =>
      exact absurd (owned.alone (congrArg execution running) (congrArg execution ended)) apart
  rcases taken.pending gated prompt owned ended with ⟨rfl, cached⟩ | ⟨unstored, executed⟩
  · have instant : next.now = state.now := by
      cases taken with
      | stored => rfl
    refine .cached call response state.now cached (instant ▸ Nat.le_add_right _ _) ?_
    intro other answer found success name
    by_cases same : other = call
    · rw [same, cached.done] at found
      obtain rfl := some.inj found
      rfl
    · have fails := (still other same answer found).2
      rw [success] at fails
      cases fails
  · refine .pending call claim response (taken.owned gated prompt owned) (unsettled.step taken ?_) executed still
    rintro other instant applied rfl
    cases taken with
    | stored completed _ also settles =>
      obtain rfl := owned.alone (congrArg execution also) (congrArg execution ended)
      have sent : applied = true := prompt
      exact unstored state.now (by rw [sent])

theorem cached_step (answering : Answering state event) {call response instant}
    (cached : Cached call response instant state) (fresh : state.now ≤ instant + dedupeTTL)
    (agrees : ∀ other answer, (state.calls other).outcome = some answer → answer.success = true →
      ∀ name, answer.result.lookup name = response.result.lookup name) : Course (past ++ [event]) next := by
  have fresh_next : next.now ≤ instant + dedupeTTL := by
    cases taken with
    | tick later passes => exact answering.2 later _ rfl cached.key
    | _ => exact fresh
  refine .cached call response instant (taken.cached gated answering.1 fresh cached) fresh_next ?_
  have moved : ∀ {other : Nat} {phase : Phase Error},
      (∀ answer, phase.outcome = some answer → answer.success = true →
        ∀ name, answer.result.lookup name = response.result.lookup name) →
      ∀ another answer, ((state.move other phase).calls another).outcome = some answer →
        answer.success = true → ∀ name, answer.result.lookup name = response.result.lookup name := by
    intro other phase own another
    by_cases same : another = other
    · rw [same, move_calls_self]
      exact own
    · rw [move_calls_of_ne _ same]
      exact agrees another
  cases taken with
  | tick later passes => exact agrees
  | skipped idle passes =>
    rw [gated] at passes
    cases passes
  | claimed idle _ free =>
    have absent := (Expiring.setNX_free free).1
    rw [show state.key.read state.now = some _ from cached.found fresh] at absent
    cases absent
  | claimFailed _ _ _ | getFailed _ => exact answering.1.elim
  | missed idle _ held =>
    apply moved
    intro answer found
    cases found
  | @answered other reply missed replies =>
    apply moved
    intro answer found success
    obtain rfl := some.inj found
    obtain ⟨copy, given, same⟩ := gateResponse_payload (requests other).taskID response
    rw [cached.found fresh, given] at replies
    obtain rfl := some.inj replies
    exact same.result
  | execReturned _ _ ended | finished ended _ | released _ ended _ | stored _ _ ended _ =>
    exact absurd (congrArg execution ended) cached.not_executing

/-- Every step of a working gate continues the course. -/
theorem step (answering : Answering state event) (course : Course past state) : Course (past ++ [event]) next := by
  cases course with
  | undecided owned unsettled failed =>
    exact undecided_step gated taken answering.1 owned unsettled failed
  | pending call claim response owned unsettled ended failed =>
    exact pending_step gated taken answering.1 owned unsettled ended failed
  | cached call response instant cached fresh agrees =>
    exact cached_step gated taken answering cached fresh agrees

end Course

/-- A call that has returned stays as it is. -/
theorem Step.returned (taken : Step requests approvalID state event next)
    (ended : state.calls call = .returned response error) : next.calls call = .returned response error := by
  cases taken with
  | tick later passes => exact ended
  | skipped found _ | claimed found _ _ | missed found _ _ | claimFailed _ found _
  | answered _ found _ | getFailed found | execReturned _ _ found | finished found _
  | released _ found _ | stored _ _ found _ =>
    exact move_keeps ended (by simp [found])

end OneVoice.Dedupe
