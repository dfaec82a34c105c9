import OneVoice.Construction.Tasks.Retry
import OneVoice.Proof.Dedupe.Agreement

namespace OneVoice.Tasks

open Library Domain Dedupe Function List Tasks.Action Option

variable {Error : Type} {requests : Nat → Dedupe.Call Error} {describe : Error → String × String}

/-- The calls, their recorded results, and how many they saw. -/
structure Watched (Error : Type) where
  service : Service Error
  recorded : List Args
  since : Nat → Nat

/-- The result that an action records with the status `done`. -/
def Action.result (action : Action Error) (service : Service Error) : List Args :=
  match action with
  | .record id _ =>
    match service.retries id with
    | some ⟨_, .answered (.ok result)⟩ => [result]
    | _ => []
  | _ => []

/-- The call that writes the task with the status `error`. -/
def Action.fails (action : Action Error) (service : Service Error) : Option Nat :=
  match action with
  | .freeze id =>
    match service.retries id with
    | some ⟨task, .loaded⟩ => if task.freezeRetryIntent.isSome then some id else none
    | _ => none
  | .record id _ =>
    match service.retries id with
    | some ⟨_, .answered (.error _)⟩ => some id
    | _ => none
  | _ => none

def Action.loads : Action Error → Option Nat
  | .load id => some id
  | _ => none

def Watched.start (task : AgentTask) (sent : Nat → Bool) (now : Time) : Watched Error :=
  ⟨.start task sent now, [], fun _ => 0⟩

def WatchedStep (requests : Nat → Dedupe.Call Error) (describe : Error → String × String)
    (first : Watched Error) (action : Action Error) (last : Watched Error) : Prop :=
  Step requests describe first.service action last.service ∧
    last.recorded = first.recorded ++ action.result first.service ∧
    last.since = match action.loads with
      | none => first.since
      | some id => update first.since id first.recorded.length

/-- The agent's gate answers for calls in flight or completed. -/
def Watched.GateAnswers (watched : Watched Error) (action : Action Error) : Prop :=
  ∀ event, action = .agent event → Answering watched.service.agent event

/-- A call writes an error only if no success came since it loaded. -/
def Watched.Undisturbed (watched : Watched Error) (action : Action Error) : Prop :=
  ∀ id, action.fails watched.service = some id → watched.recorded.length = watched.since id

/-- The task is done and has every result that a call has recorded. -/
def Watched.Kept (watched : Watched Error) : Prop :=
  ∀ result ∈ watched.recorded, watched.service.task.status = .done ∧
    ∀ name, (watched.service.task.output.getD ∅).lookup name = result.lookup name

/-- The agent has handed out the result with a success. -/
def Handed (agent : Dispatches Error) (result : Args) : Prop :=
  ∃ call response, agent.calls call = .returned (some response) none ∧ response.success = true ∧
    ∀ name, result.lookup name = response.result.lookup name

/-- The task is done with a result of the agent. -/
def Carries (agent : Dispatches Error) (task : AgentTask) : Prop :=
  task.status = .done ∧ Handed agent (task.output.getD ∅)

/-- What holds for a call in each phase. -/
def Retry.Sound (watched : Watched Error) (id : Nat) (retry : Retry) : Prop :=
  match retry.phase with
  | .loaded | .ready | .sent | .answered (.error _) =>
    retry.task.status = .error ∧ watched.since id = 0
  | .answered (.ok result) => Handed watched.service.agent result
  | .recorded => watched.recorded ≠ []
  | .reloaded => watched.recorded ≠ [] ∧ Carries watched.service.agent retry.task
  | .ended => True

structure Sound (approvalID : String) (watched : Watched Error) : Prop where
  key : watched.service.task.retryApprovalID = approvalID
  course : ∃ past, Course past watched.service.agent
  recorded : ∀ result ∈ watched.recorded, Handed watched.service.agent result
  carries : watched.recorded ≠ [] → Carries watched.service.agent watched.service.task
  retries : ∀ id retry, watched.service.retries id = some retry → retry.Sound watched id

theorem sound_start (task : AgentTask) (sent : Nat → Bool) (now : Time) :
    Sound task.retryApprovalID (.start task sent now : Watched Error) where
  key := rfl
  course := ⟨[], Course.start now⟩
  recorded _ member := by cases member
  carries nonempty := by
    cases nonempty rfl
  retries _ _ found := by cases found

theorem Sound.kept {approvalID : String} {watched : Watched Error}
    (sound : Sound approvalID watched) : watched.Kept := by
  intro result member
  obtain ⟨done, call, response, ended, success, found⟩ := sound.carries (ne_nil_of_mem member)
  obtain ⟨other, answer, also, succeeded, same⟩ := sound.recorded result member
  obtain ⟨past, course⟩ := sound.course
  refine ⟨done, fun name => ?_⟩
  rw [found name, same name]
  exact course.agree ended success also succeeded name

section

variable {approvalID : String} {watched : Watched Error} {stored task : AgentTask} {id : Nat}

/-- An update with status `done` carries a result of the agent, or none. -/
theorem carries_update {agent : Dispatches Error} (done : task.status = .done)
    (handed : ∀ result, task.output = some result → Handed agent result)
    (before : task.output = none → Carries agent stored) : Carries agent (stored.update task) := by
  refine ⟨done, ?_⟩
  simp only [AgentTask.update]
  cases output : task.output with
  | none => exact (before output).2
  | some result =>
    obtain ⟨call, response, ended, success, same⟩ := handed result output
    refine ⟨call, response, ended, success, fun name => ?_⟩
    rw [← same name]
    by_cases blank : result.entries.isEmpty
    · have empty : result = ∅ := AList.ext (isEmpty_iff.mp blank)
      simp [empty]
    · simp [blank]

variable {frozen : AgentTask} {result : Args}

theorem freezeRetryIntent_status (freezes : task.freezeRetryIntent = some frozen) :
    frozen.status = task.status := by
  unfold AgentTask.freezeRetryIntent at freezes
  simp only [ite_none_left_eq_some, some.injEq] at freezes
  obtain ⟨_, _, rfl⟩ := freezes
  rfl

theorem scheduleVerification_eq {scheduled} (schedules : task.scheduleVerification = some scheduled) :
    scheduled.status = task.status ∧ scheduled.output = task.output := by
  unfold AgentTask.scheduleVerification at schedules
  simp only [ite_none_left_eq_some, some.injEq] at schedules
  obtain ⟨_, rfl⟩ := schedules
  exact ⟨rfl, rfl⟩

theorem handed_of_decode {agent taskID response error decoded} (ended : agent.calls id = .returned response error)
    (received : ToolResponse.decode (reply describe taskID response error).encode = some decoded)
    (success : dispatchOutcome decoded = .ok result) : Handed agent result := by
  obtain ⟨copy, given, same⟩ := (reply describe taskID response error).decode_encode
  rw [received] at given
  obtain rfl := some.inj given
  have succeeded : decoded.success = true := by
    by_contra fails
    rw [dispatchOutcome, if_neg fails] at success
    cases success
  rw [dispatchOutcome, if_pos succeeded] at success
  obtain rfl := Except.ok.inj success
  rw [same.success] at succeeded
  match response, error with
  | _, some problem => cases succeeded
  | none, none => cases succeeded
  | some response, none => exact ⟨id, response, ended, succeeded, same.result⟩

variable {service : Service Error} {action : Action Error} {next : Watched Error} {retry : Retry}

theorem Retry.Sound.mono (sound : retry.Sound watched id)
    (handed : ∀ result, Handed watched.service.agent result → Handed next.service.agent result)
    (same : next.since id = watched.since id) (more : watched.recorded ≠ [] → next.recorded ≠ []) :
    retry.Sound next id := by
  obtain ⟨task, phase⟩ := retry
  cases phase with
  | answered outcome =>
    cases outcome with
    | ok result => exact handed result sound
    | error failure => exact ⟨sound.1, same.trans sound.2⟩
  | recorded => exact more sound
  | reloaded => exact ⟨more sound.1, sound.2.1, handed _ sound.2.2⟩
  | ended => trivial
  | _ => exact ⟨sound.1, same.trans sound.2⟩

/-- A step of one call that leaves the agent alone. -/
theorem Sound.move {more since} (sound : Sound approvalID watched)
    (key : service.task.retryApprovalID = watched.service.task.retryApprovalID)
    (agent : service.agent = watched.service.agent)
    (retries : service.retries = update watched.service.retries id (some retry))
    (others : ∀ other ≠ id, since other = watched.since other)
    (handed : ∀ result ∈ more, Handed watched.service.agent result)
    (carries : watched.recorded ++ more ≠ [] → Carries watched.service.agent service.task)
    (own : retry.Sound ⟨service, watched.recorded ++ more, since⟩ id) :
    Sound approvalID ⟨service, watched.recorded ++ more, since⟩ where
  key := key.trans sound.key
  course := by
    rw [agent]
    exact sound.course
  recorded result member := by
    rw [agent]
    rcases mem_append.mp member with before | now
    · exact sound.recorded result before
    · exact handed result now
  carries := by
    rw [agent]
    exact carries
  retries other found listed := by
    rw [retries] at listed
    obtain ⟨rfl, ⟨⟩⟩ | ⟨same, old⟩ := cell_update listed
    · exact own
    · apply (sound.retries other found old).mono
      · intro result handed
        change Handed service.agent result
        rw [agent]
        exact handed
      · exact others other same
      · intro nonempty
        exact append_ne_nil_of_left_ne_nil nonempty more

/-- A move that writes nothing. -/
theorem Sound.keep (sound : Sound approvalID watched) (own : ∀ service, service.agent = watched.service.agent →
      retry.Sound ⟨service, watched.recorded ++ [], watched.since⟩ id) :
    Sound approvalID ⟨watched.service.move id retry, watched.recorded ++ [], watched.since⟩ := by
  refine sound.move rfl rfl rfl (fun _ _ => rfl) ?_ ?_ (own _ rfl)
  · intro result member
    cases member
  · intro nonempty
    rw [append_nil] at nonempty
    exact sound.carries nonempty

/-- The agent may go on with the calls that have not returned. -/
theorem Sound.agent {event next}
    (gated : ∀ call, (requests call).dispatcher.gated approvalID = true) (sound : Sound approvalID watched)
    (taken : Dedupe.Step requests watched.service.task.retryApprovalID watched.service.agent event next)
    (answers : Answering watched.service.agent event) :
    Sound approvalID ⟨{ watched.service with agent := next }, watched.recorded ++ [], watched.since⟩ := by
  rw [sound.key] at taken
  have handed : ∀ result, Handed watched.service.agent result → Handed next result := by
    rintro result ⟨call, response, ended, success⟩
    exact ⟨call, response, taken.returned ended, success⟩
  rw [append_nil]
  constructor
  · exact sound.key
  · obtain ⟨past, course⟩ := sound.course
    exact ⟨past ++ [event], course.step gated taken answers⟩
  · intro result member
    exact handed result (sound.recorded result member)
  · intro nonempty
    have carried := sound.carries nonempty
    exact ⟨carried.1, handed _ carried.2⟩
  · intro id retry found
    exact (sound.retries id retry found).mono handed rfl fun nonempty => nonempty

theorem status_of_retryable (retryable : task.retryable = true) : task.status = .error := by
  simp only [AgentTask.retryable, Bool.and_eq_true, beq_iff_eq] at retryable
  exact retryable.1.2

/-- Nothing is recorded while the task is in error. -/
theorem Sound.recorded_nil (sound : Sound approvalID watched)
    (failed : watched.service.task.status = .error) : watched.recorded = [] := by
  by_contra nonempty
  have done := (sound.carries nonempty).1
  rw [failed] at done
  cases done

/-- Nothing is recorded when a call may write an error. -/
theorem recorded_nil_of_fails (undisturbed : watched.Undisturbed action)
    (fails : action.fails watched.service = some id) (fresh : watched.since id = 0) : watched.recorded = [] := by
  have length := undisturbed id fails
  rw [fresh] at length
  exact length_eq_zero_iff.mp length

theorem fails_of_freeze (found : service.retries id = some ⟨task, .loaded⟩)
    (freezes : task.freezeRetryIntent = some frozen) : (freeze id).fails service = some id := by
  simp [fails, found, freezes]

theorem fails_of_fail {failure} (now : Time)
    (found : service.retries id = some ⟨task, .answered (.error failure)⟩) :
    (record id now).fails service = some id ∧ (record id now).result service = [] := by
  simp [fails, result, found]

theorem result_of_record {now} (found : service.retries id = some ⟨task, .answered (.ok result)⟩) :
    (record id now).result service = [result] := by
  simp [Action.result, found]

/-- One step of the calls, where a failing call was not disturbed. -/
theorem Sound.step (gated : ∀ call, (requests call).dispatcher.gated approvalID = true)
    (sound : Sound approvalID watched) (taken : WatchedStep requests describe watched action next)
    (answers : watched.GateAnswers action) (undisturbed : watched.Undisturbed action) : Sound approvalID next := by
  obtain ⟨service, recorded, since⟩ := next
  obtain ⟨stepped, rfl, rfl⟩ := taken
  have silent : ∀ result ∈ ([] : List Args), Handed watched.service.agent result := by simp
  cases stepped with
  | load absent unsent retryable =>
    have failed := status_of_retryable retryable
    have nothing := sound.recorded_nil failed
    refine sound.move rfl rfl rfl (fun other apart => update_of_ne apart _ _) silent ?_ ⟨failed, ?_⟩
    · intro nonempty
      exact absurd nothing (by simpa [result] using nonempty)
    · simp [loads, nothing]
  | freeze found freezes =>
    have before := sound.retries _ _ found
    have nothing := recorded_nil_of_fails undisturbed (fails_of_freeze found freezes) before.2
    refine sound.move rfl rfl rfl (fun _ _ => rfl) silent ?_
      ⟨(freezeRetryIntent_status freezes).trans before.1, before.2⟩
    · intro nonempty
      exact absurd nothing (by simpa [result] using nonempty)
  | unfrozen found keeps | lost message found => exact sound.keep fun _ _ => sound.retries _ _ found
  | send found built =>
    refine sound.move rfl rfl rfl (fun _ _ => rfl) silent ?_ (sound.retries _ _ found)
    · intro nonempty
      exact sound.carries (by simpa [result] using nonempty)
  | agent requested taken => exact sound.agent gated taken (answers _ rfl)
  | @answer id task response error decoded found ended received =>
    refine sound.keep fun service same => ?_
    cases outcome : dispatchOutcome decoded with
    | ok result =>
      change Handed service.agent result
      rw [same]
      exact handed_of_decode ended received outcome
    | error failure => exact sound.retries _ _ found
  | @record id task result now found =>
    have handed : Handed watched.service.agent result := sound.retries _ _ found
    rw [result_of_record found]
    refine sound.move rfl rfl rfl (fun _ _ => rfl) ?_ ?_ (append_ne_nil_of_right_ne_nil _ ?_)
    · intro other member
      rw [mem_singleton.mp member]
      exact handed
    · intro _
      apply carries_update rfl
      · intro other output
        obtain rfl := some.inj output
        exact handed
      · intro output
        cases output
    · exact cons_ne_nil _ _
  | @fail id task failure now found =>
    have before := sound.retries _ _ found
    obtain ⟨fails, nothing⟩ := fails_of_fail now found
    have empty := recorded_nil_of_fails undisturbed fails before.2
    rw [nothing]
    refine sound.move rfl rfl rfl (fun _ _ => rfl) silent ?_ trivial
    · intro nonempty
      exact absurd empty (by simpa using nonempty)
  | reload found =>
    have nonempty : watched.recorded ≠ [] := sound.retries _ _ found
    refine sound.keep fun service same => ⟨?_, ?_⟩
    · rw [append_nil]
      exact nonempty
    · rw [same]
      exact sound.carries nonempty
  | schedule found schedules =>
    obtain ⟨nonempty, done, handed⟩ := sound.retries _ _ found
    obtain ⟨status, output⟩ := scheduleVerification_eq schedules
    refine sound.move rfl rfl rfl (fun _ _ => rfl) silent ?_ trivial
    · intro _
      apply carries_update (status.trans done)
      · intro result carried
        rw [output] at carried
        rw [carried] at handed
        exact handed
      · intro _
        exact sound.carries nonempty
  | stop found => exact sound.keep fun _ _ => trivial

/-- The write of a failing call leaves the task in error. -/
theorem Sound.error_of_fails (sound : Sound approvalID watched)
    (taken : Step requests describe watched.service action service) (fails : action.fails watched.service = some id) :
    service.task.status = .error ∧ watched.since id = 0 := by
  cases taken with
  | @freeze other task frozen found freezes =>
    rw [fails_of_freeze found freezes] at fails
    obtain rfl := some.inj fails
    have before := sound.retries _ _ found
    exact ⟨(freezeRetryIntent_status freezes).trans before.1, before.2⟩
  | unfrozen found keeps =>
    simp only [Action.fails, found, keeps] at fails
    cases fails
  | record now found =>
    simp only [Action.fails, found] at fails
    cases fails
  | @fail other task failure now found =>
    rw [(fails_of_fail now found).1] at fails
    obtain rfl := some.inj fails
    exact ⟨rfl, (sound.retries _ _ found).2⟩
  | _ => cases fails

theorem Sound.not_kept (sound : Sound approvalID watched) (taken : WatchedStep requests describe watched action next)
    (disturbed : ¬ watched.Undisturbed action) : ¬ next.Kept := by
  intro kept
  apply disturbed
  intro id fails
  obtain ⟨error, fresh⟩ := sound.error_of_fails taken.1 fails
  rw [fresh, length_eq_zero_iff]
  by_contra nonempty
  obtain ⟨result, member⟩ := exists_mem_of_ne_nil _ nonempty
  have done := (kept result (by rw [taken.2.1]; exact mem_append_left _ member)).1
  rw [error] at done
  cases done

end

namespace Sample

def task : AgentTask where
  id := "task"
  type := "send_channel_post"
  platform := "telegram"
  input := some ∅
  status := .error
  error := "timeout"
  errorCode := "transient"
  dispatchApprovalID := "batch-call"

def withoutCode (error : String) : String × String := (error, "")

def start : Watched String := .start task (fun _ => false) 0

abbrev SampleStep : Watched String → Action String → Watched String → Prop :=
  Guarded (WatchedStep Dedupe.Sample.requests withoutCode) fun watched action =>
    watched.GateAnswers action ∧ watched.Undisturbed action

variable {watched : Watched String} {action : Action String} {service : Service String}

/-- The state after a step to the given service. -/
def observe (watched : Watched String) (action : Action String) (service : Service String) : Watched String where
  service := service
  recorded := watched.recorded ++ action.result watched.service
  since := match action.loads with
    | none => watched.since
    | some id => update watched.since id watched.recorded.length

theorem caller_step (taken : Step Dedupe.Sample.requests withoutCode watched.service action service)
    (caller : ∀ event, action ≠ .agent event) (succeeds : action.fails watched.service = none) :
    SampleStep watched action (observe watched action service) := by
  refine ⟨⟨taken, rfl, rfl⟩, fun event same => absurd same (caller event), fun id fails => ?_⟩
  rw [succeeds] at fails
  cases fails

theorem agent_step {event call next}
    (about : Reviews.eventCall event = some call) (requested : watched.service.sent call = true)
    (taken : Dedupe.Step Dedupe.Sample.requests watched.service.task.retryApprovalID watched.service.agent event next)
    (prompt : Prompt watched.service.agent event) :
    SampleStep watched (.agent event) (observe watched (.agent event) { watched.service with agent := next }) := by
  refine ⟨⟨.agent ?_ taken, rfl, rfl⟩, fun other same => ?_, fun id fails => by cases fails⟩
  · intro other also
    rw [about] at also
    obtain rfl := some.inj also
    exact requested
  · obtain rfl := agent.inj same
    refine ⟨prompt, fun later _ tick => ?_⟩
    rw [tick] at about
    cases about

/-- Two calls load the task: one succeeds, one is told it is in flight. -/
def overlapping : List (Action String) :=
  [.load 1, .freeze 1, .send 1, .load 2, .freeze 2, .send 2, .agent (.claimed 1),
    .agent (.missed 2), .agent (.answered 2 (inFlightResponse "2")),
    .agent (.execReturned 1 (some Dedupe.Sample.response) none), .agent (.stored 1 0 true),
    .answer 1, .record 1 0, .answer 2]

theorem overlapping_run : ∃ watched, Run SampleStep start overlapping watched ∧
    watched.recorded = [Dedupe.Sample.response.result] ∧ watched.service.retries 2 = some ⟨task, .answered
      (.error ⟨"agent error: duplicate: already in flight", "transient"⟩)⟩ := by
  refine ⟨_, .cons (caller_step (.load rfl rfl rfl) (by simp) rfl) <|
    .cons (caller_step (.unfrozen rfl rfl) (by simp) rfl) <|
    .cons (caller_step (.send rfl rfl) (by simp) rfl) <|
    .cons (caller_step (.load rfl rfl rfl) (by simp) rfl) <|
    .cons (caller_step (.unfrozen rfl rfl) (by simp) rfl) <|
    .cons (caller_step (.send rfl rfl) (by simp) rfl) <|
    .cons (agent_step rfl rfl (.claimed rfl rfl rfl) trivial) <|
    .cons (agent_step rfl rfl (.missed rfl rfl rfl) trivial) <|
    .cons (agent_step rfl rfl (.answered _ rfl rfl) trivial) <|
    .cons (agent_step rfl rfl (.execReturned _ _ rfl) trivial) <|
    .cons (agent_step rfl rfl (.stored _ _ rfl rfl) rfl) <|
    .cons (caller_step (.answer rfl rfl rfl) (by simp) rfl) <|
    .cons (caller_step (.record _ rfl) (by simp) rfl) <|
    .cons (caller_step (.answer rfl rfl rfl) (by simp) rfl) <|
    .nil _, rfl, rfl⟩

end Sample

/-- A recorded result stays while no failing call is disturbed, and any other failing write removes
it. -/
theorem succeeded_retry_kept {task : AgentTask} {sent : Nat → Bool} {now : Time} {past : List (Action Error)}
    {watched : Watched Error} (gated : ∀ call, (requests call).dispatcher.gated task.retryApprovalID = true)
    (run : Run (Guarded (WatchedStep requests describe) fun watched action =>
      watched.GateAnswers action ∧ watched.Undisturbed action) (.start task sent now) past watched) :
    watched.Kept ∧ ∀ action next, WatchedStep requests describe watched action next →
      watched.GateAnswers action → (next.Kept ↔ watched.Undisturbed action) := by
  have sound : Sound task.retryApprovalID watched :=
    run.invariant (fun _ _ _ taken sound => sound.step gated taken.1 taken.2.1 taken.2.2)
      (sound_start task sent now)
  refine ⟨sound.kept, fun action next taken answers => ⟨?_, ?_⟩⟩
  · intro kept
    by_contra disturbed
    exact sound.not_kept taken disturbed kept
  · intro undisturbed
    exact (sound.step gated taken answers undisturbed).kept

theorem succeeded_retry_kept_overlapping : ∃ watched,
    Run Sample.SampleStep Sample.start Sample.overlapping watched ∧
      watched.recorded = [Dedupe.Sample.response.result] ∧ watched.Kept := by
  obtain ⟨watched, run, recorded, _⟩ := Sample.overlapping_run
  exact ⟨watched, run, recorded, (succeeded_retry_kept (fun _ => rfl) run).1⟩

/-- The second call writes its error over the success of the first one. -/
theorem duplicate_restores_error : ∃ past watched,
    Run (Guarded (WatchedStep Dedupe.Sample.requests Sample.withoutCode) Watched.GateAnswers)
      Sample.start past watched ∧ watched.recorded = [Dedupe.Sample.response.result] ∧
      watched.service.task.status = .error ∧ ¬ watched.Kept := by
  obtain ⟨watched, run, recorded, answered⟩ := Sample.overlapping_run
  have answers : watched.GateAnswers (.record 2 0) := by
    intro event same
    cases same
  have silent : (record 2 0).result watched.service = [] := (fails_of_fail 0 answered).2
  refine ⟨_, Sample.observe watched (.record 2 0) _,
    (run.mono fun _ _ _ taken => ⟨taken.1, taken.2.1⟩).snoc ⟨⟨.fail 0 answered, rfl, rfl⟩, answers⟩, ?_, rfl, ?_⟩
  · simp only [Sample.observe, recorded, silent, append_nil]
  · intro kept
    cases (kept Dedupe.Sample.response.result (mem_append_left _ (by rw [recorded]; exact mem_cons_self))).1

end OneVoice.Tasks
