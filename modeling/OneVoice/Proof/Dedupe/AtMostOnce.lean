import OneVoice.Proof.Dedupe.Release

namespace OneVoice.Dedupe

open Library Domain Json Dispatches List Phase

/-- Two responses agree by field, their result maps by name. -/
structure ToolResponse.Same (response other : ToolResponse) : Prop where
  taskID : response.taskID = other.taskID
  success : response.success = other.success
  result : ∀ name, response.result.lookup name = other.result.lookup name
  error : response.error = other.error
  code : response.code = other.code

namespace ToolResponse

theorem decode_result (response : ToolResponse) :
    ∃ result, decodeField (decodeMap some) ∅ "result" response.fields = some result ∧
      ∀ name, result.lookup name = response.result.lookup name := by
  obtain ⟨result, inverse, found⟩ := decodeMap_encodeMap (fun _ => rfl) response.result
  refine ⟨result, ?_, found⟩
  simp (disch := decide) only [fields, decodeField_append_omitEmpty_ne]
  apply decodeField_append_omitEmpty rfl inverse
  intro blank
  have absent : response.result.entries = [] := isEmpty_iff.mp blank
  rw [encodeMap, absent] at inverse
  exact (Option.some.inj inverse).symm

theorem decode_plain (response : ToolResponse) :
    decodeField decodeString "" "task_id" response.fields = some response.taskID ∧
    decodeField decodeBool false "success" response.fields = some response.success ∧
    decodeField decodeString "" "error" response.fields = some response.error ∧
    decodeField decodeString "" "code" response.fields = some response.code := by
  refine ⟨?_, ?_, ?_, ?_⟩ <;> simp (disch := decide) only [fields, decodeField_append_omitEmpty_ne]
  · rfl
  · rfl
  · apply decodeField_append_omitEmpty _ (decodeString_str _) (by simp)
    rw [field?_append_omitEmpty_ne (by decide)]
    rfl
  · apply decodeField_append_omitEmpty _ (decodeString_str _) (by simp)
    rw [field?_append_omitEmpty_ne (by decide), field?_append_omitEmpty_ne (by decide)]
    rfl

/-- A response that was stored decodes to itself. -/
theorem decode_encode (response : ToolResponse) :
    ∃ decoded, decode response.encode = some decoded ∧ decoded.Same response := by
  obtain ⟨result, decoded, found⟩ := response.decode_result
  obtain ⟨taskID, success, error, code⟩ := response.decode_plain
  refine ⟨⟨response.taskID, response.success, result, response.error, response.code⟩, ?_, rfl, rfl, found, rfl, rfl⟩
  simp [decode, encode, taskID, success, decoded, error, code]

end ToolResponse

/-- A completed call is answered as stored, under the new task id. -/
theorem gateResponse_payload (taskID : String) (response : ToolResponse) :
    ∃ answer, gateResponse taskID (outcomeAfterMiss (some (.payload response.encode))) =
        some answer ∧ answer.Same { response with taskID := taskID } := by
  obtain ⟨decoded, inverse, same⟩ := response.decode_encode
  refine ⟨{ decoded with taskID := taskID }, ?_, rfl, same.success, same.result, same.error, same.code⟩
  simp [gateResponse, outcomeAfterMiss, inverse]

variable {Error : Type} {requests : Nat → Call Error} {approvalID : String}

/-- Redis applies every command; no unsettled sentinel expires. -/
def Prompt (state : Dispatches Error) : Event Error → Prop
  | .tick later => ∀ call since, (state.calls call).execution = some (some since) → later ≤ since + executingTTL
  | .claimFailed _ _ | .getFailed _ => False
  | .released _ applied | .stored _ _ applied => applied = true
  | _ => True

/-- The events at which the gate lets a call execute. -/
def Event.starts : Event Error → Bool
  | .skipped _ | .claimed _ | .claimFailed _ _ | .getFailed _ => true
  | _ => false

/-- Every execution has a live claim, and the key no result meanwhile. -/
structure Owned (past : List (Event Error)) (state : Dispatches Error) : Prop where
  leased : Leased past state
  inside : ∀ call claim, (state.calls call).execution = some claim →
    ∃ since, claim = some since ∧ state.now ≤ since + executingTTL
  sentinel : ∀ call claim, (state.calls call).execution = some claim →
    ∀ entry, state.key = some entry → entry.value = .executing

namespace Owned

variable {past : List (Event Error)} {state next : Dispatches Error}

theorem start (now : Time) : Owned [] (.start now : Dispatches Error) where
  leased := Leased.start now
  inside _ _ executes := by cases executes
  sentinel _ _ executes := by cases executes

variable {claim : Option Time} {call : Nat}

/-- An execution made the last claim, and its sentinel is under the key. -/
theorem owner (owned : Owned past state) (executes : (state.calls call).execution = some claim) :
    lastClaim past = some call ∧ state.found = some .executing := by
  obtain ⟨since, rfl, live⟩ := owned.inside call claim executes
  obtain ⟨entry, present, outlives, last⟩ := (owned.leased call since executes).2 live
  have executing := owned.sentinel call _ executes entry present
  have found := Expiring.read_some present (Nat.le_trans live outlives)
  rw [executing] at found
  exact ⟨last executing, found⟩

theorem alone (owned : Owned past state) {other began} (executes : (state.calls call).execution = some claim)
    (another : (state.calls other).execution = some began) : call = other := by
  have last := (owned.owner executes).1
  rw [(owned.owner another).1] at last
  exact (Option.some.inj last).symm

variable {more : List (Event Error)} {phase : Phase Error}

/-- A call may move on with the claim that it has. -/
theorem move (owned : Owned past state) (leased : Leased more (state.move call phase))
    (kept : ∀ claim, phase.execution = some claim → (state.calls call).execution = some claim) :
    Owned more (state.move call phase) where
  leased := leased
  inside other claim executes := owned.inside other claim (execution_of_move executes (kept claim))
  sentinel other claim executes := owned.sentinel other claim (execution_of_move executes (kept claim))

theorem of_quiet (leased : Leased more next) (quiet : ∀ call, (next.calls call).execution = none) :
    Owned more next where
  leased := leased
  inside call claim executes := by
    rw [quiet call] at executes
    cases executes
  sentinel call claim executes := by
    rw [quiet call] at executes
    cases executes

/-- The settlement of the execution leaves none. -/
theorem quiet (owned : Owned past state) (executes : (state.calls call).execution = some claim)
    (settles : phase.execution = none) (key : Expiring StoredValue) (other : Nat) :
    (((state.setKey key).move call phase).calls other).execution = none := by
  by_cases same : other = call
  · rw [same, move_calls_self]
    exact settles
  · rw [move_calls_of_ne _ same, setKey_calls]
    cases another : (state.calls other).execution with
    | none => rfl
    | some began => exact absurd (owned.alone another executes) same

theorem claimed (owned : Owned past state) (free : state.setNX.1 = true) (call : Nat) :
    Owned (past ++ [.claimed call]) ((state.setKey state.setNX.2).move call (.running (some state.now))) where
  leased := owned.leased.claimed free call
  inside other claim executes := by
    obtain ⟨_, ⟨⟩⟩ | ⟨_, old⟩ := view_update execution executes
    · exact ⟨state.now, rfl, Nat.le_add_right _ _⟩
    · exact owned.inside other claim old
  sentinel := by
    obtain ⟨_, installed⟩ := Expiring.setNX_free free
    intro other claim executes entry present
    have value : some _ = some entry := installed.symm.trans present
    cases value
    rfl

end Owned

variable {state next : Dispatches Error} {past : List (Event Error)} {response : ToolResponse}
  {event : Event Error} {call : Nat}

/-- The releases of a prompt schedule are timely. -/
theorem Owned.timely (owned : Owned past state) (taken : Step requests approvalID state event next)
    : Timely state event := by
  cases taken with
  | released applied ended _ =>
    obtain ⟨since, rfl, live⟩ := owned.inside _ _ (congrArg execution ended)
    exact ⟨since, congrArg execution ended, live⟩
  | _ => exact trivial

/-- One prompt step of calls behind the gate keeps the single execution. -/
theorem Step.owned (gated : ∀ call, (requests call).dispatcher.gated approvalID = true)
    (taken : Step requests approvalID state event next) (prompt : Prompt state event)
    (owned : Owned past state) : Owned (past ++ [event]) next := by
  have leased := taken.leased (owned.timely taken) owned.leased
  cases taken with
  | tick later _ =>
    refine ⟨leased, ?_, owned.sentinel⟩
    intro call claim executes
    obtain ⟨since, rfl, _⟩ := owned.inside call claim executes
    exact ⟨since, rfl, prompt call since executes⟩
  | skipped _ passes =>
    rw [gated] at passes
    cases passes
  | claimed _ _ free => exact owned.claimed free _
  | claimFailed _ _ _ | getFailed _ => exact prompt.elim
  | execReturned response error running =>
    apply owned.move leased
    intro claim kept
    rw [running]
    exact kept
  | released applied ended _ | stored completed applied ended _ =>
    exact .of_quiet leased (owned.quiet (congrArg execution ended) rfl _)
  | missed _ _ _ | answered _ _ _ | finished _ _ =>
    exact owned.move leased (by intro claim began; cases began)

variable {now : Time}

theorem owned_of_run (gated : ∀ call, (requests call).dispatcher.gated approvalID = true)
    (run : Run (Guarded (Step requests approvalID) Prompt) (.start now) past state) : Owned past state :=
  run.history (fun _ _ _ _ taken owned => taken.1.owned gated taken.2 owned) (Owned.start now)

/-- A completed response lies under the key; nothing executes. -/
structure Cached (call : Nat) (response : ToolResponse) (instant : Time) (state : Dispatches Error) : Prop where
  key : state.key = some ⟨.payload response.encode, instant + dedupeTTL⟩
  quiet : ∀ other, (state.calls other).execution = none
  done : state.calls call = .returned (some response) none

namespace Cached

variable {call : Nat} {response : ToolResponse} {instant : Time} {state : Dispatches Error}

section

variable (cached : Cached call response instant state)

include cached

theorem found (fresh : state.now ≤ instant + dedupeTTL) : state.found = some (.payload response.encode) :=
  Expiring.read_some cached.key fresh

variable {other : Nat}

theorem not_executing {claim} : (state.calls other).execution ≠ some claim := by
  rw [cached.quiet other]
  intro executes
  cases executes

/-- A call that has not returned may move on without executing. -/
theorem move {phase} (unreturned : state.calls other ≠ .returned (some response) none)
    (rests : phase.execution = none) : Cached call response instant (state.move other phase) where
  key := cached.key
  quiet another := by
    by_cases same : another = other
    · rw [same, move_calls_self]
      exact rests
    · rw [move_calls_of_ne _ same]
      exact cached.quiet another
  done := move_keeps cached.done unreturned

end

end Cached

section

variable (gated : ∀ call, (requests call).dispatcher.gated approvalID = true)
  (taken : Step requests approvalID state event next) (prompt : Prompt state event)

include gated taken prompt

/-- The gate lets a call execute only past a free key. -/
theorem Step.free_of_starts (starts : event.starts = true) : state.found = none := by
  cases taken with
  | claimed _ _ free => exact (Expiring.setNX_free free).1
  | skipped _ passes =>
    rw [gated] at passes
    cases passes
  | claimFailed _ _ _ | getFailed _ => exact prompt.elim
  | _ => cases starts

/-- Until its deadline the stored response stays. -/
theorem Step.cached {instant} (fresh : state.now ≤ instant + dedupeTTL)
    (cached : Cached call response instant state) : Cached call response instant next := by
  have rests : event.starts = false := by
    by_contra starts
    have free := taken.free_of_starts gated prompt (Bool.not_eq_false _ ▸ starts)
    rw [cached.found fresh] at free
    cases free
  cases taken with
  | tick later _ => exact ⟨cached.key, cached.quiet, cached.done⟩
  | skipped _ _ | claimed _ _ _ | claimFailed _ _ _ | getFailed _ => cases rests
  | missed past _ _ | answered _ past _ =>
    exact cached.move (by rw [past]; intro same; cases same) rfl
  | execReturned _ _ ended | finished ended _ | released _ ended _ | stored _ _ ended _ =>
    exact absurd (congrArg execution ended) cached.not_executing

end

/-- After a success the call is about to store the response, or has. -/
inductive Settling (earlier : List (Event Error)) (call : Nat) (response : ToolResponse)
    (past : List (Event Error)) (state : Dispatches Error) : Prop
  | pending (claim : Option Time) : (∀ instant, .stored call instant true ∉ past) → Owned (earlier ++ past) state →
      state.calls call = .executed claim (some response) none →
      Settling earlier call response past state
  | cached (instant : Time) : .stored call instant true ∈ past →
      (state.now ≤ instant + dedupeTTL → Cached call response instant state) →
      Settling earlier call response past state

theorem dedupeStore_completed {dispatcher : Dispatcher Error}
    (gated : dispatcher.gated approvalID = true) (response : ToolResponse) :
    dedupeStore dispatcher approvalID (some response) none = .store response := by
  simp [dedupeStore, gated]

theorem Step.now_le (taken : Step requests approvalID state event next) : state.now ≤ next.now := by
  cases taken with
  | tick _ passes => exact passes
  | _ => exact Nat.le_refl _

section

variable (gated : ∀ call, (requests call).dispatcher.gated approvalID = true)
  (taken : Step requests approvalID state event next) (prompt : Prompt state event)

include gated taken prompt

/-- Before its store the completed call is the only execution. -/
theorem Step.pending {claim : Option Time} (owned : Owned past state)
    (ended : state.calls call = .executed claim (some response) none) :
    (event = .stored call state.now true ∧ Cached call response state.now next) ∨
      ((∀ instant, event ≠ .stored call instant true) ∧
        next.calls call = .executed claim (some response) none) := by
  have stores := dedupeStore_completed (gated call) response
  have only : ∀ {other began reply error}, state.calls other = .executed began reply error →
      other = call ∧ reply = some response ∧ error = none := by
    intro other began reply error also
    have same := owned.alone (congrArg execution also) (congrArg execution ended)
    rw [same, ended] at also
    cases also
    exact ⟨same, rfl, rfl⟩
  cases taken with
  | tick later _ => exact .inr ⟨by simp, ended⟩
  | skipped idle _ | claimed idle _ _ | missed idle _ _ | claimFailed _ idle _
  | answered _ idle _ | getFailed idle | execReturned _ _ idle =>
    exact .inr ⟨by simp, move_keeps ended (by simp [idle])⟩
  | finished also settles | released _ also settles =>
    obtain ⟨rfl, rfl, rfl⟩ := only also
    rw [stores] at settles
    cases settles
  | stored completed applied also settles =>
    obtain ⟨rfl, rfl, rfl⟩ := only also
    rw [stores] at settles
    cases settles
    have sent : applied = true := prompt
    subst sent
    exact .inl ⟨rfl, rfl, owned.quiet (congrArg execution also) rfl _, move_calls_self _ _ _⟩

theorem Step.settling {earlier} (settling : Settling earlier call response past state) :
    Settling earlier call response (past ++ [event]) next := by
  cases settling with
  | pending claim unstored owned ended =>
    rcases taken.pending gated prompt owned ended with ⟨rfl, cached⟩ | ⟨other, still⟩
    · exact .cached state.now (by simp) fun _ => cached
    · refine .pending claim ?_ ?_ still
      · intro instant member
        rcases mem_append.mp member with before | now
        · exact unstored instant before
        · exact other instant (mem_singleton.mp now).symm
      · rw [← append_assoc]
        exact taken.owned gated prompt owned
  | cached instant member held =>
    refine .cached instant (mem_append_left _ member) fun fresh => ?_
    have before := Nat.le_trans taken.now_le fresh
    exact taken.cached gated prompt before (held before)

end

/-- What the key holds after a success, until that expires. -/
inductive Holding (call : Nat) (response : ToolResponse) (past : List (Event Error)) (state : Dispatches Error) : Prop
  | sentinel : (∀ instant, .stored call instant true ∉ past) → state.found = some .executing →
      Holding call response past state
  | result (instant : Time) : .stored call instant true ∈ past → state.now ≤ instant + dedupeTTL →
      Cached call response instant state → Holding call response past state

theorem Settling.holding {earlier} (settling : Settling earlier call response past state)
    (fresh : ∀ instant, .stored call instant true ∈ past → state.now ≤ instant + dedupeTTL) :
    Holding call response past state := by
  cases settling with
  | pending claim unstored owned ended =>
    exact .sentinel unstored (owned.owner (congrArg execution ended)).2
  | cached instant member held =>
    exact .result instant member (fresh instant member) (held (fresh instant member))

namespace Holding

variable {call : Nat} {response : ToolResponse} {past : List (Event Error)} {state next : Dispatches Error}

theorem not_starts (holding : Holding call response past state) {event}
    (gated : ∀ call, (requests call).dispatcher.gated approvalID = true)
    (taken : Step requests approvalID state event next) (prompt : Prompt state event) : event.starts = false := by
  cases starts : event.starts with
  | false => rfl
  | true =>
    have free := taken.free_of_starts gated prompt starts
    cases holding with
    | sentinel _ found =>
      rw [found] at free
      cases free
    | result instant _ fresh cached =>
      rw [cached.found fresh] at free
      cases free

/-- The in-flight envelope before the store, the response after it. -/
theorem answer (holding : Holding call response past state) {other answer}
    (taken : Step requests approvalID state (.answered other answer) next) :
    ((∀ instant, .stored call instant true ∉ past) ∧ answer = inFlightResponse (requests other).taskID) ∨
      ((∃ instant, .stored call instant true ∈ past) ∧
        answer.Same { response with taskID := (requests other).taskID }) := by
  cases taken with
  | answered _ _ replies =>
    cases holding with
    | sentinel unstored found =>
      rw [found] at replies
      exact .inl ⟨unstored, (Option.some.inj replies).symm⟩
    | result instant stored fresh cached =>
      obtain ⟨same, answers, agrees⟩ := gateResponse_payload (requests other).taskID response
      rw [cached.found fresh, answers] at replies
      cases replies
      exact .inr ⟨⟨instant, stored⟩, agrees⟩

end Holding

theorem now_le_of_run {guard : Dispatches Error → Event Error → Prop} {events}
    (run : Run (Guarded (Step requests approvalID) guard) state events next) : state.now ≤ next.now := by
  induction run with
  | nil => exact Nat.le_refl _
  | cons taken _ ih => exact Nat.le_trans taken.1.now_le ih

/-- After a success the key holds its sentinel or its response. -/
theorem holding_of_run (gated : ∀ call, (requests call).dispatcher.gated approvalID = true)
    {now before middle rest last}
    (run : Run (Guarded (Step requests approvalID) Prompt) (.start now)
      (before ++ .execReturned call (some response) none :: (middle ++ rest)) last)
    (fresh : ∀ instant, .stored call instant true ∈ middle ++ rest → last.now ≤ instant + dedupeTTL) :
    ∃ state, Holding call response middle state ∧
      Run (Guarded (Step requests approvalID) Prompt) state rest last := by
  obtain ⟨source, target, head, returned, tail⟩ := run.split_at
  have owned := returned.1.owned gated returned.2 (owned_of_run gated head)
  have ended : ∃ claim, target.calls call = .executed claim (some response) none := by
    cases returned.1 with
    | execReturned _ _ running =>
      rw [move_calls_self, Dispatcher.classify_none]
      exact ⟨_, rfl⟩
  obtain ⟨claim, ended⟩ := ended
  have start : Settling (before ++ [.execReturned call (some response) none]) call response []
      target := .pending claim (by simp) (by simpa using owned) ended
  obtain ⟨state, reached, onward⟩ := tail.split
  have settling := reached.history (fun _ _ _ _ taken settling => taken.1.settling gated taken.2 settling) start
  refine ⟨state, settling.holding fun instant member => ?_, onward⟩
  exact Nat.le_trans (now_le_of_run onward) (fresh instant (mem_append_left _ member))

/-- Past its store, a call that has not returned gets the stored response. -/
theorem Cached.replays {instant} (cached : Cached call response instant state)
    (fresh : state.now ≤ instant + dedupeTTL) (gated : ∀ call, (requests call).dispatcher.gated approvalID = true)
    {other} (waiting : state.calls other = .idle ∨ state.calls other = .missed) :
    ∃ events answer next, Run (Guarded (Step requests approvalID) Prompt) state events next ∧
      next.calls other = .returned (some answer) none ∧
      answer.Same { response with taskID := (requests other).taskID } := by
  have found := cached.found fresh
  obtain ⟨answer, answers, same⟩ := gateResponse_payload (requests other).taskID response
  have replies : ∀ reading : Dispatches Error, reading.calls other = .missed → reading.found = state.found →
      Guarded (Step requests approvalID) Prompt reading (.answered other answer)
        (reading.move other (.returned (some answer) none)) := by
    intro reading missed reads
    refine ⟨.answered answer missed ?_, trivial⟩
    rw [reads, found]
    exact answers
  rcases waiting with idle | missed
  · have misses : state.setNX.1 = false := by
      rw [setNX, Expiring.setNX_taken found]
    have replied := replies (state.move other .missed) (move_calls_self _ _ _) rfl
    exact ⟨_, answer, _, .cons ⟨.missed idle (gated other) misses, trivial⟩ (.single replied),
      move_calls_self _ _ _, same⟩
  · exact ⟨_, answer, _, .single (replies state missed rfl), move_calls_self _ _ _, same⟩

/-- At most one call executes at any time, and until the response of a success expires no other one
starts: calls get the in-flight envelope and then the stored response. -/
theorem approved_tool_at_most_once (requests : Nat → Call Error) {approvalID : String} (approved : approvalID ≠ "")
    (client : ∀ call, (requests call).dispatcher.dedupe = true) {now : Time} {events : List (Event Error)}
    {last : Dispatches Error} (run : Run (Guarded (Step requests approvalID) Prompt) (.start now) events last) :
    (∀ call other claim began, last.calls call = .running claim →
      last.calls other = .running began → call = other) ∧ ∀ before call response after,
      events = before ++ .execReturned call (some response) none :: after →
      (∀ instant, .stored call instant true ∈ after → last.now ≤ instant + dedupeTTL) →
      (∀ event ∈ after, event.starts = false) ∧
      (∀ middle other answer rest, after = middle ++ .answered other answer :: rest →
        ((∀ instant, .stored call instant true ∉ middle) ∧ answer = inFlightResponse (requests other).taskID) ∨
          ((∃ instant, .stored call instant true ∈ middle) ∧
            answer.Same { response with taskID := (requests other).taskID })) ∧
      ((∃ instant, .stored call instant true ∈ after) → last.calls call = .returned (some response) none ∧
        ∀ other, last.calls other = .idle ∨ last.calls other = .missed →
          ∃ more answer final, Run (Guarded (Step requests approvalID) Prompt) last more final ∧
            final.calls other = .returned (some answer) none ∧
            answer.Same { response with taskID := (requests other).taskID }) := by
  have gated : ∀ call, (requests call).dispatcher.gated approvalID = true := by
    intro call
    simp [Dispatcher.gated, client call, approved]
  constructor
  · intro call other claim began running also
    exact (owned_of_run gated run).alone (congrArg execution running) (congrArg execution also)
  intro before call response after position fresh
  subst position
  refine ⟨?_, ?_, ?_⟩
  · intro event member
    obtain ⟨middle, rest, rfl⟩ := append_of_mem member
    obtain ⟨state, holding, onward⟩ := holding_of_run gated run fresh
    cases onward with
    | cons taken _ => exact holding.not_starts gated taken.1 taken.2
  · rintro middle other answer rest rfl
    obtain ⟨state, holding, onward⟩ := holding_of_run gated run fresh
    cases onward with
    | cons taken _ => exact holding.answer taken.1
  · rintro ⟨instant, stored⟩
    rw [← append_nil after] at run fresh
    obtain ⟨state, holding, onward⟩ := holding_of_run gated run fresh
    cases onward
    cases holding with
    | sentinel unstored _ => exact absurd stored (unstored instant)
    | result _ _ unexpired cached =>
      exact ⟨cached.done, fun other waiting => cached.replays unexpired gated waiting⟩

/-- One call executes, a second one waits, a third comes a day later. -/
theorem approved_tool_at_most_once_replayed :
    ∃ last, Run (Guarded (Step Sample.requests "approval") Prompt) (.start 0)
        ([.claimed 0, .missed 1, .tick 300000] ++ .execReturned 0 (some Sample.response) none ::
          [.answered 1 (inFlightResponse "1"), .stored 0 300000 true, .tick 86700000]) last ∧
      last.calls 0 = .returned (some Sample.response) none ∧
      ∃ more answer final, Run (Guarded (Step Sample.requests "approval") Prompt) last more final ∧
        final.calls 2 = .returned (some answer) none ∧ answer.Same { Sample.response with taskID := "2" } := by
  refine Run.reaches (.cons ⟨.claimed rfl rfl rfl, trivial⟩ <| .cons ⟨.missed rfl rfl rfl, trivial⟩ <|
    .cons ⟨.tick _ (by decide), fun _ since _ => Nat.le_add_left _ since⟩ <|
    .cons ⟨.execReturned _ _ rfl, trivial⟩ <| .cons ⟨.answered _ rfl rfl, trivial⟩ <|
    .cons ⟨.stored _ true rfl rfl, rfl⟩ <|
    .cons ⟨.tick _ (by decide), fun
      | 0, _, executes | 1, _, executes | _ + 2, _, executes => by cases executes⟩ <| .nil _)
    fun run => ?_
  have stored : ∃ instant, (.stored 0 instant true : Event String) ∈
      [.answered 1 (inFlightResponse "1"), .stored 0 300000 true, .tick 86700000] :=
    ⟨300000, by simp⟩
  obtain ⟨_, _, replays⟩ := (approved_tool_at_most_once Sample.requests (by decide)
    (fun _ => rfl) run).2 _ 0 Sample.response _ rfl (by simp [dedupeTTL])
  exact ⟨(replays stored).1, (replays stored).2 2 (.inl rfl)⟩

/-- Without an approval id or a client two executions run side by side; with both, a call before the
store gets the in-flight envelope. -/
theorem dispatch_not_replayed :
    (∃ events last, Run (Guarded (Step Sample.requests "") Prompt) (.start 0) events last ∧
      last.calls 0 = .running none ∧ last.calls 1 = .running none) ∧
    (∃ events last, Run (Guarded (Step (fun call => ⟨⟨false, none⟩, toString call⟩) "approval")
        Prompt) (.start 0 : Dispatches String) events last ∧
      last.calls 0 = .running none ∧ last.calls 1 = .running none) ∧
    ∃ last, Run (Guarded (Step Sample.requests "approval") Prompt) (.start 0)
        [.claimed 0, .execReturned 0 (some Sample.response) none, .missed 1,
          .answered 1 (inFlightResponse "1"), .stored 0 0 true] last ∧
      ¬ (inFlightResponse "1").Same { Sample.response with taskID := "1" } := by
  have ungated : ∀ requests : Nat → Call String, ∀ approvalID,
      (∀ call, (requests call).dispatcher.gated approvalID = false) →
      ∃ events last, Run (Guarded (Step requests approvalID) Prompt) (.start 0) events last ∧
        last.calls 0 = .running none ∧ last.calls 1 = .running none := by
    intro requests approvalID passes
    exact ⟨[.skipped 0, .skipped 1], _, .cons ⟨.skipped rfl (passes 0), trivial⟩ <|
      .cons ⟨.skipped rfl (passes 1), trivial⟩ <| .nil _, rfl, rfl⟩
  refine ⟨ungated _ _ fun _ => rfl, ungated _ _ fun _ => rfl, _,
    .cons ⟨.claimed rfl rfl rfl, trivial⟩ <| .cons ⟨.execReturned _ _ rfl, trivial⟩ <|
    .cons ⟨.missed rfl rfl rfl, trivial⟩ <| .cons ⟨.answered _ rfl rfl, trivial⟩ <|
    .cons ⟨.stored _ true rfl rfl, rfl⟩ <| .nil _, ?_⟩
  intro same
  cases same.success

end OneVoice.Dedupe
