import OneVoice.Proof.ChatTurn.Writes

/-! A fresh turn that returns leaves its reserved message settled, unless the stream did not open. -/

namespace OneVoice.ChatTurn

open Domain Messages List Exchange Failure

def Event.pauses (event : Event) : Bool := event.type = .toolApprovalRequired

def Event.callIDs (event : Event) : List String := event.calls.map Agent.ApprovalCall.callID

/-- The last pause frame wins. -/
def lastPause (events : List Event) : Option Event := (events.filter Event.pauses).getLast?

/-- The last pause names its calls once, and all earlier ones. -/
def NamesCallsOnce (events : List Event) : Prop :=
  ∀ last, lastPause events = some last → last.callIDs.Nodup ∧
    ∀ event ∈ events, event.pauses → ∀ id ∈ event.callIDs, id ∈ last.callIDs

/-- The orchestrator answers with 200, or the request fails before. -/
def Exchange.Opens : Exchange → Prop
  | .unflushable => True
  | .unbuilt cause => cause.canceled = true ∨ cause.mentions "stream chat" = false
  | .unreachable cause => cause.canceled = true
  | .responded response => response.status = 200

/-- The message has one call of an identifier, and it is pending. -/
def Message.PendingOnce (message : Message) (id : String) : Prop :=
  ∃ call, (message.toolCalls.filter fun call => call.id = id) = [call] ∧ call.status = .pending

/-- The reserved message at its turn's return, and a later request. -/
structure Settled (request : TurnRequest) (around : Surroundings) (after : Messages) : Prop where
  closed : ∃ message, after.find around.streamStartID = some message ∧ message.status ≠ .inProgress ∧
    (message.status = .pendingApproval ↔ ∃ event ∈ around.exchange.events, event.pauses) ∧
    ∀ event ∈ around.exchange.events, event.pauses → ∀ id ∈ event.callIDs, message.PendingOnce id
  admits : ∀ (later : Messages) (next : TurnRequest) (meets : Surroundings) (left : Messages),
    later.find around.streamStartID = after.find around.streamStartID →
    next.conversationID = request.conversationID →
    meets.active ∈ later.findByConversationActive next.conversationID →
    admission later next meets = .over .turnInProgress left →
      ∃ blocker, meets.active = .ok blocker ∧ blocker.id ≠ around.streamStartID

/-- The store takes every write of the turn; its new identifiers are new. -/
structure Surroundings.Stores (around : Surroundings) (messages : Messages) : Prop where
  taken : around.failing = .nothing
  named : around.streamStartID ≠ ""
  distinct : around.userMessageID ≠ around.streamStartID
  absent : messages.find around.streamStartID = none

section Dispatch

/-- The events of a stream after their last one. -/
theorem foldl_pauseEvent (events : List Event) (state : StreamState) :
    (events.foldl dispatchEvent state).pauseEvent = (lastPause events).or state.pauseEvent := by
  induction events generalizing state with
  | nil => rfl
  | cons event events ih =>
    have first : (dispatchEvent state event).pauseEvent =
        if event.pauses then some event else state.pauseEvent := by
      unfold dispatchEvent Event.pauses
      cases event.type <;> rfl
    rw [foldl_cons, ih, first]
    unfold lastPause
    rw [filter_cons]
    split
    · rw [getLast?_cons]
      cases (events.filter Event.pauses).getLast? <;> rfl
    · rfl

/-- An error frame leaves a code, and no later frame removes it. -/
theorem foldl_streamErrCode (events : List Event) (state : StreamState) :
    (events.foldl dispatchEvent state).streamErrCode = "" ↔
      state.streamErrCode = "" ∧ ∀ event ∈ events, event.type ≠ .error := by
  induction events generalizing state with
  | nil => simp
  | cons event events ih =>
    have first : (dispatchEvent state event).streamErrCode = "" ↔
        state.streamErrCode = "" ∧ event.type ≠ .error := by
      unfold dispatchEvent
      cases type : event.type with
      | error =>
        by_cases blank : event.code = "" <;> simp [blank]
      | _ => simp
    rw [foldl_cons, ih, first, forall_mem_cons, and_assoc]

/-- A call that was streamed carries no approval status. -/
theorem foldl_toolCalls (events : List Event) (state : StreamState)
    (start : ∀ call ∈ state.toolCalls, call.status = .unset) :
    ∀ call ∈ (events.foldl dispatchEvent state).toolCalls, call.status = .unset := by
  induction events generalizing state with
  | nil => exact start
  | cons event events ih =>
    apply ih
    unfold dispatchEvent
    cases event.type with
    | toolCall =>
      intro call member
      rcases mem_append.mp member with earlier | added
      · exact start call earlier
      · rw [mem_singleton.mp added]
    | _ => exact start

end Dispatch

section Stream

/-- The frames that the state of the turn is folded over. -/
def Exchange.frames (exchange : Exchange) : List Event :=
  match exchange with
  | .responded response =>
    if response.status = 200 ∧ response.interrupted then exchange.events ++ [interruption]
    else exchange.events
  | _ => []

theorem read_fst {State : Type} (onEvent : State → Event → State) {response}
    (answered : response.status = 200) (state : State) :
    (response.read onEvent state).1 = (responded response).frames.foldl onEvent state := by
  simp only [frames, answered, events]
  unfold Response.read
  cases failed : response.streamErr with
  | none => simp [Response.interrupted, failed, drain]
  | some failure =>
    by_cases broken : response.interrupted = true
    · simp [broken, drain]
    · simp [broken, drain]

theorem streamSSE_fst (exchange : Exchange) :
    (streamSSE dispatchEvent exchange newStreamState).1 = exchange.frames.foldl dispatchEvent newStreamState := by
  cases exchange with
  | responded response =>
    by_cases answered : response.status = 200
    · rw [← read_fst dispatchEvent answered, streamSSE, if_pos answered]
    · simp [streamSSE, frames, answered, events]
  | _ => rfl

theorem lastPause_frames (exchange : Exchange) : lastPause exchange.frames = lastPause exchange.events := by
  cases exchange with
  | responded response =>
    unfold frames
    dsimp only
    split
    · have silent : interruption.pauses = false := rfl
      rw [lastPause, lastPause, filter_append, filter_cons_of_neg (by simp [silent]), filter_nil, append_nil]
    · rfl
  | _ => rfl

theorem streamSSE_pauseEvent (exchange : Exchange) :
    (streamSSE dispatchEvent exchange newStreamState).1.pauseEvent = lastPause exchange.events := by
  rw [streamSSE_fst, foldl_pauseEvent, lastPause_frames]
  exact Option.or_none

variable {events : List Event}

/-- A pause frame among the events is a last pause frame. -/
theorem lastPause_isSome : (lastPause events).isSome ↔ ∃ event ∈ events, event.pauses := by
  unfold lastPause
  rw [getLast?_isSome, ne_eq, filter_eq_nil_iff]
  push Not
  rfl

theorem lastPause_mem {last} (found : lastPause events = some last) : last ∈ events ∧ last.pauses :=
  mem_filter.mp (mem_of_getLast? found)

/-- A stream that was read ends with a coded error or a pause. -/
theorem unavailable_read (response : Response) (answered : response.status = 200) :
    unavailable (streamSSE dispatchEvent (.responded response) newStreamState).1
      (streamSSE dispatchEvent (.responded response) newStreamState).2 = false := by
  have events : (responded response).events = response.lines.filterMap Line.event? := if_pos answered
  cases failed : response.streamErr with
  | none =>
    have silent : (streamSSE dispatchEvent (.responded response) newStreamState).2 = none := by
      simp [streamSSE, answered, Response.read, failed]
    rw [silent]
    rfl
  | some failure =>
    by_contra missed
    rw [Bool.not_eq_false] at missed
    unfold unavailable at missed
    split at missed
    · cases missed
    · simp only [Bool.and_eq_true, decide_eq_true_eq] at missed
      obtain ⟨⟨⟨running, uncoded⟩, _⟩, _⟩ := missed
      rw [streamSSE_pauseEvent, Option.isNone_iff_eq_none] at running
      rw [streamSSE_fst, foldl_streamErrCode] at uncoded
      have unpaused : seen .toolApprovalRequired response.lines = false := by
        by_contra paused
        rw [Bool.not_eq_false, seen, any_eq_true] at paused
        have found := lastPause_isSome.mpr paused
        rw [← events, running] at found
        cases found
      have faultless : ∀ event ∈ (responded response).events, event.type ≠ .error := by
        intro event member
        apply uncoded.2 event
        unfold frames
        dsimp only
        split
        · exact mem_append_left _ member
        · exact member
      have silent : seen .error response.lines = false := by
        by_contra failed
        rw [Bool.not_eq_false, seen, any_eq_true] at failed
        obtain ⟨event, member, faulty⟩ := failed
        rw [← events] at member
        exact faultless event member (of_decide_eq_true faulty)
      -- Without an error or a pause the client itself has added the error frame.
      have broken : response.interrupted = true := by
        simp [Response.interrupted, failed, silent, unpaused]
      have added : interruption ∈ (responded response).frames := by
        simp [frames, answered, broken]
      exact uncoded.2 interruption added rfl

theorem mentions_streamChat (rest : String) (canceled : Bool) :
    mentions ⟨"orchestratorclient: stream chat: " ++ rest, canceled⟩ "stream chat" = true := by
  unfold mentions
  rw [decide_eq_true_eq, String.toList_append]
  exact ⟨"orchestratorclient: ".toList, ": ".toList ++ rest.toList, rfl⟩

theorem mentions_buildChat (cause : Failure) :
    (cause.wrap "orchestratorclient: build chat request: ").mentions "stream chat" =
      cause.mentions "stream chat" := by
  unfold mentions wrap
  rw [decide_eq_decide]
  simp [infix_cons_iff]

/-- The error's text tells the exchanges without a stream. -/
theorem unavailable_streamSSE (exchange : Exchange) :
    unavailable (streamSSE dispatchEvent exchange newStreamState).1
      (streamSSE dispatchEvent exchange newStreamState).2 = true ↔ ¬ exchange.Opens := by
  cases exchange with
  | unflushable =>
    have silent : mentions
        ⟨"orchestratorclient: StreamSSE: writer does not implement http.Flusher", false⟩ "stream chat" = false := by
      unfold mentions
      simp [infix_cons_iff]
    simp [streamSSE, unavailable, Exchange.Opens, silent]
  | unbuilt cause =>
    have text := mentions_buildChat cause
    simp [streamSSE, unavailable, Exchange.Opens, newStreamState, text]
    simp [wrap]
  | unreachable cause =>
    have text := mentions_streamChat cause.text cause.canceled
    simp [streamSSE, unavailable, Exchange.Opens, newStreamState, wrap, text]
  | responded response =>
    by_cases answered : response.status = 200
    · rw [unavailable_read response answered]
      simp [Exchange.Opens, answered]
    · have text := mentions_streamChat
        ("unexpected status " ++ toString response.status ++ ": " ++ response.excerpt) false
      have joined : "orchestratorclient: stream chat: unexpected status " ++
            toString response.status ++ ": " ++ response.excerpt =
          "orchestratorclient: stream chat: " ++
            ("unexpected status " ++ toString response.status ++ ": " ++ response.excerpt) := by
        rfl
      rw [← joined] at text
      simp only [streamSSE, unavailable, Exchange.Opens, newStreamState, answered, if_false, text]
      simp

end Stream

section Calls

variable {pause : Event} {toolCalls : List ToolCall}

/-- The stored calls of an identifier are the pause's, and pending. -/
theorem filter_pausedCalls {id} (named : id ∈ pause.callIDs) :
    ((pausedCalls toolCalls pause).filter fun call => call.id = id) =
      (pause.calls.filter fun call => call.callID = id).map (pendingCall pause.batchID) := by
  have other : ((toolCalls.filter fun call => call.id ∉ pause.calls.map Agent.ApprovalCall.callID).filter
      fun call => call.id = id) = [] := by
    rw [filter_eq_nil_iff]
    intro call member same
    rw [decide_eq_true_eq] at same
    subst same
    exact of_decide_eq_true (mem_filter.mp member).2 named
  unfold pausedCalls
  rw [filter_append, other, filter_map]
  rfl

theorem pendingOnce_iff {message : Message} (built : message.toolCalls = pausedCalls toolCalls pause)
    (unset : ∀ call ∈ toolCalls, call.status = .unset) (id : String) :
    message.PendingOnce id ↔ pause.callIDs.count id = 1 := by
  unfold Message.PendingOnce
  rw [built]
  by_cases named : id ∈ pause.callIDs
  · have counted : pause.callIDs.count id = (pause.calls.filter fun call => call.callID = id).length := by
      rw [Event.callIDs, count_eq_countP, countP_map, countP_eq_length_filter]
      rfl
    rw [filter_pausedCalls named, counted, length_eq_one_iff]
    constructor
    · rintro ⟨call, single, _⟩
      rw [map_eq_singleton_iff] at single
      obtain ⟨listed, only, _⟩ := single
      exact ⟨listed, only⟩
    · rintro ⟨listed, only⟩
      rw [only]
      exact ⟨_, rfl, rfl⟩
  · have none : pause.callIDs.count id = 0 := count_eq_zero.mpr named
    rw [none]
    constructor
    · rintro ⟨call, single, waits⟩
      have member : call ∈ (pausedCalls toolCalls pause).filter fun call => call.id = id := by
        rw [single]
        exact mem_singleton_self call
      obtain ⟨listed, same⟩ := mem_filter.mp member
      rw [decide_eq_true_eq] at same
      rcases mem_append.mp listed with streamed | paused
      · have free := unset call (mem_filter.mp streamed).1
        rw [waits] at free
        cases free
      · obtain ⟨source, stored, moved⟩ := mem_map.mp paused
        rw [← same, ← moved] at named
        exact absurd (mem_map.mpr ⟨source, stored, rfl⟩) named
    · intro one
      cases one

theorem namesCallsOnce_iff {events last} (found : lastPause events = some last) :
    NamesCallsOnce events ↔ ∀ event ∈ events, event.pauses → ∀ id ∈ event.callIDs, last.callIDs.count id = 1 := by
  constructor
  · intro names event member pauses id named
    obtain ⟨distinct, covers⟩ := names last found
    exact count_eq_one_of_mem distinct (covers event member pauses id named)
  · intro counted other same
    rw [found] at same
    cases same
    obtain ⟨member, pauses⟩ := lastPause_mem found
    constructor
    · rw [nodup_iff_count_eq_one]
      exact counted last member pauses
    · intro event listed paused id named
      rw [← count_pos_iff, counted event listed paused id named]
      exact Nat.one_pos

end Calls

section Run

variable {messages admitted : Messages} {request : TurnRequest} {around : Surroundings} {tr : String → String}

variable {left : Messages} {message : Message} {exchange : Exchange} {failing : Failing}

/-- Only a recent placeholder lets a request end as a turn in progress. -/
theorem admission_turnInProgress (rejected : admission messages request around = .over .turnInProgress left) :
    ∃ blocker, around.active = .ok blocker ∧ isRecentInProgress blocker around.gatedAt = true := by
  have prepared : ∀ stored, prepare stored request around.enriched ≠ .over .turnInProgress left := by
    unfold prepare refusal
    split
    · rename_i refused
      split at refused
      · cases refused
        exact nofun
      · split at refused <;> cases refused <;> exact nofun
    · exact nofun
  unfold admission at rejected
  split at rejected
  · cases rejected
  · split at rejected
    · cases rejected
    · cases rejected
    · rename_i blocker gated
      unfold gateOnRequest at gated
      split at gated
      · cases gated
      rename_i active
      split at gated
      · cases gated
      split at gated
      · cases gated
      split at gated
      · cases gated
      split at gated
      · rename_i recent
        cases gated
        exact ⟨_, active, recent⟩
      · cases gated
    · exact absurd rejected (prepared _)
    · exact absurd rejected (prepared _)

/-- The placeholder stands in the store when the stream opens. -/
theorem find_reserved (request : TurnRequest) (stores : around.Stores admitted) :
    (reserved admitted request around).find around.streamStartID =
      some (placeholder request.conversationID around.streamStartID around.reservedAt) := by
  have asked := (touches_create admitted around.failing.ask around.askedAt
    (userMessage request.conversationID around.userMessageID request.message)).others
      around.streamStartID stores.distinct.symm
  have absent : (persistUserMessage admitted around.failing.ask around.askedAt
      (userMessage request.conversationID around.userMessageID request.message)).find
        around.streamStartID = none := asked.trans stores.absent
  unfold reserved reserveAssistantPlaceholder
  rw [stores.taken]
  rw [stores.taken] at absent
  exact find_create absent

theorem run_of_fresh (tr : String → String) (streamResume : Messages → Message → String → TurnOutcome × Messages)
    (fresh : admission messages request around = .fresh admitted) :
    run tr streamResume messages request around =
      finishTurn tr (reserved admitted request around) request.conversationID around.streamStartID
        around.streamStartAt around.exchange around.failing around.savedAt := by
  unfold run
  rw [fresh]

/-- A stream that did not open leaves the placeholder as it is. -/
theorem finishTurn_of_not_opens {conversationID streamStartID streamStartAt savedAt} (shut : ¬ exchange.Opens) :
    finishTurn tr messages conversationID streamStartID streamStartAt exchange failing savedAt =
      (.orchestratorUnavailable, messages) := by
  exact if_pos ((unavailable_streamSSE exchange).mpr shut)

theorem finishTurn_of_opens {conversationID streamStartID streamStartAt savedAt} (opens : exchange.Opens) :
    (finishTurn tr messages conversationID streamStartID streamStartAt exchange failing savedAt).2 =
      finalizeAssistantMessage messages failing savedAt
        (assistantMessage tr conversationID streamStartID streamStartAt
          (streamSSE dispatchEvent exchange newStreamState).1) := by
  have available : ¬ unavailable (streamSSE dispatchEvent exchange newStreamState).1
      (streamSSE dispatchEvent exchange newStreamState).2 = true := by
    rw [unavailable_streamSSE]
    exact not_not_intro opens
  unfold finishTurn
  dsimp only
  rw [if_neg available]

/-- The final message is closed, and pending just after a pause. -/
theorem status_assistantMessage {conversationID streamStartID streamStartAt state} :
    let message := assistantMessage tr conversationID streamStartID streamStartAt state
    message.status ≠ .inProgress ∧ (message.status = .pendingApproval ↔ state.pauseEvent.isSome) := by
  unfold assistantMessage
  split
  · rename_i paused
    simp [paused]
  · rename_i running
    dsimp only
    rw [running]
    split <;> simp

/-- A settled message does not hold up a later request. -/
theorem admits_of_closed {after : Messages} (found : after.find around.streamStartID = some message)
    (closed : message.status ≠ .inProgress) {later : Messages} {next : TurnRequest} {meets : Surroundings}
    (untouched : later.find around.streamStartID = after.find around.streamStartID)
    (answer : meets.active ∈ later.findByConversationActive next.conversationID)
    (rejected : admission later next meets = .over .turnInProgress left) :
    ∃ blocker, meets.active = .ok blocker ∧ blocker.id ≠ around.streamStartID := by
  obtain ⟨blocker, active, recent⟩ := admission_turnInProgress rejected
  rw [active] at answer
  have stored := (find_of_answer answer).1
  have running : blocker.status = .inProgress := by
    simp only [isRecentInProgress, Bool.and_eq_true, decide_eq_true_eq] at recent
    exact recent.1.1
  have apart : blocker.id ≠ around.streamStartID := by
    intro same
    rw [same, untouched, found, Option.some.injEq] at stored
    rw [stored] at closed
    exact closed running
  exact ⟨blocker, active, apart⟩

/-- The paused calls stand in the final message just if frames agree. -/
theorem pendingOnce_assistantMessage {conversationID streamStartID streamStartAt} :
    (∀ event ∈ exchange.events, event.pauses → ∀ id ∈ event.callIDs,
      (assistantMessage tr conversationID streamStartID streamStartAt
        (streamSSE dispatchEvent exchange newStreamState).1).PendingOnce id) ↔ NamesCallsOnce exchange.events := by
  cases found : lastPause exchange.events with
  | none =>
    have unpaused : ¬ ∃ event ∈ exchange.events, event.pauses := by
      rw [← lastPause_isSome, found]
      exact nofun
    constructor
    · intro _ last same
      rw [found] at same
      cases same
    · intro _ event member pauses
      exact absurd ⟨event, member, pauses⟩ unpaused
  | some last =>
    have paused := (streamSSE_pauseEvent exchange).trans found
    generalize same : (streamSSE dispatchEvent exchange newStreamState).1 = streamed at paused
    have built : (assistantMessage tr conversationID streamStartID streamStartAt streamed).toolCalls =
        pausedCalls streamed.toolCalls last := by
      rw [assistantMessage, paused]
    have unset : ∀ call ∈ streamed.toolCalls, call.status = .unset := by
      rw [← same, streamSSE_fst]
      exact foldl_toolCalls _ _ nofun
    simp only [pendingOnce_iff built unset]
    exact (namesCallsOnce_iff found).symm

/-- A fresh turn settles its message exactly if its stream opens and its pauses name each call once.
-/
theorem fresh_turn_settles_iff (tr : String → String)
    (streamResume : Messages → Message → String → TurnOutcome × Messages) (messages : Messages)
    (request : TurnRequest) (around : Surroundings) {admitted : Messages}
    (fresh : admission messages request around = .fresh admitted) (stores : around.Stores admitted) :
    Settled request around (run tr streamResume messages request around).2 ↔
      around.exchange.Opens ∧ NamesCallsOnce around.exchange.events := by
  rw [run_of_fresh tr streamResume fresh]
  have reservation := find_reserved request stores
  by_cases opens : around.exchange.Opens
  · rw [finishTurn_of_opens opens, stores.taken]
    let message := assistantMessage tr request.conversationID around.streamStartID
      around.streamStartAt (streamSSE dispatchEvent around.exchange newStreamState).1
    have named : message.id = around.streamStartID := assistantMessage_id ..
    have found : (finalizeAssistantMessage (reserved admitted request around) .nothing around.savedAt
        message).find around.streamStartID = some message := by
      rw [← named]
      rw [← named] at reservation
      exact find_finalizeAssistantMessage (named ▸ stores.named) reservation
    obtain ⟨closed, waits⟩ : message.status ≠ .inProgress ∧ _ := status_assistantMessage
    rw [streamSSE_pauseEvent, lastPause_isSome] at waits
    constructor
    · rintro ⟨⟨stored, same, _, _, calls⟩, _⟩
      rw [found, Option.some.injEq] at same
      subst same
      exact ⟨opens, pendingOnce_assistantMessage.mp calls⟩
    · rintro ⟨_, names⟩
      constructor
      · exact ⟨message, found, closed, waits, pendingOnce_assistantMessage.mpr names⟩
      · intro later next meets left untouched _ answer rejected
        exact admits_of_closed found closed untouched answer rejected
  · rw [finishTurn_of_not_opens opens]
    constructor
    · rintro ⟨⟨stored, same, closed, _⟩, _⟩
      rw [reservation, Option.some.injEq] at same
      subst same
      exact absurd rfl closed
    · rintro ⟨opened, _⟩
      exact absurd opened opens

end Run

open Sample

/-- A turn that pauses on two calls settles. -/
theorem fresh_turn_settles_iff_pause :
    Settled request (around (streamed [pause]))
      (run id (fun messages _ _ => (.rejoinedResume, messages)) noMessages request
        (around (streamed [pause]))).2 := by
  have fresh : admission noMessages request (around (streamed [pause])) = .fresh noMessages := rfl
  have stores : (around (streamed [pause])).Stores noMessages := ⟨rfl, by decide, by decide, rfl⟩
  apply (fresh_turn_settles_iff id _ _ _ _ fresh stores).mpr
  constructor
  · rfl
  · intro last found
    have same : pause = last := Option.some.inj found
    subst same
    constructor
    · decide
    · intro event member _ id named
      have only : event = pause := mem_singleton.mp member
      rwa [only] at named

/-- After a refused connection the placeholder stays in progress and the next request is rejected.
-/
theorem refused_connection_blocks :
    ∃ around meets : Surroundings, ∃ blocker : Message, around.exchange =
        .unreachable ⟨"Post http://orchestrator:8090/chat/conversation: connection refused", false⟩ ∧
      admission noMessages request around = .fresh noMessages ∧ around.Stores noMessages ∧
      let result := run id (fun messages _ _ => (.rejoinedResume, messages)) noMessages request around
      result.1 = .orchestratorUnavailable ∧
        result.2.find around.streamStartID = some blocker ∧ blocker.status = .inProgress ∧
        meets.active = .ok blocker ∧
        meets.active ∈ result.2.findByConversationActive request.conversationID ∧
        meets.batches = some [] ∧
        admission result.2 request meets = .over .turnInProgress result.2 := by
  let refused : Exchange :=
    .unreachable ⟨"Post http://orchestrator:8090/chat/conversation: connection refused", false⟩
  let blocker := placeholder "conversation" "answer" 1000
  let meets : Surroundings := { around refused with active := .ok blocker, gatedAt := 61000 }
  have fresh : admission noMessages request (around refused) = .fresh noMessages := rfl
  have stores : (around refused).Stores noMessages := ⟨rfl, by decide, by decide, rfl⟩
  have shut : ¬ refused.Opens := nofun
  have returned := (run_of_fresh id (fun messages _ _ => (.rejoinedResume, messages)) fresh).trans
    (finishTurn_of_not_opens shut)
  have recent : isRecentInProgress blocker meets.gatedAt = true := by
    simp [isRecentInProgress, blocker, meets, placeholder, streamBudget]
  have gated : gateOnRequest meets.active meets.batches meets.gatedAt request.resumeBatchID =
      .rejectInProgress blocker := by
    simp [gateOnRequest, recent, meets, request, around]
  refine ⟨around refused, meets, blocker, rfl, fresh, stores, ?_⟩
  refine ⟨rfl, rfl, rfl, rfl, mem_singleton_self _, rfl, ?_⟩
  rw [admission, if_neg (by decide), gated]

end OneVoice.ChatTurn
