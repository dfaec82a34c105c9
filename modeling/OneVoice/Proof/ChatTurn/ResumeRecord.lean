import OneVoice.Proof.ChatTurn.ResumeLoop

/-! What a resume stores and hands to the records of posts and reviews. -/

namespace OneVoice.ChatTurn

open Messages List Exchange Response

/-- The orchestrator answers with status 200, and no failure reads like a stream that did not open.
-/
def Exchange.OpensResume (exchange : Exchange) : Prop :=
  ∃ response, exchange = .responded response ∧ response.status = 200 ∧
    ∀ failure, response.failure = some failure →
      (failure.wrap "orchestratorclient: scanner: ").mentions "stream resume:" = false

/-- A pause frame names no call of the message or the stream. -/
def PausesOnNewCalls (active : Message) (events : List Event) : Prop :=
  ∀ event ∈ events, event.pauses → ∀ id ∈ event.callIDs, id ∉ active.callIDs ∧ id ∉ announced events

/-- Each result of a call comes in a stream that announces the call. -/
def AnnouncesAnswered (active : Message) (events : List Event) : Prop :=
  ∀ id, Answered active (live events) id → id ∈ announced (live events)

/-- A message's identifiers are distinct; results answer calls. -/
structure Message.Coherent (message : Message) : Prop where
  calls : message.callIDs.Nodup
  results : message.resultIDs.Nodup
  answers : ∀ id ∈ message.resultIDs, id ∈ message.callIDs

/-- The stored message and the recorded pairs, against the frames. -/
structure Faithful (active : Message) (events : List Event) (stored : Message) (record : ResumeRecord) : Prop where
  coherent : stored.Coherent
  kept : active.toolCalls.map ToolCall.unsettled <+: stored.toolCalls.map ToolCall.unsettled
  closed : stored.status = .complete ∨ stored.status = .error ∨ stored.status = .pendingApproval
  waits : stored.status = .pendingApproval ↔ (∃ event ∈ events, event.pauses) ∧ ∀ event ∈ events, event.ends = false
  pending : stored.status = .pendingApproval → ∀ event ∈ events, event.pauses →
    ∀ id ∈ event.callIDs, ∃ call ∈ stored.toolCalls, call.id = id ∧ call.status = .pending
  handed : ∀ id, Answered active (live events) id → (record.handed.map fun pair => pair.1.id).count id = 1

section Handed

theorem handed_ids (record : ResumeRecord) :
    (record.handed.map fun pair => pair.1.id) = (record.recResults.map ToolResult.toolCallID).filter fun id =>
        id ∈ record.recCalls.map ToolCall.id := by
  unfold ResumeRecord.handed
  induction record.recResults with
  | nil => rfl
  | cons result results ih =>
    rw [map_cons, filter_cons, ← ih]
    cases found : record.recCalls.reverse.find? fun call => call.id = result.toolCallID with
    | none =>
      have absent : result.toolCallID ∉ record.recCalls.map ToolCall.id := by
        intro member
        obtain ⟨call, listed, same⟩ := mem_map.mp member
        have other := find?_eq_none.mp found call (mem_reverse.mpr listed)
        exact other (decide_eq_true same)
      simp [found, absent]
    | some call =>
      have same : call.id = result.toolCallID := by simpa using find?_some found
      have listed : result.toolCallID ∈ record.recCalls.map ToolCall.id := by
        rw [← same]
        exact mem_map_of_mem (mem_reverse.mp (mem_of_find?_eq_some found))
      simp only [filterMap_cons, found, Option.map_some, map_cons, listed, decide_true, if_true, same]

/-- Answered calls are handed on once just if the stream announced them. -/
theorem handed_once_iff {active events reached} (tracks : Tracks active (live events) reached) (message : Message) :
    (∀ id, Answered active (live events) id →
      ((ResumeRecord.mk message reached.recCalls reached.recResults).handed.map
        fun pair => pair.1.id).count id = 1) ↔ AnnouncesAnswered active events := by
  apply forall_congr'
  intro id
  apply forall_congr'
  intro answered
  have listed := (tracks.answered id).mpr answered
  rw [handed_ids, tracks.collected]
  constructor
  · intro one
    have member : id ∈ (reached.recResults.map ToolResult.toolCallID).filter fun id =>
        id ∈ announced (live events) := by
      rw [← count_pos_iff, one]
      exact Nat.one_pos
    exact of_decide_eq_true (mem_filter.mp member).2
  · intro named
    apply count_eq_one_of_mem
    · exact tracks.recorded.nodup.filter _
    · exact mem_filter.mpr ⟨listed, decide_eq_true named⟩

end Handed

section Exchange

variable {response : Response}

theorem live_frames (exchange : Exchange) : live exchange.frames = live exchange.events := by
  cases exchange with
  | responded response =>
    unfold frames
    dsimp only
    split
    · unfold live
      rw [takeWhile_append]
      split
      · rename_i whole
        have stops : takeWhile (fun event : Event => !event.ends) [interruption] = [] := rfl
        rw [stops, append_nil]
        exact ( takeWhile_prefix _).eq_of_length whole |>.symm
      · rfl
    · rfl
  | _ => rfl

/-- A stream without an end has paused, and the client added nothing. -/
theorem paused_of_no_end (answered : response.status = 200)
    (goes : ∀ event ∈ (responded response).frames, event.ends = false) :
    (responded response).frames = (responded response).events ∧
      seen .toolApprovalRequired response.lines = true := by
  have whole : response.interrupted = false := by
    by_contra broken
    rw [Bool.not_eq_false] at broken
    have added : interruption ∈ (responded response).frames := by
      simp [frames, answered, broken]
    cases goes interruption added
  have same : (responded response).frames = (responded response).events := by
    simp [frames, whole]
  have events : (responded response).events = response.lines.filterMap Line.event? := if_pos answered
  rw [same, events] at goes
  have unseen : ∀ type, (type = .done ∨ type = .error) → seen type response.lines = false := by
    intro type terminal
    rw [seen, any_eq_false]
    intro event member found
    have kind : event.type = type := of_decide_eq_true found
    have going := goes event member
    rcases terminal with rfl | rfl <;> simp [Event.ends, kind] at going
  have noError := unseen .error (Or.inr rfl)
  have noDone := unseen .done (Or.inl rfl)
  constructor
  · exact same
  · by_contra unpaused
    rw [Bool.not_eq_true] at unpaused
    have failed : response.streamErr.isSome = true := by
      unfold streamErr
      cases response.failure <;> simp [noError, noDone, unpaused]
    simp [interrupted, failed, noError, unpaused] at whole

end Exchange

/-- The collected message is closed, or waits for the last pause. -/
inductive Writes (events : List Event) (reached : ResumeState) : ResumeRecord → Prop where
  | closes (status : MessageStatus) (code : String) (kind : status = .complete ∨ status = .error)
      (closed : (∃ event ∈ events, event.ends) ∨ ∀ event ∈ events, event.pauses = false) :
      Writes events reached
        ⟨{ reached.message with status := status, content := reached.postText, errorCode := code },
          reached.recCalls, reached.recResults⟩
  | waits (pause : Event) (goes : ∀ event ∈ events, event.ends = false) (last : lastPause events = some pause) :
      Writes events reached
        ⟨{ reached.message with
            content := reached.postText
            toolCalls := rePausedCalls reached.message.toolCalls pause
            status := .pendingApproval }, reached.recCalls, reached.recResults⟩

section Resume

variable {active : Message} {events : List Event} {reached : ResumeState}

/-- A stream that opened is recorded as its frames say. -/
theorem finishResume_writes {exchange} (batchID : String) (coherent : active.Coherent)
    (opens : exchange.OpensResume) :
    ∃ reached record, Tracks active (live exchange.events) reached ∧ Writes exchange.events reached record ∧
      let read := resumeSSE (fun state event => state.onEvent event batchID) exchange (.start active)
      (finishResume read.1 read.2).2 = some record := by
  obtain ⟨response, rfl, answered, readable⟩ := opens
  obtain ⟨reached, tracks, final⟩ := foldl_resume batchID coherent.calls coherent.results
    coherent.answers (responded response).frames
  rw [live_frames] at tracks
  dsimp only [resumeSSE]
  rw [if_pos answered]
  have state := read_fst (fun (state : ResumeState) event => state.onEvent event batchID) answered (.start active)
  rcases final with ⟨goes, _, same⟩ | ⟨⟨last, listed, ends⟩, status, code, kind, same⟩
  · rw [same] at state
    obtain ⟨whole, paused⟩ := paused_of_no_end answered goes
    rw [whole] at goes
    have found : ∃ event ∈ (responded response).events, event.pauses := by
      rw [seen, any_eq_true] at paused
      rw [events, if_pos answered]
      exact paused
    obtain ⟨pause, last⟩ := Option.isSome_iff_exists.mp (lastPause_isSome.mpr found)
    have remembered : reached.rePause = some pause := by
      rw [tracks.paused, live_eq_self goes, last]
    have silent : ((response.read (fun (state : ResumeState) event => state.onEvent event batchID)
        (.start active)).2.any fun failure => failure.mentions "stream resume:") = false := by
      unfold Response.read Response.interrupted Response.streamErr
      cases failed : response.failure with
      | none => simp [paused]
      | some failure => simpa [paused] using readable failure failed
    refine ⟨reached, _, tracks, .waits pause goes last, ?_⟩
    rw [state]
    unfold finishResume
    simp only [tracks.running, silent, remembered]
    rfl
  · rw [same] at state
    refine ⟨reached, _, tracks, .closes status code kind ?_, ?_⟩
    · by_cases broken : response.interrupted = true
      · -- The client reports an interruption only for a stream without a pause.
        right
        simp only [interrupted, Bool.and_eq_true, Bool.not_eq_true'] at broken
        have unpaused := broken.2
        rw [seen, any_eq_false] at unpaused
        rw [events, if_pos answered]
        intro event member
        exact Bool.eq_false_iff.mpr (unpaused event member)
      · left
        have whole : (responded response).frames = (responded response).events := by
          simp [frames, broken]
        rw [whole] at listed
        exact ⟨last, listed, ends⟩
    · rw [state]
      rfl

/-- All calls of the new pause are unknown to the message. -/
theorem rePausedCalls_of_new {calls pause} (fresh : ∀ id ∈ pause.callIDs, id ∉ calls.map ToolCall.id) :
    rePausedCalls calls pause = calls ++ pause.calls.map (pendingCall pause.batchID) := by
  unfold rePausedCalls
  rw [filter_eq_self.mpr]
  intro call member
  exact decide_eq_true (fresh call.callID (mem_map_of_mem member))

/-- The tracked message is coherent. -/
theorem Tracks.coherent {seen} (tracks : Tracks active seen reached) :
    reached.message.Coherent := ⟨tracks.calls.nodup, tracks.results.nodup, tracks.answers⟩

theorem faithful_iff_of_closes (tracks : Tracks active (live events) reached)
    {status} (code : String) (kind : status = .complete ∨ status = .error)
    (closed : (∃ event ∈ events, event.ends) ∨ ∀ event ∈ events, event.pauses = false) : let message :=
      { reached.message with status := status, content := reached.postText, errorCode := code }
    Faithful active events message ⟨message, reached.recCalls, reached.recResults⟩ ↔
      AnnouncesAnswered active events ∧ ((∀ event ∈ events, event.ends = false) → NamesCallsOnce events) := by
  have settled : status ≠ .pendingApproval := by
    rcases kind with rfl | rfl <;> decide
  constructor
  · intro faithful
    constructor
    · exact (handed_once_iff tracks _).mp faithful.handed
    · intro goes last found
      obtain ⟨member, pauses⟩ := lastPause_mem found
      rcases closed with ⟨event, listed, ends⟩ | unpaused
      · rw [goes event listed] at ends
        cases ends
      · rw [unpaused last member] at pauses
        cases pauses
  · rintro ⟨announces, _⟩
    constructor
    · exact ⟨tracks.coherent.calls, tracks.coherent.results, tracks.coherent.answers⟩
    · exact tracks.kept
    · rcases kind with complete | error
      · exact Or.inl complete
      · exact Or.inr (Or.inl error)
    · constructor
      · intro waits
        exact absurd waits settled
      · rintro ⟨⟨pause, member, pauses⟩, goes⟩
        rcases closed with ⟨event, listed, ends⟩ | unpaused
        · rw [goes event listed] at ends
          cases ends
        · rw [unpaused pause member] at pauses
          cases pauses
    · intro waits
      exact absurd waits settled
    · exact (handed_once_iff tracks _).mpr announces

theorem faithful_iff_of_waits (tracks : Tracks active (live events) reached) {pause}
    (fresh : PausesOnNewCalls active events) (goes : ∀ event ∈ events, event.ends = false)
    (last : lastPause events = some pause) : let message :=
      { reached.message with
        content := reached.postText
        toolCalls := rePausedCalls reached.message.toolCalls pause
        status := .pendingApproval }
    Faithful active events message ⟨message, reached.recCalls, reached.recResults⟩ ↔
      AnnouncesAnswered active events ∧ ((∀ event ∈ events, event.ends = false) → NamesCallsOnce events) := by
  obtain ⟨listed, pauses⟩ := lastPause_mem last
  -- The calls of every pause frame are new to the collected message as well.
  have unknown : ∀ event ∈ events, event.pauses → ∀ id ∈ event.callIDs,
      id ∉ reached.message.callIDs := by
    intro event member paused id named known
    obtain ⟨stored, streamed⟩ := fresh event member paused id named
    rw [tracks.known, live_eq_self goes] at known
    exact known.elim stored fun announced => streamed announced.2
  have added := rePausedCalls_of_new (unknown pause listed pauses)
  have ids : (rePausedCalls reached.message.toolCalls pause).map ToolCall.id =
      reached.message.callIDs ++ pause.callIDs := by
    rw [added, map_append, map_map]
    rfl
  constructor
  · intro faithful
    constructor
    · exact (handed_once_iff tracks _).mp faithful.handed
    · intro _ other found
      rw [last, Option.some.injEq] at found
      subst found
      have distinct := faithful.coherent.calls
      rw [Message.callIDs, ids] at distinct
      constructor
      · exact distinct.of_append_right
      · intro event member paused id named
        obtain ⟨call, stored, same, _⟩ := faithful.pending rfl event member paused id named
        have place : call.id ∈ _ := mem_map_of_mem stored
        rw [ids, same, mem_append] at place
        exact place.resolve_left (unknown event member paused id named)
  · rintro ⟨announces, names⟩
    obtain ⟨distinct, covers⟩ := names goes pause last
    constructor
    · constructor
      · rw [Message.callIDs, ids]
        apply tracks.coherent.calls.append distinct
        intro id known named
        exact unknown pause listed pauses id named known
      · exact tracks.coherent.results
      · intro id member
        rw [Message.callIDs, ids]
        exact mem_append_left _ (tracks.answers id member)
    · rw [added, map_append]
      exact tracks.kept.trans (prefix_append ..)
    · exact Or.inr (Or.inr rfl)
    · constructor
      · intro _
        exact ⟨⟨pause, listed, pauses⟩, goes⟩
      · intro _
        rfl
    · intro _ event member paused id named
      obtain ⟨call, waiting, same⟩ := mem_map.mp (covers event member paused id named)
      refine ⟨pendingCall pause.batchID call, ?_, same, rfl⟩
      rw [added]
      exact mem_append_right _ (mem_map_of_mem waiting)
    · exact (handed_once_iff tracks _).mpr announces

/-- The record is faithful exactly if the stream announces each call that it answers and, when it
only pauses, names its calls once. -/
theorem resume_record_faithful_iff (messages : Messages) (active : Message) (batchID : String) (exchange : Exchange)
    (coherent : active.Coherent) (named : active.id ≠ "") (stored : (messages.find active.id).isSome)
    (opens : exchange.OpensResume) (fresh : PausesOnNewCalls active exchange.events) :
    let result := runResumeStream messages false .claimed active batchID exchange
    (∃ message record, result.messages.find active.id = some message ∧
        result.record = some record ∧ Faithful active exchange.events message record) ↔
      AnnouncesAnswered active exchange.events ∧
        ((∀ event ∈ exchange.events, event.ends = false) → NamesCallsOnce exchange.events) := by
  obtain ⟨reached, record, tracks, writes, finished⟩ := finishResume_writes batchID coherent opens
  obtain ⟨old, found⟩ := Option.isSome_iff_exists.mp stored
  have same : record.message.id = active.id := by
    cases writes <;> exact tracks.named
  rw [← same] at named found
  obtain ⟨next, updated, held⟩ := find_update named found
  rw [same] at held
  have wrote : (runResumeStream messages false .claimed active batchID exchange).record = some record ∧
      (runResumeStream messages false .claimed active batchID exchange).messages = next := by
    unfold runResumeStream
    dsimp only at finished ⊢
    rw [finished]
    simp [updated, attempt]
  dsimp only
  rw [wrote.1, wrote.2, held]
  have single : (∃ message other, some record.message = some message ∧ some record = some other ∧
      Faithful active exchange.events message other) ↔
      Faithful active exchange.events record.message record := by
    simp
  rw [single]
  cases writes with
  | closes status code kind closed => exact faithful_iff_of_closes tracks code kind closed
  | waits pause goes last => exact faithful_iff_of_waits tracks fresh goes last

end Resume

open Sample

/-- The approved call is answered and the next call of the turn waits. -/
theorem resume_record_faithful_iff_pause : let events := [firstCall, firstResult, nextPause]
    let result := runResumeStream stored false .claimed waiting "batch" (streamed events)
    ∃ message record, result.messages.find "answer" = some message ∧
      result.record = some record ∧ Faithful waiting events message record := by
  let events := [firstCall, firstResult, nextPause]
  have coherent : waiting.Coherent := ⟨by decide, by decide, by decide⟩
  have opens : (streamed events).OpensResume := ⟨_, rfl, rfl, nofun⟩
  have fresh : PausesOnNewCalls waiting events := by
    intro event member pauses id named
    rcases mem_cons.mp member with rfl | member
    · cases pauses
    rcases mem_cons.mp member with rfl | member
    · cases pauses
    rw [mem_singleton.mp member] at named
    rw [mem_singleton.mp named]
    decide
  apply (resume_record_faithful_iff stored waiting "batch" (streamed events)
    coherent (by decide) rfl opens fresh).mpr
  constructor
  · rintro id ⟨before, event, after, split, type, rfl, _, _⟩
    have member : event ∈ events := by
      have placed : event ∈ live events := by
        change live events = _ at split
        rw [split]
        simp
      exact takeWhile_subset _ placed
    rcases mem_cons.mp member with rfl | member
    · cases type
    rcases mem_cons.mp member with rfl | member
    · decide
    rw [mem_singleton.mp member] at type
    cases type
  · intro _ last found
    have same : nextPause = last := Option.some.inj found
    subst same
    constructor
    · decide
    · intro event member pauses id named
      rcases mem_cons.mp member with rfl | member
      · cases pauses
      rcases mem_cons.mp member with rfl | member
      · cases pauses
      rwa [mem_singleton.mp member] at named

/-- The result is entered, but without an announcement not handed on. -/
theorem answered_call_not_handed : let exchange := streamed [firstResult, ended]
    let result := runResumeStream stored false .claimed waiting "batch" exchange
    waiting.Coherent ∧ (stored.find waiting.id).isSome ∧
      exchange.OpensResume ∧ PausesOnNewCalls waiting exchange.events ∧
      Answered waiting (live exchange.events) "first" ∧
      ∃ message record, result.messages.find "answer" = some message ∧
        result.record = some record ∧ message.status = .complete ∧
        message.resultIDs = ["first"] ∧ record.handed = [] ∧
        ¬ Faithful waiting exchange.events message record := by
  have coherent : waiting.Coherent := ⟨by decide, by decide, by decide⟩
  have opens : (streamed [firstResult, ended]).OpensResume := ⟨_, rfl, rfl, nofun⟩
  have fresh : PausesOnNewCalls waiting [firstResult, ended] := by
    intro event member pauses
    rcases mem_cons.mp member with rfl | member
    · cases pauses
    rw [mem_singleton.mp member] at pauses
    cases pauses
  have answered : Answered waiting (live (streamed [firstResult, ended]).events) "first" :=
    ⟨[], firstResult, [], rfl, rfl, rfl, by decide, Or.inl (by decide)⟩
  refine ⟨coherent, rfl, opens, fresh, answered, _, _, rfl, rfl, rfl, rfl, rfl, ?_⟩
  intro faithful
  cases faithful.handed "first" answered

end OneVoice.ChatTurn
