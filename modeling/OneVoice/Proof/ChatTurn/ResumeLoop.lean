import Mathlib.Data.List.TakeWhile
import OneVoice.Construction.ChatTurn.Resume
import OneVoice.Proof.ChatTurn.Settled

/-! What the loop of a resume has collected, said against the frames that it has seen. -/

namespace OneVoice.ChatTurn

open Library List ToolCall ResumeState ToolResult

/-- The loop ignores what follows such a frame. -/
def Event.ends (event : Event) : Bool := event.type = .done || event.type = .error

variable (events : List Event) (calls : List ToolCall) (position : Option Nat) (status : ToolCallStatus)

def live : List Event := events.takeWhile fun event => !event.ends

def Message.callIDs (message : Message) : List String := message.toolCalls.map ToolCall.id

def Message.resultIDs (message : Message) : List String := message.toolResults.map toolCallID

/-- The call without its approval status. -/
def ToolCall.unsettled (call : ToolCall) : ToolCall := { call with status := .unset }

def announced : List String := (events.filter fun event => event.type = .toolCall).map Event.toolCallID

/-- A frame answers a call of the message or one announced before it. -/
def Answered (active : Message) (events : List Event) (id : String) : Prop :=
  ∃ before event after, events = before ++ event :: after ∧ event.type = .toolResult ∧
    event.toolCallID = id ∧ id ≠ "" ∧ (id ∈ active.callIDs ∨ id ∈ announced before)

section Frames

variable {seen : List Event} {event : Event}

theorem announced_append (seen : List Event) (event : Event) :
    announced (seen ++ [event]) =
      announced seen ++ if event.type = .toolCall then [event.toolCallID] else [] := by
  unfold announced
  by_cases calls : event.type = .toolCall <;> simp [calls]

theorem lastPause_append (seen : List Event) (event : Event) :
    lastPause (seen ++ [event]) = if event.pauses then some event else lastPause seen := by
  unfold lastPause
  by_cases pauses : event.pauses = true <;> simp [pauses]

theorem answered_append {active id} :
    Answered active (seen ++ [event]) id ↔ Answered active seen id ∨
      event.type = .toolResult ∧ event.toolCallID = id ∧ id ≠ "" ∧ (id ∈ active.callIDs ∨ id ∈ announced seen) := by
  constructor
  · rintro ⟨before, answer, after, split, facts⟩
    rcases eq_nil_or_concat after with last | ⟨middle, final, longer⟩
    · subst last
      obtain ⟨same, one⟩ := append_inj' split rfl
      cases one
      subst same
      exact .inr facts
    · subst longer
      have regroup : seen ++ [event] = (before ++ answer :: middle) ++ [final] := by
        rw [split]
        simp
      obtain ⟨same, _⟩ := append_inj' regroup rfl
      exact .inl ⟨before, answer, middle, same, facts⟩
  · rintro (⟨before, answer, after, split, facts⟩ | facts)
    · refine ⟨before, answer, after ++ [event], ?_, facts⟩
      rw [split]
      simp
    · exact ⟨seen, event, [], rfl, facts⟩

end Frames

/-- Without an end among them all frames count. -/
theorem live_eq_self {events} (goes : ∀ event ∈ events, event.ends = false) :
    live events = events := by
  apply takeWhile_eq_self_iff.mpr
  intro event member
  rw [goes event member]
  rfl

section Rows

/-- What does not read the status of a call is the same after it is set. -/
theorem map_setStatus {View : Type} (view : ToolCall → View)
    (keeps : ∀ call status, view { call with status := status } = view call)
    (calls : List ToolCall) (position : Option Nat) (status : ToolCallStatus) :
    (setStatus calls position status).map view = calls.map view := by
  cases position with
  | none => rfl
  | some position =>
    apply ext_getElem?
    intro place
    rw [setStatus, getElem?_map, getElem?_modify, getElem?_map]
    cases calls[place]? with
    | none => rfl
    | some call =>
      by_cases here : position = place <;> simp [here, keeps]

theorem setStatus_ids : (setStatus calls position status).map ToolCall.id = calls.map ToolCall.id :=
  map_setStatus _ (fun _ _ => rfl) calls position status

theorem setStatus_unsettled : (setStatus calls position status).map unsettled = calls.map unsettled :=
  map_setStatus _ (fun _ _ => rfl) calls position status

variable {index : String → Option Nat} {results : List ToolResult}

/-- The identifiers of the results after one more, with their index. -/
theorem placeResult_spec (coherent : Indexes index (results.map toolCallID)) (result : ToolResult) :
    let placed := placeResult index results result
    Indexes placed.1 (placed.2.map toolCallID) ∧
      ∀ id, id ∈ placed.2.map toolCallID ↔
        id ∈ results.map toolCallID ∨ id = result.toolCallID := by
  unfold placeResult
  cases found : index result.toolCallID with
  | some position =>
    have held := (coherent _ _).mp found
    have same : (results.set position result).map toolCallID = results.map toolCallID := by
      rw [map_set]
      obtain ⟨inside, value⟩ := List.getElem?_eq_some_iff.mp held
      rw [← value]
      exact set_getElem_self inside
    dsimp only
    rw [same]
    constructor
    · exact coherent
    · intro id
      constructor
      · exact .inl
      · rintro (member | rfl)
        · exact member
        · exact mem_of_getElem? held
  | none =>
    have longer := coherent.append found
    rw [length_map] at longer
    dsimp only
    rw [map_append]
    constructor
    · exact longer
    · simp

end Rows

/-- The state of the loop after the frames `seen`, none of which ended it. -/
structure Tracks (active : Message) (seen : List Event) (state : ResumeState) : Prop where
  running : state.saved = none
  named : state.message.id = active.id
  paused : state.rePause = lastPause seen
  calls : Indexes state.callIdx state.message.callIDs
  results : Indexes state.resultIdx state.message.resultIDs
  recorded : Indexes state.recResultIdx (state.recResults.map toolCallID)
  known : ∀ id, id ∈ state.message.callIDs ↔ id ∈ active.callIDs ∨ id ≠ "" ∧ id ∈ announced seen
  fresh : ∀ id ∈ state.freshCallIDs, id ∈ state.message.callIDs
  kept : active.toolCalls.map unsettled <+: state.message.toolCalls.map unsettled
  answers : ∀ id ∈ state.message.resultIDs, id ∈ state.message.callIDs
  collected : state.recCalls.map ToolCall.id = announced seen
  answered : ∀ id, id ∈ state.recResults.map toolCallID ↔ Answered active seen id

namespace Tracks

variable {active : Message} {seen : List Event} {state : ResumeState} {event : Event}

theorem start (calls : active.callIDs.Nodup) (results : active.resultIDs.Nodup)
    (answers : ∀ id ∈ active.resultIDs, id ∈ active.callIDs) :
    Tracks active [] (.start active) where
  running := rfl
  named := rfl
  paused := rfl
  calls := indexes_indexKeys calls
  results := indexes_indexKeys results
  recorded key position := by
    simp [ResumeState.start]
  known id := by
    simp [ResumeState.start, announced]
  fresh _ member := by cases member
  kept := prefix_rfl
  answers := answers
  collected := rfl
  answered id := by
    simp [ResumeState.start, Answered]

section

variable (tracks : Tracks active seen state)

include tracks

/-- Exactly the result of a known call is taken. -/
theorem matched_iff :
    state.matched event = true ↔ event.toolCallID ≠ "" ∧ event.toolCallID ∈ state.message.callIDs := by
  simp only [matched, Bool.and_eq_true, Bool.or_eq_true, decide_eq_true_eq]
  rw [tracks.calls.isSome_iff]
  constructor
  · rintro ⟨named, known | fresh⟩
    · exact ⟨named, known⟩
    · exact ⟨named, tracks.fresh _ fresh⟩
  · rintro ⟨named, known⟩
    exact ⟨named, .inl known⟩

/-- The frames enter by what is read off them only. -/
theorem congr {other} (paused : lastPause other = lastPause seen)
    (calls : announced other = announced seen) (answers : ∀ id, Answered active other id ↔ Answered active seen id) :
    Tracks active other state :=
  { tracks with
    paused := by
      rw [paused]
      exact tracks.paused
    known := by
      rw [calls]
      exact tracks.known
    collected := by
      rw [calls]
      exact tracks.collected
    answered id := by
      rw [answers]
      exact tracks.answered id }

/-- A frame without a call, result or pause changes nothing. -/
theorem quiet (calls : event.type ≠ .toolCall) (answers : event.type ≠ .toolResult)
    (pauses : event.pauses = false) : Tracks active (seen ++ [event]) state := by
  apply tracks.congr
  · rw [lastPause_append, pauses]
    rfl
  · rw [announced_append, if_neg calls, append_nil]
  · intro id
    rw [answered_append]
    simp [answers]

theorem toolRejected : Tracks active seen (state.onToolRejected event) :=
  have same : (state.onToolRejected event).message.callIDs = state.message.callIDs := setStatus_ids ..
  { tracks with
    calls := by
      rw [same]
      exact tracks.calls
    known := by
      rw [same]
      exact tracks.known
    fresh := by
      rw [same]
      exact tracks.fresh
    kept := by
      have view : (state.onToolRejected event).message.toolCalls.map unsettled =
          state.message.toolCalls.map unsettled := setStatus_unsettled ..
      rw [view]
      exact tracks.kept
    answers := by
      rw [same]
      exact tracks.answers }

variable {call : ToolCall}

/-- A call without an identifier, or a known one, changes nothing. -/
theorem enterCall_known (known : call.id ≠ "" → call.id ∈ state.message.callIDs) :
    ∃ fresh, state.enterCall call = { state with freshCallIDs := fresh } ∧
      ∀ id ∈ fresh, id ∈ state.message.callIDs := by
  by_cases blank : call.id = ""
  · refine ⟨state.freshCallIDs, ?_, tracks.fresh⟩
    rw [enterCall, if_pos blank]
  · obtain ⟨position, found⟩ := Option.isSome_iff_exists.mp (tracks.calls.isSome_iff.mpr (known blank))
    refine ⟨call.id :: state.freshCallIDs, ?_, ?_⟩
    · rw [enterCall, if_neg blank]
      simp only [found]
    · exact forall_mem_cons.mpr ⟨known blank, tracks.fresh⟩

/-- Entering a call adds at most that call to the message. -/
theorem enterCall_eq (call : ToolCall) :
    ∃ index calls fresh,
      state.enterCall call =
        { state with
          callIdx := index
          message := { state.message with toolCalls := calls }
          freshCallIDs := fresh } ∧
      Indexes index (calls.map ToolCall.id) ∧
      (∀ id, id ∈ calls.map ToolCall.id ↔ id ∈ state.message.callIDs ∨ id ≠ "" ∧ id = call.id) ∧
      (∀ id ∈ fresh, id ∈ calls.map ToolCall.id) ∧
      state.message.toolCalls.map unsettled <+: calls.map unsettled := by
  by_cases known : call.id ≠ "" → call.id ∈ state.message.callIDs
  · obtain ⟨fresh, entered, listed⟩ := tracks.enterCall_known known
    refine ⟨state.callIdx, state.message.toolCalls, fresh, entered, tracks.calls, ?_, listed, prefix_rfl⟩
    intro id
    constructor
    · exact .inl
    · rintro (member | ⟨named, rfl⟩)
      · exact member
      · exact known named
  · obtain ⟨named, new⟩ := Classical.not_imp.mp known
    have unknown := tracks.calls.eq_none_iff.mpr new
    have longer := tracks.calls.append unknown
    have ids : (state.message.toolCalls ++ [{ call with status := .approved }]).map ToolCall.id =
        state.message.callIDs ++ [call.id] := map_append
    rw [enterCall, if_neg named]
    simp only [unknown]
    refine ⟨_, _, _, rfl, ?_, ?_, ?_, ?_⟩
    · rw [Message.callIDs, length_map] at longer
      rw [ids]
      exact longer
    · intro id
      rw [ids, mem_append, mem_singleton]
      constructor
      · rintro (member | rfl)
        · exact .inl member
        · exact .inr ⟨named, rfl⟩
      · rintro (member | ⟨_, same⟩)
        · exact .inl member
        · exact .inr same
    · intro id member
      rw [ids]
      rcases mem_cons.mp member with rfl | earlier
      · exact mem_append_right _ (mem_singleton_self _)
      · exact mem_append_left _ (tracks.fresh id earlier)
    · rw [map_append]
      exact prefix_append ..

theorem toolCall (type : event.type = .toolCall) (batchID : String) :
    Tracks active (seen ++ [event]) (state.onToolCall event batchID) := by
  obtain ⟨index, calls, fresh, entered, coherent, known, listed, kept⟩ := tracks.enterCall_eq
    ⟨event.toolCallID, event.toolName, event.toolArgs, resumeApprovalID batchID event.toolCallID, .unset⟩
  have longer : announced (seen ++ [event]) = announced seen ++ [event.toolCallID] := by
    rw [announced_append, if_pos type]
  unfold onToolCall
  dsimp only
  rw [entered]
  constructor
  · exact tracks.running
  · exact tracks.named
  · rw [lastPause_append, if_neg (by simp [Event.pauses, type])]
    exact tracks.paused
  · exact coherent
  · exact tracks.results
  · exact tracks.recorded
  · intro id
    rw [Message.callIDs, known, tracks.known, longer, mem_append, mem_singleton, or_assoc, ← and_or_left]
  · exact listed
  · exact tracks.kept.trans kept
  · intro id member
    exact (known id).mpr (.inl (tracks.answers id member))
  · rw [longer, map_append, tracks.collected]
    rfl
  · intro id
    rw [tracks.answered, answered_append]
    simp [type]

theorem toolResult (type : event.type = .toolResult) :
    Tracks active (seen ++ [event]) (state.onToolResult event) := by
  have same : announced (seen ++ [event]) = announced seen := by
    rw [announced_append, if_neg (by simp [type]), append_nil]
  have unpaused : lastPause (seen ++ [event]) = lastPause seen := by
    rw [lastPause_append, if_neg (by simp [Event.pauses, type])]
  -- The frame counts as an answer exactly if the loop takes it.
  have answers : ∀ id, Answered active (seen ++ [event]) id ↔
      Answered active seen id ∨ state.matched event = true ∧ id = event.toolCallID := by
    intro id
    rw [answered_append, tracks.matched_iff, tracks.known]
    constructor
    · rintro (earlier | ⟨_, rfl, named, known⟩)
      · exact .inl earlier
      · exact .inr ⟨⟨named, known.imp_right fun listed => ⟨named, listed⟩⟩, rfl⟩
    · rintro (earlier | ⟨⟨named, known⟩, rfl⟩)
      · exact .inl earlier
      · exact .inr ⟨type, rfl, named, known.imp_right And.right⟩
  unfold onToolResult
  by_cases taken : state.matched event = true
  · rw [if_pos taken]
    let result : ToolResult := ⟨event.toolCallID, resultContent event.toolResult, event.toolError ≠ "", event.code⟩
    obtain ⟨results, resultIDs⟩ := placeResult_spec tracks.results result
    obtain ⟨recorded, recordedIDs⟩ := placeResult_spec tracks.recorded result
    constructor
    · exact tracks.running
    · exact tracks.named
    · rw [unpaused]
      exact tracks.paused
    · rw [Message.callIDs, setStatus_ids]
      exact tracks.calls
    · exact results
    · exact recorded
    · rw [Message.callIDs, setStatus_ids, same]
      exact tracks.known
    · rw [Message.callIDs, setStatus_ids]
      exact tracks.fresh
    · rw [setStatus_unsettled]
      exact tracks.kept
    · intro id member
      rw [Message.callIDs, setStatus_ids]
      rcases (resultIDs id).mp member with earlier | added
      · exact tracks.answers id earlier
      · rw [added]
        exact (tracks.matched_iff.mp taken).2
    · rw [same]
      exact tracks.collected
    · intro id
      rw [answers, ← tracks.answered]
      exact (recordedIDs id).trans (by simp [taken, result])
  · rw [if_neg taken]
    apply tracks.congr unpaused same
    intro id
    rw [answers]
    simp [taken]

/-- A pause frame is only remembered. -/
theorem pause (pauses : event.pauses) :
    Tracks active (seen ++ [event]) { state with rePause := some event } :=
  have type : event.type = .toolApprovalRequired := of_decide_eq_true pauses
  have same : announced (seen ++ [event]) = announced seen := by
    rw [announced_append, if_neg (by simp [type]), append_nil]
  { tracks with
    paused := by rw [lastPause_append, if_pos pauses]
    known := by
      rw [same]
      exact tracks.known
    collected := by
      rw [same]
      exact tracks.collected
    answered id := by
      rw [tracks.answered, answered_append]
      simp [type] }

theorem step (batchID : String) (goes : event.ends = false) :
    Tracks active (seen ++ [event]) (state.onEvent event batchID) := by
  have running : ¬ state.saved.isSome = true := by simp [tracks.running]
  unfold onEvent
  rw [if_neg running]
  cases type : event.type with
  | text =>
    have quiet : Tracks active (seen ++ [event]) state :=
      tracks.quiet (by simp [type]) (by simp [type]) (by simp [Event.pauses, type])
    exact { quiet with }
  | toolCall => exact tracks.toolCall type batchID
  | toolResult => exact tracks.toolResult type
  | toolRejected =>
    exact tracks.toolRejected.quiet (by simp [type]) (by simp [type]) (by simp [Event.pauses, type])
  | toolApprovalRequired => exact tracks.pause (by simp [Event.pauses, type])
  | error | done => simp [Event.ends, type] at goes
  | other =>
    exact tracks.quiet (by simp [type]) (by simp [type]) (by simp [Event.pauses, type])

theorem run (batchID : String) (events : List Event) (goes : ∀ event ∈ events, event.ends = false) :
    Tracks active (seen ++ events) (events.foldl (fun state event => state.onEvent event batchID) state) := by
  induction events generalizing seen state with
  | nil =>
    rw [append_nil]
    exact tracks
  | cons event events ih =>
    obtain ⟨first, rest⟩ := forall_mem_cons.mp goes
    have moved := ih (tracks.step batchID first) rest
    rwa [append_assoc] at moved

end

end Tracks

section End

variable {active : Message} {state : ResumeState} (batchID : String)

/-- After the end nothing moves any more. -/
theorem foldl_of_saved (events : List Event) (closed : state.saved.isSome) :
    events.foldl (fun state event => state.onEvent event batchID) state = state := by
  induction events with
  | nil => rfl
  | cons event events ih =>
    have still : state.onEvent event batchID = state := if_pos closed
    rw [foldl_cons, still, ih]

/-- The last frame makes the record of what was collected before it. -/
theorem onEvent_ends {event} (running : state.saved = none) (ends : event.ends) :
    ∃ status code, (status = .complete ∨ status = .error) ∧
      state.onEvent event batchID = state.terminate status code := by
  have unsaved : ¬ state.saved.isSome = true := by simp [running]
  unfold onEvent
  rw [if_neg unsaved]
  cases type : event.type with
  | done => exact ⟨_, _, .inl rfl, rfl⟩
  | error => exact ⟨_, _, .inr rfl, rfl⟩
  | _ => simp [Event.ends, type] at ends

/-- A run sees no end, or stops at the first one. -/
theorem foldl_resume (calls : active.callIDs.Nodup) (results : active.resultIDs.Nodup)
    (answers : ∀ id ∈ active.resultIDs, id ∈ active.callIDs) (events : List Event) :
    ∃ reached, Tracks active (live events) reached ∧
      let final := events.foldl (fun state event => state.onEvent event batchID) (.start active)
      ((∀ event ∈ events, event.ends = false) ∧ live events = events ∧ final = reached ∨
        (∃ event ∈ events, event.ends) ∧ ∃ status code,
          (status = .complete ∨ status = .error) ∧ final = reached.terminate status code) := by
  have going : ∀ event ∈ live events, event.ends = false := by
    intro event member
    simpa using mem_takeWhile_imp member
  have tracks := (Tracks.start calls results answers).run batchID (live events) going
  refine ⟨_, tracks, ?_⟩
  have split : live events ++ events.dropWhile (fun event => !event.ends) = events := takeWhile_append_dropWhile
  cases rest : events.dropWhile fun event => !event.ends with
  | nil =>
    rw [rest, append_nil] at split
    rw [split] at going ⊢
    exact .inl ⟨going, rfl, rfl⟩
  | cons last later =>
    have ends : last.ends = true := by
      have head := head_dropWhile_not (fun event : Event => !event.ends)
        (show events.dropWhile _ ≠ [] by simp [rest])
      simpa [rest] using head
    rw [rest] at split
    have listed : last ∈ events := by
      rw [← split]
      simp
    obtain ⟨status, code, kind, ended⟩ := onEvent_ends batchID tracks.running ends
    refine .inr ⟨⟨last, listed, ends⟩, status, code, kind, ?_⟩
    nth_rewrite 1 [← split]
    rw [foldl_append, foldl_cons, ended]
    exact foldl_of_saved batchID later rfl

end End

end OneVoice.ChatTurn
