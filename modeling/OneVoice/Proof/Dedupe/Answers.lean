import OneVoice.Proof.Dedupe.AtMostOnce

namespace OneVoice.Dedupe

open Library

variable {Error : Type} {requests : Nat → Call Error} {approvalID : String}

/-- An error stands above a response. -/
def outcome (response : Option ToolResponse) : Option Error → Option ToolResponse
  | none => response
  | some _ => none

/-- The response of a call that came back without an error. -/
def Phase.outcome : Phase Error → Option ToolResponse
  | .executed _ response error => Dedupe.outcome response error
  | .returned response error => Dedupe.outcome response error
  | _ => none

/-- The response of an execution that came back without an error. -/
def Event.completed (requests : Nat → Call Error) : Event Error → Option ToolResponse
  | .execReturned call response error =>
    Dedupe.outcome response ((requests call).dispatcher.classify error)
  | _ => none

/-- The successes that are cached or handed out have the given cause. -/
structure Backed (cause : Prop) (state : Dispatches Error) : Prop where
  cached : ∀ entry value response, state.key = some entry → entry.value = .payload value →
    ToolResponse.decode value = some response → response.success = true → cause
  answered : ∀ call response, (state.calls call).outcome = some response → response.success = true → cause

/-- Only a response without an error is stored. -/
theorem dedupeStore_store {dispatcher : Dispatcher Error} {response : Option ToolResponse} {error : Option Error}
    {completed : ToolResponse} (stored : dedupeStore dispatcher approvalID response error = .store completed) :
    response = some completed ∧ error = none := by
  unfold dedupeStore at stored
  split at stored
  · cases stored
  · cases error <;> cases response <;> cases stored
    exact ⟨rfl, rfl⟩

namespace Backed

variable {cause : Prop} {state next : Dispatches Error}

theorem start (now : Domain.Time) : Backed cause (.start now : Dispatches Error) where
  cached := nofun
  answered := nofun

section

variable (backed : Backed cause state)

include backed

theorem mono {more : Prop} (implied : cause → more) : Backed more state where
  cached := fun entry value response found payload decoded success =>
    implied (backed.cached entry value response found payload decoded success)
  answered := fun call response found success => implied (backed.answered call response found success)

theorem move {call phase} (moved : ∀ response, phase.outcome = some response → response.success = true → cause) :
    Backed cause (state.move call phase) where
  cached := backed.cached
  answered other response found success := by
    obtain ⟨_, here⟩ | ⟨_, old⟩ := view_update Phase.outcome found
    · exact moved response here success
    · exact backed.answered other response old success

theorem setKey {key} (cached : ∀ entry value response, key = some entry → entry.value = .payload value →
      ToolResponse.decode value = some response → response.success = true → cause) :
    Backed cause (state.setKey key) where
  cached := cached
  answered := backed.answered

/-- A claim leaves the sentinel or the value that it found. -/
theorem setNX : Backed cause (state.setKey state.setNX.2) := by
  apply backed.setKey
  intro entry value response found payload decoded success
  cases free : state.setNX.1 with
  | true =>
    have installed := (Expiring.setNX_free free).2.symm.trans found
    cases installed
    cases payload
  | false =>
    have kept := (Expiring.setNX_held free).symm.trans found
    exact backed.cached entry value response kept payload decoded success

theorem releaseSentinel : Backed cause (state.setKey state.releaseSentinel) := by
  apply backed.setKey
  intro entry value response found
  unfold Dispatches.releaseSentinel Expiring.deleteIf at found
  split at found
  · cases found
  · exact backed.cached entry value response found

/-- The gate answers a success only from the cache. -/
theorem gate {taskID response} (answered : gateResponse taskID (outcomeAfterMiss state.found) = some response)
    (success : response.success = true) : cause := by
  cases found : state.found with
  | none =>
    rw [found] at answered
    cases answered
    cases success
  | some stored =>
    rw [found] at answered
    cases stored with
    | executing =>
      cases answered
      cases success
    | payload value =>
      have present : ∃ entry, state.key = some entry ∧ entry.value = .payload value := by
        obtain ⟨entry, kept, same⟩ := Option.map_eq_some_iff.mp found
        exact ⟨entry, (Option.filter_eq_some_iff.mp kept).1, same⟩
      obtain ⟨entry, key, payload⟩ := present
      cases decoded : ToolResponse.decode value with
      | none =>
        simp only [gateResponse, outcomeAfterMiss, Option.bind_some, decoded] at answered
        cases answered
        cases success
      | some kept =>
        simp only [gateResponse, outcomeAfterMiss, Option.bind_some, decoded] at answered
        cases answered
        exact backed.cached entry value kept key payload decoded success

end

/-- A step keeps the cause, if a successful execution gives it. -/
theorem step {event : Event Error} (taken : Step requests approvalID state event next)
    (executed : ∀ response, event.completed requests = some response → response.success = true → cause)
    (backed : Backed cause state) : Backed cause next := by
  have returned {call claim response error} (executes : state.calls call = .executed claim response error)
      (other) (same : (Phase.returned response error).outcome = some other) (success : other.success = true) :
      cause := backed.answered call other (by rw [executes]; exact same) success
  cases taken with
  | tick => exact ⟨backed.cached, backed.answered⟩
  | claimed => exact backed.setNX.move nofun
  | claimFailed applied =>
    apply move _ nofun
    cases applied with
    | true => exact backed.setNX
    | false => exact backed
  | answered response _ given =>
    apply backed.move
    intro other same success
    cases same
    exact backed.gate given success
  | @execReturned call claim response error _ =>
    apply backed.move
    intro other same success
    exact executed other same success
  | finished executes => exact backed.move (returned executes)
  | released applied executes =>
    cases applied with
    | true => exact backed.releaseSentinel.move (returned executes)
    | false => exact backed.move (returned executes)
  | stored completed applied executes store =>
    apply move _ (returned executes)
    cases applied with
    | false => exact backed
    | true =>
      apply backed.setKey
      intro entry value other found payload decoded success
      cases found
      cases payload
      obtain ⟨kept, inverse, same⟩ := completed.decode_encode
      cases inverse.symm.trans decoded
      obtain ⟨rfl, rfl⟩ := dedupeStore_store store
      exact returned executes completed rfl (same.success.symm.trans success)
  | _ => exact backed.move nofun

end Backed

end OneVoice.Dedupe
