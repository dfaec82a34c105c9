/- The client of `pkg/hitldedupe/dedupe.go` and the sequence of `pkg/agentbase/dispatcher.go`. The
calls carry one business and approval id, so they share one key. Every Redis command is one step,
and a call may stop between any two. -/

import OneVoice.Construction.Domain
import OneVoice.Library.Expiring
import OneVoice.Library.Run

namespace OneVoice.Dedupe

open Library Domain Json

def dedupeTTL : Time := 24 * 60 * 60 * 1000

def executingTTL : Time := 300 * 1000

/-- A nil result map and an empty one are the same, as both are omitted. -/
structure ToolResponse where
  taskID : String
  success : Bool
  result : Args
  error : String
  code : String

section

variable (response : ToolResponse) (taskID : String)

namespace ToolResponse

def fields : List (String × Json) :=
  [("task_id", .str response.taskID), ("success", .bool response.success)] ++
    omitEmpty "result" (encodeMap id response.result) response.result.entries.isEmpty ++
    omitEmpty "error" (.str response.error) (response.error == "") ++
    omitEmpty "code" (.str response.code) (response.code == "")

def encode : Json := .obj response.fields

def decode : Json → Option ToolResponse
  | .null => some ⟨"", false, ∅, "", ""⟩
  | .obj fields => do
      let taskID ← decodeField decodeString "" "task_id" fields
      let success ← decodeField decodeBool false "success" fields
      let result ← decodeField (decodeMap some) ∅ "result" fields
      let error ← decodeField decodeString "" "error" fields
      let code ← decodeField decodeString "" "code" fields
      pure ⟨taskID, success, result, error, code⟩
  | _ => none

end ToolResponse

/-- The text under the key; a payload is an object, so never the sentinel. -/
inductive StoredValue where
  | executing
  | payload (value : Json)

def StoredValue.isExecuting : StoredValue → Bool
  | .executing => true
  | .payload _ => false

inductive ClaimOutcome where
  | skip
  | claimed
  | inFlight
  | duplicate
deriving DecidableEq

/-- A key that expired or was released between the two commands counts as a duplicate without a
text. -/
def outcomeAfterMiss : Option StoredValue → ClaimOutcome × Option Json
  | none => (.duplicate, none)
  | some .executing => (.inFlight, none)
  | some (.payload value) => (.duplicate, some value)

def inFlightResponse : ToolResponse := ⟨taskID, false, ∅, "duplicate: already in flight", "transient"⟩

def unavailableResponse : ToolResponse := ⟨taskID, false, ∅, "duplicate: cached result unavailable", ""⟩

/-- The envelope with which the gate stops a call. Empty text does not decode. -/
def gateResponse : ClaimOutcome × Option Json → Option ToolResponse
  | (.inFlight, _) => some (inFlightResponse taskID)
  | (.duplicate, cached) =>
    match cached.bind ToolResponse.decode with
    | none => some (unavailableResponse taskID)
    | some response => some { response with taskID := taskID }
  | (.claimed, _) | (.skip, _) => none

end

/-- A classifier wraps errors and invents none. -/
structure ErrorClassifier (Error : Type) where
  classify : Option Error → Option Error
  classify_none : classify none = none

/-- Both dependencies of a dispatcher are optional. -/
structure Dispatcher (Error : Type) where
  dedupe : Bool
  classifier : Option (ErrorClassifier Error)

namespace Dispatcher

variable {Error : Type}

def classify (dispatcher : Dispatcher Error) (error : Option Error) : Option Error :=
  match dispatcher.classifier with
  | none => error
  | some classifier => classifier.classify error

@[simp] theorem classify_none (dispatcher : Dispatcher Error) : dispatcher.classify none = none := by
  unfold classify
  split
  · rfl
  · exact ErrorClassifier.classify_none _

/-- The gate consults Redis only with a client and an approval id. -/
def gated (dispatcher : Dispatcher Error) (approvalID : String) : Bool := dispatcher.dedupe && approvalID != ""

end Dispatcher

/-- The command with which a dispatch settles its key after the tool ran. -/
inductive Settlement where
  | untouched
  | release
  | store (response : ToolResponse)

def dedupeStore {Error : Type} (dispatcher : Dispatcher Error) (approvalID : String)
    (response : Option ToolResponse) (error : Option Error) : Settlement :=
  if dispatcher.gated approvalID = false then .untouched
  else match error, response with
    | some _, _ => .release
    | none, none => .release
    | none, some response => .store response

/-- One call of `Dispatch`, on some replica of some agent. -/
structure Call (Error : Type) where
  dispatcher : Dispatcher Error
  taskID : String

/-- The position of a call, without an instant outside the gate. -/
inductive Phase (Error : Type) where
  | idle
  | missed
  | running (claim : Option Time)
  | executed (claim : Option Time) (response : Option ToolResponse) (error : Option Error)
  | returned (response : Option ToolResponse) (error : Option Error)

/-- A call executes from the gate to its settlement. -/
def Phase.execution {Error : Type} : Phase Error → Option (Option Time)
  | .running claim => some claim
  | .executed claim _ _ => some claim
  | _ => none

structure Dispatches (Error : Type) where
  now : Time
  key : Expiring StoredValue
  calls : Nat → Phase Error

namespace Dispatches

variable {Error : Type}

variable (state : Dispatches Error)

variable (call : Nat) (phase : Phase Error) (key : Expiring StoredValue)

def move : Dispatches Error := { state with calls := Function.update state.calls call phase }

def setKey : Dispatches Error := { state with key := key }

@[simp] theorem setKey_calls : (state.setKey key).calls = state.calls := rfl

@[simp] theorem move_calls_self : (state.move call phase).calls call = phase := by
  simp [move]

theorem move_calls_of_ne {call other} (different : other ≠ call) (phase : Phase Error) :
    (state.move call phase).calls other = state.calls other := by
  simp [move, different]

/-- A move leaves a call alone that stands elsewhere. -/
theorem move_keeps {state : Dispatches Error} {call other : Nat} {phase kept : Phase Error}
    (here : state.calls call = kept) (elsewhere : state.calls other ≠ kept) :
    (state.move other phase).calls call = kept := by
  have different : call ≠ other := by
    rintro rfl
    exact elsewhere here
  rw [move_calls_of_ne state different, here]

def found : Option StoredValue := state.key.read state.now

def setNX (state : Dispatches Error) : Bool × Expiring StoredValue :=
  state.key.setNX state.now executingTTL .executing

/-- The compare-and-delete script of `Release`. -/
def releaseSentinel : Expiring StoredValue := state.key.deleteIf state.now StoredValue.isExecuting

def store (response : ToolResponse) : Expiring StoredValue :=
  Expiring.set state.now dedupeTTL (.payload response.encode)

/-- Nobody called yet, so the key is absent. -/
def start (now : Time) : Dispatches Error := ⟨now, none, fun _ => .idle⟩

end Dispatches

/-- A command carries whether Redis applied it; the caller may see an error. -/
inductive Event (Error : Type) where
  | tick (later : Time)
  | skipped (call : Nat)
  | claimed (call : Nat)
  | missed (call : Nat)
  | claimFailed (call : Nat) (applied : Bool)
  | answered (call : Nat) (response : ToolResponse)
  | getFailed (call : Nat)
  | execReturned (call : Nat) (response : Option ToolResponse) (error : Option Error)
  | finished (call : Nat)
  | released (call : Nat) (applied : Bool)
  | stored (call : Nat) (instant : Time) (applied : Bool)

/-- One step of the calls with this approval id; the tool may return anything. -/
inductive Step {Error : Type} (requests : Nat → Call Error) (approvalID : String) :
    Dispatches Error → Event Error → Dispatches Error → Prop
  | tick {state} (later : Time) :
      state.now ≤ later → Step requests approvalID state (.tick later) { state with now := later }
  | skipped {state call} : state.calls call = .idle → (requests call).dispatcher.gated approvalID = false →
      Step requests approvalID state (.skipped call) (state.move call (.running none))
  | claimed {state call} : state.calls call = .idle → (requests call).dispatcher.gated approvalID = true →
      state.setNX.1 = true →
      Step requests approvalID state (.claimed call)
        ((state.setKey state.setNX.2).move call (.running (some state.now)))
  | missed {state call} : state.calls call = .idle → (requests call).dispatcher.gated approvalID = true →
      state.setNX.1 = false →
      Step requests approvalID state (.missed call) (state.move call .missed)
  /-- The gate lets a call through when the claim itself failed. -/
  | claimFailed {state call} (applied : Bool) :
      state.calls call = .idle → (requests call).dispatcher.gated approvalID = true →
      Step requests approvalID state (.claimFailed call applied)
        ((state.setKey (if applied then state.setNX.2 else state.key)).move call (.running none))
  | answered {state call} (response : ToolResponse) : state.calls call = .missed →
      gateResponse (requests call).taskID (outcomeAfterMiss state.found) = some response →
      Step requests approvalID state (.answered call response) (state.move call (.returned (some response) none))
  | getFailed {state call} : state.calls call = .missed →
      Step requests approvalID state (.getFailed call) (state.move call (.running none))
  | execReturned {state call claim} (response : Option ToolResponse) (error : Option Error) :
      state.calls call = .running claim →
      Step requests approvalID state (.execReturned call response error)
        (state.move call (.executed claim response ((requests call).dispatcher.classify error)))
  | finished {state call claim response error} : state.calls call = .executed claim response error →
      dedupeStore (requests call).dispatcher approvalID response error = .untouched →
      Step requests approvalID state (.finished call) (state.move call (.returned response error))
  /-- A failed release is only logged. -/
  | released {state call claim response error} (applied : Bool) :
      state.calls call = .executed claim response error →
      dedupeStore (requests call).dispatcher approvalID response error = .release →
      Step requests approvalID state (.released call applied)
        ((state.setKey (if applied then state.releaseSentinel else state.key)).move call (.returned response error))
  /-- So is a failed store. -/
  | stored {state call claim response error} (completed : ToolResponse) (applied : Bool) :
      state.calls call = .executed claim response error →
      dedupeStore (requests call).dispatcher approvalID response error = .store completed →
      Step requests approvalID state (.stored call state.now applied)
        ((state.setKey (if applied then state.store completed else state.key)).move call (.returned response error))

namespace Sample

/-- Calls with a client and their own task ids. -/
def requests (call : Nat) : Call String := ⟨⟨true, none⟩, toString call⟩

def response : ToolResponse := ⟨"0", true, (∅ : Args).insert "post_id" (.str "17"), "", ""⟩

end Sample

end OneVoice.Dedupe
