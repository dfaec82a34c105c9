import OneVoice.Construction.Orchestrator.DenyList

namespace OneVoice.NatsExec

open Library Domain Value Json
open Containers (DocumentType)

variable {lower : Char → Char} {docs : DocumentType}

mutual

/-- A key outside arrays and, unless they are maps, documents passes the test. -/
def openKey (docs : DocumentType) (test : String → Bool) : Json → Bool
  | .obj fields => openFieldKey docs test fields
  | _ => false

def openFieldKey (docs : DocumentType) (test : String → Bool) : List (String × Json) → Bool
  | [] => false
  | (name, value) :: rest =>
    test name || (docs = .map && openKey docs test value) || openFieldKey docs test rest

end

mutual

variable {test : String → Bool}

theorem someKey_of_openKey : ∀ value : Json, openKey docs test value = true → value.someKey test = true
  | .obj fields, found => someFieldKey_of_openFieldKey fields found
  | .null, found | .bool _, found | .num _, found | .str _, found | .arr _, found => by
    simp [openKey] at found

theorem someFieldKey_of_openFieldKey :
    ∀ fields : List (String × Json), openFieldKey docs test fields = true → someFieldKey test fields = true
  | [], found => by simp [openFieldKey] at found
  | (name, value) :: rest, found => by
    simp only [openFieldKey, Bool.or_eq_true, Bool.and_eq_true] at found
    simp only [someFieldKey, Bool.or_eq_true]
    rcases found with (here | ⟨_, below⟩) | later
    · exact .inl (.inl here)
    · exact .inl (.inr (someKey_of_openKey value below))
    · exact .inr (someFieldKey_of_openFieldKey rest later)

end

mutual

/-- Storing a value does not change the JSON that it is sent as. -/
theorem toJson_stored : ∀ value : Value, (stored docs value).toJson = value.toJson
  | .plain _ => by simp only [stored]
  | .document _ entries => by simp only [stored, toJson, toFields_storedEntries entries]
  | .array _ items => by simp only [stored, toJson, toItems_storedItems items]

theorem toFields_storedEntries : ∀ entries : Entries, toFields (storedEntries docs entries) = toFields entries
  | [] => by simp only [storedEntries]
  | (name, value) :: rest => by
    simp only [storedEntries, toFields, toJson_stored value, toFields_storedEntries rest]

theorem toItems_storedItems : ∀ items : List Value, toItems (storedItems docs items) = toItems items
  | [] => by simp only [storedItems]
  | item :: rest => by
    simp only [storedItems, toItems, toJson_stored item, toItems_storedItems rest]

end

theorem isSome_walkDeny_cons (key : String) (value : Value) (rest : Entries) :
    (walkDeny lower ((key, value) :: rest)).isSome =
      (denied lower key || (walkValue lower value).isSome || (walkDeny lower rest).isSome) := by
  rw [walkDeny]
  by_cases hit : denied lower key = true
  · simp [hit]
  · cases found : walkValue lower value <;> simp [hit]

theorem isSome_walkItems_cons (item : Value) (rest : List Value) :
    (walkItems lower (item :: rest)).isSome = ((walkValue lower item).isSome || (walkItems lower rest).isSome) := by
  rw [walkItems]
  cases found : walkValue lower item <;> simp

mutual

/-- The walk sees every key of a value that the JSON decoder has built. -/
theorem walkValue_ofJson : ∀ value : Json,
    (walkValue lower (ofJson value)).isSome = (ofJson value).toJson.someKey (denied lower)
  | .null | .bool _ | .num _ | .str _ => by
    simp only [ofJson, walkValue, toJson, Scalar.toJson, someKey]; rfl
  | .arr items => by simp only [ofJson, walkValue, toJson, someKey, walkItems_ofItems items]
  | .obj fields => by simp only [ofJson, walkValue, toJson, someKey, walkDeny_ofFields fields]

theorem walkItems_ofItems : ∀ items : List Json, (walkItems lower (ofItems items)).isSome =
      someItemKey (denied lower) (toItems (ofItems items))
  | [] => by simp only [ofItems, walkItems, toItems, someItemKey]; rfl
  | item :: rest => by
    rw [ofItems, isSome_walkItems_cons, toItems, someItemKey, walkValue_ofJson item, walkItems_ofItems rest]

theorem walkDeny_ofFields : ∀ fields : List (String × Json), (walkDeny lower (ofFields fields)).isSome =
      someFieldKey (denied lower) (toFields (ofFields fields))
  | [] => by simp only [ofFields, walkDeny, toFields, someFieldKey]; rfl
  | (name, value) :: rest => by
    rw [ofFields]
    split
    · exact walkDeny_ofFields rest
    · rw [isSome_walkDeny_cons, toFields, someFieldKey, walkValue_ofJson value, walkDeny_ofFields rest]

end

mutual

/-- Of a value from Mongo the walk sees its documents' open keys. -/
theorem walkValue_stored : ∀ value : Value, (walkValue lower (stored docs value)).isSome =
      (decide (docs = .map) && openKey docs (denied lower) value.toJson)
  | .plain value => by
    cases value <;> simp only [stored, walkValue, toJson, Scalar.toJson, openKey, Bool.and_false] <;> rfl
  | .document _ entries => by
    have below := walkDeny_storedEntries entries
    cases docs <;> simp [stored, walkValue, toJson, openKey, below]
  | .array _ items => by
    simp only [stored, walkValue, toJson, openKey, Bool.and_false]; rfl

theorem walkDeny_storedEntries : ∀ entries : Entries, (walkDeny lower (storedEntries docs entries)).isSome =
      openFieldKey docs (denied lower) (toFields entries)
  | [] => by simp only [storedEntries, walkDeny, toFields, openFieldKey]; rfl
  | (name, value) :: rest => by
    rw [storedEntries, isSome_walkDeny_cons, toFields, openFieldKey, walkValue_stored value,
      walkDeny_storedEntries rest]

end

theorem walkDeny_freshArgs (args : Args) :
    (walkDeny lower (freshArgs args)).isSome = someFieldKey (denied lower) (toFields (freshArgs args)) := by
  unfold freshArgs
  induction args.entries with
  | nil => simp only [List.map_nil, toFields]; rfl
  | cons entry rest ih =>
    rw [List.map_cons, isSome_walkDeny_cons, toFields, someFieldKey, walkValue_ofJson entry.2, ih]

/-- The dispatch of a request with these arguments is refused. -/
def Refused (lower : Char → Char) (request : ToolRequest) (args : Entries) : Prop :=
  dispatch lower { request with args := args } = .error errDenyListed

/-- The JSON of the arguments has a deny-listed key at some depth. -/
def CarriesDenied (lower : Char → Char) (args : Entries) : Prop :=
  someKey (denied lower) (.obj (toFields args)) = true

/-- The JSON of the arguments has a deny-listed key that is open. -/
def OpenDenied (docs : DocumentType) (lower : Char → Char) (args : Entries) : Prop :=
  openKey docs (denied lower) (.obj (toFields args)) = true

variable (request : ToolRequest) (args : Entries)

theorem refused_iff : Refused lower request args ↔ (walkDeny lower args).isSome = true := by
  unfold Refused dispatch violatesDenyList
  cases walkDeny lower args <;> simp

theorem refused_resumedArgs (call : PendingCall) :
    Refused lower request (resumedArgs docs call) ↔ OpenDenied docs lower (resumedArgs docs call) := by
  rw [refused_iff, OpenDenied, openKey, resumedArgs, walkDeny_storedEntries, toFields_storedEntries]

/-- A fresh dispatch is refused exactly for a denied key at any depth, a resumed one for an open
one. -/
theorem refused_iff_carriesDenied (lower : Char → Char) (docs : DocumentType)
    (request : ToolRequest) (args : Args) (call : PendingCall) :
    (Refused lower request (freshArgs args) ↔ CarriesDenied lower (freshArgs args)) ∧
      ((Refused lower request (resumedArgs docs call) ↔ CarriesDenied lower (resumedArgs docs call)) ↔
        (CarriesDenied lower (resumedArgs docs call) → OpenDenied docs lower (resumedArgs docs call))) := by
  constructor
  · rw [refused_iff, CarriesDenied, walkDeny_freshArgs, someKey]
  · rw [refused_resumedArgs]
    constructor
    · intro agree carries
      exact agree.mpr carries
    · intro visible
      exact ⟨someKey_of_openKey _, visible⟩

/-- A token in an array element, as proposed and approved. -/
def Sample.call : PendingCall where
  callID := "call"
  toolName := "vk__publish_post"
  arguments := AList.singleton "items" (.arr [.obj [("token", .str "secret")]])
  floorAtPause := .manual
  verdict := .approve
  editedArgs := none
  rejectReason := ""
  dispatched := false
  dispatchedAt := none

/-- The resumed dispatch sends what a fresh one refuses. -/
theorem array_element_not_refused :
    (∀ request, Refused Char.toLower request (freshArgs Sample.call.arguments)) ∧ ∀ request docs,
        CarriesDenied Char.toLower (resumedArgs docs Sample.call) ∧
          ¬ Refused Char.toLower request (resumedArgs docs Sample.call) := by
  simp only [refused_iff, CarriesDenied]
  refine ⟨fun _ => by decide +kernel, fun _ docs => ?_⟩
  cases docs <;> decide +kernel

end OneVoice.NatsExec
