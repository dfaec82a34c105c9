/- The executor of `orchestrator/internal/natsexec`: the deny-list walk over the tool arguments, and
the two decoders from which these can come. -/

import OneVoice.Construction.Containers
import OneVoice.Construction.Orchestrator.Loop

namespace OneVoice.NatsExec

open Library Domain
open Containers (DocumentType)

inductive Scalar where
  | null
  | bool (value : Bool)
  | num (value : Rat)
  | str (value : String)

def Scalar.toJson : Scalar → Json
  | null => .null
  | bool value => .bool value
  | num value => .num value
  | str value => .str value

abbrev Value := Containers.Value Scalar

abbrev Entries := List (String × Value)

namespace Value

mutual

/-- The JSON decoder fills maps and slices; the last repeated name stays. -/
def ofJson : Json → Value
  | .null => .plain .null
  | .bool value => .plain (.bool value)
  | .num value => .plain (.num value)
  | .str value => .plain (.str value)
  | .arr items => .array .slice (ofItems items)
  | .obj fields => .document .map (ofFields fields)

def ofItems : List Json → List Value
  | [] => []
  | item :: rest => ofJson item :: ofItems rest

def ofFields : List (String × Json) → Entries
  | [] => []
  | (name, value) :: rest =>
    if (ofFields rest).any fun entry => entry.1 = name then ofFields rest
    else (name, ofJson value) :: ofFields rest

end

mutual

/-- A value stored in Mongo and decoded again: an embedded document gets the type that the decoder
chooses, which is the type around it or `bson.D`, and arrays come back as `bson.A`. -/
def stored (documents : DocumentType) : Value → Value
  | .plain value => .plain value
  | .document _ entries => .document documents (storedEntries documents entries)
  | .array _ items => .array .bsonA (storedItems documents items)

def storedEntries (documents : DocumentType) : Entries → Entries
  | [] => []
  | (name, value) :: rest => (name, stored documents value) :: storedEntries documents rest

def storedItems (documents : DocumentType) : List Value → List Value
  | [] => []
  | item :: rest => stored documents item :: storedItems documents rest

end

mutual

/-- The encoder writes every document type as an object, both array types alike. -/
def toJson : Value → Json
  | .plain value => value.toJson
  | .document _ entries => .obj (toFields entries)
  | .array _ items => .arr (toItems items)

def toFields : Entries → List (String × Json)
  | [] => []
  | (name, value) :: rest => (name, toJson value) :: toFields rest

def toItems : List Value → List Json
  | [] => []
  | item :: rest => toJson item :: toItems rest

end

end Value

def deniedKeys : List String := ["cookies", "session_id", "token", "auth", "authorization", "password", "api_key"]

variable (lower : Char → Char)

/-- The lower-case mapping is a table of the unicode package. -/
def denied (key : String) : Bool := toLower lower key ∈ deniedKeys

mutual

/-- The walk returns the first denied key in its original spelling. -/
def walkDeny (lower : Char → Char) : Entries → Option String
  | [] => none
  | (key, value) :: rest =>
    if denied lower key then some key
    else match walkValue lower value with
      | some name => some name
      | none => walkDeny lower rest

/-- The type switch knows the containers of the JSON decoder only. -/
def walkValue (lower : Char → Char) : Value → Option String
  | .document .map entries => walkDeny lower entries
  | .array .slice items => walkItems lower items
  | _ => none

def walkItems (lower : Char → Char) : List Value → Option String
  | [] => none
  | item :: rest =>
    match walkValue lower item with
    | some name => some name
    | none => walkItems lower rest

end

def violatesDenyList (args : Entries) : Option String := walkDeny lower args

structure ToolRequest where
  taskID : String
  tool : String
  args : Entries
  businessID : String
  requestID : String
  approvalID : String

def ToolRequest.toJson (request : ToolRequest) : Json :=
  .obj ([("task_id", .str request.taskID), ("tool", .str request.tool),
      ("args", .obj (Value.toFields request.args)), ("business_id", .str request.businessID)] ++
    Json.omitEmpty "request_id" (.str request.requestID) (request.requestID = "") ++
    Json.omitEmpty "approval_id" (.str request.approvalID) (request.approvalID = ""))

def errDenyListed : String := "natsexec: tool argument rejected by security policy"

/-- The payload that is sent to the agent, or the refusal. -/
def dispatch (request : ToolRequest) : Except String Json :=
  match violatesDenyList lower request.args with
  | some _ => .error errDenyListed
  | none => .ok request.toJson

/-- The arguments of a fresh turn are the decoded JSON of the model. -/
def freshArgs (args : Args) : Entries := args.entries.map fun entry => (entry.1, Value.ofJson entry.2)

/-- The arguments of a resume: a map, whose values come from Mongo. -/
def resumedArgs (documents : DocumentType) (call : PendingCall) : Entries :=
  Value.storedEntries documents (freshArgs (Agent.approvedArgs call))

end OneVoice.NatsExec
