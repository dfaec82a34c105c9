/- The dynamic values of the two decoders, and the function that takes the Mongo driver's containers
out of them. -/

import OneVoice.Library.Json

namespace OneVoice.Containers

/-- The types in which a decoder keeps a document: the driver has two of its own. -/
inductive DocumentType where
  | map
  | bsonM
  | bsonD
deriving DecidableEq

inductive ArrayType where
  | slice
  | bsonA
deriving DecidableEq

/-- A dynamic value has the container types that its decoder has chosen. -/
inductive Value (Plain : Type) where
  | plain (value : Plain)
  | document (type : DocumentType) (entries : List (String × Value Plain))
  | array (type : ArrayType) (items : List (Value Plain))

variable {Plain : Type}

/-- The value that a key is left with when the entries are assigned in turn. -/
def assigned (key : String) : List (String × Value Plain) → Option (Value Plain)
  | [] => none
  | (name, value) :: rest => (assigned key rest).or (if name = key then some value else none)

mutual

/-- The arguments of a retry pass this function of `service/agent_task.go`. -/
def normalizeBSONContainer : Value Plain → Value Plain
  | .plain value => .plain value
  | .document _ entries => .document .map (normalizeEntries entries)
  | .array _ items => .array .slice (normalizeItems items)

/-- A map keeps one entry for a key; the order of the keys is none of its own. -/
def normalizeEntries : List (String × Value Plain) → List (String × Value Plain)
  | [] => []
  | (key, item) :: rest =>
    if (assigned key rest).isSome then normalizeEntries rest
    else (key, normalizeBSONContainer item) :: normalizeEntries rest

def normalizeItems : List (Value Plain) → List (Value Plain)
  | [] => []
  | item :: rest => normalizeBSONContainer item :: normalizeItems rest

end

end OneVoice.Containers
