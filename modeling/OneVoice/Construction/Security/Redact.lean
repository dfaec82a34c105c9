/- The redacting log handler of `logger/redact.go`. -/

import OneVoice.Construction.Access.Requests
import OneVoice.Library.Text

namespace OneVoice.Logger

open Library

/-- A `slog.Value`; a log valuer is given by the value that it returns. -/
inductive Value (Leaf : Type) where
  | string (text : String)
  | leaf (value : Leaf)
  | group (attrs : List (String × Value Leaf))
  | valuer (logValue : Value Leaf)

abbrev Attr (Leaf : Type) := String × Value Leaf

/-- The error of a value that is resolved too often, and the text of a value. -/
structure Slog (Leaf : Type) where
  tooMany : Value Leaf → Leaf
  string : Value Leaf → String

variable {Leaf : Type} (slog : Slog Leaf)

def maxLogValues : Nat := 100

def resolveWithin (original : Value Leaf) : Nat → Value Leaf → Value Leaf
  | 0, _ => .leaf (slog.tooMany original)
  | limit + 1, .valuer value => resolveWithin original limit value
  | _ + 1, value => value

def resolve (value : Value Leaf) : Value Leaf := resolveWithin slog value maxLogValues value

def isEmptyGroup : Value Leaf → Bool
  | .group [] => true
  | _ => false

/-- Both a group and a record leave out the empty groups. -/
def filled (attrs : List (Attr Leaf)) : List (Attr Leaf) := attrs.filter fun attr => !isEmptyGroup attr.2

def defaultRedactKeys : List String :=
  ["token", "access_token", "refresh_token", "user_token", "cookies", "session", "session_id", "sessionid2",
    "secret", "password", "auth", "authorization", "api_key"]

variable (lower : Char → Char)

def denyKeys (extraKeys : List String) : List String :=
  defaultRedactKeys.map (toLower lower) ++
    (extraKeys.map fun key => toLower lower (Access.trimSpace key)).filter (· ≠ "")

/-- A resolved value is no valuer, and a group comes from inside the value. -/
theorem resolveWithin_inside (original value : Value Leaf) (limit : Nat) :
    (∀ inner, resolveWithin slog original limit value ≠ .valuer inner) ∧
      ∀ attrs, resolveWithin slog original limit value = .group attrs → sizeOf attrs < sizeOf value := by
  induction limit generalizing value with
  | zero => simp [resolveWithin]
  | succ limit ih =>
    cases value with
    | valuer value => exact ⟨(ih value).1, fun attrs group => ((ih value).2 attrs group).trans (by simp)⟩
    | _ => simp [resolveWithin]

theorem sizeOf_lt_of_resolve {value : Value Leaf} {attrs} {attr : Attr Leaf}
    (group : resolve slog value = .group attrs) (listed : attr ∈ attrs) : sizeOf attr.2 < sizeOf value := by
  have inside := List.sizeOf_lt_of_mem listed
  have := (resolveWithin_inside slog value value _).2 attrs group
  cases attr
  simp only [Prod.mk.sizeOf_spec] at inside ⊢
  omega

def mark (value : Value Leaf) : Value Leaf := .string s!"[REDACTED:{(slog.string value).utf8ByteSize}]"

def redactAttr (deny : String → Bool) (attr : Attr Leaf) : Attr Leaf :=
  if deny attr.1 then (attr.1, mark slog (resolve slog attr.2))
  else match _ : resolve slog attr.2 with
    | .group attrs => (attr.1, .group (filled (attrs.attach.map fun sub => redactAttr deny sub.1)))
    | value => (attr.1, value)
termination_by sizeOf attr.2
decreasing_by exact sizeOf_lt_of_resolve slog ‹_› sub.2

/-- What is called on a handler before its record. -/
inductive With (Leaf : Type) where
  | attrs (attrs : List (Attr Leaf))
  | group (name : String)

/-- The calls on the inner handler, and the attributes of the record that it handles. -/
def forward (deny : String → Bool) (calls : List (With Leaf)) (record : List (Attr Leaf)) :
    List (With Leaf) × List (Attr Leaf) :=
  (calls.map fun
    | .attrs attrs => .attrs (attrs.map (redactAttr slog deny))
    | .group name => .group name,
    filled (record.map (redactAttr slog deny)))

end OneVoice.Logger
