/- What replies teach: `runeLevenshtein` of `service/editdistance.go` and `selectFewShotExamples` of
`repository/review.go`. -/

import OneVoice.Construction.Access.Requests
import OneVoice.Library.Text

namespace OneVoice.Reviews.EditDistance

/-- The cells after `left`, each with its neighbours in the row before. -/
def cells (rune : Char) (left : Nat) : List Nat → List Char → List Nat
  | diagonal :: above :: prev, other :: rb =>
    let cost := if rune = other then 0 else 1
    let cell := min (min (left + 1) (above + 1)) (diagonal + cost)
    cell :: cells rune cell (above :: prev) rb
  | _, _ => []

/-- The rows from number `i` on. -/
def rows (rb : List Char) (i : Nat) (prev : List Nat) : List Char → List Nat
  | [] => prev
  | rune :: ra => rows rb (i + 1) (i :: cells rune i prev rb) ra

def runeLevenshtein (a b : String) : Nat :=
  let ra := a.toList
  let rb := b.toList
  if ra.length = 0 then rb.length
  else if rb.length = 0 then ra.length
  else (rows rb 1 (.range (rb.length + 1)) ra).getD rb.length 0

end OneVoice.Reviews.EditDistance

namespace OneVoice.Reviews.FewShot

open Library

def replyDedupeKeyRunes : Nat := 80

def normalizeReplyKey (lower : Char → Char) (reply : String) : String :=
  let words := fields Access.isSpace (toLower lower (Access.trimSpace reply))
  .ofList ((" ".intercalate words).toList.take replyDedupeKeyRunes)

/-- What the selection reads of a review; the row itself is passed on. -/
structure Review (Row : Type) where
  row : Row
  replyText : String
  draftAcceptedUnedited : Option Bool

variable {Row : Type} (key : String → String)

def Review.edited (review : Review Row) : Bool := review.draftAcceptedUnedited = some false

structure Pools (Row : Type) where
  seen : List String := []
  edited : List (Review Row) := []
  recent : List (Review Row) := []

/-- A candidate with a key that was seen is dropped. -/
def Pools.add (pools : Pools Row) (review : Review Row) : Pools Row :=
  let key := key review.replyText
  if key ≠ "" ∧ key ∈ pools.seen then pools
  else
    let seen := if key ≠ "" then key :: pools.seen else pools.seen
    if review.edited then { pools with seen := seen, edited := pools.edited ++ [review] }
    else { pools with seen := seen, recent := pools.recent ++ [review] }

/-- The two cursors stand before the rests of their lists. -/
def blend (limit : Nat) (out edited recent : List (Review Row)) : List (Review Row) :=
  if out.length < limit then
    match edited, recent with
    | [], [] => out
    | [], review :: recent => blend limit (out ++ [review]) [] recent
    | review :: edited, recent =>
      if (out ++ [review]).length = limit then out ++ [review]
      else match recent with
        | [] => blend limit (out ++ [review]) edited []
        | other :: recent => blend limit (out ++ [review] ++ [other]) edited recent
  else out
termination_by edited.length + recent.length

def selectFewShotExamples (pool : List (Review Row)) (limit : Int) : List (Review Row) :=
  if limit ≤ 0 ∨ pool.isEmpty then pool
  else
    let pools := pool.foldl (Pools.add key) {}
    blend limit.toNat [] pools.edited pools.recent

end OneVoice.Reviews.FewShot
