import Mathlib.Data.Option.Basic

/-!
A key of a store with expiry: a set that needs the key to be free, an overwriting set and a
conditional delete, each of them one atomic command.
-/

namespace OneVoice.Library

/-- A stored value can be read up to its deadline. -/
structure Expiring.Entry (Value : Type*) where
  value : Value
  deadline : Nat

/-- A key that was never set and a key that was deleted are the same. -/
abbrev Expiring (Value : Type*) := Option (Expiring.Entry Value)

namespace Expiring

variable {Value : Type*}

def read (key : Expiring Value) (now : Nat) : Option Value :=
  (key.filter fun entry => now ≤ entry.deadline).map Entry.value

def set (now lifetime : Nat) (value : Value) : Expiring Value := some ⟨value, now + lifetime⟩

/-- The set reports whether the key was free. -/
def setNX (key : Expiring Value) (now lifetime : Nat) (value : Value) : Bool × Expiring Value :=
  match key.read now with
  | none => (true, set now lifetime value)
  | some _ => (false, key)

/-- The delete removes the value only when it passes the test. -/
def deleteIf (key : Expiring Value) (now : Nat) (test : Value → Bool) : Expiring Value :=
  if (key.read now).any test then none else key

variable {key : Expiring Value} {now : Nat}

theorem read_some {entry} (present : key = some entry) (fresh : now ≤ entry.deadline) :
    key.read now = some entry.value := by
  simp [read, present, Option.filter, fresh]

variable {value next : Value} {lifetime : Nat}

theorem setNX_taken (present : key.read now = some value) (lifetime : Nat) (next : Value) :
    key.setNX now lifetime next = (false, key) := by
  simp [setNX, present]

/-- A set that found the key free installs its value. -/
theorem setNX_free (free : (key.setNX now lifetime next).1 = true) :
    key.read now = none ∧ (key.setNX now lifetime next).2 = set now lifetime next := by
  cases found : key.read now with
  | none => exact ⟨rfl, by simp [setNX, found]⟩
  | some value =>
    rw [setNX_taken found] at free
    cases free

theorem setNX_held (held : (key.setNX now lifetime next).1 = false) : (key.setNX now lifetime next).2 = key := by
  unfold setNX at held ⊢
  split
  next absent =>
    rw [absent] at held
    cases held
  next => rfl

theorem deleteIf_of_not {test} (present : key.read now = some value)
    (fails : test value = false) : key.deleteIf now test = key := by
  simp [deleteIf, present, fails]

end Expiring

end OneVoice.Library
