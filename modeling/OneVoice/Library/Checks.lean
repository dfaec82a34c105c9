import Mathlib.Logic.Basic

/-!
Handlers that run a chain of checks and stop at the first one that fails.
-/

namespace OneVoice.Library

variable {Error Value Result : Type}

/-- A check that fails ends the handler with its error. -/
def require (condition : Prop) [Decidable condition] (error : Error) : Except Error Unit :=
  if condition then .ok () else .error error

/-- A lookup without a result ends the handler with its error. -/
def expect (value : Option Value) (error : Error) : Except Error Value :=
  match value with
  | some value => .ok value
  | none => .error error

@[simp]
theorem require_ok {condition : Prop} [Decidable condition] {error : Error} {done : Unit} :
    require condition error = .ok done ↔ condition := by
  unfold require
  split <;> simp [*]

@[simp]
theorem expect_ok {value : Option Value} {error : Error} {result : Value} :
    expect value error = .ok result ↔ value = some result := by
  cases value <;> simp [expect]

/-- A chain succeeds when its first check does, and the rest on its value. -/
@[simp]
theorem bind_ok {first : Except Error Value} {rest : Value → Except Error Result} {result : Result} :
    (first >>= rest) = .ok result ↔ ∃ value, first = .ok value ∧ rest value = .ok result := by
  cases first <;> simp [bind, Except.bind]

@[simp]
theorem pure_ok {value result} : (pure value : Except Error Value) = .ok result ↔ value = result := by
  simp [pure, Except.pure]

variable {found : Error}

theorem require_error {condition : Prop} [Decidable condition] {error} :
    require condition error = .error found ↔ ¬ condition ∧ error = found := by
  unfold require
  split <;> simp [*]

theorem expect_error {value : Option Value} {error : Error} :
    expect value error = .error found ↔ value = none ∧ error = found := by
  cases value <;> simp [expect]

/-- A chain fails where its first check does, or the rest on its value. -/
theorem bind_error {first : Except Error Value} {rest : Value → Except Error Result} :
    (first >>= rest) = .error found ↔
      first = .error found ∨ ∃ value, first = .ok value ∧ rest value = .error found := by
  cases first <;> simp [bind, Except.bind]

end OneVoice.Library
