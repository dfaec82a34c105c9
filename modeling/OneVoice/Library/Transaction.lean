import Mathlib.Data.List.Basic

/-!
The statements of a database transaction. A statement that fails aborts its transaction, all later
ones fail until a rollback to a savepoint, and the commit of an aborted transaction is a rollback.
-/

namespace OneVoice.Library

structure Transaction (Write : Type*) where
  writes : List Write
  aborted : Bool

namespace Transaction

variable {Write : Type*}

def start : Transaction Write := ⟨[], false⟩

variable (tx : Transaction Write)

def exec (passes : Bool) (write : Write) : Transaction Write × Bool :=
  if tx.aborted then (tx, false)
  else if passes then ({ tx with writes := tx.writes ++ [write] }, true)
  else ({ tx with aborted := true }, false)

/-- The statements are executed up to the first one that fails. -/
def execAll : Transaction Write → List (Bool × Write) → Transaction Write × Bool
  | tx, [] => (tx, true)
  | tx, (passes, write) :: rest =>
    match tx.exec passes write with
    | (next, true) => next.execAll rest
    | (next, false) => (next, false)

/-- A failure is rolled back to the savepoint, if there is one. -/
def nested (statements : List (Bool × Write)) : Transaction Write × Bool :=
  if tx.aborted then (tx, false)
  else match tx.execAll statements with
    | (next, true) => (next, true)
    | (_, false) => (tx, false)

def commit : Option (List Write) :=
  if tx.aborted then none else some tx.writes

variable (writes : List Write) {statements : List (Bool × Write)}

theorem execAll_of_pass (pass : ∀ statement ∈ statements, statement.1 = true) :
    execAll ⟨writes, false⟩ statements = (⟨writes ++ statements.map Prod.snd, false⟩, true) := by
  induction statements generalizing writes with
  | nil => simp [execAll]
  | cons statement rest ih =>
    obtain ⟨passes, write⟩ := statement
    obtain rfl : passes = true := pass _ List.mem_cons_self
    have later := ih (writes ++ [write]) fun other inside => pass other (List.mem_cons_of_mem _ inside)
    simpa [execAll, exec] using later

theorem execAll_of_fail (fail : ∃ statement ∈ statements, statement.1 = false) :
    (execAll ⟨writes, false⟩ statements).1.aborted = true ∧ (execAll ⟨writes, false⟩ statements).2 = false := by
  induction statements generalizing writes with
  | nil =>
    obtain ⟨statement, inside, -⟩ := fail
    cases inside
  | cons statement rest ih =>
    obtain ⟨passes, write⟩ := statement
    cases passes with
    | false => exact ⟨rfl, rfl⟩
    | true =>
      obtain ⟨other, inside, fails⟩ := fail
      rcases List.mem_cons.mp inside with rfl | later
      · cases fails
      · exact ih (writes ++ [write]) ⟨other, later, fails⟩

theorem nested_of_pass (pass : ∀ statement ∈ statements, statement.1 = true) :
    nested ⟨writes, false⟩ statements = (⟨writes ++ statements.map Prod.snd, false⟩, true) := by
  simp [nested, execAll_of_pass writes pass]

theorem nested_of_fail (fail : ∃ statement ∈ statements, statement.1 = false) :
    nested ⟨writes, false⟩ statements = (⟨writes, false⟩, false) := by
  obtain ⟨-, failed⟩ := execAll_of_fail writes fail
  unfold nested
  rw [if_neg Bool.false_ne_true]
  split
  · next next equal =>
      rw [equal] at failed
      cases failed
  · rfl

end Transaction

end OneVoice.Library
