import Mathlib.Data.List.Basic
import Mathlib.Data.List.Induction

/-!
Append-only ledgers whose rows carry the balance after them, read through a column that numbers the
rows.
-/

namespace OneVoice.Library

open List

variable {Row : Type} {delta after : Row → Int} {stamp : Row → Nat}

/-- Each row carries the balance before it, moved by its amount. -/
def Running (delta after : Row → Int) : Int → List Row → Prop
  | _, [] => True
  | opening, row :: rest => after row = opening + delta row ∧ Running delta after (after row) rest

/-- The balance that the last row carries. -/
def closing (after : Row → Int) (opening : Int) (rows : List Row) : Int :=
  rows.foldl (fun _ row => after row) opening

def total (delta : Row → Int) (rows : List Row) : Int := rows.foldl (fun sum row => sum + delta row) 0

/-- The row with the greatest number. -/
def newest (stamp : Row → Nat) (rows : List Row) : Option Row :=
  rows.foldl (fun best row =>
    match best with
    | none => some row
    | some old => if stamp old < stamp row then some row else some old) none

@[simp]
theorem closing_append (opening : Int) (rows more : List Row) :
    closing after opening (rows ++ more) = closing after (closing after opening rows) more :=
  foldl_append

variable {opening : Int} {rows : List Row}

theorem running_append {more} : Running delta after opening (rows ++ more) ↔
      Running delta after opening rows ∧ Running delta after (closing after opening rows) more := by
  induction rows generalizing opening with
  | nil => simp [Running, closing]
  | cons row rest ih => simp [Running, closing, ih, and_assoc]

theorem foldl_delta (sum : Int) (rows : List Row) :
    rows.foldl (fun sum row => sum + delta row) sum = sum + total delta rows := by
  induction rows generalizing sum with
  | nil => simp [total]
  | cons row rest ih =>
    simp only [total, foldl_cons]
    rw [ih (sum + delta row), ih (0 + delta row)]
    omega

theorem total_append (rows : List Row) (row : Row) :
    total delta (rows ++ [row]) = total delta rows + delta row := by
  rw [total, foldl_append]
  rfl

/-- A running ledger's balance is its opening one plus its amounts. -/
theorem closing_eq_total (running : Running delta after opening rows) :
    closing after opening rows = opening + total delta rows := by
  induction rows generalizing opening with
  | nil => simp [closing, total]
  | cons row rest ih =>
    have tail := ih running.2
    have head := running.1
    have sum : rest.foldl (fun sum row => sum + delta row) (0 + delta row) =
        0 + delta row + total delta rest := foldl_delta _ rest
    simp only [closing, total, foldl_cons] at *
    omega

theorem newest_append (rows : List Row) (row : Row) : newest stamp (rows ++ [row]) = match newest stamp rows with
      | none => some row
      | some old => if stamp old < stamp row then some row else some old := by
  simp [newest]

theorem mem_of_newest {row} (found : newest stamp rows = some row) : row ∈ rows := by
  induction rows using reverseRecOn with
  | nil => cases found
  | append_singleton rows last ih =>
    rw [newest_append] at found
    split at found
    · cases found
      simp
    · rename_i old read
      split at found <;> cases found
      · simp
      · exact mem_append_left _ (ih read)

/-- Rows that are numbered in the order of the ledger are read at its end. -/
theorem closing_eq_newest {opening rows} (sorted : rows.Pairwise fun earlier later => stamp earlier < stamp later) :
    ((newest stamp rows).map after).getD opening = closing after opening rows := by
  cases rows using reverseRecOn with
  | nil => rfl
  | append_singleton rows row =>
    have order := (pairwise_append.mp sorted).2.2
    rw [closing_append, newest_append]
    split
    · rfl
    · rename_i old read
      rw [if_pos (order old (mem_of_newest read) row (mem_singleton_self row))]
      rfl

end OneVoice.Library
