import Mathlib.Data.List.Nodup
import Mathlib.Data.List.Count

/-!
Tables of rows under a primary key, and the statements by which a database reads and writes them.
-/

namespace OneVoice.Library

open List

/-- A table lists rows of which no two share the primary key. -/
structure Table {Row Key : Type*} (key : Row → Key) where
  rows : List Row
  unique : (rows.map key).Nodup

namespace Table

variable {Row Key : Type*} {key : Row → Key}

/-- An update rewrites rows of a condition, never their key. -/
def updateWhere (table : Table key) (condition : Row → Bool) (change : Row → Row)
    (keeps : ∀ row, key (change row) = key row) : Table key where
  rows := table.rows.map fun row => if condition row then change row else row
  unique := by
    have same : (table.rows.map fun row => if condition row then change row else row).map key =
        table.rows.map key := by
      rw [map_map]
      apply map_congr_left
      intro row _
      show key (if condition row then change row else row) = key row
      split
      · exact keeps row
      · rfl
    rw [same]
    exact table.unique

def deleteWhere (table : Table key) (condition : Row → Bool) : Table key where
  rows := table.rows.filter fun row => !condition row
  unique := table.unique.sublist (filter_sublist.map key)

variable {condition : Row → Bool} {row : Row}

variable {change : Row → Row} {keeps : ∀ row, key (change row) = key row} {table : Table key}

theorem mem_updateWhere : row ∈ (table.updateWhere condition change keeps).rows ↔
      ∃ old ∈ table.rows, (if condition old then change old else old) = row :=
  mem_map

theorem mem_deleteWhere : row ∈ (table.deleteWhere condition).rows ↔ row ∈ table.rows ∧ condition row = false := by
  simp [deleteWhere]

/-- A row that the condition does not name survives an update as it is. -/
theorem mem_updateWhere_of_not (member : row ∈ table.rows) (untouched : condition row = false) :
    row ∈ (table.updateWhere condition change keeps).rows :=
  mem_updateWhere.mpr ⟨row, member, by simp [untouched]⟩

/-- The primary key names at most one row. -/
theorem eq_of_key (table : Table key) {other} (member : row ∈ table.rows)
    (otherMember : other ∈ table.rows) (same : key row = key other) : row = other :=
  inj_on_of_nodup_map table.unique member otherMember same

section

variable [DecidableEq Key]

def find (table : Table key) (wanted : Key) : Option Row := table.rows.find? fun row => key row = wanted

/-- An insertion fails when the primary key is taken. -/
def insert (table : Table key) (row : Row) : Option (Table key) :=
  if fresh : key row ∈ table.rows.map key then none
  else some ⟨row :: table.rows, nodup_cons.mpr ⟨fresh, table.unique⟩⟩

/-- A row takes the place of the stored row of its key. -/
def replace (table : Table key) (row : Row) : Option (Table key) :=
  if key row ∈ table.rows.map key then
    some ⟨table.rows.map fun old => if key old = key row then row else old, by
      have same : (table.rows.map fun old => if key old = key row then row else old).map key =
          table.rows.map key := by
        rw [map_map]
        apply map_congr_left
        intro old _
        show key (if key old = key row then row else old) = key old
        split
        · rename_i named
          exact named.symm
        · rfl
      rw [same]
      exact table.unique⟩
  else
    none

variable {row : Row} {wanted : Key}

variable {table next : Table key}

theorem find_eq_some : table.find wanted = some row ↔ row ∈ table.rows ∧ key row = wanted := by
  constructor
  · intro found
    exact ⟨mem_of_find?_eq_some found, by simpa using find?_some found⟩
  · rintro ⟨member, named⟩
    have some_found : (table.find wanted).isSome := by
      rw [find, find?_isSome]
      exact ⟨row, member, by simpa using named⟩
    obtain ⟨other, found⟩ := Option.isSome_iff_exists.mp some_found
    have otherNamed : key other = wanted := by simpa using find?_some found
    rw [found, table.eq_of_key (mem_of_find?_eq_some found) member (otherNamed.trans named.symm)]

theorem find_eq_none : table.find wanted = none ↔ ∀ row ∈ table.rows, key row ≠ wanted := by
  simp [find]

theorem rows_of_insert (inserted : table.insert row = some next) :
    next.rows = row :: table.rows ∧ ∀ other ∈ table.rows, key other ≠ key row := by
  unfold insert at inserted
  split at inserted
  · cases inserted
  · rename_i fresh
    cases inserted
    exact ⟨rfl, fun other member same => fresh (mem_map.mpr ⟨other, member, same⟩)⟩

theorem find_of_insert (inserted : table.insert row = some next) (wanted : Key) :
    next.find wanted = if key row = wanted then some row else table.find wanted := by
  rw [find, (rows_of_insert inserted).1, find?_cons]
  split <;> rename_i named <;> simp at named <;> simp [named, find]

/-- An insertion leaves the rows that can be found in place. -/
theorem find_kept {other} (inserted : table.insert row = some next)
    (found : table.find wanted = some other) : next.find wanted = some other := by
  obtain ⟨listed, named⟩ := find_eq_some.mp found
  rw [find_of_insert inserted, if_neg, found]
  intro same
  exact (rows_of_insert inserted).2 other listed (named.trans same.symm)

theorem find_of_replace (replaced : table.replace row = some next) (wanted : Key) :
    next.find wanted = if key row = wanted then some row else table.find wanted := by
  unfold replace at replaced
  split at replaced
  · rename_i stored
    cases replaced
    ext found
    rw [find_eq_some]
    split <;> rename_i named
    · subst named
      obtain ⟨old, listed, same⟩ := mem_map.mp stored
      constructor
      · rintro ⟨member, named⟩
        obtain ⟨source, _, moved⟩ := mem_map.mp member
        split at moved
        · rw [moved]
        · rename_i other
          rw [← moved] at named
          exact absurd named other
      · rintro ⟨⟩
        exact ⟨mem_map.mpr ⟨old, listed, if_pos same⟩, rfl⟩
    · rw [find_eq_some]
      apply and_congr_left
      rintro rfl
      constructor
      · intro member
        obtain ⟨source, listed, moved⟩ := mem_map.mp member
        split at moved
        · exact absurd (congrArg key moved) named
        · rwa [← moved]
      · intro listed
        exact mem_map.mpr ⟨found, listed, if_neg fun same => named same.symm⟩
  · cases replaced

/-- A replacement fails only when the key is not stored. -/
theorem find_of_replace_eq_none (missing : table.replace row = none) : table.find (key row) = none := by
  unfold replace at missing
  split at missing
  · cases missing
  · rename_i absent
    rw [find_eq_none]
    intro old listed same
    exact absent (mem_map.mpr ⟨old, listed, same⟩)

theorem find_updateWhere (table : Table key) (condition : Row → Bool) (change : Row → Row)
    (keeps : ∀ row, key (change row) = key row) (wanted : Key) :
    (table.updateWhere condition change keeps).find wanted =
      (table.find wanted).map fun row => if condition row then change row else row := by
  have same : ∀ row, key (if condition row then change row else row) = key row := by
    intro row
    split
    · exact keeps row
    · rfl
  show (table.rows.map _).find? _ = _
  rw [find?_map]
  simp only [Function.comp_def, same]
  rfl

theorem find_deleteWhere (table : Table key) (condition : Row → Bool) (wanted : Key) :
    (table.deleteWhere condition).find wanted = (table.find wanted).filter fun row => !condition row := by
  ext row
  rw [find_eq_some, mem_deleteWhere, Option.filter_eq_some_iff, find_eq_some]
  simp only [Bool.not_eq_true', and_right_comm]

theorem find_updateWhere_of_spared (spared : ∀ row, key row = wanted → condition row = false) :
    (table.updateWhere condition change keeps).find wanted = table.find wanted := by
  rw [find_updateWhere]
  cases found : table.find wanted with
  | none => rfl
  | some row => simp [spared row (find_eq_some.mp found).2]

theorem find_deleteWhere_of_spared (spared : ∀ row, key row = wanted → condition row = false) :
    (table.deleteWhere condition).find wanted = table.find wanted := by
  rw [find_deleteWhere]
  cases found : table.find wanted with
  | none => rfl
  | some row => simp [spared row (find_eq_some.mp found).2]

end

/-- Of two rows of a condition one has another key than a given. -/
theorem exists_other (table : Table key) (condition : Row → Bool)
    (several : 1 < table.rows.countP condition) (wanted : Key) :
    ∃ row ∈ table.rows, condition row ∧ key row ≠ wanted := by
  by_contra! all
  have named : ∀ row ∈ table.rows.filter condition, key row = wanted := by
    intro row member
    obtain ⟨listed, holds⟩ := mem_filter.mp member
    exact all row listed holds
  have distinct : ((table.rows.filter condition).map key).Nodup := table.unique.sublist (filter_sublist.map key)
  rw [countP_eq_length_filter] at several
  match matching : table.rows.filter condition with
  | [] => simp [matching] at several
  | [_] => simp [matching] at several
  | first :: second :: _ =>
    rw [matching] at named distinct
    have same : key first = key second := (named first (by simp)).trans (named second (by simp)).symm
    simp [same] at distinct

end Table

end OneVoice.Library
