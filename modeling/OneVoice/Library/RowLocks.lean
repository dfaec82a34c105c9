import Mathlib.Data.List.Basic

/-!
Committed rows with their row locks. A transaction writes rows that it has locked, its writes show at
its commit, and its end gives all of its locks back.
-/

namespace OneVoice.Library

structure RowLocks (Key Row Owner : Type*) where
  row : Key → Option Row
  holder : Key → Option Owner

namespace RowLocks

variable {Key Row Owner : Type*}

/-- Nobody has a lock. -/
def unlocked (row : Key → Option Row) : RowLocks Key Row Owner := ⟨row, fun _ => none⟩

/-- An owner's step leaves the others' locks and the rows they locked. -/
structure Spares (rows next : RowLocks Key Row Owner) (owner : Owner) : Prop where
  holder : ∀ {other key}, other ≠ owner → (next.holder key = some other ↔ rows.holder key = some other)
  row : ∀ {other key}, other ≠ owner → rows.holder key = some other → next.row key = rows.row key

theorem Spares.refl (rows : RowLocks Key Row Owner) (owner : Owner) : rows.Spares rows owner :=
  ⟨fun _ => .rfl, fun _ _ => rfl⟩

section Acquire

variable [DecidableEq Key]

def acquire (rows : RowLocks Key Row Owner) (owner : Owner) (key : Key) : RowLocks Key Row Owner :=
  { rows with holder := Function.update rows.holder key (some owner) }

@[simp] theorem holder_acquire_self (rows : RowLocks Key Row Owner) (owner : Owner) (key : Key) :
    (rows.acquire owner key).holder key = some owner :=
  Function.update_self ..

variable {rows : RowLocks Key Row Owner}

/-- A lock is kept while others take theirs on free rows. -/
theorem holder_acquire {owner other key locked} (free : rows.holder key = none)
    (held : rows.holder locked = some other) : (rows.acquire owner key).holder locked = some other := by
  have different : locked ≠ key := by
    rintro rfl
    rw [free] at held
    cases held
  exact (Function.update_of_ne different ..).trans held

theorem spares_acquire {key} (owner : Owner) (free : rows.holder key = none) :
    rows.Spares (rows.acquire owner key) owner where
  holder := by
    intro other locked different
    constructor
    · intro held
      by_cases same : locked = key
      · rw [same, holder_acquire_self] at held
        exact absurd (Option.some.inj held).symm different
      · exact (Function.update_of_ne same ..).symm.trans held
    · exact holder_acquire free
  row := fun _ _ => rfl

end Acquire

section Release

variable [DecidableEq Owner]

def release (rows : RowLocks Key Row Owner) (owner : Owner) : RowLocks Key Row Owner :=
  { rows with holder := fun key => if rows.holder key = some owner then none else rows.holder key }

theorem spares_release (rows : RowLocks Key Row Owner) (owner : Owner) :
    rows.Spares (rows.release owner) owner where
  holder := by
    intro other key different
    change (if _ then _ else _) = _ ↔ _
    split
    · next mine => simp [mine, different.symm]
    · rfl
  row := fun _ _ => rfl

end Release

section Commit

variable [DecidableEq Key] [DecidableEq Owner]

/-- A write without a row is a deletion. -/
def commit (rows : RowLocks Key Row Owner) (owner : Owner) (writes : List (Key × Option Row)) :
    RowLocks Key Row Owner :=
  { rows.release owner with row := fun key => (writes.lookup key).getD (rows.row key) }

variable {owner : Owner} {rows : RowLocks Key Row Owner} {writes : List (Key × Option Row)}

theorem row_commit_of_not_mem {key} (untouched : key ∉ writes.map Prod.fst) :
    (rows.commit owner writes).row key = rows.row key := by
  have absent : writes.lookup key = none := by
    rw [List.lookup_eq_none_iff]
    intro write member
    have different : key ≠ write.1 := fun same => untouched (same ▸ List.mem_map_of_mem member)
    simpa using different
  simp [commit, absent]

/-- A committed row is the old one or one that was written. -/
theorem row_commit (rows : RowLocks Key Row Owner) (owner : Owner) (writes : List (Key × Option Row)) (key : Key) :
    (rows.commit owner writes).row key = rows.row key ∧ key ∉ writes.map Prod.fst ∨
      (key, (rows.commit owner writes).row key) ∈ writes := by
  by_cases touched : key ∈ writes.map Prod.fst
  · cases found : writes.lookup key with
    | none =>
      rw [List.lookup_eq_none_iff] at found
      obtain ⟨write, member, rfl⟩ := List.mem_map.mp touched
      exact absurd (found write member) (by simp)
    | some value =>
      have shown : (rows.commit owner writes).row key = value := by simp [commit, found]
      rw [shown]
      obtain ⟨before, after, rfl, -⟩ := List.lookup_eq_some_iff.mp found
      simp
  · exact .inl ⟨row_commit_of_not_mem touched, touched⟩

/-- A commit spares the others where they have locked none of its rows. -/
theorem spares_commit (own : ∀ write ∈ writes, ∀ other, rows.holder write.1 = some other → other = owner) :
    rows.Spares (rows.commit owner writes) owner where
  holder := (rows.spares_release owner).holder
  row := by
    intro other key different held
    apply row_commit_of_not_mem
    intro touched
    obtain ⟨write, member, rfl⟩ := List.mem_map.mp touched
    exact different (own write member other held)

end Commit

end RowLocks

end OneVoice.Library
