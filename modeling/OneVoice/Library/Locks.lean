import OneVoice.Library.Run

/-!
Row versions and row locks under snapshot isolation. A transaction locks a row only while nobody has
written it since the snapshot, and so a locked row is still the row of the snapshot.
-/

namespace OneVoice.Library

open Function

/-- The versions that a transaction has seen, and the rows it has locked. -/
structure Hold (Key : Type*) where
  seen : Key → Nat
  locked : List Key

structure Locks (ID Key : Type*) where
  version : Key → Nat
  held : ID → Option (Hold Key)

namespace Locks

variable {ID Key : Type*} [DecidableEq ID]

/-- The first statement of a transaction takes its snapshot. -/
def snapshot (locks : Locks ID Key) (id : ID) : Locks ID Key :=
  { locks with held := update locks.held id (some ⟨locks.version, []⟩) }

def lock (locks : Locks ID Key) (id : ID) (hold : Hold Key) (key : Key) : Locks ID Key :=
  { locks with held := update locks.held id (some { hold with locked := key :: hold.locked }) }

def close (locks : Locks ID Key) (id : ID) : Locks ID Key := { locks with held := update locks.held id none }

/-- A commit gives the written rows new versions. -/
def write [DecidableEq Key] (locks : Locks ID Key) (id : ID) (written : List Key) : Locks ID Key where
  version key := if key ∈ written then locks.version key + 1 else locks.version key
  held := update locks.held id none

/-- Nobody else has the row locked. -/
def Free (locks : Locks ID Key) (id : ID) (key : Key) : Prop :=
  ∀ other hold, other ≠ id → locks.held other = some hold → key ∉ hold.locked

structure Consistent (locks : Locks ID Key) : Prop where
  bounded : ∀ id hold, locks.held id = some hold → ∀ key, hold.seen key ≤ locks.version key
  current : ∀ id hold, locks.held id = some hold → ∀ key ∈ hold.locked, hold.seen key = locks.version key
  exclusive : ∀ id hold, locks.held id = some hold → ∀ key ∈ hold.locked, locks.Free id key

variable {locks : Locks ID Key} {id : ID}

variable {hold : Hold Key}

theorem held_close {other} (held : (locks.close id).held other = some hold) :
    other ≠ id ∧ locks.held other = some hold := by
  obtain ⟨_, ⟨⟩⟩ | kept := cell_update held
  exact kept

theorem Consistent.close (consistent : locks.Consistent) : (locks.close id).Consistent where
  bounded other hold held := consistent.bounded other hold (held_close held).2
  current other hold held := consistent.current other hold (held_close held).2
  exclusive other hold held key locked third thirdHold distinct thirdHeld :=
    consistent.exclusive other hold (held_close held).2 key locked third thirdHold distinct (held_close thirdHeld).2

/-- A new snapshot has seen every version and locked nothing. -/
theorem Consistent.snapshot (consistent : locks.Consistent) : (locks.snapshot id).Consistent := by
  have others : ∀ other hold, (locks.snapshot id).held other = some hold →
      hold = ⟨locks.version, []⟩ ∨ locks.held other = some hold := by
    intro other hold held
    obtain ⟨_, ⟨⟩⟩ | ⟨_, old⟩ := cell_update held
    · exact .inl rfl
    · exact .inr old
  constructor
  · intro other hold held key
    rcases others other hold held with rfl | old
    · exact Nat.le_refl _
    · exact consistent.bounded other hold old key
  · intro other hold held key locked
    rcases others other hold held with rfl | old
    · cases locked
    · exact consistent.current other hold old key locked
  · intro other hold held key locked third thirdHold distinct thirdHeld
    rcases others other hold held with rfl | old
    · cases locked
    · rcases others third thirdHold thirdHeld with rfl | thirdOld
      · simp
      · exact consistent.exclusive other hold old key locked third thirdHold distinct thirdOld

/-- A lock is taken on a row that is free and as the snapshot saw it. -/
theorem Consistent.lock (consistent : locks.Consistent) {key} (mine : locks.held id = some hold)
    (free : locks.Free id key) (fresh : hold.seen key = locks.version key) : (locks.lock id hold key).Consistent := by
  have others : ∀ other now, (locks.lock id hold key).held other = some now →
      ∃ before, locks.held other = some before ∧ now.seen = before.seen ∧
        ∀ row ∈ now.locked, row ∈ before.locked ∨ (other = id ∧ row = key) := by
    intro other now held
    obtain ⟨rfl, ⟨⟩⟩ | ⟨_, kept⟩ := cell_update held
    · refine ⟨hold, mine, rfl, ?_⟩
      intro row locked
      rcases List.mem_cons.mp locked with rfl | old
      · exact .inr ⟨rfl, rfl⟩
      · exact .inl old
    · exact ⟨now, kept, rfl, fun row locked => .inl locked⟩
  constructor
  · intro other now held row
    obtain ⟨before, old, seen, _⟩ := others other now held
    rw [seen]
    exact consistent.bounded other before old row
  · intro other now held row locked
    obtain ⟨before, old, seen, kept⟩ := others other now held
    rw [seen]
    rcases kept row locked with oldLocked | ⟨rfl, rfl⟩
    · exact consistent.current other before old row oldLocked
    · rw [mine] at old
      cases old
      exact fresh
  · intro other now held row locked third thirdNow distinct thirdHeld thirdLocked
    obtain ⟨before, old, _, kept⟩ := others other now held
    obtain ⟨thirdBefore, thirdOld, _, thirdKept⟩ := others third thirdNow thirdHeld
    rcases kept row locked with oldLocked | ⟨rfl, rfl⟩
    · rcases thirdKept row thirdLocked with thirdOldLocked | ⟨rfl, rfl⟩
      · exact consistent.exclusive other before old row oldLocked third thirdBefore distinct thirdOld thirdOldLocked
      · exact free other before distinct.symm old oldLocked
    · rcases thirdKept row thirdLocked with thirdOldLocked | ⟨same, _⟩
      · exact free third thirdBefore distinct thirdOld thirdOldLocked
      · exact distinct same

section

variable [DecidableEq Key] {written : List Key}

variable {hold : Hold Key}

/-- Whoever sees a row's newest version after a commit saw no write of it. -/
theorem Consistent.unwritten (consistent : locks.Consistent) {other key}
    (held : locks.held other = some hold) (fresh : hold.seen key = (locks.write id written).version key) :
    key ∉ written ∧ hold.seen key = locks.version key := by
  have seen := consistent.bounded other hold held key
  simp only [write] at fresh
  split at fresh
  · omega
  · rename_i spared
    exact ⟨spared, fresh⟩

/-- A transaction writes rows that it has locked. -/
theorem Consistent.write (consistent : locks.Consistent) (mine : locks.held id = some hold)
    (locked : ∀ key ∈ written, key ∈ hold.locked) : (locks.write id written).Consistent where
  bounded other now held key := by
    have seen := consistent.bounded other now (held_close held).2 key
    simp only [Locks.write]
    split <;> omega
  current other now held key taken := by
    have spared : key ∉ written := by
      intro written
      exact consistent.exclusive id hold mine key (locked key written) other now (held_close held).1
        (held_close held).2 taken
    simp only [Locks.write, spared]
    exact consistent.current other now (held_close held).2 key taken
  exclusive other now held := by
    have closed : (locks.close id).Consistent := consistent.close
    exact closed.exclusive other now held

end

end Locks

end OneVoice.Library
