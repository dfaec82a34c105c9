import OneVoice.Construction.Deletion.Calls

namespace OneVoice.Deletion

open Library List Kind Transaction

variable {kind : Kind} {table : Rows} {before : Int} {failing : UUID → Option Statement}

section Rows

variable {sweep : Sweep} {id : UUID} {row : Row}

variable {failure : Option Statement} {purged : List (UUID × String)} {writes : List Write}

theorem sweepRow_of_aborted {read} (aborted : sweep.tx.aborted = true)
    : kind.sweepRow sweep id read failure = sweep :=
  if_pos aborted

theorem sweepRow_of_pass (pending : row.canceledAt = none) :
    kind.sweepRow ⟨⟨writes, false⟩, purged⟩ id (some row) none =
      ⟨⟨writes ++ [.audit id row.label, .delete id], false⟩, purged ++ [(id, row.label)]⟩ := by
  have pass : ∀ statement ∈ purgeStatements id row.label none, statement.1 = true := by
    simp [purgeStatements]
  have done : kind.purge ⟨writes, false⟩ (purgeStatements id row.label none) =
      (⟨writes ++ [.audit id row.label, .delete id], false⟩, true) := by
    cases kind with
    | users => exact nested_of_pass writes pass
    | businesses => exact execAll_of_pass writes pass
  simp [sweepRow, pending, done]

theorem failing_statement (id : UUID) (label : String) (fails : failure ≠ none) :
    ∃ statement ∈ purgeStatements id label failure, statement.1 = false := by
  rcases failure with - | - | -
  · exact absurd rfl fails
  · exact ⟨_, mem_cons_self, rfl⟩
  · exact ⟨_, mem_cons_of_mem _ mem_cons_self, rfl⟩

/-- The savepoint takes the failed statements of a row back. -/
theorem sweepRow_users_of_fail {read} (fails : failure ≠ none) :
    users.sweepRow ⟨⟨writes, false⟩, purged⟩ id read failure = ⟨⟨writes, false⟩, purged⟩ := by
  cases read with
  | none => rfl
  | some row =>
    have back := nested_of_fail writes (failing_statement id row.label fails)
    simp [sweepRow, purge, back]

/-- Without a savepoint a failed statement aborts the sweep. -/
theorem sweepRow_businesses_of_fail (pending : row.canceledAt = none) (fails : failure ≠ none) :
    (businesses.sweepRow ⟨⟨writes, false⟩, purged⟩ id (some row) failure).tx.aborted = true := by
  obtain ⟨aborted, -⟩ := execAll_of_fail writes (failing_statement id row.label fails)
  simpa [sweepRow, purge, pending] using aborted

end Rows

/-- The writes that purge the given rows. -/
def purgeWrites (entries : List (UUID × Row)) : List Write :=
  entries.flatMap fun entry => [.audit entry.1 entry.2.label, .delete entry.1]

def labels (entries : List (UUID × Row)) : List (UUID × String) := entries.map fun entry => (entry.1, entry.2.label)

@[simp] theorem auditRows_purgeWrites (entries : List (UUID × Row)) :
    auditRows (purgeWrites entries) = labels entries := by
  induction entries with
  | nil => rfl
  | cons entry rest ih => simp_all [auditRows, purgeWrites, labels]

@[simp] theorem deletedRows_purgeWrites (entries : List (UUID × Row)) :
    deletedRows (purgeWrites entries) = entries.map Prod.fst := by
  induction entries with
  | nil => rfl
  | cons entry rest ih => simp_all [deletedRows, purgeWrites]

/-- The loop of a sweep over rows that are all there and pending. -/
def Kind.sweepAll (kind : Kind) (sweep : Sweep) (failing : UUID → Option Statement)
    (entries : List (UUID × Row)) : Sweep :=
  entries.foldl (fun sweep entry => kind.sweepRow sweep entry.1 (some entry.2) (failing entry.1)) sweep

def passing (failing : UUID → Option Statement) (entries : List (UUID × Row)) : List (UUID × Row) :=
  entries.filter fun entry => (failing entry.1).isNone

section Loop

variable {entries : List (UUID × Row)}

theorem sweepAll_of_aborted {sweep} (aborted : sweep.tx.aborted = true) :
    kind.sweepAll sweep failing entries = sweep := by
  induction entries with
  | nil => rfl
  | cons entry rest ih =>
    change kind.sweepAll (kind.sweepRow sweep entry.1 (some entry.2) _) failing rest = sweep
    rw [sweepRow_of_aborted aborted]
    exact ih

section

variable (writes : List Write) (purged : List (UUID × String))
  (pending : ∀ entry ∈ entries, entry.2.canceledAt = none)

include writes purged pending

/-- Where savepoints guard the rows or none fails, the rows are purged whose statements pass. -/
theorem sweepAll_passing (guarded : kind = users ∨ ∀ entry ∈ entries, failing entry.1 = none) :
    kind.sweepAll ⟨⟨writes, false⟩, purged⟩ failing entries =
      ⟨⟨writes ++ purgeWrites (passing failing entries), false⟩, purged ++ labels (passing failing entries)⟩ := by
  induction entries generalizing writes purged with
  | nil => simp [sweepAll, passing, purgeWrites, labels]
  | cons entry rest ih =>
    have later := fun other inside => pending other (mem_cons_of_mem entry inside)
    have rests := guarded.imp_right fun pass other inside => pass other (mem_cons_of_mem entry inside)
    change kind.sweepAll (kind.sweepRow _ entry.1 (some entry.2) (failing entry.1)) failing rest = _
    cases failure : failing entry.1 with
    | none =>
      rw [sweepRow_of_pass (pending entry mem_cons_self), ih _ _ later rests]
      simp [passing, failure, purgeWrites, labels]
    | some statement =>
      obtain rfl := guarded.resolve_right fun pass => by simp [pass entry mem_cons_self] at failure
      rw [sweepRow_users_of_fail (by simp), ih _ _ later rests]
      simp [passing, failure]

/-- Without savepoints one failure aborts the whole sweep. -/
theorem sweepAll_businesses_of_fail (fail : ∃ entry ∈ entries, failing entry.1 ≠ none) :
    (businesses.sweepAll ⟨⟨writes, false⟩, purged⟩ failing entries).tx.aborted = true := by
  induction entries generalizing writes purged with
  | nil =>
    obtain ⟨entry, inside, -⟩ := fail
    cases inside
  | cons entry rest ih =>
    have later := fun other inside => pending other (mem_cons_of_mem entry inside)
    change (businesses.sweepAll (businesses.sweepRow _ entry.1 (some entry.2)
      (failing entry.1)) failing rest).tx.aborted = true
    by_cases fails : failing entry.1 = none
    · rw [fails, sweepRow_of_pass (pending entry mem_cons_self)]
      obtain ⟨other, inside, bad⟩ := fail
      rcases mem_cons.mp inside with rfl | behind
      · exact absurd fails bad
      · exact ih _ _ later ⟨other, behind, bad⟩
    · have aborted : (businesses.sweepRow ⟨⟨writes, false⟩, purged⟩ entry.1 (some entry.2)
          (failing entry.1)).tx.aborted = true :=
        sweepRow_businesses_of_fail (pending entry mem_cons_self) fails
      rw [sweepAll_of_aborted aborted]
      exact aborted

end

end Loop

variable {entry : UUID × Row}

theorem mem_batch (member : entry ∈ batch table before) : entry ∈ table.rows ∧ entry.2.due before = true := by
  have listed := (perm_insertionSort _ _).mem_iff.mp (mem_of_mem_take member)
  exact mem_filter.mp listed

theorem pending_of_mem_batch (member : entry ∈ batch table before) : entry.2.canceledAt = none := by
  have due := (mem_batch member).2
  simp only [Row.due, Bool.and_eq_true, Option.isNone_iff_eq_none] at due
  exact due.1

theorem nodup_batch : (batch table before).Nodup := by
  have rows : (table.rows.filter (·.2.due before)).Nodup := (List.Nodup.of_map _ table.unique).filter _
  exact ((perm_insertionSort _ _).nodup_iff.mpr rows).sublist (take_sublist _ _)

/-- The loop of a sweep reads every row of its batch as it was enumerated. -/
theorem foldl_batch (sweep : Sweep) :
    (batch table before).foldl (fun sweep entry => kind.sweepRow sweep entry.1 ((table.find entry.1).map Prod.snd)
        (failing entry.1)) sweep = kind.sweepAll sweep failing (batch table before) := by
  apply foldl_ext
  intro sweep entry member
  rw [Table.find_eq_some.mpr ⟨(mem_batch member).1, rfl⟩]
  rfl

/-- The rows whose statements pass are purged, counted and audited. -/
structure PurgesExactly (kind : Kind) (table : Rows) (before : Int) (failing : UUID → Option Statement) : Prop where
  rows : ∀ entry, entry ∈ (kind.hardDeleteSweeper table before failing).rows.rows ↔
    entry ∈ table.rows ∧ ¬ (entry ∈ batch table before ∧ failing entry.1 = none)
  count : (kind.hardDeleteSweeper table before failing).count +
    (kind.hardDeleteSweeper table before failing).rows.rows.length = table.rows.length
  audit : (kind.hardDeleteSweeper table before failing).audit = labels (passing failing (batch table before))

theorem mem_passing {entries} : entry ∈ passing failing entries ↔ entry ∈ entries ∧ failing entry.1 = none := by
  simp [passing]

/-- A sweep that purged its passing rows has done what it should. -/
theorem purgesExactly_of_sweepAll (swept : kind.sweepAll .start failing (batch table before) =
      ⟨⟨purgeWrites (passing failing (batch table before)), false⟩,
        labels (passing failing (batch table before))⟩) : PurgesExactly kind table before failing := by
  have outcome : kind.hardDeleteSweeper table before failing =
      ⟨(passing failing (batch table before)).length, false,
        table.deleteWhere fun entry =>
          ((passing failing (batch table before)).map Prod.fst).contains entry.1,
        labels (passing failing (batch table before))⟩ := by
    simp [hardDeleteSweeper, foldl_batch, swept, commit, labels]
  have gone : ∀ entry ∈ table.rows,
      ((passing failing (batch table before)).map Prod.fst).contains entry.1 = true ↔
        entry ∈ passing failing (batch table before) := by
    intro entry listed
    rw [contains_iff_mem, mem_map]
    constructor
    · rintro ⟨other, inside, same⟩
      have found := (mem_batch (mem_passing.mp inside).1).1
      rwa [← table.eq_of_key found listed same]
    · intro inside
      exact ⟨entry, inside, rfl⟩
  constructor
  · intro entry
    rw [outcome, Table.mem_deleteWhere, ← mem_passing]
    constructor
    · rintro ⟨listed, kept⟩
      refine ⟨listed, fun inside => ?_⟩
      rw [(gone entry listed).mpr inside] at kept
      cases kept
    · rintro ⟨listed, outside⟩
      refine ⟨listed, ?_⟩
      rw [← Bool.not_eq_true, gone entry listed]
      exact outside
  · rw [outcome]
    have same : (table.rows.filter fun entry =>
        ((passing failing (batch table before)).map Prod.fst).contains entry.1).Perm
        (passing failing (batch table before)) := by
      apply (perm_ext_iff_of_nodup ((List.Nodup.of_map _ table.unique).filter _) (nodup_batch.filter _)).mpr
      intro entry
      rw [mem_filter]
      constructor
      · rintro ⟨listed, named⟩
        exact (gone entry listed).mp named
      · intro inside
        have listed := (mem_batch (mem_passing.mp inside).1).1
        exact ⟨listed, (gone entry listed).mpr inside⟩
    have total := length_eq_length_filter_add (l := table.rows) fun entry =>
      ((passing failing (batch table before)).map Prod.fst).contains entry.1
    rw [same.length_eq] at total
    exact total.symm
  · rw [outcome]

theorem purgesExactly_of_aborted (aborted : (kind.sweepAll .start failing (batch table before)).tx.aborted = true) :
    PurgesExactly kind table before failing ↔ ∀ entry ∈ batch table before, failing entry.1 ≠ none := by
  have outcome : kind.hardDeleteSweeper table before failing = ⟨0, true, table, []⟩ := by
    simp [hardDeleteSweeper, foldl_batch, commit, aborted]
  constructor
  · intro exactly entry inside pass
    have audit := exactly.audit
    rw [outcome] at audit
    have purged : entry ∈ passing failing (batch table before) := mem_passing.mpr ⟨inside, pass⟩
    rw [map_eq_nil_iff.mp audit.symm] at purged
    cases purged
  · intro fail
    have nobody : passing failing (batch table before) = [] := by
      apply eq_nil_iff_forall_not_mem.mpr
      intro entry inside
      obtain ⟨member, pass⟩ := mem_passing.mp inside
      exact fail entry member pass
    constructor
    · intro entry
      rw [outcome]
      constructor
      · intro listed
        exact ⟨listed, fun purged => fail entry purged.1 purged.2⟩
      · exact fun kept => kept.1
    · rw [outcome]
      exact Nat.zero_add _
    · rw [outcome, nobody]
      rfl

/-- A sweep of users is exact. One of businesses is so exactly when no row of its batch fails or all
do, since a failed statement aborts the only transaction. -/
theorem sweep_exact_iff (kind : Kind) (table : Rows) (before : Int) (failing : UUID → Option Statement) :
    PurgesExactly kind table before failing ↔
      kind = .users ∨ (∀ entry ∈ batch table before, failing entry.1 = none) ∨
        ∀ entry ∈ batch table before, failing entry.1 ≠ none := by
  have pending : ∀ entry ∈ batch table before, entry.2.canceledAt = none :=
    fun entry member => pending_of_mem_batch member
  by_cases guarded : kind = users ∨ ∀ entry ∈ batch table before, failing entry.1 = none
  · exact iff_of_true (purgesExactly_of_sweepAll (sweepAll_passing [] [] pending guarded)) (guarded.imp_right .inl)
  · cases kind with
    | users => exact absurd (.inl rfl) guarded
    | businesses =>
      have fail : ∃ entry ∈ batch table before, failing entry.1 ≠ none := by
        simpa using guarded
      rw [purgesExactly_of_aborted (sweepAll_businesses_of_fail [] [] pending fail)]
      constructor
      · exact fun all => .inr (.inr all)
      · rintro (never | none_fails | all)
        · cases never
        · exact absurd (.inr none_fails) guarded
        · exact all

/-- Two businesses are due, and the first audit row fails. -/
def sampleDue : Rows := ⟨[(1, ⟨"a", some 0, none, some 0⟩), (2, ⟨"b", some 1, none, some 1⟩)], by decide⟩

theorem failed_audit_blocks_business_sweep :
    ¬ PurgesExactly .businesses sampleDue 5 fun id => if id = 1 then some .audit else none := by
  intro exactly
  have audit := exactly.audit
  revert audit
  decide

end OneVoice.Deletion
