import Mathlib.Data.List.Induction
import OneVoice.Proof.Deletion.Savepoints

namespace OneVoice.Deletion

open Domain Library Function List Event RowLocks Prod Option State

variable {kind : Kind} {grace : Nat} {ids : List UUID}

/-- A request of the row has been committed. -/
def Event.requests (id : UUID) : Event → Bool
  | .requested _ other _ => other = id
  | _ => false

/-- A cancellation of the row has succeeded. -/
def Event.cancels (id : UUID) : Event → Bool
  | .cancelled _ other => other = id
  | .confirmed _ other => other = id
  | _ => false

/-- What the committed requests and the cancellations of a row amount to. -/
inductive Standing where
  | untouched
  | pending (now : Time)
  | restored
  deriving DecidableEq

def Standing.after (id : UUID) (standing : Standing) (event : Event) : Standing :=
  if event.cancels id then .restored
  else match event with
    | .requested _ other now => if other = id then .pending now else standing
    | _ => standing

def standing (events : List Event) (id : UUID) : Standing := events.foldl (Standing.after id) .untouched

theorem standing_snoc (events : List Event) (event : Event) (id : UUID) :
    standing (events ++ [event]) id = (standing events id).after id event := by
  simp [standing]

variable {event : Event}

variable {id : UUID} {events : List Event} {now : Time} {rows : RowLocks UUID Row Nat} {phase : Phase}

theorem after_of_cancel {standing : Standing} (cancel : event.cancels id = true) :
    standing.after id event = .restored :=
  if_pos cancel

theorem after_of_quiet {standing : Standing} (request : event.requests id = false)
    (cancel : event.cancels id = false) : standing.after id event = standing := by
  unfold Standing.after
  rw [cancel, if_neg Bool.false_ne_true]
  split
  · simp only [requests, decide_eq_false_iff_not] at request
    exact if_neg request
  · rfl

/-- A pending row has a last request, and nothing since. -/
theorem exists_request (pending : standing events id = .pending now) :
    ∃ before call after, events = before ++ .requested call id now :: after ∧
      ∀ event ∈ after, event.requests id = false ∧ event.cancels id = false := by
  induction events using reverseRecOn with
  | nil => cases pending
  | append_singleton events event ih =>
    rw [standing_snoc] at pending
    by_cases cancel : event.cancels id = true
    · rw [after_of_cancel cancel] at pending
      cases pending
    · rw [Bool.not_eq_true] at cancel
      by_cases request : event.requests id = true
      · cases event with
        | requested call other at_ =>
          obtain rfl : other = id := by simpa [requests] using request
          obtain rfl : at_ = now := by simpa [Standing.after, cancels] using pending
          exact ⟨events, call, [], rfl, by simp⟩
        | _ => cases request
      · rw [Bool.not_eq_true] at request
        rw [after_of_quiet request cancel] at pending
        obtain ⟨before, call, after, split, quiet⟩ := ih pending
        refine ⟨before, call, after ++ [event], by simp [split], ?_⟩
        intro other inside
        rcases mem_append.mp inside with old | new
        · exact quiet other old
        · obtain rfl := mem_singleton.mp new
          exact ⟨request, cancel⟩

/-- A restored row stays restored until a request is committed. -/
theorem restored_of_no_request {before after : List Event} (cancel : event.cancels id = true)
    (quiet : ∀ event ∈ after, event.requests id = false) : standing (before ++ event :: after) id = .restored := by
  induction after using reverseRecOn with
  | nil =>
    rw [standing_snoc, after_of_cancel cancel]
  | append_singleton after last ih =>
    have earlier := ih fun other inside => quiet other (mem_append_left _ inside)
    rw [show before ++ event :: (after ++ [last]) = (before ++ event :: after) ++ [last] by simp,
      standing_snoc, earlier]
    by_cases again : last.cancels id = true
    · exact after_of_cancel again
    · rw [Bool.not_eq_true] at again
      exact after_of_quiet (quiet last (by simp)) again

def Row.Matches (row : Row) : Standing → Prop
  | .untouched => row.requestedAt = none ∧ row.canceledAt = none
  | .pending now => row.requestedAt = some now ∧ row.canceledAt = none
  | .restored => row.requestedAt.isSome ∧ row.canceledAt.isSome

/-- A due row is pending since a time before the limit. -/
theorem Row.Matches.pending {row : Row} {standing : Standing} {before : Int}
    (fits : row.Matches standing) (due : row.due before = true) :
    ∃ now : Time, standing = .pending now ∧ (now : Int) < before := by
  simp only [Row.due, Bool.and_eq_true, isNone_iff_eq_none] at due
  obtain ⟨uncancelled, early⟩ := due
  cases standing with
  | untouched =>
    rw [fits.1] at early
    cases early
  | pending now =>
    rw [fits.1] at early
    exact ⟨now, rfl, by simpa using early⟩
  | restored =>
    have cancelled := fits.2
    rw [uncancelled] at cancelled
    cases cancelled

theorem classifyCancel_ok {row} (restored : classifyCancel (some row) = .ok ()) : row.Matches .restored := by
  rw [classifyCancel] at restored
  split at restored
  · cases restored
  · next requested =>
      split at restored
      · next cancelled => exact ⟨by simpa [isSome_iff_ne_none] using requested, cancelled⟩
      · cases restored

/-- A sweeper holds the lock of a row that is due for it. -/
def Claimed (grace : Nat) (rows : RowLocks UUID Row Nat) (call : Nat) (began : Time) (id : UUID) : Prop :=
  rows.holder id = some call ∧ ∃ row, rows.row id = some row ∧ row.due ((began : Int) - grace) = true

/-- A call holds the locks of the rows it will write; a sweeper reads the clock first and purges a
row once. -/
def Phase.Sound (grace : Nat) (rows : RowLocks UUID Row Nat) (now : Time) (call : Nat) : Phase → Prop
  | .written id _ => rows.holder id = some call
  | .sweeping began => began ≤ now
  | .selecting began _ taken =>
    began ≤ now ∧ taken.Nodup ∧ ∀ id ∈ taken, Claimed grace rows call began id
  | .purging began todo sweep =>
    began ≤ now ∧ ∃ entries : List (UUID × Row),
      (sweep.tx.aborted = false → sweep.tx.writes = purgeWrites entries) ∧
      (entries.map fst ++ todo).Nodup ∧
      ∀ id ∈ entries.map fst ++ todo, Claimed grace rows call began id
  | _ => True

theorem Claimed.spares {next call other began}
    (claim : Claimed grace rows other began id) (spares : rows.Spares next call)
    (apart : other ≠ call) : Claimed grace next other began id := by
  obtain ⟨held, row, stored, due⟩ := claim
  exact ⟨(spares.holder apart).mpr held, row, (spares.row apart held).trans stored, due⟩

theorem Phase.Sound.spares {next call other} (sound : phase.Sound grace rows now other)
    (spares : rows.Spares next call) (apart : other ≠ call) : phase.Sound grace next now other := by
  cases phase with
  | written id at_ => exact (spares.holder apart).mpr sound
  | sweeping began => exact sound
  | selecting began rest taken =>
    obtain ⟨early, once, claims⟩ := sound
    exact ⟨early, once, fun id inside => (claims id inside).spares spares apart⟩
  | purging began todo sweep =>
    obtain ⟨early, entries, writes, once, claims⟩ := sound
    exact ⟨early, entries, writes, once, fun id inside =>
      (claims id inside).spares spares apart⟩
  | _ => trivial

theorem Phase.Sound.later {call later} (sound : phase.Sound grace rows now call)
    (forward : now ≤ later) : phase.Sound grace rows later call := by
  cases phase with
  | written id at_ => exact sound
  | sweeping began => exact Nat.le_trans sound forward
  | selecting began rest taken | purging began todo sweep =>
    exact ⟨Nat.le_trans sound.1 forward, sound.2⟩
  | _ => trivial

/-- The rows are what the events say, the calls sound, purged rows gone. -/
structure Sound (grace : Nat) (events : List Event) (state : State) : Prop where
  rows : ∀ {id row}, state.rows.row id = some row → row.Matches (standing events id)
  phases : ∀ call, (state.calls call).Sound grace state.rows state.now call
  audit : ∀ {id row}, state.rows.row id = some row → id ∉ state.audit.map fst

theorem sound_start (table : Table (fst : UUID × String → UUID)) : Sound grace [] (start table) where
  rows := by
    intro id row stored
    obtain ⟨entry, -, rfl⟩ := map_eq_some_iff.mp stored
    exact ⟨rfl, rfl⟩
  phases := fun _ => trivial
  audit := fun _ inside => by cases inside

section Steps

variable {state : State} {events : List Event} {event : Event} {call : Nat} {phase : Phase}

section

variable (sound : Sound grace events state)

include sound

variable {rows : RowLocks UUID Row Nat} {id : UUID} {row : Row}

/-- The calls stay sound when one moves on and spares the others' locks. -/
theorem Sound.phases_move (spares : state.rows.Spares rows call)
    (own : phase.Sound grace rows state.now call) (other : Nat) :
    (((state.withRows rows).move call phase).calls other).Sound grace rows state.now other := by
  by_cases same : other = call
  · subst same
    change (update state.calls other phase other).Sound grace rows state.now other
    rwa [update_self]
  · change (update state.calls call phase other).Sound grace rows state.now other
    rw [update_of_ne same]
    exact (sound.phases other).spares spares same

/-- A step that leaves the committed rows keeps the invariant. -/
theorem Sound.quiet (spares : state.rows.Spares rows call) (same : rows.row = state.rows.row)
    (own : phase.Sound grace rows state.now call) (request : ∀ id, event.requests id = false)
    (cancel : ∀ id, event.cancels id = false) :
    Sound grace (events ++ [event]) ((state.withRows rows).move call phase) where
  rows := by
    intro id row stored
    rw [standing_snoc, after_of_quiet (request id) (cancel id)]
    exact sound.rows (same ▸ stored)
  phases := sound.phases_move spares own
  audit := by
    intro id row stored
    exact sound.audit (same ▸ stored)

theorem Sound.moves (own : phase.Sound grace state.rows state.now call)
    (request : ∀ id, event.requests id = false) (cancel : ∀ id, event.cancels id = false) :
    Sound grace (events ++ [event]) (state.move call phase) :=
  sound.quiet (.refl state.rows call) rfl own request cancel

/-- A committed request or cancellation writes its row as it should. -/
theorem Sound.write {next : Row} (own : ∀ other, state.rows.holder id = some other → other = call)
    (found : state.rows.row id = some row) (fits : next.Matches ((standing events id).after id event))
    (request : ∀ other ≠ id, event.requests other = false)
    (cancel : ∀ other ≠ id, event.cancels other = false) : Sound grace (events ++ [event])
      ((state.withRows (state.rows.commit call [(id, some next)])).move call .returned) where
  rows := by
    intro other stored_row stored
    change (state.rows.commit call [(id, some next)]).row other = some stored_row at stored
    rw [standing_snoc]
    by_cases same : other = id
    · subst same
      obtain rfl : next = stored_row := by simpa [commit] using stored
      exact fits
    · rw [after_of_quiet (request other same) (cancel other same)]
      rw [row_commit_of_not_mem (by simpa using same)] at stored
      exact sound.rows stored
  phases := by
    refine sound.phases_move (spares_commit ?_) trivial
    intro write member
    obtain rfl := mem_singleton.mp member
    exact own
  audit := by
    intro other stored_row stored
    rcases state.rows.row_commit call [(id, some next)] other with ⟨same, -⟩ | written
    · exact sound.audit (same.symm.trans stored)
    · obtain ⟨rfl, -⟩ := mk.inj (mem_singleton.mp written)
      exact sound.audit found

theorem Sound.requested {now} (here : state.calls call = .written id now)
    (found : state.rows.row id = some row) : Sound grace (events ++ [.requested call id now])
      ((state.withRows (state.rows.commit call [(id, some (row.request now))])).move call .returned) := by
  have held := sound.phases call
  rw [here] at held
  apply sound.write _ found
  · simp [Standing.after, cancels, Row.Matches, Row.request]
  · intro other apart
    simpa [requests] using apart.symm
  · intro other _
    rfl
  · intro other other_held
    exact some.inj (other_held.symm.trans held)

theorem Sound.cancelled {now : Time} (free : state.rows.holder id = none)
    (found : state.rows.row id = some row) (meets : row.cancellable now grace = true) :
    Sound grace (events ++ [.cancelled call id])
      ((state.withRows (state.rows.commit call [(id, some (row.cancel now))])).move call .returned) := by
  have requested : row.requestedAt.isSome := by
    simp only [Row.cancellable] at meets
    cases absent : row.requestedAt with
    | none => simp [absent] at meets
    | some at_ => rfl
  apply sound.write _ found
  · rw [after_of_cancel (by simp [cancels])]
    exact ⟨requested, rfl⟩
  · intro other _
    rfl
  · intro other apart
    simpa [cancels] using apart.symm
  · intro other held
    rw [free] at held
    cases held

/-- A read that finds a restored row confirms what the events say. -/
theorem Sound.confirmed (restored : classifyCancel (state.rows.row id) = .ok ()) :
    Sound grace (events ++ [.confirmed call id]) (state.move call .returned) where
  rows := by
    intro other row stored
    have fits := sound.rows stored
    rw [standing_snoc]
    by_cases same : other = id
    · subst same
      rw [after_of_cancel (by simp [cancels])]
      exact classifyCancel_ok (stored ▸ restored)
    · rw [after_of_quiet rfl (by simpa [cancels] using fun equal => same equal.symm)]
      exact fits
  phases := sound.phases_move (.refl state.rows call) trivial
  audit := sound.audit

end

variable {sweep : Sweep} {began : Time}

theorem Sound.visit {id rest taken} (sound : Sound grace events state)
    (here : state.calls call = .selecting began (id :: rest) taken) :
    Sound grace (events ++ [.visit call]) (state.visit grace call id began rest taken) := by
  have own := sound.phases call
  rw [here] at own
  obtain ⟨early, once, claims⟩ := own
  unfold State.visit
  split
  · next wanted =>
      rw [Bool.and_eq_true, isNone_iff_eq_none] at wanted
      obtain ⟨due, free⟩ := wanted
      have spares := spares_acquire call free
      refine sound.quiet spares rfl ⟨early, ?_, ?_⟩ (fun _ => rfl) fun _ => rfl
      · apply nodup_append.mpr
        refine ⟨once, nodup_singleton id, ?_⟩
        intro other inside new added same
        have held := (claims other inside).1
        rw [same, mem_singleton.mp added, free] at held
        cases held
      · intro other inside
        rcases mem_append.mp inside with old | new
        · obtain ⟨held, row, stored, earlier⟩ := claims other old
          exact ⟨holder_acquire free held, row, stored, earlier⟩
        · obtain rfl := mem_singleton.mp new
          obtain ⟨row, stored, old⟩ : ∃ row, state.rows.row other = some row ∧
              row.due ((began : Int) - grace) = true := by
            cases stored : state.rows.row other with
            | none => simp [stored] at due
            | some row => exact ⟨row, rfl, by simpa [stored] using due⟩
          exact ⟨holder_acquire_self .., row, stored, old⟩
  · exact sound.moves ⟨early, once, claims⟩ (fun _ => rfl) fun _ => rfl

/-- A row of a sweep adds the two writes of its purge or none. -/
theorem sweepRow_writes {entries id row} (pending : row.canceledAt = none)
    (failing : Option Statement) (writes : sweep.tx.aborted = false → sweep.tx.writes = purgeWrites entries) :
    ∃ more, (more = [] ∨ more = [(id, row)]) ∧ ((kind.sweepRow sweep id (some row) failing).tx.aborted = false →
        (kind.sweepRow sweep id (some row) failing).tx.writes = purgeWrites (entries ++ more)) := by
  obtain ⟨⟨written, aborted⟩, purged⟩ := sweep
  cases aborted with
  | true =>
    refine ⟨[], .inl rfl, ?_⟩
    intro fine
    cases fine
  | false =>
    obtain rfl := writes rfl
    cases failing with
    | none =>
      rw [sweepRow_of_pass pending]
      simp [purgeWrites]
    | some statement =>
      refine ⟨[], .inl rfl, ?_⟩
      cases kind with
      | users =>
        rw [sweepRow_users_of_fail (by simp)]
        simp
      | businesses =>
        intro fine
        rw [sweepRow_businesses_of_fail pending (by simp)] at fine
        cases fine

section

variable (sound : Sound grace events state)

include sound

theorem Sound.purge {id todo failing} (here : state.calls call = .purging began (id :: todo) sweep) :
    Sound grace (events ++ [.purge call failing]) (state.move call (.purging began todo
        (kind.sweepRow sweep id (state.rows.row id) failing))) := by
  have own := sound.phases call
  rw [here] at own
  obtain ⟨early, entries, writes, once, claims⟩ := own
  obtain ⟨-, row, stored, due⟩ := claims id (by simp)
  have pending : row.canceledAt = none := by
    simp only [Row.due, Bool.and_eq_true, isNone_iff_eq_none] at due
    exact due.1
  rw [stored]
  obtain ⟨more, kinds, added⟩ := @sweepRow_writes kind sweep entries id row pending failing writes
  have part : ((entries ++ more).map fst ++ todo).Sublist (entries.map fst ++ id :: todo) := by
    rcases kinds with rfl | rfl <;> simp
  refine sound.moves ⟨early, entries ++ more, added, once.sublist part, ?_⟩ (fun _ => rfl) fun _ => rfl
  exact fun other inside => claims other (part.subset inside)

/-- A sweep claimed the rows that it deletes, and audits each of them. -/
theorem Sound.deleted {writes} (here : state.calls call = .purging began [] sweep)
    (committed : sweep.tx.commit = some writes) :
    began ≤ state.now ∧ ∃ entries : List (UUID × Row), writes = purgeWrites entries ∧
      (entries.map fst).Nodup ∧ ∀ id ∈ entries.map fst, Claimed grace state.rows call began id := by
  have own := sound.phases call
  rw [here] at own
  obtain ⟨early, entries, same, once, claims⟩ := own
  rw [append_nil] at once claims
  unfold Transaction.commit at committed
  split at committed
  · cases committed
  · next fine =>
      obtain rfl := some.inj committed
      exact ⟨early, entries, same (by simpa using fine), once, claims⟩

theorem Sound.finish (here : state.calls call = .purging began [] sweep) :
    Sound grace (events ++ [.swept call]) (state.finish call sweep) := by
  unfold State.finish
  cases committed : sweep.tx.commit with
  | none =>
    exact sound.quiet (state.rows.spares_release call) rfl trivial (fun _ => rfl) fun _ => rfl
  | some writes =>
    obtain ⟨early, entries, rfl, once, claims⟩ := sound.deleted here committed
    have kept : ∀ {id row}, (state.rows.commit call
        ((deletedRows (purgeWrites entries)).map fun id => (id, none))).row id = some row →
        state.rows.row id = some row ∧ id ∉ entries.map fst := by
      intro id row stored
      rcases state.rows.row_commit call ((deletedRows (purgeWrites entries)).map fun id => (id, none)) id with
        ⟨same, untouched⟩ | written
      · exact ⟨same.symm.trans stored, by simpa using untouched⟩
      · rw [stored] at written
        obtain ⟨other, -, pair⟩ := mem_map.mp written
        cases (mk.inj pair).2
    constructor
    · intro id row stored
      rw [standing_snoc]
      exact sound.rows (kept stored).1
    · refine sound.phases_move (spares_commit ?_) trivial
      intro write written other held
      obtain ⟨id, inside, rfl⟩ := mem_map.mp written
      rw [deletedRows_purgeWrites] at inside
      exact some.inj (held.symm.trans (claims id inside).1)
    · intro id row stored inside
      obtain ⟨before, outside⟩ := kept stored
      rw [map_append, mem_append] at inside
      rcases inside with old | new
      · exact sound.audit before old
      · apply outside
        simpa [labels] using new

end

theorem Sound.step {next} (sound : Sound grace events state)
    (step : Step kind grace ids state event next) : Sound grace (events ++ [event]) next := by
  cases step with
  | tick forward =>
    constructor
    · intro id row stored
      rw [standing_snoc]
      exact sound.rows stored
    · exact fun other => (sound.phases other).later forward
    · exact sound.audit
  | @beginRequest call id here | @unrequested call id now here misses | @refused call id here
  | @beginCancel call id here | @uncancelled call id now here misses
  | @denied call id refusal here no => exact sound.moves trivial (fun _ => rfl) fun _ => rfl
  | @update call id now row here free found meets =>
    exact sound.quiet (spares_acquire call free) rfl (holder_acquire_self ..) (fun _ => rfl) fun _ => rfl
  | requested here found => exact sound.requested here found
  | cancelled here free found meets => exact sound.cancelled free found meets
  | confirmed here restored => exact sound.confirmed restored
  | @beginSweep call here =>
    exact sound.moves (Nat.le_refl _) (fun _ => rfl) fun _ => rfl
  | @enumerate call began here =>
    have early := sound.phases call
    rw [here] at early
    exact sound.moves ⟨early, nodup_nil, by simp⟩ (fun _ => rfl) fun _ => rfl
  | visit here open_ => exact sound.visit here
  | @selected call began rest taken here full =>
    have own := sound.phases call
    rw [here] at own
    exact sound.moves ⟨own.1, [], fun _ => rfl, own.2⟩ (fun _ => rfl) fun _ => rfl
  | purge here => exact sound.purge here
  | swept here => exact sound.finish here
  | @stop call =>
    exact sound.quiet (state.rows.spares_release call) rfl trivial (fun _ => rfl) fun _ => rfl

/-- Only the commit of a sweep removes a row. -/
theorem Step.removes {next id row} (step : Step kind grace ids state event next)
    (stored : state.rows.row id = some row) (purged : next.rows.row id = none) :
    ∃ call began sweep writes, state.calls call = .purging began [] sweep ∧
      sweep.tx.commit = some writes ∧ id ∈ deletedRows writes ∧ next.audit = state.audit ++ auditRows writes := by
  have kept (call : Nat) (other : UUID) (value : Row) :
      (state.rows.commit call [(other, some value)]).row id ≠ none := by
    intro purged
    rcases state.rows.row_commit call [(other, some value)] id with ⟨same, -⟩ | written
    · cases (same.symm.trans purged).symm.trans stored
    · cases (mk.inj (mem_singleton.mp written)).2.symm.trans purged
  cases step with
  | requested | cancelled => exact absurd purged (kept _ _ _)
  | @visit call other began rest taken here open_ =>
    unfold State.visit at purged
    split at purged
    · cases purged.symm.trans stored
    · cases purged.symm.trans stored
  | @swept call began sweep here =>
    unfold finish at purged ⊢
    cases committed : sweep.tx.commit with
    | none =>
      rw [committed] at purged
      cases purged.symm.trans stored
    | some writes =>
      rw [committed] at purged
      refine ⟨call, began, sweep, writes, here, committed, ?_, rfl⟩
      by_contra outside
      have untouched : id ∉ ((deletedRows writes).map fun id => (id, (none : Option Row))).map
          fst := by simpa using outside
      cases ((row_commit_of_not_mem untouched).symm.trans purged).symm.trans stored
  | _ => cases purged.symm.trans stored

end Steps

theorem sound_of_run {table last}
    (run : Run (Step kind grace ids) (start table) events last) : Sound grace events last := by
  have kept := run.history (fun past first event next step sound => Sound.step sound step) (sound_start table)
  simpa using kept

/-- In every interleaving a row is purged only after the grace period of its last request, not
cancelled since, and together with its only audit row. -/
theorem purge_only_after_grace {table : Table (fst : UUID × String → UUID)} {events : List Event}
    {middle last : State} {event : Event} {id : UUID} {row : Row}
    (run : Run (Step kind grace ids) (start table) events middle) (step : Step kind grace ids middle event last)
    (stored : middle.rows.row id = some row) (purged : last.rows.row id = none) :
    (∃ before call now after, events = before ++ .requested call id now :: after ∧ now + grace < middle.now ∧
      ∀ event ∈ after, event.requests id = false ∧ event.cancels id = false) ∧
    (∀ before cancellation after, events = before ++ cancellation :: after →
      cancellation.cancels id = true → ∃ event ∈ after, event.requests id = true) ∧
    middle.audit.countP (·.1 = id) = 0 ∧ last.audit.countP (·.1 = id) = 1 := by
  have sound := sound_of_run run
  obtain ⟨call, began, sweep, writes, here, committed, inside, audited⟩ := step.removes stored purged
  obtain ⟨early, entries, rfl, once, claims⟩ := sound.deleted here committed
  rw [deletedRows_purgeWrites] at inside
  obtain ⟨-, found, same, due⟩ := claims id inside
  obtain ⟨now, pending, old⟩ := (sound.rows same).pending due
  have none_before : middle.audit.countP (·.1 = id) = 0 := by
    rw [countP_eq_zero]
    intro entry listed named
    exact sound.audit stored (mem_map.mpr ⟨entry, listed, by simpa using named⟩)
  refine ⟨?_, ?_, none_before, ?_⟩
  · obtain ⟨before, request, after, split, quiet⟩ := exists_request pending
    have recent : (began : Int) ≤ middle.now := Int.ofNat_le.mpr early
    exact ⟨before, request, now, after, split, by omega, quiet⟩
  · intro before cancellation after split cancels
    by_contra nobody
    have quiet : ∀ event ∈ after, event.requests id = false := by
      intro event member
      by_contra requests
      exact nobody ⟨event, member, by simpa using requests⟩
    rw [split, restored_of_no_request cancels quiet] at pending
    cases pending
  · rw [audited, countP_append, none_before, Nat.zero_add, auditRows_purgeWrites]
    have each : (labels entries).countP (·.1 = id) = (entries.map fst).count id := by
      simp only [labels, count, countP_map]
      rfl
    rw [each]
    exact count_eq_one_of_mem once inside

def sampleLabels : Table (fst : UUID × String → UUID) := ⟨[(1, "a")], by decide⟩

/-- A request, and a sweep that begins after the grace period. -/
def sampleSweep : List Event :=
  [.beginRequest 0 1, .update 0, .requested 0 1 0, .tick, .beginSweep 1, .enumerate 1, .visit 1,
    .selected 1, .purge 1 none]

theorem sample_sweep_run :
    ∃ middle last, Run (Step .businesses 3 [1]) (start sampleLabels) sampleSweep middle ∧
      Step .businesses 3 [1] middle (.swept 1) last ∧ (middle.rows.row 1).isSome ∧ last.rows.row 1 = none := by
  refine ⟨_, _, .cons (.beginRequest rfl) (.cons (.update rfl rfl rfl rfl)
    (.cons (.requested rfl rfl) (.cons (.tick (Nat.zero_le 10)) (.cons (.beginSweep rfl)
    (.cons (.enumerate rfl) (.cons (.visit rfl (by decide)) (.cons (.selected rfl (.inl rfl))
    (.cons (.purge rfl) (.nil _))))))))), .swept rfl, rfl, rfl⟩

theorem purge_only_after_grace_once :
    ∃ middle last, Run (Step .businesses 3 [1]) (start sampleLabels) sampleSweep middle ∧
      Step .businesses 3 [1] middle (.swept 1) last ∧ last.rows.row 1 = none ∧ last.audit.countP (·.1 = 1) = 1 := by
  obtain ⟨middle, last, run, step, stored, purged⟩ := sample_sweep_run
  obtain ⟨row, found⟩ := isSome_iff_exists.mp stored
  obtain ⟨-, -, -, audited⟩ := purge_only_after_grace run step found purged
  exact ⟨middle, last, run, step, purged, audited⟩

end OneVoice.Deletion
