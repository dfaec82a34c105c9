import OneVoice.Construction.Email.Outbox
import OneVoice.Library.Run

namespace OneVoice.Email

open Library Domain List Table

def Action.enqueues : Action → Option (UUID × Message)
  | .enqueue id input _ => some (id, input.message)
  | _ => none

/-- The row for which a write after a delivery was applied. -/
def Action.delivers : Action → Option UUID
  | .markSent id true _ | .rescheduleStrandedSent id true => some id
  | _ => none

/-- The row was enqueued with the message. -/
def Enqueued (past : List Action) (id : UUID) (message : Message) : Prop :=
  ∃ action ∈ past, action.enqueues = some (id, message)

/-- The sender has the row, and one of the writes after that succeeded. -/
def Delivered (past : List Action) (id : UUID) : Prop := ∃ action ∈ past, action.delivers = some id

def Row.Blank (row : Row) : Prop := row.bodyText = "" ∧ row.bodyHTML = none

/-- The row that the worker is at has attempts left. -/
def State.AttemptsLeft (maxAttempts : Nat) (state : State) : Prop :=
  ∃ drained ∈ state.batch.head?, drained.attempts + 1 < maxAttempts

/-- The fallback write meets a pending row only at its last attempt. -/
def LastAttempt (maxAttempts : Nat) (state : State) (action : Action) : Prop :=
  ∀ row ∈ state.outbox.rows, action = .rescheduleStrandedSent row.id true → row.status = .pending →
    ¬ state.AttemptsLeft maxAttempts

/-- The rows of the batch that were not yet handed to the sender. -/
def State.waiting (state : State) : List OutboxRow :=
  if state.phase = .ready then state.batch else state.batch.tail

/-- What a write does to a pending row. -/
inductive Outcome (maxAttempts : Nat) (state : State) (action : Action) (old row : Row) : Prop
  | closed : row.status ≠ .pending → row.Blank → Outcome maxAttempts state action old row
  | waits : action.delivers = none → row.status = .pending → row.message = old.message →
      Outcome maxAttempts state action old row
  | stranded : action = .rescheduleStrandedSent old.id true → state.AttemptsLeft maxAttempts →
      row.status = .pending → row.Blank → Outcome maxAttempts state action old row

section

variable {maxAttempts : Nat} {past : List Action} {state next : State} {action : Action} {row : Row}
  {outbox : Outbox} {condition : Row → Bool} {change : Row → Row} {keeps : ∀ row, (change row).id = row.id}

variable {id : UUID} {limit : Nat} {now : Time}

theorem delivers_ne (silent : action.delivers = none) : action.delivers ≠ some id := by
  simp [silent]

theorem mem_updatePending (member : row ∈ (outbox.updatePending condition change keeps).rows) :
    ∃ old ∈ outbox.rows, row = old ∧ (condition old = true → old.status ≠ .pending) ∨
      condition old = true ∧ old.status = .pending ∧ row = change old := by
  obtain ⟨old, listed, same⟩ := mem_updateWhere.mp member
  refine ⟨old, listed, ?_⟩
  by_cases matched : condition old = true ∧ old.status = .pending
  · rw [if_pos (by simp [matched])] at same
    exact .inr ⟨matched.1, matched.2, same.symm⟩
  · rw [if_neg (by simpa using matched)] at same
    exact .inl ⟨same.symm, fun meets pending => matched ⟨meets, pending⟩⟩

theorem updatePending_of_closed (member : row ∈ outbox.rows) (closed : row.status ≠ .pending) :
    row ∈ (outbox.updatePending condition change keeps).rows :=
  mem_updateWhere_of_not member (by simp [closed])

theorem change_mem_updatePending (member : row ∈ outbox.rows) (meets : condition row = true)
    (pending : row.status = .pending) : change row ∈ (outbox.updatePending condition change keeps).rows :=
  mem_updateWhere.mpr ⟨row, member, by simp [meets, pending]⟩

theorem exists_updatePending (member : row ∈ outbox.rows) :
    ∃ moved ∈ (outbox.updatePending condition change keeps).rows, moved.id = row.id := by
  refine ⟨_, mem_updateWhere.mpr ⟨row, member, rfl⟩, ?_⟩
  split
  · exact keeps row
  · rfl

/-- What a step may write. -/
inductive Writes (maxAttempts : Nat) (state : State) (action : Action) (outbox : Outbox) : Prop
  | nothing : action.delivers = none → outbox = state.outbox → Writes maxAttempts state action outbox
  | inserts (row : Row) : action.delivers = none → state.outbox.insert row = some outbox →
      row.status = .pending → action.enqueues = some (row.id, row.message) →
      Writes maxAttempts state action outbox
  | updates (condition : Row → Bool) (change : Row → Row) (keeps : ∀ row, (change row).id = row.id) :
      outbox = state.outbox.updatePending condition change keeps →
      (∀ row, condition row = true → row.status = .pending → Outcome maxAttempts state action row (change row)) →
      (∀ row, action.delivers = some row.id → condition row = true) →
      Writes maxAttempts state action outbox

theorem writes_closed (keeps : ∀ row, (change row).id = row.id)
    (closes : ∀ row, (change row).status ≠ .pending ∧ (change row).Blank)
    (covers : ∀ row, action.delivers = some row.id → condition row = true) :
    Writes maxAttempts state action (state.outbox.updatePending condition change keeps) :=
  .updates condition change keeps rfl (fun row _ _ => .closed (closes row).1 (closes row).2) covers

section

variable (taken : Step maxAttempts state action next)

include taken

theorem Step.writes : Writes maxAttempts state action next.outbox := by
  have closes : ∀ (status : Status) (row : Row), status ≠ .pending →
      status ≠ .pending ∧ row.scrub.Blank := fun _ _ closed => ⟨closed, rfl, rfl⟩
  have named : ∀ {id : UUID} (row : Row), some id = some row.id → (row.id == id) = true :=
    fun row same => by simpa using (Option.some.inj same).symm
  cases taken with
  | tick later | drain idle ready | send result head ready | stop => exact .nothing rfl rfl
  | enqueue inserted => exact .inserts _ rfl inserted rfl rfl
  | cancel toEmail subject | cancelBusiness toEmail subject businessID =>
    exact writes_closed (by intro row; rfl) (fun row => closes .canceled row (by simp)) fun _ none => by cases none
  | markSent head accepted =>
    exact writes_closed (by intro row; rfl) (fun row => closes .sent row (by simp)) named
  | markSentFailed applied head accepted =>
    cases applied with
    | false => exact .nothing rfl rfl
    | true => exact writes_closed (by intro row; rfl) (fun row => closes .sent row (by simp)) named
  | rescheduleStrandedSent applied head stranded =>
    cases applied with
    | false => exact .nothing rfl rfl
    | true =>
      simp only [if_true, Outbox.rescheduleStrandedSent]
      split
      · exact writes_closed (by intro row; rfl) (fun row => closes .failed row (by simp)) named
      · rename_i early
        refine .updates _ _ (by intro row; rfl) rfl (fun row same pending => ?_) named
        exact .stranded (by rw [beq_iff_eq.mp same]) ⟨_, by simp [head], Nat.lt_of_not_ge early⟩ pending ⟨rfl, rfl⟩
  | markFailed applied head permanent =>
    cases applied with
    | false => exact .nothing rfl rfl
    | true =>
      exact writes_closed (by intro row; rfl) (fun row => closes .failed row (by simp)) fun _ none => by cases none
  | reschedule applied head transient =>
    cases applied with
    | false => exact .nothing rfl rfl
    | true =>
      simp only [if_true, Outbox.reschedule]
      split
      · exact writes_closed (by intro row; rfl) (fun row => closes .failed row (by simp))
          fun _ none => by cases none
      · refine .updates _ _ (by intro row; rfl) rfl (fun row same pending => ?_) fun _ none => by cases none
        exact .waits rfl pending rfl

/-- A row that is not pending stays as it is. -/
theorem Step.mem_of_closed (member : row ∈ state.outbox.rows) (closed : row.status ≠ .pending) :
    row ∈ next.outbox.rows := by
  cases taken.writes with
  | nothing _ same => rwa [same]
  | inserts new _ inserted _ _ =>
    rw [(rows_of_insert inserted).1]
    exact mem_cons_of_mem _ member
  | updates condition change keeps same _ _ =>
    rw [same]
    exact updatePending_of_closed member closed

theorem Step.exists_id (member : row ∈ state.outbox.rows) : ∃ moved ∈ next.outbox.rows, moved.id = row.id := by
  cases taken.writes with
  | nothing _ same => exact ⟨row, by rwa [same], rfl⟩
  | inserts new _ inserted _ _ =>
    rw [(rows_of_insert inserted).1]
    exact ⟨row, mem_cons_of_mem _ member, rfl⟩
  | updates condition change keeps same _ _ =>
    rw [same]
    exact exists_updatePending member

/-- The rows that are not pending have no bodies. -/
theorem Step.blank (blank : ∀ row ∈ state.outbox.rows, row.status ≠ .pending → row.Blank) :
    ∀ row ∈ next.outbox.rows, row.status ≠ .pending → row.Blank := by
  intro row member closed
  cases taken.writes with
  | nothing _ same =>
    rw [same] at member
    exact blank row member closed
  | inserts new _ inserted pending _ =>
    rw [(rows_of_insert inserted).1] at member
    rcases mem_cons.mp member with rfl | listed
    · exact absurd pending closed
    · exact blank row listed closed
  | updates condition change keeps same outcomes _ =>
    rw [same] at member
    obtain ⟨old, listed, ⟨rfl, _⟩ | ⟨meets, pending, rfl⟩⟩ := mem_updatePending member
    · exact blank row listed closed
    · cases outcomes old meets pending with
      | closed _ blank => exact blank
      | waits _ waits _ | stranded _ _ waits _ => exact absurd waits closed

/-- Where a pending row comes from, if fallbacks are last attempts. -/
theorem Step.origin (last : LastAttempt maxAttempts state action) (member : row ∈ next.outbox.rows)
    (pending : row.status = .pending) :
    (∃ old ∈ state.outbox.rows, old.status = .pending ∧ old.id = row.id ∧
        old.message = row.message ∧ action.delivers ≠ some row.id) ∨
      (action.enqueues = some (row.id, row.message) ∧ action.delivers = none ∧
        ∀ old ∈ state.outbox.rows, old.id ≠ row.id) := by
  cases taken.writes with
  | nothing silent same =>
    rw [same] at member
    exact .inl ⟨row, member, pending, rfl, rfl, delivers_ne silent⟩
  | inserts new silent inserted _ enqueues =>
    obtain ⟨rows, fresh⟩ := rows_of_insert inserted
    rw [rows] at member
    rcases mem_cons.mp member with rfl | listed
    · exact .inr ⟨enqueues, silent, fresh⟩
    · exact .inl ⟨row, listed, pending, rfl, rfl, delivers_ne silent⟩
  | updates condition change keeps same outcomes covers =>
    rw [same] at member
    obtain ⟨old, listed, ⟨rfl, missed⟩ | ⟨meets, waiting, rfl⟩⟩ := mem_updatePending member
    · refine .inl ⟨row, listed, pending, rfl, rfl, fun delivers => ?_⟩
      exact missed (covers row delivers) pending
    · cases outcomes old meets waiting with
      | closed closed _ => exact absurd pending closed
      | waits silent _ unchanged =>
        exact .inl ⟨old, listed, waiting, (keeps old).symm, unchanged.symm, delivers_ne silent⟩
      | stranded stranded early _ _ => exact absurd early (last old listed stranded waiting)

end

theorem mem_drainPending {drained} (member : drained ∈ outbox.drainPending now limit) :
    ∃ row ∈ outbox.rows, row.status = .pending ∧ drained = ⟨row.id, row.message, row.attempts⟩ := by
  obtain ⟨row, taken, rfl⟩ := mem_map.mp member
  have sorted := (perm_insertionSort _ _).mem_iff.mp (mem_of_mem_take taken)
  obtain ⟨listed, due⟩ := mem_filter.mp sorted
  simp only [Row.due, Bool.and_eq_true, beq_iff_eq] at due
  exact ⟨row, listed, due.1, rfl⟩

theorem nodup_drainPending : ((outbox.drainPending now limit).map OutboxRow.id).Nodup := by
  unfold Outbox.drainPending
  rw [map_map]
  apply List.Nodup.sublist (List.Sublist.map _ (take_sublist _ _))
  apply ((perm_insertionSort _ _).map _).nodup_iff.mpr
  exact outbox.unique.sublist (List.Sublist.map _ filter_sublist)

/-- What a step does to the batch. -/
inductive Works (state : State) (action : Action) (next : State) : Prop
  | drains : action.delivers = none → next.phase = .ready →
      next.batch = state.outbox.drainPending state.now outboxBatchLimit → Works state action next
  | goes : next.batch <:+ state.batch →
      (∀ row ∈ next.waiting, row ∈ state.waiting ∧ action.delivers ≠ some row.id) →
      Works state action next

theorem Step.works (taken : Step maxAttempts state action next)
    (distinct : (state.batch.map OutboxRow.id).Nodup) : Works state action next := by
  have behind : ∀ {row : OutboxRow} {rest : List OutboxRow}, state.batch = row :: rest →
      state.phase ≠ .ready → ∀ other ∈ rest, other ∈ state.waiting ∧ row.id ≠ other.id := by
    intro row rest head busy other member
    rw [head, map_cons, nodup_cons] at distinct
    refine ⟨by rwa [State.waiting, if_neg busy, head], fun same => distinct.1 ?_⟩
    rw [same]
    exact mem_map_of_mem member
  have settles : ∀ {row : OutboxRow} {rest : List OutboxRow} {action : Action} {outbox : Outbox},
      state.batch = row :: rest → state.phase ≠ .ready →
      (∀ id, action.delivers = some id → id = row.id) →
      Works state action (state.settle outbox rest) := by
    intro row rest action outbox head busy own
    refine .goes (by rw [head]; exact suffix_cons row rest) fun other member => ?_
    obtain ⟨waits, apart⟩ := behind head busy other member
    exact ⟨waits, fun delivers => apart (own _ delivers).symm⟩
  cases taken with
  | tick later | enqueue inserted | cancel toEmail subject
  | cancelBusiness toEmail subject businessID =>
    exact .goes suffix_rfl fun row member => ⟨member, delivers_ne rfl⟩
  | drain idle ready => exact .drains rfl ready rfl
  | send result head ready =>
    refine .goes suffix_rfl fun row member => ⟨?_, delivers_ne rfl⟩
    have busy : result.phase ≠ .ready := by cases result <;> decide
    rw [State.waiting, if_neg busy] at member
    rw [State.waiting, if_pos ready]
    exact mem_of_mem_tail member
  | markSent head accepted =>
    exact settles head (by simp [accepted]) fun id delivers => (Option.some.inj delivers).symm
  | @markSentFailed drained rest applied head accepted =>
    refine .goes suffix_rfl fun row member => ?_
    rw [head] at member
    obtain ⟨waits, apart⟩ := behind head (by simp [accepted]) row member
    refine ⟨waits, fun delivers => apart ?_⟩
    cases applied with
    | false => cases delivers
    | true => exact Option.some.inj delivers
  | rescheduleStrandedSent applied head stranded =>
    refine settles head (by simp [stranded]) fun id delivers => ?_
    cases applied with
    | false => cases delivers
    | true => exact (Option.some.inj delivers).symm
  | markFailed applied head permanent =>
    exact settles head (by simp [permanent]) fun id delivers => by cases delivers
  | reschedule applied head transient =>
    exact settles head (by simp [transient]) fun id delivers => by cases delivers
  | stop => exact .goes nil_suffix fun row member => by cases member

theorem Step.mem_of_delivers (taken : Step maxAttempts state action next)
    (delivers : action.delivers = some id) : ∃ row ∈ state.batch, row.id = id := by
  cases taken with
  | markSent head accepted => exact ⟨_, by simp [head], Option.some.inj delivers⟩
  | markSentFailed applied head accepted | rescheduleStrandedSent applied head stranded =>
    cases applied with
    | false => cases delivers
    | true => exact ⟨_, by simp [head], Option.some.inj delivers⟩
  | _ => cases delivers

theorem Enqueued.append {message} (enqueued : Enqueued past id message) :
    Enqueued (past ++ [action]) id message := by
  obtain ⟨earlier, member, same⟩ := enqueued
  exact ⟨earlier, mem_append_left _ member, same⟩

theorem delivered_append : Delivered (past ++ [action]) id ↔ Delivered past id ∨ action.delivers = some id := by
  simp [Delivered]

/-- Pending rows are as they were enqueued, and not yet delivered. -/
structure Sound (past : List Action) (state : State) : Prop where
  pending : ∀ row ∈ state.outbox.rows, row.status = .pending →
    Enqueued past row.id row.message ∧ ¬ Delivered past row.id
  known : ∀ id, Delivered past id → ∃ row ∈ state.outbox.rows, row.id = id
  batch : ∀ drained ∈ state.batch, Enqueued past drained.id drained.message ∧
    ∃ row ∈ state.outbox.rows, row.id = drained.id
  distinct : (state.batch.map OutboxRow.id).Nodup
  waiting : ∀ drained ∈ state.waiting, ¬ Delivered past drained.id

theorem sound_start (now : Time) : Sound [] (.start now) where
  pending _ member := by cases member
  known := by
    rintro id ⟨action, member, _⟩
    cases member
  batch _ member := by cases member
  distinct := nodup_nil
  waiting _ member := by cases member

theorem Sound.step (sound : Sound past state) (taken : Step maxAttempts state action next)
    (last : LastAttempt maxAttempts state action) : Sound (past ++ [action]) next := by
  have known : ∀ id, (∃ row ∈ state.outbox.rows, row.id = id) → ∃ row ∈ next.outbox.rows, row.id = id := by
    rintro id ⟨row, member, rfl⟩
    exact taken.exists_id member
  have pending : ∀ row ∈ next.outbox.rows, row.status = .pending →
      Enqueued (past ++ [action]) row.id row.message ∧ ¬ Delivered (past ++ [action]) row.id := by
    intro row member waits
    rw [delivered_append]
    rcases taken.origin last member waits with
      ⟨old, listed, waited, id, message, silent⟩ | ⟨enqueues, silent, fresh⟩
    · obtain ⟨enqueued, undelivered⟩ := sound.pending old listed waited
      rw [id] at enqueued undelivered
      rw [message] at enqueued
      exact ⟨enqueued.append, not_or.mpr ⟨undelivered, silent⟩⟩
    · refine ⟨⟨action, by simp, enqueues⟩, not_or.mpr ⟨fun delivered => ?_, delivers_ne silent⟩⟩
      obtain ⟨old, listed, same⟩ := sound.known _ delivered
      exact fresh old listed same
  have delivered : ∀ id, Delivered (past ++ [action]) id → ∃ row ∈ next.outbox.rows, row.id = id := by
    intro id delivered
    rcases delivered_append.mp delivered with before | now
    · exact known id (sound.known id before)
    · obtain ⟨drained, member, rfl⟩ := taken.mem_of_delivers now
      exact known _ (sound.batch drained member).2
  cases taken.works sound.distinct with
  | drains silent ready drains =>
    have drained : ∀ drained ∈ next.batch, ∃ row ∈ state.outbox.rows, row.status = .pending ∧
        drained = ⟨row.id, row.message, row.attempts⟩ := by
      intro drained member
      rw [drains] at member
      exact mem_drainPending member
    refine ⟨pending, delivered, ?_, by rw [drains]; exact nodup_drainPending, ?_⟩
    · intro row member
      obtain ⟨stored, listed, waits, rfl⟩ := drained row member
      exact ⟨(sound.pending stored listed waits).1.append, known _ ⟨stored, listed, rfl⟩⟩
    · intro row member
      rw [State.waiting, if_pos ready] at member
      obtain ⟨stored, listed, waits, rfl⟩ := drained row member
      rw [delivered_append]
      exact not_or.mpr ⟨(sound.pending stored listed waits).2, delivers_ne silent⟩
  | goes rest waiting =>
    refine ⟨pending, delivered, ?_, sound.distinct.sublist (rest.sublist.map _), ?_⟩
    · intro row member
      obtain ⟨enqueued, stored⟩ := sound.batch row (rest.subset member)
      exact ⟨enqueued.append, known _ stored⟩
    · intro row member
      obtain ⟨waits, silent⟩ := waiting row member
      rw [delivered_append]
      exact not_or.mpr ⟨sound.waiting row waits, silent⟩

/-- A fallback write before the last attempt blanks the row. -/
theorem Step.stranded (taken : Step maxAttempts state action next) (early : ¬ LastAttempt maxAttempts state action) :
    ∃ row ∈ next.outbox.rows, row.status = .pending ∧ row.Blank ∧ action.delivers = some row.id := by
  unfold LastAttempt at early
  push Not at early
  obtain ⟨row, member, fallback, pending, drained, first, left⟩ := early
  cases taken with
  | @rescheduleStrandedSent head rest applied batch stranded =>
    obtain ⟨same, rfl⟩ := Action.rescheduleStrandedSent.inj fallback
    rw [batch] at first
    obtain rfl := Option.some.inj first
    simp only [State.settle, Outbox.rescheduleStrandedSent]
    rw [if_neg (Nat.not_le_of_gt left)]
    exact ⟨_, change_mem_updatePending member (by simp [same]) pending, pending, ⟨rfl, rfl⟩, congrArg some same⟩
  | _ => cases fallback

end

namespace Sample

def message : Message := ⟨"owner@example.com", "Reset", "link", "<a>link</a>"⟩

def drained : OutboxRow := ⟨7, message, 0⟩

/-- The row is handed to the sender, and the sender accepts it. -/
def accepted : List Action := [.enqueue 7 ⟨message, none⟩ 0, .drain, .send drained .accepted]

def scrubbed : OutboxRow := ⟨7, { message with bodyText := "", bodyHTML := "" }, 1⟩

end Sample

/-- The messages handed to the sender, and the rows that are closed. -/
theorem outbox_delivery {maxAttempts : Nat} {now : Time} {past : List Action} {state : State}
    (run : Run (Guarded (Step maxAttempts) (LastAttempt maxAttempts)) (.start now) past state) :
    (∀ row result next, Step maxAttempts state (.send row result) next →
      Enqueued past row.id row.message ∧ ¬ Delivered past row.id) ∧
    (∀ row ∈ state.outbox.rows, row.status ≠ .pending → row.Blank) ∧
    (∀ more last, Run (Step maxAttempts) state more last →
      ∀ row ∈ state.outbox.rows, row.status ≠ .pending → row ∈ last.outbox.rows) ∧
    ∀ action next, Step maxAttempts state action next → ¬ LastAttempt maxAttempts state action →
      ∃ row ∈ next.outbox.rows, row.status = .pending ∧ row.Blank ∧ Delivered (past ++ [action]) row.id := by
  have sound : Sound past state :=
    run.history (fun _ _ _ _ taken sound => sound.step taken.1 taken.2) (sound_start now)
  refine ⟨?_, ?_, ?_, ?_⟩
  · intro row result next taken
    cases taken with
    | send _ head ready =>
      refine ⟨(sound.batch row (by simp [head])).1, sound.waiting row ?_⟩
      rw [State.waiting, if_pos ready, head]
      exact mem_cons_self
  · exact run.invariant (fun _ _ _ taken blank => taken.1.blank blank) (by intro row member; cases member)
  · intro more last rest row member closed
    exact rest.invariant (fun _ _ _ taken kept => Step.mem_of_closed taken kept closed) member
  · intro action next taken early
    obtain ⟨row, member, pending, blank, delivers⟩ := taken.stranded early
    exact ⟨row, member, pending, blank, action, by simp, delivers⟩

open Sample

theorem outbox_delivery_sent : ∃ state,
    Run (Guarded (Step 5) (LastAttempt 5)) (.start 0) (accepted ++ [.markSent 7 true true]) state ∧
      state.outbox.rows.map Row.status = [.sent] ∧
      ∀ row ∈ state.outbox.rows, row.status ≠ .pending → row.Blank := by
  have quiet : ∀ {state : State} {action : Action},
      (∀ id, action ≠ .rescheduleStrandedSent id true) → LastAttempt 5 state action :=
    fun other row _ fallback => absurd fallback (other row.id)
  have run : ∃ state, Run (Guarded (Step 5) (LastAttempt 5)) (.start 0)
      (accepted ++ [.markSent 7 true true]) state ∧ state.outbox.rows.map Row.status = [.sent] :=
    ⟨_, .cons ⟨.enqueue rfl, quiet (by simp)⟩ <| .cons ⟨.drain rfl rfl, quiet (by simp)⟩ <|
      .cons ⟨.send .accepted rfl rfl, quiet (by simp)⟩ <|
      .cons ⟨@Step.markSent 5 _ drained [] rfl rfl, quiet (by simp)⟩ <| .nil _, rfl⟩
  obtain ⟨state, run, sent⟩ := run
  exact ⟨state, run, sent, (outbox_delivery run).2.1⟩

/-- After a failed `MarkSent` the row is sent again, without its bodies. -/
theorem stranded_row_sent_again : ∃ past state next,
    Run (Step 5) (.start 0) past state ∧ Step 5 state (.send Sample.scrubbed .accepted) next ∧
      Delivered past 7 ∧ Enqueued past 7 message ∧ scrubbed.message ≠ message := by
  refine ⟨accepted ++ [.markSent 7 false false, .rescheduleStrandedSent 7 true, .tick 120000, .drain], _, _,
    .cons (.enqueue rfl) <| .cons (.drain rfl rfl) <| .cons (.send .accepted rfl rfl) <|
    .cons (@Step.markSentFailed 5 _ drained [] false rfl rfl) <|
    .cons (@Step.rescheduleStrandedSent 5 _ drained [] true rfl rfl) <|
    .cons (.tick (Nat.zero_le _)) <| .cons (.drain rfl rfl) <| .nil _,
    .send .accepted rfl rfl, ?_, ?_, by decide⟩
  · exact ⟨.rescheduleStrandedSent 7 true, by simp, rfl⟩
  · exact ⟨.enqueue 7 ⟨message, none⟩ 0, by simp [accepted], rfl⟩

end OneVoice.Email
