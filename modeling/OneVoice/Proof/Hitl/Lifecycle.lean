import OneVoice.Construction.Hitl.PendingStore

namespace OneVoice.Hitl

open Library Domain StoreOp UpdateOp

def terminal : BatchStatus → Bool
  | .resolved | .expired => true
  | _ => false

/-- The store's lifecycle: the statuses a write matches and leads to. -/
def UpdateOp.moves : UpdateOp → BatchStatus → Option BatchStatus
  | .promote _, .preparing => some .pending
  | .atomicTransitionToResolving _, .pending => some .resolving
  | .atomicTransitionResolvingToResuming _, .resolving => some .resuming
  | .atomicTransitionResumingToResolving _, .resuming => some .resolving
  | .resetResolvingToPending _, .resolving => some .pending
  | .recordDecisions _ _, status => some status
  | .markDispatched _ _, status => some status
  | .markResolved _, _ => some .resolved
  | .markExpired _, _ => some .expired
  | .reconcileOrphanPreparing _ _, .preparing => some .expired
  | .reconcileOrphanResolving _ _ _, .resolving => some .pending
  | .reconcileOrphanResuming _ _ _, .resuming => some .resolving
  | _, _ => none

variable {status next : BatchStatus} {op : UpdateOp}

variable {doc : PendingToolCallBatch}

/-- A write that matches a document moves its status along the lifecycle. -/
theorem moves_of_filter (matched : op.update.filter doc = true) :
    op.moves doc.status = some (op.update.set doc).status := by
  cases op <;> simp_all [UpdateOp.update, UpdateOp.moves, promote, atomicTransitionToResolving,
    atomicTransitionResolvingToResuming, atomicTransitionResumingToResolving,
    resetResolvingToPending, recordDecisions, markDispatched, markResolved, markExpired,
    reconcileOrphanPreparing, reconcileOrphanResolving, reconcileOrphanResuming]

/-- Past the promotion no write changes the deadline. -/
theorem set_expiresAt (matched : op.update.filter doc = true) (promoted : doc.status ≠ .preparing) :
    (op.update.set doc).expiresAt = doc.expiresAt := by
  cases op <;> first
    | rfl
    | simp_all [UpdateOp.update, promote, reconcileOrphanPreparing]

namespace StoreOp

/-- A write that matched and removed its document. -/
def removes : StoreOp × Bool → Bool
  | (.delete _, true) => true
  | _ => false

def resetsToPending : StoreOp × Bool → Bool
  | (.update (.resetResolvingToPending _), true) => true
  | (.update (.reconcileOrphanResolving _ _ _), true) => true
  | _ => false

def resetsToResolving : StoreOp × Bool → Bool
  | (.update (.atomicTransitionResumingToResolving _), true) => true
  | (.update (.reconcileOrphanResuming _ _ _), true) => true
  | _ => false

def claimsResolving : StoreOp × Bool → Bool
  | (.update (.atomicTransitionToResolving _), true) => true
  | _ => false

def claimsResuming : StoreOp × Bool → Bool
  | (.update (.atomicTransitionResolvingToResuming _), true) => true
  | _ => false

end StoreOp

/-- A document is there and has the property. -/
def Holds (property : PendingToolCallBatch → Prop) (cell : Option PendingToolCallBatch) : Prop :=
  ∃ doc, cell = some doc ∧ property doc

/-- A property that matching updates keep survives writes but removals. -/
theorem StoreStep.holds {property : PendingToolCallBatch → Prop} {id cell next label}
    (step : StoreStep id cell label next) (stays : removes label = false)
    (closed : ∀ op doc, label = (.update op, true) → op.update.filter doc = true →
      property doc → property (op.update.set doc)) (inside : Holds property cell) : Holds property next := by
  cases step with
  | inserted =>
    obtain ⟨doc, absent, _⟩ := inside
    cases absent
  | updated matched =>
    obtain ⟨doc, present, has⟩ := inside
    cases present
    exact ⟨_, rfl, closed _ _ rfl matched has⟩
  | deleted => cases stays
  | _ => exact inside

theorem terminal_moves (moved : op.moves status = some next) (ended : terminal status = true) :
    terminal next = true := by
  cases op <;> cases status <;> simp_all [moves, terminal] <;> simp [← moved]

theorem moves_ne_preparing (moved : op.moves status = some next) (promoted : status ≠ .preparing) :
    next ≠ .preparing := by
  cases op <;> cases status <;> simp_all [moves] <;> simp [← moved]

/-- The statuses that lie behind a claim for resolution. -/
def pastPending : BatchStatus → Bool
  | .preparing | .pending => false
  | _ => true

theorem pastPending_moves (moved : op.moves status = some next) (behind : pastPending status = true)
    (forward : resetsToPending (.update op, true) = false) : pastPending next = true := by
  cases op <;> cases status <;> simp_all [moves, pastPending, resetsToPending] <;>
    simp [← moved]

/-- The statuses that lie behind a claim for the continuation. -/
def pastResolving : BatchStatus → Bool
  | .resuming | .resolved | .expired => true
  | _ => false

theorem pastResolving_moves (moved : op.moves status = some next) (behind : pastResolving status = true)
    (forward : resetsToResolving (.update op, true) = false) : pastResolving next = true := by
  cases op <;> cases status <;> simp_all [moves, pastResolving, resetsToResolving] <;>
    simp [← moved]

section Cell

variable {id : String} {first last : Option PendingToolCallBatch} {labels : List (StoreOp × Bool)}

/-- A property that matching updates keep holds for the document's life. -/
theorem holds_of_run {property : PendingToolCallBatch → Prop}
    (closed : ∀ (op : UpdateOp) doc, op.update.filter doc = true → property doc → property (op.update.set doc))
    (run : Run (StoreStep id) first labels last) (lives : ∀ label ∈ labels, removes label = false)
    (start : Holds property first) : Holds property last :=
  (run.guarded lives).invariant (fun _ _ _ taken => taken.1.holds taken.2 fun op doc _ => closed op doc) start

section

variable (run : Run (StoreStep id) first labels last) (lives : ∀ label ∈ labels, removes label = false)

include run lives

theorem terminal_of_run (ended : Holds (fun doc => terminal doc.status = true) first) :
    Holds (fun doc => terminal doc.status = true) last :=
  holds_of_run (fun _ _ matched => terminal_moves (moves_of_filter matched)) run lives ended

theorem expiresAt_of_run {deadline}
    (promoted : Holds (fun doc => doc.status ≠ .preparing ∧ doc.expiresAt = deadline) first) :
    Holds (fun doc => doc.status ≠ .preparing ∧ doc.expiresAt = deadline) last := by
  apply holds_of_run _ run lives promoted
  intro op doc matched ⟨promoted, deadline⟩
  exact ⟨moves_ne_preparing (moves_of_filter matched) promoted, (set_expiresAt matched promoted).trans deadline⟩

/-- A label into a region that the others keep occurs at most once. -/
theorem claims_le_one {region : BatchStatus → Bool} {claims resets : StoreOp × Bool → Bool}
    (claim : ∀ cell label next, StoreStep id cell label next → claims label = true →
      Holds (fun doc => region doc.status = false) cell ∧ Holds (fun doc => region doc.status = true) next)
    (closed : ∀ op status next, resets (.update op, true) = false → op.moves status = some next →
      region status = true → region next = true)
    (forward : ∀ label ∈ labels, resets label = false) : labels.countP claims ≤ 1 := by
  have guarded := run.guarded fun label member => And.intro (lives label member) (forward label member)
  have kept : ∀ cell label next, Guarded (StoreStep id)
      (fun _ label => removes label = false ∧ resets label = false) cell label next →
      Holds (fun doc => region doc.status = true) cell →
      Holds (fun doc => region doc.status = true) next := by
    intro cell label next taken
    apply taken.1.holds taken.2.1
    intro op doc same matched
    rw [same] at taken
    exact closed op _ _ taken.2.2 (moves_of_filter matched)
  apply guarded.countP_le_one _ (fun _ _ _ taken fired => (claim _ _ _ taken.1 fired).2) kept
  intro cell label next taken fired past
  obtain ⟨doc, present, outside⟩ := (claim _ _ _ taken.1 fired).1
  obtain ⟨other, same, inside⟩ := past
  rw [present, Option.some.injEq] at same
  rw [same, inside] at outside
  cases outside

theorem claimsResolving_le_one (forward : ∀ label ∈ labels, resetsToPending label = false) :
    labels.countP claimsResolving ≤ 1 := by
  apply claims_le_one run lives _ (fun _ _ _ forward moved past => pastPending_moves moved past forward) forward
  intro cell label next taken fired
  cases taken with
  | @updated doc op matched =>
    cases op <;> simp [claimsResolving] at fired
    have pending : doc.status = .pending := of_decide_eq_true matched
    exact ⟨⟨doc, rfl, congrArg pastPending pending⟩, ⟨_, rfl, rfl⟩⟩
  | _ => simp [claimsResolving] at fired

theorem claimsResuming_le_one (forward : ∀ label ∈ labels, resetsToResolving label = false) :
    labels.countP claimsResuming ≤ 1 := by
  apply claims_le_one run lives _ (fun _ _ _ forward moved past => pastResolving_moves moved past forward) forward
  intro cell label next taken fired
  cases taken with
  | @updated doc op matched =>
    cases op <;> simp [claimsResuming] at fired
    have resolving : doc.status = .resolving := of_decide_eq_true matched
    exact ⟨⟨doc, rfl, congrArg pastResolving resolving⟩, ⟨_, rfl, rfl⟩⟩
  | _ => simp [claimsResuming] at fired

end

end Cell

/-- An ended batch stays ended, a deadline is set once, and each claim succeeds at most once between
two resets. -/
theorem batch_lifecycle {first last : Collection} {labels : List (String × StoreOp × Bool)}
    (run : Run Collection.Step first labels last) (id : String)
    (lives : ∀ label ∈ addressed id labels, removes label = false) :
    (Holds (fun doc => terminal doc.status = true) (first id) →
      Holds (fun doc => terminal doc.status = true) (last id)) ∧ (∀ before now after,
      addressed id labels = before ++ (.update (.promote now), true) :: after →
      Holds (fun doc => doc.expiresAt ≠ 0 ∧ doc.expiresAt = now + pendingToolCallTTL) (last id)) ∧
    ∀ segment, segment <:+: addressed id labels → ((∀ label ∈ segment, resetsToPending label = false) →
        segment.countP claimsResolving ≤ 1) ∧ ((∀ label ∈ segment, resetsToResolving label = false) →
        segment.countP claimsResuming ≤ 1) := by
  have cell := Keyed.cell run id
  refine ⟨terminal_of_run cell lives, ?_, ?_⟩
  · intro before now after split
    rw [split] at cell lives
    obtain ⟨source, target, _, taken, rest⟩ := cell.split_at
    have promoted : Holds (fun doc => doc.status ≠ .preparing ∧
        doc.expiresAt = now + pendingToolCallTTL) target := by
      cases taken with
      | updated => exact ⟨_, rfl, BatchStatus.noConfusion, rfl⟩
    have livesAfter : ∀ label ∈ after, removes label = false := fun label member =>
      lives label (List.mem_append_right _ (List.mem_cons_of_mem _ member))
    obtain ⟨doc, present, _, deadline⟩ := expiresAt_of_run rest livesAfter promoted
    have positive : 0 < now + pendingToolCallTTL := Nat.add_pos_right now (by decide)
    have set : doc.expiresAt ≠ 0 := by
      rw [deadline]
      exact positive.ne'
    exact ⟨doc, present, set, deadline⟩
  · rintro segment ⟨before, after, split⟩
    rw [← split] at cell lives
    obtain ⟨_, head, _⟩ := cell.split
    obtain ⟨_, _, middle⟩ := head.split
    have livesInside : ∀ label ∈ segment, removes label = false := fun label member =>
      lives label (List.mem_append_left _ (List.mem_append_right _ member))
    exact ⟨claimsResolving_le_one middle livesInside, claimsResuming_le_one middle livesInside⟩

def retriedBatch : PendingToolCallBatch where
  id := "batch"
  conversationID := "conversation"
  businessID := "business"
  projectID := ""
  userID := "user"
  messageID := "message"
  selectedPlatforms := []
  platformScopeSet := false
  status := .preparing
  calls := [⟨"call", "vk__publish_post", ∅, .manual, .missing, none, "", false, none⟩]
  modelMessages := .blank
  iterationIdx := 0
  createdAt := 0
  updatedAt := 0
  expiresAt := 0

/-- The writes of a batch whose first resolution fails. -/
def retriedWrites : List (String × StoreOp × Bool) :=
  [("batch", .insert retriedBatch 1, true), ("batch", .update (.promote 1), true),
    ("batch", .update (.atomicTransitionToResolving 2), true),
    ("batch", .update (.resetResolvingToPending 3), true),
    ("batch", .update (.atomicTransitionToResolving 4), true),
    ("batch", .update (.atomicTransitionResolvingToResuming 5), true),
    ("batch", .update (.markResolved 6), true)]

theorem retriedWrites_run : ∃ last, Run Collection.Step (fun _ => none) retriedWrites last :=
  ⟨_, .cons ⟨_, .inserted rfl rfl, rfl⟩ <| .cons ⟨_, .updated (by rfl), rfl⟩ <|
    .cons ⟨_, .updated (by rfl), rfl⟩ <| .cons ⟨_, .updated (by rfl), rfl⟩ <|
    .cons ⟨_, .updated (by rfl), rfl⟩ <| .cons ⟨_, .updated (by rfl), rfl⟩ <|
    .cons ⟨_, .updated (by rfl), rfl⟩ <| .nil _⟩

theorem batch_lifecycle_retried :
    ∃ last : Collection, Run Collection.Step (fun _ => none) retriedWrites last ∧
      Holds (fun doc => doc.expiresAt ≠ 0 ∧ doc.expiresAt = 1 + pendingToolCallTTL) (last "batch") := by
  obtain ⟨last, run⟩ := retriedWrites_run
  have lifecycle := batch_lifecycle run "batch" (by decide)
  exact ⟨last, run, lifecycle.2.1 [_] 1 _ rfl⟩

end OneVoice.Hitl
