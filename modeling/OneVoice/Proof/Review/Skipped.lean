import OneVoice.Construction.Review.Service

namespace OneVoice.Reviews

open Library Function

variable {Error : Type} {requests : Nat → Dedupe.Call Error}

/-- The service with notes: who asked for each publication, and what happened since the last skip.
-/
structure Watched (Error : Type) where
  service : Service Error
  automatic : Nat → Bool
  sent : Bool
  answered : Bool

variable (watched : Watched Error)

namespace Watched

def start (review : Review) (now : Domain.Time) : Watched Error where
  service := .start review now
  automatic := fun _ => false
  sent := false
  answered := false

/-- The notes after an action. A retry is a request of the operator. -/
def note (action : Action Error) (service : Service Error) : Watched Error :=
  match action with
  | .reply id signal _ _ =>
    ⟨service, update watched.automatic id signal, watched.sent, watched.answered⟩
  | .retryReply id _ =>
    ⟨service, update watched.automatic id false, watched.sent, watched.answered⟩
  | .send id => ⟨service, watched.automatic, watched.sent || watched.automatic id, watched.answered⟩
  | .record id | .finish id =>
    ⟨service, watched.automatic, watched.sent, watched.answered || !watched.automatic id⟩
  | .sync shown =>
    ⟨service, watched.automatic, watched.sent, watched.answered || shown ≠ ""⟩
  | .skip _ => ⟨service, watched.automatic, false, false⟩
  | _ => ⟨service, watched.automatic, watched.sent, watched.answered⟩

/-- The autopilot has no open publication. -/
def OwnersOnly : Prop := ∀ id publish, watched.service.publishes id = some publish → watched.automatic id = false

/-- After a skip the guard of a reply refuses the autopilot. -/
structure Settled (watched : Watched Error) : Prop where
  owners : watched.OwnersOnly
  decided : watched.service.review.replyStatus ≠ .pending
  silent : watched.sent = false
  kept : watched.service.review.replyStatus = .skipped ∨ watched.answered = true

end Watched

def WatchedStep (requests : Nat → Dedupe.Call Error) (first : Watched Error)
    (action : Action Error) (last : Watched Error) : Prop :=
  ∃ service, Step requests first.service action service ∧ last = first.note action service

/-- The autopilot does not take up a review whose last reply has failed. -/
def ReadsUnfailed : Action Error → Prop
  | .reply _ true _ _ => watched.service.review.replyStatus ≠ .error
  | _ => True

variable {first last : Watched Error} {action : Action Error}

theorem WatchedStep.mk {service} (taken : Step requests first.service action service) :
    WatchedStep requests first action (first.note action service) :=
  ⟨service, taken, rfl⟩

namespace Watched

theorem OwnersOnly.keep (owners : first.OwnersOnly) (publishes : last.service.publishes = first.service.publishes)
    (automatic : last.automatic = first.automatic) : last.OwnersOnly := by
  intro id publish found
  rw [automatic]
  rw [publishes] at found
  exact owners id publish found

variable {cell : Option Publish} {publish : Publish} {id : Nat}

/-- One publication is begun, moved or ended. -/
theorem OwnersOnly.update (owners : first.OwnersOnly)
    (publishes : last.service.publishes = update first.service.publishes id cell)
    (others : ∀ other ≠ id, last.automatic other = first.automatic other)
    (own : cell.isSome → last.automatic id = false) : last.OwnersOnly := by
  intro other publish found
  rw [publishes] at found
  obtain ⟨rfl, rfl⟩ | ⟨same, old⟩ := cell_update found
  · exact own rfl
  · rw [others other same]
    exact owners other publish old

/-- The publication of an owner is moved or ended. -/
theorem OwnersOnly.move (owners : first.OwnersOnly) (found : first.service.publishes id = some publish)
    (publishes : last.service.publishes = Function.update first.service.publishes id cell)
    (automatic : last.automatic = first.automatic) : last.OwnersOnly := by
  apply owners.update publishes
  · intro other _
    rw [automatic]
  · intro _
    rw [automatic]
    exact owners id publish found

/-- A step that keeps status and notes keeps all but the owners. -/
theorem Settled.of_same (settled : first.Settled) (owners : last.OwnersOnly)
    (status : last.service.review.replyStatus = first.service.review.replyStatus)
    (sent : last.sent = first.sent) (answered : last.answered = first.answered) : last.Settled where
  owners := owners
  decided := by
    rw [status]
    exact settled.decided
  silent := sent.trans settled.silent
  kept := by
    rw [status, answered]
    exact settled.kept

/-- The outcome of an owner's publication is written. -/
theorem Settled.of_answer (settled : first.Settled) (found : first.service.publishes id = some publish)
    (publishes : last.service.publishes = update first.service.publishes id cell)
    (automatic : last.automatic = first.automatic) (status : last.service.review.replyStatus ≠ .pending)
    (sent : last.sent = first.sent) (answered : last.answered = (first.answered || !first.automatic id)) :
    last.Settled where
  owners := settled.owners.move found publishes automatic
  decided := status
  silent := sent.trans settled.silent
  kept := by
    right
    rw [answered, settled.owners id publish found]
    exact Bool.or_true _

theorem Settled.begin_reply (settled : first.Settled) {signal : Bool} {businessID text : String}
    (unanswered : first.service.review.alreadyAnswered signal = false)
    (unfailed : ReadsUnfailed first (.reply id signal businessID text)) :
    (first.note (.reply id signal businessID text) (first.service.setPublish id (some publish))).Settled := by
  refine settled.of_same ?_ rfl rfl rfl
  apply settled.owners.update rfl
  · intro other apart
    exact update_of_ne apart ..
  · intro _
    apply (update_self ..).trans
    cases signal with
    | false => rfl
    | true =>
      -- The guard passes the autopilot for pending and failed reviews only.
      cases status : first.service.review.replyStatus with
      | pending => exact absurd status settled.decided
      | error => exact absurd status unfailed
      | skipped | replied => simp [Review.alreadyAnswered, status] at unanswered

theorem finalStatus_ne_pending {phase : PublishPhase} {status : ReplyStatus}
    (final : phase.finalStatus = some status) : status ≠ .pending := by
  cases phase <;> cases final <;> decide

/-- A sync without a reply changes nothing; with one it notes it. -/
theorem Settled.sync (settled : first.Settled) (shown : String) :
    (first.note (.sync shown) (first.service.write
      (first.service.review.upsert (Review.incomingFromMap shown)))).Settled := by
  have upserted := Review.replyStatus_upsert first.service.review shown
  have owners := settled.owners
  by_cases empty : shown = ""
  · rw [if_neg (not_not_intro empty)] at upserted
    refine settled.of_same (owners.keep rfl rfl) upserted rfl ?_
    show (first.answered || decide (shown ≠ "")) = first.answered
    rw [decide_eq_false (not_not_intro empty), Bool.or_false]
  · rw [if_pos empty] at upserted
    constructor
    · exact owners.keep rfl rfl
    · show (Review.upsert ..).replyStatus ≠ _
      rw [upserted]
      decide
    · exact settled.silent
    · right
      show (first.answered || decide (shown ≠ "")) = true
      rw [decide_eq_true empty, Bool.or_true]

theorem Settled.step (settled : first.Settled)
    (taken : Guarded (WatchedStep requests) ReadsUnfailed first action last) : last.Settled := by
  obtain ⟨⟨service, step, rfl⟩, unfailed⟩ := taken
  have owners := settled.owners
  cases step with
  | reply _ _ _ _ unanswered => exact settled.begin_reply unanswered unfailed
  | retryReply =>
    refine settled.of_same ?_ rfl rfl rfl
    apply owners.update rfl
    · intro other apart
      exact update_of_ne apart ..
    · intro _
      exact update_self ..
  | @send id publish found =>
    refine settled.of_same (owners.move found rfl rfl) rfl ?_ rfl
    show (first.sent || first.automatic id) = first.sent
    rw [owners id publish found, Bool.or_false]
  | unrouted found | malformed found | answer found | lost found | stop found =>
    exact settled.of_same (owners.move found rfl rfl) rfl rfl rfl
  | record found =>
    refine settled.of_answer found rfl rfl ?_ rfl rfl
    show ((Review.updateReply ..).replyStatus) ≠ _
    rw [Review.replyStatus_updateReply]
    decide
  | finish found final =>
    refine settled.of_answer found rfl rfl ?_ rfl rfl
    show ((Review.updateReply ..).replyStatus) ≠ _
    rw [Review.replyStatus_updateReply]
    exact finalStatus_ne_pending final
  | skip written => exact absurd (Review.replyStatus_skipPending written).1 settled.decided
  | claim _ claimed =>
    exact settled.of_same (owners.keep rfl rfl) (Review.reply_claimDraft claimed).1 rfl rfl
  | draft _ written =>
    exact settled.of_same (owners.keep rfl rfl) (Review.reply_updateDraft written).1 rfl rfl
  | regenerate prepared =>
    exact settled.of_same (owners.keep rfl rfl) (Review.reply_prepareRegeneration prepared).1 rfl rfl
  | sync shown => exact settled.sync shown
  | _ => exact settled.of_same (owners.keep rfl rfl) rfl rfl rfl

theorem Settled.of_skip {businessID} (owners : first.OwnersOnly)
    (skip : WatchedStep requests first (.skip businessID) last) : last.Settled := by
  obtain ⟨service, step, rfl⟩ := skip
  cases step with
  | @skip _ review written =>
    have skipped : review.replyStatus = .skipped := (Review.replyStatus_skipPending written).2
    constructor
    · exact owners.keep rfl rfl
    · show review.replyStatus ≠ _
      rw [skipped]
      decide
    · rfl
    · exact .inl skipped

end Watched

/-- After a skip without an open automatic publication, and while failed replies are left alone, the
autopilot sends nothing. -/
theorem skip_final_for_automation {businessID : String} {middle : Watched Error} {after : List (Action Error)}
    (owners : first.OwnersOnly) (skip : WatchedStep requests first (.skip businessID) middle)
    (run : Run (Guarded (WatchedStep requests) ReadsUnfailed) middle after last) :
    last.sent = false ∧ (last.service.review.replyStatus = .skipped ∨ last.answered = true) := by
  have settled : last.Settled := by
    apply run.invariant _ (Watched.Settled.of_skip owners skip)
    intro source action target taken held
    exact held.step taken
  exact ⟨settled.silent, settled.kept⟩

theorem skip_final_for_automation_owner : ∃ last : Watched String,
    WatchedStep Dedupe.Sample.requests (.start Sample.review 0) (.skip "b")
      (.start { Sample.review with replyStatus := .skipped } 0) ∧
    Run (Guarded (WatchedStep Dedupe.Sample.requests) ReadsUnfailed)
      (.start { Sample.review with replyStatus := .skipped } 0)
      [.sync "", .reply 0 false "b" "Thank you", .unrouted 0, .finish 0] last ∧
    last.sent = false ∧ last.service.review.replyStatus = .replied ∧ last.answered = true := by
  have skip : @WatchedStep String Dedupe.Sample.requests (.start Sample.review 0)
      (.skip "b") (.start { Sample.review with replyStatus := .skipped } 0) := ⟨_, .skip rfl, rfl⟩
  have run : Run (Guarded (WatchedStep Dedupe.Sample.requests) ReadsUnfailed)
      (.start { Sample.review with replyStatus := .skipped } 0)
      [.sync "", .reply 0 false "b" "Thank you", .unrouted 0, .finish 0] _ :=
    .cons ⟨.mk (.sync _), trivial⟩ <|
    .cons ⟨.mk (.reply rfl rfl (by decide) rfl rfl), trivial⟩ <|
    .cons ⟨.mk (.unrouted rfl rfl), trivial⟩ <|
    .cons ⟨.mk (.finish rfl rfl), trivial⟩ <| .nil _
  have final := skip_final_for_automation (fun _ _ _ => rfl) skip run
  exact ⟨_, skip, run, final.1, rfl, rfl⟩

/-- The skip commits after the autopilot's load, and the reply is sent. -/
theorem automatic_reply_after_skip : ∃ middle skipped last : Watched String,
    Run (WatchedStep Dedupe.Sample.requests) (.start Sample.review 0)
      [.select 0, .claim 0, .draft 0 (some "Thank you"), .reply 0 true "b" "Thank you"] middle ∧
    WatchedStep Dedupe.Sample.requests middle (.skip "b") skipped ∧
    skipped.service.review.replyStatus = .skipped ∧ skipped.automatic 0 = true ∧
    Run (WatchedStep Dedupe.Sample.requests) skipped [.send 0, .agent "review-reply-r" (.claimed 0),
        .agent "review-reply-r" (.execReturned 0 (some Dedupe.Sample.response) none),
        .agent "review-reply-r" (.stored 0 0 true), .answer 0, .record 0] last ∧
    last.sent = true ∧ last.answered = false ∧ last.service.executed = ["Thank you"] ∧
      last.service.review.replyStatus = .replied := by
  exact ⟨_, _, _, .cons (.mk (.select rfl rfl)) <| .cons (.mk (.claim rfl rfl)) <|
    .cons (.mk (.draft rfl rfl)) <| .cons (.mk (.reply rfl rfl (by decide) rfl rfl)) <| .nil _,
    .mk (.skip rfl), rfl, rfl,
    .cons (.mk (.send rfl rfl)) <|
    .cons (.mk (.agent (addressed rfl) (.claimed rfl rfl rfl))) <|
    .cons (.mk (.agent (addressed rfl) (.execReturned _ _ rfl))) <|
    .cons (.mk (.agent (addressed rfl) (.stored _ true rfl rfl))) <|
    .cons (.mk (.answer rfl rfl rfl rfl)) <| .cons (.mk (.record rfl rfl)) <| .nil _,
    rfl, rfl, rfl, rfl⟩

end OneVoice.Reviews
