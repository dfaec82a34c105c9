import OneVoice.Construction.OwnerLink.Plane

namespace OneVoice.OwnerLink

open Library Domain Hitl Function List TelegramCallback

section

variable {deployment : Deployment} {plane next : Plane} {call : Call}

/-- The data carries the code of batch and action under the secret. -/
def Deployment.Verifies (deployment : Deployment) (data batchID : String) (action : CallbackAction) : Prop :=
  deployment.secret ≠ "" ∧
    splitFields data = ["v1", batchID, action.byte,
      deployment.computeMAC batchID action.text deployment.secret]

variable {action : CallbackAction} {rows : List Row} {now : Time}

theorem byteToAction_ok {byte} (read : byteToAction byte = .ok action) : byte = action.byte := by
  unfold byteToAction at read
  split at read
  · cases read
    assumption
  · split at read
    · cases read
      assumption
    · cases read

theorem Deployment.parseAndVerify_ok {data batchID}
    (verified : deployment.parseAndVerify data = .ok (batchID, action)) :
    deployment.Verifies data batchID action := by
  unfold parseAndVerify TelegramCallback.parseAndVerify at verified
  split at verified
  · cases verified
  rename_i secret
  split at verified
  · rename_i version id byte gotMAC split
    simp only [bind_ok, require_ok] at verified
    obtain ⟨_, ⟨rfl, _⟩, found, read, _, rfl, rfl, rfl⟩ := verified
    have same := byteToAction_ok read
    subst same
    exact ⟨secret, split⟩
  · cases verified

theorem ownerTelegramUserID_mergeOwnerID (existing : Args) (fromID : TelegramID) :
    ownerTelegramUserID (mergeOwnerID existing fromID) = some fromID.value := by
  have read := Decimal.parseInt_formatInt fromID.low fromID.high
  unfold ownerTelegramUserID mergeOwnerID
  split
  · rename_i empty
    cases Json.str.inj (Option.some.inj empty) ▸ read
  · rename_i text _ same
    cases same
    exact read
  · rename_i same
    cases same
  · rename_i other _
    exact absurd rfl (other _)

/-- Every account of an active integration is the last one bound. -/
def Plane.Bound (plane : Plane) : Prop :=
  ∀ row ∈ plane.rows, row.status = .active → ∀ owner,
    ownerTelegramUserID row.metadata = some owner → plane.latest row.businessID = some owner

/-- No other active integration of the business has another account. -/
def BindsAlone (deployment : Deployment) (plane : Plane) : Call → Prop
  | .bind token fromID now listing true =>
    ∀ businessID target, plane.bindTarget deployment token fromID now listing = some (businessID, target) →
      ∀ row ∈ plane.rows, row.businessID = businessID → row.status = .active →
        row.id ≠ target.id → ∀ owner, ownerTelegramUserID row.metadata = some owner → owner = fromID.value
  | _ => True

namespace Plane

variable {listing : Listing} {fromID : TelegramID} {businessID : UUID} {now : Time}

variable {target : Row} {callback : Callback} {doc : PendingToolCallBatch}

/-- A bind's target is an active integration of the token's business. -/
theorem bindTarget_spec {token} (lists : plane.Lists listing)
    (chosen : plane.bindTarget deployment token fromID now listing = some (businessID, target)) :
    target ∈ plane.rows ∧ target.businessID = businessID ∧ target.status = .active := by
  unfold bindTarget at chosen
  split at chosen
  · cases chosen
  obtain ⟨found, _, chosen⟩ := Option.bind_eq_some_iff.mp chosen
  obtain ⟨rows, listed, chosen⟩ := Option.bind_eq_some_iff.mp chosen
  obtain ⟨row, active, chosen⟩ := Option.bind_eq_some_iff.mp chosen
  cases chosen
  have member := (lists _ _ listed).mem_iff.mp (mem_of_find?_eq_some active)
  have own := mem_filter.mp member
  have status : decide (target.status = .active) = true :=
    find?_some (p := fun row : Row => decide (row.status = .active)) active
  exact ⟨own.1, of_decide_eq_true own.2, of_decide_eq_true status⟩

/-- A bind leaves the accounts of the business at the one that it writes. -/
theorem Bound.write {target} (bound : plane.Bound) (member : target ∈ plane.rows)
    (own : target.businessID = businessID)
    (alone : ∀ row ∈ plane.rows, row.businessID = businessID → row.status = .active →
      row.id ≠ target.id → ∀ owner, ownerTelegramUserID row.metadata = some owner → owner = fromID.value)
    (rows : next.rows = plane.rows.map (setMetadata target.id (mergeOwnerID target.metadata fromID)))
    (latest : next.latest = update plane.latest businessID (some fromID.value)) : next.Bound := by
  intro row written active owner carries
  rw [rows] at written
  obtain ⟨before, listed, rfl⟩ := mem_map.mp written
  rw [latest]
  unfold setMetadata at *
  split at active
  · rename_i same
    obtain rfl := inj_on_of_nodup_map plane.distinct listed member same
    rw [if_pos rfl] at carries ⊢
    rw [ownerTelegramUserID_mergeOwnerID] at carries
    rw [own, update_self]
    exact carries
  · rename_i apart
    rw [if_neg apart] at carries ⊢
    by_cases local_ : before.businessID = businessID
    · rw [local_, update_self]
      exact congrArg some (alone before listed local_ active apart owner carries).symm
    · rw [update_of_ne local_]
      exact bound before listed active owner carries

theorem Bound.step (bound : plane.Bound)
    (taken : Guarded (Step deployment) (BindsAlone deployment) plane call next) : next.Bound := by
  obtain ⟨⟨lists, rfl⟩, alone⟩ := taken
  cases call with
  | mint businessID plaintext now inserted =>
    unfold run mint insertToken invalidateAllForBusiness
    dsimp only
    split
    · exact bound
    · split <;> exact bound
  | callback callback now listing policies =>
    unfold run handle
    dsimp only
    split
    · exact bound
    · split <;> exact bound
  | bind token fromID now listing written =>
    obtain ⟨rows, spent⟩ : (plane.spend deployment token fromID now).rows = plane.rows ∧
        (plane.spend deployment token fromID now).Bound := by
      unfold spend consume
      split <;> exact ⟨rfl, bound⟩
    unfold run bind
    dsimp only
    split
    · exact spent
    · rename_i businessID target chosen
      obtain ⟨member, own, _⟩ := bindTarget_spec (lists listing rfl) chosen
      cases written with
      | false => exact spent
      | true =>
        apply bound.write member own (alone businessID target chosen) _ rfl
        exact congrArg (map _) rows

/-- In a bound state only the last account counts as the owner. -/
theorem Bound.owner (bound : plane.Bound) (lists : plane.Lists listing) {rows}
    (listed : listing businessID = some rows) (owner : tapperIsOwner rows fromID = true) :
    plane.latest businessID = some fromID.value := by
  obtain ⟨row, member, accepted⟩ := any_eq_true.mp owner
  obtain ⟨active, carries⟩ := of_decide_eq_true accepted
  have own := mem_filter.mp ((lists _ _ listed).mem_iff.mp member)
  have last := bound row own.1 active _ carries
  rw [of_decide_eq_true own.2] at last
  exact last

/-- What the checks before a resolution have established. -/
theorem authorise_ok {action input}
    (authorised : plane.authorise deployment callback now listing = .ok (action, doc, input)) :
    deployment.Verifies callback.data input.batchID action ∧
    plane.batches input.batchID = some doc ∧ (virtualizeExpiry now doc).status = .pending ∧
    input.decisions = allDecisions (virtualizeExpiry now doc).calls (decisionAction action) ∧
    ∃ businessID rows, deployment.parseUUID (virtualizeExpiry now doc).businessID = some businessID ∧
      listing businessID = some rows ∧ tapperIsOwner rows callback.fromID = true := by
  unfold authorise at authorised
  cases parsed : deployment.parseAndVerify callback.data with
  | error error =>
    rw [parsed] at authorised
    cases authorised
  | ok verified =>
    rw [parsed] at authorised
    simp only [Except.mapError, bind_ok, expect_ok, require_ok, Except.ok.injEq, exists_eq_left'] at authorised
    obtain ⟨found, stored, _, _, _, pending, businessID, parsedID, rows, listed, _, owner, rfl,
      rfl, rfl⟩ := authorised
    exact ⟨Deployment.parseAndVerify_ok parsed, stored, pending, rfl, businessID, rows, parsedID, listed, owner⟩

theorem pending_of_virtualizeExpiry (pending : (virtualizeExpiry now doc).status = .pending) :
    virtualizeExpiry now doc = doc ∧ doc.status = .pending := by
  have either : virtualizeExpiry now doc = doc ∨ (virtualizeExpiry now doc).status = .expired := by
    unfold virtualizeExpiry
    split
    · exact .inl rfl
    split
    · exact .inl rfl
    split
    · exact .inr rfl
    · exact .inl rfl
  rcases either with same | expired
  · rw [same] at pending
    exact ⟨same, pending⟩
  · rw [expired] at pending
    cases pending

/-- A callback changes a batch only by a resolution that was authorised. -/
theorem handle_changes {callback policies batchID}
    (changed : (plane.handle deployment callback now listing policies).1.batches batchID ≠ plane.batches batchID) :
    ∃ action doc input resolved, plane.authorise deployment callback now listing = .ok (action, doc, input) ∧
      input.batchID = batchID ∧ resolveBatch deployment.hitl policies now input doc = .ok resolved ∧
      (plane.handle deployment callback now listing policies).1.batches batchID = some resolved := by
  unfold handle at *
  split at changed
  · exact absurd rfl changed
  · rename_i action doc input authorised
    split at changed
    · exact absurd rfl changed
    · rename_i resolved done
      by_cases same : batchID = input.batchID
      · subst same
        rw [authorised]
        simp only [update_self]
        exact ⟨action, doc, input, resolved, rfl, rfl, done, rfl⟩
      · exact absurd (update_of_ne same ..) changed

end Plane

/-- Where binds find no other account, a callback resolves a batch only if it is pending, the data
verifies and the tap comes from the account bound last. -/
theorem callback_from_latest_owner {first last : Plane} {calls : List Call}
    (unbound : ∀ row ∈ first.rows, ownerTelegramUserID row.metadata = none)
    (run : Run (Guarded (Step deployment) (BindsAlone deployment)) first calls last) :
    (∀ callback now listing policies next batchID,
      Step deployment last (.callback callback now listing policies) next →
      next.batches batchID ≠ last.batches batchID → ∃ action doc businessID input resolved,
          deployment.Verifies callback.data batchID action ∧
          last.batches batchID = some doc ∧ doc.status = .pending ∧
          input.decisions = allDecisions doc.calls (decisionAction action) ∧
          resolveBatch deployment.hitl policies now input doc = .ok resolved ∧
          next.batches batchID = some resolved ∧ deployment.parseUUID doc.businessID = some businessID ∧
          last.latest businessID = some callback.fromID.value) ∧
    (∀ listing businessID rows fromID, last.Lists listing → listing businessID = some rows →
      tapperIsOwner rows fromID = true → last.latest businessID = some fromID.value) := by
  have bound : last.Bound := by
    apply run.invariant _ _
    · intro source call target taken held
      exact held.step taken
    · intro row member _ owner carries
      rw [unbound row member] at carries
      cases carries
  constructor
  · intro callback now listing policies next batchID taken changed
    obtain ⟨lists, rfl⟩ := taken
    obtain ⟨action, doc, input, resolved, authorised, rfl, done, written⟩ := Plane.handle_changes changed
    obtain ⟨verified, stored, pending, decisions, businessID, rows, parsed, listed, owner⟩ :=
      Plane.authorise_ok authorised
    obtain ⟨same, status⟩ := Plane.pending_of_virtualizeExpiry pending
    rw [same] at decisions parsed
    exact ⟨action, doc, businessID, input, resolved, verified, stored, status, decisions, done,
      written, parsed, bound.owner (lists listing rfl) listed owner⟩
  · intro listing businessID rows fromID lists listed owner
    exact bound.owner lists listed owner

end

open Sample

variable {plane : Plane} {rows : List Row} {now : Time}

theorem Sample.lists (order : rows.Perm plane.rows) (own : ∀ row ∈ plane.rows, row.businessID = 1) :
    plane.Lists (listing rows) := by
  intro businessID found listed
  unfold listing at listed
  split at listed
  · rename_i same
    cases listed
    rw [same, filter_eq_self.mpr (fun row member => decide_eq_true (own row member))]
    exact order
  · cases listed

theorem Sample.step_mint {businessID plaintext inserted} :
    Step deployment plane (.mint businessID plaintext now inserted)
      (plane.run deployment (.mint businessID plaintext now inserted)) := by
  constructor
  · intro listing asked
    cases asked
  · rfl

theorem Sample.step_bind {token fromID written}
    (order : rows.Perm plane.rows) (own : ∀ row ∈ plane.rows, row.businessID = 1) :
    Step deployment plane (.bind token fromID now (listing rows) written)
      (plane.run deployment (.bind token fromID now (listing rows) written)) := by
  constructor
  · intro listing asked
    cases asked
    exact lists order own
  · rfl

theorem callback_from_latest_owner_bound :
    Run (Guarded (Step deployment) (BindsAlone deployment)) Sample.plane [firstMint, firstBind] bound ∧
    (bound.handle deployment (tap account) 2 (listing bound.rows) ⟨∅, ∅⟩).2 = .approved ∧
    bound.latest 1 = some 5 := by
  have run : Run (Guarded (Step deployment) (BindsAlone deployment)) Sample.plane [firstMint, firstBind] bound := by
    refine .cons ⟨step_mint, trivial⟩ (.single ⟨?_, ?_⟩)
    · exact step_bind (.refl _) (by decide +kernel)
    · intro _ _ _ row member _ _ _ owner carries
      have unbound : ∀ row ∈ minted.rows, ownerTelegramUserID row.metadata = none := by
        decide +kernel
      rw [unbound row member] at carries
      cases carries
  have owner := (callback_from_latest_owner (by decide +kernel) run).2 (listing bound.rows) 1 bound.rows account
    (lists (.refl _) (by decide +kernel)) rfl (by decide +kernel)
  exact ⟨run, by decide +kernel, owner⟩

/-- Two binds go to different channels, and the first still approves. -/
theorem earlier_owner_still_approves :
    Run (Step deployment) Sample.plane [firstMint, firstBind, secondMint, secondBind] rebound ∧
    rebound.latest 1 = some 6 ∧ rebound.Lists (listing rebound.rows) ∧
    (rebound.handle deployment (tap account) 4 (listing rebound.rows) ⟨∅, ∅⟩).2 = .approved := by
  refine ⟨?_, by decide +kernel, lists (.refl _) (by decide +kernel), by decide +kernel⟩
  refine .cons step_mint <| .cons (step_bind (.refl _) (by decide +kernel)) <|
    .cons step_mint <| .single (step_bind ?_ (by decide +kernel))
  exact reverse_perm _

end OneVoice.OwnerLink
