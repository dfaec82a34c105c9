import OneVoice.Proof.Access.Effects

namespace OneVoice.Access

open Library Domain Function List Tables Table Work

namespace Tables

/-- An active member under the owner role whose account stays. -/
def EffectiveOwner (tables : Tables) (business user : UUID) : Prop :=
  ∃ member account, tables.membership business user = some member ∧ member.status = .active ∧
    member.roleID = systemRoleOwnerID ∧ tables.user user = some account ∧
    account.pendingDeletion = false

/-- The memberships under the owner role, each with its account. -/
def owners (tables : Tables) (business : UUID) : List (Member × Option User) :=
  (tables.members.rows.filter fun member =>
    member.businessID = business ∧ member.roleID = systemRoleOwnerID).map fun member =>
      (member, tables.user member.userID)

end Tables

/-- When an owner leaves, the owners are those that the check has seen, none suspended, and no other
count is under way. -/
def Undisturbed (business : UUID) (server : Server) : Action → Prop
  | .commit id => ∀ session user, server.sessions id = some session → session.work = .requestDeletion user →
      (server.tables.membership business user).any (fun member =>
        member.roleID = systemRoleOwnerID) →
      session.checked.owners business = server.tables.owners business ∧
        (∀ member ∈ server.tables.members.rows, member.businessID = business →
          member.roleID = systemRoleOwnerID → member.status = .active) ∧
        ∀ other open_, server.sessions other = some open_ → open_.view.isSome → ¬ open_.work.mutates business
  | _ => True

/-- The owners whose accounts stay, as the sole-owner check counts them. -/
theorem owners_count (tables : Tables) (business : UUID) :
    (tables.members.rows.countP fun member => member.businessID = business ∧ member.roleID = systemRoleOwnerID ∧
        (tables.user member.userID).any fun account => !account.pendingDeletion) =
      (tables.owners business).countP fun owner => owner.2.any fun account => !account.pendingDeletion := by
  rw [owners, countP_map, countP_filter]
  apply countP_congr
  simp only [Bool.and_eq_true, decide_eq_true_eq]
  tauto

section

variable {now : Time} {view tables next : Tables} {work : Work} {business user : UUID}

/-- An owner whose row and account are left alone stays one. -/
theorem Tables.EffectiveOwner.keep (owner : tables.EffectiveOwner business user)
    (row : next.membership business user = tables.membership business user)
    (account : ∀ account, tables.user user = some account → account.pendingDeletion = false →
      ∃ account, next.user user = some account ∧ account.pendingDeletion = false) :
    next.EffectiveOwner business user := by
  obtain ⟨member, found, membership, active, role, standing, staying⟩ := owner
  obtain ⟨kept, keptFound, keptStaying⟩ := account found standing staying
  exact ⟨member, kept, row.trans membership, active, role, keptFound, keptStaying⟩

/-- A transaction on a snapshot writes no account and no business. -/
theorem apply_frame (repeatable : work.repeatableRead) (applied : work.apply now view tables = .ok next) :
    next.users = tables.users ∧ next.businesses = tables.businesses := by
  cases work with
  | changeRole =>
    simp only [apply, bind_ok] at applied
    obtain ⟨_, _, _, _, _, _, rest⟩ := applied
    split at rest <;> rw [pure_ok] at rest <;> subst rest <;> exact ⟨rfl, rfl⟩
  | removeMember =>
    simp only [apply, bind_ok, pure_ok] at applied
    obtain ⟨_, _, _, _, rfl⟩ := applied
    exact ⟨rfl, rfl⟩
  | deleteRole within id reassignTo =>
    simp only [apply, bind_ok, pure_ok] at applied
    obtain ⟨_, _, _, _, _, _, rfl⟩ := applied
    cases reassignTo <;> exact ⟨rfl, rfl⟩
  | requestDeletion => cases repeatable

/-- The check finds an owner besides the members that the change excludes. -/
theorem remaining_owner {change done} (checked : ensureOwnerExistsAfter view business change = .ok done) :
    ∃ member, change.excludes member = false ∧ member.businessID = business ∧
      (business, member.userID) ∈ view.activeKeys business ∧ view.EffectiveOwner business member.userID := by
  rw [ensureOwnerExistsAfter, require_ok] at checked
  obtain ⟨member, listed, counted⟩ := countP_pos_iff.mp checked
  simp only [decide_eq_true_eq, Bool.not_eq_true] at counted
  obtain ⟨here, active, spared, role, standing⟩ := counted
  cases found : view.user member.userID with
  | none => simp [found] at standing
  | some account =>
    rw [found, Option.any_some, Bool.not_eq_true'] at standing
    refine ⟨member, spared, here, ?_, member, account, ?_, active, role, found, standing⟩
    · rw [activeKeys, mem_map]
      exact ⟨member, mem_filter.mpr ⟨listed, by simp [here, active]⟩, by rw [Member.key, here]⟩
    · rw [membership, find_eq_some]
      exact ⟨listed, by rw [Member.key, here]⟩

/-- A transaction that counts the owners leaves one of them. -/
theorem mutation_keeps_owner (mutates : work.mutates business) (applied : work.apply now view tables = .ok next) :
    ∃ user, view.EffectiveOwner business user ∧ (business, user) ∈ work.locks view ∧
      (business, user) ∉ work.writes view := by
  cases work with
  | changeRole within target role permissions | removeMember within target =>
    obtain rfl : within = business := mutates
    simp only [apply, bind_ok] at applied
    obtain ⟨_, checked, _⟩ := applied
    obtain ⟨member, spared, _, active, owner⟩ := remaining_owner checked
    simp only [OwnerChange.excludes, decide_eq_false_iff_not] at spared
    exact ⟨member.userID, owner, mem_append_left _ active, by simp [writes, spared]⟩
  | deleteRole | requestDeletion => exact mutates.elim

theorem writes_subset_locks (view : Tables) (work : Work) : work.writes view ⊆ work.locks view := by
  cases work <;> intro key listed <;> simp only [locks] <;>
    first | exact mem_append_right _ listed | exact listed

end

/-- The invariant of a server that leaves the owners undisturbed. -/
structure Server.Safe (business : UUID) (server : Server) : Prop where
  live : (server.tables.business business).isSome
  owned : ∃ user, server.tables.EffectiveOwner business user
  consistent : server.locks.Consistent
  viewed : ∀ id session view, server.sessions id = some session → session.view = some view →
    ∃ hold, server.locks.held id = some hold ∧ ∀ key, hold.seen key = server.locks.version key →
      server.tables.members.find key = view.members.find key
  standing : ∀ id session view hold, server.sessions id = some session →
    session.view = some view → server.locks.held id = some hold → session.work.mutates business →
    ∀ user, hold.seen (business, user) = server.locks.version (business, user) →
      view.EffectiveOwner business user → server.tables.EffectiveOwner business user
  checked : ∀ id session user, server.sessions id = some session → session.work = .requestDeletion user →
    session.checked.businesses = server.tables.businesses ∧ session.checked.enumerateSoleOwnerBusinesses user = []
  custom : ∀ id session within role target, server.sessions id = some session →
    session.work = .deleteRole within role target → role ≠ systemRoleOwnerID

section

variable {business : UUID} {server : Server}

variable {hold : Hold (UUID × UUID)} {tables : Tables} {session : Session} {user : UUID} {id : Nat}

theorem sessions_of_set {other new} (found : (server.setSession id new).sessions other = some session) :
    (other = id ∧ new = some session) ∨ (other ≠ id ∧ server.sessions other = some session) := by
  exact cell_update found

/-- A closing step leaves the other sessions and what they hold. -/
theorem fewer_of_close (other open_) (found : (server.setSession id none).sessions other = some open_) :
    server.sessions other = some open_ ∧ update server.locks.held id none other = server.locks.held other := by
  obtain ⟨_, ⟨⟩⟩ | ⟨distinct, old⟩ := sessions_of_set found
  exact ⟨old, update_of_ne distinct ..⟩

theorem safe_enter (safe : server.Safe business) {fails request work}
    (admits : Admits fails server.now server.tables request work) :
    (server.setSession id (some ⟨work, server.tables, none⟩)).Safe business := { safe with
  viewed other session view found viewed := by
    rcases sessions_of_set found with ⟨_, same⟩ | ⟨_, old⟩
    · cases same
      cases viewed
    · exact safe.viewed other session view old viewed
  standing other session view hold found viewed := by
    rcases sessions_of_set found with ⟨_, same⟩ | ⟨_, old⟩
    · cases same
      cases viewed
    · exact safe.standing other session view hold old viewed
  checked other session user found wants := by
    rcases sessions_of_set found with ⟨_, same⟩ | ⟨_, old⟩
    · cases same
      cases admits <;> cases wants
      rename_i admitted
      simp only [admitDeletion, bind_ok, require_ok] at admitted
      obtain ⟨_, _, _, _, _, _, none⟩ := admitted
      exact ⟨rfl, none⟩
    · exact safe.checked other session user old wants
  custom other session within role target found wants := by
    rcases sessions_of_set found with ⟨_, same⟩ | ⟨_, old⟩
    · cases same
      cases admits <;> cases wants
      rename_i admitted
      obtain ⟨existing, known, _, custom⟩ := (admitDeleteRole_ok admitted).1
      rintro rfl
      obtain ⟨listed, named⟩ := find_eq_some.mp known
      rw [server.tables.roles.owner_isSystem listed named] at custom
      cases custom
    · exact safe.custom other session within role target old wants }

theorem safe_snapshot (safe : server.Safe business) (found : server.sessions id = some session) :
    { server.setSession id (some { session with view := some server.tables }) with
      locks := server.locks.snapshot id }.Safe business := { safe with
  consistent := safe.consistent.snapshot
  viewed other open_ view listed viewed := by
    rcases sessions_of_set listed with ⟨rfl, same⟩ | ⟨distinct, old⟩
    · cases same
      cases viewed
      exact ⟨_, update_self .., fun _ _ => rfl⟩
    · obtain ⟨hold, held, agrees⟩ := safe.viewed other open_ view old viewed
      exact ⟨hold, (update_of_ne distinct ..).trans held, agrees⟩
  standing other open_ view hold listed viewed held mutates := by
    rcases sessions_of_set listed with ⟨rfl, same⟩ | ⟨distinct, old⟩
    · cases same
      cases viewed
      exact fun _ _ owner => owner
    · have before : server.locks.held other = some hold := (update_of_ne distinct ..).symm.trans held
      exact safe.standing other open_ view hold old viewed before mutates
  checked other open_ user listed wants := by
    rcases sessions_of_set listed with ⟨_, same⟩ | ⟨_, old⟩
    · cases same
      exact safe.checked id session user found wants
    · exact safe.checked other open_ user old wants
  custom other open_ within role target listed wants := by
    rcases sessions_of_set listed with ⟨_, same⟩ | ⟨_, old⟩
    · cases same
      exact safe.custom id session within role target found wants
    · exact safe.custom other open_ within role target old wants }

section

variable (safe : server.Safe business)

include safe

theorem safe_lock {key} (mine : server.locks.held id = some hold)
    (free : server.locks.Free id key) (fresh : hold.seen key = server.locks.version key) :
    { server with locks := server.locks.lock id hold key }.Safe business := { safe with
  consistent := safe.consistent.lock mine free fresh
  viewed other open_ view listed viewed := by
    obtain ⟨before, held, agrees⟩ := safe.viewed other open_ view listed viewed
    by_cases same : other = id
    · subst same
      rw [mine] at held
      cases held
      exact ⟨_, update_self .., agrees⟩
    · exact ⟨before, (update_of_ne same ..).trans held, agrees⟩
  standing other open_ view now listed viewed held mutates user seen := by
    -- A lock adds to what is locked and not to what was seen.
    obtain ⟨rfl, ⟨⟩⟩ | ⟨_, old⟩ := cell_update held
    · exact safe.standing other open_ view hold listed viewed mine mutates user seen
    · exact safe.standing other open_ view now listed viewed old mutates user seen }

/-- A step that opens no session keeps the invariant if it keeps what the open ones rely on. -/
theorem safe_close {sessions locks}
    (fewer : ∀ other open_, sessions other = some open_ →
      server.sessions other = some open_ ∧ locks.held other = server.locks.held other)
    (businesses : tables.businesses = server.tables.businesses)
    (owned : ∃ user, tables.EffectiveOwner business user) (consistent : locks.Consistent)
    (rows : ∀ other hold, server.locks.held other = some hold → ∀ key, hold.seen key = locks.version key →
      hold.seen key = server.locks.version key ∧ tables.members.find key = server.tables.members.find key)
    (accounts : ∀ other open_ view, server.sessions other = some open_ → open_.view = some view →
      open_.work.mutates business → ∀ user,
      tables.membership business user = server.tables.membership business user →
      server.tables.EffectiveOwner business user → tables.EffectiveOwner business user) :
    { server with sessions := sessions, tables := tables, locks := locks }.Safe business where
  live := by
    have same := safe.live
    show ((tables.businesses.find business).filter _).isSome
    rw [businesses]
    exact same
  owned := owned
  consistent := consistent
  viewed other open_ view listed viewed := by
    obtain ⟨old, same⟩ := fewer other open_ listed
    obtain ⟨hold, held, agrees⟩ := safe.viewed other open_ view old viewed
    refine ⟨hold, same.trans held, ?_⟩
    intro key seen
    obtain ⟨before, kept⟩ := rows other hold held key seen
    exact kept.trans (agrees key before)
  standing other open_ view hold listed viewed held mutates user seen owner := by
    obtain ⟨old, same⟩ := fewer other open_ listed
    have held := same.symm.trans held
    obtain ⟨before, kept⟩ := rows other hold held _ seen
    exact accounts other open_ view old viewed mutates user kept
      (safe.standing other open_ view hold old viewed held mutates user before owner)
  checked other open_ user listed wants := by
    obtain ⟨same, none⟩ := safe.checked other open_ user (fewer other open_ listed).1 wants
    exact ⟨same.trans businesses.symm, none⟩
  custom other open_ within role target listed :=
    safe.custom other open_ within role target (fewer other open_ listed).1

theorem safe_rollback (id : Nat) :
    { server.setSession id none with locks := server.locks.close id }.Safe business :=
  safe_close safe fewer_of_close rfl safe.owned safe.consistent.close (fun _ _ _ _ seen => ⟨seen, rfl⟩)
    fun _ _ _ _ _ _ _ _ owner => owner

section

variable {view : Tables} (found : server.sessions id = some session)
    (repeatable : session.work.repeatableRead) (viewed : session.view = some view)
    (held : server.locks.held id = some hold)

include found repeatable viewed held

/-- A transaction that spares the owners writes no row of an owner. -/
theorem safe_unwritten (fresh : ∀ key ∈ session.work.locks view, hold.seen key = server.locks.version key)
    (spares : ¬ session.work.mutates business) (owner : server.tables.EffectiveOwner business user) :
    (business, user) ∉ session.work.writes view := by
  intro written
  cases work : session.work with
  | changeRole within target role permissions | removeMember within target =>
    rw [work] at written spares
    simp only [writes, mem_singleton, Prod.mk.injEq] at written
    exact spares written.1.symm
  | deleteRole within role target =>
    have custom := safe.custom id session within role target found work
    have current := fresh _ (writes_subset_locks view session.work written)
    obtain ⟨_, same, agrees⟩ := safe.viewed id session view found viewed
    rw [held] at same
    cases same
    obtain ⟨member, _, membership, _, owns, _⟩ := owner
    rw [Tables.membership, agrees _ current] at membership
    rw [work] at written
    cases target with
    | none => cases written
    | some new =>
      obtain ⟨row, listed, key⟩ := mem_map.mp written
      obtain ⟨rowListed, holds⟩ := mem_filter.mp listed
      simp only [decide_eq_true_eq] at holds
      rw [find_eq_some.mpr ⟨rowListed, key⟩] at membership
      cases membership
      exact custom (holds.2.symm.trans owns)
  | requestDeletion => simp [work, repeatableRead] at repeatable

/-- A transaction commits on rows it has locked, so its check holds. -/
theorem safe_commit (locked : ∀ key ∈ session.work.locks view, key ∈ hold.locked)
    (applied : session.work.apply server.now view server.tables = .ok tables) :
    { server.setSession id none with
      tables := tables, locks := server.locks.write id (session.work.writes view) }.Safe
        business := by
  have frame := members_of_apply applied
  obtain ⟨users, businesses⟩ := apply_frame repeatable applied
  have kept : ∀ user, tables.membership business user = server.tables.membership business user →
      server.tables.EffectiveOwner business user → tables.EffectiveOwner business user := by
    intro user same owner
    refine owner.keep same ?_
    intro account known staying
    exact ⟨account, by rw [Tables.user, users]; exact known, staying⟩
  have fresh : ∀ key ∈ session.work.locks view, hold.seen key = server.locks.version key :=
    fun key listed => safe.consistent.current id hold held key (locked key listed)
  refine safe_close safe fewer_of_close businesses ?_ ?_ ?_ ?_
  · by_cases mutates : session.work.mutates business
    · obtain ⟨user, owner, listed, spared⟩ := mutation_keeps_owner mutates applied
      exact ⟨user, kept user (frame _ spared) (safe.standing id session view hold found viewed held mutates user
        (fresh _ listed) owner)⟩
    · obtain ⟨user, owner⟩ := safe.owned
      have spared := safe_unwritten safe found repeatable viewed held fresh mutates owner
      exact ⟨user, kept user (frame _ spared) owner⟩
  · apply safe.consistent.write held
    exact fun key written => locked key (writes_subset_locks view session.work written)
  · intro other otherHold otherHeld key seen
    obtain ⟨spared, before⟩ := safe.consistent.unwritten otherHeld seen
    exact ⟨before, frame key spared⟩
  · intro _ _ _ _ _ _ user
    exact kept user

end

end

/-- A deletion request leaves every other account as it is. -/
theorem deletion_keeps_others {now other next}
    (served : tables.deletionInTx now user = .ok next) (distinct : other ≠ user)
    (owner : tables.EffectiveOwner business other) : next.EffectiveOwner business other := by
  simp only [deletionInTx, bind_ok, pure_ok] at served
  obtain ⟨_, _, _, _, rfl⟩ := served
  refine owner.keep rfl ?_
  intro account known staying
  refine ⟨account, ?_, staying⟩
  simp only [Tables.user, Tables.revokeSent, Tables.revokeWhere, Tables.requestDeletionInTx,
    find_updateWhere] at known ⊢
  have named : account.id ≠ user := by
    rw [(find_eq_some.mp known).2]
    exact distinct
  simp [known, named]

section

variable (safe : server.Safe business) (guard : Undisturbed business server (.commit id))
    (found : server.sessions id = some session) (wants : session.work = .requestDeletion user)

include safe guard found wants

/-- A check that has seen the present owners has seen another effective one besides the account
holder. -/
theorem another_owner (owner : server.tables.EffectiveOwner business user) :
    ∃ other ≠ user, server.tables.EffectiveOwner business other := by
  obtain ⟨member, account, membership, _, owns, known, staying⟩ := owner
  obtain ⟨same, active, _⟩ := guard session user found wants (by simp [membership, owns])
  obtain ⟨businesses, passed⟩ := safe.checked id session user found wants
  obtain ⟨listed, key⟩ := find_eq_some.mp membership
  obtain ⟨here, mine⟩ := Prod.mk.inj key
  let counted : Member → Bool := fun member =>
    member.businessID = business ∧ member.roleID = systemRoleOwnerID ∧
      (server.tables.user member.userID).any fun account => !account.pendingDeletion
  have positive : 0 < server.tables.members.rows.countP counted := by
    apply countP_pos_iff.mpr
    exact ⟨member, listed, by simp [counted, here, owns, mine, known, staying]⟩
  have seen : (member, server.tables.user member.userID) ∈ session.checked.owners business := by
    rw [same]
    exact mem_map.mpr ⟨member, mem_filter.mpr ⟨listed, by simp [here, owns]⟩, rfl⟩
  have before : session.checked.membership business user = some member := by
    obtain ⟨row, rowListed, rowSame⟩ := mem_map.mp seen
    obtain ⟨rfl, _⟩ := Prod.mk.inj rowSame
    exact find_eq_some.mpr ⟨(mem_filter.mp rowListed).1, key⟩
  obtain ⟨row, live⟩ := Option.isSome_iff_exists.mp safe.live
  obtain ⟨rowListed, rowNamed⟩ := find_eq_some.mp (Option.filter_eq_some_iff.mp live).1
  have several : server.tables.members.rows.countP counted ≠ 1 := by
    intro single
    have unlisted := filter_eq_nil_iff.mp passed row (businesses ▸ rowListed)
    apply unlisted
    rw [rowNamed, before, owners_count, same, ← owners_count]
    simp only [Option.any_some, owns, true_and, decide_eq_true_eq]
    exact single
  obtain ⟨other, otherListed, otherCounted, distinct⟩ :=
    server.tables.members.exists_other counted (by omega) (business, user)
  simp only [counted, decide_eq_true_eq] at otherCounted
  obtain ⟨otherHere, otherOwns, otherStaying⟩ := otherCounted
  cases otherKnown : server.tables.user other.userID with
  | none => simp [otherKnown] at otherStaying
  | some otherAccount =>
    refine ⟨other.userID, fun equal => distinct (by rw [Member.key, otherHere, equal]), other,
      otherAccount, ?_, active other otherListed otherHere otherOwns, otherOwns, otherKnown,
      by simpa [otherKnown] using otherStaying⟩
    exact find_eq_some.mpr ⟨otherListed, by rw [Member.key, otherHere]⟩

/-- A deletion request commits if the guard holds, and spares the last owner. -/
theorem safe_deletion (served : server.tables.deletionInTx server.now user = .ok tables) :
    { server.setSession id none with tables := tables }.Safe business := by
  have shape : tables.businesses = server.tables.businesses ∧ tables.members = server.tables.members := by
    simp only [deletionInTx, bind_ok, pure_ok] at served
    obtain ⟨_, _, _, _, rfl⟩ := served
    exact ⟨rfl, rfl⟩
  apply safe_close safe (fun _ _ listed => ⟨(fewer_of_close _ _ listed).1, rfl⟩) shape.1 _ safe.consistent
  · intro other hold _ key seen
    exact ⟨seen, by rw [shape.2]⟩
  · intro other open_ view listed viewed mutates candidate _ owner
    by_cases same : candidate = user
    · subst same
      obtain ⟨member, _, membership, _, owns, _⟩ := owner
      obtain ⟨_, _, calm⟩ := guard session candidate found wants (by simp [membership, owns])
      exact absurd mutates (calm other open_ listed (by simp [viewed]))
    · exact deletion_keeps_others served same owner
  · obtain ⟨candidate, owner⟩ := safe.owned
    by_cases same : candidate = user
    · subst same
      obtain ⟨other, distinct, otherOwner⟩ := another_owner safe guard found wants owner
      exact ⟨other, deletion_keeps_others served distinct otherOwner⟩
    · exact ⟨candidate, deletion_keeps_others served same owner⟩

end

/-- A cancellation only brings accounts back. -/
theorem cancellation_keeps_owner {now candidate next} (served : tables.cancelDeletion now user = .ok next)
    (owner : tables.EffectiveOwner business candidate) : next.EffectiveOwner business candidate := by
  obtain rfl := cancelDeletion_ok served
  refine owner.keep rfl ?_
  intro account known staying
  simp only [Tables.user, find_updateWhere] at known ⊢
  rw [known, Option.map_some]
  refine ⟨_, rfl, ?_⟩
  split
  · simp [User.pendingDeletion]
  · exact staying

theorem safe_cancellation (safe : server.Safe business)
    (served : server.tables.cancelDeletion server.now user = .ok tables) :
    { server with tables := tables }.Safe business := by
  have shape : tables.businesses = server.tables.businesses ∧ tables.members = server.tables.members := by
    rw [cancelDeletion_ok served]
    exact ⟨rfl, rfl⟩
  obtain ⟨candidate, owner⟩ := safe.owned
  apply safe_close safe (fun _ _ listed => ⟨listed, rfl⟩) shape.1
    ⟨candidate, cancellation_keeps_owner served owner⟩ safe.consistent
  · intro _ _ _ key seen
    exact ⟨seen, by rw [shape.2]⟩
  · intro _ _ _ _ _ _ _ _ owner
    exact cancellation_keeps_owner served owner

theorem safe_step {next action} (taken : Guarded Server.Step (Undisturbed business) server action next)
    (safe : server.Safe business) : next.Safe business := by
  obtain ⟨taken, guard⟩ := taken
  cases taken with
  | enter _ admits => exact safe_enter safe admits
  | snapshot found _ _ => exact safe_snapshot safe found
  | lock _ _ _ mine free fresh => exact safe_lock safe mine free fresh
  | commit found repeatable viewed held locked applied =>
    exact safe_commit safe found repeatable viewed held locked applied
  | commitReadCommitted found committed applied =>
    rename_i id session tables
    cases work : session.work with
    | requestDeletion user =>
      rw [work] at applied
      exact safe_deletion safe guard found work applied
    | _ => simp [work, repeatableRead] at committed
  | rollback => exact safe_rollback safe _
  | cancelDeletion served => exact safe_cancellation safe served
  | passed => exact ⟨safe.live, safe.owned, safe.consistent, safe.viewed, safe.standing, safe.checked, safe.custom⟩

end

/-- Where an owner's account deletion commits only while the owners are undisturbed, a live business
keeps an effective owner. -/
theorem live_business_keeps_owner {business : UUID} {tables : Tables} {now : Time} {final : Server}
    {actions : List Action} (live : (tables.business business).isSome)
    (owned : ∃ user, tables.EffectiveOwner business user)
    (run : Run (Guarded Server.Step (Undisturbed business)) (.idle tables now) actions final) :
    (final.tables.business business).isSome ∧ ∃ user, final.tables.EffectiveOwner business user := by
  have start : (Server.idle tables now).Safe business := by
    refine ⟨live, owned, ⟨?_, ?_, ?_⟩, ?_, ?_, ?_, ?_⟩ <;> intros <;> contradiction
  have safe : final.Safe business := by
    apply run.invariant _ start
    intro first action last taken
    exact safe_step taken
  exact ⟨safe.live, safe.owned⟩

open Sample

theorem Sample.owned : ∃ user, tables.EffectiveOwner 10 user := ⟨20, _, _, rfl, rfl, rfl, rfl, rfl⟩

/-- An owner who leaves alone leaves the business to the other one. -/
theorem live_business_keeps_owner_alone :
    ∃ final, Run (Guarded Server.Step (Undisturbed 10)) (.idle tables 1000)
        [.enter 0 false (.requestDeletion 20 true ""), .commit 0] final ∧
      ∃ user, final.tables.EffectiveOwner 10 user := by
  exact Run.reaches
    (.cons ⟨.enter rfl (.requestDeletion rfl), trivial⟩ <|
      .cons ⟨.commitReadCommitted rfl rfl rfl, by
        intro session user found wants _
        cases found
        refine ⟨rfl, by decide, ?_⟩
        intro other open_ listed viewed
        rcases sessions_of_set listed with ⟨_, same⟩ | ⟨_, old⟩
        · cases same
          cases viewed
        · cases old⟩ <| .nil _)
    fun run => (live_business_keeps_owner rfl owned run).2

/-- A check over the rows decides whether a business has no owner. -/
theorem ownerless {tables : Tables} {business : UUID} (none : tables.members.rows.all fun member =>
      !(member.businessID = business ∧ member.status = .active ∧ member.roleID = systemRoleOwnerID ∧
        (tables.user member.userID).any fun account => !account.pendingDeletion)) :
    ¬ ∃ user, tables.EffectiveOwner business user := by
  rintro ⟨user, member, account, membership, active, owns, known, staying⟩
  obtain ⟨listed, key⟩ := find_eq_some.mp membership
  obtain ⟨here, mine⟩ := Prod.mk.inj key
  have counted := all_eq_true.mp none member listed
  simp [here, active, owns, mine, known, staying] at counted

/-- Only one transaction is open. -/
def Sample.Alone (locks : Locks Nat (UUID × UUID)) (id : Nat) : Prop := ∀ other ≠ id, locks.held other = none

section

variable {locks : Locks Nat (UUID × UUID)} {id : Nat}

theorem Sample.Alone.free (alone : Alone locks id) (key : UUID × UUID) : locks.Free id key := by
  intro other hold distinct held
  rw [alone other distinct] at held
  cases held

theorem Sample.Alone.snapshot (alone : Alone locks id) : Alone (locks.snapshot id) id := by
  intro other distinct
  exact (update_of_ne distinct ..).trans (alone other distinct)

theorem Sample.Alone.lock {hold key} (alone : Alone locks id) : Alone (locks.lock id hold key) id := by
  intro other distinct
  exact (update_of_ne distinct ..).trans (alone other distinct)

end

/-- The sample business with one of its owners suspended. -/
def Sample.suspended : Tables :=
  { tables with
    members := ⟨[⟨10, 20, systemRoleOwnerID, .active⟩, ⟨10, 21, systemRoleOwnerID, .suspended⟩],
      by decide⟩ }

/-- Two owners leave at once, one past a demotion, one past a suspension. -/
theorem live_business_loses_owner :
    (∃ final, Run Server.Step (.idle tables 1000)
        [.enter 0 false (.requestDeletion 20 true ""), .enter 1 false (.requestDeletion 21 true ""),
          .commit 0, .commit 1] final ∧ ¬ ∃ user, final.tables.EffectiveOwner 10 user) ∧
    (∃ final, Run Server.Step (.idle tables 1000)
        [.enter 0 false (.updateMemberRole 10 21 20 30), .snapshot 0, .lock 0 (10, 20),
          .lock 0 (10, 21), .lock 0 (10, 22), .enter 1 false (.requestDeletion 21 true ""),
          .commit 1, .commit 0] final ∧ ¬ ∃ user, final.tables.EffectiveOwner 10 user) ∧
    ∃ final, Run Server.Step (.idle suspended 1000)
        [.enter 0 false (.requestDeletion 20 true ""), .commit 0] final ∧
      ¬ ∃ user, final.tables.EffectiveOwner 10 user := by
  have alone : Alone (Server.idle tables 1000).locks 0 := fun _ _ => rfl
  exact ⟨⟨_,
    .cons (.enter rfl (.requestDeletion rfl)) <| .cons (.enter rfl (.requestDeletion rfl)) <|
      .cons (.commitReadCommitted rfl rfl rfl) <| .cons (.commitReadCommitted rfl rfl rfl) <| .nil _,
    ownerless (by decide)⟩, ⟨_,
    .cons (.enter rfl (.changeRole rfl rfl)) <| .cons (.snapshot rfl rfl rfl) <|
      .cons (.lock rfl rfl (by decide) rfl (alone.snapshot.free _) rfl) <|
      .cons (.lock rfl rfl (by decide) rfl (alone.snapshot.lock.free _) rfl) <|
      .cons (.lock rfl rfl (by decide) rfl (alone.snapshot.lock.lock.free _) rfl) <|
      .cons (.enter rfl (.requestDeletion rfl)) <| .cons (.commitReadCommitted rfl rfl rfl) <|
      .cons (.commit rfl rfl rfl rfl (by
        show ∀ key ∈ ( [(10, 20), (10, 21), (10, 22), (10, 20)] : List (UUID × UUID)),
          key ∈ ( [(10, 22), (10, 21), (10, 20)] : List (UUID × UUID))
        simp) rfl) <| .nil _,
    ownerless (by decide)⟩, _,
    .cons (.enter rfl (.requestDeletion rfl)) <| .cons (.commitReadCommitted rfl rfl rfl) <| .nil _,
    ownerless (by decide)⟩

end OneVoice.Access
