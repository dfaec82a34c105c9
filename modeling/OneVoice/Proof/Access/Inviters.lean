import OneVoice.Proof.Access.Effects

namespace OneVoice.Access

open Library Domain Tables Table

/-- The creator's role grants invitations, and the account stays. -/
def Tables.Backs (tables : Tables) (invitation : Invitation) : Prop :=
  (∃ member role, tables.membership invitation.businessID invitation.createdBy = some member ∧
      tables.role member.roleID = some role ∧ permMembersInvite ∈ role.permissions) ∧
    ¬ (tables.user invitation.createdBy).any User.pendingDeletion

variable (state : State)

def State.Backed : Prop :=
  ∀ invitation ∈ state.tables.invitations.rows, invitation.pending state.now → state.tables.Backs invitation

/-- No pending invitation was created by a member who holds the role. -/
def State.NoInviter (roleID : UUID) : Prop :=
  ∀ invitation ∈ state.tables.invitations.rows, invitation.pending state.now →
    ∀ member, state.tables.membership invitation.businessID invitation.createdBy = some member →
      member.roleID ≠ roleID

/-- Edits and reassignments take the right to invite only from members without pending invitations.
-/
def KeepsInviters : Event → Prop
  | .served _ (.updateRole _ _ id body) =>
    permMembersInvite ∈ body.permissions ∨ state.NoInviter id
  | .served _ (.deleteRole _ _ id (some new)) =>
    (∃ role, state.tables.role new = some role ∧ permMembersInvite ∈ role.permissions) ∨ state.NoInviter id
  | .served fails (.createInvitation ..) => fails = false
  | _ => True

section

variable {now : Time} {tables next : Tables} {new old : Invitation}

theorem Tables.Backs.descend (backs : tables.Backs old) (descends : new.From now old) : tables.Backs new := by
  unfold Tables.Backs
  rw [descends.business, descends.creator]
  exact backs

/-- An invitation stays backed by a member who keeps the right to invite. -/
theorem Tables.Backs.keep (backs : tables.Backs old)
    (inviter : ∀ member role, tables.membership old.businessID old.createdBy = some member →
      tables.role member.roleID = some role → permMembersInvite ∈ role.permissions →
      ∃ member role, next.membership old.businessID old.createdBy = some member ∧
        next.role member.roleID = some role ∧ permMembersInvite ∈ role.permissions)
    (account : ¬ (tables.user old.createdBy).any User.pendingDeletion →
      ¬ (next.user old.createdBy).any User.pendingDeletion) : next.Backs old := by
  obtain ⟨⟨member, role, found, granted, invites⟩, standing⟩ := backs
  exact ⟨inviter member role found granted invites, account standing⟩

theorem updateRole_backs {id name description proposed} (backs : tables.Backs old)
    (safe : permMembersInvite ∈ proposed ∨
      ∀ member, tables.membership old.businessID old.createdBy = some member → member.roleID ≠ id) :
    { tables with roles := tables.roles.update id name description proposed }.Backs old := by
  refine backs.keep ?_ fun standing => standing
  intro member role found granted invites
  have edited := RoleTable.find_update tables.roles id name description proposed member.roleID
  rw [Tables.role] at granted
  rw [granted, Option.map_some] at edited
  refine ⟨member, _, found, edited, ?_⟩
  split
  · rename_i changed
    simp only [RoleTable.custom, Bool.and_eq_true, decide_eq_true_eq] at changed
    have named : role.id = member.roleID := (find_eq_some.mp granted).2
    exact safe.resolve_right fun spared => spared member found (named.symm.trans changed.1)
  · exact invites

section

variable (backs : tables.Backs old)

include backs

theorem deleteRole_backs {within id target}
    (free : ((tables.reassigned within id target).detachTerminalInvitations now id).references id = false)
    (other : ∀ new, target = some new → new ≠ id)
    (safe : ∀ new, target = some new →
      (∃ role, tables.role new = some role ∧ permMembersInvite ∈ role.permissions) ∨
      ∀ member, tables.membership old.businessID old.createdBy = some member → member.roleID ≠ id) :
    { (tables.reassigned within id target).detachTerminalInvitations now id with
      roles := tables.roles.delete id }.Backs old := by
  refine backs.keep ?_ ?_
  · intro member role found granted invites
    have left : ∀ row, (tables.reassigned within id target).membership old.businessID
        old.createdBy = some row → row.roleID ≠ id := by
      intro row rowFound same
      rw [references, Bool.or_eq_false_iff, List.any_eq_false] at free
      exact free.1 row (find_eq_some.mp rowFound).1 (by simpa using same)
    cases target with
    | none => exact ⟨member, role, found, role_delete granted (left member found), invites⟩
    | some new =>
      -- The reassignment finds the deleted role's holders and nobody else.
      have after := tables.members.find_updateWhere (fun member => member.businessID = within ∧ member.roleID = id)
        (fun member => { member with roleID := new }) (fun _ => rfl) (old.businessID, old.createdBy)
      rw [show tables.members.find _ = some member from found, Option.map_some] at after
      split at after
      · rename_i holds
        obtain ⟨newRole, newFound, newInvites⟩ :=
          (safe new rfl).resolve_right fun spared => spared member found (by simp_all)
        exact ⟨_, newRole, after, role_delete newFound (other new rfl), newInvites⟩
      · exact ⟨member, role, after, role_delete granted (left member after), invites⟩
  · cases target <;> exact fun standing => standing

theorem setMemberRole_backs {business target roleID role} (granted : tables.role roleID = some role)
    (spared : permMembersInvite ∈ role.permissions ∨ ¬ (old.businessID = business ∧ old.createdBy = target)) :
    (tables.setMemberRole now business target roleID role.permissions).Backs old := by
  refine backs.keep ?_ ?_
  · intro member current found held invites
    have after : (tables.setMemberRole now business target roleID role.permissions).membership
        old.businessID old.createdBy = some (if (old.businessID, old.createdBy) = (business, target)
          then { member with roleID := roleID } else member) := by
      have key : member.key = (old.businessID, old.createdBy) := (find_eq_some.mp found).2
      rw [membership] at found
      rw [membership, setMemberRole_members, updateRoleInTx, find_updateWhere, found, Option.map_some, key]
      simp only [decide_eq_true_eq]
    have same : (tables.setMemberRole now business target roleID role.permissions).role = tables.role := by
      funext id
      rw [Tables.role, setMemberRole_roles, Tables.role]
    rw [same]
    split at after
    · rename_i changed
      refine ⟨_, role, after, granted, spared.resolve_right fun spared => spared ?_⟩
      exact Prod.mk.inj changed
    · exact ⟨member, current, after, held, invites⟩
  · unfold setMemberRole
    split <;> exact fun standing => standing

theorem dropMember_backs {business target} (spared : ¬ (old.businessID = business ∧ old.createdBy = target)) :
    (tables.dropMember now business target).Backs old := by
  refine backs.keep ?_ fun standing => standing
  intro member role found held invites
  refine ⟨member, role, (find_deleteWhere_of_spared ?_).trans found, held, invites⟩
  intro row key
  rw [key]
  simpa using spared

theorem requestDeletion_backs {user} (spared : old.createdBy ≠ user) :
    ((tables.requestDeletionInTx now user).revokeSent now user).Backs old := by
  refine backs.keep (fun member role found held invites =>
    ⟨member, role, found, held, invites⟩) ?_
  intro standing
  simp only [Tables.user, Tables.revokeSent, Tables.revokeWhere, Tables.requestDeletionInTx]
  rw [find_updateWhere_of_spared]
  · exact standing
  · rintro row named
    simp [named, spared]

theorem cancelDeletion_backs {user} :
    { tables with
      users := tables.users.updateWhere (restorable now user)
        (fun row => { row with deletionCanceledAt := some now }) fun _ => rfl }.Backs old := by
  refine backs.keep (fun member role found held invites =>
    ⟨member, role, found, held, invites⟩) ?_
  intro standing
  simp only [Tables.user, find_updateWhere] at standing ⊢
  cases account : tables.users.find old.createdBy with
  | none => simp
  | some row =>
    rw [account] at standing
    simp only [Option.map_some]
    split
    · simp [User.pendingDeletion]
    · simpa using standing

end

end

/-- Requests of the condition keep the invitations backed. -/
theorem backed_served {state fails request next} (served : perform fails state.now state.tables request = .ok next)
    (guard : KeepsInviters state (.served fails request)) (backed : state.Backed) :
    { state with tables := next }.Backed := by
  intro invitation listed pending
  cases effect_of_perform served with
  | createRole _ inserted =>
    refine (backed invitation listed pending).keep ?_ fun standing => standing
    intro member role found granted invites
    exact ⟨member, role, found, find_kept (RoleTable.table_of_insert inserted) granted, invites⟩
  | @updateRole _ _ _ body _ _ _ _ proposed _ _ _ _ valid =>
    have covers : body.permissions ⊆ proposed := by
      simp only [RoleBody.validate, bind_ok] at valid
      obtain ⟨_, _, _, _, _, _, typed⟩ := valid
      exact toTypedPerms_covers typed
    apply updateRole_backs (backed invitation listed pending)
    rcases guard with grants | spared
    · exact .inl (covers grants)
    · exact .inr (spared invitation listed pending)
  | @deleteRole _ _ _ _ target _ _ chosen _ free =>
    obtain ⟨old, oldListed, descends⟩ := detachTerminalInvitations_from listed
    have before : old ∈ state.tables.invitations.rows := by cases target <;> exact oldListed
    have backs := backed old before (descends.pending pending)
    refine .descend (deleteRole_backs backs free (fun new named => (chosen new named).2.1) ?_) descends
    intro new named
    rw [(chosen new named).1] at guard
    exact guard.imp_right fun spared => spared old before (descends.pending pending)
  | updateMemberRole _ granted =>
    unfold setMemberRole at listed
    split at listed
    · rename_i invites
      exact setMemberRole_backs (backed invitation listed pending) granted (.inl invites)
    · obtain ⟨old, oldListed, descends, spared⟩ := revokeWhere_from listed
      apply Tables.Backs.descend _ descends
      apply setMemberRole_backs (backed old oldListed (descends.pending pending)) granted
      exact .inr (by simpa using spared pending)
  | removeMember =>
    obtain ⟨old, oldListed, descends, spared⟩ := revokeWhere_from listed
    apply Tables.Backs.descend _ descends
    apply dropMember_backs (backed old oldListed (descends.pending pending))
    simpa using spared pending
  | createInvitation admitted invites _ _ _ inserted business _ creator =>
    rw [(rows_of_insert inserted).1] at listed
    rcases List.mem_cons.mp listed with rfl | old
    · obtain ⟨gate, member, role, found, _, granted, rfl⟩ := contextFor_ok admitted
      unfold Tables.Backs
      rw [business, creator]
      have answered : fails = false := guard
      exact ⟨⟨member, role, found, granted, invites⟩, gate.resolve_left (by simp [answered])⟩
    · exact backed invitation old pending
  | accept _ _ _ inserted =>
    obtain ⟨old, oldListed, descends⟩ := markAccepted_from listed
    apply Tables.Backs.descend _ descends
    refine (backed old oldListed (descends.pending pending)).keep ?_ fun standing => standing
    intro member role found granted invites
    exact ⟨member, role, find_kept inserted found, granted, invites⟩
  | requestDeletion =>
    obtain ⟨old, oldListed, descends, spared⟩ := revokeWhere_from listed
    apply Tables.Backs.descend _ descends
    apply requestDeletion_backs (backed old oldListed (descends.pending pending))
    simpa using spared pending
  | cancelDeletion served =>
    obtain rfl := cancelDeletion_ok served
    exact cancelDeletion_backs (backed invitation listed pending)

theorem backed_step {first last event}
    (taken : Guarded Step KeepsInviters first event last) (backed : first.Backed) : last.Backed := by
  obtain ⟨taken, guard⟩ := taken
  cases taken with
  | served served => exact backed_served served guard backed
  | refused => exact backed
  | passed duration =>
    intro invitation listed pending
    apply backed invitation listed
    simp only [Invitation.pending, Bool.and_eq_true, decide_eq_true_eq] at pending ⊢
    exact ⟨pending.1, Nat.lt_of_le_of_lt (Nat.le_add_right _ _) pending.2⟩

/-- While no edit or reassignment takes the right to invite from a member with pending invitations,
they stay backed by their creators. -/
theorem pending_invitations_backed {start final : State} {events : List Event}
    (backed : start.Backed) (run : Run (Guarded Step KeepsInviters) start events final) :
    final.Backed := by
  apply run.invariant _ backed
  intro first event last taken
  exact backed_step taken

/-- The manager has invited a reader. -/
def Sample.invited : State where
  tables := { Sample.tables with
    invitations := ⟨[⟨40, 10, some 31, "token", 5000, none, none, 22⟩], by decide⟩ }
  now := 1000

theorem Sample.invited_backed : Sample.invited.Backed := by
  intro invitation listed pending
  rcases List.mem_cons.mp listed with rfl | none
  · exact ⟨⟨_, Sample.managerRole, rfl, rfl, by decide⟩, by decide⟩
  · cases none

/-- An invitation outlasts the loss of the right, and the role. -/
theorem pending_invitations_outlast_authority :
    Sample.invited.Backed ∧
      (∃ final, Run Step Sample.invited
          [.served false (.updateRole 10 20 30 ⟨"manager", none, ["content.read"]⟩)] final ∧
        ¬ final.Backed) ∧
      ∃ final, Run Step Sample.invited [.served false (.deleteRole 10 20 30 (some 31))] final ∧ ¬ final.Backed := by
  refine ⟨Sample.invited_backed, ⟨_, .single (.served rfl), ?_⟩, ⟨_, .single (.served rfl), ?_⟩⟩ <;>
  · intro backed
    obtain ⟨⟨member, role, found, granted, invites⟩, _⟩ := backed _ (.head _) (by decide)
    cases found
    cases granted
    revert invites
    decide

/-- An edit that leaves the right to invite leaves the invitation backed. -/
theorem pending_invitations_backed_edit :
    ∃ final, Run (Guarded Step KeepsInviters) Sample.invited
        [.served false (.updateRole 10 20 30 ⟨"manager", none, ["members.invite"]⟩)] final ∧
      final.Backed := by
  exact Run.reaches (.single ⟨.served rfl, .inl (by decide)⟩)
    fun run => pending_invitations_backed Sample.invited_backed run

end OneVoice.Access
