import OneVoice.Construction.Access.Sessions
import OneVoice.Library.Run

namespace OneVoice.Access

open Library Domain Tables List RoleTable Table

/-- The permissions that an actor may hand out. -/
def BusinessContext.Grantable (context : BusinessContext) (permissions : List Permission) : Prop :=
  context.roleID = systemRoleOwnerID ∨ permissions ⊆ context.permissions

variable {context : BusinessContext} {tables next : Tables} {now : Time} {id role user : UUID}
  {invitation : Invitation} {target : Option UUID}

theorem checkEscalationSubset_ok {proposed done} :
    context.checkEscalationSubset proposed = .ok done ↔ context.Grantable proposed := by
  unfold BusinessContext.checkEscalationSubset BusinessContext.Grantable
  split
  · rename_i owner
    simp [owner]
  · rename_i other
    split <;> rename_i missing
    · have absent := find?_some missing
      have listed := mem_of_find?_eq_some missing
      simp only [decide_eq_true_eq] at absent
      simp only [reduceCtorEq, other, false_or, false_iff]
      exact fun all => absent (all listed)
    · simp only [find?_eq_none, decide_eq_true_eq, not_not] at missing
      simp only [other, false_or, true_iff]
      exact fun permission listed => missing permission listed

/-- The check lists every permission that it was given. -/
theorem toTypedPerms_covers {names typed} (valid : toTypedPerms names = .ok typed) : names ⊆ typed := by
  have covers : ∀ out, toTypedPerms.go out names = .ok typed → out ⊆ typed ∧ names ⊆ typed := by
    clear valid
    induction names with
    | nil =>
      intro out valid
      cases valid
      exact ⟨List.Subset.refl _, nil_subset _⟩
    | cons name names ih =>
      intro out valid
      unfold toTypedPerms.go at valid
      split at valid
      case isFalse => cases valid
      obtain ⟨outCovered, namesCovered⟩ := ih _ valid
      split at outCovered <;> rename_i seen
      · exact ⟨outCovered, cons_subset.mpr ⟨outCovered seen, namesCovered⟩⟩
      · obtain ⟨before, last⟩ := append_subset.mp outCovered
        exact ⟨before, cons_subset.mpr ⟨last (by simp), namesCovered⟩⟩
  exact (covers [] valid).2

variable {business : UUID} {body : RoleBody} {reassignTo : Option UUID}

/-- A business's request is made by an active member of a role. -/
theorem contextFor_ok {fails actor} (admitted : contextFor fails tables business actor = .ok context) :
    (fails ∨ ¬ (tables.user actor).any User.pendingDeletion) ∧
      ∃ member role, tables.membership business actor = some member ∧ member.status ≠ .suspended ∧
        tables.role member.roleID = some role ∧
        context = ⟨business, actor, member.roleID, role.permissions⟩ := by
  simp only [contextFor, blockWritesDuringGrace, requireBusinessAccess, bind_ok, require_ok,
    expect_ok, pure_ok] at admitted
  obtain ⟨_, gate, member, found, _, standing, role, granted, built⟩ := admitted
  exact ⟨gate, member, role, found, standing, granted, built.symm⟩

theorem RoleTable.table_of_insert {roles next : RoleTable} {role : Role}
    (inserted : roles.insert role = some next) : roles.table.insert role = some next.table := by
  unfold insert at inserted
  split at inserted
  · cases inserted
  · rename_i taken
    cases inserted
    exact taken

theorem RoleTable.find_update (roles : RoleTable) (edited : UUID) (name description : String)
    (permissions : List Permission) (id : UUID) :
    (roles.update edited name description permissions).table.find id =
      (roles.table.find id).map fun role =>
        if custom edited role then
          { role with name := name, description := description, permissions := permissions }
        else role := by
  simp only [update, find_updateWhere]

theorem RoleTable.find_delete (roles : RoleTable) (deleted id : UUID) :
    (roles.delete deleted).table.find id = (roles.table.find id).filter fun role => !custom deleted role :=
  find_deleteWhere ..

/-- A deletion leaves the other roles alone. -/
theorem role_delete {deleted role} (found : tables.role id = some role)
    (other : id ≠ deleted) : (tables.roles.delete deleted).table.find id = some role := by
  have named : role.id = id := (find_eq_some.mp found).2
  rw [find_delete, Option.filter_eq_some_iff]
  exact ⟨found, by simp [custom, named, other]⟩

theorem createRole_ok (served : tables.createRole context id body = .ok next) :
    ∃ role roles, tables.roles.insert role = some roles ∧ next = { tables with roles := roles } ∧
      role.id = id ∧ role.businessID = some context.businessID ∧
      context.Grantable role.permissions := by
  simp only [createRole, bind_ok, expect_ok, pure_ok, checkEscalationSubset_ok] at served
  obtain ⟨_, _, _, _, proposed, _, _, grantable, _, _, roles, inserted, rfl⟩ := served
  exact ⟨_, roles, inserted, rfl, rfl, rfl, grantable⟩

theorem editable_ok {existing} :
    tables.editable context id = .ok existing ↔
      tables.role id = some existing ∧ existing.visibleTo context.businessID ∧ existing.isSystem = false := by
  simp only [editable, bind_ok, require_ok, expect_ok, pure_ok]
  constructor
  · rintro ⟨_, found, _, visible, _, custom, rfl⟩
    exact ⟨found, visible, custom⟩
  · rintro ⟨found, visible, custom⟩
    exact ⟨existing, found, (), visible, (), custom, rfl⟩

theorem updateRole_ok (served : tables.updateRole context id body = .ok next) :
    ∃ existing name description proposed, tables.role id = some existing ∧
      existing.visibleTo context.businessID ∧ existing.isSystem = false ∧
      body.validate = .ok proposed ∧ context.Grantable proposed ∧
      next = { tables with roles := tables.roles.update id name description proposed } := by
  simp only [updateRole, bind_ok, pure_ok, editable_ok, checkEscalationSubset_ok] at served
  obtain ⟨_, _, _, _, proposed, valid, existing, ⟨found, visible, custom⟩, _, grantable, _, _, _, _, rfl⟩ := served
  exact ⟨existing, _, _, proposed, found, visible, custom, valid, grantable, rfl⟩

/-- The reassignment goes to a role that the actor may grant, another one. -/
theorem admitDeleteRole_ok (admitted : tables.admitDeleteRole now context id reassignTo = .ok target) :
    (∃ existing, tables.role id = some existing ∧ existing.visibleTo context.businessID ∧
        existing.isSystem = false) ∧
      ∀ new, target = some new → reassignTo = some new ∧ new ≠ id ∧
        tables.countMembersByRole context.businessID id ≠ 0 ∧
        ∃ role, tables.role new = some role ∧ role.visibleTo context.businessID ∧
          context.Grantable role.permissions := by
  simp only [admitDeleteRole, bind_ok, require_ok, editable_ok] at admitted
  obtain ⟨_, _, _, _, _, other, existing, editable, _, _, _, _, rest⟩ := admitted
  refine ⟨⟨existing, editable⟩, ?_⟩
  intro new chosen
  subst chosen
  cases reassignTo with
  | none => simp at rest
  | some wanted =>
    simp only at rest
    split at rest
    · simp at rest
    · rename_i held
      simp only [admitReassign, bind_ok, require_ok, expect_ok, checkEscalationSubset_ok] at rest
      obtain ⟨_, ⟨role, found, _, visible, typed, valid, grantable⟩, same⟩ := rest
      cases same
      refine ⟨rfl, fun same => other (by rw [same]), held, role, found, visible, ?_⟩
      exact grantable.imp_right (List.Subset.trans (toTypedPerms_covers valid))

/-- A role that members hold is deleted only with a reassignment. -/
theorem admitDeleteRole_moves (admitted : tables.admitDeleteRole now context id reassignTo = .ok target)
    (used : tables.countMembersByRole context.businessID id ≠ 0) : target = reassignTo := by
  simp only [admitDeleteRole, bind_ok] at admitted
  obtain ⟨_, _, _, _, _, _, _, _, _, _, _, _, rest⟩ := admitted
  cases reassignTo with
  | none => exact (pure_ok.mp rest).symm
  | some wanted =>
    simp only [if_neg used] at rest
    obtain ⟨_, _, same⟩ := bind_ok.mp rest
    exact (pure_ok.mp same).symm

/-- The members as a role deletion leaves them. -/
def Tables.reassigned (tables : Tables) (business id : UUID) : Option UUID → Tables
  | some new => tables.reassignMembers business id new
  | none => tables

theorem deleteRoleInTx_ok (served : tables.deleteRoleInTx now business id target = .ok next) :
    let detached := (tables.reassigned business id target).detachTerminalInvitations now id
    next = { detached with roles := tables.roles.delete id } ∧ detached.references id = false := by
  cases target <;>
    simp only [deleteRoleInTx, bind_ok, require_ok, pure_ok, Bool.not_eq_true] at served <;>
    obtain ⟨_, free, _, _, rfl⟩ := served <;>
    exact ⟨rfl, free⟩

theorem validateRole_ok {permissions} (valid : tables.validateRole context id = .ok permissions) :
    ∃ role, tables.role id = some role ∧ role.visibleTo context.businessID ∧
      context.Grantable role.permissions ∧ permissions = role.permissions := by
  simp only [validateRole, bind_ok, require_ok, expect_ok, pure_ok, checkEscalationSubset_ok] at valid
  obtain ⟨role, found, _, visible, _, grantable, same⟩ := valid
  exact ⟨role, found, visible, grantable, same.symm⟩

theorem updateMemberRole_ok {target} (served : tables.updateMemberRole now context target role = .ok next) :
    ∃ row, tables.role role = some row ∧ row.visibleTo context.businessID ∧ context.Grantable row.permissions ∧
      next = tables.setMemberRole now context.businessID target role row.permissions := by
  simp only [updateMemberRole, admitMemberRole, bind_ok, pure_ok] at served
  obtain ⟨_, ⟨_, _, _, _, _, _, _, _, valid⟩, _, _, _, _, rfl⟩ := served
  obtain ⟨row, found, visible, grantable, rfl⟩ := validateRole_ok valid
  exact ⟨row, found, visible, grantable, rfl⟩

theorem removeMember_ok {target} (served : tables.removeMember now context target = .ok next) :
    next = tables.dropMember now context.businessID target := by
  simp only [removeMember, bind_ok, pure_ok] at served
  obtain ⟨_, _, _, _, _, _, rfl⟩ := served
  rfl

theorem createInvitation_ok {tokenHash expiresIn}
    (served : tables.createInvitation now context id tokenHash role expiresIn = .ok next) :
    permMembersInvite ∈ context.permissions ∧
      ∃ granted invitation invitations, tables.role role = some granted ∧
        granted.visibleTo context.businessID ∧ context.Grantable granted.permissions ∧
        tables.invitations.insert invitation = some invitations ∧
        invitation.businessID = context.businessID ∧ invitation.roleID = some role ∧
        invitation.createdBy = context.userID ∧ next =
    { tables with invitations := invitations } := by
  simp only [createInvitation, BusinessContext.can, bind_ok, require_ok, expect_ok, pure_ok,
    checkEscalationSubset_ok] at served
  obtain ⟨_, invites, _, _, _, _, _, _, granted, found, _, visible, _, grantable, _, _, invitations,
    inserted, rfl⟩ := served
  exact ⟨invites, granted, _, invitations, found, visible, grantable, inserted, rfl, rfl, rfl, rfl⟩

/-- An acceptance turns an invitation into a membership. -/
theorem accept_ok {tokenHash} (served : tables.accept now user tokenHash = .ok next) :
    ∃ invitation ∈ tables.invitations.rows, ∃ role members, invitation.pending now ∧
      tables.creatorAuthority invitation ∧ invitation.roleID = some role ∧
      tables.members.insert ⟨invitation.businessID, user, role, .active⟩ = some members ∧
      next = { tables.markAccepted now invitation.id with members := members } := by
  simp only [accept, bind_ok, require_ok, expect_ok, pure_ok] at served
  obtain ⟨invitation, found, _, unaccepted, _, unrevoked, _, unexpired, _, _, _, authority, role,
    named, members, inserted, rfl⟩ := served
  refine ⟨invitation, mem_of_find?_eq_some found, role, members, ?_, authority, named, inserted, rfl⟩
  simp [Invitation.pending, unaccepted, unrevoked, unexpired]

theorem requestDeletion_ok {passwordMatches reason}
    (served : tables.requestDeletion now user passwordMatches reason = .ok next) :
    next = (tables.requestDeletionInTx now user).revokeSent now user := by
  simp only [requestDeletion, deletionInTx, bind_ok, pure_ok] at served
  obtain ⟨_, _, _, _, _, _, rfl⟩ := served
  rfl

theorem cancelDeletion_ok (served : tables.cancelDeletion now user = .ok next) :
    next = { tables with
      users := tables.users.updateWhere (restorable now user)
        (fun row => { row with deletionCanceledAt := some now }) fun _ => rfl } := by
  simp only [cancelDeletion, bind_ok, pure_ok] at served
  obtain ⟨_, _, _, _, _, _, rfl⟩ := served
  rfl

/-- No request makes an invitation pending again or gives it another role. -/
structure Invitation.From (now : Time) (new old : Invitation) : Prop where
  business : new.businessID = old.businessID
  creator : new.createdBy = old.createdBy
  role : ∀ id, new.roleID = some id → old.roleID = some id
  pending : new.pending now → old.pending now

theorem Invitation.From.refl (now : Time) (invitation : Invitation) : invitation.From now invitation :=
  ⟨rfl, rfl, fun _ named => named, fun pending => pending⟩

theorem Invitation.From.of_ite {new old : Invitation} {changed : Bool} (descends : new.From now old) :
    (if changed then new else old).From now old := by
  cases changed
  · exact .refl now old
  · exact descends

theorem revokeWhere_from {condition} (member : invitation ∈ (tables.revokeWhere now condition).invitations.rows) :
    ∃ old ∈ tables.invitations.rows, invitation.From now old ∧
      (invitation.pending now → condition old = false) := by
  simp only [revokeWhere, mem_updateWhere] at member
  obtain ⟨old, listed, rfl⟩ := member
  refine ⟨old, listed, ?_⟩
  split
  · exact ⟨⟨rfl, rfl, fun _ named => named, by simp [Invitation.pending]⟩,
      by simp [Invitation.pending]⟩
  · rename_i kept
    refine ⟨.refl now old, fun pending => ?_⟩
    simp only [Invitation.pending, Bool.and_eq_true] at pending
    simpa [pending.1.1, pending.1.2] using kept

theorem detachTerminalInvitations_from
    (member : invitation ∈ (tables.detachTerminalInvitations now role).invitations.rows) :
    ∃ old ∈ tables.invitations.rows, invitation.From now old := by
  obtain ⟨old, listed, rfl⟩ := mem_map.mp member
  exact ⟨old, listed, .of_ite ⟨rfl, rfl, by simp, fun pending => pending⟩⟩

theorem markAccepted_from (member : invitation ∈ (tables.markAccepted now id).invitations.rows) :
    ∃ old ∈ tables.invitations.rows, invitation.From now old := by
  obtain ⟨old, listed, rfl⟩ := mem_map.mp member
  exact ⟨old, listed, .of_ite ⟨rfl, rfl, fun _ named => named, by simp [Invitation.pending]⟩⟩

/-- The roles that a request hands to members or invitations. -/
def Request.handsOut (now : Time) (tables : Tables) (business roleID : UUID) : Request → Prop
  | .deleteRole within _ id reassignTo => within = business ∧ reassignTo = some roleID ∧
      tables.countMembersByRole business id ≠ 0
  | .updateMemberRole within _ _ role => within = business ∧ role = roleID
  | .createInvitation within _ _ _ role _ => within = business ∧ role = roleID
  | .accept _ _ => ∃ invitation ∈ tables.invitations.rows, invitation.pending now ∧
      invitation.businessID = business ∧ invitation.roleID = some roleID
  | _ => False

@[simp]
theorem setMemberRole_members (tables : Tables) (now : Time) (business target role : UUID)
    (permissions : List Permission) :
    (tables.setMemberRole now business target role permissions).members =
      (tables.updateRoleInTx business target role).members := by
  unfold setMemberRole
  split <;> rfl

@[simp]
theorem setMemberRole_roles (tables : Tables) (now : Time) (business target role : UUID)
    (permissions : List Permission) :
    (tables.setMemberRole now business target role permissions).roles = tables.roles := by
  unfold setMemberRole
  split <;> rfl

/-- What a served request has found, and the tables that it leaves. -/
inductive Effect (fails : Bool) (now : Time) (tables : Tables) : Request → Tables → Prop
  | createRole {within actor id body} {context : BusinessContext} {role : Role} {roles}
      (admitted : contextFor fails tables within actor = .ok context)
      (inserted : tables.roles.insert role = some roles) (named : role.id = id)
      (owned : role.businessID = some within) (grantable : context.Grantable role.permissions) :
      Effect fails now tables (.createRole within actor id body) { tables with roles := roles }
  | updateRole {within actor id} {body : RoleBody} {context : BusinessContext} {existing : Role}
      {name description proposed}
      (admitted : contextFor fails tables within actor = .ok context)
      (found : tables.role id = some existing) (visible : existing.visibleTo within)
      (custom : existing.isSystem = false) (valid : body.validate = .ok proposed)
      (grantable : context.Grantable proposed) :
      Effect fails now tables (.updateRole within actor id body)
        { tables with roles := tables.roles.update id name description proposed }
  | deleteRole {within actor id reassignTo target} {context : BusinessContext}
      (admitted : contextFor fails tables within actor = .ok context)
      (chosen : ∀ new, target = some new → reassignTo = some new ∧ new ≠ id ∧
        tables.countMembersByRole within id ≠ 0 ∧
        ∃ role, tables.role new = some role ∧ role.visibleTo within ∧ context.Grantable role.permissions)
      (moves : tables.countMembersByRole within id ≠ 0 → target = reassignTo)
      (free : ((tables.reassigned within id target).detachTerminalInvitations now id).references id = false) :
      
      Effect fails now tables (.deleteRole within actor id reassignTo)
        { (tables.reassigned within id target).detachTerminalInvitations now id with
          roles := tables.roles.delete id }
  | updateMemberRole {within actor target id} {context : BusinessContext} {role : Role}
      (admitted : contextFor fails tables within actor = .ok context)
      (found : tables.role id = some role) (visible : role.visibleTo within)
      (grantable : context.Grantable role.permissions) :
      Effect fails now tables (.updateMemberRole within actor target id)
        (tables.setMemberRole now within target id role.permissions)
  | removeMember {within actor target} :
      Effect fails now tables (.removeMember within actor target) (tables.dropMember now within target)
  | createInvitation {within actor id roleID tokenHash expiresIn} {context : BusinessContext}
      {role : Role} {invitation : Invitation} {invitations}
      (admitted : contextFor fails tables within actor = .ok context)
      (invites : permMembersInvite ∈ context.permissions) (found : tables.role roleID = some role)
      (visible : role.visibleTo within) (grantable : context.Grantable role.permissions)
      (inserted : tables.invitations.insert invitation = some invitations)
      (business : invitation.businessID = within) (named : invitation.roleID = some roleID)
      (creator : invitation.createdBy = actor) :
      Effect fails now tables (.createInvitation within actor id tokenHash roleID expiresIn)
        { tables with invitations := invitations }
  | accept {user role tokenHash} {invitation : Invitation} {members}
      (listed : invitation ∈ tables.invitations.rows) (pending : invitation.pending now)
      (named : invitation.roleID = some role)
      (inserted : tables.members.insert ⟨invitation.businessID, user, role, .active⟩ = some members) :
      
      Effect fails now tables (.accept user tokenHash)
        { tables.markAccepted now invitation.id with members := members }
  | requestDeletion {user passwordMatches reason} :
      Effect fails now tables (.requestDeletion user passwordMatches reason)
        ((tables.requestDeletionInTx now user).revokeSent now user)
  | cancelDeletion {user : UUID} {next : Tables} (served : tables.cancelDeletion now user = .ok next) :
      Effect fails now tables (.cancelDeletion user) next

section

variable {fails : Bool} {now : Time} {tables next : Tables} {request : Request}

section

variable (served : perform fails now tables request = .ok next)

include served

theorem effect_of_perform : Effect fails now tables request next := by
  cases request with
  | createRole =>
    obtain ⟨context, admitted, served⟩ := bind_ok.mp served
    obtain ⟨_, _, inserted, rfl, named, owned, grantable⟩ := createRole_ok served
    obtain ⟨_, _, _, _, _, _, rfl⟩ := contextFor_ok admitted
    exact .createRole admitted inserted named owned grantable
  | updateRole =>
    obtain ⟨context, admitted, served⟩ := bind_ok.mp served
    obtain ⟨_, _, _, _, found, visible, custom, valid, grantable, rfl⟩ := updateRole_ok served
    obtain ⟨_, _, _, _, _, _, rfl⟩ := contextFor_ok admitted
    exact .updateRole admitted found visible custom valid grantable
  | deleteRole =>
    obtain ⟨context, admitted, served⟩ := bind_ok.mp served
    obtain ⟨target, allowed, served⟩ := bind_ok.mp served
    obtain ⟨rfl, free⟩ := deleteRoleInTx_ok served
    obtain ⟨_, _, _, _, _, _, rfl⟩ := contextFor_ok admitted
    exact .deleteRole admitted (admitDeleteRole_ok allowed).2 (admitDeleteRole_moves allowed) free
  | updateMemberRole =>
    obtain ⟨context, admitted, served⟩ := bind_ok.mp served
    obtain ⟨_, found, visible, grantable, rfl⟩ := updateMemberRole_ok served
    obtain ⟨_, _, _, _, _, _, rfl⟩ := contextFor_ok admitted
    exact .updateMemberRole admitted found visible grantable
  | removeMember =>
    obtain ⟨context, admitted, served⟩ := bind_ok.mp served
    obtain ⟨_, _, _, _, _, _, rfl⟩ := contextFor_ok admitted
    rw [removeMember_ok served]
    exact .removeMember
  | createInvitation =>
    obtain ⟨context, admitted, served⟩ := bind_ok.mp served
    obtain ⟨invites, _, _, _, found, visible, grantable, inserted, business, named, creator, rfl⟩ :=
      createInvitation_ok served
    obtain ⟨_, _, _, _, _, _, rfl⟩ := contextFor_ok admitted
    exact .createInvitation admitted invites found visible grantable inserted business named creator
  | accept =>
    obtain ⟨_, _, served⟩ := bind_ok.mp served
    obtain ⟨_, listed, _, _, pending, _, named, inserted, rfl⟩ := accept_ok served
    exact .accept listed pending named inserted
  | requestDeletion =>
    rw [requestDeletion_ok served]
    exact .requestDeletion
  | cancelDeletion => exact .cancelDeletion served

/-- A membership was there before or carries a role that is handed out. -/
theorem member_origin {member} (listed : member ∈ next.members.rows) :
    member ∈ tables.members.rows ∨ request.handsOut now tables member.businessID member.roleID := by
  cases effect_of_perform served with
  | @deleteRole within actor id reassignTo target context admitted chosen =>
    cases target with
    | none => exact .inl listed
    | some new =>
      obtain ⟨same, _, used, _⟩ := chosen new rfl
      simp only [detachTerminalInvitations, reassigned, reassignMembers, mem_updateWhere] at listed
      obtain ⟨old, oldListed, rfl⟩ := listed
      split
      · rename_i moved
        simp only [decide_eq_true_eq] at moved
        exact .inr ⟨moved.1.symm, same, moved.1 ▸ used⟩
      · exact .inl oldListed
  | updateMemberRole =>
    simp only [setMemberRole_members, updateRoleInTx, mem_updateWhere] at listed
    obtain ⟨old, oldListed, rfl⟩ := listed
    split
    · rename_i changed
      simp only [Prod.mk.injEq, decide_eq_true_eq] at changed
      exact .inr ⟨changed.1.symm, rfl⟩
    · exact .inl oldListed
  | removeMember => exact .inl (mem_deleteWhere.mp listed).1
  | @accept _ _ _ invitation _ invited pending named inserted =>
    rw [(rows_of_insert inserted).1] at listed
    rcases mem_cons.mp listed with rfl | old
    · exact .inr ⟨invitation, invited, pending, rfl, named⟩
    · exact .inl old
  | cancelDeletion served =>
    rw [cancelDeletion_ok served] at listed
    exact .inl listed
  | _ => exact .inl listed

/-- An invitation was there or was created by the request. -/
theorem invitation_origin {invitation} (listed : invitation ∈ next.invitations.rows) :
    (∃ old ∈ tables.invitations.rows, invitation.From now old) ∨
      ∃ context, contextFor fails tables invitation.businessID invitation.createdBy = .ok context ∧
        permMembersInvite ∈ context.permissions ∧ ∃ role, invitation.roleID = some role ∧
          request.handsOut now tables invitation.businessID role := by
  cases effect_of_perform served with
  | createRole | updateRole => exact .inl ⟨invitation, listed, .refl now invitation⟩
  | @deleteRole _ _ _ _ target =>
    obtain ⟨old, oldListed, descends⟩ := detachTerminalInvitations_from listed
    cases target <;> exact .inl ⟨old, oldListed, descends⟩
  | updateMemberRole =>
    unfold setMemberRole at listed
    split at listed
    · exact .inl ⟨invitation, listed, .refl now invitation⟩
    · obtain ⟨old, oldListed, descends, _⟩ := revokeWhere_from listed
      exact .inl ⟨old, oldListed, descends⟩
  | removeMember | requestDeletion =>
    obtain ⟨old, oldListed, descends, _⟩ := revokeWhere_from listed
    exact .inl ⟨old, oldListed, descends⟩
  | createInvitation admitted invites _ _ _ inserted business named creator =>
    rw [(rows_of_insert inserted).1] at listed
    rcases mem_cons.mp listed with rfl | old
    · rw [business, creator]
      exact .inr ⟨_, admitted, invites, _, named, rfl, rfl⟩
    · exact .inl ⟨invitation, old, .refl now invitation⟩
  | accept =>
    obtain ⟨old, oldListed, descends⟩ := markAccepted_from listed
    exact .inl ⟨old, oldListed, descends⟩
  | cancelDeletion served =>
    rw [cancelDeletion_ok served] at listed
    exact .inl ⟨invitation, listed, .refl now invitation⟩

end

/-- A transaction writes the membership rows that it lists. -/
theorem Work.members_of_apply {work : Work} {view} (applied : work.apply now view tables = .ok next) :
    ∀ key ∉ work.writes view, next.members.find key = tables.members.find key := by
  cases work with
  | changeRole within member role permissions =>
    simp only [apply, bind_ok] at applied
    obtain ⟨_, _, _, _, _, _, rest⟩ := applied
    have other : ∀ key ∉ [(within, member)],
        (tables.updateRoleInTx within member role).members.find key = tables.members.find key := by
      intro key spared
      rw [updateRoleInTx, find_updateWhere_of_spared]
      rintro row rfl
      simpa using spared
    split at rest <;> rw [pure_ok] at rest <;> subst rest <;> exact other
  | removeMember =>
    simp only [apply, bind_ok, pure_ok] at applied
    obtain ⟨_, _, _, _, rfl⟩ := applied
    intro key spared
    apply find_deleteWhere_of_spared
    rintro row rfl
    simpa [writes] using spared
  | deleteRole within id reassignTo =>
    simp only [apply, bind_ok, pure_ok] at applied
    obtain ⟨_, _, _, _, _, _, rfl⟩ := applied
    cases reassignTo with
    | none => exact fun _ _ => rfl
    | some new =>
      intro key spared
      simp only [detachTerminalInvitations, moveMembers]
      rw [find_updateWhere_of_spared]
      rintro row rfl
      rw [any_eq_false]
      intro holder listed same
      exact spared (of_decide_eq_true same ▸ listed)
  | requestDeletion =>
    simp only [apply, deletionInTx, bind_ok, pure_ok] at applied
    obtain ⟨_, _, _, _, rfl⟩ := applied
    exact fun _ _ => rfl

end

end OneVoice.Access
