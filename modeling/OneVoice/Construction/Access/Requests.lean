/- The checks of `pkg/authz`, the handlers `roles.go`, `members.go` and `invitations.go`, and the
services `member_mutations.go` and `account_deletion.go`. -/

import OneVoice.Construction.Access.Tables

namespace OneVoice.Access

open Library Domain

inductive Refusal where
  | accountPendingDeletion
  | notFound
  | forbiddenSuspended
  | forbidden
  | internal
  | businessNotFound
  | validationFailed
  | invalidPermission (name : Permission)
  | roleNotFound
  | systemRoleImmutable
  | cannotGrantUnownedPermissions (missing : Permission)
  | selfLockout (removed : Permission)
  | roleNameTaken
  | roleInUse
  | invalidReassignTo
  | invalidRoleID
  | cannotChangeOwnRole
  | lastOwner
  | membershipNotFound
  | tooManyPending
  | invitationNotFound
  | invitationAccepted
  | invitationRevoked
  | invitationExpired
  | alreadyMember
  | userNotFound
  | deletionAlreadyPending
  | invalidCredentials
  | soleOwnerBusinesses (businesses : List Business)
  | noDeletionPending
  | alreadyPurged
deriving DecidableEq

structure BusinessContext where
  businessID : UUID
  userID : UUID
  roleID : UUID
  permissions : List Permission

/-- The gate lets a request through when the lookup of the account fails. -/
def blockWritesDuringGrace (lookupFails : Bool) (tables : Tables) (user : UUID) : Except Refusal Unit :=
  require (lookupFails ∨ ¬ (tables.user user).any User.pendingDeletion) .accountPendingDeletion

section

variable (tables : Tables) (now : Time) (business user : UUID) (context : BusinessContext) (target id : UUID)

def requireBusinessAccess : Except Refusal BusinessContext := do
  let member ← expect (tables.membership business user) .notFound
  require (member.status ≠ .suspended) .forbiddenSuspended
  let role ← expect (tables.role member.roleID) .internal
  return ⟨business, user, member.roleID, role.permissions⟩

namespace BusinessContext

def can (permission : Permission) : Except Refusal Unit :=
  require (permission ∈ context.permissions) .forbidden

/-- The system owner is exempt. -/
def checkEscalationSubset (proposed : List Permission) : Except Refusal Unit :=
  if context.roleID = systemRoleOwnerID then .ok ()
  else
    match proposed.find? fun permission => permission ∉ context.permissions with
    | some missing => .error (.cannotGrantUnownedPermissions missing)
    | none => .ok ()

def checkSelfLockout (edited : UUID) (proposed : List Permission) : Except Refusal Unit :=
  if context.roleID ≠ edited then .ok ()
  else do
    require (permRolesUpdate ∈ proposed) (.selfLockout permRolesUpdate)
    require (permMembersUpdateRole ∈ proposed) (.selfLockout permMembersUpdateRole)

end BusinessContext

/-- The change that a member or role mutation is about to make. -/
inductive OwnerChange where
  | demote (member : UUID)
  | remove (member : UUID)
  | roleEditRemovesOwnerPerm (role : UUID)
  | roleDelete (role : UUID)

def OwnerChange.excludes (member : Member) : OwnerChange → Bool
  | .demote user => member.userID = user
  | .remove user => member.userID = user
  | .roleEditRemovesOwnerPerm role => member.roleID = role
  | .roleDelete role => member.roleID = role

variable (change : OwnerChange) (passwordMatches : Bool) (reason : String)

/-- Active members are joined with accounts, and the owners counted. -/
def Tables.postOwners : Nat :=
  tables.members.rows.countP fun member =>
    member.businessID = business ∧ member.status = .active ∧ ¬ change.excludes member ∧
      member.roleID = systemRoleOwnerID ∧
      (tables.user member.userID).any fun user => !user.pendingDeletion

def ensureOwnerExistsAfter : Except Refusal Unit :=
  require (1 ≤ tables.postOwners business change) .lastOwner

/-- The spaces that the unicode package trims. -/
def isSpace (character : Char) : Bool :=
  character.val ∈ [0x09, 0x0A, 0x0B, 0x0C, 0x0D, 0x20, 0x85, 0xA0, 0x1680, 0x2028, 0x2029, 0x202F,
    0x205F, 0x3000] || (0x2000 ≤ character.val && character.val ≤ 0x200A)

def trimSpace (text : String) : String :=
  .ofList ((text.toList.dropWhile isSpace).reverse.dropWhile isSpace).reverse

/-- Unknown texts are refused and repeated ones are dropped. -/
def toTypedPerms (names : List String) : Except Refusal (List Permission) := go [] names
where
  go (out : List Permission) : List String → Except Refusal (List Permission)
    | [] => .ok out
    | name :: names =>
      if name ∈ allPermissions then go (if name ∈ out then out else out ++ [name]) names
      else .error (.invalidPermission name)

structure RoleBody where
  name : String
  description : Option String
  permissions : List String

def maxPermissionsPerRole : Nat := 100

def maxRoleNameLen : Nat := 200

def maxRoleDescriptionLen : Nat := 2000

variable (role : UUID) (body : RoleBody) (reassignTo : Option UUID)

def RoleBody.validate : Except Refusal (List Permission) := do
  require (trimSpace body.name ≠ "") .validationFailed
  require ((trimSpace body.name).utf8ByteSize ≤ maxRoleNameLen ∧
    (body.description.getD "").utf8ByteSize ≤ maxRoleDescriptionLen) .validationFailed
  require (body.permissions.length ≤ maxPermissionsPerRole) .validationFailed
  toTypedPerms body.permissions

namespace Tables

/-- Two roles of one business never share their name. -/
def nameTaken (business : Option UUID) (name : String) : Bool :=
  tables.roles.table.rows.any fun role =>
    role.id ≠ id ∧ business.isSome ∧ role.businessID = business ∧ role.name = name

def createRole : Except Refusal Tables := do
  context.can permRolesCreate
  let _ ← expect (tables.business context.businessID) .businessNotFound
  let proposed ← body.validate
  context.checkEscalationSubset proposed
  require (¬ tables.nameTaken id (some context.businessID) (trimSpace body.name)) .roleNameTaken
  let roles ← expect (tables.roles.insert
    { id := id
      businessID := some context.businessID
      name := trimSpace body.name
      description := body.description.getD ""
      permissions := proposed
      isSystem := false
      unowned := fun none => nomatch none }) .internal
  return { tables with roles := roles }

/-- A system role reads as itself, another business's as missing. -/
def editable : Except Refusal Role := do
  let existing ← expect (tables.role id) .roleNotFound
  require (existing.visibleTo context.businessID) .roleNotFound
  require (existing.isSystem = false) .systemRoleImmutable
  return existing

def updateRole : Except Refusal Tables := do
  context.can permRolesUpdate
  let _ ← expect (tables.business context.businessID) .businessNotFound
  let proposed ← body.validate
  let existing ← tables.editable context id
  context.checkEscalationSubset proposed
  context.checkSelfLockout id proposed
  require (¬ tables.nameTaken id existing.businessID (trimSpace body.name)) .roleNameTaken
  return { tables with
    roles := tables.roles.update id (trimSpace body.name) (body.description.getD "") proposed }

/-- The target of a reassignment is one that the actor may grant. -/
def admitReassign : Except Refusal Unit := do
  let role ← expect (tables.role target) .invalidReassignTo
  require (role.visibleTo context.businessID) .invalidReassignTo
  let permissions ← toTypedPerms role.permissions
  context.checkEscalationSubset permissions

/-- The checks before the deletion's transaction: its target, none where no active member holds the
role. -/
def admitDeleteRole : Except Refusal (Option UUID) := do
  context.can permRolesDelete
  let _ ← expect (tables.business context.businessID) .businessNotFound
  require (reassignTo ≠ some id) .invalidReassignTo
  let _ ← tables.editable context id
  let memberCount := tables.countMembersByRole context.businessID id
  require (memberCount = 0 ∨ reassignTo.isSome) .roleInUse
  require (tables.countInvitationsByRole now id = 0) .roleInUse
  match reassignTo with
  | some target =>
    if memberCount = 0 then return none
    else do
      tables.admitReassign context target
      return some target
  | none => return none

/-- The members move first; the foreign keys then decide. -/
def deleteRoleInTx : Except Refusal Tables := do
  let moved := match reassignTo with
    | some target => tables.reassignMembers business id target
    | none => tables
  let detached := moved.detachTerminalInvitations now id
  require (¬ detached.references id) .roleInUse
  require (detached.roles.table.rows.any (RoleTable.custom id)) .roleNotFound
  return { detached with roles := detached.roles.delete id }

def deleteRole : Except Refusal Tables := do
  let target ← tables.admitDeleteRole now context id reassignTo
  tables.deleteRoleInTx now context.businessID id target

def validateRole : Except Refusal (List Permission) := do
  let role ← expect (tables.role id) .roleNotFound
  require (role.visibleTo context.businessID) .roleNotFound
  context.checkEscalationSubset role.permissions
  return role.permissions

/-- The checks before the transaction of a role change return the new permissions. -/
def admitMemberRole : Except Refusal (List Permission) := do
  context.can permMembersUpdateRole
  let _ ← expect (tables.business context.businessID) .businessNotFound
  require (target ≠ context.userID) .cannotChangeOwnRole
  require (role ≠ 0) .validationFailed
  tables.validateRole context role

/-- A member whose new role cannot invite loses the open invitations. -/
def setMemberRole (permissions : List Permission) : Tables :=
  let changed := tables.updateRoleInTx business target role
  if permMembersInvite ∈ permissions then changed
  else changed.revokeByCreatorInTx now business target

def updateMemberRole : Except Refusal Tables := do
  let permissions ← tables.admitMemberRole context target role
  ensureOwnerExistsAfter tables context.businessID (.demote target)
  require (tables.membership context.businessID target).isSome .membershipNotFound
  return tables.setMemberRole now context.businessID target role permissions

/-- A member may always leave. -/
def admitRemoveMember : Except Refusal Unit := do
  let _ ← expect (tables.business context.businessID) .businessNotFound
  if target ≠ context.userID then context.can permMembersRemove else return ()

def dropMember : Tables := (tables.deleteMemberInTx business target).revokeByCreatorInTx now business target

def removeMember : Except Refusal Tables := do
  tables.admitRemoveMember context target
  ensureOwnerExistsAfter tables context.businessID (.remove target)
  require (tables.membership context.businessID target).isSome .membershipNotFound
  return tables.dropMember now context.businessID target

end Tables

def invitationDefaultExpirySeconds : Nat := 7 * 24 * 3600

def invitationMinExpirySeconds : Nat := 3600

def invitationMaxExpirySeconds : Nat := 30 * 24 * 3600

def invitationPendingCap : Nat := 20

namespace Tables

def createInvitation (tokenHash : String) (role : UUID) (expiresIn : Option Nat) : Except Refusal Tables := do
  context.can permMembersInvite
  let _ ← expect (tables.business context.businessID) .businessNotFound
  require (role ≠ 0) .validationFailed
  let seconds := expiresIn.getD invitationDefaultExpirySeconds
  require (invitationMinExpirySeconds ≤ seconds ∧ seconds ≤ invitationMaxExpirySeconds) .validationFailed
  let granted ← expect (tables.role role) .invalidRoleID
  require (granted.visibleTo context.businessID) .invalidRoleID
  context.checkEscalationSubset granted.permissions
  require (tables.countPendingByBusiness now context.businessID < invitationPendingCap) .tooManyPending
  let invitations ← expect (tables.invitations.insert
    { id := id
      businessID := context.businessID
      roleID := some role
      tokenHash := tokenHash
      expiresAt := now + seconds * 1000
      acceptedAt := none
      revokedAt := none
      createdBy := context.userID }) .internal
  return { tables with invitations := invitations }

/-- The acceptance looks at the creator's membership and at what both roles grant. -/
def creatorAuthority (invitation : Invitation) : Bool :=
  match tables.membership invitation.businessID invitation.createdBy, invitation.roleID.bind tables.role with
  | some member, some invited =>
    member.status = .active && (tables.role member.roleID).any fun creator =>
      permMembersInvite ∈ creator.permissions ∧
        (member.roleID = systemRoleOwnerID ∨ invited.permissions ⊆ creator.permissions)
  | _, _ => false

def markAccepted : Tables :=
  { tables with
    invitations := tables.invitations.updateWhere (fun invitation => invitation.id = id)
      (fun invitation => { invitation with acceptedAt := some now }) fun _ => rfl }

def accept (tokenHash : String) : Except Refusal Tables := do
  let invitation ← expect (tables.invitations.rows.find? fun invitation =>
    invitation.tokenHash = tokenHash) .invitationNotFound
  require (invitation.acceptedAt = none) .invitationAccepted
  require (invitation.revokedAt = none) .invitationRevoked
  require (now < invitation.expiresAt) .invitationExpired
  require (tables.membership invitation.businessID user = none) .alreadyMember
  require (tables.creatorAuthority invitation) .invitationRevoked
  let role ← expect invitation.roleID .internal
  let members ← expect (tables.members.insert
    { businessID := invitation.businessID
      userID := user
      roleID := role
      status := .active }) .alreadyMember
  return { tables.markAccepted now invitation.id with members := members }

/-- Memberships of any status count, here and for other owners. -/
def enumerateSoleOwnerBusinesses : List Business :=
  tables.businesses.rows.filter fun business =>
    (tables.membership business.id user).any (fun member => member.roleID = systemRoleOwnerID) ∧
      tables.members.rows.countP (fun member =>
        member.businessID = business.id ∧ member.roleID = systemRoleOwnerID ∧
          (tables.user member.userID).any fun account => !account.pendingDeletion) = 1

/-- The checks of a deletion request run before its transaction, on the pool. -/
def admitDeletion : Except Refusal Unit := do
  let account ← expect (tables.user user) .userNotFound
  require (¬ account.pendingDeletion) .deletionAlreadyPending
  require (reason = "consent_withdrawn" ∨ passwordMatches) .invalidCredentials
  require (tables.enumerateSoleOwnerBusinesses user = [])
    (.soleOwnerBusinesses (tables.enumerateSoleOwnerBusinesses user))

def deletionInTx : Except Refusal Tables := do
  let account ← expect (tables.user user) .userNotFound
  require (¬ account.pendingDeletion) .deletionAlreadyPending
  return (tables.requestDeletionInTx now user).revokeSent now user

def requestDeletion : Except Refusal Tables := do
  tables.admitDeletion user passwordMatches reason
  tables.deletionInTx now user

def graceWindow : Time := 30 * 24 * 3600 * 1000

/-- The update restores an account inside the grace window. -/
def restorable (row : User) : Bool :=
  row.id = user && row.pendingDeletion && row.deletionRequestedAt.any fun requested =>
    now < requested + graceWindow

/-- A deletion that was already canceled counts as canceled. -/
def cancelDeletion : Except Refusal Tables := do
  let account ← expect (tables.user user) .alreadyPurged
  require account.deletionRequestedAt.isSome .noDeletionPending
  require (restorable now user account ∨ account.deletionCanceledAt.isSome) .alreadyPurged
  return { tables with
    users := tables.users.updateWhere (restorable now user)
      (fun row => { row with deletionCanceledAt := some now }) fun _ => rfl }

end Tables

end

/-- The requests that change who may do what. -/
inductive Request where
  | createRole (business actor id : UUID) (body : RoleBody)
  | updateRole (business actor id : UUID) (body : RoleBody)
  | deleteRole (business actor id : UUID) (reassignTo : Option UUID)
  | updateMemberRole (business actor target role : UUID)
  | removeMember (business actor target : UUID)
  | createInvitation (business actor id : UUID) (tokenHash : String) (role : UUID) (expiresIn : Option Nat)
  | accept (user : UUID) (tokenHash : String)
  | requestDeletion (user : UUID) (passwordMatches : Bool) (reason : String)
  | cancelDeletion (user : UUID)

/-- The gate and the access check stand before every handler. -/
def contextFor (lookupFails : Bool) (tables : Tables) (business actor : UUID) : Except Refusal BusinessContext := do
  blockWritesDuringGrace lookupFails tables actor
  requireBusinessAccess tables business actor

/-- The two account routes stand outside the gate. -/
def perform (lookupFails : Bool) (now : Time) (tables : Tables) : Request → Except Refusal Tables
  | .createRole business actor id body => do
      let context ← contextFor lookupFails tables business actor
      tables.createRole context id body
  | .updateRole business actor id body => do
      let context ← contextFor lookupFails tables business actor
      tables.updateRole context id body
  | .deleteRole business actor id reassignTo => do
      let context ← contextFor lookupFails tables business actor
      tables.deleteRole now context id reassignTo
  | .updateMemberRole business actor target role => do
      let context ← contextFor lookupFails tables business actor
      tables.updateMemberRole now context target role
  | .removeMember business actor target => do
      let context ← contextFor lookupFails tables business actor
      tables.removeMember now context target
  | .createInvitation business actor id tokenHash role expiresIn => do
      let context ← contextFor lookupFails tables business actor
      tables.createInvitation now context id tokenHash role expiresIn
  | .accept user tokenHash => do
      blockWritesDuringGrace lookupFails tables user
      tables.accept now user tokenHash
  | .requestDeletion user passwordMatches reason =>
    tables.requestDeletion now user passwordMatches reason
  | .cancelDeletion user => tables.cancelDeletion now user

structure State where
  tables : Tables
  now : Time

inductive Event where
  | served (lookupFails : Bool) (request : Request)
  | refused (lookupFails : Bool) (request : Request) (refusal : Refusal)
  | passed (duration : Time)

inductive Step : State → Event → State → Prop
  | served {state : State} {lookupFails request tables} :
      perform lookupFails state.now state.tables request = .ok tables →
        Step state (.served lookupFails request) { state with tables := tables }
  | refused {state : State} {lookupFails request refusal} :
      perform lookupFails state.now state.tables request = .error refusal →
        Step state (.refused lookupFails request refusal) state
  | passed {state : State} (duration : Time) :
      Step state (.passed duration) { state with now := state.now + duration }

namespace Sample

def ownerRole : Role where
  id := systemRoleOwnerID
  businessID := none
  name := "owner"
  description := ""
  permissions := allPermissions
  isSystem := true
  unowned := fun _ => rfl

def managerRole : Role where
  id := 30
  businessID := some 10
  name := "manager"
  description := ""
  permissions := [permMembersInvite, "content.read"]
  isSystem := false
  unowned := fun none => nomatch none

def readerRole : Role where
  id := 31
  businessID := some 10
  name := "reader"
  description := ""
  permissions := ["content.read"]
  isSystem := false
  unowned := fun none => nomatch none

/-- One business with two owners and a manager. -/
def tables : Tables where
  businesses := ⟨[⟨10, "bakery", none⟩], by decide⟩
  users := ⟨[⟨20, none, none⟩, ⟨21, none, none⟩, ⟨22, none, none⟩], by decide⟩
  roles := ⟨⟨[ownerRole, managerRole, readerRole], by decide⟩, ownerRole, by simp, rfl, rfl⟩
  members := ⟨[⟨10, 20, systemRoleOwnerID, .active⟩, ⟨10, 21, systemRoleOwnerID, .active⟩,
    ⟨10, 22, 30, .active⟩], by decide⟩
  invitations := ⟨[], by decide⟩

def start : State := ⟨tables, 1000⟩

end Sample

end OneVoice.Access
