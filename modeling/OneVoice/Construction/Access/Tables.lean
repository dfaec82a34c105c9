/- The access tables of `000007_rbac_data_model.up.sql`, and the repository statements that read and
write them. -/

import OneVoice.Construction.Domain
import OneVoice.Library.Checks
import OneVoice.Library.Table

namespace OneVoice.Access

open Library Domain

/-- Identifiers are the 128-bit values that the uuid package compares. -/
abbrev UUID := BitVec 128

def systemRoleOwnerID : UUID := 1

/-- A stored permission is any text; the registry decides. -/
abbrev Permission := String

def permMembersInvite : Permission := "members.invite"

def permMembersRemove : Permission := "members.remove"

def permMembersUpdateRole : Permission := "members.update_role"

def permRolesCreate : Permission := "roles.create"

def permRolesUpdate : Permission := "roles.update"

def permRolesDelete : Permission := "roles.delete"

def allPermissions : List Permission :=
  ["business.read", "business.update", "business.delete", "business.transfer_ownership",
    "members.read", permMembersInvite, permMembersRemove, permMembersUpdateRole,
    "roles.read", permRolesCreate, permRolesUpdate, permRolesDelete,
    "integrations.read", "integrations.connect", "integrations.disconnect",
    "content.read", "content.create", "content.update", "content.delete",
    "billing.read", "billing.update", "audit.read"]

structure Business where
  id : UUID
  name : String
  deletedAt : Option Time
deriving DecidableEq

structure User where
  id : UUID
  deletionRequestedAt : Option Time
  deletionCanceledAt : Option Time
deriving DecidableEq

def User.pendingDeletion (user : User) : Bool := user.deletionRequestedAt.isSome && user.deletionCanceledAt.isNone

/-- A role outside every business is one of the seeded system roles. -/
structure Role where
  id : UUID
  businessID : Option UUID
  name : String
  description : String
  permissions : List Permission
  isSystem : Bool
  unowned : businessID = none → isSystem = true
deriving DecidableEq

/-- The handlers treat a role of another business as missing. -/
def Role.visibleTo (role : Role) (business : UUID) : Prop :=
  role.businessID = none ∨ role.businessID = some business
deriving Decidable

inductive MemberStatus where
  | active
  | suspended
deriving DecidableEq

structure Member where
  businessID : UUID
  userID : UUID
  roleID : UUID
  status : MemberStatus
deriving DecidableEq

abbrev Member.key (member : Member) : UUID × UUID := (member.businessID, member.userID)

structure Invitation where
  id : UUID
  businessID : UUID
  roleID : Option UUID
  tokenHash : String
  expiresAt : Time
  acceptedAt : Option Time
  revokedAt : Option Time
  createdBy : UUID
deriving DecidableEq

/-- Pending means not accepted, not revoked and not expired. -/
def Invitation.pending (invitation : Invitation) (now : Time) : Bool :=
  invitation.acceptedAt.isNone && invitation.revokedAt.isNone && now < invitation.expiresAt

/-- The migration seeds the owner role; system roles are untouched. -/
structure RoleTable where
  table : Table Role.id
  seeded : ∃ role ∈ table.rows, role.id = systemRoleOwnerID ∧ role.isSystem = true

structure Tables where
  businesses : Table Business.id
  users : Table User.id
  roles : RoleTable
  members : Table Member.key
  invitations : Table Invitation.id

variable (roles : RoleTable) (tables : Tables) (id : UUID) (now : Time)

namespace RoleTable

/-- The owner role is a system role. -/
theorem owner_isSystem {role} (member : role ∈ roles.table.rows)
    (owner : role.id = systemRoleOwnerID) : role.isSystem = true := by
  obtain ⟨seed, seedMember, seedOwner, seedSystem⟩ := roles.seeded
  rw [roles.table.eq_of_key member seedMember (owner.trans seedOwner.symm)]
  exact seedSystem

def insert (roles : RoleTable) (role : Role) : Option RoleTable :=
  match inserted : roles.table.insert role with
  | none => none
  | some table => some
      { table := table
        seeded := by
          obtain ⟨seed, member, owner⟩ := roles.seeded
          refine ⟨seed, ?_, owner⟩
          rw [(Table.rows_of_insert inserted).1]
          exact List.mem_cons_of_mem role member }

/-- The statement has the condition `is_system = false` besides the identifier. -/
def custom (role : Role) : Bool := role.id = id && !role.isSystem

def update (name description : String) (permissions : List Permission) : RoleTable where
  table := roles.table.updateWhere (custom id)
    (fun role => { role with name := name, description := description, permissions := permissions })
    fun _ => rfl
  seeded := by
    obtain ⟨seed, member, owner, system⟩ := roles.seeded
    exact ⟨seed, Table.mem_updateWhere_of_not member (by simp [custom, system]), owner, system⟩

def delete : RoleTable where
  table := roles.table.deleteWhere (custom id)
  seeded := by
    obtain ⟨seed, member, owner, system⟩ := roles.seeded
    exact ⟨seed, Table.mem_deleteWhere.mpr ⟨member, by simp [custom, system]⟩, owner, system⟩

end RoleTable

namespace Tables

/-- The business lookup of the write endpoints skips deleted businesses. -/
def business (tables : Tables) (id : UUID) : Option Business :=
  (tables.businesses.find id).filter fun business => business.deletedAt.isNone

def user : Option User := tables.users.find id

def role : Option Role := tables.roles.table.find id

variable (business user role : UUID)

def membership : Option Member := tables.members.find (business, user)

def countMembersByRole : Nat :=
  tables.members.rows.countP fun member =>
    member.businessID = business ∧ member.roleID = role ∧ member.status = .active

def countInvitationsByRole : Nat :=
  tables.invitations.rows.countP fun invitation =>
    invitation.roleID = some role ∧ invitation.pending now

def countPendingByBusiness : Nat :=
  tables.invitations.rows.countP fun invitation =>
    invitation.businessID = business ∧ invitation.pending now

def updateRoleInTx : Tables :=
  { tables with
    members := tables.members.updateWhere (fun member => member.key = (business, user))
      (fun member => { member with roleID := role }) fun _ => rfl }

def deleteMemberInTx : Tables :=
  { tables with
    members := tables.members.deleteWhere fun member => member.key = (business, user) }

/-- Unused invitations of a condition are revoked, also expired ones. -/
def revokeWhere (condition : Invitation → Bool) : Tables :=
  { tables with
    invitations := tables.invitations.updateWhere
      (fun invitation => condition invitation && invitation.acceptedAt.isNone && invitation.revokedAt.isNone)
      (fun invitation => { invitation with revokedAt := some now }) fun _ => rfl }

def revokeByCreatorInTx (creator : UUID) : Tables :=
  tables.revokeWhere now fun invitation =>
    invitation.businessID = business ∧ invitation.createdBy = creator

/-- A terminal invitation gives up its role, so that the role can go. -/
def detachTerminalInvitations : Tables :=
  { tables with
    invitations := tables.invitations.updateWhere
      (fun invitation => invitation.roleID = some role ∧ ¬ invitation.pending now)
      (fun invitation => { invitation with roleID := none }) fun _ => rfl }

/-- The foreign keys restrict the deletion of a role. -/
def references : Bool :=
  tables.members.rows.any (fun member => member.roleID = role) ||
    tables.invitations.rows.any fun invitation => invitation.roleID = some role

def reassignMembers (old new : UUID) : Tables :=
  { tables with
    members := tables.members.updateWhere (fun member => member.businessID = business ∧ member.roleID = old)
      (fun member => { member with roleID := new }) fun _ => rfl }

def requestDeletionInTx : Tables :=
  { tables with
    users := tables.users.updateWhere (fun row => row.id = user && !row.pendingDeletion)
      (fun row => { row with deletionRequestedAt := some now, deletionCanceledAt := none })
      fun _ => rfl }

/-- The account holder's unused invitations go, in every business. -/
def revokeSent : Tables := tables.revokeWhere now fun invitation => invitation.createdBy = user

end Tables

end OneVoice.Access
