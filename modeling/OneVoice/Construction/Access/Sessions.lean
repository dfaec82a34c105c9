/- The transactions of the member, role and account changes side by side on one database, and the cache
of `pkg/authz/cache.go`. A repeatable-read transaction fails when it meets a row written since its
snapshot. -/

import OneVoice.Construction.Access.Requests
import OneVoice.Library.Locks
import OneVoice.Library.ReadThrough

namespace OneVoice.Access

open Library Domain

/-- What is left to do in the transaction of an admitted request. -/
inductive Work where
  | changeRole (business target role : UUID) (permissions : List Permission)
  | removeMember (business target : UUID)
  | deleteRole (business id : UUID) (reassignTo : Option UUID)
  | requestDeletion (user : UUID)

inductive Admits (lookupFails : Bool) (now : Time) (tables : Tables) : Request → Work → Prop
  | changeRole {business actor target role context permissions} :
      contextFor lookupFails tables business actor = .ok context →
      tables.admitMemberRole context target role = .ok permissions →
        Admits lookupFails now tables (.updateMemberRole business actor target role)
          (.changeRole business target role permissions)
  | removeMember {business actor target context} : contextFor lookupFails tables business actor = .ok context →
      tables.admitRemoveMember context target = .ok () →
        Admits lookupFails now tables (.removeMember business actor target) (.removeMember business target)
  | deleteRole {business actor id reassignTo target context} :
      contextFor lookupFails tables business actor = .ok context →
      tables.admitDeleteRole now context id reassignTo = .ok target →
        Admits lookupFails now tables (.deleteRole business actor id reassignTo) (.deleteRole business id target)
  | requestDeletion {user passwordMatches reason} :
      tables.admitDeletion user passwordMatches reason = .ok () →
        Admits lookupFails now tables (.requestDeletion user passwordMatches reason) (.requestDeletion user)

variable (tables view : Tables) (now : Time) (business : UUID)

namespace Tables

/-- The rows that the last-owner check selects for update. -/
def activeKeys : List (UUID × UUID) :=
  (tables.members.rows.filter fun member =>
    member.businessID = business ∧ member.status = .active).map Member.key

def holderKeys (role : UUID) : List (UUID × UUID) :=
  (tables.members.rows.filter fun member =>
    member.businessID = business ∧ member.roleID = role).map Member.key

theorem key_moved (role : UUID) (member : Member) : Member.key { member with roleID := role } = member.key := rfl

def moveMembers (keys : List (UUID × UUID)) (role : UUID) : Tables :=
  { tables with
    members := tables.members.updateWhere (fun member => keys.any fun key => key = member.key)
      (fun member => { member with roleID := role }) (key_moved role) }

/-- Only invitations that the snapshot shows can be revoked. -/
def revokeSeen (creator : UUID) : Tables :=
  tables.revokeWhere now fun invitation => (view.invitations.find invitation.id).isSome ∧
    invitation.businessID = business ∧ invitation.createdBy = creator

end Tables

namespace Work

/-- The rows that a transaction writes, as its snapshot shows them. -/
def writes : Work → List (UUID × UUID)
  | .changeRole business target _ _ => [(business, target)]
  | .removeMember business target => [(business, target)]
  | .deleteRole business id (some _) => view.holderKeys business id
  | .deleteRole _ _ none => []
  | .requestDeletion _ => []

/-- The rows that the transaction locks before it commits. -/
def locks (work : Work) : List (UUID × UUID) :=
  match work with
  | .changeRole business .. => view.activeKeys business ++ work.writes view
  | .removeMember business _ => view.activeKeys business ++ work.writes view
  | _ => work.writes view

/-- The statements check the snapshot and write the newest rows, where the foreign keys are checked.
-/
def apply (now : Time) (view tables : Tables) : Work → Except Refusal Tables
  | .changeRole business target role permissions => do
      ensureOwnerExistsAfter view business (.demote target)
      require (view.membership business target).isSome .membershipNotFound
      require (tables.role role).isSome .internal
      let changed := tables.updateRoleInTx business target role
      if permMembersInvite ∈ permissions then return changed
      else return changed.revokeSeen view now business target
  | .removeMember business target => do
      ensureOwnerExistsAfter view business (.remove target)
      require (view.membership business target).isSome .membershipNotFound
      return (tables.deleteMemberInTx business target).revokeSeen view now business target
  | .deleteRole business id reassignTo => do
      require (reassignTo.all fun new => (tables.role new).isSome) .internal
      let moved := match reassignTo with
        | some new => tables.moveMembers (view.holderKeys business id) new
        | none => tables
      let detached := moved.detachTerminalInvitations now id
      require (¬ detached.references id) .roleInUse
      require (detached.roles.table.rows.any (RoleTable.custom id)) .roleNotFound
      return { detached with roles := detached.roles.delete id }
  | .requestDeletion user => tables.deletionInTx now user

/-- The deletion request runs at the default isolation level. -/
def repeatableRead : Work → Bool
  | .requestDeletion _ => false
  | _ => true

/-- The transactions that count the owners of the business. -/
def mutates : Work → Prop
  | .changeRole within _ _ _ => within = business
  | .removeMember within _ => within = business
  | _ => False

end Work

/-- An open request: the tables its checks saw, and its snapshot. -/
structure Session where
  work : Work
  checked : Tables
  view : Option Tables

structure Server where
  tables : Tables
  now : Time
  locks : Locks Nat (UUID × UUID)
  sessions : Nat → Option Session

inductive Action where
  | enter (id : Nat) (lookupFails : Bool) (request : Request)
  | snapshot (id : Nat)
  | lock (id : Nat) (key : UUID × UUID)
  | commit (id : Nat)
  | rollback (id : Nat)
  | cancelDeletion (user : UUID)
  | passed (duration : Time)

namespace Server

def idle : Server where
  tables := tables
  now := now
  locks := ⟨fun _ => 0, fun _ => none⟩
  sessions := fun _ => none

def setSession (server : Server) (id : Nat) (session : Option Session) : Server :=
  { server with sessions := Function.update server.sessions id session }

inductive Step : Server → Action → Server → Prop
  | enter {server : Server} {id lookupFails request work} :
      server.sessions id = none → Admits lookupFails server.now server.tables request work →
        Step server (.enter id lookupFails request) (server.setSession id (some ⟨work, server.tables, none⟩))
  | snapshot {server : Server} {id} {session : Session} :
      server.sessions id = some session → session.work.repeatableRead → session.view = none →
        Step server (.snapshot id)
          { server.setSession id (some { session with view := some server.tables }) with
            locks := server.locks.snapshot id }
  | lock {server : Server} {id} {session : Session} {view} {hold : Hold (UUID × UUID)} {key} :
      server.sessions id = some session → session.view = some view →
      key ∈ session.work.locks view → server.locks.held id = some hold →
      server.locks.Free id key → hold.seen key = server.locks.version key →
        Step server (.lock id key) { server with locks := server.locks.lock id hold key }
  | commit {server : Server} {id} {session : Session} {view tables} {hold : Hold (UUID × UUID)} :
      server.sessions id = some session → session.work.repeatableRead →
      session.view = some view → server.locks.held id = some hold →
      (∀ key ∈ session.work.locks view, key ∈ hold.locked) →
      session.work.apply server.now view server.tables = .ok tables →
        Step server (.commit id)
          { server.setSession id none with
            tables := tables, locks := server.locks.write id (session.work.writes view) }
  | commitReadCommitted {server : Server} {id} {session : Session} {tables} :
      server.sessions id = some session → session.work.repeatableRead = false →
      session.work.apply server.now server.tables server.tables = .ok tables →
        Step server (.commit id) { server.setSession id none with tables := tables }
  | rollback {server : Server} {id session} :
      server.sessions id = some session →
        Step server (.rollback id) { server.setSession id none with locks := server.locks.close id }
  | cancelDeletion {server : Server} {user tables} :
      server.tables.cancelDeletion server.now user = .ok tables →
        Step server (.cancelDeletion user) { server with tables := tables }
  | passed {server : Server} (duration : Time) :
      Step server (.passed duration) { server with now := server.now + duration }

end Server

structure CachedMember where
  roleID : UUID
  status : MemberStatus
deriving DecidableEq

structure CachedRole where
  permissions : List Permission
deriving DecidableEq

/-- The membership cache and the role cache have keys of their own. -/
inductive CacheKey where
  | member (business user : UUID)
  | role (id : UUID)
deriving DecidableEq

inductive Cached where
  | member (member : CachedMember)
  | role (role : CachedRole)
deriving DecidableEq

def loadMembership (user : UUID) : Option CachedMember :=
  (tables.membership business user).map fun member => ⟨member.roleID, member.status⟩

def loadRole (id : UUID) : Option CachedRole := (tables.role id).map fun role => ⟨role.permissions⟩

def load : CacheKey → Option Cached
  | .member business user => (loadMembership tables business user).map .member
  | .role id => (loadRole tables id).map .role

/-- Thirty seconds. -/
def cacheTTL : Nat := 30 * 1000

/-- The transactions that write memberships and roles, on snapshots. -/
inductive Mutation where
  | session (view : Tables) (work : Work)
  | createRole (role : Role)
  | updateRole (id : UUID) (name description : String) (permissions : List Permission)
  | accept (user : UUID) (tokenHash : String)

namespace Mutation

def apply (now : Time) (tables : Tables) : Mutation → Except Refusal Tables
  | .session view work => work.apply now view tables
  | .createRole role => do
      require (¬ tables.nameTaken role.id role.businessID role.name) .roleNameTaken
      let roles ← expect (tables.roles.insert role) .internal
      return { tables with roles := roles }
  | .updateRole id name description permissions => do
      let existing ← expect ((tables.role id).filter fun role => !role.isSystem) .roleNotFound
      require (¬ tables.nameTaken id existing.businessID name) .roleNameTaken
      return { tables with roles := tables.roles.update id name description permissions }
  | .accept user tokenHash => tables.accept now user tokenHash

/-- What is removed from the cache after the commit, in this order. -/
def invalidates : Mutation → List CacheKey
  | .session _ (.changeRole business target _ _) => [.member business target]
  | .session _ (.removeMember business target) => [.member business target]
  | .session view (.deleteRole business id (some _)) =>
    .role id :: (view.holderKeys business id).map fun holder => .member business holder.2
  | .session _ (.deleteRole _ id none) => [.role id]
  | .session _ (.requestDeletion _) => []
  | .createRole _ => []
  | .updateRole id _ _ _ => [.role id]
  | .accept user tokenHash =>
    ((tables.invitations.rows.find? fun invitation => invitation.tokenHash = tokenHash).map
      fun invitation => .member invitation.businessID user).toList

end Mutation

/-- A transaction takes the tables to new ones and invalidates keys. -/
def Commits (keys : List CacheKey) (next : Tables) : Prop :=
  ∃ now mutation, Mutation.apply now tables mutation = .ok next ∧ keys = mutation.invalidates tables

namespace Cache

/-- A process of the service: cache, open reads, open invalidations. -/
abbrev Process := ReadThrough.State Tables CacheKey Cached

abbrev Action := ReadThrough.Action Tables CacheKey

abbrev Step : Process → Action → Process → Prop := ReadThrough.Step load cacheTTL Commits

/-- The cache of a process that has just started. -/
def start : Process where
  store := tables
  now := now
  entries := fun _ => none
  reads := fun _ => none
  removals := fun _ => none

end Cache

end OneVoice.Access
