import OneVoice.Proof.Access.Effects

namespace OneVoice.Access

open Library Domain Tables RoleTable Request

/-- Memberships and invitations name roles that their business may use. -/
structure Tables.Sound (tables : Tables) : Prop where
  members : ∀ member ∈ tables.members.rows, ∃ role,
    tables.role member.roleID = some role ∧ role.visibleTo member.businessID
  invitations : ∀ invitation ∈ tables.invitations.rows, ∀ id, invitation.roleID = some id →
    ∃ role, tables.role id = some role ∧ role.visibleTo invitation.businessID

/-- The roles of members but owners, and of invitations. -/
def State.assigned (state : State) (business roleID : UUID) : Prop :=
  (∃ member ∈ state.tables.members.rows, member.businessID = business ∧
      member.roleID ≠ systemRoleOwnerID ∧ member.roleID = roleID) ∨
    ∃ invitation ∈ state.tables.invitations.rows, invitation.businessID = business ∧
      invitation.pending state.now ∧ invitation.roleID = some roleID

def State.held (state : State) (business : UUID) (permission : Permission) : Prop :=
  ∃ roleID role, state.assigned business roleID ∧ state.tables.role roleID = some role ∧
    permission ∈ role.permissions

/-- The actor of a request that hands out permissions in the business. -/
def Request.grantor (business : UUID) : Request → Option UUID
  | .createRole within actor _ _ => if within = business then some actor else none
  | .updateRole within actor _ _ => if within = business then some actor else none
  | .deleteRole within actor _ _ => if within = business then some actor else none
  | .updateMemberRole within actor _ _ => if within = business then some actor else none
  | .createInvitation within actor _ _ _ _ => if within = business then some actor else none
  | _ => none

/-- No owner of the business hands out permissions. -/
def WithoutOwner (business : UUID) (state : State) : Event → Prop
  | .served _ request => ∀ actor, request.grantor business = some actor →
      ∀ member, state.tables.membership business actor = some member → member.roleID ≠ systemRoleOwnerID
  | _ => True

/-- The role that a request creates or edits in the business. -/
def Request.writes (business roleID : UUID) : Request → Prop
  | .createRole within _ id _ => within = business ∧ id = roleID
  | .updateRole within _ id _ => within = business ∧ id = roleID
  | _ => False

/-- The roles that a request creates, edits or hands out in the business. -/
def touches (business : UUID) (state : State) (event : Event) (roleID : UUID) : Prop :=
  match event with
  | .served _ request => request.writes business roleID ∨ request.handsOut state.now state.tables business roleID
  | _ => False

/-- A state of the run assigns the role, or a request touches it. -/
def Reached (business : UUID) (start : State) (events : List Event) (final : State) (roleID : UUID) : Prop :=
  let step := Guarded Step (WithoutOwner business)
  (∃ past future middle, events = past ++ future ∧ Run step start past middle ∧
      Run step middle future final ∧ middle.assigned business roleID) ∨
    ∃ past event future source target, events = past ++ event :: future ∧
      Run step start past source ∧ step source event target ∧ Run step target future final ∧
      touches business source event roleID

section

variable (allowed : Permission → Prop) (business : UUID)

/-- As far as the business uses the role, it grants allowed ones. -/
def Tables.Within (tables : Tables) (roleID : UUID) : Prop :=
  ∀ role, tables.role roleID = some role → role.visibleTo business →
    ∀ permission ∈ role.permissions, allowed permission

def State.Bounded (state : State) : Prop :=
  ∀ roleID, state.assigned business roleID → state.tables.Within allowed business roleID

end

variable {allowed : Permission → Prop} {business : UUID}

/-- An actor without the owner role hands out only what is allowed. -/
theorem grantable_allowed {state : State} (sound : state.tables.Sound) (bounded : state.Bounded allowed business)
    {fails : Bool} {actor : UUID} {context : BusinessContext}
    (admitted : contextFor fails state.tables business actor = .ok context)
    (common : ∀ member, state.tables.membership business actor = some member → member.roleID ≠ systemRoleOwnerID)
    {permissions : List Permission} (grantable : context.Grantable permissions) :
    ∀ permission ∈ permissions, allowed permission := by
  obtain ⟨_, member, role, found, _, granted, rfl⟩ := contextFor_ok admitted
  obtain ⟨listed, key⟩ := Table.find_eq_some.mp found
  have here : member.businessID = business := congrArg Prod.fst key
  obtain ⟨_, same, visible⟩ := sound.members member listed
  rw [granted] at same
  cases same
  rw [here] at visible
  have within := bounded member.roleID (.inl ⟨member, listed, here, common member found, rfl⟩)
  rcases grantable with owner | subset
  · exact absurd owner (common member found)
  · intro permission member
    exact within role granted visible permission (subset member)

section

variable {fails : Bool} {now : Time} {tables next : Tables} {request : Request}

section

variable (served : perform fails now tables request = .ok next)

include served

variable {id : UUID} {role : Role}

/-- A role is as before the request or was written by an actor who may. -/
theorem role_origin (found : next.role id = some role) :
    (tables.role id = some role ∧ ∀ within, ¬ request.writes within id) ∨
      ∃ within actor context, role.businessID = some within ∧ request.grantor within = some actor ∧
        contextFor fails tables within actor = .ok context ∧ context.Grantable role.permissions := by
  cases effect_of_perform served with
  | @createRole within actor _ _ _ _ _ admitted inserted named owned grantable =>
    rw [Tables.role, Table.find_of_insert (table_of_insert inserted)] at found
    split at found
    · cases found
      exact .inr ⟨within, actor, _, owned, by simp [grantor], admitted, grantable⟩
    · rename_i other
      exact .inl ⟨found, fun _ writes => other (named.trans writes.2)⟩
  | @updateRole within actor _ _ _ existing _ _ _ admitted known visible custom _ grantable =>
    rw [Tables.role, find_update] at found
    obtain ⟨old, oldFound, rfl⟩ := Option.map_eq_some_iff.mp found
    have named : old.id = id := (Table.find_eq_some.mp oldFound).2
    split
    · rename_i edits
      simp only [RoleTable.custom, Bool.and_eq_true, decide_eq_true_eq] at edits
      have owned : old.businessID = some within := by
        rw [← named, edits.1] at oldFound
        rw [role, oldFound] at known
        cases known
        rcases visible with none | owned
        · simp [Role.unowned _ none] at custom
        · exact owned
      exact .inr ⟨within, actor, _, owned, by simp [grantor], admitted, grantable⟩
    · rename_i keeps
      refine .inl ⟨oldFound, fun _ writes => keeps ?_⟩
      rw [role, writes.2, oldFound] at known
      cases known
      simp [RoleTable.custom, named, writes.2, custom]
  | deleteRole =>
    rw [Tables.role, find_delete] at found
    exact .inl ⟨(Option.filter_eq_some_iff.mp found).1, fun _ writes => writes⟩
  | updateMemberRole =>
    rw [Tables.role, setMemberRole_roles] at found
    exact .inl ⟨found, fun _ writes => writes⟩
  | cancelDeletion served =>
    rw [cancelDeletion_ok served] at found
    exact .inl ⟨found, fun _ writes => writes⟩
  | _ => exact .inl ⟨found, fun _ writes => writes⟩

/-- A role that memberships or invitations name outlives the request. -/
theorem role_survives (found : tables.role id = some role) :
    (∃ kept, next.role id = some kept ∧ kept.businessID = role.businessID) ∨ next.references id = false := by
  cases effect_of_perform served with
  | createRole _ inserted =>
    exact .inl ⟨role, Table.find_kept (table_of_insert inserted) found, rfl⟩
  | updateRole =>
    left
    rw [Tables.role, find_update]
    rw [Tables.role] at found
    rw [found]
    refine ⟨_, rfl, ?_⟩
    beta_reduce
    split <;> rfl
  | @deleteRole _ _ deleted _ _ _ _ _ _ free =>
    by_cases goes : deleted = id
    · exact .inr (goes ▸ free)
    · left
      have named : role.id = id := (Table.find_eq_some.mp found).2
      refine ⟨role, ?_, rfl⟩
      rw [Tables.role, find_delete, Option.filter_eq_some_iff]
      exact ⟨found, by simp [custom, named, Ne.symm goes]⟩
  | updateMemberRole =>
    exact .inl ⟨role, by rw [Tables.role, setMemberRole_roles]; exact found, rfl⟩
  | cancelDeletion served =>
    rw [cancelDeletion_ok served]
    exact .inl ⟨role, found, rfl⟩
  | _ => exact .inl ⟨role, found, rfl⟩

/-- A role that is handed out is one of its business, and the actor's to grant unless an invitation
carries it already. -/
theorem handed_role {roleID} (sound : tables.Sound) (hands : request.handsOut now tables business roleID) :
    ∃ role, tables.role roleID = some role ∧ role.visibleTo business ∧
      ((∃ invitation ∈ tables.invitations.rows, invitation.businessID = business ∧
          invitation.pending now ∧ invitation.roleID = some roleID) ∨
        ∃ actor context, request.grantor business = some actor ∧
          contextFor fails tables business actor = .ok context ∧ context.Grantable role.permissions) := by
  cases effect_of_perform served with
  | @deleteRole _ actor _ _ _ _ admitted chosen moves =>
    obtain ⟨rfl, wanted, used⟩ := hands
    obtain ⟨_, _, _, role, found, visible, grantable⟩ := chosen roleID ((moves used).trans wanted)
    exact ⟨role, found, visible, .inr ⟨actor, _, by simp [grantor], admitted, grantable⟩⟩
  | @updateMemberRole _ actor _ _ _ role admitted found visible grantable
  | @createInvitation _ actor _ _ _ _ _ role _ _ admitted _ found visible grantable =>
    obtain ⟨rfl, rfl⟩ := hands
    exact ⟨role, found, visible, .inr ⟨actor, _, by simp [grantor], admitted, grantable⟩⟩
  | accept =>
    obtain ⟨invitation, listed, pending, rfl, named⟩ := hands
    obtain ⟨role, found, visible⟩ := sound.invitations invitation listed roleID named
    exact ⟨role, found, visible, .inl ⟨invitation, listed, rfl, pending, named⟩⟩
  | _ => exact hands.elim

theorem usable_role_survives (before : ∃ role, tables.role id = some role ∧ role.visibleTo business)
    (named : next.references id = true) : ∃ role, next.role id = some role ∧ role.visibleTo business := by
  obtain ⟨role, found, visible⟩ := before
  rcases role_survives served found with ⟨kept, keptFound, same⟩ | free
  · exact ⟨kept, keptFound, by rw [Role.visibleTo, same]; exact visible⟩
  · simp [free] at named

/-- Every request keeps the roles of memberships and invitations in place. -/
theorem sound_served (sound : tables.Sound) : next.Sound where
  members member listed := by
    apply usable_role_survives served
    · rcases member_origin served listed with old | hands
      · exact sound.members member old
      · obtain ⟨role, found, visible, _⟩ := handed_role served sound hands
        exact ⟨role, found, visible⟩
    · simp only [references, Bool.or_eq_true, List.any_eq_true, decide_eq_true_eq]
      exact .inl ⟨member, listed, rfl⟩
  invitations invitation listed id carries := by
    apply usable_role_survives served
    · rcases invitation_origin served listed with ⟨old, oldListed, descends⟩ | ⟨_, _, _, role, same, hands⟩
      · rw [descends.business]
        exact sound.invitations old oldListed id (descends.role id carries)
      · rw [carries] at same
        cases same
        obtain ⟨role, found, visible, _⟩ := handed_role served sound hands
        exact ⟨role, found, visible⟩
    · simp only [references, Bool.or_eq_true, List.any_eq_true, decide_eq_true_eq]
      exact .inr ⟨invitation, listed, carries⟩

end

end

section

variable {first last : State} {event : Event}

variable {roleID : UUID}

/-- Time and requests add only roles that a request hands out. -/
theorem assigned_origin (taken : Step first event last) (assigned : last.assigned business roleID) :
    first.assigned business roleID ∨ touches business first event roleID := by
  cases taken with
  | served served =>
    rcases assigned with ⟨member, listed, rfl, common, rfl⟩ | ⟨invitation, listed, rfl, pending, named⟩
    · rcases member_origin served listed with old | hands
      · exact .inl (.inl ⟨member, old, rfl, common, rfl⟩)
      · exact .inr (.inr hands)
    · rcases invitation_origin served listed with ⟨old, oldListed, descends⟩ | ⟨_, _, _, role, same, hands⟩
      · exact .inl (.inr ⟨old, oldListed, descends.business.symm, descends.pending pending,
          descends.role roleID named⟩)
      · rw [named] at same
        cases same
        exact .inr (.inr hands)
  | refused => exact .inl assigned
  | passed duration =>
    left
    rcases assigned with member | ⟨invitation, listed, here, pending, named⟩
    · exact .inl member
    · refine .inr ⟨invitation, listed, here, ?_, named⟩
      simp only [Invitation.pending, Bool.and_eq_true, decide_eq_true_eq] at pending ⊢
      exact ⟨pending.1, Nat.lt_of_le_of_lt (Nat.le_add_right _ _) pending.2⟩

/-- A role stays within the allowed permissions, touched or not. -/
theorem within_step (taken : Step first event last) (guard : WithoutOwner business first event)
    (sound : first.tables.Sound) (bounded : first.Bounded allowed business)
    (before : first.tables.Within allowed business roleID ∨ touches business first event roleID) :
    last.tables.Within allowed business roleID := by
  cases taken with
  | refused | passed => exact before.resolve_right id
  | served served =>
    intro role found visible permission listed
    rcases role_origin served found with ⟨old, unwritten⟩ |
      ⟨within, actor, context, owned, grantor, admitted, grantable⟩
    · rcases before with within | writes | hands
      · exact within role old visible permission listed
      · exact (unwritten business writes).elim
      · obtain ⟨_, same, _, origin⟩ := handed_role served sound hands
        rw [old] at same
        cases same
        rcases origin with carried | ⟨actor, context, grantor, admitted, grantable⟩
        · exact bounded roleID (.inr carried) role old visible permission listed
        · exact grantable_allowed sound bounded admitted (guard actor grantor) grantable permission listed
    · have here : within = business := by
        rcases visible with none | mine
        · simp [owned] at none
        · exact Option.some.inj (owned.symm.trans mine)
      subst here
      exact grantable_allowed sound bounded admitted (guard actor grantor) grantable permission listed

/-- The invariant of a run without owners. -/
structure State.Contained (allowed : Permission → Prop) (business : UUID) (state : State) : Prop where
  sound : state.tables.Sound
  bounded : state.Bounded allowed business

theorem contained_step (taken : Guarded Step (WithoutOwner business) first event last)
    (contained : first.Contained allowed business) : last.Contained allowed business := by
  obtain ⟨taken, guard⟩ := taken
  constructor
  · cases taken with
    | served served => exact sound_served served contained.sound
    | refused | passed => exact contained.sound
  · intro roleID assigned
    apply within_step taken guard contained.sound contained.bounded
    exact (assigned_origin taken assigned).imp_left (contained.bounded roleID)

/-- A role that has come within the allowed permissions never leaves them. -/
theorem within_run {labels} (run : Run (Guarded Step (WithoutOwner business)) first labels last)
    (contained : first.Contained allowed business) (within : first.tables.Within allowed business roleID) :
    last.tables.Within allowed business roleID := by
  have both : last.Contained allowed business ∧ last.tables.Within allowed business roleID := by
    apply run.invariant _ ⟨contained, within⟩
    rintro first event last taken ⟨contained, within⟩
    exact ⟨contained_step taken contained,
      within_step taken.1 taken.2 contained.sound contained.bounded (.inl within)⟩
  exact both.2

end

/-- In a run in which no owner hands out permissions, nobody else ends with a permission that none
of them held at the start. -/
theorem privileges_never_escalate {start final : State} {events : List Event} (sound : start.tables.Sound)
    (run : Run (Guarded Step (WithoutOwner business)) start events final) :
    (∀ permission, final.held business permission → start.held business permission) ∧
      ∀ roleID role, Reached business start events final roleID →
        final.tables.role roleID = some role → role.visibleTo business →
        ∀ permission ∈ role.permissions, start.held business permission := by
  have contained : start.Contained (start.held business) business := by
    refine ⟨sound, ?_⟩
    intro roleID assigned role found _ permission listed
    exact ⟨roleID, role, assigned, found, listed⟩
  have kept : ∀ {labels : List Event} {state : State},
      Run (Guarded Step (WithoutOwner business)) start labels state →
        state.Contained (start.held business) business := by
    intro labels state run
    apply run.invariant _ contained
    intro first event last taken
    exact contained_step taken
  constructor
  · rintro permission ⟨roleID, role, assigned, found, listed⟩
    have visible : role.visibleTo business := by
      rcases assigned with ⟨member, memberListed, rfl, _, rfl⟩ | ⟨invitation, invitationListed, rfl, _, named⟩
      · obtain ⟨_, same, visible⟩ := (kept run).sound.members member memberListed
        rw [found] at same
        cases same
        exact visible
      · obtain ⟨_, same, visible⟩ := (kept run).sound.invitations invitation invitationListed _ named
        rw [found] at same
        cases same
        exact visible
    exact (kept run).bounded roleID assigned role found visible permission listed
  · intro roleID role reached found visible
    rcases reached with ⟨past, future, middle, rfl, before, after, assigned⟩ |
      ⟨past, event, future, source, target, rfl, before, taken, after, touched⟩
    · exact within_run after (kept before) ((kept before).bounded roleID assigned) role found visible
    · have within : target.tables.Within (start.held business) business roleID :=
        within_step taken.1 taken.2 (kept before).sound (kept before).bounded (.inr touched)
      exact within_run after (kept (before.snoc taken)) within role found visible

theorem Sample.sound : Sample.tables.Sound where
  members member listed := by
    simp only [Sample.tables, List.mem_cons, List.not_mem_nil, or_false] at listed
    rcases listed with rfl | rfl | rfl
    · exact ⟨Sample.ownerRole, rfl, .inl rfl⟩
    · exact ⟨Sample.ownerRole, rfl, .inl rfl⟩
    · exact ⟨Sample.managerRole, rfl, .inr rfl⟩
  invitations invitation listed := by
    simp [Sample.tables] at listed

/-- A manager who invites another manager raises nothing. -/
theorem privileges_never_escalate_invitation :
    ∃ final, Run (Guarded Step (WithoutOwner 10)) Sample.start
        [.served false (.createInvitation 10 22 40 "token" 30 none)] final ∧ final.assigned 10 30 ∧
      ∀ permission, final.held 10 permission → Sample.start.held 10 permission := by
  exact Run.reaches
    (.single ⟨.served rfl, by
      intro actor named member found
      cases named
      cases found
      decide⟩)
    fun run => ⟨.inr ⟨_, .head _, rfl, by decide, rfl⟩,
    (privileges_never_escalate Sample.sound run).1⟩

end OneVoice.Access
