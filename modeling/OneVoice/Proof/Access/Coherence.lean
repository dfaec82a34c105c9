/- When the access cache forgets a changed membership or role. A read that has loaded a row before
the commit may add it after the invalidation. -/

import OneVoice.Proof.Access.Effects

namespace OneVoice.Access

open Library Domain List Mutation ReadThrough

/-- The rows whose keys are not listed are still there. -/
structure Spares (tables next : Tables) (keys : List CacheKey) : Prop where
  members : ∀ business user row, .member business user ∉ keys →
    tables.membership business user = some row → next.membership business user = some row
  roles : ∀ id role, .role id ∉ keys → tables.role id = some role → next.role id = some role

section

variable {tables next : Tables} {business user id : UUID} {row : Member} {role : Role}

theorem role_update {edited name description permissions}
    (found : tables.role id = some role) (other : id ≠ edited) :
    (tables.roles.update edited name description permissions).table.find id = some role := by
  have named : role.id = id := (Table.find_eq_some.mp found).2
  rw [RoleTable.find_update]
  show Option.map _ (tables.role id) = _
  rw [found]
  simp [RoleTable.custom, named, other]

/-- A session changes no row that it does not invalidate. -/
theorem spares_of_work {now : Time} {view : Tables} {work : Work} (applied : work.apply now view tables = .ok next) :
    Spares tables next ((session view work).invalidates tables) := by
  constructor
  · intro business user row spared found
    refine (work.members_of_apply applied _ fun written => spared ?_).trans found
    cases work with
    | changeRole | removeMember => simpa [Work.writes, invalidates] using written
    | deleteRole within held reassignTo =>
      cases reassignTo with
      | none => cases written
      | some new =>
        obtain ⟨member, kept, key⟩ := mem_map.mp written
        have inside := (mem_filter.mp kept).2
        simp only [decide_eq_true_eq] at inside
        obtain rfl : within = business := inside.1.symm.trans (congrArg Prod.fst key)
        exact mem_cons_of_mem _ (mem_map.mpr ⟨_, written, rfl⟩)
    | requestDeletion => cases written
  · intro id role spared found
    cases work with
    | changeRole =>
      simp only [Work.apply, bind_ok] at applied
      obtain ⟨_, _, _, _, _, _, written⟩ := applied
      split at written <;> cases written <;> exact found
    | removeMember | requestDeletion =>
      simp only [Work.apply, Tables.deletionInTx, bind_ok, pure_ok] at applied
      obtain ⟨_, _, _, _, rfl⟩ := applied
      exact found
    | deleteRole within deleted reassignTo =>
      simp only [Work.apply, bind_ok, pure_ok] at applied
      obtain ⟨_, _, _, _, _, _, rfl⟩ := applied
      have other : id ≠ deleted := by
        rintro rfl
        cases reassignTo <;> simp [invalidates] at spared
      cases reassignTo <;> exact role_delete found other

/-- A transaction changes no row that it does not invalidate. -/
theorem spares_of_apply {now : Time} {mutation : Mutation} (applied : mutation.apply now tables = .ok next) :
    Spares tables next (mutation.invalidates tables) := by
  cases mutation with
  | session view work => exact spares_of_work applied
  | createRole created =>
    simp only [apply, bind_ok, expect_ok, pure_ok] at applied
    obtain ⟨_, _, roles, inserted, rfl⟩ := applied
    exact ⟨fun _ _ _ _ found => found, fun _ _ _ found =>
      Table.find_kept (RoleTable.table_of_insert inserted) found⟩
  | updateRole edited name description permissions =>
    simp only [apply, bind_ok, pure_ok] at applied
    obtain ⟨_, _, _, _, rfl⟩ := applied
    refine ⟨fun _ _ _ _ found => found, fun id role spared found => ?_⟩
    exact role_update found (by simpa [invalidates] using spared)
  | accept account tokenHash =>
    simp only [apply, Tables.accept, bind_ok, expect_ok, pure_ok] at applied
    obtain ⟨_, _, _, _, _, _, _, _, _, _, _, _, _, _, members, inserted, rfl⟩ := applied
    exact ⟨fun _ _ _ _ found => Table.find_kept inserted found, fun _ _ _ found => found⟩

theorem Spares.load {key old keys} (spares : Spares tables next keys)
    (spared : key ∉ keys) (found : Access.load tables key = some old) : Access.load next key = some old := by
  cases key with
  | member business user =>
    simp only [Access.load, loadMembership, Option.map_map, Option.map_eq_some_iff] at found ⊢
    obtain ⟨row, stored, rfl⟩ := found
    exact ⟨row, spares.members business user row spared stored, rfl⟩
  | role id =>
    simp only [Access.load, loadRole, Option.map_map, Option.map_eq_some_iff] at found ⊢
    obtain ⟨role, stored, rfl⟩ := found
    exact ⟨role, spares.roles id role spared stored, rfl⟩

end

namespace Cache

/-- When a key is removed, no read has an outdated row of it to add. -/
def AddsInTime (process : Process) (action : Action) : Prop := ReadThrough.InTime load process action

/-- A read begun after the invalidation answers with a row held since. -/
theorem invalidated_reads_current {source target returned last : Process} {writer read : Nat} {key : CacheKey}
    {old value : Cached} {during after : List Action} (commit : Step source (.commit writer target.store) target)
    (before : load source.store key = some old) (changed : load target.store key ≠ some old)
    (invalidation : Run (Guarded Step AddsInTime) target during returned) (done : returned.removals writer = some [])
    (rest : Run (Guarded Step AddsInTime) returned after last) (begins : returned.reads read = none)
    (answered : last.reads read = some (key, .answered value)) :
    (∃ tables ∈ target.store :: committed (during ++ after), load tables key = some value) ∧
      (committed (during ++ after) = [] → value ≠ old) := by
  generalize stored : target.store = next at commit
  cases commit with
  | @commit _ keys _ idle commits =>
    obtain ⟨now, mutation, applied, rfl⟩ := commits
    have listed : key ∈ mutation.invalidates source.store := by
      by_contra spared
      exact changed ((spares_of_apply applied).load spared before)
    have held := answered_held invalidation (Function.update_self ..) listed done rest begins answered
    refine ⟨held, ?_⟩
    intro alone
    rintro rfl
    obtain ⟨tables, current, found⟩ := held
    rw [alone, mem_singleton] at current
    rw [current] at found
    exact changed found

namespace Sample

open Access.Sample

/-- The membership of the manager. -/
def manager : CacheKey := .member 10 22

/-- The manager becomes a reader. -/
def demotion : Mutation := .session tables (.changeRole 10 22 31 ["content.read"])

def demoted : Tables := (tables.updateRoleInTx 10 22 31).revokeSeen tables 1000 10 22

theorem demotion_apply : demotion.apply 1000 tables = .ok demoted := by
  rfl

theorem commits_demotion : Commits tables [manager] demoted := ⟨1000, demotion, demotion_apply, rfl⟩

theorem load_tables : load tables manager = some (.member ⟨30, .active⟩) := by
  decide

theorem load_demoted : load demoted manager = some (.member ⟨31, .active⟩) := by
  decide

/-- A read has loaded the manager's membership and not yet added it. -/
def loading : Process :=
  ((start tables 1000).setRead 0 manager .missed).setRead 0 manager (.loaded (.member ⟨30, .active⟩))

end Sample

open Cache.Sample

theorem invalidated_reads_current_demotion :
    ∃ last : Process, last.reads 0 = some (manager, .answered (.member ⟨31, .active⟩)) ∧
      (∃ tables ∈ demoted :: committed ([.remove 0 manager] ++ [.look 0 manager, .load 0, .add 0]),
        load tables manager = some (.member ⟨31, .active⟩)) ∧ (committed ([.remove 0 manager] ++
          ([.look 0 manager, .load 0, .add 0] : List Action)) = [] →
        Cached.member ⟨31, .active⟩ ≠ .member ⟨30, .active⟩) := by
  let target : Process := { (start Access.Sample.tables 1000).setRemovals 0 [manager] with store := demoted }
  let returned : Process := (target.setEntry manager none).setRemovals 0 []
  let loaded := (returned.setRead 0 manager .missed).setRead 0 manager (.loaded (.member ⟨31, .active⟩))
  let last : Process := (loaded.setEntry manager
    (Expiring.set 1000 cacheTTL (.member ⟨31, .active⟩))).setRead 0 manager (.answered (.member ⟨31, .active⟩))
  have commit : Step (start Access.Sample.tables 1000) (.commit 0 target.store) target :=
    .commit rfl commits_demotion
  have invalidation : Run (Guarded Step AddsInTime) target [.remove 0 manager] returned := by
    refine .single ⟨.remove rfl, ?_⟩
    intro read value pending
    cases pending
  have loads : Run (Guarded Step AddsInTime) returned [.look 0 manager, .load 0] loaded :=
    .cons ⟨.miss rfl rfl, trivial⟩ (.single ⟨.load rfl load_demoted, trivial⟩)
  have rest : Run (Guarded Step AddsInTime) returned [.look 0 manager, .load 0, .add 0] last :=
    loads.snoc ⟨.add rfl, trivial⟩
  have changed : load target.store manager ≠ some (.member ⟨30, .active⟩) := by
    decide
  have answered : last.reads 0 = some (manager, .answered (.member ⟨31, .active⟩)) := rfl
  exact ⟨last, answered, invalidated_reads_current commit load_tables changed invalidation rfl rest rfl answered⟩

/-- A read loads before the commit and adds after the invalidation; the next read gets the old role.
-/
theorem late_add_outlives_invalidation :
    ∃ source target returned last : Process,
      Run Step (start Access.Sample.tables 1000) [.look 0 manager, .load 0] source ∧
      Step source (.commit 0 target.store) target ∧ load source.store manager = some (.member ⟨30, .active⟩) ∧
      load target.store manager = some (.member ⟨31, .active⟩) ∧
      Run Step target [.remove 0 manager] returned ∧ returned.removals 0 = some [] ∧
      returned.reads 1 = none ∧ Run Step returned [.add 0, .look 1 manager] last ∧
      last.reads 1 = some (manager, .answered (.member ⟨30, .active⟩)) := by
  let target : Process := { loading.setRemovals 0 [manager] with store := demoted }
  let returned : Process := (target.setEntry manager none).setRemovals 0 []
  have loads : Run Step (start Access.Sample.tables 1000) [.look 0 manager, .load 0]
      loading :=
    .cons (.miss rfl rfl) (.single (.load rfl load_tables))
  let added : Process := (returned.setEntry manager
    (Expiring.set 1000 cacheTTL (.member ⟨30, .active⟩))).setRead 0 manager (.answered (.member ⟨30, .active⟩))
  have stored : added.entries manager = some ⟨.member ⟨30, .active⟩, 1000 + cacheTTL⟩ := rfl
  have cached : (added.entries manager).read added.now = some (.member ⟨30, .active⟩) :=
    Expiring.read_some stored (Nat.le_add_right ..)
  have adds : Run Step returned [.add 0] added := .single (.add rfl)
  exact ⟨loading, target, returned, _, loads, .commit rfl commits_demotion,
    load_tables, load_demoted, .single (.remove rfl), rfl, rfl,
    adds.snoc (.hit rfl cached), rfl⟩

end Cache

end OneVoice.Access
