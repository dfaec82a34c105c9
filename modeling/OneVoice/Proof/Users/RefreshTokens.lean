import OneVoice.Construction.Users.RefreshTokens
import OneVoice.Library.Run

namespace OneVoice.Users.RefreshTokens

open Library Function State Phase

variable {Hash : Type} {compare : Hash → String → Bool} {state next : State Hash} {action : Action Hash}

/-- The origin of the token that a login or a rotation is about to write. -/
def Phase.holds : Phase → Option Origin
  | .checked origin => some origin
  | .taken _ origin => some origin
  | _ => none

/-- The password write whose keys a call is wiping. -/
def Phase.wipe : Phase → Option Origin
  | .scanning user generation _ _ _ => some ⟨user, generation⟩
  | .scanned user generation _ => some ⟨user, generation⟩
  | .wiped user generation => some ⟨user, generation⟩
  | _ => none

/-- The password write whose keys are still to be deleted. -/
def Phase.pending : Phase → Option Origin
  | .scanning user generation _ _ _ => some ⟨user, generation⟩
  | .scanned user generation _ => some ⟨user, generation⟩
  | _ => none

/-- The password write that a call has made. -/
def Phase.write : Phase → Option Origin
  | .written user generation => some ⟨user, generation⟩
  | phase => phase.wipe

/-- The keys that a wipe will still delete. -/
def Phase.Covers : Phase → UUID → Prop
  | .scanning _ _ start visited toDelete, token =>
    start token = true ∧ (token ∈ visited → token ∈ toDelete)
  | .scanned _ _ toDelete, token => token ∈ toDelete
  | _, _ => False

/-- No login or rotation from before the password write is about to write when the scan starts, and
none takes a token until the wipe is done. -/
def Apart (state : State Hash) : Action Hash → Prop
  | .scan id => ∀ write, (state.calls id).write = some write → ∀ other origin,
      (state.calls other).holds = some origin → origin.user = write.user → write.generation ≤ origin.generation
  | .refresh _ token => ∀ origin, state.origin token = some origin → ∀ other write,
      (state.calls other).pending = some write → write.user = origin.user → write.generation ≤ origin.generation
  | _ => True

/-- Nothing from before a password write is pending; keys are covered. -/
structure Safe (state : State Hash) (write : Origin) (covers : UUID → Prop) : Prop where
  held : ∀ id origin, (state.calls id).holds = some origin → origin.user = write.user →
    write.generation ≤ origin.generation
  stored : ∀ token origin, state.keys token = some write.user → state.origin token = some origin →
    origin.generation < write.generation → covers token

structure Sound (state : State Hash) : Prop where
  owned : ∀ token user, state.keys token = some user → ∃ generation, state.origin token = some ⟨user, generation⟩
  current : ∀ id write, (state.calls id).write = some write → write.generation ≤ state.generation write.user
  wipe : ∀ id write, (state.calls id).wipe = some write → Safe state write (state.calls id).Covers
  changed : ∀ user, state.changed user ≤ state.generation user ∧
    Safe state ⟨user, state.changed user⟩ fun _ => False

theorem Sound.start (users : UUID → Option Hash) : Sound (.start users) where
  owned _ _ found := by cases found
  current _ _ found := by cases found
  wipe _ _ found := by cases found
  changed _ := ⟨Nat.le_refl 0, fun _ _ found => (by cases found), fun _ _ found => by cases found⟩

@[simp]
theorem calls_setCall (state : State Hash) (id other : Nat) (phase : Phase) :
    (state.setCall id phase).calls other = if other = id then phase else state.calls other :=
  update_apply ..

@[simp]
theorem keys_drop (tokens : List UUID) (token : UUID) :
    (state.drop tokens).keys token = if token ∈ tokens then none else state.keys token :=
  rfl

@[simp]
theorem generation_setPassword (user : UUID) (hash : Hash) :
    (state.setPassword user hash).generation user = state.generation user + 1 :=
  update_self ..

variable {write : Origin} {covers : UUID → Prop} {user token : UUID} {id generation : Nat} {phase : Phase}

/-- A key that is there after a drop was there before. -/
theorem keys_of_drop {tokens} (found : (state.drop tokens).keys token = some user) :
    token ∉ tokens ∧ state.keys token = some user := by
  rw [keys_drop] at found
  split at found
  · cases found
  · rename_i kept
    exact ⟨kept, found⟩

/-- What a step can add: a key for something that was about to be written. -/
theorem Step.keys_of (taken : Step compare state action next) (found : next.keys token = some user) :
    (state.keys token = some user ∧ next.origin token = state.origin token) ∨
      ∃ id origin, (state.calls id).holds = some origin ∧ origin.user = user ∧ next.origin token = some origin := by
  have issued {id : Nat} {fresh : UUID} {origin : Origin} (holds : (state.calls id).holds = some origin)
      (there : update state.keys fresh (some origin.user) token = some user) :
      (state.keys token = some user ∧ update state.origin fresh (some origin) token = state.origin token) ∨
      ∃ id origin', (state.calls id).holds = some origin' ∧ origin'.user = user ∧
        update state.origin fresh (some origin) token = some origin' := by
    by_cases same : token = fresh
    · subst same
      rw [update_self] at there ⊢
      exact .inr ⟨id, origin, holds, Option.some.inj there, rfl⟩
    · rw [update_of_ne same] at there ⊢
      exact .inl ⟨there, rfl⟩
  cases taken with
  | @store id fresh origin at_ | @rotate id fresh old origin hash at_ =>
    have holds : (state.calls id).holds = some origin := by
      rw [at_]
      rfl
    exact issued holds found
  | refresh | logout | expire | delete => exact .inl ⟨(keys_of_drop found).2, rfl⟩
  | _ => exact .inl ⟨found, rfl⟩

/-- What a step makes a call hold: the current password, or its token. -/
theorem Step.holds_of (taken : Step compare state action next) {origin}
    (found : (next.calls id).holds = some origin) :
    (state.calls id).holds = some origin ∨ origin.generation = state.generation origin.user ∨
      ∃ token, action = .refresh id token ∧ state.origin token = some origin ∧
        state.keys token = some origin.user := by
  have moved {mover : Nat} {phase : Phase} (there : (update state.calls mover phase id).holds = some origin) :
      (state.calls id).holds = some origin ∨ id = mover ∧ phase.holds = some origin := by
    obtain here | ⟨_, old⟩ := view_update holds there
    · exact .inr here
    · exact .inl old
  cases taken with
  | login =>
    refine (moved found).imp_right ?_
    rintro ⟨_, ⟨⟩⟩
    exact .inl rfl
  | @refresh mover token user taken_ idle known present =>
    refine (moved found).imp_right ?_
    rintro ⟨rfl, here⟩
    split at here
    · rename_i equal
      cases here
      subst equal
      exact .inr ⟨token, rfl, known, present⟩
    · cases here
  | logout | expire => exact .inl found
  | _ =>
    refine (moved found).imp_right ?_
    rintro ⟨_, ⟨⟩⟩

theorem Step.generation_le (taken : Step compare state action next) (user : UUID) :
    state.generation user ≤ next.generation user := by
  have written {changed : UUID} : state.generation user ≤
      update state.generation changed (state.generation changed + 1) user := by
    by_cases same : user = changed
    · subst same
      rw [update_self]
      omega
    · rw [update_of_ne same]
  cases taken with
  | change | reset => exact written
  | _ => exact Nat.le_refl _

/-- A step keeps what is safe, but for a rotation of its tokens. -/
theorem Safe.step (safe : Safe state write covers) (taken : Step compare state action next)
    (current : write.generation ≤ state.generation write.user)
    (apart : ∀ id token origin, action = .refresh id token → state.origin token = some origin →
      state.keys token = some origin.user → origin.user = write.user →
        write.generation ≤ origin.generation) : Safe next write covers where
  held id origin found own := by
    rcases taken.holds_of found with before | now | ⟨token, act, known, present⟩
    · exact safe.held id origin before own
    · rw [now, own]
      exact current
    · exact apart id token origin act known present own
  stored token origin found known older := by
    rcases taken.keys_of found with ⟨before, same⟩ | ⟨id, held, holds, own, same⟩
    · rw [same] at known
      exact safe.stored token origin before known older
    · rw [same] at known
      cases known
      have newer := safe.held id _ holds own
      omega

/-- A token that is safe without cover has no older origin. -/
theorem Safe.le_of_stored {origin} (safe : Safe state write fun _ => False)
    (present : state.keys token = some origin.user) (known : state.origin token = some origin)
    (own : origin.user = write.user) : write.generation ≤ origin.generation := by
  rw [own] at present
  by_contra older
  exact safe.stored token origin present known (by omega)

theorem Safe.mono {covers' : UUID → Prop} (safe : Safe state write covers)
    (weaker : ∀ token, state.keys token = some write.user → covers token → covers' token) :
    Safe state write covers' where
  held := safe.held
  stored token origin found known older := by
    exact weaker token found (safe.stored token origin found known older)

/-- A call that moves without holding anything keeps what is safe. -/
theorem Safe.setCall (safe : Safe state write covers) (silent : phase.holds = none) :
    Safe (state.setCall id phase) write covers where
  held other origin found := by
    rw [calls_setCall] at found
    split at found
    · rw [silent] at found
      cases found
    · exact safe.held other origin found
  stored := safe.stored

theorem Safe.drop {tokens} (safe : Safe state write fun token => token ∈ tokens) :
    Safe (state.drop tokens) write fun _ => False where
  held := safe.held
  stored token origin found known older := by
    have kept := keys_of_drop found
    exact kept.1 (safe.stored token origin kept.2 known older)

/-- A rotation does not take a token that a wipe has to cover. -/
theorem Sound.apart_wipe (sound : Sound state) (apart : Apart state action)
    (wiping : (state.calls id).wipe = some write) :
    ∀ other token origin, action = .refresh other token → state.origin token = some origin →
      state.keys token = some origin.user → origin.user = write.user → write.generation ≤ origin.generation := by
  intro other token origin act known present own
  subst act
  have safe := sound.wipe id write wiping
  cases at_ : state.calls id with
  | scanning | scanned =>
    have pending : (state.calls id).pending = some write := by
      rw [at_] at wiping ⊢
      exact wiping
    exact apart origin known id write pending own.symm
  | wiped user generation =>
    rw [at_] at safe
    exact safe.le_of_stored present known own
  | _ =>
    rw [at_] at wiping
    cases wiping

theorem Phase.write_of_wipe (wiping : phase.wipe = some write) : phase.write = some write := by
  cases phase <;> first | exact wiping | cases wiping

/-- At the start of a scan every key is still to be visited. -/
theorem Safe.of_scan (at_ : state.calls id = .written user generation) (apart : Apart state (.scan id)) :
    Safe state ⟨user, generation⟩
      (scanning user generation (fun token => (state.keys token).isSome) [] []).Covers where
  held other origin holds own := by
    apply apart ⟨user, generation⟩ _ other origin holds own
    rw [at_]
    rfl
  stored token origin present _ _ := by
    constructor
    · show (state.keys token).isSome = true
      rw [present]
      rfl
    · intro member
      cases member

theorem Safe.visit {start visited toDelete}
    (safe : Safe state ⟨user, generation⟩ (scanning user generation start visited toDelete).Covers) :
    Safe state ⟨user, generation⟩ (scanning user generation start (visited ++ [token])
        (if state.keys token = some user then toDelete ++ [token] else toDelete)).Covers := by
  apply safe.mono
  intro key present covered
  refine ⟨covered.1, ?_⟩
  intro member
  rcases List.mem_append.mp member with earlier | now
  · have listed := covered.2 earlier
    split
    · exact List.mem_append_left _ listed
    · exact listed
  · rw [List.mem_singleton.mp now] at present ⊢
    rw [if_pos present]
    exact List.mem_append_right _ (List.mem_singleton.mpr rfl)

/-- A complete scan has listed every key that it has to delete. -/
theorem Safe.scanned {start visited toDelete}
    (safe : Safe state ⟨user, generation⟩ (scanning user generation start visited toDelete).Covers)
    (complete : ∀ token, start token = true → state.keys token ≠ none → token ∈ visited) :
    Safe state ⟨user, generation⟩ (scanned user generation toDelete).Covers := by
  apply safe.mono
  intro key present covered
  apply covered.2
  apply complete key covered.1
  rw [present]
  exact Option.some_ne_none _

section

variable (sound : Sound state)

include sound

/-- What is safe for a call in a phase of its wipe. -/
theorem Sound.wipe_at (at_ : state.calls id = phase) (wiping : phase.wipe = some write) :
    Safe state write phase.Covers := by
  subst at_
  exact sound.wipe id write wiping

theorem Sound.wipe_step (taken : Guarded (Step compare) Apart state action next)
    (found : (next.calls id).wipe = some write) : Safe next write (next.calls id).Covers := by
  obtain ⟨step, apart⟩ := taken
  have unmoved (same : next.calls id = state.calls id) : Safe next write (next.calls id).Covers := by
    rw [same] at found ⊢
    have current := sound.current id write (write_of_wipe found)
    exact (sound.wipe id write found).step step current (sound.apart_wipe apart found)
  have moved {mover : Nat} {phase : Phase} (calls : next.calls = update state.calls mover phase)
      (safe : phase.wipe = some write → Safe next write phase.Covers) :
      Safe next write (next.calls id).Covers := by
    by_cases same : id = mover
    · have here : next.calls id = phase := by
        rw [calls, same, update_self]
      rw [here] at found ⊢
      exact safe found
    · apply unmoved
      rw [calls, update_of_ne same]
  have wipes {mover : Nat} {phase : Phase} {made : Origin} (calls : next.calls = update state.calls mover phase)
      (mine : phase.wipe = some made) (safe : Safe next made phase.Covers) :
      Safe next write (next.calls id).Covers := by
    refine moved calls ?_
    intro wiping
    cases mine.symm.trans wiping
    exact safe
  cases step with
  | refresh =>
    refine moved rfl ?_
    intro silent
    split at silent <;> cases silent
  | logout | expire => exact unmoved rfl
  | scan at_ => exact wipes rfl rfl (Safe.setCall (.of_scan at_ apart) rfl)
  | visit _ at_ => exact wipes rfl rfl (Safe.setCall (sound.wipe_at at_ rfl).visit rfl)
  | scanned at_ complete =>
    have safe := sound.wipe_at at_ rfl
    exact wipes rfl rfl (Safe.setCall (safe.scanned complete) rfl)
  | delete at_ =>
    have safe := sound.wipe_at at_ rfl
    exact wipes rfl rfl (Safe.setCall (Safe.drop safe) rfl)
  | _ =>
    refine moved rfl ?_
    intro silent
    cases silent

/-- A call made the write that it wipes after; writes come one by one. -/
theorem Sound.current_step (taken : Step compare state action next) (found : (next.calls id).write = some write) :
    write.generation ≤ next.generation write.user := by
  have older (before : (state.calls id).write = some write) : write.generation ≤ next.generation write.user :=
    (sound.current id write before).trans (taken.generation_le write.user)
  have moved {mover : Nat} {phase : Phase} (calls : next.calls = update state.calls mover phase)
      (mine : phase.write = some write →
        (state.calls mover).write = some write ∨ write.generation ≤ next.generation write.user) :
      write.generation ≤ next.generation write.user := by
    rw [calls] at found
    obtain ⟨rfl, here⟩ | ⟨_, old⟩ := view_update Phase.write found
    · rcases mine here with before | now
      · exact older before
      · exact now
    · exact older old
  cases taken with
  | refresh =>
    refine moved rfl ?_
    intro silent
    split at silent <;> cases silent
  | logout | expire => exact older found
  | @change mover user old hash | @reset mover user old hash =>
    refine moved rfl ?_
    intro written
    cases written
    right
    show _ ≤ (state.setPassword user hash).generation user
    rw [generation_setPassword]
  | scan at_ | visit _ at_ | scanned at_ | delete at_ =>
    refine moved rfl ?_
    intro written
    left
    rw [at_]
    exact written
  | _ =>
    refine moved rfl ?_
    intro silent
    cases silent

theorem Sound.changed_step (taken : Step compare state action next) (user : UUID) :
    next.changed user ≤ next.generation user ∧ Safe next ⟨user, next.changed user⟩ fun _ => False := by
  have kept {write : Origin} (current : write.generation ≤ state.generation write.user)
      (safe : Safe state write fun _ => False) :
      write.generation ≤ next.generation write.user ∧ Safe next write fun _ => False := by
    refine ⟨current.trans (taken.generation_le write.user), safe.step taken current ?_⟩
    intro _ token origin _ known present own
    exact safe.le_of_stored present known own
  have before := kept (sound.changed user).1 (sound.changed user).2
  cases taken with
  | @succeed id mover generation at_ =>
    by_cases own : user = mover
    · subst own
      have wiping : (state.calls id).wipe = some ⟨user, generation⟩ := by
        rw [at_]
        rfl
      have safe := sound.wipe id _ wiping
      rw [at_] at safe
      have after := kept (sound.current id _ (write_of_wipe wiping)) safe
      show update state.changed user _ user ≤ _ ∧ Safe _ ⟨user, update state.changed user _ user⟩ _
      rw [update_self]
      rcases Nat.le_total (state.changed user) generation with later | earlier
      · rw [Nat.max_eq_right later]
        exact after
      · rw [Nat.max_eq_left earlier]
        exact before
    · show update state.changed mover _ user ≤ _ ∧ Safe _ ⟨user, update state.changed mover _ user⟩ _
      rw [update_of_ne own]
      exact before
  | _ => exact before

theorem Sound.step (taken : Guarded (Step compare) Apart state action next) : Sound next where
  owned := by
    intro token user found
    rcases taken.1.keys_of found with ⟨before, same⟩ | ⟨_, origin, _, rfl, same⟩
    · rw [same]
      exact sound.owned token user before
    · exact ⟨origin.generation, same⟩
  current := fun _ _ found => sound.current_step taken.1 found
  wipe := fun _ _ found => sound.wipe_step taken found
  changed := fun user => sound.changed_step taken.1 user

end

/-- The token that a rotation has taken. -/
def Phase.old : Phase → Option UUID
  | .taken token _ => some token
  | _ => none

/-- The token was not accepted, and no rotation has taken it. -/
def Unspent (state : State Hash) (token : UUID) : Prop :=
  state.accepted token = 0 ∧ ∀ id, (state.calls id).old ≠ some token

/-- Every token is stored, taken by one rotation, or gone. -/
structure Once (state : State Hash) : Prop where
  atMost : ∀ token, state.accepted token ≤ 1
  fresh : ∀ token, state.origin token = none → state.keys token = none ∧ Unspent state token
  stored : ∀ token user, state.keys token = some user → Unspent state token
  taken : ∀ id token, (state.calls id).old = some token → state.accepted token = 0
  single : ∀ first second token, (state.calls first).old = some token →
    (state.calls second).old = some token → first = second

namespace Once

theorem start (users : UUID → Option Hash) : Once (.start users) where
  atMost := fun _ => Nat.zero_le 1
  fresh _ _ := ⟨rfl, rfl, fun _ found => by cases found⟩
  stored _ _ found := by cases found
  taken _ _ found := by cases found
  single _ _ _ found := by cases found

/-- A step that neither issues, nor takes, nor accepts a token. -/
theorem shrink (once : Once state) (accepted : next.accepted = state.accepted) (origin : next.origin = state.origin)
    (keys : ∀ token user, next.keys token = some user → state.keys token = some user)
    (old : ∀ id token, (next.calls id).old = some token → (state.calls id).old = some token) : Once next := by
  have unspent {token : UUID} (before : Unspent state token) : Unspent next token := by
    refine ⟨?_, ?_⟩
    · rw [accepted]
      exact before.1
    · intro id found
      exact before.2 id (old id token found)
  constructor
  · intro token
    rw [accepted]
    exact once.atMost token
  · intro token unknown
    rw [origin] at unknown
    obtain ⟨absent, before⟩ := once.fresh token unknown
    refine ⟨?_, unspent before⟩
    cases found : next.keys token with
    | none => rfl
    | some user =>
      rw [keys token user found] at absent
      cases absent
  · intro token user found
    exact unspent (once.stored token user (keys token user found))
  · intro id token found
    rw [accepted]
    exact once.taken id token (old id token found)
  · intro first second token left right
    exact once.single first second token (old first token left) (old second token right)

theorem setCall (once : Once state) (id : Nat) {phase} (silent : phase.old = none) :
    Once (state.setCall id phase) := by
  refine once.shrink rfl rfl (fun _ _ found => found) ?_
  intro other token found
  rw [calls_setCall] at found
  split at found
  · rw [silent] at found
    cases found
  · exact found

theorem drop (once : Once state) (tokens : List UUID) : Once (state.drop tokens) :=
  once.shrink rfl rfl (fun _ _ found => (keys_of_drop found).2) fun _ _ found => found

variable {token : UUID}

theorem issue (once : Once state) (unknown : state.origin token = none) (origin : Origin)
    : Once (state.issue token origin) := by
  have unspent := (once.fresh token unknown).2
  constructor
  · exact once.atMost
  · intro other unknown_
    have apart : other ≠ token := by
      rintro rfl
      cases (update_self ..).symm.trans unknown_
    have before : state.origin other = none := (update_of_ne apart ..).symm.trans unknown_
    have absent := once.fresh other before
    exact ⟨(update_of_ne apart ..).trans absent.1, absent.2⟩
  · intro other user found
    obtain ⟨rfl, _⟩ | ⟨_, old⟩ := cell_update found
    · exact unspent
    · exact once.stored other user old
  · exact once.taken
  · exact once.single

/-- The key of the token is gone when its rotation begins. -/
theorem take (once : Once state) {id user} (origin : Origin)
    (present : state.keys token = some user) (known : state.origin token ≠ none) :
    Once ((state.drop [token]).setCall id (.taken token origin)) := by
  have unspent := once.stored token user present
  have old {other : Nat} {found : UUID}
      (there : (((state.drop [token]).setCall id (.taken token origin)).calls other).old =
        some found) : (other = id ∧ found = token) ∨ (state.calls other).old = some found := by
    rw [calls_setCall] at there
    split at there
    · rename_i same
      exact .inl ⟨same, (Option.some.inj there).symm⟩
    · exact .inr there
  have others {other : UUID} (apart : other ≠ token) (before : Unspent state other) :
      Unspent ((state.drop [token]).setCall id (.taken token origin)) other := by
    refine ⟨before.1, ?_⟩
    intro call there
    rcases old there with ⟨_, same⟩ | earlier
    · exact apart same
    · exact before.2 call earlier
  constructor
  · exact once.atMost
  · intro other unknown
    have apart : other ≠ token := by
      rintro rfl
      exact known unknown
    have absent := once.fresh other unknown
    refine ⟨?_, others apart absent.2⟩
    show (state.drop [token]).keys other = none
    rw [keys_drop, absent.1, ite_self]
  · intro other holder found
    have kept := keys_of_drop found
    exact others (fun same => kept.1 (List.mem_singleton.mpr same)) (once.stored other _ kept.2)
  · intro other found there
    rcases old there with ⟨_, rfl⟩ | earlier
    · exact unspent.1
    · exact once.taken other found earlier
  · intro first second found left right
    rcases old left with ⟨here, rfl⟩ | earlier
    · rcases old right with ⟨there, _⟩ | late
      · rw [here, there]
      · exact absurd late (unspent.2 second)
    · rcases old right with ⟨_, rfl⟩ | late
      · exact absurd earlier (unspent.2 first)
      · exact once.single first second found earlier late

theorem accept (once : Once state) {id} (took : (state.calls id).old = some token)
    : Once ((state.accept token).setCall id .ended) := by
  have zero := once.taken id token took
  have count (other : UUID) : (state.accept token).accepted other =
      if other = token then 1 else state.accepted other := by
    show update state.accepted token _ other = _
    rw [update_apply, zero]
  have old {other : Nat} {found : UUID}
      (there : (((state.accept token).setCall id .ended).calls other).old = some found) :
      found ≠ token ∧ (state.calls other).old = some found := by
    rw [calls_setCall] at there
    split at there
    · cases there
    · rename_i apart
      refine ⟨?_, there⟩
      rintro rfl
      exact apart (once.single other id found there took)
  have kept {other : UUID} (before : Unspent state other) :
      Unspent ((state.accept token).setCall id .ended) other := by
    have apart : other ≠ token := by
      rintro rfl
      exact before.2 id took
    refine ⟨?_, ?_⟩
    · exact (count other).trans (by rw [if_neg apart]; exact before.1)
    · intro call there
      exact before.2 call (old there).2
  constructor
  · intro other
    show (state.accept token).accepted other ≤ 1
    rw [count]
    split
    · exact Nat.le_refl 1
    · exact once.atMost other
  · intro other unknown
    have absent := once.fresh other unknown
    exact ⟨absent.1, kept absent.2⟩
  · intro other user found
    exact kept (once.stored other user found)
  · intro call found there
    have earlier := old there
    show (state.accept token).accepted found = 0
    rw [count, if_neg earlier.1]
    exact once.taken call found earlier.2
  · intro first second found left right
    exact once.single first second found (old left).2 (old right).2

theorem step (once : Once state) (taken : Step compare state action next) : Once next := by
  cases taken with
  | store _ unknown => exact (once.issue unknown _).setCall _ rfl
  | @refresh id token user origin _ known present =>
    split
    · apply once.take origin present
      rw [known]
      exact Option.some_ne_none _
    · exact (once.drop [token]).setCall id rfl
  | @rotate id token old origin hash at_ _ unknown =>
    have took : ((state.issue token origin).calls id).old = some old := by
      show (state.calls id).old = some old
      rw [at_]
      rfl
    exact (once.issue unknown origin).accept took
  | logout | expire => exact once.drop _
  | change | reset | succeed =>
    refine Once.setCall ?_ _ rfl
    exact once.shrink rfl rfl (fun _ _ found => found) fun _ _ found => found
  | delete => exact (once.drop _).setCall _ rfl
  | _ => exact once.setCall _ rfl

end Once

/-- After a reported password change only tokens from after it succeed, while logins and rotations
stay apart from wipes; no token is accepted twice. -/
theorem password_change_ends_sessions (compare : Hash → String → Bool) (users : UUID → Option Hash) :
    (∀ actions last, Run (Guarded (Step compare) Apart) (.start users) actions last →
      (∀ id token next, Step compare last (.rotate id token) next →
        ∃ old origin, last.calls id = .taken old origin ∧ next.accepted old = last.accepted old + 1 ∧
          last.changed origin.user ≤ origin.generation) ∧
      (∀ token origin user, last.origin token = some origin → last.keys token = some user →
        last.changed user ≤ origin.generation)) ∧
    (∀ actions last, Run (Step compare) (.start users) actions last → ∀ token, last.accepted token ≤ 1) := by
  constructor
  · intro actions last run
    have sound : Sound last := by
      apply run.invariant _ (Sound.start users)
      intro source action target taken held
      exact held.step taken
    constructor
    · intro id token next taken
      cases taken with
      | @rotate _ _ old origin hash at_ =>
        have holds : (last.calls id).holds = some origin := by
          rw [at_]
          rfl
        exact ⟨old, origin, at_, update_self .., (sound.changed origin.user).2.held id origin holds rfl⟩
    · intro token origin user known present
      obtain ⟨generation, same⟩ := sound.owned token user present
      rw [same] at known
      cases known
      exact (sound.changed user).2.le_of_stored present same rfl
  · intro actions last run token
    have once : Once last := by
      apply run.invariant _ (Once.start users)
      intro source action target taken held
      exact held.step taken
    exact once.atMost token

open Sample

theorem password_change_ends_sessions_login : ∃ last next : State String,
    Run (Guarded (Step plain) Apart) (.start users)
      [.login 0 1 "old", .store 0 10, .verify 1 1 "old", .change 1 "new", .scan 1, .visit 1 10,
        .scanned 1, .delete 1, .succeed 1, .login 2 1 "new", .store 2 20, .refresh 3 20] last ∧
    Step plain last (.rotate 3 30) next ∧ last.keys 10 = none ∧ last.changed 1 = 1 ∧
    ∃ old origin, last.calls 3 = .taken old origin ∧ next.accepted old = last.accepted old + 1 ∧
      last.changed origin.user ≤ origin.generation := by
  have run : Run (Guarded (Step plain) Apart) (.start users)
      [.login 0 1 "old", .store 0 10, .verify 1 1 "old", .change 1 "new", .scan 1, .visit 1 10,
        .scanned 1, .delete 1, .succeed 1, .login 2 1 "new", .store 2 20, .refresh 3 20] _ :=
    .cons ⟨.login rfl rfl rfl, trivial⟩ <| .cons ⟨.store rfl rfl, trivial⟩ <|
    .cons ⟨.verify rfl rfl rfl, trivial⟩ <| .cons ⟨.change _ rfl rfl, trivial⟩ <|
    .cons ⟨.scan rfl, by
      intro write _ other origin holds
      simp only [issue, setPassword, setCall, update_apply] at holds
      split_ifs at holds <;> cases holds⟩ <| .cons ⟨.visit _ rfl, trivial⟩ <|
    .cons ⟨.scanned rfl (by
      intro token present _
      simp only [issue, setPassword, setCall, update_apply] at present
      split_ifs at present with same
      · exact List.mem_singleton.mpr same
      · cases present), trivial⟩ <| .cons ⟨.delete rfl, trivial⟩ <|
    .cons ⟨.succeed rfl, trivial⟩ <| .cons ⟨.login rfl rfl rfl, trivial⟩ <|
    .cons ⟨.store rfl rfl, trivial⟩ <| .cons ⟨.refresh rfl rfl rfl, by
      intro origin _ other write pending
      simp only [issue, setPassword, setCall, drop, report, update_apply] at pending
      split_ifs at pending <;> cases pending⟩ <| .nil _
  exact ⟨_, _, run, .rotate rfl rfl rfl, rfl, rfl,
    ((password_change_ends_sessions plain users).1 _ _ run).1 3 30 _ (.rotate rfl rfl rfl)⟩

/-- A rotation takes its token before the scan, and writes after it. -/
theorem rotation_survives_wipe : ∃ changed last : State String, Run (Step plain) (.start users)
      [.login 0 1 "old", .store 0 10, .verify 1 1 "old", .change 1 "new", .refresh 2 10, .scan 1,
        .scanned 1, .delete 1, .succeed 1] changed ∧ changed.changed 1 = 1 ∧
    Run (Step plain) changed [.rotate 2 20, .refresh 3 20, .rotate 3 30] last ∧
    last.origin 20 = some ⟨1, 0⟩ ∧ last.accepted 20 = 1 := by
  exact ⟨_, _, .cons (.login rfl rfl rfl) <| .cons (.store rfl rfl) <| .cons (.verify rfl rfl rfl) <|
    .cons (.change _ rfl rfl) <| .cons (.refresh rfl rfl rfl) <| .cons (.scan rfl) <|
    .cons (.scanned rfl (by
      intro token present _
      simp only [issue, setPassword, setCall, drop, update_apply, List.mem_singleton] at present
      split_ifs at present <;> cases present)) <|
    .cons (.delete rfl) <| .single (.succeed rfl),
    rfl,
    .cons (.rotate rfl rfl rfl) <| .cons (.refresh rfl rfl rfl) <| .single (.rotate rfl rfl rfl),
    rfl, rfl⟩

end OneVoice.Users.RefreshTokens
