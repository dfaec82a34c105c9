import OneVoice.Construction.Users.EmailVerification
import OneVoice.Library.Run

namespace OneVoice.Users.EmailVerification

open Library Function List

variable {normalizeEmail : String → String} {compare : String → String → Bool}
  {state next : State} {action : Action} {id : Nat} {userID : UUID}

/-- A token issued to address and user was consumed by a confirmation. -/
def Confirmed (state : State) (userID : UUID) (email : String) : Prop :=
  ∃ token ∈ state.tokens, token.userID = userID ∧ token.email = email ∧ token.consumed = some .confirmed

/-- Only unverified addresses are written; a password keeps a verified one. -/
def WritesCurrent (normalizeEmail : String → String) (state : State) : Action → Prop
  | .updateEmail id => ∀ userID newEmail user, state.calls id = .changing userID newEmail →
      state.users userID = some user → user.emailVerified = false
  | .updateUser id => ∀ userID email newHash user, state.calls id = .hashing userID email newHash →
      state.users userID = some user → user.emailVerified = true → user.email = normalizeEmail email
  | _ => True

/-- What a transaction relies on while it holds the lock of its user. -/
def Phase.Holds (state : State) : Phase → Prop
  | .consuming token => token ∈ state.tokens ∧
      ∃ user, state.users token.userID = some user ∧ token.email = user.email
  | .updating userID _ => ∃ user, state.users userID = some user ∧ user.emailVerified = false
  | _ => True

structure Proven (state : State) : Prop where
  verified : ∀ userID user, state.users userID = some user → user.emailVerified = true →
    Confirmed state userID user.email
  holder : ∀ id userID, (state.calls id).locked = some userID → state.locks userID = some id
  open_ : ∀ id, (state.calls id).Holds state

theorem Confirmed.mono {email} (confirmed : Confirmed state userID email)
    (kept : ∀ token ∈ state.tokens, token.consumed = some .confirmed → token ∈ next.tokens) :
    Confirmed next userID email := by
  obtain ⟨token, member, rest⟩ := confirmed
  exact ⟨token, kept token member rest.2.2, rest⟩

/-- A phase keeps what it relies on when its token and its user stay. -/
theorem Phase.Holds.keep {phase : Phase} (holds : phase.Holds state)
    (tokens : ∀ token ∈ state.tokens, phase.locked = some token.userID → token ∈ next.tokens)
    (users : ∀ userID, phase.locked = some userID → next.users userID = state.users userID) : phase.Holds next := by
  cases phase with
  | consuming token =>
    obtain ⟨member, user, found, same⟩ := holds
    refine ⟨tokens token member rfl, user, ?_, same⟩
    rw [users token.userID rfl]
    exact found
  | updating userID newEmail =>
    obtain ⟨user, found, unverified⟩ := holds
    refine ⟨user, ?_, unverified⟩
    rw [users userID rfl]
    exact found
  | _ => trivial

namespace Proven

variable {phase : Phase}

/-- One call moves, and no user and no token does. -/
theorem open_moved (proven : Proven state) (holds : phase.Holds state)
    (calls : next.calls = update state.calls id phase) (users : next.users = state.users)
    (tokens : next.tokens = state.tokens) (other : Nat) : (next.calls other).Holds next := by
  have kept {phase : Phase} (holds : phase.Holds state) : phase.Holds next := by
    apply holds.keep
    · intro token member _
      rwa [tokens]
    · intro userID _
      rw [users]
  rw [calls]
  obtain ⟨_, here⟩ | ⟨_, there⟩ := @cell_update _ _ _ state.calls id other phase _ rfl
  · exact here ▸ kept holds
  · exact there ▸ kept (proven.open_ other)

/-- A call moves to a phase without a lock. -/
theorem setCall (proven : Proven state) (silent : phase.locked = none)
    (trivially : phase.Holds state) : Proven (state.setCall id phase) where
  verified := proven.verified
  holder other userID locked := by
    obtain ⟨_, here⟩ | ⟨_, there⟩ := view_update Phase.locked locked
    · rw [silent] at here
      cases here
    · exact proven.holder other userID there
  open_ := proven.open_moved trivially rfl rfl rfl

/-- A transaction locks the row of its user. -/
theorem lock (proven : Proven state) (free : state.locks userID = none)
    (locked : phase.locked = some userID) (holds : phase.Holds state) :
    Proven ((state.setLock userID (some id)).setCall id phase) where
  verified := proven.verified
  holder other holderID found := by
    obtain ⟨rfl, here⟩ | ⟨_, there⟩ := view_update Phase.locked found
    · rw [locked] at here
      cases here
      exact update_self ..
    · have held := proven.holder other holderID there
      have apart : holderID ≠ userID := by
        intro equal
        rw [equal, free] at held
        cases held
      exact (update_of_ne apart ..).trans held
  open_ := proven.open_moved holds rfl rfl rfl

/-- No call has the row of the user locked. -/
def Unlocked (state : State) (userID : UUID) : Prop := ∀ id, (state.calls id).locked ≠ some userID

section

variable (proven : Proven state)

include proven

/-- The end of a transaction releases its lock. -/
theorem unlock (locked : (state.calls id).locked = some userID) :
    Proven ((state.setLock userID none).setCall id .ended) ∧
      Unlocked ((state.setLock userID none).setCall id .ended) userID := by
  have others {other : Nat} {holderID : UUID}
      (found : (update state.calls id .ended other).locked = some holderID) :
      holderID ≠ userID ∧ (state.calls other).locked = some holderID := by
    obtain ⟨_, ended⟩ | ⟨same, found⟩ := view_update Phase.locked found
    · cases ended
    · refine ⟨?_, found⟩
      intro equal
      rw [equal] at found
      have left := proven.holder other userID found
      have right := proven.holder id userID locked
      rw [left] at right
      exact same (Option.some.inj right)
  constructor
  · constructor
    · exact proven.verified
    · intro other holderID found
      have kept := others found
      exact (update_of_ne kept.1 ..).trans (proven.holder other holderID kept.2)
    · exact proven.open_moved (show Phase.ended.Holds state from trivial) rfl rfl rfl
  · intro other found
    exact (others found).1 rfl

/-- A call that holds a lock ends: what it relied on, and what is left. -/
theorem ending {phase} (at_ : state.calls id = phase) (locked : phase.locked = some userID) :
    phase.Holds state ∧ Proven ((state.setLock userID none).setCall id .ended) ∧
      Unlocked ((state.setLock userID none).setCall id .ended) userID := by
  subst at_
  exact ⟨proven.open_ id, proven.unlock locked⟩

theorem setUser (unlocked : Unlocked state userID) {user : User}
    (confirmed : user.emailVerified = true → Confirmed state userID user.email) :
    Proven (state.setUser userID user) where
  verified other row found verified := by
    obtain ⟨rfl, here⟩ | ⟨_, there⟩ := cell_update found
    · cases here
      exact confirmed verified
    · exact proven.verified other row there verified
  holder := proven.holder
  open_ call := by
    refine (proven.open_ call).keep (fun _ member _ => member) ?_
    intro other locked
    apply update_of_ne
    intro same
    rw [same] at locked
    exact unlocked call locked

theorem insertToken (token : Token) : Proven (state.insertToken token) where
  verified userID user found verified := by
    apply (proven.verified userID user found verified).mono
    intro row member _
    exact mem_append_left _ member
  holder := proven.holder
  open_ call := by
    refine (proven.open_ call).keep ?_ fun _ _ => rfl
    intro row member _
    exact mem_append_left _ member

/-- An unlocked user's tokens change, but confirmed ones stay. -/
theorem mapTokens (unlocked : Unlocked state userID) {f : Token → Token}
    (confirmed : ∀ token, token.consumed = some .confirmed → f token = token)
    (others : ∀ token, token.userID ≠ userID → f token = token) :
    Proven { state with tokens := state.tokens.map f } where
  verified other user found verified := by
    apply (proven.verified other user found verified).mono
    intro token member used
    exact mem_map.mpr ⟨token, member, confirmed token used⟩
  holder := proven.holder
  open_ call := by
    refine (proven.open_ call).keep ?_ fun _ _ => rfl
    intro token member locked
    have apart : token.userID ≠ userID := by
      intro same
      rw [same] at locked
      exact unlocked call locked
    exact mem_map.mpr ⟨token, member, others token apart⟩

theorem markConsumed {token} (unlocked : Unlocked state token.userID) : Proven (state.markConsumed token) := by
  apply proven.mapTokens unlocked
  · intro row used
    split
    · rw [← used]
    · rfl
  · intro row apart
    apply if_neg
    intro same
    rw [same] at apart
    exact apart rfl

theorem invalidateAllForUser (unlocked : Unlocked state userID) : Proven (state.invalidateAllForUser userID) := by
  apply proven.mapTokens unlocked
  · intro row used
    apply if_neg
    intro live
    rw [used] at live
    cases live.2
  · intro row apart
    apply if_neg
    intro live
    exact apart live.1

end

theorem confirmed_markConsumed {token} (member : token ∈ state.tokens) :
    Confirmed (state.markConsumed token) token.userID token.email := by
  refine ⟨{ token with consumed := some .confirmed }, ?_, rfl, rfl, rfl⟩
  exact mem_map.mpr ⟨token, member, if_pos rfl⟩

theorem step (proven : Proven state)
    (taken : Guarded (Step normalizeEmail compare) (WritesCurrent normalizeEmail) state action next) :
    Proven next := by
  obtain ⟨step, current⟩ := taken
  cases step with
  | issue => exact (proven.insertToken _).setCall rfl trivial
  | consume _ member _ _ free found same =>
    exact proven.lock free rfl ⟨member, _, found, same⟩
  | @confirmVerify id token user at_ found =>
    obtain ⟨⟨member, row, stored, same⟩, released, unlocked⟩ := proven.ending at_ rfl
    rw [found] at stored
    cases stored
    refine (released.markConsumed unlocked).setUser unlocked ?_
    intro _
    rw [← same]
    exact confirmed_markConsumed member
  | @updateEmail id userID newEmail user at_ free found =>
    exact proven.lock free rfl ⟨user, found, current userID newEmail user at_ found⟩
  | @changeEmail id userID newEmail user tokenHash expiresAt at_ found =>
    obtain ⟨⟨row, stored, unverified⟩, released, unlocked⟩ := proven.ending at_ rfl
    rw [found] at stored
    cases stored
    refine ((released.invalidateAllForUser unlocked).insertToken _).setUser unlocked ?_
    intro verified
    rw [unverified] at verified
    cases verified
  | @updateUser id userID email newHash user at_ free found =>
    have unlocked : Unlocked state userID := by
      intro call locked
      rw [proven.holder call userID locked] at free
      cases free
    refine (proven.setUser unlocked ?_).setCall rfl trivial
    intro verified
    have same := current userID email newHash user at_ found verified
    rw [← same]
    exact proven.verified userID user found verified
  | rollback id =>
    unfold State.release
    split
    · rename_i userID locked
      exact (proven.unlock locked).1
    · exact proven.setCall rfl trivial
  | _ => exact proven.setCall rfl trivial

end Proven

/-- Users start without a verified address, and no call is open. -/
structure Fresh (state : State) : Prop where
  unverified : ∀ userID user, state.users userID = some user → user.emailVerified = false
  idle : ∀ id, state.calls id = .idle

theorem Proven.start (fresh : Fresh state) : Proven state where
  verified userID user found verified := by
    rw [fresh.unverified userID user found] at verified
    cases verified
  holder id userID locked := by
    rw [fresh.idle id] at locked
    cases locked
  open_ id := by
    rw [fresh.idle id]
    trivial

/-- While addresses are written only unverified, and kept by password changes, a verified one has
consumed its token. -/
theorem verified_address_proven {first last : State} {actions : List Action} (fresh : Fresh first)
    (run : Run (Guarded (Step normalizeEmail compare) (WritesCurrent normalizeEmail)) first actions last) :
    ∀ userID user, last.users userID = some user → user.emailVerified = true →
      ∃ token ∈ last.tokens, token.userID = userID ∧ token.email = user.email ∧
        token.consumed = some .confirmed := by
  have proven : Proven last := by
    apply run.invariant _ (Proven.start fresh)
    intro source action target taken held
    exact held.step taken
  exact proven.verified

theorem Sample.users_eq {userID user} (found : Sample.state.users userID = some user) :
    userID = 1 ∧ user = ⟨"a@x", false, "hash"⟩ := by
  unfold Sample.state at found
  dsimp only at found
  split at found
  · rename_i same
    cases found
    exact ⟨same, rfl⟩
  · cases found

theorem Sample.fresh : Fresh Sample.state where
  unverified userID user found := by
    rw [(Sample.users_eq found).2]
  idle := fun _ => rfl

theorem verified_address_proven_confirm : ∃ last : State,
    Run (Guarded (Step Sample.normalizeEmail Sample.plain) (WritesCurrent Sample.normalizeEmail))
      Sample.state [.consume 0 Sample.token.tokenHash 5, .confirmVerify 0] last ∧
    last.users 1 = some ⟨"a@x", true, "hash"⟩ ∧
    ∃ token ∈ last.tokens, token.userID = 1 ∧ token.email = "a@x" ∧ token.consumed = some .confirmed := by
  exact Run.reaches (.cons ⟨.consume rfl (mem_singleton.mpr rfl) rfl (by decide) rfl rfl rfl, trivial⟩ <|
    .single ⟨.confirmVerify rfl rfl, trivial⟩)
    fun run => ⟨rfl, verified_address_proven Sample.fresh run 1 ⟨"a@x", true, "hash"⟩ rfl rfl⟩

/-- The first address is confirmed during a change of it. -/
theorem unproven_address_verified : ∃ last : State, Run (Step Sample.normalizeEmail Sample.plain) Sample.state
      [.checkUnverified 0 1 "b@x", .consume 1 Sample.token.tokenHash 5, .confirmVerify 1,
        .updateEmail 0, .changeEmail 0 "other" 10] last ∧ last.users 1 = some ⟨"b@x", true, "hash"⟩ ∧
    last.tokens = [{ Sample.token with consumed := some .confirmed }, ⟨1, "b@x", "other", 10, none⟩] := by
  refine ⟨_, .cons (.checkUnverified _ rfl rfl rfl ?_) <|
    .cons (.consume rfl (mem_singleton.mpr rfl) rfl (by decide) rfl rfl rfl) <|
    .cons (.confirmVerify rfl rfl) <| .cons (.updateEmail rfl rfl rfl ?_) <|
    .single (.changeEmail _ _ rfl rfl), rfl, rfl⟩
  · intro other row found
    rw [(Sample.users_eq found).2]
    decide
  · intro other row apart found
    have there : Sample.state.users other = some row := (update_of_ne apart ..).symm.trans found
    exact absurd (Sample.users_eq there).1 apart

end OneVoice.Users.EmailVerification
