import OneVoice.Construction.Integrations.Refresh

namespace OneVoice.Integrations

open Library Domain Function List Option

variable {Key Blob : Type} {envelope : Envelope Key Blob} {aad : String}

variable {key : Key} {texts : List String} {salt : Nat}

namespace Envelope

/-- What was encrypted text by text is decrypted text by text. -/
theorem readToken_encryptEach {wrapped encrypt}
    (inverse : ∀ {salt text blob}, encrypt salt text = some blob →
      (envelope.decryptToken aad blob wrapped).map Prod.fst = some text)
    {blobs} (encrypted : encryptEach encrypt salt texts = some blobs) :
    List.Forall₂ (fun text blob => envelope.readToken aad wrapped blob = some text) texts blobs := by
  induction texts generalizing salt blobs with
  | nil =>
    cases some.inj encrypted
    exact .nil
  | cons text rest ih =>
    simp only [encryptEach, Option.bind_eq_bind, Option.bind_eq_some_iff, Option.pure_def,
      some.injEq] at encrypted
    obtain ⟨blob, one, others, more, rfl⟩ := encrypted
    refine .cons ?_ (ih more)
    unfold encryptOne at one
    split at one
    · next empty =>
        cases some.inj one
        rw [empty]
        rfl
    · obtain ⟨cipher, sealed, rfl⟩ := map_eq_some_iff.mp one
      exact inverse sealed

/-- The tokens of a row are read back from its encrypted columns. -/
theorem readToken_encryptForRow {encrypted} (done : envelope.encryptForRow salt key aad texts = some encrypted) :
    List.Forall₂ (fun text blob => envelope.readToken aad encrypted.wrappedDEK blob = some text)
      texts encrypted.ciphertexts := by
  unfold encryptForRow at done
  split at done
  · simp only [Option.bind_eq_bind, Option.bind_eq_some_iff, Option.pure_def, Option.some.injEq] at done
    obtain ⟨legacy, known, blobs, each, rfl⟩ := done
    apply readToken_encryptEach _ each
    intro salt text blob sealed
    simp [decryptToken, known, legacy.decrypt_encrypt sealed]
  · next kms known =>
      simp only [Option.bind_eq_bind, Option.bind_eq_some_iff, Option.pure_def, Option.some.injEq] at done
      obtain ⟨⟨wrapped, version⟩, wraps, blobs, each, resolved, _, rfl⟩ := done
      apply readToken_encryptEach _ each
      intro salt text blob sealed
      obtain ⟨named, unwraps⟩ := kms.unwrap_wrap wraps
      simp [decryptToken, known, unwraps, envelope.aead.decrypt_encrypt sealed]

end Envelope

/-- They carry the granted token, the old refresh token unless there is a new one, and the user
token. -/
theorem Credentials.renew_texts {credentials renewed : Credentials Blob} {refreshToken : String}
    {grant : Grant} {now : Time}
    (done : credentials.renew envelope aad refreshToken grant now salt key = some renewed) :
    renewed.accessText envelope aad = some grant.accessToken ∧ renewed.refreshText envelope aad =
        some (if grant.refreshToken = "" then refreshToken else grant.refreshToken) ∧
      renewed.userText envelope aad = credentials.userText envelope aad := by
  simp only [renew, bind_eq_bind, bind_eq_some_iff] at done
  obtain ⟨user, old, encrypted, sealed, columns⟩ := done
  have texts := Envelope.readToken_encryptForRow sealed
  split at columns
  · next access refresh kept three =>
      cases some.inj columns
      rw [three] at texts
      obtain ⟨first, second, third⟩ : _ ∧ _ ∧ _ := by simpa using texts
      exact ⟨first, second, third.trans old.symm⟩
  · cases columns

namespace Store

variable {store next : Store Blob} {id : Nat}

def holdsAt (store : Store Blob) (id : Nat) : Bool := (store.calls id).any fun call => call.phase.holds

/-- The lock is with the call whose transaction is open. -/
def Exclusive (store : Store Blob) : Prop := ∀ id, store.lock = some id ↔ store.holdsAt id = true

/-- The grant that the holder of the lock has not saved yet. -/
def unsaved (store : Store Blob) : List Nat :=
  match store.lock.bind store.calls with
  | some call => call.phase.unsaved
  | none => []

/-- A step moves one call, and the lock goes with it. -/
structure Moves (store : Store Blob) (id : Nat) (call : Option (Call Blob)) (next : Store Blob) : Prop where
  calls : next.calls = update store.calls id call
  lock : next.lock =
    if (call.any fun call => call.phase.holds) then some id
    else if store.holdsAt id then none else store.lock
  free : (call.any fun call => call.phase.holds) = true → store.lock = none ∨ store.holdsAt id = true

section

variable {call : Option (Call Blob)} (calls : next.calls = update store.calls id call)
include calls

theorem Moves.idle (before : store.holdsAt id = false)
    (after : (call.any fun call => call.phase.holds) = false) (lock : next.lock = store.lock) :
    store.Moves id call next :=
  ⟨calls, by simp [before, after, lock], by simp [after]⟩

theorem Moves.hold (exclusive : store.Exclusive) (before : store.holdsAt id = true)
    (after : (call.any fun call => call.phase.holds) = true) (lock : next.lock = store.lock) :
    store.Moves id call next :=
  ⟨calls, by simp [after, lock, (exclusive id).mpr before], fun _ => .inr before⟩

theorem Moves.acquire (before : store.lock = none)
    (after : (call.any fun call => call.phase.holds) = true) (lock : next.lock = some id) :
    store.Moves id call next :=
  ⟨calls, by simp [after, lock], fun _ => .inl before⟩

theorem Moves.release (before : store.holdsAt id = true)
    (after : (call.any fun call => call.phase.holds) = false) (lock : next.lock = none) :
    store.Moves id call next :=
  ⟨calls, by simp [before, after, lock], by simp [after]⟩

end

variable {call : Option (Call Blob)}

theorem Moves.exclusive (moves : store.Moves id call next) (exclusive : store.Exclusive) : next.Exclusive := by
  intro other
  have lock := moves.lock
  by_cases same : other = id
  · subst same
    rw [holdsAt, moves.calls, update_self]
    by_cases holds : (call.any fun call => call.phase.holds) = true
    · rw [lock, if_pos holds]
      exact iff_of_true rfl holds
    · rw [if_neg holds] at lock
      refine iff_of_false ?_ holds
      split at lock
      · rw [lock]
        nofun
      · next idle =>
          rw [lock]
          exact mt (exclusive other).mp idle
  · rw [holdsAt, moves.calls, update_of_ne same, ← holdsAt, ← exclusive other]
    by_cases holds : (call.any fun call => call.phase.holds) = true
    · rw [lock, if_pos holds]
      refine iff_of_false (fun equal => same (some.inj equal).symm) ?_
      intro held
      rcases moves.free holds with unlocked | mine
      · cases unlocked.symm.trans held
      · exact same (some.inj (held.symm.trans ((exclusive id).mpr mine)))
    · rw [if_neg holds] at lock
      split at lock
      · next mine =>
          rw [lock]
          refine iff_of_false nofun ?_
          intro held
          exact same (some.inj (held.symm.trans ((exclusive id).mpr mine)))
      · rw [lock]

theorem unsaved_of_open (exclusive : store.Exclusive) {call}
    (open_ : store.calls id = some call) (holds : call.phase.holds = true) :
    store.unsaved = call.phase.unsaved := by
  have held : store.lock = some id := (exclusive id).mpr (by simp [holdsAt, open_, holds])
  simp [unsaved, held, open_]

theorem unsaved_of_free (free : store.lock = none) : store.unsaved = [] := by
  simp [unsaved, free]

/-- A call without the lock has no grant, and the holder keeps its own. -/
theorem Moves.unsaved_eq (moves : store.Moves id call next) (exclusive : store.Exclusive) :
    next.unsaved = if (call.any fun call => call.phase.holds) then call.elim [] fun call => call.phase.unsaved
      else if store.holdsAt id then [] else store.unsaved := by
  have lock := moves.lock
  split at lock
  · next holds =>
      rw [if_pos holds, unsaved, lock]
      simp only [bind_some, moves.calls, update_self]
      cases call <;> rfl
  · next released =>
      rw [if_neg released]
      split at lock
      · next mine =>
          rw [if_pos mine]
          exact unsaved_of_free lock
      · next idle =>
          rw [if_neg idle, unsaved, lock, unsaved]
          cases held : store.lock with
          | none => rfl
          | some other =>
            have apart : other ≠ id := by
              rintro rfl
              exact idle ((exclusive other).mp held)
            rw [bind_some, bind_some, moves.calls, update_of_ne apart]

theorem holdsAt_of_open (open_ : store.calls id = call) :
    store.holdsAt id = call.any fun call => call.phase.holds := by
  rw [holdsAt, open_]

@[simp]
theorem credentialsAt_version (store : Store Blob) :
    store.credentialsAt store.version = some store.row.credentials := by
  simp [credentialsAt, version]

end Store

/-- What a call knows of its row's version, if it holds the lock. -/
def Call.Dated (envelope : Envelope Key Blob) (aad : String) (store : Store Blob) (call : Call Blob) : Prop :=
  call.began ≤ store.version ∧
    match call.phase with
    | .waiting _ | .locked => True
    | .refreshing fresh version refreshToken | .granted fresh version refreshToken _ =>
      version = store.version ∧ fresh.credentials = store.row.credentials ∧
        fresh.credentials.refreshText envelope aad = some refreshToken
    | .done row version | .ready row version =>
      call.began ≤ version ∧ store.credentialsAt version = some row.credentials

/-- Each grant of a version is dropped, unsaved or replaced. -/
structure Store.Sound (envelope : Envelope Key Blob) (aad : String) (store : Store Blob) : Prop where
  exclusive : store.Exclusive
  dated : ∀ {id call}, store.calls id = some call → call.Dated envelope aad store
  tally : ∀ version, store.granted.count version ≤
    store.dropped.count version + store.unsaved.count version + if version < store.version then 1 else 0

namespace Store.Sound

variable {store next : Store Blob} {id : Nat} {call : Option (Call Blob)}

theorem of_start (row : Row Blob) : (start row).Sound envelope aad where
  exclusive id := by
    simp [holdsAt, start]
  dated := by simp [start]
  tally := by simp [start]

variable {one : Call Blob} {began version : Nat} {row : Row Blob}

theorem dated_congr (dated : one.Dated envelope aad store) (earlier : next.earlier = store.earlier)
    (credentials : next.row.credentials = store.row.credentials) : one.Dated envelope aad next := by
  unfold Call.Dated version credentialsAt at *
  rwa [earlier, credentials]

section

variable (sound : store.Sound envelope aad) (moves : store.Moves id call next)
  (earlier : next.earlier = store.earlier) (credentials : next.row.credentials = store.row.credentials)
  (dated : ∀ one, call = some one → one.Dated envelope aad store)

include sound moves earlier credentials dated

/-- A step that leaves the credentials alone. -/
theorem move (tally : ∀ version, next.granted.count version ≤
      next.dropped.count version + next.unsaved.count version + if version < store.version then 1 else 0) :
    next.Sound envelope aad where
  exclusive := moves.exclusive sound.exclusive
  dated := by
    intro other one open_
    refine dated_congr ?_ earlier credentials
    rw [moves.calls] at open_
    obtain ⟨rfl, here⟩ | ⟨_, old⟩ := cell_update open_
    · exact dated one here
    · exact sound.dated old
  tally version := by
    have counted := tally version
    rwa [Store.version, earlier]

/-- A step that has nothing to do with grants. -/
theorem quiet (granted : next.granted = store.granted) (dropped : next.dropped = store.dropped)
    (unsaved : next.unsaved = store.unsaved) : next.Sound envelope aad := by
  apply sound.move moves earlier credentials dated
  rw [granted, dropped, unsaved]
  exact sound.tally

end

theorem version_save : (store.save id began row).version = store.version + 1 := length_append

/-- A call without the lock relies on no replaced version. -/
theorem dated_save (dated : one.Dated envelope aad store) (idle : one.phase.holds ≠ true) :
    one.Dated envelope aad (store.save id began row) := by
  obtain ⟨started, known⟩ := dated
  refine ⟨Nat.le_succ_of_le started |>.trans_eq version_save.symm, ?_⟩
  cases phase : one.phase with
  | waiting => trivial
  | ready row version =>
    rw [phase] at known
    refine ⟨known.1, ?_⟩
    have below := (List.getElem?_eq_some_iff.mp known.2).1
    exact (getElem?_append_left below).trans known.2
  | _ =>
    rw [phase] at idle
    exact absurd rfl idle

/-- A saved grant of the current version counts as an earlier one. -/
theorem count_saved {granted dropped counted}
    (before : granted ≤ dropped + [version].count counted + if counted < version then 1 else 0) :
    granted ≤ dropped + 0 + if counted < version + 1 then 1 else 0 := by
  simp only [count_singleton, beq_iff_eq] at before
  split_ifs at before ⊢ <;> omega

section

variable (sound : store.Sound envelope aad)

include sound

variable {fresh : Row Blob} {refreshToken : String}

/-- Saving a grant makes it the next version. -/
theorem save {grant} (open_ : store.calls id = some ⟨began, .granted fresh version refreshToken grant⟩) :
    (store.save id began row).Sound envelope aad := by
  have mine : store.holdsAt id = true := holdsAt_of_open open_
  have moves : store.Moves id _ (store.save id began row) := .hold rfl sound.exclusive mine rfl rfl
  have started : began ≤ store.version := (sound.dated open_).1
  have current : version = store.version := (sound.dated open_).2.1
  constructor
  · exact moves.exclusive sound.exclusive
  · intro other one opened
    rw [moves.calls] at opened
    obtain ⟨rfl, ⟨⟩⟩ | ⟨same, opened⟩ := cell_update opened
    · refine ⟨?_, Nat.le_succ_of_le started, ?_⟩
      · rw [version_save]
        exact Nat.le_succ_of_le started
      · rw [← version_save]
        exact credentialsAt_version _
    · refine dated_save (sound.dated opened) ?_
      intro holds
      have held := (sound.exclusive other).mpr (by simp [holdsAt, opened, holds])
      exact same (some.inj (held.symm.trans ((sound.exclusive id).mpr mine)))
  · intro counted
    have before := sound.tally counted
    have saved : (store.save id began row).unsaved = [] := by
      rw [moves.unsaved_eq sound.exclusive]
      rfl
    rw [unsaved_of_open sound.exclusive open_ rfl, current] at before
    rw [saved, version_save]
    exact count_saved before

/-- A call that does not hold the lock starts, waits or ends. -/
theorem idle (before : store.holdsAt id = false) (after : (call.any fun call => call.phase.holds) = false)
    (dated : ∀ one, call = some one → one.Dated envelope aad store) :
    (store.setCall id call).Sound envelope aad := by
  have moves : store.Moves id call (store.setCall id call) := .idle rfl before after rfl
  apply sound.quiet moves rfl rfl dated rfl rfl
  rw [moves.unsaved_eq sound.exclusive, after, before]
  rfl

/-- The holder of the lock moves on without a grant. -/
theorem hold {phase following} (open_ : store.calls id = some ⟨began, phase⟩)
    (before : phase.holds = true) (after : following.holds = true) (none_ : phase.unsaved = [])
    (still : following.unsaved = []) (dated : Call.Dated envelope aad store ⟨began, following⟩) :
    (store.setCall id (some ⟨began, following⟩)).Sound envelope aad := by
  have mine : store.holdsAt id = true := (holdsAt_of_open open_).trans before
  have moves : store.Moves id _ (store.setCall id (some ⟨began, following⟩)) :=
    .hold rfl sound.exclusive mine after rfl
  apply sound.quiet moves rfl rfl _ rfl rfl
  · rw [moves.unsaved_eq sound.exclusive, any_some, after,
      unsaved_of_open sound.exclusive open_ before, none_]
    exact still
  · intro one same
    cases same
    exact dated

/-- The holder of the lock ends its transaction without a grant. -/
theorem release (open_ : store.calls id = some one) (before : one.phase.holds = true)
    (none_ : one.phase.unsaved = []) (after : (call.any fun call => call.phase.holds) = false)
    (dated : ∀ one, call = some one → one.Dated envelope aad store) :
    (store.setCall id call).release.Sound envelope aad := by
  have mine : store.holdsAt id = true := (holdsAt_of_open open_).trans before
  have moves : store.Moves id call (store.setCall id call).release := .release rfl mine after rfl
  apply sound.quiet moves rfl rfl dated rfl rfl
  rw [moves.unsaved_eq sound.exclusive, after, mine, unsaved_of_open sound.exclusive open_ before, none_]
  rfl

/-- A grant that is given up is counted as dropped. -/
theorem stop (open_ : store.calls id = some one) : (store.stop id one.phase).Sound envelope aad := by
  have mine : store.holdsAt id = one.phase.holds := holdsAt_of_open open_
  cases holds : one.phase.holds with
  | false =>
    have moves : store.Moves id none (store.stop id one.phase) :=
      .idle rfl (mine.trans holds) rfl (by simp [Store.stop, holds])
    have none_ : one.phase.unsaved = [] := by
      cases phase : one.phase <;> simp_all [Phase.holds, Phase.unsaved]
    apply sound.quiet moves rfl rfl (by simp) rfl
    · simp [Store.stop, none_]
    · rw [moves.unsaved_eq sound.exclusive, mine, holds]
      rfl
  | true =>
    have moves : store.Moves id none (store.stop id one.phase) :=
      .release rfl (mine.trans holds) rfl (by simp [Store.stop, holds])
    apply sound.move moves rfl rfl (by simp)
    intro version
    have before := sound.tally version
    rw [unsaved_of_open sound.exclusive open_ holds] at before
    rw [moves.unsaved_eq sound.exclusive, mine, holds]
    change store.granted.count version ≤ (store.dropped ++ one.phase.unsaved).count version + 0 + _
    rwa [count_append]

theorem grant {grant} (open_ : store.calls id = some ⟨began, .refreshing fresh version refreshToken⟩) :
    Store.Sound envelope aad
      { store.setCall id (some ⟨began, .granted fresh version refreshToken grant⟩) with
        granted := store.granted ++ [version] } := by
  have mine : store.holdsAt id = true := holdsAt_of_open open_
  have moves : store.Moves id (some ⟨began, .granted fresh version refreshToken grant⟩)
      { store.setCall id (some ⟨began, .granted fresh version refreshToken grant⟩) with
        granted := store.granted ++ [version] } := .hold rfl sound.exclusive mine rfl rfl
  apply sound.move moves rfl rfl
  · intro one same
    cases same
    have known := sound.dated open_
    exact known
  · intro counted
    have before := sound.tally counted
    rw [unsaved_of_open sound.exclusive open_ rfl] at before
    rw [moves.unsaved_eq sound.exclusive]
    change (store.granted ++ [version]).count counted ≤ store.dropped.count counted + [version].count counted + _
    change store.granted.count counted ≤ store.dropped.count counted + 0 + _ at before
    rw [count_append]
    omega

end

theorem step {event} (taken : Step envelope aad store event next)
    (sound : store.Sound envelope aad) : next.Sound envelope aad := by
  cases taken with
  | valid closed =>
    apply sound.idle (holdsAt_of_open closed) rfl
    intro one same
    cases same
    exact ⟨Nat.le_refl _, Nat.le_refl _, credentialsAt_version _⟩
  | expired closed =>
    apply sound.idle (holdsAt_of_open closed) rfl
    intro one same
    cases same
    exact ⟨Nat.le_refl _, trivial⟩
  | @acquire id began attempts open_ free =>
    have moves : store.Moves id (some ⟨began, .locked⟩)
        { store.setCall id (some ⟨began, .locked⟩) with lock := some id } :=
      .acquire rfl free rfl rfl
    apply sound.quiet moves rfl rfl _ rfl rfl
    · rw [moves.unsaved_eq sound.exclusive, unsaved_of_free free]
      rfl
    · intro one same
      cases same
      exact ⟨(sound.dated open_).1, trivial⟩
  | busy open_ =>
    apply sound.idle (holdsAt_of_open open_)
    · split <;> rfl
    · intro one same
      split at same
      · cases same
        exact ⟨(sound.dated open_).1, trivial⟩
      · cases same
  | reread open_ _ _ _ decrypted =>
    exact sound.hold open_ rfl rfl rfl rfl ⟨(sound.dated open_).1, rfl, rfl, decrypted⟩
  | renewed open_ =>
    exact sound.hold open_ rfl rfl rfl rfl ⟨(sound.dated open_).1, (sound.dated open_).1, credentialsAt_version _⟩
  | refused open_ => exact sound.release open_ rfl rfl rfl (by simp)
  | granted _ open_ => exact sound.grant open_
  | persist open_ => exact sound.save open_
  | fail open_ => exact sound.stop open_
  | commit succeeded open_ =>
    apply sound.release open_ rfl rfl
    · cases succeeded <;> rfl
    · intro one same
      cases succeeded with
      | false => cases same
      | true =>
        cases same
        have known := sound.dated open_
        exact known
  | respond open_ => exact sound.idle (holdsAt_of_open open_) rfl (by simp)
  | write | delete =>
    exact ⟨sound.exclusive, fun open_ => dated_congr (sound.dated open_) rfl rfl, sound.tally⟩

/-- Only the current version can have a grant that is not saved. -/
theorem unsaved_current (sound : store.Sound envelope aad) :
    store.unsaved = [] ∨ store.unsaved = [store.version] := by
  unfold unsaved
  split
  · next one found =>
      obtain ⟨id, _, open_⟩ := bind_eq_some_iff.mp found
      have known := (sound.dated open_).2
      cases phase : one.phase with
      | granted fresh version refreshToken grant =>
        rw [phase] at known
        exact .inr (congrArg (fun version => [version]) known.1)
      | _ => exact .inl rfl
  · exact .inl rfl

theorem count_granted (sound : store.Sound envelope aad) (version : Nat) :
    store.granted.count version ≤ store.dropped.count version + 1 := by
  have counted := sound.tally version
  rcases sound.unsaved_current with none_ | one
  · rw [none_, count_nil] at counted
    split at counted <;> omega
  · rw [one, count_singleton] at counted
    by_cases current : version = store.version
    · rw [current, if_neg (Nat.lt_irrefl _), if_pos (beq_self_eq_true _)] at counted
      rw [current]
      omega
    · rw [if_neg (by simpa using Ne.symm current)] at counted
      split at counted <;> omega

end Store.Sound

/-- One call at a time refreshes, once for each grant that is saved. A call returns a token that was
current since it began, and the user token is kept. -/
theorem refresh_single_flight {row : Row Blob} {events : List (Event Key)} {store : Store Blob}
    (run : Run (Step envelope aad) (.start row) events store) :
    (∀ id other, store.holdsAt id = true → store.holdsAt other = true → id = other) ∧
      (∀ version, store.granted.count version ≤ store.dropped.count version + 1) ∧
      (∀ id now response next, Step envelope aad store (.respond id now response) next →
        ∃ began version row, store.calls id = some ⟨began, .ready row version⟩ ∧
          began ≤ version ∧ version ≤ store.version ∧ store.credentialsAt version = some row.credentials ∧
          row.credentials.accessText envelope aad = some response.accessToken) ∧
      ∀ id now salt key next, Step envelope aad store (.persist id now salt key) next →
        ∃ began fresh version refreshToken grant,
          store.calls id = some ⟨began, .granted fresh version refreshToken grant⟩ ∧
          store.row.credentials.refreshText envelope aad = some refreshToken ∧
          next.row.credentials.accessText envelope aad = some grant.accessToken ∧
          next.row.credentials.refreshText envelope aad =
            some (if grant.refreshToken = "" then refreshToken else grant.refreshToken) ∧
          next.row.credentials.userText envelope aad = store.row.credentials.userText envelope aad := by
  have sound : store.Sound envelope aad := run.invariant (fun _ _ _ taken sound => sound.step taken) (.of_start row)
  refine ⟨fun id other holds also => ?_, sound.count_granted, ?_, ?_⟩
  · have held := (sound.exclusive id).mpr holds
    exact some.inj (held.symm.trans ((sound.exclusive other).mpr also))
  · intro id now response next taken
    cases taken with
    | @respond _ began version row _ _ open_ responded =>
      have known : began ≤ version ∧ store.credentialsAt version = some row.credentials := (sound.dated open_).2
      simp only [Row.respond, Option.bind_eq_bind, Option.bind_eq_some_iff, Option.pure_def,
        some.injEq] at responded
      obtain ⟨access, read, _, _, rfl⟩ := responded
      have below := (List.getElem?_eq_some_iff.mp known.2).1
      rw [length_append] at below
      exact ⟨began, version, row, open_, known.1, Nat.le_of_lt_succ below, known.2, read⟩
  · intro id now salt key next taken
    cases taken with
    | @persist _ began version fresh refreshToken grant _ _ _ credentials open_ _ renewed =>
      obtain ⟨_, same, old⟩ := (sound.dated open_).2
      obtain ⟨access, refresh, user⟩ := Credentials.renew_texts renewed
      rw [same] at old user
      exact ⟨began, fresh, version, refreshToken, grant, open_, old, access, refresh, user⟩

/-- A refresh by one of two calls, and the answer of the other one after it. -/
theorem refresh_single_flight_shared :
    ∃ store, Run (Step Sample.envelope "aad") (.start Sample.row)
        [.select 0 5, .select 1 5, .acquire 0, .busy 1, .reread 0 5,
          .refresh 0 (some Sample.grant), .persist 0 5 0 (), .commit 0 true, .acquire 1, .reread 1 6] store ∧
      store.granted.count 0 = 1 ∧ store.granted.count 0 ≤ store.dropped.count 0 + 1 := by
  exact Run.reaches (.cons (.expired rfl rfl rfl rfl nofun) <| .cons (.expired rfl rfl rfl rfl nofun) <|
    .cons (.acquire rfl rfl) <| .cons (.busy rfl nofun) <| .cons (.reread rfl rfl rfl nofun rfl) <|
    .cons (.granted _ rfl) <| .cons (.persist rfl rfl rfl) <| .cons (.commit true rfl) <|
    .cons (.acquire rfl rfl) <| .cons (.renewed rfl rfl (by decide +kernel)) <| .nil _)
    fun run => ⟨rfl, (refresh_single_flight run).2.1 0⟩

/-- A grant that is not saved is followed by a second refresh, and an early read returns the older
token. -/
theorem second_refresh_and_older_token :
    (∃ store, Run (Step Sample.envelope "aad") (.start Sample.row)
        [.select 0 5, .acquire 0, .reread 0 5, .refresh 0 (some Sample.grant), .fail 0,
          .select 1 5, .acquire 1, .reread 1 5, .refresh 1 (some Sample.grant)] store ∧
      store.granted.count 0 = 2) ∧ ∃ store response next, Run (Step Sample.envelope "aad") (.start Sample.row)
        [.select 0 1, .select 1 5, .acquire 1, .reread 1 5, .refresh 1 (some Sample.grant),
          .persist 1 5 0 (), .commit 1 true] store ∧
      Step Sample.envelope "aad" store (.respond 0 5 response) next ∧ response.accessToken = "access" ∧
      store.row.credentials.accessText Sample.envelope "aad" = some "renewed" :=
  ⟨⟨_, .cons (.expired rfl rfl rfl rfl nofun) <| .cons (.acquire rfl rfl) <|
    .cons (.reread rfl rfl rfl nofun rfl) <| .cons (.granted _ rfl) <| .cons (.fail rfl) <|
    .cons (.expired rfl rfl rfl rfl nofun) <| .cons (.acquire rfl rfl) <|
    .cons (.reread rfl rfl rfl nofun rfl) <| .cons (.granted _ rfl) <| .nil _, rfl⟩,
  ⟨_, _, _, .cons (.valid rfl rfl rfl rfl) <| .cons (.expired rfl rfl rfl rfl nofun) <|
    .cons (.acquire rfl rfl) <| .cons (.reread rfl rfl rfl nofun rfl) <| .cons (.granted _ rfl) <|
    .cons (.persist rfl rfl rfl) <| .cons (.commit true rfl) <| .nil _,
    .respond rfl rfl, rfl, rfl⟩⟩

/-- The writes of a run in their order. -/
def writes (events : List (Event Key)) : List Write :=
  events.filterMap fun
    | .write write => some write
    | _ => none

/-- A refresh saves its row while the other columns are as it read them. -/
def Undisturbed (store : Store Blob) : Event Key → Prop
  | .persist id .. => ∀ began fresh version refreshToken grant,
      store.calls id = some ⟨began, .granted fresh version refreshToken grant⟩ → store.row.frame = fresh.frame
  | _ => True

/-- A step changes these columns as it should just when undisturbed. -/
theorem Step.frame_iff {store next event} (taken : Step envelope aad store event next) :
    next.row.frame = (writes [event]).foldl Frame.write store.row.frame ↔ Undisturbed store event := by
  cases taken with
  | @persist id began version fresh refreshToken grant _ _ _ _ open_ =>
    constructor
    · intro kept _ _ _ _ _ other
      cases some.inj (open_.symm.trans other)
      exact kept.symm
    · intro undisturbed
      exact (undisturbed _ _ _ _ _ open_).symm
  | _ => exact ⟨fun _ => trivial, fun _ => rfl⟩

/-- After undisturbed refreshes status, metadata and identifier are as the other writers left them.
-/
theorem frame_of_undisturbed {first last : Store Blob} {events : List (Event Key)}
    (run : Run (Guarded (Step envelope aad) Undisturbed) first events last) :
    last.row.frame = (writes events).foldl Frame.write first.row.frame := by
  induction run with
  | nil => rfl
  | @cons first middle last event events taken _ ih =>
    have split : writes (event :: events) = writes [event] ++ writes events :=
      filterMap_append (l := [event])
    rw [ih, taken.1.frame_iff.mpr taken.2, split, foldl_append]

/-- The token is refreshed, and the agent then reports its rejection. -/
theorem frame_of_undisturbed_later :
    ∃ last, Run (Guarded (Step Sample.envelope "aad") Undisturbed) (.start Sample.row)
        [.select 0 5, .acquire 0, .reread 0 5, .refresh 0 (some Sample.grant), .persist 0 5 0 (),
          .write (.markTokenExpired "")] last ∧ last.row.frame = ⟨.tokenExpired, "@cafe", ∅⟩ := by
  exact Run.reaches (.cons ⟨.expired rfl rfl rfl rfl nofun, trivial⟩ <| .cons ⟨.acquire rfl rfl, trivial⟩ <|
    .cons ⟨.reread rfl rfl rfl nofun rfl, trivial⟩ <| .cons ⟨.granted _ rfl, trivial⟩ <|
    .cons ⟨.persist rfl rfl rfl, by
      intro _ _ _ _ _ open_
      cases open_
      rfl⟩ <|
    .cons ⟨.write _ rfl, trivial⟩ <| .nil _)
    fun run => frame_of_undisturbed run

/-- The report arrives during the refresh, which reverts it. -/
theorem refresh_reverts_status :
    ∃ last, Run (Step Sample.envelope "aad") (.start Sample.row)
        [.select 0 5, .acquire 0, .reread 0 5, .write (.markTokenExpired ""),
          .refresh 0 (some Sample.grant), .persist 0 5 0 ()] last ∧ last.row.frame.status = .active :=
  ⟨_, .cons (.expired rfl rfl rfl rfl nofun) <| .cons (.acquire rfl rfl) <|
    .cons (.reread rfl rfl rfl nofun rfl) <| .cons (.write _ rfl) <| .cons (.granted _ rfl) <|
    .cons (.persist rfl rfl rfl) <| .nil _, rfl⟩

end OneVoice.Integrations
