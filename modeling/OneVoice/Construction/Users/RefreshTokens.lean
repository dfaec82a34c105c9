/- The refresh tokens of `service/user.go` and `password_reset.go`. Every command of the key store
and every statement is one step. -/

import OneVoice.Library.Uuid

namespace OneVoice.Users.RefreshTokens

open Library Function

/-- A login's user and the password writes before it; rotations pass it on. -/
structure Origin where
  user : UUID
  generation : Nat
deriving DecidableEq

/-- The position of a call. `ChangePassword` and `ConfirmReset` share the wipe after the password
write. -/
inductive Phase where
  | idle
  | checked (origin : Origin)
  | taken (token : UUID) (origin : Origin)
  | verified (user : UUID)
  | written (user : UUID) (generation : Nat)
  | scanning (user : UUID) (generation : Nat) (start : UUID → Bool) (visited toDelete : List UUID)
  | scanned (user : UUID) (generation : Nat) (toDelete : List UUID)
  | wiped (user : UUID) (generation : Nat)
  | ended

/-- The users, the refresh keys and the open calls, with notes: password writes, origins of tokens,
reported changes and accepted tokens. -/
structure State (Hash : Type) where
  users : UUID → Option Hash
  keys : UUID → Option UUID
  calls : Nat → Phase
  generation : UUID → Nat
  origin : UUID → Option Origin
  changed : UUID → Nat
  accepted : UUID → Nat

namespace State

variable {Hash : Type}

variable (state : State Hash)

def setCall (id : Nat) (phase : Phase) : State Hash := { state with calls := update state.calls id phase }

variable (user token : UUID)

/-- A new key with the user as its value. -/
def issue (origin : Origin) : State Hash :=
  { state with
    keys := update state.keys token (some origin.user)
    origin := update state.origin token (some origin) }

def drop (tokens : List UUID) : State Hash :=
  { state with keys := fun token => if token ∈ tokens then none else state.keys token }

def accept : State Hash := { state with accepted := update state.accepted token (state.accepted token + 1) }

def setPassword (hash : Hash) : State Hash :=
  { state with
    users := update state.users user (some hash)
    generation := update state.generation user (state.generation user + 1) }

def report (generation : Nat) : State Hash :=
  { state with
    changed := update state.changed user (max (state.changed user) generation) }

/-- Nothing was issued yet. -/
def start (users : UUID → Option Hash) : State Hash where
  users := users
  keys := fun _ => none
  calls := fun _ => .idle
  generation := fun _ => 0
  origin := fun _ => none
  changed := fun _ => 0
  accepted := fun _ => 0

end State

inductive Action (Hash : Type) where
  | login (id : Nat) (user : UUID) (password : String)
  | store (id : Nat) (token : UUID)
  | refresh (id : Nat) (token : UUID)
  | rotate (id : Nat) (token : UUID)
  | logout (token : UUID)
  | expire (token : UUID)
  | verify (id : Nat) (user : UUID) (password : String)
  | change (id : Nat) (hash : Hash)
  | reset (id : Nat) (user : UUID) (hash : Hash)
  | scan (id : Nat)
  | visit (id : Nat) (token : UUID)
  | scanned (id : Nat)
  | delete (id : Nat)
  | succeed (id : Nat)
  | stop (id : Nat)

/-- The comparison is the one of the password hash. -/
inductive Step {Hash : Type} (compare : Hash → String → Bool) :
    State Hash → Action Hash → State Hash → Prop
  | login {state : State Hash} {id user password hash} :
      state.calls id = .idle → state.users user = some hash → compare hash password = true →
        Step compare state (.login id user password) (state.setCall id (.checked ⟨user, state.generation user⟩))
  /-- Token identifiers are random, so a new one was never issued. -/
  | store {state : State Hash} {id token origin} :
      state.calls id = .checked origin → state.origin token = none →
        Step compare state (.store id token) ((state.issue token origin).setCall id .ended)
  /-- The signed claims name an issued token; one command takes the key. -/
  | refresh {state : State Hash} {id token user} {origin : Origin} :
      state.calls id = .idle → state.origin token = some origin → state.keys token = some user →
        Step compare state (.refresh id token)
          ((state.drop [token]).setCall id (if user = origin.user then .taken token origin else .ended))
  | rotate {state : State Hash} {id token old} {origin : Origin} {hash} :
      state.calls id = .taken old origin → state.users origin.user = some hash →
      state.origin token = none →
        Step compare state (.rotate id token) (((state.issue token origin).accept old).setCall id .ended)
  | logout {state : State Hash} (token : UUID) : Step compare state (.logout token) (state.drop [token])
  | expire {state : State Hash} (token : UUID) : Step compare state (.expire token) (state.drop [token])
  | verify {state : State Hash} {id user password hash} :
      state.calls id = .idle → state.users user = some hash → compare hash password = true →
        Step compare state (.verify id user password) (state.setCall id (.verified user))
  | change {state : State Hash} {id user old} (hash : Hash) :
      state.calls id = .verified user → state.users user = some old →
        Step compare state (.change id hash)
          ((state.setPassword user hash).setCall id (.written user (state.generation user + 1)))
  /-- A reset consumes its link where it writes the password. -/
  | reset {state : State Hash} {id user old} (hash : Hash) :
      state.calls id = .idle → state.users user = some old →
        Step compare state (.reset id user hash)
          ((state.setPassword user hash).setCall id (.written user (state.generation user + 1)))
  | scan {state : State Hash} {id user generation} :
      state.calls id = .written user generation →
        Step compare state (.scan id)
          (state.setCall id (.scanning user generation (fun token => (state.keys token).isSome) [] []))
  /-- The scan may return keys again, also gone or new ones. -/
  | visit {state : State Hash} {id user generation start visited toDelete} (token : UUID) :
      state.calls id = .scanning user generation start visited toDelete →
        Step compare state (.visit id token)
          (state.setCall id (.scanning user generation start (visited ++ [token])
            (if state.keys token = some user then toDelete ++ [token] else toDelete)))
  /-- A scan ends when it has returned every key that was there throughout. -/
  | scanned {state : State Hash} {id user generation start visited toDelete} :
      state.calls id = .scanning user generation start visited toDelete →
      (∀ token, start token = true → state.keys token ≠ none → token ∈ visited) →
        Step compare state (.scanned id) (state.setCall id (.scanned user generation toDelete))
  | delete {state : State Hash} {id user generation toDelete} :
      state.calls id = .scanned user generation toDelete →
        Step compare state (.delete id) ((state.drop toDelete).setCall id (.wiped user generation))
  | succeed {state : State Hash} {id user generation} :
      state.calls id = .wiped user generation →
        Step compare state (.succeed id) ((state.report user generation).setCall id .ended)
  /-- A refusal, a failed statement or a crash ends the call. -/
  | stop {state : State Hash} (id : Nat) : Step compare state (.stop id) (state.setCall id .ended)

namespace Sample

def users (_ : UUID) : Option String := some "old"

/-- A hash that is the password itself. -/
def plain (hash password : String) : Bool := hash = password

end Sample

end OneVoice.Users.RefreshTokens
