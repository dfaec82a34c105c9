/- The addresses of `email_verification.go` with the password change of `user.go`. A transaction
that writes a user locks its row up to the commit, and all else is read as committed. -/

import OneVoice.Library.Uuid

namespace OneVoice.Users.EmailVerification

open Library Function

structure User where
  email : String
  emailVerified : Bool
  passwordHash : String
deriving DecidableEq

/-- A token is consumed by a confirmation or a change of its address. -/
inductive Consumption where
  | confirmed
  | invalidated
deriving DecidableEq

structure Token where
  userID : UUID
  email : String
  tokenHash : String
  expiresAt : Nat
  consumed : Option Consumption := none
deriving DecidableEq

/-- The position of a call; from `consuming` or `updating` on it has the row. -/
inductive Phase where
  | idle
  | resending (userID : UUID) (email : String)
  | consuming (token : Token)
  | changing (userID : UUID) (newEmail : String)
  | updating (userID : UUID) (newEmail : String)
  | hashing (userID : UUID) (email newHash : String)
  | ended

/-- The committed tables, the locks on users, and the open calls. -/
structure State where
  users : UUID → Option User
  tokens : List Token
  locks : UUID → Option Nat
  calls : Nat → Phase

section

variable (state : State) (userID : UUID)

variable (id : Nat) (token : Token)

namespace State

def setCall (phase : Phase) : State := { state with calls := update state.calls id phase }

def setLock (holder : Option Nat) : State := { state with locks := update state.locks userID holder }

def setUser (user : User) : State := { state with users := update state.users userID (some user) }

def insertToken : State := { state with tokens := state.tokens ++ [token] }

def markConsumed : State :=
  { state with tokens := state.tokens.map fun row =>
      if row = token then { row with consumed := some .confirmed } else row }

def invalidateAllForUser : State :=
  { state with tokens := state.tokens.map fun row =>
      if row.userID = userID ∧ row.consumed = none then
        { row with consumed := some .invalidated }
      else row }

/-- The unique index on the addresses. -/
def Free (email : String) : Prop :=
  ∀ other user, other ≠ userID → state.users other = some user → user.email ≠ email

end State

inductive Action where
  | requestResend (id : Nat) (userID : UUID)
  | issue (id : Nat) (tokenHash : String) (expiresAt : Nat)
  | consume (id : Nat) (tokenHash : String) (now : Nat)
  | confirmVerify (id : Nat)
  | checkUnverified (id : Nat) (userID : UUID) (newEmail : String)
  | updateEmail (id : Nat)
  | changeEmail (id : Nat) (tokenHash : String) (expiresAt : Nat)
  | checkPassword (id : Nat) (userID : UUID) (password newHash : String)
  | updateUser (id : Nat)
  | rollback (id : Nat)

/-- The lock that a call holds. -/
def Phase.locked : Phase → Option UUID
  | .consuming token => some token.userID
  | .updating userID _ => some userID
  | _ => none

def State.release : State :=
  match (state.calls id).locked with
  | some userID => state.setLock userID none
  | none => state

end

inductive Step (normalizeEmail : String → String) (compare : String → String → Bool) :
    State → Action → State → Prop
  | requestResend {state : State} {id userID} {user : User} :
      state.calls id = .idle → state.users userID = some user → user.emailVerified = false →
        Step normalizeEmail compare state (.requestResend id userID)
          (state.setCall id (.resending userID user.email))
  /-- A new token goes to the address that was read. -/
  | issue {state : State} {id userID email} (tokenHash : String) (expiresAt : Nat) :
      state.calls id = .resending userID email →
        Step normalizeEmail compare state (.issue id tokenHash expiresAt)
          ((state.insertToken ⟨userID, email, tokenHash, expiresAt, none⟩).setCall id .ended)
  /-- The token is consumed if issued to the locked row's address. -/
  | consume {state : State} {id now} {token : Token} {user : User} :
      state.calls id = .idle → token ∈ state.tokens → token.consumed = none →
      now < token.expiresAt → state.locks token.userID = none →
      state.users token.userID = some user → token.email = user.email →
        Step normalizeEmail compare state (.consume id token.tokenHash now)
          ((state.setLock token.userID (some id)).setCall id (.consuming token))
  | confirmVerify {state : State} {id} {token : Token} {user : User} :
      state.calls id = .consuming token → state.users token.userID = some user →
        Step normalizeEmail compare state (.confirmVerify id)
          ((((state.markConsumed token).setUser token.userID
            { user with emailVerified := true }).setLock token.userID none).setCall id .ended)
  /-- The flag is read outside of the transaction that writes the address. -/
  | checkUnverified {state : State} {id userID} {user : User} (newEmail : String) :
      state.calls id = .idle → state.users userID = some user → user.emailVerified = false →
      (∀ other row, state.users other = some row → row.email ≠ normalizeEmail newEmail) →
        Step normalizeEmail compare state (.checkUnverified id userID newEmail)
          (state.setCall id (.changing userID (normalizeEmail newEmail)))
  | updateEmail {state : State} {id userID newEmail user} :
      state.calls id = .changing userID newEmail → state.locks userID = none →
      state.users userID = some user → state.Free userID (normalizeEmail newEmail) →
        Step normalizeEmail compare state (.updateEmail id)
          ((state.setLock userID (some id)).setCall id (.updating userID newEmail))
  | changeEmail {state : State} {id userID newEmail} {user : User} (tokenHash : String) (expiresAt : Nat) :
      state.calls id = .updating userID newEmail → state.users userID = some user →
        Step normalizeEmail compare state (.changeEmail id tokenHash expiresAt)
          (((((state.invalidateAllForUser userID).insertToken
            ⟨userID, newEmail, tokenHash, expiresAt, none⟩).setUser userID
              { user with email := normalizeEmail newEmail }).setLock userID none).setCall id .ended)
  | checkPassword {state : State} {id userID} {user : User} {password} (newHash : String) :
      state.calls id = .idle → state.users userID = some user →
      compare user.passwordHash password = true →
        Step normalizeEmail compare state (.checkPassword id userID password newHash)
          (state.setCall id (.hashing userID user.email newHash))
  /-- The whole row that was read is written back, with the new hash. -/
  | updateUser {state : State} {id userID email newHash} {user : User} :
      state.calls id = .hashing userID email newHash → state.locks userID = none →
      state.users userID = some user → state.Free userID (normalizeEmail email) →
        Step normalizeEmail compare state (.updateUser id)
          ((state.setUser userID
            { user with email := normalizeEmail email, passwordHash := newHash }).setCall id .ended)
  /-- A refused call, a failed statement or a crash. -/
  | rollback {state : State} (id : Nat) :
      Step normalizeEmail compare state (.rollback id) ((state.release id).setCall id .ended)

namespace Sample

/-- Addresses that are in their normal form. -/
def normalizeEmail (email : String) : String := email

def plain (hash password : String) : Bool := hash = password

def token : Token := ⟨1, "a@x", "token", 10, none⟩

/-- A new user with the token of the registration. -/
def state : State where
  users := fun id => if id = 1 then some ⟨"a@x", false, "hash"⟩ else none
  tokens := [token]
  locks := fun _ => none
  calls := fun _ => .idle

end Sample

end OneVoice.Users.EmailVerification
