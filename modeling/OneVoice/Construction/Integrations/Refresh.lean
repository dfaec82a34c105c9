/- The envelope of `pkg/crypto/envelope.go`, and one integration with all that works on it: the calls of
`GetDecryptedToken` in `service/integration.go`, the lock of `pkg/oauthlock`, and the writers of
`repository/integration.go`. -/

import OneVoice.Construction.Agents.Request
import OneVoice.Library.Run

namespace OneVoice.Integrations

open Library Domain

/-- A key service wraps data keys; a salt is what a call draws. -/
structure KeyService (Key Blob : Type) where
  wrap : Nat → Key → String → Option (Blob × String)
  unwrap : Blob → String → Option (Key × String)
  unwrap_wrap : ∀ {salt key aad blob version}, wrap salt key aad = some (blob, version) →
    ∃ named, unwrap blob aad = some (key, named)

structure Aead (Key Blob : Type) where
  encrypt : Nat → Key → String → String → Option Blob
  decrypt : Key → Blob → String → Option String
  decrypt_encrypt : ∀ {salt key text aad blob}, encrypt salt key text aad = some blob →
    decrypt key blob aad = some text

structure Encryptor (Blob : Type) where
  encrypt : Nat → String → Option Blob
  decrypt : Blob → Option String
  decrypt_encrypt : ∀ {salt text blob}, encrypt salt text = some blob → decrypt blob = some text

structure Envelope (Key Blob : Type) where
  kms : Option (KeyService Key Blob)
  aead : Aead Key Blob
  legacy : Option (Encryptor Blob)
  fingerprint : String
  versionMap : StringMap Int

/-- The encrypted columns of a row. An empty token has no ciphertext. -/
structure Encrypted (Blob : Type) where
  ciphertexts : List (Option Blob)
  wrappedDEK : Option Blob
  keyVersion : Int
  fingerprint : String

namespace Envelope

variable {Key Blob : Type} (envelope : Envelope Key Blob)

def resolveVersion (version : String) : Int := (envelope.versionMap.lookup version).getD 0

/-- A version that the map does not know fails, except an empty one. -/
def resolveVersionForEncrypt (version : String) : Option Int :=
  match envelope.versionMap.lookup version with
  | some known => some known
  | none => if version ≠ "" then none else some 0

/-- A row without a wrapped key is one of the older rows. -/
def decryptToken (aad : String) (ciphertext : Blob) : Option Blob → Option (String × Int)
  | none => do
      let legacy ← envelope.legacy
      let text ← legacy.decrypt ciphertext
      return (text, 0)
  | some wrapped => do
      let kms ← envelope.kms
      let (key, version) ← kms.unwrap wrapped aad
      let text ← envelope.aead.decrypt key ciphertext aad
      return (text, envelope.resolveVersion version)

/-- An empty text is left out. -/
def encryptOne (encrypt : Nat → String → Option Blob) (salt : Nat) (text : String) : Option (Option Blob) :=
  if text = "" then some none else (encrypt salt text).map some

/-- Every text draws its own salt. -/
def encryptEach (encrypt : Nat → String → Option Blob) : Nat → List String → Option (List (Option Blob))
  | _, [] => some []
  | salt, text :: rest => do
      let blob ← encryptOne encrypt salt text
      let others ← encryptEach encrypt (salt + 1) rest
      return blob :: others

/-- All tokens of a row share one data key. -/
def encryptForRow (salt : Nat) (key : Key) (aad : String) (texts : List String) : Option (Encrypted Blob) :=
  match envelope.kms with
  | none => do
      let legacy ← envelope.legacy
      let ciphertexts ← encryptEach legacy.encrypt salt texts
      return ⟨ciphertexts, none, 0, ""⟩
  | some kms => do
      let (wrapped, version) ← kms.wrap salt key aad
      let ciphertexts ← encryptEach (fun salt text => envelope.aead.encrypt salt key text aad) (salt + 1) texts
      let version ← envelope.resolveVersionForEncrypt version
      return ⟨ciphertexts, some wrapped, version, envelope.fingerprint⟩

/-- The text of a column. A column without a ciphertext is an empty token. -/
def readToken (aad : String) (wrappedDEK : Option Blob) : Option Blob → Option String
  | none => some ""
  | some ciphertext => (envelope.decryptToken aad ciphertext wrappedDEK).map Prod.fst

end Envelope

/-- Blobs that are the texts themselves, in the older format. -/
def Sample.envelope : Envelope Unit String where
  kms := none
  aead :=
    { encrypt := fun _ _ text _ => some text
      decrypt := fun _ blob _ => some blob
      decrypt_encrypt := by
        intro _ _ _ _ _ encrypted
        exact encrypted.symm }
  legacy := some
    { encrypt := fun _ text => some text
      decrypt := some
      decrypt_encrypt := by
        intro _ _ _ encrypted
        exact encrypted.symm }
  fingerprint := ""
  versionMap := ∅

abbrev Status := Agents.IntegrationStatus

/-- The columns that a token refresh is about. -/
structure Credentials (Blob : Type) where
  accessToken : Option Blob
  refreshToken : Option Blob
  userToken : Option Blob
  wrappedDEK : Option Blob
  keyVersion : Int
  fingerprint : String
  tokenExpiresAt : Option Time
  userTokenExpiresAt : Option Time
deriving DecidableEq

/-- The columns that the other writers set. -/
structure Frame where
  status : Status
  externalID : String
  metadata : StringMap Json

structure Row (Blob : Type) where
  frame : Frame
  credentials : Credentials Blob
  deleted : Bool

/-- What the provider returns; an empty refresh token was not rotated, and the life is in seconds. -/
structure Grant where
  accessToken : String
  refreshToken : String
  expiresIn : Nat

/-- The response without identifier and platform, which are the row's. -/
structure TokenResponse where
  externalID : String
  accessToken : String
  userToken : String
  metadata : StringMap Json
  expiresAt : Option Time
  userTokenExpires : Option Time

/-- The targeted updates; a status flip may name an external identifier. -/
inductive Write where
  | markTokenExpired (externalID : String)
  | setMetadataKeys (keys : StringMap Json)
  | updateMetadata (metadata : StringMap Json)
  | updateExternalID (externalID : String)

def Frame.write (frame : Frame) : Write → Frame
  | .markTokenExpired externalID =>
    if frame.status = .active ∧ (externalID = "" ∨ externalID = frame.externalID) then
      { frame with status := .tokenExpired }
    else
      frame
  | .setMetadataKeys keys => { frame with metadata := keys ∪ frame.metadata }
  | .updateMetadata metadata => { frame with metadata := metadata }
  | .updateExternalID externalID => { frame with externalID := externalID }

section

variable {Key Blob : Type} (envelope : Envelope Key Blob) (aad : String)

namespace Credentials

variable (credentials : Credentials Blob)

def expired (now : Time) : Bool := credentials.tokenExpiresAt.any (· < now)

def accessText : Option String := envelope.readToken aad credentials.wrappedDEK credentials.accessToken

def refreshText : Option String := envelope.readToken aad credentials.wrappedDEK credentials.refreshToken

def userText : Option String := envelope.readToken aad credentials.wrappedDEK credentials.userToken

/-- The user token is encrypted again under the new data key. -/
def renew (refreshToken : String) (grant : Grant) (now : Time) (salt : Nat) (key : Key) :
    Option (Credentials Blob) := do
  let user ← credentials.userText envelope aad
  let refreshPlaintext := if grant.refreshToken = "" then refreshToken else grant.refreshToken
  let encrypted ← envelope.encryptForRow salt key aad [grant.accessToken, refreshPlaintext, user]
  match encrypted.ciphertexts with
  | [access, refresh, user] =>
    some
      { credentials with
        accessToken := access
        refreshToken := refresh
        userToken := user
        wrappedDEK := encrypted.wrappedDEK
        keyVersion := encrypted.keyVersion
        fingerprint := encrypted.fingerprint
        tokenExpiresAt := some (now + grant.expiresIn * 1000) }
  | _ => none

end Credentials

/-- An expired user token is left out of the response. -/
def Row.respond (row : Row Blob) (now : Time) : Option TokenResponse := do
  let access ← row.credentials.accessText envelope aad
  let user ← row.credentials.userText envelope aad
  return {
    externalID := row.frame.externalID
    accessToken := access
    userToken := if row.credentials.userTokenExpiresAt.all (now < ·) then user else ""
    metadata := row.frame.metadata
    expiresAt := row.credentials.tokenExpiresAt
    userTokenExpires := row.credentials.userTokenExpiresAt }

end

/-- The position of a call; a version counts the row's earlier credentials. -/
inductive Phase (Blob : Type) where
  | waiting (attempts : Nat)
  | locked
  | refreshing (fresh : Row Blob) (version : Nat) (refreshToken : String)
  | granted (fresh : Row Blob) (version : Nat) (refreshToken : String) (grant : Grant)
  | done (row : Row Blob) (version : Nat)
  | ready (row : Row Blob) (version : Nat)

structure Call (Blob : Type) where
  began : Nat
  phase : Phase Blob

/-- The row, the lock and the calls, with notes on the row's credentials. -/
structure Store (Blob : Type) where
  row : Row Blob
  lock : Option Nat
  calls : Nat → Option (Call Blob)
  earlier : List (Credentials Blob)
  granted : List Nat
  dropped : List Nat

def maxAttempts : Nat := 4

namespace Phase

variable {Blob : Type}

/-- The lock is held by its transaction until this ends. -/
def holds : Phase Blob → Bool
  | .locked | .refreshing .. | .granted .. | .done .. => true
  | .waiting _ | .ready .. => false

/-- The grant that is lost when a call ends here. -/
def unsaved : Phase Blob → List Nat
  | .granted _ version .. => [version]
  | _ => []

end Phase

namespace Store

variable {Blob : Type}

def start (row : Row Blob) : Store Blob where
  row := row
  lock := none
  calls := fun _ => none
  earlier := []
  granted := []
  dropped := []

variable (store : Store Blob)

def version : Nat := store.earlier.length

/-- The credentials of a version. The last ones are those of the row. -/
def credentialsAt (version : Nat) : Option (Credentials Blob) :=
  (store.earlier ++ [store.row.credentials])[version]?

def setCall (id : Nat) (call : Option (Call Blob)) : Store Blob :=
  { store with calls := Function.update store.calls id call }

@[simp]
def release : Store Blob := { store with lock := none }

/-- The update writes every column, under the open lock. -/
def save (id began : Nat) (row : Row Blob) : Store Blob :=
  { store.setCall id (some ⟨began, .done row (store.version + 1)⟩) with
    row := row
    earlier := store.earlier ++ [store.row.credentials] }

/-- The end of a call. Its transaction is rolled back if it is open. -/
def stop (id : Nat) (phase : Phase Blob) : Store Blob :=
  { store.setCall id none with
    lock := if phase.holds then none else store.lock
    dropped := store.dropped ++ phase.unsaved }

end Store

inductive Event (Key : Type) where
  | select (id : Nat) (now : Time)
  | acquire (id : Nat)
  | busy (id : Nat)
  | reread (id : Nat) (now : Time)
  | refresh (id : Nat) (grant : Option Grant)
  | persist (id : Nat) (now : Time) (salt : Nat) (key : Key)
  | fail (id : Nat)
  | commit (id : Nat) (succeeded : Bool)
  | respond (id : Nat) (now : Time) (response : TokenResponse)
  | write (write : Write)
  | delete

/-- Database commands are atomic. The processes' clocks need not agree. -/
inductive Step {Key Blob : Type} (envelope : Envelope Key Blob) (aad : String) :
    Store Blob → Event Key → Store Blob → Prop
  | valid {store : Store Blob} {id now} :
      store.calls id = none → store.row.deleted = false → store.row.frame.status = .active →
      store.row.credentials.expired now = false →
        Step envelope aad store (.select id now)
          (store.setCall id (some ⟨store.version, .ready store.row store.version⟩))
  | expired {store : Store Blob} {id now} :
      store.calls id = none → store.row.deleted = false → store.row.frame.status = .active →
      store.row.credentials.expired now = true → store.row.credentials.refreshToken ≠ none →
        Step envelope aad store (.select id now) (store.setCall id (some ⟨store.version, .waiting 0⟩))
  | acquire {store : Store Blob} {id began attempts} :
      store.calls id = some ⟨began, .waiting attempts⟩ → store.lock = none →
        Step envelope aad store (.acquire id) { store.setCall id (some ⟨began, .locked⟩) with lock := some id }
  | busy {store : Store Blob} {id began attempts} :
      store.calls id = some ⟨began, .waiting attempts⟩ → store.lock ≠ none →
        Step envelope aad store (.busy id)
          (store.setCall id (if attempts + 1 < maxAttempts then some ⟨began, .waiting (attempts + 1)⟩ else none))
  /-- The row is read again without the transaction of the lock. -/
  | reread {store : Store Blob} {id began now refreshToken} :
      store.calls id = some ⟨began, .locked⟩ → store.row.deleted = false →
      store.row.credentials.expired now = true → store.row.credentials.refreshToken ≠ none →
      store.row.credentials.refreshText envelope aad = some refreshToken →
        Step envelope aad store (.reread id now)
          (store.setCall id (some ⟨began, .refreshing store.row store.version refreshToken⟩))
  | renewed {store : Store Blob} {id began now} :
      store.calls id = some ⟨began, .locked⟩ → store.row.deleted = false →
      store.row.credentials.expired now = false →
        Step envelope aad store (.reread id now) (store.setCall id (some ⟨began, .done store.row store.version⟩))
  | refused {store : Store Blob} {id began version fresh refreshToken} :
      store.calls id = some ⟨began, .refreshing fresh version refreshToken⟩ →
        Step envelope aad store (.refresh id none) ((store.setCall id none).release)
  | granted {store : Store Blob} {id began version fresh refreshToken} (grant : Grant) :
      store.calls id = some ⟨began, .refreshing fresh version refreshToken⟩ →
        Step envelope aad store (.refresh id (some grant))
          { store.setCall id (some ⟨began, .granted fresh version refreshToken grant⟩) with
            granted := store.granted ++ [version] }
  /-- The columns of the row read, apart from the credentials. -/
  | persist {store : Store Blob} {id began version} {fresh : Row Blob}
      {refreshToken grant now salt key credentials} :
      store.calls id = some ⟨began, .granted fresh version refreshToken grant⟩ →
      store.row.deleted = false →
      fresh.credentials.renew envelope aad refreshToken grant now salt key = some credentials →
        Step envelope aad store (.persist id now salt key)
          (store.save id began { fresh with credentials := credentials })
  /-- An error, the end of the request or a crash ends a call anywhere. -/
  | fail {store : Store Blob} {id} {call : Call Blob} :
      store.calls id = some call → Step envelope aad store (.fail id) (store.stop id call.phase)
  | commit {store : Store Blob} {id began version row} (succeeded : Bool) :
      store.calls id = some ⟨began, .done row version⟩ →
        Step envelope aad store (.commit id succeeded)
          ((store.setCall id (if succeeded then some ⟨began, .ready row version⟩ else none)).release)
  | respond {store : Store Blob} {id began version} {row : Row Blob} {now response} :
      store.calls id = some ⟨began, .ready row version⟩ →
      row.respond envelope aad now = some response →
        Step envelope aad store (.respond id now response) (store.setCall id none)
  | write {store : Store Blob} (write : Write) :
      store.row.deleted = false →
        Step envelope aad store (.write write)
          { store with row := { store.row with frame := store.row.frame.write write } }
  | delete {store : Store Blob} :
      Step envelope aad store .delete { store with row := { store.row with deleted := true } }

/-- An active integration whose token expires at the time 1. -/
def Sample.row : Row String where
  frame := ⟨.active, "@cafe", ∅⟩
  credentials := ⟨some "access", some "refresh", some "user", none, 0, "", some 1, none⟩
  deleted := false

/-- A grant without a new refresh token. -/
def Sample.grant : Grant := ⟨"renewed", "", 10⟩

end OneVoice.Integrations
