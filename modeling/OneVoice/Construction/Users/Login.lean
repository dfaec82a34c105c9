/- The login request: `pkg/lockout/lockout.go`, `middleware/lockout.go`, the decoding of
`handler/helpers.go`, the handler `auth.go` and the service `user.go`. Redis answers, and requests
follow one another. -/

import OneVoice.Construction.Access.Requests
import OneVoice.Library.Scanner
import OneVoice.Library.Text

namespace OneVoice.Users.Login

open Library Domain

/-- The addresses that the network package parses; mapped IPv4 is IPv4. -/
inductive IP where
  | v4 (address : BitVec 32)
  | v6 (address : BitVec 128)

/-- The library and the validator; case mapping is stable and keeps spaces. -/
structure Runtime where
  lexemes : Scanner.Lexemes
  lower : Char → Char
  lower_lower : ∀ char, lower (lower char) = lower char
  isSpace_lower : ∀ char, Access.isSpace (lower char) = Access.isSpace char
  sha256Hex : String → String
  parseIP : String → Option IP
  formatIPv6 : BitVec 128 → String
  emailRegex : String → Bool
  validEmail : String → Bool

structure Config where
  failThresholdCaptcha : Int
  failThresholdLock : Int
  duration : Nat
  keyPrefix : String

def defaultFailThresholdCaptcha : Int := 4

def defaultFailThresholdLock : Int := 10

def defaultDuration : Nat := 15 * 60 * 1000

def defaultKeyPrefix : String := "onevoice:lockout:"

namespace Config

def new (cfg : Config) : Config where
  failThresholdCaptcha :=
    if cfg.failThresholdCaptcha = 0 then defaultFailThresholdCaptcha else cfg.failThresholdCaptcha
  failThresholdLock :=
    if cfg.failThresholdLock = 0 then defaultFailThresholdLock else cfg.failThresholdLock
  duration := if cfg.duration = 0 then defaultDuration else cfg.duration
  keyPrefix := if cfg.keyPrefix = "" then defaultKeyPrefix else cfg.keyPrefix

end Config

/-- A counter of Redis, with its time to live if it has one. -/
structure Counter where
  count : Int
  pttl : Option Nat
  deriving DecidableEq

abbrev Counters := String → Option Counter

inductive Tier where
  | normal
  | captcha
  | locked
  deriving DecidableEq

/-- What a captcha verification answers. -/
inductive Verdict where
  | passed
  | invalid
  | transient
  deriving DecidableEq

structure User where
  id : Nat
  passwordHash : String
  deletionRequestedAt : Option Time
  deletionCanceledAt : Option Time
  deriving DecidableEq

/-- The handler's collaborators and the instant; a missing user is no error. -/
structure UserService where
  getByEmailIncludingDeleted : String → Except String (Option User)
  compareHashAndPassword : String → String → Bool
  generateTokens : User → Except String (String × String)
  now : Time

structure Deployment where
  runtime : Runtime
  cfg : Config
  captcha : Option (String → String → Verdict)
  captchaFailOpen : Bool
  service : UserService

/-- The bytes that arrive, and whether the connection fails after them. -/
structure Body where
  bytes : Scanner.Bytes
  broken : Bool

structure Request where
  body : Body
  captchaToken : String
  clientIP : String

structure LoginRequest where
  email : String
  password : String
  deriving DecidableEq

inductive Response where
  | accountLocked (retryAfterSeconds : Nat)
  | invalidRequestBody
  | validationFailed (fields : List (String × String))
  | captchaRequired
  | captchaInvalid
  | invalidCredentials
  | internalServerError
  | loggedIn (user : User) (accessToken refreshToken : String)
  deriving DecidableEq

/-- The password is compared with an account's or a dummy hash. -/
inductive Effect where
  | verifyCaptcha (token clientIP : String) (verdict : Verdict)
  | compareHashAndPassword (account : Option User) (password : String)
  deriving DecidableEq

structure Outcome where
  effects : List Effect
  response : Response
  counters : Counters

/-- The values that the middleware leaves for the handler. -/
structure Context where
  captchaRequired : Bool := false
  loginEmail : String := ""
  loginClientIP : String := ""

def bodyPeekLimit : Nat := 1 <<< 20

def ipv6BucketBits : Nat := 64

def deletionGraceDays : Nat := 30

def dummyHash : String := "$2a$10$N9qo8uLOickgx2ZMRZoMyeIjZAgcfl7p92ldGxad68LJZdL17lhWy"

variable (password text : String)

namespace Runtime

variable (runtime : Runtime)

def normalizeEmail (email : String) : String := toLower runtime.lower (Access.trimSpace email)

def emailHash (email : String) : String := runtime.sha256Hex (toLower runtime.lower (Access.trimSpace email))

def net16 (ip : String) : String :=
  match runtime.parseIP ip with
  | none => ""
  | some (.v4 address) =>
    toString (address >>> 24).toNat ++ "." ++ toString ((address >>> 16).toNat % 256) ++ ".0.0/16"
  | some (.v6 address) =>
    runtime.formatIPv6 (address >>> ipv6BucketBits <<< ipv6BucketBits) ++ "/" ++ toString ipv6BucketBits

/-- The address type checks its own text when it is decoded. -/
def decodeEmail (value : Json) : Option String := (Json.decodeString value).filter runtime.emailRegex

def decodeLoginRequest : Json → Option LoginRequest
  | .null => some ⟨"", ""⟩
  | .obj fields => do
      let email ← Json.decodeOwn runtime.decodeEmail "" "email" fields
      let password ← Json.decodeMatching Json.decodeString "" "password" fields
      return ⟨email, password⟩
  | _ => none

def validateEmail (email : String) : List (String × String) :=
  if email = "" then [("Email", "validation.required")]
  else if runtime.validEmail email then []
  else [("Email", "validation.invalid_email")]

def validatePassword : List (String × String) :=
  if password = "" then [("Password", "validation.required")]
  else if password.length < 8 then [("Password", "validation.too_short")]
  else []

/-- A body whose reads fail has no bytes here. -/
def decodeAndValidate (bytes : Option Scanner.Bytes) : Except Response LoginRequest :=
  match (bytes.bind (Scanner.decode runtime.lexemes)).bind runtime.decodeLoginRequest with
  | none => .error .invalidRequestBody
  | some request =>
    let email := runtime.normalizeEmail request.email
    let failed := runtime.validateEmail email ++ validatePassword request.password
    if failed = [] then .ok ⟨email, request.password⟩ else .error (.validationFailed failed)

end Runtime

def decodeLoginReqProbe : Json → Option String
  | .null => some ""
  | .obj fields => Json.decodeMatching Json.decodeString "" "email" fields
  | _ => none

/-- The bytes up to the limit. They take the place of the body. -/
def Body.peek (body : Body) : Option Scanner.Bytes :=
  if body.broken ∧ body.bytes.length < bodyPeekLimit then none
  else some (body.bytes.take bodyPeekLimit)

namespace UserService

variable (service : UserService)

def purgeEligible (user : User) : Bool :=
  match user.deletionRequestedAt, user.deletionCanceledAt with
  | some requestedAt, none => requestedAt + deletionGraceDays * 24 * 3600 * 1000 ≤ service.now
  | _, _ => false

/-- The account that a login compares the password with. -/
def account (email : String) : Except String (Option User) :=
  (service.getByEmailIncludingDeleted email).map fun user =>
    user.filter fun user => !service.purgeEligible user

end UserService

inductive LoginError where
  | invalidCredentials
  | other (error : String)

namespace Deployment

variable (deployment : Deployment)

variable (counters : Counters) (context : Context) (request : Request) (email ipNet16 : String)

def keyFor : String := deployment.cfg.new.keyPrefix ++ deployment.runtime.emailHash email ++ ":" ++ ipNet16

def getTier : Tier :=
  match counters (deployment.keyFor email ipNet16) with
  | none => .normal
  | some counter =>
    if deployment.cfg.new.failThresholdLock ≤ counter.count then .locked
    else if deployment.cfg.new.failThresholdCaptcha ≤ counter.count then .captcha
    else .normal

def ttl : Nat := ((counters (deployment.keyFor email ipNet16)).bind Counter.pttl).getD 0

/-- A time to live that runs is kept. -/
def recordFailure : Counters :=
  let counter := (counters (deployment.keyFor email ipNet16)).getD ⟨0, none⟩
  Function.update counters (deployment.keyFor email ipNet16)
    (some ⟨counter.count + 1, some (counter.pttl.getD deployment.cfg.new.duration)⟩)

def clear : Counters := Function.update counters (deployment.keyFor email ipNet16) none

def serviceLogin (password : String) : List Effect × Except LoginError (User × String × String) :=
  match deployment.service.account (deployment.runtime.normalizeEmail email) with
  | .error error => ([], .error (.other error))
  | .ok account =>
    let hash := (account.map User.passwordHash).getD dummyHash
    let compared := [.compareHashAndPassword account password]
    match account, deployment.service.compareHashAndPassword hash password with
    | some user, true =>
      match deployment.service.generateTokens user with
      | .ok tokens => (compared, .ok (user, tokens))
      | .error error => (compared, .error (.other error))
    | _, _ => (compared, .error .invalidCredentials)

/-- The client's address: the one the middleware left, or the request's. -/
def loginNet16 : String :=
  deployment.runtime.net16 (if context.loginClientIP = "" then request.clientIP else context.loginClientIP)

def recordLoginFailure : Counters :=
  let net16 := deployment.loginNet16 context request
  if net16 = "" then counters else deployment.recordFailure counters email net16

def clearLockoutForLogin : Counters :=
  let net16 := deployment.loginNet16 context request
  if net16 = "" then counters else deployment.clear counters email net16

def passes : Verdict → Bool
  | .passed => true
  | .invalid => false
  | .transient => deployment.captchaFailOpen

/-- The captcha gate gives its calls, and a response where it refuses. -/
def captchaGate : List Effect × Option Response :=
  match deployment.captcha with
  | none => ([], none)
  | some verify =>
    if !context.captchaRequired then ([], none)
    else if request.captchaToken = "" then ([], some .captchaRequired)
    else
      let clientIP :=
        if context.loginClientIP = "" then request.clientIP else context.loginClientIP
      let verdict := verify request.captchaToken clientIP
      ([.verifyCaptcha request.captchaToken clientIP verdict],
        if deployment.passes verdict then none else some .captchaInvalid)

/-- The handler after the captcha gate. -/
def finishLogin (login : LoginRequest) : Outcome :=
  match deployment.serviceLogin login.email login.password with
  | (effects, .ok (user, accessToken, refreshToken)) =>
    ⟨effects, .loggedIn user accessToken refreshToken,
      deployment.clearLockoutForLogin counters context request login.email⟩
  | (effects, .error .invalidCredentials) =>
    ⟨effects, .invalidCredentials, deployment.recordLoginFailure counters context request login.email⟩
  | (effects, .error (.other _)) => ⟨effects, .internalServerError, counters⟩

def login (counters : Counters) (context : Context) (request : Request) (bytes : Option Scanner.Bytes) : Outcome :=
  match deployment.runtime.decodeAndValidate bytes with
  | .error response => ⟨[], response, counters⟩
  | .ok login =>
    match deployment.captchaGate context request with
    | (effects, some response) => ⟨effects, response, counters⟩
    | (effects, none) =>
      let outcome := deployment.finishLogin counters context request login
      { outcome with effects := effects ++ outcome.effects }

/-- The e-mail that the middleware finds in the body. -/
def probe (bytes : Option Scanner.Bytes) : Option String :=
  (bytes.bind (Scanner.unmarshal deployment.runtime.lexemes)).bind decodeLoginReqProbe

/-- The login route: the lockout middleware and the handler behind it. -/
def serve : Outcome :=
  let bytes := request.body.peek
  let net16 := deployment.runtime.net16 request.clientIP
  match deployment.probe bytes with
  | none => deployment.login counters {} request bytes
  | some email =>
    if email = "" ∨ net16 = "" then deployment.login counters {} request bytes
    else
      match deployment.getTier counters email net16 with
      | .locked => ⟨[], .accountLocked (deployment.ttl counters email net16 / 1000), counters⟩
      | tier =>
        deployment.login counters ⟨tier = .captcha, email, request.clientIP⟩ request bytes

end Deployment

namespace Sample

def bytes : Scanner.Bytes := text.toList.map Char.toUInt8

def runtime : Runtime where
  lexemes := ⟨fun raw => .ofList (raw.map Char.ofUInt8), fun _ => 0⟩
  lower := id
  lower_lower := fun _ => rfl
  isSpace_lower := fun _ => rfl
  sha256Hex := id
  parseIP := fun text => if text = "203.0.113.7" then some (.v4 0xCB007107#32) else none
  formatIPv6 := fun _ => "::"
  emailRegex := fun text => '@' ∈ text.toList
  validEmail := fun text => '@' ∈ text.toList

def user : User := ⟨1, "hash of 12345678", none, none⟩

/-- There is one account, and the thresholds are the default ones. -/
def deployment : Deployment where
  runtime := runtime
  cfg := ⟨0, 0, 0, ""⟩
  captcha := some fun _ _ => .invalid
  captchaFailOpen := true
  service :=
    { getByEmailIncludingDeleted := fun email =>
        .ok (if email = "a@b.io" then some user else none)
      compareHashAndPassword := fun hash password => hash = "hash of " ++ password
      generateTokens := fun _ => .ok ("access", "refresh")
      now := 0 }

def counters : Counters := fun key =>
  if key = "onevoice:lockout:a@b.io:203.0.0.0/16" then some ⟨10, some 600000⟩ else none

def login : LoginRequest := ⟨"a@b.io", "12345678"⟩

def plain : String := "\x7b\"email\":\"a@b.io\",\"password\":\"12345678\"\x7d"

def request : Request := ⟨⟨bytes text, false⟩, "", "203.0.113.7"⟩

end Sample

end OneVoice.Users.Login
