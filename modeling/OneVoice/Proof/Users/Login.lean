/- Which login bodies the lockout middleware guards. The middleware reads the body as one value, and
the handler reads its first value. -/

import OneVoice.Construction.Users.Login
import Mathlib.Data.List.DropRight

namespace OneVoice.Users.Login

open Library List Access Option Scanner Login.Runtime

theorem trimSpace_trimSpace (text : String) : trimSpace (trimSpace text) = trimSpace text := by
  have trimmed (text : String) : (trimSpace text).toList = (text.toList.dropWhile isSpace).rdropWhile isSpace := by
    simp [trimSpace, rdropWhile]
  have first : ((text.toList.dropWhile isSpace).rdropWhile isSpace).dropWhile
      isSpace = (text.toList.dropWhile isSpace).rdropWhile isSpace := by
    -- What is left of a text has the same first character, so it is no space either.
    rw [dropWhile_eq_self_iff]
    intro positive
    have inside := rdropWhile_prefix isSpace (text.toList.dropWhile isSpace)
    rw [inside.getElem positive]
    exact dropWhile_eq_self_iff.mp (dropWhile_idempotent _ _) _
  apply String.toList_inj.mp
  rw [trimmed, trimmed, first, rdropWhile_idempotent]

namespace Runtime

variable (runtime : Runtime)

theorem trimSpace_toLower (text : String) :
    trimSpace (toLower runtime.lower text) = toLower runtime.lower (trimSpace text) := by
  have same : isSpace ∘ runtime.lower = isSpace := funext runtime.isSpace_lower
  simp [trimSpace, toLower, dropWhile_map, ← map_reverse, same]

@[simp] theorem normalizeEmail_empty : runtime.normalizeEmail "" = "" := rfl

/-- The two normalisations of a request do what one of them does. -/
@[simp] theorem normalizeEmail_normalizeEmail (email : String) :
    runtime.normalizeEmail (runtime.normalizeEmail email) = runtime.normalizeEmail email := by
  have lowered (text : String) :
      toLower runtime.lower (toLower runtime.lower text) = toLower runtime.lower text := by
    simp [toLower, Function.comp_def, runtime.lower_lower]
  simp only [normalizeEmail, trimSpace_toLower, trimSpace_trimSpace, lowered]

theorem net16_ne_empty {ip} (parses : (runtime.parseIP ip).isSome) : runtime.net16 ip ≠ "" := by
  obtain ⟨address, parsed⟩ := isSome_iff_exists.mp parses
  cases address with
  | v4 address | v6 address => simp [net16, parsed]

variable {runtime : Runtime}

/-- Both take one e-mail from an object, but differ before a null. -/
theorem foldlM_decodeInto {values : List (String × Json)} {own kept email : String} (related : own = kept ∨ own = "")
    (decoded : values.foldlM (fun _ field => runtime.decodeEmail field.2) own = some email) (nonempty : email ≠ "") :
    values.foldlM (fun current field => Json.decodeInto Json.decodeString current field.2) kept = some email := by
  induction values generalizing own kept with
  | nil =>
    cases decoded
    rw [related.resolve_right nonempty]
    rfl
  | cons field values ih =>
    obtain ⟨name, value⟩ := field
    simp only [foldlM_cons, bind_eq_bind, bind_eq_some_iff, decodeEmail,
      filter_eq_some_iff] at decoded ⊢
    obtain ⟨own, ⟨read, _⟩, rest⟩ := decoded
    cases value with
    | null =>
      cases read
      exact ⟨kept, rfl, ih (.inr rfl) rest⟩
    | str text =>
      cases read
      exact ⟨_, rfl, ih (.inl rfl) rest⟩
    | _ => cases read

/-- An accepted body starts with an object, whatever follows. -/
theorem decodeAndValidate_ok {bytes : Option Scanner.Bytes} {login : LoginRequest}
    (accepted : runtime.decodeAndValidate bytes = .ok login) :
    ∃ body fields rest email, bytes = some body ∧
      firstValue runtime.lexemes body = some (.obj fields, rest) ∧
      decodeLoginReqProbe (.obj fields) = some email ∧ email ≠ "" ∧ login.email = runtime.normalizeEmail email := by
  unfold decodeAndValidate at accepted
  split at accepted
  case h_1 => cases accepted
  case h_2 request decoded =>
    dsimp only at accepted
    split at accepted
    case isFalse => cases accepted
    case isTrue valid =>
      obtain rfl := Except.ok.inj accepted
      obtain ⟨value, read, fields⟩ := bind_eq_some_iff.mp decoded
      obtain ⟨body, rfl, taken⟩ := bind_eq_some_iff.mp read
      obtain ⟨⟨first, rest⟩, scanned, rfl⟩ := map_eq_some_iff.mp taken
      have nonempty : request.email ≠ "" := by
        intro empty
        simp [empty, validateEmail] at valid
      cases first with
      | obj object =>
        obtain ⟨email, owned, rest⟩ := bind_eq_some_iff.mp fields
        obtain ⟨password, _, made⟩ := bind_eq_some_iff.mp rest
        cases made
        exact ⟨body, object, _, email, rfl, scanned, foldlM_decodeInto (.inl rfl) owned nonempty, nonempty, rfl⟩
      | null =>
        cases fields
        exact absurd rfl nonempty
      | _ => cases fields

end Runtime

/-- The stored counter has come to the threshold. -/
def Reached (threshold : Int) (counters : Counters) (key : String) : Prop :=
  ∃ counter, counters key = some counter ∧ threshold ≤ counter.count

/-- The bytes after the body's first value are blanks. -/
def FollowedByBlanks (runtime : Runtime) (body : Body) : Prop :=
  ∀ bytes value rest, body.peek = some bytes →
    firstValue runtime.lexemes bytes = some (value, rest) → rest.all isBlank

/-- The password of the user was compared, or tokens were issued for them. -/
def Outcome.Touches (outcome : Outcome) (user : User) : Prop :=
  (∃ password, .compareHashAndPassword (some user) password ∈ outcome.effects) ∨
    ∃ accessToken refreshToken, outcome.response = .loggedIn user accessToken refreshToken

namespace Deployment

/-- What the counter under the key demands of the answer to a request. -/
structure Guards (deployment : Deployment) (counters : Counters) (key : String) (outcome : Outcome) : Prop where
  locked : Reached deployment.cfg.new.failThresholdLock counters key →
    (∀ user password, .compareHashAndPassword (some user) password ∉ outcome.effects) ∧
      ∀ user accessToken refreshToken, outcome.response ≠ .loggedIn user accessToken refreshToken
  captcha : Reached deployment.cfg.new.failThresholdCaptcha counters key →
    deployment.captcha.isSome → ∀ before user password after,
      outcome.effects = before ++ .compareHashAndPassword (some user) password :: after →
      ∃ token clientIP verdict, .verifyCaptcha token clientIP verdict ∈ before ∧ deployment.passes verdict

section

variable (deployment : Deployment) {counters : Counters} {context : Context} {request : Request}
  {bytes : Option Scanner.Bytes} {login : LoginRequest}

/-- A counter that demands a lock or a captcha. -/
def Watched (counters : Counters) (key : String) : Prop :=
  Reached deployment.cfg.new.failThresholdLock counters key ∨
    Reached deployment.cfg.new.failThresholdCaptcha counters key ∧ deployment.captcha.isSome

@[simp] theorem keyFor_normalizeEmail (email ipNet16 : String) :
    deployment.keyFor (deployment.runtime.normalizeEmail email) ipNet16 = deployment.keyFor email ipNet16 := by
  have same := deployment.runtime.normalizeEmail_normalizeEmail email
  simp only [normalizeEmail] at same
  simp only [keyFor, emailHash, normalizeEmail, same]

variable {password email : String} {user : User}

theorem serviceLogin_effects {account}
    (found : deployment.service.account (deployment.runtime.normalizeEmail email) = .ok account) :
    (deployment.serviceLogin email password).1 = [.compareHashAndPassword account password] := by
  simp only [serviceLogin, found]
  split
  · split <;> rfl
  · rfl

theorem serviceLogin_ok {tokens} (succeeded : (deployment.serviceLogin email password).2 = .ok (user, tokens)) :
    deployment.service.account (deployment.runtime.normalizeEmail email) = .ok (some user) := by
  unfold serviceLogin at succeeded
  split at succeeded
  · cases succeeded
  · next account found =>
    dsimp only at succeeded
    split at succeeded
    · split at succeeded
      · cases succeeded
        exact found
      · cases succeeded
    · cases succeeded

theorem finishLogin_effects (login : LoginRequest) :
    (deployment.finishLogin counters context request login).effects =
      (deployment.serviceLogin login.email login.password).1 := by
  unfold finishLogin
  split <;> simp [*]

/-- A request passes without a captcha, is refused, or passes after one. -/
theorem login_cases (counters : Counters) (context : Context) (request : Request)
    (accepted : deployment.runtime.decodeAndValidate bytes = .ok login) :
    deployment.login counters context request bytes = deployment.finishLogin counters context request login ∧
        (deployment.captcha.isSome → context.captchaRequired = false) ∨
      deployment.login counters context request bytes = ⟨[], .captchaRequired, counters⟩ ∨
      ∃ token clientIP verdict, deployment.login counters context request bytes = if deployment.passes verdict then
          { deployment.finishLogin counters context request login with
            effects := .verifyCaptcha token clientIP verdict ::
              (deployment.finishLogin counters context request login).effects }
        else ⟨[.verifyCaptcha token clientIP verdict], .captchaInvalid, counters⟩ := by
  simp only [Deployment.login, accepted, captchaGate]
  cases deployment.captcha with
  | none => exact .inl ⟨rfl, nofun⟩
  | some verify =>
    cases context.captchaRequired with
    | false => exact .inl ⟨rfl, fun _ => rfl⟩
    | true =>
      by_cases missing : request.captchaToken = ""
      · exact .inr (.inl (by simp [missing]))
      · let clientIP := if context.loginClientIP = "" then request.clientIP else context.loginClientIP
        refine .inr (.inr ⟨request.captchaToken, clientIP, verify request.captchaToken clientIP, ?_⟩)
        dsimp only
        rw [if_neg (by decide), if_neg missing]
        cases deployment.passes (verify request.captchaToken clientIP) <;> rfl

section

variable (accepted : deployment.runtime.decodeAndValidate bytes = .ok login)

include accepted

/-- The e-mail of an accepted request is normalised. -/
theorem normalizeEmail_of_accepted : deployment.runtime.normalizeEmail login.email = login.email := by
  obtain ⟨_, _, _, email, _, _, _, _, normalized⟩ := decodeAndValidate_ok accepted
  rw [normalized, normalizeEmail_normalizeEmail]

/-- At most one password is compared, that of the request. -/
theorem finishLogin_touches (touched : (deployment.finishLogin counters context request login).Touches user) :
    deployment.service.account login.email = .ok (some user) := by
  rw [← deployment.normalizeEmail_of_accepted accepted]
  cases touched with
  | inl compared =>
    obtain ⟨password, listed⟩ := compared
    rw [finishLogin_effects] at listed
    cases found : deployment.service.account (deployment.runtime.normalizeEmail login.email) with
    | error error => simp [serviceLogin, found] at listed
    | ok account =>
      rw [deployment.serviceLogin_effects found] at listed
      cases mem_singleton.mp listed
      rfl
  | inr issued =>
    obtain ⟨accessToken, refreshToken, answer⟩ := issued
    unfold finishLogin at answer
    split at answer
    case h_1 found =>
      cases answer
      exact deployment.serviceLogin_ok (congrArg Prod.snd found)
    case h_2 | h_3 => cases answer

/-- An answer touches no account but the one of the request. -/
theorem login_touches (touched : (deployment.login counters context request bytes).Touches user) :
    deployment.service.account login.email = .ok (some user) := by
  obtain ⟨answer, _⟩ | answer | ⟨token, clientIP, verdict, answer⟩ :=
    deployment.login_cases counters context request accepted
  · rw [answer] at touched
    exact deployment.finishLogin_touches accepted touched
  · rw [answer] at touched
    obtain ⟨_, listed⟩ | ⟨_, _, issued⟩ := touched
    · cases listed
    · cases issued
  · rw [answer] at touched
    apply deployment.finishLogin_touches accepted
    -- The verification is no comparison, and a refusal issues nothing.
    split_ifs at touched
    · simpa [Outcome.Touches] using touched
    · simp [Outcome.Touches] at touched

/-- Where a captcha is required, passwords are compared after it. -/
theorem login_after_captcha (configured : deployment.captcha.isSome)
    (required : context.captchaRequired = true) {before after}
    (order : (deployment.login counters context request bytes).effects =
      before ++ .compareHashAndPassword (some user) password :: after) :
    ∃ token clientIP verdict, .verifyCaptcha token clientIP verdict ∈ before ∧ deployment.passes verdict := by
  obtain ⟨_, free⟩ | answer | ⟨token, clientIP, verdict, answer⟩ :=
    deployment.login_cases counters context request accepted
  · rw [free configured] at required
    cases required
  · rw [answer] at order
    exact absurd order.symm (by simp)
  · rw [answer] at order
    cases before with
    | nil =>
      split_ifs at order <;> cases order
    | cons first before =>
      split_ifs at order with passed
      · obtain ⟨rfl, _⟩ := cons.inj order
        exact ⟨token, clientIP, verdict, mem_cons_self, passed⟩
      · cases before <;> cases order

end

theorem serve_cases (counters : Counters) (request : Request) :
    (∃ seconds, deployment.serve counters request = ⟨[], .accountLocked seconds, counters⟩) ∨
      ∃ context, deployment.serve counters request =
        deployment.login counters context request request.body.peek := by
  unfold serve
  dsimp only
  split
  · exact .inr ⟨_, rfl⟩
  · split_ifs
    · exact .inr ⟨_, rfl⟩
    · split
      · exact .inl ⟨_, rfl⟩
      · exact .inr ⟨_, rfl⟩

theorem getTier_locked {ipNet16}
    (reached : Reached deployment.cfg.new.failThresholdLock counters (deployment.keyFor email ipNet16)) :
    deployment.getTier counters email ipNet16 = .locked := by
  obtain ⟨counter, stored, above⟩ := reached
  simp only [getTier, stored, above, if_true]

theorem getTier_captcha {ipNet16}
    (reached : Reached deployment.cfg.new.failThresholdCaptcha counters (deployment.keyFor email ipNet16)) :
    deployment.getTier counters email ipNet16 = .locked ∨ deployment.getTier counters email ipNet16 = .captcha := by
  obtain ⟨counter, stored, above⟩ := reached
  simp only [getTier, stored]
  split_ifs
  · exact .inl rfl
  · exact .inr rfl

/-- Where blanks follow, the middleware acts on the handler's counter. -/
theorem serve_blank (counters : Counters) (parses : (deployment.runtime.parseIP request.clientIP).isSome)
    (accepted : deployment.runtime.decodeAndValidate request.body.peek = .ok login)
    (blank : FollowedByBlanks deployment.runtime request.body) :
    let tier := deployment.getTier counters login.email (deployment.runtime.net16 request.clientIP)
    (tier = .locked → ∃ seconds, deployment.serve counters request = ⟨[], .accountLocked seconds, counters⟩) ∧
      (tier = .captcha → ∃ context : Context, context.captchaRequired = true ∧
        deployment.serve counters request = deployment.login counters context request request.body.peek) := by
  obtain ⟨body, fields, rest, email, peeked, scanned, decoded, nonempty, normalized⟩ :=
    decodeAndValidate_ok accepted
  have bucket := deployment.runtime.net16_ne_empty parses
  have read : deployment.probe request.body.peek = some email := by
    simp [probe, peeked, unmarshal, scanned, blank body _ rest peeked scanned, decoded]
  have sameTier : deployment.getTier counters login.email (deployment.runtime.net16 request.clientIP) =
        deployment.getTier counters email (deployment.runtime.net16 request.clientIP) := by
    simp only [getTier, normalized, keyFor_normalizeEmail]
  rw [sameTier]
  simp only [serve, read, nonempty, bucket]
  constructor
  · intro tier
    rw [tier]
    exact ⟨_, rfl⟩
  · intro tier
    rw [tier]
    refine ⟨_, ?_, rfl⟩
    rfl

/-- Behind an idle middleware the password is looked at first. -/
theorem login_open_effects (accepted : deployment.runtime.decodeAndValidate bytes = .ok login)
    (found : deployment.service.account login.email = .ok (some user)) :
    (deployment.login counters {} request bytes).effects =
      [.compareHashAndPassword (some user) login.password] := by
  have gate : deployment.captchaGate {} request = ([], none) := by
    unfold captchaGate
    cases deployment.captcha <;> rfl
  rw [← deployment.normalizeEmail_of_accepted accepted] at found
  simp only [Deployment.login, accepted, gate, nil_append, finishLogin_effects,
    deployment.serviceLogin_effects found]

theorem serve_touches (accepted : deployment.runtime.decodeAndValidate request.body.peek = .ok login)
    (touched : (deployment.serve counters request).Touches user) :
    deployment.service.account login.email = .ok (some user) := by
  obtain ⟨seconds, answer⟩ | ⟨context, answer⟩ := deployment.serve_cases counters request
  · rw [answer] at touched
    simp [Outcome.Touches] at touched
  · rw [answer] at touched
    exact deployment.login_touches accepted touched

theorem guards_of_blank (counters : Counters) (parses : (deployment.runtime.parseIP request.clientIP).isSome)
    (accepted : deployment.runtime.decodeAndValidate request.body.peek = .ok login)
    (blank : FollowedByBlanks deployment.runtime request.body) :
    deployment.Guards counters (deployment.keyFor login.email (deployment.runtime.net16 request.clientIP))
      (deployment.serve counters request) := by
  obtain ⟨onLocked, onCaptcha⟩ := deployment.serve_blank counters parses accepted blank
  constructor
  · intro reached
    obtain ⟨seconds, answer⟩ := onLocked (deployment.getTier_locked reached)
    rw [answer]
    constructor
    · intro user password compared
      cases compared
    · intro user accessToken refreshToken issued
      cases issued
  · intro reached configured before user password after order
    obtain locked | captcha := deployment.getTier_captcha reached
    · obtain ⟨seconds, answer⟩ := onLocked locked
      rw [answer] at order
      exact absurd order.symm (by simp)
    · obtain ⟨context, required, answer⟩ := onCaptcha captcha
      rw [answer] at order
      exact deployment.login_after_captcha accepted configured required order

/-- Only blanks may follow a login body whose counter is watched. -/
theorem login_lock_iff_blank_rest (deployment : Deployment) (counters : Counters)
    (request : Request) (parses : (deployment.runtime.parseIP request.clientIP).isSome) :
    (∀ login, deployment.runtime.decodeAndValidate request.body.peek = .ok login →
      deployment.Guards counters (deployment.keyFor login.email (deployment.runtime.net16 request.clientIP))
        (deployment.serve counters request)) ↔
    ∀ login user, deployment.runtime.decodeAndValidate request.body.peek = .ok login →
      deployment.service.account login.email = .ok (some user) →
      deployment.Watched counters (deployment.keyFor login.email (deployment.runtime.net16 request.clientIP)) →
      FollowedByBlanks deployment.runtime request.body := by
  constructor
  · intro guards login user accepted found watched body value rest peeked scanned
    by_contra trailing
    have effects : (deployment.serve counters request).effects =
        [.compareHashAndPassword (some user) login.password] := by
      -- The middleware finds nothing in a body with a rest after its value.
      have unread : deployment.probe request.body.peek = none := by
        simp [probe, peeked, unmarshal, scanned, trailing]
      simp only [serve, unread]
      exact deployment.login_open_effects accepted found
    cases watched with
    | inl reached =>
      apply ((guards login accepted).locked reached).1 user login.password
      rw [effects]
      exact mem_singleton_self _
    | inr reached =>
      obtain ⟨_, _, _, listed, _⟩ :=
        (guards login accepted).captcha reached.1 reached.2 [] user login.password [] effects
      cases listed
  · intro blanks login accepted
    have guarded {user} (found) (watched) :=
      deployment.guards_of_blank counters parses accepted (blanks login user accepted found watched)
    constructor
    · intro reached
      constructor
      · intro user password compared
        have found := deployment.serve_touches accepted (.inl ⟨password, compared⟩)
        exact ((guarded found (.inl reached)).locked reached).1 user password compared
      · intro user accessToken refreshToken issued
        have found := deployment.serve_touches accepted (.inr ⟨accessToken, refreshToken, issued⟩)
        exact ((guarded found (.inl reached)).locked reached).2 user accessToken refreshToken issued
    · intro reached configured before user password after order
      have compared : .compareHashAndPassword (some user) password ∈
          (deployment.serve counters request).effects := by
        rw [order]
        exact mem_append_right before mem_cons_self
      have found := deployment.serve_touches accepted (.inl ⟨password, compared⟩)
      exact (guarded found (.inr ⟨reached, configured⟩)).captcha reached configured before user password after order

end

open Sample

/-- The lock holds for a client that sends nothing after the object. -/
theorem login_lock_iff_blank_rest_plain :
    Reached 10 counters (deployment.keyFor Sample.login.email (Sample.runtime.net16 "203.0.113.7")) ∧
      deployment.Guards counters (deployment.keyFor Sample.login.email (Sample.runtime.net16 "203.0.113.7"))
        (deployment.serve counters (request plain)) := by
  have accepted : Sample.runtime.decodeAndValidate (request plain).body.peek = .ok Sample.login := by decide +kernel
  refine ⟨⟨⟨10, some 600000⟩, by decide +kernel, by decide⟩, ?_⟩
  refine (login_lock_iff_blank_rest deployment counters
    (request plain) (by decide +kernel)).mpr ?_ Sample.login accepted
  intro _ _ _ _ _ bytes value rest peeked scanned
  have known : (request plain).body.peek = some (Sample.bytes plain) := by
    decide +kernel
  have object : firstValue Sample.runtime.lexemes (Sample.bytes plain) =
      some (.obj [("email", .str "a@b.io"), ("password", .str "12345678")], []) := rfl
  cases known.symm.trans peeked
  cases object.symm.trans scanned
  rfl

/-- One byte after the object opens the locked account. -/
theorem trailing_byte_opens_lock :
    (Sample.runtime.parseIP "203.0.113.7").isSome ∧
      Sample.runtime.decodeAndValidate (request (plain ++ "x")).body.peek = .ok Sample.login ∧
      Reached deployment.cfg.new.failThresholdLock counters
        (deployment.keyFor Sample.login.email (Sample.runtime.net16 "203.0.113.7")) ∧
      (deployment.serve counters (request (plain ++ "x"))).effects =
        [.compareHashAndPassword (some user) "12345678"] ∧
      (deployment.serve counters (request (plain ++ "x"))).response = .loggedIn user "access" "refresh" := by
  have reached : Reached deployment.cfg.new.failThresholdLock counters
      (deployment.keyFor Sample.login.email (Sample.runtime.net16 "203.0.113.7")) :=
    ⟨⟨10, some 600000⟩, by decide +kernel, by decide +kernel⟩
  have answer : ((deployment.serve counters (request (plain ++ "x"))).effects,
      (deployment.serve counters (request (plain ++ "x"))).response) =
      ([.compareHashAndPassword (some user) "12345678"], .loggedIn user "access" "refresh") := by decide +kernel
  obtain ⟨effects, response⟩ := Prod.mk.inj answer
  exact ⟨by decide +kernel, by decide +kernel, reached, effects, response⟩

end Deployment

end OneVoice.Users.Login
