import OneVoice.Construction.RateLimit.Limiter
import OneVoice.Library.Run
import OneVoice.Library.Running

namespace OneVoice.RateLimit

open Library Function List Counter Bucket

section Keys

theorem key_cancel {text first second}
    (same : "ratelimit:" ++ text ++ first = "ratelimit:" ++ text ++ second) : first = second := by
  have lists := congrArg String.toList same
  simp only [String.toList_append, append_assoc] at lists
  exact String.toList_inj.mp (append_cancel_left (append_cancel_left lists))

variable (userID : UUID) (instant : Instant)

theorem requests_ne_tokens : requestsMinKey userID ≠ tokensMinKey userID := by
  intro same
  exact absurd (key_cancel same) (by decide)

theorem requests_ne_month : requestsMinKey userID ≠ tokensMonthKey userID instant := by
  intro same
  rw [tokensMonthKey, String.append_assoc] at same
  have lists := congrArg String.toList (key_cancel same)
  simp at lists

theorem tokens_ne_month : tokensMinKey userID ≠ tokensMonthKey userID instant := by
  intro same
  rw [tokensMonthKey, String.append_assoc] at same
  have lists := congrArg String.toList (key_cancel same)
  simp at lists

theorem enabledBuckets_distinct (limits : Limits) (charge : TokenCharge) :
    ((enabledBuckets userID limits charge instant).map key).Nodup := by
  apply List.Nodup.sublist (filter_sublist.map key)
  simp [requests_ne_tokens, requests_ne_month, tokens_ne_month]

theorem gates_distinct (tierLimits : TierLimits) (tier : String) (call : LimitCall) :
    ((gates tierLimits userID tier call).map key).Nodup := by
  unfold gates
  split
  · exact .nil
  · split
    · exact .nil
    · exact enabledBuckets_distinct ..

end Keys

section Scripts

variable {buckets : List Bucket} {bucket : Bucket}

theorem incrWithExpiryScript_eq (redis : Redis) (key : String) (increment : Int) (ttl : Nat) :
    incrWithExpiryScript redis key increment ttl =
      { redis with
        keys := update redis.keys key ((redis.keys key).charge redis.now increment ttl) } := by
  simp only [incrWithExpiryScript, Redis.incrBy, Redis.pttl, Redis.pexpire, charge, update_self, update_idem]
  split <;> rfl

theorem repairExpiry_eq (redis : Redis) (bucket : Bucket) :
    repairExpiry redis bucket =
      { redis with
        keys := update redis.keys bucket.key ((redis.keys bucket.key).heal redis.now bucket.ttl) } := by
  unfold repairExpiry heal
  by_cases untimed : (redis.keys bucket.key).pttl redis.now = -1
  · rw [if_pos (show redis.pttl bucket.key = -1 from untimed), if_pos untimed]
    rfl
  · rw [if_neg (show ¬ redis.pttl bucket.key = -1 from untimed), if_neg untimed, update_eq_self]

/-- The first loop heals each key and compares with the first counters. -/
theorem foldl_checkBucket (distinct : (buckets.map key).Nodup) (redis : Redis) (verdict : Bool) :
    buckets.foldl checkBucket (redis, verdict) =
      ({ redis with
        keys := rewriteEach key (fun bucket counter => counter.heal redis.now bucket.ttl) buckets redis.keys },
        verdict && buckets.all (fits redis)) := by
  induction buckets generalizing redis verdict with
  | nil => simp [rewriteEach]
  | cons head rest ih =>
    obtain ⟨outside, distinct⟩ := nodup_cons.mp distinct
    have unchanged : rest.all (fits (repairExpiry redis head)) = rest.all (fits redis) := by
      rw [Bool.eq_iff_iff, all_eq_true, all_eq_true, repairExpiry_eq]
      apply forall₂_congr
      intro bucket member
      have apart : bucket.key ≠ head.key := fun same => outside (same ▸ mem_map_of_mem member)
      unfold fits Redis.get
      dsimp only
      rw [update_of_ne apart]
    rw [foldl_cons, checkBucket, ih distinct, unchanged, Bool.and_assoc, repairExpiry_eq]
    rfl

theorem foldl_chargeBucket (buckets : List Bucket) (redis : Redis) :
    buckets.foldl chargeBucket redis =
      { redis with
        keys := rewriteEach key (fun bucket counter => counter.charge redis.now bucket.increment bucket.ttl)
          buckets redis.keys } := by
  induction buckets generalizing redis with
  | nil => rfl
  | cons head rest ih => rw [foldl_cons, ih, chargeBucket, incrWithExpiryScript_eq]; rfl

/-- What the reservation leaves under gates' keys, and other keys. -/
theorem reserve_spec (distinct : (buckets.map key).Nodup) (redis : Redis) :
    (reserveChargeScript redis buckets).2 = buckets.all (fits redis) ∧
      (reserveChargeScript redis buckets).1.now = redis.now ∧
      (∀ bucket ∈ buckets, (reserveChargeScript redis buckets).1.keys bucket.key =
        let healed := (redis.keys bucket.key).heal redis.now bucket.ttl
        if (reserveChargeScript redis buckets).2 then
          healed.charge redis.now bucket.increment bucket.ttl
        else healed) ∧
      ∀ key ∉ buckets.map Bucket.key, (reserveChargeScript redis buckets).1.keys key = redis.keys key := by
  rw [reserveChargeScript, foldl_checkBucket distinct, Bool.true_and]
  by_cases admitted : buckets.all (Bucket.fits redis) = true
  · simp only [admitted, if_true, foldl_chargeBucket, true_and]
    constructor
    · intro bucket member
      rw [rewriteEach_of_mem distinct member, rewriteEach_of_mem distinct member]
    · intro key outside
      rw [rewriteEach_of_notMem outside, rewriteEach_of_notMem outside]
  · simp only [admitted, Bool.false_eq_true, if_false, true_and]
    constructor
    · intro bucket member
      rw [rewriteEach_of_mem distinct member]
    · intro key outside
      rw [rewriteEach_of_notMem outside]

end Scripts

section Calls

variable {tierLimits : TierLimits} {userID : UUID} {tier : String}

/-- A call leaves the counters alone or runs its reservation, and answers as that if nothing is lost. -/
theorem checkLimit_effect (tierLimits : TierLimits) (redis : Redis) (userID : UUID) (tier : String) (call : LimitCall) :
    let out := checkLimit tierLimits redis userID tier call
    let script := reserveChargeScript redis (gates tierLimits userID tier call)
    (out.1 = redis ∧ (call.exchange = .answered → out.2 = .ok true → gates tierLimits userID tier call = [])) ∨
      (out.1 = script.1 ∧ (call.exchange = .answered → out.2 = .ok script.2)) := by
  unfold checkLimit gates
  cases tierLimits tier with
  | none =>
    left
    by_cases system : userID = 0
    · simp only [if_pos system, implies_true, and_self]
    · simp only [if_neg system, implies_true, and_self]
  | some limits =>
    by_cases unlimited : limits.isUnlimited = true
    · simp only [unlimited]
      left
      obtain ⟨requests, tokens, month, _⟩ : limits.requestsPerMin = -1 ∧
        limits.tokensPerMin = -1 ∧ limits.tokensPerMonth = -1 ∧ limits.dailySpendUSD = -1 := by
          simpa [Limits.isUnlimited] using unlimited
      simp [enabledBuckets, requests, tokens, month]
    · simp only [if_neg unlimited]
      cases dailySpendGate limits call with
      | some error => simp
      | none =>
        dsimp only
        split
        · simp
        · split
          · simp
          · dsimp only [reserveCharge]
            by_cases none : enabledBuckets userID limits call.charge call.instant = []
            · simp [none]
            · cases call.exchange <;> simp [none]

/-- What an answered call does to each key. -/
theorem checkLimit_spec (redis : Redis) {call : LimitCall} (arrives : call.exchange = .answered) {next answer}
    (called : checkLimit tierLimits redis userID tier call = (next, answer)) :
    next.now = redis.now ∧
      (answer = .ok true → ∀ bucket ∈ gates tierLimits userID tier call,
        bucket.fits redis = true ∧ next.keys bucket.key =
          ((redis.keys bucket.key).heal redis.now bucket.ttl).charge redis.now bucket.increment bucket.ttl) ∧
      (answer ≠ .ok true → ∀ key, next.keys key = redis.keys key ∨
        ∃ bucket ∈ gates tierLimits userID tier call, bucket.key = key ∧
          next.keys key = (redis.keys key).heal redis.now bucket.ttl) ∧
      ∀ key, key ∉ (gates tierLimits userID tier call).map Bucket.key → next.keys key = redis.keys key := by
  have effect := checkLimit_effect tierLimits redis userID tier call
  have distinct := gates_distinct userID tierLimits tier call
  rw [called] at effect
  rcases effect with ⟨rfl, none⟩ | ⟨rfl, answers⟩
  · refine ⟨rfl, ?_, fun _ key => .inl rfl, fun key _ => rfl⟩
    intro admitted bucket member
    rw [none arrives admitted] at member
    cases member
  · obtain rfl : answer = _ := answers arrives
    obtain ⟨verdict, clock, inside, outside⟩ := reserve_spec distinct redis
    refine ⟨clock, ?_, ?_, outside⟩
    · intro admitted bucket member
      have accepted := Except.ok.inj admitted
      have all := all_eq_true.mp (verdict.symm.trans accepted)
      have left_ := inside bucket member
      rw [accepted] at left_
      exact ⟨all bucket member, left_⟩
    · intro rejected key
      by_cases member : key ∈ (gates tierLimits userID tier call).map Bucket.key
      · obtain ⟨bucket, listed, rfl⟩ := mem_map.mp member
        have refused : ¬ (reserveChargeScript redis (gates tierLimits userID tier call)).2 = true :=
          fun accepted => rejected (congrArg Except.ok accepted)
        have left_ := inside bucket listed
        rw [if_neg refused] at left_
        exact .inr ⟨bucket, listed, rfl, left_⟩
      · exact .inl (outside key member)

/-- A record adds to the month counter or does nothing. -/
theorem recordTokens_spec (redis : Redis) (instant : Instant) (deltaTokens : Int) :
    recordTokens tierLimits redis userID tier instant deltaTokens = redis ∨
      recordTokens tierLimits redis userID tier instant deltaTokens =
        { redis with
          keys := update redis.keys (tokensMonthKey userID instant)
            ((redis.keys (tokensMonthKey userID instant)).charge redis.now deltaTokens (monthTTL instant)) } := by
  unfold recordTokens
  split
  · exact .inl rfl
  · cases tierLimits tier with
    | none => exact .inl rfl
    | some limits =>
      dsimp only
      split
      · exact .inl rfl
      · exact .inr (incrWithExpiryScript_eq ..)

/-- Minute windows last a minute, the month counter the month's rest. -/
theorem gates_ttl {call bucket} (member : bucket ∈ gates tierLimits userID tier call) :
    bucket.ttl = minuteMilliseconds ∨ bucket.key = tokensMonthKey userID call.instant ∧
      bucket.ttl = monthTTL call.instant ∧
      ∃ limits, tierLimits tier = some limits ∧ 0 < limits.tokensPerMonth := by
  unfold gates at member
  split at member
  · cases member
  · rename_i limits found
    split at member
    · cases member
    · obtain ⟨listed, positive⟩ := mem_filter.mp member
      simp only [mem_cons, not_mem_nil, or_false] at listed
      rcases listed with rfl | rfl | rfl
      · exact .inl rfl
      · exact .inl rfl
      · exact .inr ⟨rfl, rfl, limits, found, by simpa using positive⟩

end Calls

namespace Redis

def value (redis : Redis) (key : String) : Int := (redis.keys key).value redis.now

/-- The deadline of a key that is there and has one. -/
def timer (redis : Redis) (key : String) : Option Nat := (redis.keys key).timer redis.now

end Redis

/-- Some millisecond of the month is left if its gate is enabled. -/
def Timely (tierLimits : TierLimits) (tier : String) (call : LimitCall) : Prop :=
  ∀ limits, tierLimits tier = some limits → 0 < limits.tokensPerMonth →
    nanosecondsPerMillisecond ≤ call.instant.untilNextMonth

section Steps

variable {tierLimits : TierLimits} {userID : UUID} {tier : String} {redis next : Redis}
  {call : LimitCall} {answer : Except LimitError Bool}

variable {actions : List Action} {key : String} {bucket : Bucket} {limits : Limits} {first last : Redis}

theorem ttl_pos (timely : Timely tierLimits tier call)
    (member : bucket ∈ gates tierLimits userID tier call) : 0 < bucket.ttl := by
  rcases gates_ttl member with minute | ⟨_, month, limits, found, positive⟩
  · rw [minute]
    decide
  · rw [month]
    exact Nat.div_pos (timely limits found positive) (by decide)

/-- A call that is not admitted leaves counters and deadlines. -/
theorem rejected_unchanged (timely : Timely tierLimits tier call) (arrives : call.exchange = .answered)
    (called : checkLimit tierLimits redis userID tier call = (next, answer))
    (rejected : answer ≠ .ok true) (key : String) :
    next.get key = redis.get key ∧
      ∀ deadline, redis.timer key = some deadline → next.timer key = some deadline := by
  obtain ⟨clock, _, refused, _⟩ := checkLimit_spec redis arrives called
  unfold Redis.get Redis.timer
  rw [clock]
  rcases refused rejected key with same | ⟨bucket, member, rfl, healed⟩
  · rw [same]
    exact ⟨rfl, fun deadline timed => timed⟩
  · rw [healed]
    refine ⟨get_heal (ttl_pos timely member), ?_⟩
    intro deadline timed
    rw [timer_heal timed, timed]

section

variable (arrives : call.exchange = .answered)
  (called : checkLimit tierLimits redis userID tier call = (next, .ok true))
  (member : bucket ∈ gates tierLimits userID tier call)

include arrives called member

/-- A key that lasts gets exactly its charge. -/
theorem admitted_charged (lasts : 0 < bucket.ttl) :
    next.value bucket.key = redis.value bucket.key + bucket.increment := by
  obtain ⟨clock, admitted, _⟩ := checkLimit_spec redis arrives called
  unfold Redis.value
  rw [(admitted rfl bucket member).2, clock, value_charge lasts, value, get_heal lasts]
  rfl

theorem admitted_timed : next.get bucket.key = none ∨ (next.timer bucket.key).isSome := by
  obtain ⟨clock, admitted, _⟩ := checkLimit_spec redis arrives called
  have charged := (admitted rfl bucket member).2
  unfold Redis.get Redis.timer Counter.get Counter.timer
  rw [clock]
  cases found : (next.keys bucket.key).live redis.now with
  | none => exact .inl rfl
  | some entry =>
    right
    rw [charged] at found
    exact deadline_charge found

end

/-- No step moves the deadline of a key that is there. -/
theorem deadline_kept {action} (taken : Step tierLimits userID tier redis action next)
    {deadline} (timed : redis.timer key = some deadline) :
    next.timer key = some deadline ∨ next.get key = none := by
  cases taken with
  | checkLimit call =>
    left
    rcases checkLimit_effect tierLimits redis userID tier call with ⟨same, -⟩ | ⟨ran, -⟩
    · rw [same]
      exact timed
    · obtain ⟨-, clock, inside, outside⟩ := reserve_spec (gates_distinct userID tierLimits tier call) redis
      unfold Redis.timer
      rw [ran, clock]
      by_cases member : key ∈ (gates tierLimits userID tier call).map Bucket.key
      · obtain ⟨bucket, listed, rfl⟩ := mem_map.mp member
        rw [inside bucket listed]
        split
        · rw [timer_heal timed]
          exact timer_charge timed
        · rw [timer_heal timed]
          exact timed
      · rw [outside key member]
        exact timed
  | recordTokens instant deltaTokens =>
    left
    rcases @recordTokens_spec tierLimits userID tier redis instant deltaTokens with same | charged
    · rw [same]
      exact timed
    · rw [charged]
      unfold Redis.timer
      by_cases same : key = tokensMonthKey userID instant
      · subst same
        simp only [update_self]
        exact timer_charge timed
      · simp only [update_of_ne same]
        exact timed
  | passed milliseconds =>
    unfold Redis.timer Redis.get at *
    cases found : (redis.keys key).live (redis.now + milliseconds) with
    | none => exact .inr (by rw [Counter.get, found]; rfl)
    | some entry =>
      left
      have before := live_of_later (Nat.le_add_right redis.now milliseconds) found
      rw [timer, before] at timed
      rw [timer, found]
      exact timed

/-- The steps after which a key is there, once it was absent, while Redis answers. -/
def During (tierLimits : TierLimits) (userID : UUID) (tier key : String) :
    Redis → Action → Redis → Prop := fun redis action next =>
  Step tierLimits userID tier redis action next ∧ next.get key ≠ none ∧ action.answered

/-- A window charges what its key holds. -/
theorem window_total {charge limit} (positive : 0 < limit)
    (moves : ∀ redis action next, During tierLimits userID tier key redis action next →
      next.value key = redis.value key + charge action ∧
        (charge action = 0 ∨ next.value key ≤ limit)) (run : Run (During tierLimits userID tier key) first actions last)
    (absent : first.get key = none) : total charge actions ≤ limit := by
  have start : first.value key = 0 := by
    unfold Redis.value value
    rw [show (first.keys key).get first.now = none from absent]
    rfl
  let Inv (past : List Action) (redis : Redis) : Prop :=
    total charge past = redis.value key ∧ total charge past ≤ limit
  have step : ∀ past redis action next, During tierLimits userID tier key redis action next →
      Inv past redis → Inv (past ++ [action]) next := by
    intro past redis action next taken counted
    obtain ⟨moved, bounded⟩ := moves redis action next taken
    show total charge (past ++ [action]) = next.value key ∧ total charge (past ++ [action]) ≤ limit
    rw [total_append]
    rcases bounded with none | below <;> omega
  have counted : Inv ([] ++ actions) last := run.history step ⟨start.symm, le_of_lt positive⟩
  exact counted.2

/-- A key that outlasts a wait keeps its value. -/
theorem value_passed {milliseconds} (there : { redis with now := redis.now + milliseconds }.get key ≠ none) :
    { redis with now := redis.now + milliseconds }.value key = redis.value key := by
  unfold Redis.get Redis.value Counter.value Counter.get at *
  cases alive : (redis.keys key).live (redis.now + milliseconds) with
  | none =>
    rw [alive] at there
    exact absurd rfl there
  | some entry => rw [live_of_later (Nat.le_add_right redis.now milliseconds) alive]

/-- A refused call leaves the value of a minute window. -/
theorem value_refused {call answer} (arrives : call.exchange = .answered)
    (called : checkLimit tierLimits redis userID tier call = (next, answer))
    (refused : answer ≠ .ok true) (months : ∀ instant, key ≠ tokensMonthKey userID instant) :
    next.value key = redis.value key := by
  obtain ⟨clock, _, unchanged, _⟩ := checkLimit_spec redis arrives called
  unfold Redis.value value
  rw [clock]
  rcases unchanged refused key with same | ⟨bucket, member, named, healed⟩
  · rw [same]
  · have minute : 0 < bucket.ttl := by
      rcases gates_ttl member with minute | ⟨month, _⟩
      · rw [minute]
        decide
      · exact absurd (named.symm.trans month) (months call.instant)
    rw [healed, get_heal minute]

section

variable (found : tierLimits tier = some limits) (user : userID ≠ 0)

include found user

/-- Only the calls of a gate move the counter of its window. -/
theorem window_moves {charge : Action → Int} (months : ∀ instant, key ≠ tokensMonthKey userID instant)
    (idle : ∀ action, action.admitted = false → charge action = 0) {limit : Int}
    (gate : ∀ call, ∃ bucket ∈ enabledBuckets userID limits call.charge call.instant,
      bucket.key = key ∧ bucket.limit = limit ∧ 0 ≤ bucket.reserved ∧ bucket.ttl = minuteMilliseconds ∧
      bucket.increment = charge (.checkLimit call (.ok true)))
    (redis : Redis) (action : Action) (next : Redis)
    (taken : During tierLimits userID tier key redis action next) :
    next.value key = redis.value key + charge action ∧ (charge action = 0 ∨ next.value key ≤ limit) := by
  have still : action.admitted = false → next.value key = redis.value key →
      next.value key = redis.value key + charge action ∧ (charge action = 0 ∨ next.value key ≤ limit) := by
    intro quiet same
    have zero := idle action quiet
    exact ⟨by omega, .inl zero⟩
  obtain ⟨taken, there, arrives⟩ := taken
  cases taken with
  | passed milliseconds =>
    exact still rfl (value_passed there)
  | recordTokens instant deltaTokens =>
    apply still rfl
    rcases @recordTokens_spec tierLimits userID tier redis instant deltaTokens with same | charged
    · rw [same]
    · rw [charged]
      unfold Redis.value
      simp only [update_of_ne (months instant)]
  | checkLimit call =>
    revert still there
    change call.exchange = .answered at arrives
    generalize called : checkLimit tierLimits redis userID tier call = out
    obtain ⟨next, answer⟩ := out
    dsimp only
    intro there still
    by_cases accepted : answer = .ok true
    · subst accepted
      obtain ⟨bucket, member, rfl, rfl, reserved, minute, same⟩ := gate call
      have listed : bucket ∈ gates tierLimits userID tier call := by
        simp only [gates, found, if_neg user]
        exact member
      have charged := admitted_charged arrives called listed (by rw [minute]; decide)
      have fits := ((checkLimit_spec redis arrives called).2.1 rfl bucket listed).1
      have room : redis.value bucket.key + bucket.increment + bucket.reserved ≤ bucket.limit := by
        simp only [Bucket.fits, Bool.not_eq_true', decide_eq_false_iff_not, not_lt] at fits
        exact fits
      rw [← same]
      exact ⟨charged, .inr (by omega)⟩
    · apply still
      · unfold Action.admitted
        split
        · rename_i same
          cases same
          exact absurd rfl accepted
        · rfl
      · exact value_refused arrives called accepted months

/-- The requests that a minute window admits. -/
theorem window_requests (enabled : 0 < limits.requestsPerMin)
    (run : Run (During tierLimits userID tier (requestsMinKey userID)) first actions last)
    (absent : first.get (requestsMinKey userID) = none) :
    total (fun action : Action => if action.admitted then 1 else 0) actions ≤ limits.requestsPerMin := by
  apply window_total enabled _ run absent
  apply window_moves found user (requests_ne_month userID)
  · intro action quiet
    simp [quiet]
  · intro call
    refine ⟨_, mem_filter.mpr ⟨mem_cons_self, ?_⟩, rfl, rfl, le_refl _, rfl, rfl⟩
    simpa using enabled

theorem window_tokens (enabled : 0 < limits.tokensPerMin)
    (run : Run (During tierLimits userID tier (tokensMinKey userID)) first actions last)
    (absent : first.get (tokensMinKey userID) = none) :
    total Action.reservedTokens actions ≤ limits.tokensPerMin := by
  apply window_total enabled _ run absent
  apply window_moves found user (tokens_ne_month userID)
  · intro action quiet
    unfold Action.reservedTokens
    split
    · cases quiet
    · rfl
  · intro call
    refine ⟨_, mem_filter.mpr ⟨mem_cons_of_mem _ mem_cons_self, ?_⟩, rfl, rfl, Int.natCast_nonneg _, rfl, rfl⟩
    simpa using enabled

end

end Steps

theorem countP_eq_total (actions : List Action) :
    (actions.countP Action.admitted : Int) =
      total (fun action => if action.admitted then 1 else 0) actions := by
  induction actions using reverseRecOn with
  | nil => rfl
  | append_singleton past action ih =>
    rw [total_append, ← ih, countP_append, countP_singleton]
    push_cast
    rfl

/-- The size check refuses the requests that empty counters refuse. -/
theorem exceedsAlone_iff (userID : UUID) (limits : Limits) (charge : TokenCharge) (instant : Instant) (now : Nat) :
    exceedsAlone charge.total [limits.tokensPerMin, limits.tokensPerMonth] = true ↔
      (reserveChargeScript (.empty now) (enabledBuckets userID limits charge instant)).2 =
        false := by
  rw [(reserve_spec (enabledBuckets_distinct userID instant limits charge) _).1]
  have whole : (charge.total : Int) = charge.variableTokens + charge.stableTokens := by
    simp [TokenCharge.total]
  simp [enabledBuckets, exceedsAlone, fits, Redis.get, Redis.empty, Counter.get, Counter.live]
  omega

/-- A call at least a millisecond before the end of its month charges all gates or none if the answer
of the script arrives, and no window admits more than its limits while the answers arrive. -/
theorem reservation_all_or_nothing (tierLimits : TierLimits) (userID : UUID) (tier : String) :
    (∀ redis call answer next, Step tierLimits userID tier redis (.checkLimit call answer) next →
      Timely tierLimits tier call → call.exchange = .answered →
        (answer ≠ .ok true → ∀ key, next.get key = redis.get key ∧
          ∀ deadline, redis.timer key = some deadline → next.timer key = some deadline) ∧
        (answer = .ok true → ∀ bucket ∈ gates tierLimits userID tier call,
          next.value bucket.key = redis.value bucket.key + bucket.increment)) ∧
    (∀ limits, tierLimits tier = some limits → userID ≠ 0 → 0 < limits.requestsPerMin →
      ∀ first actions last, first.get (requestsMinKey userID) = none →
        Run (During tierLimits userID tier (requestsMinKey userID)) first actions last →
          (actions.countP Action.admitted : Int) ≤ limits.requestsPerMin) ∧
    (∀ limits, tierLimits tier = some limits → userID ≠ 0 → 0 < limits.tokensPerMin →
      ∀ first actions last, first.get (tokensMinKey userID) = none →
        Run (During tierLimits userID tier (tokensMinKey userID)) first actions last →
          total Action.reservedTokens actions ≤ limits.tokensPerMin) ∧
    (∀ redis action next, Step tierLimits userID tier redis action next →
      ∀ key deadline, redis.timer key = some deadline → next.timer key = some deadline ∨ next.get key = none) ∧
    (∀ redis call next, Step tierLimits userID tier redis (.checkLimit call (.ok true)) next →
      call.exchange = .answered → ∀ bucket ∈ gates tierLimits userID tier call,
        next.get bucket.key = none ∨ (next.timer bucket.key).isSome) ∧
    ∀ limits charge instant now,
      exceedsAlone charge.total [limits.tokensPerMin, limits.tokensPerMonth] = true ↔
        (reserveChargeScript (.empty now) (enabledBuckets userID limits charge instant)).2 =
          false := by
  have call_of : ∀ {redis call answer next},
      Step tierLimits userID tier redis (.checkLimit call answer) next →
        checkLimit tierLimits redis userID tier call = (next, answer) := by
    intro redis call answer next taken
    cases taken
    rfl
  refine ⟨?_, ?_, ?_, ?_, ?_, ?_⟩
  · intro redis call answer next taken timely arrives
    constructor
    · intro rejected key
      exact rejected_unchanged timely arrives (call_of taken) rejected key
    · rintro rfl bucket member
      exact admitted_charged arrives (call_of taken) member (ttl_pos timely member)
  · intro limits found user enabled first actions last absent run
    rw [countP_eq_total]
    exact window_requests found user enabled run absent
  · intro limits found user enabled first actions last absent run
    exact window_tokens found user enabled run absent
  · intro redis action next taken key deadline timed
    exact deadline_kept taken timed
  · intro redis call next taken arrives bucket member
    exact admitted_timed arrives (call_of taken) member
  · intro limits charge instant now
    exact exceedsAlone_iff userID limits charge instant now

/-- A tier with the month gate alone. -/
def Sample.limits : TierLimits := fun _ =>
  some { requestsPerMin := -1, tokensPerMin := -1, tokensPerMonth := 1000, dailySpendUSD := 0 }

/-- A request of ten tokens at a distance from the month's end. -/
def Sample.call (untilNextMonth : Nat) (inside : 0 < untilNextMonth) : LimitCall where
  businessID := 0
  instant := ⟨2026, 1, untilNextMonth, inside⟩
  spend := none
  charge := ⟨10, 0⟩

open Sample

theorem reservation_all_or_nothing_minute : ∃ next,
    Step limits 1 "free" (.empty 0) (.checkLimit (call 60000000000 (by decide)) (.ok true)) next ∧
    ∀ bucket ∈ gates limits 1 "free" (call 60000000000 (by decide)),
      next.value bucket.key = (Redis.empty 0).value bucket.key + bucket.increment := by
  have taken : Step limits 1 "free" (.empty 0)
      (.checkLimit (call 60000000000 (by decide)) (.ok true)) _ := .checkLimit _
  refine ⟨_, taken, ?_⟩
  apply ((reservation_all_or_nothing limits 1 "free").1 _ _ _ _ taken _ rfl).2 rfl
  intro limits _ _
  decide

/-- In the last millisecond the expiry of the month counter is zero, which deletes it with its
charge. -/
theorem month_charge_lost : ∃ bucket next,
    bucket ∈ gates limits 1 "free" (call 500000 (by decide)) ∧ bucket.increment = 10 ∧
      Step limits 1 "free" (.empty 0) (.checkLimit (call 500000 (by decide)) (.ok true)) next ∧
      next.value bucket.key ≠ (Redis.empty 0).value bucket.key + bucket.increment := by
  have answer : (checkLimit limits (.empty 0) 1 "free" (call 500000 (by decide))).2 = .ok true := rfl
  generalize called : checkLimit limits (.empty 0) 1 "free" (call 500000 (by decide)) = out at answer
  obtain ⟨next, accepted⟩ := out
  obtain rfl : accepted = .ok true := answer
  have taken : Step limits 1 "free" (.empty 0) (.checkLimit (call 500000 (by decide)) (.ok true)) next := by
    have step := @Step.checkLimit limits 1 "free" (.empty 0) (call 500000 (by decide))
    rwa [called] at step
  refine ⟨_, next, mem_singleton_self _, rfl, taken, ?_⟩
  obtain ⟨clock, admitted, _⟩ := @checkLimit_spec _ _ _ (.empty 0) (call 500000 (by decide)) rfl _ _ called
  unfold Redis.value
  rw [clock, (admitted rfl _ (mem_singleton_self _)).2]
  decide

end OneVoice.RateLimit
