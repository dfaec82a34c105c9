/- When the stream counter keeps its cap. It holds the granted slots and the increments still to be
rolled back, as long as the key outlives both. -/

import OneVoice.Construction.SseCounter.Slots

namespace OneVoice.SseCounter

open Library List Counter

/-- Each granted slot is released within its key's lifetime. -/
def HeldBriefly (limits : Limits) (state : State) : Action → Prop
  | .pass milliseconds => ∀ slot ∈ state.slots, slot.phase = .granted →
      state.now + milliseconds < slot.since + limits.keyTTL
  | _ => True

/-- The key lives while an increment over the cap waits for its rollback. -/
def RollbackInTime (state : State) : Action → Prop
  | .pass milliseconds => countOf .rollingBack state.slots = 0 ∨
      (state.counter.live (state.now + milliseconds)).isSome
  | _ => True

/-- The slots and rollbacks that the counter has to hold. -/
def owed (slots : List Slot) : Nat := countOf .granted slots + countOf .rollingBack slots

/-- A deadline that no granted slot outlasts. -/
def Covers (limits : Limits) (slots : List Slot) (deadline : Nat) : Prop :=
  ∀ slot ∈ slots, slot.phase = .granted → slot.since + limits.keyTTL ≤ deadline

structure Accounted (limits : Limits) (state : State) : Prop where
  capped : countOf .granted state.slots ≤ limits.max.toNat
  begun : ∀ slot ∈ state.slots, slot.since ≤ state.now
  /-- The key holds what is owed until a deadline, or nothing is owed. -/
  counted : (∃ deadline, state.counter.live state.now = some ⟨owed state.slots, some deadline⟩ ∧
      Covers limits state.slots deadline) ∨
    state.counter.live state.now = none ∧ owed state.slots = 0

theorem Limits.keyTTL_pos (limits : Limits) : 0 < limits.keyTTL := by
  have floor := limits.floor
  unfold minKeyTTL at floor
  unfold Limits.keyTTL
  omega

theorem Limits.keyTTL_le (limits : Limits) : limits.keyTTL ≤ limits.ttl := by
  unfold Limits.keyTTL
  omega

section

variable {limits : Limits} {state next : State} {now : Nat} {counter : Counter}
  {before after : List Slot} {since : Nat}

theorem owed_append (slots : List Slot) {phase} (holds : phase = .granted ∨ phase = .rollingBack) :
    owed (slots ++ [⟨phase, since⟩]) = owed slots + 1 := by
  rcases holds with rfl | rfl <;> simp [owed, countOf] <;> omega

theorem owed_end {old new} (holds : old = .granted ∨ old = .rollingBack) (ends : new = .released ∨ new = .refused) :
    owed (before ++ ⟨old, since⟩ :: after) = owed (before ++ ⟨new, since⟩ :: after) + 1 := by
  rcases holds with rfl | rfl <;> rcases ends with rfl | rfl <;>
    simp [owed, countOf] <;> omega

theorem granted_end {old new} (ends : new = .released ∨ new = .refused) :
    countOf .granted (before ++ ⟨new, since⟩ :: after) ≤ countOf .granted (before ++ ⟨old, since⟩ :: after) := by
  rcases ends with rfl | rfl <;> simp [countOf, countP_cons]

theorem Accounted.value_eq (accounted : Accounted limits state) :
    state.counter.value state.now = owed state.slots := by
  rcases accounted.counted with ⟨_, live, _⟩ | ⟨live, none⟩
  · rw [Counter.value, Counter.get, live]
    rfl
  · rw [Counter.value, Counter.get, live, none]
    rfl

theorem Accounted.acquire (accounted : Accounted limits state) : Accounted limits (state.acquire limits) := by
  unfold State.acquire
  split
  · exact accounted
  have capped := accounted.capped
  have part : countOf .granted state.slots ≤ owed state.slots := Nat.le_add_right _ _
  have begun : ∀ phase, ∀ slot ∈ state.slots ++ [⟨phase, state.now⟩], slot.since ≤ state.now := by
    intro phase
    rw [forall_mem_append, forall_mem_singleton]
    exact ⟨accounted.begun, Nat.le_refl _⟩
  have covers : ∀ phase, Covers limits (state.slots ++ [⟨phase, state.now⟩]) (state.now + limits.keyTTL) :=
    fun phase slot member _ => Nat.add_le_add_right (begun phase slot member) _
  rw [pexpire_incrBy _ _ _ limits.keyTTL_pos, value_incrBy, accounted.value_eq]
  split
  · refine ⟨?_, begun _, .inl ⟨_, ?_, covers _⟩⟩
    · simpa [countOf] using capped
    · rw [owed_append _ (.inr rfl)]
      exact live_timed (Nat.le_add_right _ _)
  · refine ⟨?_, begun _, .inl ⟨_, ?_, covers _⟩⟩
    · have one : countOf .granted (state.slots ++ [⟨.granted, state.now⟩]) =
          countOf .granted state.slots + 1 := by
        simp [countOf]
      rw [one]
      omega
    · rw [owed_append _ (.inl rfl)]
      exact live_timed (Nat.le_add_right _ _)

/-- A slot or rollback ends with one less in the key, which lives on. -/
theorem Accounted.finish {old new after'}
    (accounted : Accounted limits ⟨now, counter, before ++ ⟨old, since⟩ :: after⟩)
    (holds : old = .granted ∨ old = .rollingBack) (ends : new = .released ∨ new = .refused)
    (lowered : ∀ count deadline, counter.live now = some ⟨count + 1, some deadline⟩ → 0 ≤ count →
      ∃ later, after'.live now = some ⟨count, some later⟩ ∧ (deadline ≤ later ∨ now + limits.keyTTL ≤ later)) :
    Accounted limits ⟨now, after', before ++ ⟨new, since⟩ :: after⟩ := by
  have less := @owed_end before after since old new holds ends
  have capped := accounted.capped
  have begun := accounted.begun
  rw [forall_mem_append, forall_mem_cons] at begun
  obtain ⟨deadline, live, covers⟩ := accounted.counted.resolve_right (by simp [less])
  rw [less] at live
  obtain ⟨later, found, longer⟩ := lowered _ deadline live (Int.natCast_nonneg _)
  constructor
  · exact Nat.le_trans (granted_end ends) capped
  · rw [forall_mem_append, forall_mem_cons]
    exact begun
  · refine .inl ⟨later, found, ?_⟩
    intro slot member granted
    have known : slot ∈ before ++ ⟨old, since⟩ :: after := by
      rw [mem_append, mem_cons] at member ⊢
      rcases member with earlier | rfl | rest
      · exact .inl earlier
      · rcases ends with rfl | rfl <;> cases granted
      · exact .inr (.inr rest)
    have covered := covers slot known granted
    have started := accounted.begun slot known
    dsimp only at started
    omega

theorem Accounted.rollback (accounted : Accounted limits ⟨now, counter, before ++ ⟨.rollingBack, since⟩ :: after⟩) :
    Accounted limits ⟨now, counter.incrBy now (-1), before ++ ⟨.refused, since⟩ :: after⟩ := by
  apply accounted.finish (.inr rfl) (.inr rfl)
  intro count deadline live _
  have less : count + 1 + -1 = count := by omega
  rw [Counter.live_incrBy, Counter.value, Counter.get, Counter.timer, live]
  simp [less]

theorem Accounted.release (accounted : Accounted limits ⟨now, counter, before ++ ⟨.granted, since⟩ :: after⟩) :
    Accounted limits ⟨now, safeDecr counter now limits.ttl, before ++ ⟨.released, since⟩ :: after⟩ := by
  apply accounted.finish (.inl rfl) (.inl rfl)
  intro count deadline live nonneg
  refine ⟨now + limits.ttl, ?_, .inr (Nat.add_le_add_left limits.keyTTL_le now)⟩
  have positive : 0 < limits.ttl := Nat.lt_of_lt_of_le limits.keyTTL_pos limits.keyTTL_le
  have kept : ¬ count + 1 - 1 < 0 := by omega
  simp only [safeDecr, Counter.get, live, Option.map_some, Counter.pexpire, if_neg kept, if_neg (Nat.ne_of_gt positive)]
  rw [Int.add_sub_cancel]
  exact Counter.live_timed (Nat.le_add_right _ _)

theorem Accounted.pass (accounted : Accounted limits state) {milliseconds}
    (brief : HeldBriefly limits state (.pass milliseconds)) (inTime : RollbackInTime state (.pass milliseconds)) :
    Accounted limits { state with now := state.now + milliseconds } := by
  have begun : ∀ slot ∈ state.slots, slot.since ≤ state.now + milliseconds :=
    fun slot member => Nat.le_add_right_of_le (accounted.begun slot member)
  refine ⟨accounted.capped, begun, ?_⟩
  rcases accounted.counted with ⟨deadline, live, covers⟩ | ⟨live, none⟩
  · by_cases fresh : state.now + milliseconds ≤ deadline
    · left
      refine ⟨deadline, ?_, covers⟩
      rw [(live_eq_some.mp live).1]
      exact live_timed fresh
    · right
      have gone : state.counter.live (state.now + milliseconds) = none := by
        rw [(live_eq_some.mp live).1]
        simp [Counter.live, fresh]
      refine ⟨gone, ?_⟩
      have granted : countOf .granted state.slots = 0 := by
        unfold countOf
        rw [countP_eq_zero]
        intro slot member held
        have held : slot.phase = .granted := by simpa using held
        have shorter := brief slot member held
        have covered := covers slot member held
        omega
      have rolling := inTime.resolve_right (by simp [gone])
      simp [owed, granted, rolling]
  · right
    refine ⟨?_, none⟩
    by_contra there
    obtain ⟨entry, found⟩ := Option.ne_none_iff_exists'.mp there
    rw [live_of_later (Nat.le_add_right _ _) found] at live
    cases live

theorem Accounted.step {action} (taken : Step limits state action next)
    (brief : HeldBriefly limits state action) (inTime : RollbackInTime state action)
    (accounted : Accounted limits state) : Accounted limits next := by
  cases taken with
  | acquire => exact accounted.acquire
  | rollback => exact accounted.rollback
  | release => exact accounted.release
  | releaseAgain => exact accounted
  | pass => exact accounted.pass brief inTime

theorem accounted_empty (limits : Limits) (now : Nat) : Accounted limits (.empty now) :=
  ⟨Nat.zero_le _, nofun, .inr ⟨rfl, rfl⟩⟩

/-- While slots are shorter than the lifetime of the key and rollbacks come before its expiry, the
cap holds and the counter returns to zero. -/
theorem granted_slots_within_cap {now : Nat} {actions : List Action}
    (run : Run (Guarded (Step limits) fun state action =>
      HeldBriefly limits state action ∧ RollbackInTime state action) (.empty now) actions state) :
    countOf .granted state.slots ≤ limits.max.toNat ∧
      (countOf .granted state.slots : Int) ≤ state.counter.value state.now ∧ 0 ≤ state.counter.value state.now ∧
      (countOf .granted state.slots = 0 → countOf .rollingBack state.slots = 0 →
        state.counter.get state.now = none ∨ state.counter.get state.now = some 0) := by
  have accounted : Accounted limits state := by
    apply run.invariant _ (accounted_empty limits now)
    intro first action last taken
    exact Accounted.step taken.1 taken.2.1 taken.2.2
  have value := accounted.value_eq
  refine ⟨accounted.capped, ?_, ?_, ?_⟩
  · rw [value]
    exact Int.ofNat_le.mpr (Nat.le_add_right _ _)
  · rw [value]
    exact Int.natCast_nonneg _
  · intro granted rolling
    have none : owed state.slots = 0 := by rw [owed, granted, rolling]
    rcases accounted.counted with ⟨_, live, _⟩ | ⟨live, _⟩
    · rw [none] at live
      exact .inr (by rw [Counter.get, live]; rfl)
    · exact .inl (by rw [Counter.get, live]; rfl)

end

/-- One stream at a time, with the shortest lifetime. -/
def Sample.limits : Limits := newWithKeyTTL 1 0

open Sample

/-- A second stream is refused and rolled back in time. -/
theorem granted_slots_within_cap_refusal :
    ∃ state, Run (Guarded (Step limits) fun state action =>
        HeldBriefly limits state action ∧ RollbackInTime state action) (.empty 0)
        [.acquire, .acquire, .pass 1000, .rollback] state ∧
      countOf .granted state.slots = 1 ∧ state.counter.get state.now = some 1 ∧
      countOf .granted state.slots ≤ 1 := by
  exact Run.reaches (.cons ⟨.acquire, trivial, trivial⟩ <| .cons ⟨.acquire, trivial, trivial⟩ <|
    .cons ⟨.pass 1000, by unfold HeldBriefly; decide, .inr (by decide)⟩ <|
    .cons ⟨@Step.rollback _ _ _ [⟨.granted, 0⟩] _ [], trivial, trivial⟩ <| .nil _)
    fun run => ⟨by decide, by decide, (granted_slots_within_cap run).1⟩

/-- The key has expired before the rollback of the second stream. -/
def Sample.lowered : State := ⟨900001, some ⟨-1, none⟩, [⟨.released, 0⟩, ⟨.refused, 0⟩]⟩

/-- A rollback meets an expired key and leaves minus one without a deadline: two streams pass the
cap of one. -/
theorem late_rollback_breaks_cap :
    Run (Guarded (Step limits) (HeldBriefly limits)) (.empty 0)
        [.acquire, .acquire, .release, .pass 900001, .rollback] lowered ∧
      lowered.counter.get lowered.now = some (-1) ∧
      ∃ state, Run (Guarded (Step limits) (HeldBriefly limits)) lowered [.acquire, .acquire] state ∧
        countOf .granted state.slots = 2 ∧ state.counter.get state.now = some 1 := by
  refine ⟨?_, rfl, _, .cons ⟨.acquire, trivial⟩ <| .cons ⟨.acquire, trivial⟩ <| .nil _, by decide,
    by decide⟩
  exact .cons ⟨.acquire, trivial⟩ <| .cons ⟨.acquire, trivial⟩ <|
    .cons ⟨@Step.release _ _ _ [] _ [⟨.rollingBack, 0⟩], trivial⟩ <|
    .cons ⟨.pass 900001, by unfold HeldBriefly; decide⟩ <|
    .cons ⟨@Step.rollback _ _ _ [⟨.released, 0⟩] _ [], trivial⟩ <| .nil _

end OneVoice.SseCounter
