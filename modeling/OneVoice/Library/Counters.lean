import Mathlib.Data.Option.Basic
import Mathlib.Data.List.Basic

/-!
Counters with an optional deadline, under the commands of a key-value server, and loops that act on
distinct keys of a store.
-/

namespace OneVoice.Library

open List

structure Counter.Entry where
  count : Int
  deadline : Option Nat
  deriving DecidableEq

/-- A key never set, deleted or expired reads the same. -/
abbrev Counter := Option Counter.Entry

namespace Counter

variable {counter : Counter} {now : Nat}

/-- A key is there up to its deadline. -/
def live (counter : Counter) (now : Nat) : Counter :=
  counter.filter fun entry => entry.deadline.all fun deadline => now ≤ deadline

def get (counter : Counter) (now : Nat) : Option Int := (counter.live now).map Entry.count

def value (counter : Counter) (now : Nat) : Int := (counter.get now).getD 0

/-- The deadline of a key that has one. -/
def timer (counter : Counter) (now : Nat) : Option Nat := (counter.live now).bind Entry.deadline

/-- The time to live is negative without a key or a deadline. -/
def pttl (counter : Counter) (now : Nat) : Int :=
  match counter.live now with
  | none => -2
  | some entry =>
    match entry.deadline with
    | none => -1
    | some deadline => deadline - now

def incrBy (counter : Counter) (now : Nat) (increment : Int) : Counter :=
  match counter.live now with
  | none => some ⟨increment, none⟩
  | some entry => some { entry with count := entry.count + increment }

/-- An expiry that is not in the future deletes the key. -/
def pexpire (counter : Counter) (now : Nat) (ttl : Nat) : Counter :=
  match counter.live now with
  | none => none
  | some entry => if ttl = 0 then none else some { entry with deadline := some (now + ttl) }

/-- A key without a deadline gets one. -/
def heal (counter : Counter) (now : Nat) (ttl : Nat) : Counter :=
  if counter.pttl now = -1 then counter.pexpire now ttl else counter

/-- The increment stamps a deadline where there is none. -/
def charge (counter : Counter) (now : Nat) (increment : Int) (ttl : Nat) : Counter :=
  let counter := counter.incrBy now increment
  if counter.pttl now < 0 then counter.pexpire now ttl else counter

variable {ttl deadline : Nat} {increment count : Int} {entry : Entry}

theorem live_eq_some :
    counter.live now = some entry ↔
      counter = some entry ∧ ∀ deadline, entry.deadline = some deadline → now ≤ deadline := by
  cases counter with
  | none => simp [live]
  | some stored =>
    simp only [live, Option.filter_eq_some_iff, Option.some.injEq]
    constructor
    · rintro ⟨rfl, fresh⟩
      refine ⟨rfl, ?_⟩
      intro deadline found
      simpa [found] using fresh
    · rintro ⟨rfl, fresh⟩
      refine ⟨rfl, ?_⟩
      cases found : stored.deadline with
      | none => rfl
      | some deadline => simpa using fresh deadline found

/-- The three cases in which a command finds a key. -/
theorem cases_live (counter : Counter) (now : Nat) :
    counter.live now = none ∨ (∃ count, counter.live now = some ⟨count, none⟩) ∨
      ∃ count deadline, counter.live now = some ⟨count, some deadline⟩ ∧ now ≤ deadline := by
  cases found : counter.live now with
  | none => exact .inl rfl
  | some entry =>
    obtain ⟨count, deadline⟩ := entry
    cases deadline with
    | none => exact .inr (.inl ⟨count, rfl⟩)
    | some deadline =>
      exact .inr (.inr ⟨count, deadline, rfl, (live_eq_some.mp found).2 deadline rfl⟩)

theorem live_untimed (count : Int) : live (some ⟨count, none⟩) now = some ⟨count, none⟩ := rfl

theorem live_timed (fresh : now ≤ deadline) :
    live (some ⟨count, some deadline⟩) now = some ⟨count, some deadline⟩ :=
  live_eq_some.mpr ⟨rfl, by rintro _ ⟨⟩; exact fresh⟩

/-- A key that is there later was there before, as it is. -/
theorem live_of_later {later} (le : now ≤ later) (found : counter.live later = some entry)
    : counter.live now = some entry := by
  obtain ⟨same, fresh⟩ := live_eq_some.mp found
  exact live_eq_some.mpr ⟨same, fun deadline read => Nat.le_trans le (fresh deadline read)⟩

theorem heal_timed (found : counter.live now = some ⟨count, some deadline⟩) : counter.heal now ttl = counter := by
  have fresh := (live_eq_some.mp found).2 deadline rfl
  have timed : ¬ ((deadline : Int) - now = -1) := by omega
  simp [heal, pttl, found, timed]

theorem heal_untimed (found : counter.live now = some ⟨count, none⟩) :
    counter.heal now ttl = if ttl = 0 then none else some ⟨count, some (now + ttl)⟩ := by
  simp [heal, pttl, pexpire, found]

theorem charge_absent (found : counter.live now = none) :
    counter.charge now increment ttl = if ttl = 0 then none else some ⟨increment, some (now + ttl)⟩ := by
  simp [charge, incrBy, pttl, pexpire, found, live_untimed]

theorem charge_untimed (found : counter.live now = some ⟨count, none⟩) :
    counter.charge now increment ttl = if ttl = 0 then none else some ⟨count + increment, some (now + ttl)⟩ := by
  simp [charge, incrBy, pttl, pexpire, found, live_untimed]

theorem charge_timed (found : counter.live now = some ⟨count, some deadline⟩) :
    counter.charge now increment ttl = some ⟨count + increment, some deadline⟩ := by
  have fresh := (live_eq_some.mp found).2 deadline rfl
  have alive : ¬ ((deadline : Int) - now < 0) := by omega
  simp [charge, incrBy, pttl, found, live_timed fresh, alive]

theorem live_stamped (positive : 0 < ttl) :
    live (if ttl = 0 then none else some ⟨count, some (now + ttl)⟩) now = some ⟨count, some (now + ttl)⟩ := by
  rw [if_neg (Nat.ne_of_gt positive)]
  exact live_timed (Nat.le_add_right now ttl)

theorem get_heal (positive : 0 < ttl) : (counter.heal now ttl).get now = counter.get now := by
  rcases cases_live counter now with found | ⟨count, found⟩ | ⟨count, deadline, found, _⟩
  · simp [heal, pttl, found]
  · rw [heal_untimed found, get, get, found, live_stamped positive]
    rfl
  · rw [heal_timed found]

/-- A key that has a deadline keeps it. -/
theorem timer_heal (timed : counter.timer now = some deadline) : counter.heal now ttl = counter := by
  rcases cases_live counter now with found | ⟨count, found⟩ | ⟨count, limit, found, _⟩
  · simp [timer, found] at timed
  · simp [timer, found] at timed
  · exact heal_timed found

theorem timer_charge (timed : counter.timer now = some deadline) :
    (counter.charge now increment ttl).timer now = some deadline := by
  rcases cases_live counter now with found | ⟨count, found⟩ | ⟨count, limit, found, fresh⟩
  · simp [timer, found] at timed
  · simp [timer, found] at timed
  · rw [timer, found] at timed
    rw [charge_timed found, timer, live_timed fresh]
    exact timed

theorem value_charge (positive : 0 < ttl) :
    (counter.charge now increment ttl).value now = counter.value now + increment := by
  rcases cases_live counter now with found | ⟨count, found⟩ | ⟨count, limit, found, fresh⟩
  · rw [charge_absent found, value, value, get, get, found, live_stamped positive]
    exact (Int.zero_add increment).symm
  · rw [charge_untimed found, value, value, get, get, found, live_stamped positive]
    rfl
  · rw [charge_timed found, value, value, get, get, found, live_timed fresh]
    rfl

/-- After a charge no key is left without a deadline. -/
theorem deadline_charge (found : (counter.charge now increment ttl).live now = some entry) :
    entry.deadline.isSome := by
  have stamped : ∀ count, live (if ttl = 0 then none else some ⟨count, some (now + ttl)⟩) now =
      some entry → entry.deadline.isSome := by
    intro count read
    split at read
    · cases read
    · cases (live_eq_some.mp read).1
      rfl
  rcases cases_live counter now with absent | ⟨count, untimed⟩ | ⟨count, limit, timed, _⟩
  · rw [charge_absent absent] at found
    exact stamped _ found
  · rw [charge_untimed untimed] at found
    exact stamped _ found
  · rw [charge_timed timed] at found
    cases (live_eq_some.mp found).1
    rfl

/-- An increment keeps the deadline of its key. -/
theorem live_incrBy (counter : Counter) (now : Nat) (increment : Int) :
    (counter.incrBy now increment).live now = some ⟨counter.value now + increment, counter.timer now⟩ := by
  rcases cases_live counter now with found | ⟨count, found⟩ | ⟨count, deadline, found, fresh⟩
  · rw [incrBy, value, get, timer, found]
    exact congrArg some (congrArg (Entry.mk · none) (Int.zero_add increment).symm)
  · rw [incrBy, value, get, timer, found]
    rfl
  · rw [incrBy, value, get, timer, found, live_timed fresh]
    rfl

theorem value_incrBy (counter : Counter) (now : Nat) (increment : Int) :
    (counter.incrBy now increment).value now = counter.value now + increment := by
  rw [value, get, live_incrBy]
  rfl

/-- An increment that stamps its key anew. -/
theorem pexpire_incrBy (counter : Counter) (now : Nat) (increment : Int) (positive : 0 < ttl)
    : (counter.incrBy now increment).pexpire now ttl = some ⟨counter.value now + increment, some (now + ttl)⟩ := by
  rw [pexpire, live_incrBy]
  exact if_neg (Nat.ne_of_gt positive)

end Counter

section Loops

variable {Key Item Value : Type} [DecidableEq Key] {key : Item → Key} {f : Item → Value → Value}

/-- A loop that rewrites the key of each item. -/
def rewriteEach (key : Item → Key) (f : Item → Value → Value) (items : List Item) (store : Key → Value) : Key → Value :=
  items.foldl (fun store item => Function.update store (key item) (f item (store (key item)))) store

theorem rewriteEach_of_notMem {items other} (outside : other ∉ items.map key)
    (store : Key → Value) : rewriteEach key f items store other = store other := by
  induction items generalizing store with
  | nil => rfl
  | cons item rest ih =>
    simp only [map_cons, mem_cons, not_or] at outside
    rw [rewriteEach, foldl_cons]
    rw [← rewriteEach, ih outside.2, Function.update_of_ne outside.1]

/-- Distinct keys are rewritten once each. -/
theorem rewriteEach_of_mem {items} (distinct : (items.map key).Nodup) {item}
    (member : item ∈ items) (store : Key → Value) :
    rewriteEach key f items store (key item) = f item (store (key item)) := by
  induction items generalizing store with
  | nil => cases member
  | cons head rest ih =>
    obtain ⟨outside, distinct⟩ := nodup_cons.mp distinct
    rw [rewriteEach, foldl_cons, ← rewriteEach]
    rcases mem_cons.mp member with rfl | later
    · rw [rewriteEach_of_notMem outside, Function.update_self]
    · have apart : key item ≠ key head := by
        intro same
        exact outside (same ▸ mem_map_of_mem later)
      rw [ih distinct later, Function.update_of_ne apart]

end Loops

end OneVoice.Library
