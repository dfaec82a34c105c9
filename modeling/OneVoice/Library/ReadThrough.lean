import OneVoice.Library.Expiring
import OneVoice.Library.Run

/-!
A cache in front of a store. A read answers from the cache, or it loads the row and then adds what it
has loaded. A transaction commits first and then removes the keys it has changed.
-/

namespace OneVoice.Library.ReadThrough

open Function List

/-- What a read has done so far. -/
inductive Phase (Value : Type*) where
  | missed
  | loaded (value : Value)
  | answered (value : Value)
  | failed

structure State (Store Key Value : Type*) where
  store : Store
  now : Nat
  entries : Key → Expiring Value
  reads : Nat → Option (Key × Phase Value)
  /-- The keys that a committed transaction has still to remove. -/
  removals : Nat → Option (List Key)

inductive Action (Store Key : Type*) where
  | look (read : Nat) (key : Key)
  | load (read : Nat)
  | add (read : Nat)
  | commit (writer : Nat) (store : Store)
  | remove (writer : Nat) (key : Key)
  | evict (key : Key)
  | pass (duration : Nat)

/-- The stores that a list of actions commits. -/
def committed {Store Key : Type*} (actions : List (Action Store Key)) : List Store :=
  actions.filterMap fun
    | .commit _ store => some store
    | _ => none

variable {Store Key Value : Type*}

theorem committed_append (actions more : List (Action Store Key)) :
    committed (actions ++ more) = committed actions ++ committed more :=
  filterMap_append

/-- Some store of the list holds the value under the key. -/
def HeldIn (lookup : Store → Key → Option Value) (key : Key) (stores : List Store) (value : Value) : Prop :=
  ∃ store ∈ stores, lookup store key = some value

theorem HeldIn.mono {lookup : Store → Key → Option Value} {key : Key} {stores more : List Store}
    {value : Value} (held : HeldIn lookup key stores value) (kept : stores ⊆ more) :
    HeldIn lookup key more value := by
  obtain ⟨store, listed, found⟩ := held
  exact ⟨store, kept listed, found⟩

def State.setRead (state : State Store Key Value) (read : Nat) (key : Key) (phase : Phase Value) :
    State Store Key Value :=
  { state with reads := update state.reads read (some (key, phase)) }

def State.setRemovals (state : State Store Key Value) (writer : Nat) (keys : List Key) : State Store Key Value :=
  { state with removals := update state.removals writer (some keys) }

/-- What can still be answered under a key, or was, was in a store. -/
structure Current (lookup : Store → Key → Option Value) (key : Key) (began : Nat → Prop)
    (stores : List Store) (state : State Store Key Value) : Prop where
  store : state.store ∈ stores
  entry : ∀ entry, state.entries key = some entry → HeldIn lookup key stores entry.value
  loaded : ∀ read value, state.reads read = some (key, .loaded value) → HeldIn lookup key stores value
  answered : ∀ read value, began read → state.reads read = some (key, .answered value) →
    HeldIn lookup key stores value

section

variable {lookup : Store → Key → Option Value} {state : State Store Key Value} {key : Key}
  {stores : List Store} {began : Nat → Prop}

namespace Current

section

variable (current : Current lookup key began stores state)

include current

theorem mono {more : List Store} (kept : stores ⊆ more) : Current lookup key began more state where
  store := kept current.store
  entry := fun entry stored => (current.entry entry stored).mono kept
  loaded := fun read value stored => (current.loaded read value stored).mono kept
  answered := fun read value included stored =>
    (current.answered read value included stored).mono kept

theorem setRead {read other phase}
    (held : ∀ value, phase = .loaded value ∨ phase = .answered value → other = key → HeldIn lookup key stores value) :
    Current lookup key began stores (state.setRead read other phase) := by
  have moved : ∀ one phased, (state.setRead read other phase).reads one = some (key, phased) →
      state.reads one = some (key, phased) ∨ other = key ∧ phase = phased := by
    intro one phased stored
    obtain ⟨_, same⟩ | ⟨_, old⟩ := cell_update stored
    · cases same
      exact .inr ⟨rfl, rfl⟩
    · exact .inl old
  constructor
  · exact current.store
  · exact current.entry
  · intro one value stored
    obtain kept | ⟨same, phased⟩ := moved one _ stored
    · exact current.loaded one value kept
    · exact held value (.inl phased) same
  · intro one value included stored
    obtain kept | ⟨same, phased⟩ := moved one _ stored
    · exact current.answered one value included kept
    · exact held value (.inr phased) same

theorem read_held {value} (found : (state.entries key).read state.now = some value) :
    HeldIn lookup key stores value := by
  rw [Expiring.read, Option.map_eq_some_iff] at found
  obtain ⟨entry, kept, rfl⟩ := found
  exact current.entry entry (Option.filter_eq_some_iff.mp kept).1

end

end Current

end

variable [DecidableEq Key]

def State.setEntry (state : State Store Key Value) (key : Key) (entry : Expiring Value) : State Store Key Value :=
  { state with entries := update state.entries key entry }

/-- A load may fail, and the cache may drop any entry. -/
inductive Step (lookup : Store → Key → Option Value) (lifetime : Nat) (commits : Store → List Key → Store → Prop) :
    State Store Key Value → Action Store Key → State Store Key Value → Prop
  | hit {state : State Store Key Value} {read key value} :
      state.reads read = none → (state.entries key).read state.now = some value →
        Step lookup lifetime commits state (.look read key) (state.setRead read key (.answered value))
  | miss {state : State Store Key Value} {read key} :
      state.reads read = none → (state.entries key).read state.now = none →
        Step lookup lifetime commits state (.look read key) (state.setRead read key .missed)
  | load {state : State Store Key Value} {read key value} :
      state.reads read = some (key, .missed) → lookup state.store key = some value →
        Step lookup lifetime commits state (.load read) (state.setRead read key (.loaded value))
  | fail {state : State Store Key Value} {read key} :
      state.reads read = some (key, .missed) →
        Step lookup lifetime commits state (.load read) (state.setRead read key .failed)
  | add {state : State Store Key Value} {read key value} :
      state.reads read = some (key, .loaded value) →
        Step lookup lifetime commits state (.add read)
          ((state.setEntry key (Expiring.set state.now lifetime value)).setRead read key (.answered value))
  | commit {state : State Store Key Value} {writer keys store} :
      state.removals writer = none → commits state.store keys store →
        Step lookup lifetime commits state (.commit writer store)
          { state.setRemovals writer keys with store := store }
  | remove {state : State Store Key Value} {writer key keys} :
      state.removals writer = some (key :: keys) →
        Step lookup lifetime commits state (.remove writer key) ((state.setEntry key none).setRemovals writer keys)
  | evict {state : State Store Key Value} (key : Key) :
      Step lookup lifetime commits state (.evict key) (state.setEntry key none)
  | pass {state : State Store Key Value} (duration : Nat) :
      Step lookup lifetime commits state (.pass duration) { state with now := state.now + duration }

/-- When a key is removed, no read has an outdated value to add. -/
def InTime (lookup : Store → Key → Option Value) (state : State Store Key Value) : Action Store Key → Prop
  | .remove _ key => ∀ read value, state.reads read = some (key, .loaded value) →
      lookup state.store key = some value
  | _ => True

section

variable {lookup : Store → Key → Option Value} {lifetime : Nat}
  {commits : Store → List Key → Store → Prop} {state next last : State Store Key Value}
  {action : Action Store Key} {actions : List (Action Store Key)} {writer : Nat} {key : Key}
  {keys : List Key} {stores : List Store} {began : Nat → Prop}

namespace Current

section

variable (current : Current lookup key began stores state)

include current

theorem setEntry {other entry}
    (held : ∀ stored, entry = some stored → other = key → HeldIn lookup key stores stored.value) :
    Current lookup key began stores (state.setEntry other entry) := by
  refine ⟨current.store, ?_, current.loaded, current.answered⟩
  intro stored found
  obtain ⟨same, written⟩ | ⟨_, old⟩ := cell_update found
  · exact held stored written same.symm
  · exact current.entry stored old

theorem step (taken : Step lookup lifetime commits state action next) :
    Current lookup key began (stores ++ committed [action]) next := by
  have kept : stores ⊆ stores ++ committed [action] := subset_append_left _ _
  cases taken with
  | hit idle found =>
    apply (current.mono kept).setRead
    rintro value (phased | phased) rfl <;> cases phased
    exact (current.mono kept).read_held found
  | miss idle found | fail missed =>
    apply (current.mono kept).setRead
    rintro value (phased | phased) <;> cases phased
  | load missed found =>
    apply (current.mono kept).setRead
    rintro value (phased | phased) rfl <;> cases phased
    exact ⟨_, kept current.store, found⟩
  | add loaded =>
    apply ((current.mono kept).setEntry _).setRead
    · rintro value (phased | phased) rfl <;> cases phased
      exact (current.mono kept).loaded _ _ loaded
    · rintro stored added rfl
      cases added
      exact (current.mono kept).loaded _ _ loaded
  | commit idle done =>
    exact { current.mono kept with store := mem_append_right _ (mem_singleton_self _) }
  | @remove _ other _ owed =>
    have removed : Current lookup key began _ (state.setEntry other none) := (current.mono kept).setEntry (by simp)
    exact ⟨removed.store, removed.entry, removed.loaded, removed.answered⟩
  | evict other => exact (current.mono kept).setEntry (by simp)
  | pass duration =>
    have same := current.mono kept
    exact ⟨same.store, same.entry, same.loaded, same.answered⟩

theorem run (run : Run (Step lookup lifetime commits) state actions last) :
    Current lookup key began (stores ++ committed actions) last := by
  induction run generalizing stores with
  | nil => simpa [committed] using current
  | cons taken _ ih =>
    have moved := ih (current.step taken)
    rwa [append_assoc, ← committed_append] at moved

end

end Current

theorem removals_step (taken : Step lookup lifetime commits state action next)
    (owed : state.removals writer = some keys) :
    next.removals writer = some keys ∨ ∃ head tail, keys = head :: tail ∧
      action = .remove writer head ∧ next.removals writer = some tail := by
  cases taken with
  | @commit other _ _ idle done =>
    have distinct : writer ≠ other := by
      rintro rfl
      rw [owed] at idle
      cases idle
    exact .inl ((update_of_ne distinct _ _).trans owed)
  | @remove other head tail pending =>
    by_cases same : writer = other
    · subst same
      rw [owed] at pending
      cases pending
      exact .inr ⟨head, tail, rfl, rfl, update_self ..⟩
    · exact .inl ((update_of_ne same _ _).trans owed)
  | _ => exact .inl owed

/-- A transaction that has removed all its keys has removed each of them. -/
theorem removed_of_run {step : State Store Key Value → Action Store Key → State Store Key Value → Prop}
    (within : ∀ first label target, step first label target → Step lookup lifetime commits first label target)
    (run : Run step state actions last) (owed : state.removals writer = some keys) (listed : key ∈ keys)
    (done : last.removals writer = some []) :
    ∃ before after source target, actions = before ++ .remove writer key :: after ∧
      Run step state before source ∧ step source (.remove writer key) target ∧ Run step target after last := by
  induction run generalizing keys with
  | nil =>
    rw [owed] at done
    cases done
    cases listed
  | @cons first middle last label labels taken rest ih =>
    obtain kept | ⟨head, tail, rfl, rfl, popped⟩ := removals_step (within _ _ _ taken) owed
    · obtain ⟨before, after, source, target, rfl, earlier, step⟩ := ih kept listed done
      exact ⟨label :: before, after, source, target, rfl, .cons taken earlier, step⟩
    · obtain rfl | later := mem_cons.mp listed
      · exact ⟨[], labels, first, middle, rfl, .nil first, taken, rest⟩
      · obtain ⟨before, after, source, target, rfl, earlier, step⟩ := ih popped later done
        exact ⟨_ :: before, after, source, target, rfl, .cons taken earlier, step⟩

theorem store_step (taken : Step lookup lifetime commits state action next)
    (listed : state.store ∈ stores) : next.store ∈ stores ++ committed [action] := by
  cases taken with
  | commit => exact mem_append_right _ (mem_singleton_self _)
  | _ => exact mem_append_left _ listed

theorem store_run (run : Run (Step lookup lifetime commits) state actions last)
    (listed : state.store ∈ stores) : last.store ∈ stores ++ committed actions := by
  induction run generalizing stores with
  | nil => exact mem_append_left _ listed
  | cons taken _ ih =>
    have moved := ih (store_step taken listed)
    rwa [append_assoc, ← committed_append] at moved

/-- A read begun after the removal answers with a value held since. -/
theorem answered_held (run : Run (Guarded (Step lookup lifetime commits) (InTime lookup)) state actions next)
    (owed : state.removals writer = some keys) (listed : key ∈ keys) (done : next.removals writer = some []) {more}
    (rest : Run (Guarded (Step lookup lifetime commits) (InTime lookup)) next more last) {read value}
    (idle : next.reads read = none) (answered : last.reads read = some (key, .answered value)) :
    HeldIn lookup key (state.store :: committed (actions ++ more)) value := by
  obtain ⟨before, after, source, target, rfl, earlier, ⟨taken, inTime⟩, later⟩ :=
    removed_of_run (fun _ _ _ taken => taken.1) run owed listed done
  have present : source.store ∈ [state.store] ++ committed before :=
    store_run earlier.unguarded (mem_singleton_self _)
  have emptied : Current lookup key (fun _ => False) ([state.store] ++ committed before) target := by
    cases taken
    refine ⟨present, ?_, ?_, fun _ _ never => never.elim⟩
    · intro entry stored
      change update source.entries key none key = _ at stored
      rw [update_self] at stored
      cases stored
    · intro read value loaded
      exact ⟨source.store, present, inTime read value loaded⟩
  have settled := emptied.run later.unguarded
  have started : Current lookup key (· = read) _ next :=
    { settled with
      answered := by
        rintro one value rfl found
        rw [idle] at found
        cases found }
  have held := (started.run rest.unguarded).answered read value rfl answered
  simpa [committed] using held

end

end OneVoice.Library.ReadThrough
