import Mathlib.Data.List.Basic

/-!
Runs of a labelled transition relation, and the rules by which an invariant of one step becomes a
fact about every run.
-/

namespace OneVoice.Library

open Function List

/-- A run composes the labelled steps of a transition relation. -/
inductive Run {State Label : Type*} (step : State → Label → State → Prop) :
    State → List Label → State → Prop
  | nil (state : State) : Run step state [] state
  | cons {first middle last label labels} :
      step first label middle → Run step middle labels last → Run step first (label :: labels) last

/-- A guarded relation keeps the steps whose first state meets a condition. -/
def Guarded {State Label : Type*} (step : State → Label → State → Prop)
    (guard : State → Label → Prop) : State → Label → State → Prop :=
  fun first label last => step first label last ∧ guard first label

namespace Run

variable {State Label : Type*} {step : State → Label → State → Prop}
variable {first last : State} {labels : List Label}

/-- A run with a property of its end shows that such an end is reached. -/
theorem reaches {good : State → Prop} (run : Run step first labels last)
    (holds : Run step first labels last → good last) : ∃ last, Run step first labels last ∧ good last :=
  ⟨last, run, holds run⟩

variable {label : Label}

theorem single (taken : step first label last) : Run step first [label] last := .cons taken (.nil last)

theorem append {first middle last labels more}
    (run : Run step first labels middle) (rest : Run step middle more last) :
    Run step first (labels ++ more) last := by
  induction run with
  | nil => exact rest
  | cons taken _ ih => exact .cons taken (ih rest)

theorem snoc {first middle last} (run : Run step first labels middle)
    (taken : step middle label last) : Run step first (labels ++ [label]) last :=
  run.append (single taken)

/-- A run splits at every position of its label list. -/
theorem split {labels more} (run : Run step first (labels ++ more) last) :
    ∃ middle, Run step first labels middle ∧ Run step middle more last := by
  induction labels generalizing first with
  | nil => exact ⟨first, .nil first, run⟩
  | cons label labels ih =>
    cases run with
    | cons taken rest =>
      obtain ⟨middle, before, after⟩ := ih rest
      exact ⟨middle, .cons taken before, after⟩

/-- A run that contains a label passes through the step that carries it. -/
theorem split_at {before after label} (run : Run step first (before ++ label :: after) last) :
    ∃ source target, Run step first before source ∧ step source label target ∧ Run step target after last := by
  obtain ⟨source, head, tail⟩ := run.split
  cases tail with
  | cons taken rest => exact ⟨source, _, head, taken, rest⟩

section

variable (run : Run step first labels last)

include run

/-- A run is a run of every relation that has its steps. -/
theorem mono {wider : State → Label → State → Prop}
    (implied : ∀ first label last, step first label last → wider first label last) :
    Run wider first labels last := by
  induction run with
  | nil state => exact .nil state
  | cons taken _ ih => exact .cons (implied _ _ _ taken) ih

variable {Inv past : State → Prop} {good : Label → Prop} {fires : Label → Bool}

/-- A property that every step preserves holds at the end of every run. -/
theorem invariant (preserved : ∀ first label last, step first label last → Inv first → Inv last)
    (start : Inv first) : Inv last := by
  induction run with
  | nil => exact start
  | cons taken _ ih => exact ih (preserved _ _ _ taken start)

/-- The same rule for a state together with the labels that led to it. -/
theorem history {Inv : List Label → State → Prop}
    (preserved : ∀ past first label last, step first label last → Inv past first → Inv (past ++ [label]) last)
    {past} (start : Inv past first) : Inv (past ++ labels) last := by
  induction run generalizing past with
  | nil => simpa using start
  | @cons _ _ _ label labels taken _ ih =>
    have moved := ih (preserved past _ _ _ taken start)
    rwa [append_assoc] at moved

/-- A preorder that each step keeps relates the ends of every run. -/
theorem relates {related : State → State → Prop} (reflexive : ∀ state, related state state)
    (transitive : ∀ {a b c}, related a b → related b c → related a c)
    (kept : ∀ first label last, step first label last → related first last) : related first last := by
  induction run with
  | nil state => exact reflexive state
  | cons taken _ ih => exact transitive (kept _ _ _ taken) ih

/-- Each label of a run has what an invariant gives to a step's label. -/
theorem forall_labels (preserved : ∀ first label last, step first label last → Inv first → Inv last)
    (labelled : ∀ first label last, step first label last → Inv first → good label)
    (start : Inv first) : ∀ label ∈ labels, good label := by
  induction run with
  | nil => intro label member; cases member
  | cons taken _ ih =>
    intro label member
    rcases mem_cons.mp member with rfl | later
    · exact labelled _ _ _ taken start
    · exact ih (preserved _ _ _ taken start) label later

/-- A label that leads into a closed region does not occur inside it. -/
theorem countP_eq_zero {past : State → Prop} {fires}
    (fresh : ∀ first label last, step first label last → fires label = true → ¬ past first)
    (kept : ∀ first label last, step first label last → past first → past last)
    (start : past first) : labels.countP fires = 0 := by
  induction run with
  | nil => rfl
  | @cons _ _ _ label _ taken _ ih =>
    have silent : ¬ fires label = true := fun fired => fresh _ _ _ taken fired start
    rw [countP_cons_of_neg silent]
    exact ih (kept _ _ _ taken start)

/-- Such a label occurs at most once in a run. -/
theorem countP_le_one (fresh : ∀ first label last, step first label last → fires label = true → ¬ past first)
    (enters : ∀ first label last, step first label last → fires label = true → past last)
    (kept : ∀ first label last, step first label last → past first → past last) : labels.countP fires ≤ 1 := by
  induction run with
  | nil => simp
  | @cons _ _ _ label labels taken rest ih =>
    by_cases fired : fires label = true
    · have none := rest.countP_eq_zero fresh kept (enters _ _ _ taken fired)
      have once : (label :: labels).countP fires = 1 := by
        rw [countP_cons_of_pos fired, none]
      exact Nat.le_of_eq once
    · rw [countP_cons_of_neg fired]
      exact ih

/-- A run whose labels meet a condition is a guarded run. -/
theorem guarded (meets : ∀ label ∈ labels, good label) : Run (Guarded step fun _ => good) first labels last := by
  induction run with
  | nil state => exact .nil state
  | cons taken _ ih =>
    rw [forall_mem_cons] at meets
    exact .cons ⟨taken, meets.1⟩ (ih meets.2)

/-- A run to a good state met all conditions, if steps to good ones did. -/
theorem guarded_of_good {guard : State → Label → Prop} {good : State → Prop}
    (preserved : ∀ first label last, step first label last → Inv first → Inv last)
    (before : ∀ first label last, step first label last → good last → good first)
    (needed : ∀ first label last, step first label last → Inv first → good last → guard first label)
    (start : Inv first) (ends : good last) : Run (Guarded step guard) first labels last := by
  have backwards : ∀ {first last labels}, Run step first labels last → good last → good first := by
    intro first last labels run ends
    induction run with
    | nil => exact ends
    | cons taken _ ih => exact before _ _ _ taken (ih ends)
  induction run with
  | nil state => exact .nil state
  | cons taken rest ih =>
    exact .cons ⟨taken, needed _ _ _ taken start (backwards rest ends)⟩ (ih (preserved _ _ _ taken start) ends)

end

theorem unguarded {guard : State → Label → Prop} (run : Run (Guarded step guard) first labels last) :
    Run step first labels last :=
  run.mono fun _ _ _ taken => taken.1

/-- The history rule for labels that are lists. -/
theorem flattened {Item : Type*} {step : State → List Item → State → Prop} {Inv : List Item → State → Prop}
    {labels} (run : Run step first labels last)
    (preserved : ∀ past first label last, step first label last → Inv past first → Inv (past ++ label) last)
    (start : Inv [] first) : Inv labels.flatten last := by
  have whole : Inv ([] ++ labels).flatten last := by
    refine @history _ _ _ _ _ _ run (fun past state => Inv past.flatten state) ?_ [] start
    intro past first label last taken
    rw [flatten_append, flatten_singleton]
    exact preserved past.flatten first label last taken
  exact whole

end Run

/-- A step of one cell of a family leaves the other cells alone. -/
def Keyed {Key State Label : Type*} [DecidableEq Key] (step : Key → State → Label → State → Prop) :
    (Key → State) → Key × Label → (Key → State) → Prop :=
  fun first label last => ∃ cell, step label.1 (first label.1) label.2 cell ∧ last = update first label.1 cell

/-- The labels that are addressed to one cell. -/
def addressed {Key Label : Type*} [DecidableEq Key] (key : Key) (labels : List (Key × Label)) : List Label :=
  labels.filterMap fun label => if label.1 = key then some label.2 else none

/-- A run of the family is a run of each of its cells. -/
theorem Keyed.cell {Key State Label : Type*} [DecidableEq Key] {step : Key → State → Label → State → Prop}
    {first last labels} (run : Run (Keyed step) first labels last) (key : Key) :
    Run (step key) (first key) (addressed key labels) (last key) := by
  induction run with
  | nil state => exact .nil _
  | @cons first middle last label labels taken _ ih =>
    obtain ⟨cell, moved, rfl⟩ := taken
    rw [addressed, filterMap_cons]
    by_cases same : label.1 = key
    · subst same
      rw [update_self] at ih
      rw [if_pos rfl]
      exact .cons moved ih
    · rw [update_of_ne (Ne.symm same)] at ih
      rw [if_neg same]
      exact ih

/-- What is seen of a cell after an update is seen of the new cell or of an old one. -/
theorem view_update {Key State Value : Type*} [DecidableEq Key] {cells : Key → State} {key other : Key}
    {cell : State} {value : Value} (view : State → Value) (found : view (update cells key cell other) = value) :
    other = key ∧ view cell = value ∨ other ≠ key ∧ view (cells other) = value := by
  by_cases same : other = key
  · rw [same, update_self] at found
    exact .inl ⟨same, found⟩
  · rw [update_of_ne same] at found
    exact .inr ⟨same, found⟩

theorem cell_update {Key State : Type*} [DecidableEq Key] {cells : Key → State} {key other : Key}
    {cell value : State} (found : update cells key cell other = value) :
    other = key ∧ cell = value ∨ other ≠ key ∧ cells other = value :=
  view_update (fun cell => cell) found

/-- A relation between cells survives a move that fits the others. -/
theorem forall_update_pair {Key State : Type*} [DecidableEq Key] {cells key cell}
    (related : Key → Key → State → State → Prop) (self : related key key cell cell)
    (first : ∀ other ≠ key, related key other cell (cells other))
    (second : ∀ one ≠ key, related one key (cells one) cell)
    (rest : ∀ one other, related one other (cells one) (cells other)) (one other : Key) :
    related one other (update cells key cell one) (update cells key cell other) := by
  by_cases moved : one = key <;> by_cases stayed : other = key
  · rw [moved, stayed, update_self]
    exact self
  · rw [moved, update_self, update_of_ne stayed]
    exact first other stayed
  · rw [stayed, update_self, update_of_ne moved]
    exact second one moved
  · rw [update_of_ne moved, update_of_ne stayed]
    exact rest one other

end OneVoice.Library
