import Mathlib.Order.Bounds.Basic

/-!
Single edits of a list, and the least number of them that turns one list into another.
-/

namespace OneVoice.Library

variable {Item : Type*} {first next last : List Item} {count more : Nat}

inductive Edit : List Item → List Item → Prop
  | insert (before after : List Item) (item : Item) : Edit (before ++ after) (before ++ item :: after)
  | delete (before after : List Item) (item : Item) : Edit (before ++ item :: after) (before ++ after)
  | substitute (before after : List Item) (item other : Item) :
    Edit (before ++ item :: after) (before ++ other :: after)

inductive Edits : Nat → List Item → List Item → Prop
  | none (items : List Item) : Edits 0 items items
  | step {count : Nat} {first next last : List Item} :
    Edit first next → Edits count next last → Edits (count + 1) first last

namespace Edit

theorem symm (edit : Edit first last) : Edit last first := by
  cases edit with
  | insert before after item => exact .delete before after item
  | delete before after item => exact .insert before after item
  | substitute before after item other => exact .substitute before after other item

theorem cons (item : Item) (edit : Edit first last) : Edit (item :: first) (item :: last) := by
  cases edit with
  | insert before after added => exact .insert (item :: before) after added
  | delete before after lost => exact .delete (item :: before) after lost
  | substitute before after old new => exact .substitute (item :: before) after old new

theorem reverse (edit : Edit first last) : Edit first.reverse last.reverse := by
  cases edit with
  | insert before after item => simpa using Edit.insert after.reverse before.reverse item
  | delete before after item => simpa using Edit.delete after.reverse before.reverse item
  | substitute before after item other => simpa using Edit.substitute after.reverse before.reverse item other

end Edit

namespace Edits

theorem map {change : List Item → List Item}
    (edit : ∀ {first last}, Edit first last → Edit (change first) (change last))
    (edits : Edits count first last) : Edits count (change first) (change last) := by
  induction edits with
  | none items => exact .none _
  | step one _ ih => exact .step (edit one) ih

theorem trans (edits : Edits count first next) (others : Edits more next last) : Edits (count + more) first last := by
  induction edits with
  | none => rwa [Nat.zero_add]
  | step one _ ih => rw [Nat.succ_add]; exact .step one (ih others)

theorem symm (edits : Edits count first last) : Edits count last first := by
  induction edits with
  | none items => exact .none items
  | step one _ ih => exact ih.trans (.step one.symm (.none _))

theorem of_nil (items : List Item) : Edits items.length [] items := by
  induction items with
  | nil => exact .none []
  | cons item rest ih => exact ih.trans (.step (.insert [] rest item) (.none _))

theorem least (edits : Edits count first last) (others : Edits more first last) :
    Edits (min count more) first last := by
  rw [Nat.min_def]
  split <;> assumption

end Edits

variable [DecidableEq Item]

/-- The distance by the first items of the lists. -/
def distance : List Item → List Item → Nat
  | [], last => last.length
  | first, [] => first.length
  | item :: first, other :: last =>
    min (min (distance (item :: first) last + 1) (distance first (other :: last) + 1))
      (distance first last + if item = other then 0 else 1)

@[simp] theorem nil_distance (last : List Item) : distance [] last = last.length := by
  simp [distance]

@[simp] theorem distance_nil (first : List Item) : distance first [] = first.length := by
  cases first <;> simp [distance]

theorem edits_distance (first last : List Item) : Edits (distance first last) first last := by
  induction first, last using distance.induct with
  | case1 last => rw [nil_distance]; exact .of_nil last
  | case2 first _ => rw [distance_nil]; exact (Edits.of_nil first).symm
  | case3 item first other last inserted deleted both =>
    have inserted := inserted.trans (.step (.insert [] last other) (.none _))
    have deleted := Edits.step (.delete [] first item) deleted
    have substituted : Edits (distance first last + if item = other then 0 else 1) (item :: first) (other :: last) := by
      split
      · rename_i same
        exact same ▸ both.map (.cons item)
      · exact (both.map (.cons item)).trans (.step (.substitute [] last item other) (.none _))
    rw [distance]
    exact (inserted.least deleted).least substituted

theorem distance_append_le (before : List Item)
    (near : ∀ last, distance first last ≤ distance next last + 1) (last : List Item) :
    distance (before ++ first) last ≤ distance (before ++ next) last + 1 := by
  induction before generalizing last with
  | nil => exact near last
  | cons item before ih =>
    induction last with
    | nil => simpa using ih []
    | cons other last shorter =>
      have above := ih (other :: last)
      have diagonal := ih last
      simp only [List.cons_append, distance] at shorter ⊢
      omega

theorem distance_le_of_edit (edit : Edit first next) : ∀ last, distance first last ≤ distance next last + 1 := by
  have cons (item : Item) (first last : List Item) : distance first (item :: last) ≤ distance first last + 1 := by
    cases first <;> simp [distance]
  cases edit with
  | insert before after item =>
    refine distance_append_le before fun last => ?_
    induction last with
    | nil => simp only [distance_nil, List.length_cons]; omega
    | cons other last ih =>
      have longer := cons other after last
      rw [distance]
      omega
  | delete before after item =>
    refine distance_append_le before fun last => ?_
    cases last <;> simp [distance]
  | substitute before after item new =>
    refine distance_append_le before fun last => ?_
    induction last with
    | nil => simp
    | cons other last ih =>
      rw [distance, distance]
      split <;> split <;> omega

theorem distance_le (edits : Edits count first last) : distance first last ≤ count := by
  induction edits with
  | none items =>
    induction items with
    | nil => simp
    | cons item rest ih => simp [distance, Nat.le_zero.mp ih]
  | @step count first next last one _ ih => exact (distance_le_of_edit one last).trans (Nat.succ_le_succ ih)

/-- Read from their ends, the lists have the least number of edits for their distance. -/
theorem isLeast_distance (first last : List Item) :
    IsLeast {count | Edits count first last} (distance first.reverse last.reverse) := by
  constructor
  · simpa using (edits_distance first.reverse last.reverse).map .reverse
  · exact fun count edits => distance_le (edits.map .reverse)

end OneVoice.Library
