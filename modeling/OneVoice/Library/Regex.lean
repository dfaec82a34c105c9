import Mathlib.Algebra.Order.BigOperators.Group.List
import Mathlib.Algebra.Order.Group.Nat

/-!
Regular expressions over any alphabet, tried in the order of preference of a leftmost-first matcher:
the first alternative before the second, the longer repetition before the shorter. A boundary looks
at the letters on its two sides and at nothing else.
-/

namespace OneVoice.Library

open List Option

inductive Regex (α : Type) where
  | empty
  | one (test : α → Bool)
  | star (test : α → Bool)
  | seq (first second : Regex α)
  | alt (first second : Regex α)
  | bound

namespace Regex

variable {α β : Type}

def opt (regex : Regex α) : Regex α := .alt regex .empty

def plus (test : α → Bool) : Regex α := .seq (.one test) (.star test)

/-- Exactly `count` copies, and then what follows. -/
def times : Nat → Regex α → Regex α → Regex α
  | 0, _, next => next
  | count + 1, regex, next => .seq regex (times count regex next)

/-- As many copies as possible, and at most `count`. -/
def upTo : Nat → Regex α → Regex α
  | 0, _ => .empty
  | count + 1, regex => opt (.seq regex (upTo count regex))

/-- A place in a text: the letter before it, if any, and those after it. -/
structure Cursor (α : Type) where
  before : Option α
  rest : List α

section Matching

variable (word : α → Bool)

def isWord (letter : Option α) : Bool := letter.any word

def edge (before after : Option α) : Bool := isWord word before != isWord word after

def repeats (test : α → Bool) : Option α → List α → List (Cursor α)
  | before, [] => [⟨before, []⟩]
  | before, letter :: rest =>
    if test letter then repeats test (some letter) rest ++ [⟨before, letter :: rest⟩]
    else [⟨before, letter :: rest⟩]

/-- The places where a match can end, the preferred one first. -/
def run : Regex α → Cursor α → List (Cursor α)
  | .empty, cursor => [cursor]
  | .one _, ⟨_, []⟩ => []
  | .one test, ⟨_, letter :: rest⟩ => if test letter then [⟨some letter, rest⟩] else []
  | .star test, cursor => repeats test cursor.before cursor.rest
  | .seq first second, cursor => (run first cursor).flatMap (run second)
  | .alt first second, cursor => run first cursor ++ run second cursor
  | .bound, cursor => if edge word cursor.before cursor.rest.head? then [cursor] else []

/-- The text of the match that is taken at a place. -/
def first (regex : Regex α) (cursor : Cursor α) : Option (List α) :=
  (run word regex cursor).head?.map fun stop =>
    cursor.rest.take (cursor.rest.length - stop.rest.length)

inductive Chunk (α : Type) where
  | plain (letter : α)
  | found (used : List α)

/-- The leftmost matches without overlap; the expression uses a letter. -/
def split (regex : Regex α) : Option α → Nat → List α → List (Chunk α)
  | _, _, [] => []
  | _, skip + 1, letter :: rest => split regex (some letter) skip rest
  | before, 0, letter :: rest =>
    match first word regex ⟨before, letter :: rest⟩ with
    | some (head :: tail) => .found (head :: tail) :: split regex (some letter) tail.length rest
    | _ => .plain letter :: split regex (some letter) 0 rest

def findAll (regex : Regex α) (text : List α) : List (List α) :=
  (split word regex none 0 text).filterMap fun
    | .plain _ => none
    | .found used => some used

def find (regex : Regex α) (text : List α) : Option (List α) := (findAll word regex text).head?

def replaceAll (regex : Regex α) (replace : List α → List α) (text : List α) : List α :=
  (split word regex none 0 text).flatMap fun
    | .plain letter => [letter]
    | .found used => replace used

/-- A match relates the used letters and the letters on both sides. -/
def Matches : Regex α → Option α → List α → Option α → Prop
  | .empty, _, used, _ => used = []
  | .one test, _, used, _ => ∃ letter, used = [letter] ∧ test letter
  | .star test, _, used, _ => ∀ letter ∈ used, test letter
  | .seq first second, before, used, after =>
    ∃ left right, used = left ++ right ∧ Matches first before left (right.head?.or after) ∧
      Matches second (left.getLast?.or before) right after
  | .alt first second, before, used, after =>
    Matches first before used after ∨ Matches second before used after
  | .bound, before, used, after => used = [] ∧ edge word before after

variable {word}

variable {text : List α} {stop cursor : Cursor α} {after : Option α}
variable {regex : Regex α}

theorem getLast?_cons_or (letter : α) (others : List α) (before : Option α) :
    (letter :: others).getLast?.or before = others.getLast?.or (some letter) := by
  rw [getLast?_cons]
  cases others.getLast? <;> rfl

variable {used : List α} {tail : Nat}

theorem getLast?_append_or (used_some : used ≠ []) (others : List α) (before : Option α) :
    (used ++ others).getLast?.or before = others.getLast?.or used.getLast? := by
  rw [getLast?_append, Option.or_assoc]
  cases last : used.getLast? with
  | none => exact absurd (getLast?_eq_none_iff.mp last) used_some
  | some letter => rfl

theorem mem_repeats {test before} :
    stop ∈ repeats test before text ↔ ∃ used, text = used ++ stop.rest ∧ stop.before = used.getLast?.or before ∧
        ∀ letter ∈ used, test letter := by
  induction text generalizing before with
  | nil =>
    constructor
    · intro member
      obtain rfl := mem_singleton.mp member
      exact ⟨[], rfl, rfl, forall_mem_nil _⟩
    · rintro ⟨used, whole, same, -⟩
      obtain ⟨rfl, none_left⟩ := append_eq_nil_iff.mp whole.symm
      obtain ⟨stopBefore, stopRest⟩ := stop
      obtain rfl : stopRest = [] := none_left
      obtain rfl : stopBefore = before := same
      exact mem_singleton_self _
  | cons letter rest ih =>
    have here : stop = ⟨before, letter :: rest⟩ ↔
        letter :: rest = stop.rest ∧ stop.before = before := by
      obtain ⟨stopBefore, stopRest⟩ := stop
      simp only [Cursor.mk.injEq]
      tauto
    have shape : stop ∈ repeats test before (letter :: rest) ↔
        stop = ⟨before, letter :: rest⟩ ∨
          test letter ∧ stop ∈ repeats test (some letter) rest := by
      rw [repeats]
      split <;> rename_i passes <;> simp [passes, or_comm]
    rw [shape, here, ih]
    constructor
    · rintro (⟨whole, same⟩ | ⟨passes, used, rfl, same, all⟩)
      · exact ⟨[], whole, same, forall_mem_nil _⟩
      · refine ⟨letter :: used, rfl, ?_, ?_⟩
        · rw [same, getLast?_cons_or]
        · simpa using ⟨passes, all⟩
    · rintro ⟨used, whole, same, all⟩
      cases used with
      | nil => exact .inl ⟨whole, same⟩
      | cons head used =>
        obtain ⟨rfl, rfl⟩ := cons.inj whole
        refine .inr ⟨all letter mem_cons_self, used, rfl, ?_, ?_⟩
        · rw [same, getLast?_cons_or]
        · exact fun other member => all other (mem_cons_of_mem letter member)

theorem mem_run {before} : stop ∈ run word regex ⟨before, text⟩ ↔
      ∃ used, text = used ++ stop.rest ∧ stop.before = used.getLast?.or before ∧
        Matches word regex before used stop.rest.head? := by
  induction regex generalizing before text stop with
  | empty =>
    obtain ⟨stopBefore, stopRest⟩ := stop
    simp only [run, mem_singleton, Cursor.mk.injEq]
    constructor
    · rintro ⟨rfl, rfl⟩
      exact ⟨[], rfl, rfl, rfl⟩
    · rintro ⟨used, rfl, rfl, rfl⟩
      exact ⟨rfl, rfl⟩
  | one test =>
    obtain ⟨stopBefore, stopRest⟩ := stop
    constructor
    · intro member
      cases text with
      | nil => cases member
      | cons letter rest =>
        unfold run at member
        split at member
        · obtain ⟨rfl, rfl⟩ := Cursor.mk.inj (mem_singleton.mp member)
          exact ⟨[letter], rfl, rfl, letter, rfl, ‹_›⟩
        · cases member
    · rintro ⟨used, rfl, rfl, letter, rfl, passes⟩
      simp [run, passes]
  | star test => exact mem_repeats
  | seq first second ihFirst ihSecond =>
    simp only [run, mem_flatMap]
    constructor
    · rintro ⟨⟨between, rest⟩, reached, ended⟩
      obtain ⟨left, rfl, rfl, matchesFirst⟩ := ihFirst.mp reached
      obtain ⟨right, rfl, last, matchesSecond⟩ := ihSecond.mp ended
      refine ⟨left ++ right, (append_assoc ..).symm, ?_, left, right, rfl, ?_, matchesSecond⟩
      · rw [last, getLast?_append, Option.or_assoc]
      · rw [← head?_append]
        exact matchesFirst
    · rintro ⟨_, whole, last, left, right, rfl, matchesFirst, matchesSecond⟩
      rw [append_assoc] at whole
      rw [← head?_append] at matchesFirst
      rw [getLast?_append, Option.or_assoc] at last
      exact ⟨⟨_, right ++ stop.rest⟩, ihFirst.mpr ⟨left, whole, rfl, matchesFirst⟩,
        ihSecond.mpr ⟨right, rfl, last, matchesSecond⟩⟩
  | alt first second ihFirst ihSecond =>
    simp only [run, mem_append, ihFirst, ihSecond]
    constructor
    · rintro (⟨used, whole, last, taken⟩ | ⟨used, whole, last, taken⟩)
      · exact ⟨used, whole, last, .inl taken⟩
      · exact ⟨used, whole, last, .inr taken⟩
    · rintro ⟨used, whole, last, taken | taken⟩
      · exact .inl ⟨used, whole, last, taken⟩
      · exact .inr ⟨used, whole, last, taken⟩
  | bound =>
    obtain ⟨stopBefore, stopRest⟩ := stop
    simp only [run]
    constructor
    · intro member
      split at member
      · obtain ⟨rfl, rfl⟩ := Cursor.mk.inj (mem_singleton.mp member)
        exact ⟨[], rfl, rfl, rfl, ‹_›⟩
      · cases member
    · rintro ⟨used, rfl, rfl, rfl, apart⟩
      simpa using apart

theorem Matches.congr {before before' after'}
    (taken : Matches word regex before used after) (left : isWord word before = isWord word before')
    (right : isWord word after = isWord word after') : Matches word regex before' used after' := by
  induction regex generalizing before before' used after after' with
  | empty | one _ | star _ => exact taken
  | seq first second ihFirst ihSecond =>
    obtain ⟨usedFirst, usedSecond, rfl, matchesFirst, matchesSecond⟩ := taken
    refine ⟨usedFirst, usedSecond, rfl, ihFirst matchesFirst left ?_, ihSecond matchesSecond ?_ right⟩
    · cases usedSecond.head? with
      | none => exact right
      | some letter => rfl
    · cases usedFirst.getLast? with
      | none => exact left
      | some letter => rfl
  | alt first second ihFirst ihSecond =>
    exact taken.imp (ihFirst · left right) (ihSecond · left right)
  | bound =>
    refine ⟨taken.1, ?_⟩
    rw [edge, ← left, ← right]
    exact taken.2

theorem first_eq_some {before} (taken : first word regex ⟨before, text⟩ = some used) :
    ∃ rest, text = used ++ rest ∧ Matches word regex before used rest.head? := by
  obtain ⟨stop, chosen, rfl⟩ := map_eq_some_iff.mp taken
  obtain ⟨used, rfl, -, fits⟩ := mem_run.mp (mem_of_mem_head? chosen)
  refine ⟨stop.rest, ?_, ?_⟩
  · simp
  · simpa using fits

theorem first_eq_none {before rest} (taken : first word regex ⟨before, used ++ rest⟩ = none) :
    ¬ Matches word regex before used rest.head? := by
  intro fits
  have reached : ⟨used.getLast?.or before, rest⟩ ∈ run word regex ⟨before, used ++ rest⟩ :=
    mem_run.mpr ⟨used, rfl, rfl, fits⟩
  rw [head?_eq_none_iff.mp (map_eq_none_iff.mp taken)] at reached
  cases reached

/-- Every match uses a letter. -/
def consumes : Regex α → Bool
  | .one _ => true
  | .empty | .star _ | .bound => false
  | .seq first second => consumes first || consumes second
  | .alt first second => consumes first && consumes second

theorem Matches.ne_nil {before} (taken : Matches word regex before used after)
    (uses : consumes regex) : used ≠ [] := by
  induction regex generalizing before used after with
  | empty | star _ | bound => cases uses
  | one test =>
    obtain ⟨letter, rfl, -⟩ := taken
    exact cons_ne_nil letter []
  | seq first second ihFirst ihSecond =>
    obtain ⟨left, right, rfl, matchesFirst, matchesSecond⟩ := taken
    rw [Ne, append_eq_nil_iff, not_and_or]
    rcases Bool.or_eq_true_iff.mp uses with uses | uses
    · exact .inl (ihFirst matchesFirst uses)
    · exact .inr (ihSecond matchesSecond uses)
  | alt first second ihFirst ihSecond =>
    rw [consumes, Bool.and_eq_true] at uses
    rcases taken with taken | taken
    · exact ihFirst taken uses.1
    · exact ihSecond taken uses.2

/-- No test of the expression accepts the letter. -/
def avoids (letter : α) : Regex α → Bool
  | .empty | .bound => true
  | .one test | .star test => !test letter
  | .seq first second | .alt first second => avoids letter first && avoids letter second

theorem Matches.not_mem {before letter}
    (taken : Matches word regex before used after) (avoid : avoids letter regex) : letter ∉ used := by
  induction regex generalizing before used after with
  | empty => simp [show used = [] from taken]
  | bound => simp [show used = [] from taken.1]
  | one test =>
    obtain ⟨other, rfl, passes⟩ := taken
    simp only [avoids, Bool.not_eq_true'] at avoid
    rintro member
    obtain rfl := mem_singleton.mp member
    simp [avoid] at passes
  | star test =>
    simp only [avoids, Bool.not_eq_true'] at avoid
    intro member
    simpa [avoid] using taken letter member
  | seq first second ihFirst ihSecond =>
    obtain ⟨left, right, rfl, matchesFirst, matchesSecond⟩ := taken
    rw [avoids, Bool.and_eq_true] at avoid
    rw [mem_append, not_or]
    exact ⟨ihFirst matchesFirst avoid.1, ihSecond matchesSecond avoid.2⟩
  | alt first second ihFirst ihSecond =>
    rw [avoids, Bool.and_eq_true] at avoid
    rcases taken with taken | taken
    · exact ihFirst taken avoid.1
    · exact ihSecond taken avoid.2

/-- What a split is, with the letter before each of its chunks. -/
inductive Splits (word : α → Bool) (regex : Regex α) : Option α → List α → List (Chunk α) → Prop
  | nil {before} : Splits word regex before [] []
  | plain {before letter rest chunks} (none_here : first word regex ⟨before, letter :: rest⟩ = none)
      (later : Splits word regex (some letter) rest chunks) :
      Splits word regex before (letter :: rest) (.plain letter :: chunks)
  | found {before used rest chunks} (used_some : used ≠ [])
      (taken : first word regex ⟨before, used ++ rest⟩ = some used)
      (later : Splits word regex used.getLast? rest chunks) :
      Splits word regex before (used ++ rest) (.found used :: chunks)

variable {before : Option α} {used : List α} {chunks : List (Chunk α)}

theorem split_skip (regex : Regex α) (letter : α) (used rest : List α) :
    split word regex (some letter) used.length (used ++ rest) =
      split word regex ((letter :: used).getLast?) 0 rest := by
  induction used generalizing letter with
  | nil => rfl
  | cons next used ih =>
    rw [getLast?_cons_cons, ← ih next]
    rfl

theorem splits_split (word : α → Bool) (uses : consumes regex) (before : Option α) (text : List α) :
    Splits word regex before text (split word regex before 0 text) := by
  induction length : text.length using Nat.strongRecOn generalizing before text with
  | ind size ih =>
    subst length
    cases text with
    | nil => exact .nil
    | cons letter rest =>
      unfold split
      cases taken : first word regex ⟨before, letter :: rest⟩ with
      | none => exact .plain taken (ih _ (Nat.lt_succ_self _) _ _ rfl)
      | some used =>
        obtain ⟨left, whole, fits⟩ := first_eq_some taken
        cases used with
        | nil => exact absurd rfl (fits.ne_nil uses)
        | cons head tail =>
          obtain ⟨rfl, rfl⟩ : letter = head ∧ rest = tail ++ left := cons.inj whole
          dsimp only
          rw [split_skip]
          refine .found (cons_ne_nil _ _) taken (ih left.length ?_ _ _ rfl)
          simp only [length_cons, length_append]
          omega

theorem Splits.eq_split (splits : Splits word regex before text chunks) :
    split word regex before 0 text = chunks := by
  induction splits with
  | nil => rfl
  | plain none_here _ ih =>
    rw [split, none_here]
    exact congrArg _ ih
  | @found before used rest chunks used_some taken _ ih =>
    cases used with
    | nil => exact absurd rfl used_some
    | cons head tail =>
      rw [cons_append] at taken ⊢
      rw [split, taken]
      dsimp only
      rw [split_skip, ih]

/-- The text that a chunk was cut from. -/
def Chunk.source : Chunk α → List α
  | .plain letter => [letter]
  | .found used => used

section

variable (splits : Splits word regex before text chunks)

include splits

theorem Splits.source : chunks.flatMap Chunk.source = text := by
  induction splits with
  | nil => rfl
  | plain _ _ ih | found _ _ _ ih => simp [Chunk.source, ih]

theorem Splits.matches_found (member : .found used ∈ chunks) :
    ∃ left right, text = left ++ used ++ right ∧ Matches word regex (left.getLast?.or before) used right.head? := by
  induction splits with
  | nil => cases member
  | @plain before letter rest chunks _ _ ih =>
    obtain ⟨left, right, rfl, fits⟩ := ih (by simpa using member)
    refine ⟨letter :: left, right, rfl, ?_⟩
    rwa [getLast?_cons_or]
  | @found before other rest chunks used_some taken _ ih =>
    rcases mem_cons.mp member with same | member
    · obtain rfl := Chunk.found.inj same
      obtain ⟨right, whole, fits⟩ := first_eq_some taken
      obtain rfl := append_cancel_left whole
      exact ⟨[], rest, rfl, fits⟩
    · obtain ⟨left, right, rfl, fits⟩ := ih member
      refine ⟨other ++ left, right, by simp, ?_⟩
      rwa [getLast?_append_or used_some]

/-- A place where something matches overlaps a chunk that was found. -/
theorem Splits.found_of_matches (uses : consumes regex) {left used right}
    (whole : text = left ++ used ++ right) (fits : Matches word regex (left.getLast?.or before) used right.head?) :
    ∃ earlier other later, chunks = earlier ++ .found other :: later ∧
      Matches word regex ((earlier.flatMap Chunk.source).getLast?.or before) other
        (later.flatMap Chunk.source).head? ∧
      (earlier.flatMap Chunk.source).length < left.length + used.length ∧
      left.length < (earlier.flatMap Chunk.source).length + other.length := by
  induction splits generalizing left with
  | nil =>
    obtain ⟨-, rfl, -⟩ : left = [] ∧ used = [] ∧ right = [] := by simpa using whole.symm
    exact absurd rfl (fits.ne_nil uses)
  | @plain before letter rest chunks none_here _ ih =>
    cases left with
    | nil =>
      rw [whole] at none_here
      exact absurd fits (first_eq_none none_here)
    | cons head left =>
      obtain ⟨rfl, rfl⟩ : letter = head ∧ rest = left ++ used ++ right := cons.inj whole
      rw [getLast?_cons_or] at fits
      obtain ⟨earlier, other, later, rfl, taken, starts, ends⟩ := ih rfl fits
      refine ⟨.plain letter :: earlier, other, later, rfl, ?_, ?_, ?_⟩
      · rwa [flatMap_cons, Chunk.source, singleton_append, getLast?_cons_or]
      · simpa [Chunk.source, Nat.add_right_comm] using starts
      · simpa [Chunk.source, Nat.add_right_comm] using ends
  | @found before first rest chunks used_some taken further ih =>
    have longer := length_pos_of_ne_nil (fits.ne_nil uses)
    by_cases inside : left.length < first.length
    · obtain ⟨right', same, matched⟩ := first_eq_some taken
      rw [← append_cancel_left same, ← further.source] at matched
      exact ⟨[], first, chunks, rfl, matched, by simp; omega, by simpa⟩
    · obtain ⟨left, rfl⟩ : ∃ later, left = first ++ later := by
        rw [append_assoc] at whole
        obtain ⟨later, here, -⟩ | ⟨later, here, -⟩ := append_eq_append_iff.mp whole
        · exact ⟨later, here⟩
        · simp [here] at inside
          simp [here, inside]
      rw [append_assoc, append_assoc, append_cancel_left_eq] at whole
      rw [getLast?_append_or used_some] at fits
      obtain ⟨earlier, other, later, rfl, taken, starts, ends⟩ := ih (whole.trans (append_assoc ..).symm) fits
      refine ⟨.found first :: earlier, other, later, rfl, ?_, ?_, ?_⟩
      · rwa [flatMap_cons, Chunk.source, getLast?_append_or used_some]
      · simpa [Chunk.source, Nat.add_assoc] using starts
      · simpa [Chunk.source, Nat.add_assoc] using ends

end

theorem mem_findAll : used ∈ findAll word regex text ↔ .found used ∈ split word regex none 0 text := by
  rw [findAll, mem_filterMap]
  constructor
  · rintro ⟨chunk, member, same⟩
    cases chunk with
    | plain letter => cases same
    | found other =>
      obtain rfl := some.inj same
      exact member
  · exact fun member => ⟨.found used, member, rfl⟩

theorem replaceAll_eq_self (uses : consumes regex) {replace}
    (kept : ∀ used ∈ findAll word regex text, replace used = used) : replaceAll word regex replace text = text := by
  refine Eq.trans ?_ (splits_split word uses none text).source
  apply flatMap_congr
  intro chunk member
  cases chunk with
  | plain letter => rfl
  | found used => exact kept used (mem_findAll.mpr member)

/-- Replacements that have more copies of a letter add up. -/
theorem count_lt_replaceAll [DecidableEq α] (uses : consumes regex) {replace} (letter : α)
    (grows : ∀ used ∈ findAll word regex text, replace used = used ∨ used.count letter < (replace used).count letter)
    (changes : ∃ used ∈ findAll word regex text, replace used ≠ used) :
    text.count letter < (replaceAll word regex replace text).count letter := by
  simp only [mem_findAll] at grows changes
  unfold replaceAll
  have source := (splits_split word uses none text).source
  generalize split word regex none 0 text = chunks at grows changes source
  subst source
  rw [count_flatMap, count_flatMap]
  apply sum_lt_sum
  · intro chunk member
    cases chunk with
    | plain other => exact Nat.le_refl _
    | found used =>
      rcases grows used member with kept | more
      · exact Nat.le_of_eq (congrArg (count letter) kept.symm)
      · exact Nat.le_of_lt more
  · obtain ⟨used, member, different⟩ := changes
    exact ⟨.found used, member, (grows used member).resolve_left different⟩

/-- A place over `tail` letters before the end, without the last `tail`. -/
def Cursor.inside (tail : Nat) (cursor : Cursor α) : Option (Cursor α) :=
  if tail < cursor.rest.length then
    some ⟨cursor.before, cursor.rest.take (cursor.rest.length - tail)⟩
  else none

theorem Cursor.inside_append (before : Option α) (text tail : List α) :
    Cursor.inside tail.length ⟨before, text ++ tail⟩ = Cursor.inside 0 ⟨before, text⟩ := by
  simp [Cursor.inside]

theorem Cursor.inside_eq_none (short : cursor.rest.length ≤ tail) :
    cursor.inside tail = none := if_neg (Nat.not_lt.mpr short)

theorem length_rest_le (reached : stop ∈ run word regex cursor) : stop.rest.length ≤ cursor.rest.length := by
  obtain ⟨used, whole, -⟩ := mem_run.mp reached
  rw [whole, length_append]
  exact Nat.le_add_left ..

theorem filterMap_inside_eq_nil (short : cursor.rest.length ≤ tail) :
    (run word regex cursor).filterMap (Cursor.inside tail) = [] := by
  rw [filterMap_eq_nil_iff]
  exact fun stop reached => Cursor.inside_eq_none ((length_rest_le reached).trans short)

theorem filterMap_inside_singleton (before : Option α) (text tail : List α) :
    [(⟨before, text ++ tail⟩ : Cursor α)].filterMap (Cursor.inside tail.length) =
      [(⟨before, text⟩ : Cursor α)].filterMap (Cursor.inside 0) := by
  simp only [filterMap_cons, Cursor.inside_append]
  rfl

theorem filterMap_inside_nil (regex : Regex α) (before : Option α) (tail : List α) :
    (run word regex ⟨before, [] ++ tail⟩).filterMap (Cursor.inside tail.length) =
      (run word regex ⟨before, []⟩).filterMap (Cursor.inside 0) := by
  have shown : (⟨before, [] ++ tail⟩ : Cursor α).rest.length ≤ tail.length := Nat.le_refl _
  have alone : (⟨before, []⟩ : Cursor α).rest.length ≤ 0 := Nat.le_refl _
  rw [filterMap_inside_eq_nil shown, filterMap_inside_eq_nil alone]

/-- The matches ending before the last letter are those of the text alone. -/
theorem filterMap_inside_run (regex : Regex α) (before : Option α) (text tail : List α) :
    (run word regex ⟨before, text ++ tail⟩).filterMap (Cursor.inside tail.length) =
      (run word regex ⟨before, text⟩).filterMap (Cursor.inside 0) := by
  induction regex generalizing before text tail with
  | empty => exact filterMap_inside_singleton before text tail
  | one test =>
    cases text with
    | nil => exact filterMap_inside_nil (.one test) before tail
    | cons letter text =>
      simp only [cons_append, run]
      split
      · exact filterMap_inside_singleton (some letter) text tail
      · rfl
  | star test =>
    simp only [run]
    induction text generalizing before with
    | nil => exact @filterMap_inside_nil α word (.star test) before tail
    | cons letter text ih =>
      have here := filterMap_inside_singleton before (letter :: text) tail
      simp only [cons_append, repeats] at here ⊢
      split
      · rw [filterMap_append, filterMap_append, ih, here]
      · exact here
  | alt first second ihFirst ihSecond =>
    simp only [run, filterMap_append, ihFirst, ihSecond]
  | bound =>
    cases text with
    | nil => exact filterMap_inside_nil .bound before tail
    | cons letter text =>
      change filterMap _ (if edge word before (some letter) then _ else []) =
        filterMap _ (if edge word before (some letter) then _ else [])
      split
      · exact filterMap_inside_singleton before (letter :: text) tail
      · rfl
  | seq first second ihFirst ihSecond =>
    have later : ∀ text tail, ∀ stop ∈ run word first ⟨before, text ++ tail⟩,
        (run word second stop).filterMap (Cursor.inside tail.length) =
          (stop.inside tail.length).toList.flatMap
            fun inner => (run word second inner).filterMap (Cursor.inside 0) := by
      intro text tail stop reached
      obtain ⟨used, whole, -⟩ := mem_run.mp reached
      by_cases short : stop.rest.length ≤ tail.length
      · rw [filterMap_inside_eq_nil short, Cursor.inside_eq_none short]
        rfl
      · obtain ⟨inner, isRest⟩ : tail <:+ stop.rest := by
          refine suffix_of_suffix_length_le (suffix_append text tail) ?_ (by omega)
          exact ⟨used, whole.symm⟩
        obtain ⟨stopBefore, stopRest⟩ := stop
        obtain rfl : inner ++ tail = stopRest := isRest
        rw [ihSecond, Cursor.inside, if_pos]
        · simp
        · simpa [Nat.pos_iff_ne_zero] using short
    have whole : ∀ text tail,
        (run word (.seq first second) ⟨before, text ++ tail⟩).filterMap (Cursor.inside tail.length) =
          ((run word first ⟨before, text⟩).filterMap (Cursor.inside 0)).flatMap
            fun inner => (run word second inner).filterMap (Cursor.inside 0) := by
      intro text tail
      rw [run, filterMap_flatMap, flatMap_congr (later text tail), ← ihFirst,
        filterMap_eq_flatMap_toList, flatMap_assoc]
    rw [whole text tail, ← whole text [], append_nil]
    rfl

theorem first_of_inside {tail inner stops} (runs : run word regex ⟨before, text ++ tail⟩ = stop :: stops)
    (within : stop.inside tail.length = some inner) : first word regex ⟨before, text ++ tail⟩ = some
    (text.take (text.length - inner.rest.length)) := by
  rw [first, runs]
  unfold Cursor.inside at within
  split at within
  · obtain rfl := some.inj within
    have bound := length_rest_le (runs ▸ mem_cons_self : stop ∈ run word regex _)
    simp only [head?_cons, map_some, length_take, length_append]
    rw [take_append_of_le_length (by omega)]
    congr 2
    omega
  · cases within

/-- A text may be exchanged behind the match that is taken, where no match of the new one reaches.
-/
theorem first_exchange {tail other}
    (short : ∀ used, first word regex ⟨before, text ++ tail⟩ = some used → used.length < text.length)
    (inside : ∀ used rest, text ++ other = used ++ rest → Matches word regex before used rest.head? →
      used.length < text.length)
    : first word regex ⟨before, text ++ other⟩ = first word regex ⟨before, text ++ tail⟩ := by
  have same : (run word regex ⟨before, text ++ tail⟩).filterMap (Cursor.inside tail.length) =
      (run word regex ⟨before, text ++ other⟩).filterMap (Cursor.inside other.length) := by
    rw [filterMap_inside_run, filterMap_inside_run]
  have reaches : ∀ stop ∈ run word regex ⟨before, text ++ other⟩,
      ∃ inner, stop.inside other.length = some inner := by
    intro stop reached
    obtain ⟨used, whole, -, fits⟩ := mem_run.mp reached
    have lengths := congrArg length whole
    have before_end := inside used stop.rest whole fits
    simp only [length_append] at lengths
    exact ⟨_, if_pos (by omega)⟩
  cases runs : run word regex ⟨before, text ++ tail⟩ with
  | nil =>
    cases others : run word regex ⟨before, text ++ other⟩ with
    | nil => rw [first, first, runs, others]; rfl
    | cons stop stops =>
      obtain ⟨inner, within⟩ := reaches stop (others ▸ mem_cons_self)
      rw [runs, others, filterMap_cons_some within] at same
      cases same
  | cons stop stops =>
    have taken : first word regex ⟨before, text ++ tail⟩ =
        some ((text ++ tail).take ((text ++ tail).length - stop.rest.length)) := by
      rw [first, runs]
      rfl
    have before_end := short _ taken
    have bound := length_rest_le (runs ▸ mem_cons_self : stop ∈ run word regex _)
    simp only [length_take, length_append] at before_end bound
    have within : ∃ inner, stop.inside tail.length = some inner := ⟨_, if_pos (by omega)⟩
    obtain ⟨inner, within⟩ := within
    cases others : run word regex ⟨before, text ++ other⟩ with
    | nil =>
      rw [runs, others, filterMap_cons_some within] at same
      cases same
    | cons stop' stops' =>
      obtain ⟨inner', within'⟩ := reaches stop' (others ▸ mem_cons_self)
      rw [runs, others, filterMap_cons_some within, filterMap_cons_some within'] at same
      rw [first_of_inside runs within, first_of_inside others within', (cons.inj same).1]

end Matching

end Regex

section Passes

variable {α β : Type} {pass : β → α → β} {measure : β → Nat} {passes : List α}
  (progress : ∀ step ∈ passes, ∀ value, pass value step = value ∨ measure value < measure (pass value step))

include progress

theorem measure_le_foldl (value : β) : measure value ≤ measure (passes.foldl pass value) := by
  induction passes generalizing value with
  | nil => exact Nat.le_refl _
  | cons head tail ih =>
    refine Nat.le_trans ?_ (ih (fun step member => progress step (.tail head member)) _)
    rcases progress head mem_cons_self value with kept | more
    · rw [kept]
    · exact Nat.le_of_lt more

/-- Passes that keep a value or raise it keep it just where each does. -/
theorem foldl_eq_self_iff (value : β) :
    passes.foldl pass value = value ↔ ∀ step ∈ passes, pass value step = value := by
  induction passes with
  | nil => exact iff_of_true rfl (forall_mem_nil _)
  | cons head tail ih =>
    have later : ∀ step ∈ tail, _ := fun step member => progress step (.tail head member)
    rw [foldl_cons, forall_mem_cons]
    constructor
    · intro same
      have kept : pass value head = value := by
        refine (progress head mem_cons_self value).resolve_right fun more => ?_
        have grows := measure_le_foldl later (pass value head)
        rw [same] at grows
        omega
      rw [kept] at same
      exact ⟨kept, (ih later).mp same⟩
    · rintro ⟨kept, rest⟩
      rw [kept]
      exact (ih later).mpr rest

end Passes

end OneVoice.Library
