import OneVoice.Library.Marked

/-!
What hiding the matches of one expression does to the matches of another. A match of the new text is
one of the old text unless a letter beside it was hidden, and an expression with boundaries at its
ends does not notice when a letter beside its match is hidden by another such expression.
-/

namespace OneVoice.Library.Regex

open Piece List Piece Option

variable {α : Type} {word : α → Bool}

section

variable {regex : Regex α} {kind : α → Prop} {before after : Option α} {used : List α}

/-- No boundary occurs, so the letters beside a match are free. -/
def boundFree : Regex α → Bool
  | .empty | .one _ | .star _ => true
  | .seq first second | .alt first second => boundFree first && boundFree second
  | .bound => false

theorem Matches.of_boundFree (free : boundFree regex) {before before' after after'}
    (taken : Matches word regex before used after) : Matches word regex before' used after' := by
  induction regex generalizing before before' used after after' with
  | empty | one _ | star _ => exact taken
  | bound => cases free
  | seq first second ihFirst ihSecond =>
    rw [boundFree, Bool.and_eq_true] at free
    obtain ⟨left, right, rfl, matchesFirst, matchesSecond⟩ := taken
    exact ⟨left, right, rfl, ihFirst free.1 matchesFirst, ihSecond free.2 matchesSecond⟩
  | alt first second ihFirst ihSecond =>
    rw [boundFree, Bool.and_eq_true] at free
    exact taken.imp (ihFirst free.1) (ihSecond free.2)

/-- Every match ends in a word letter. One that starts in a word letter stands at a boundary,
another does not depend on what is before. -/
structure Anchored (word : α → Bool) (regex : Regex α) : Prop where
  last : ∀ {before used after}, Matches word regex before used after → isWord word used.getLast? = true
  after : ∀ {before used after}, Matches word regex before used after → isWord word after = false
  before : ∀ {before used after}, Matches word regex before used after →
    isWord word used.head? = true → isWord word before = false
  free : ∀ {before before' used after}, Matches word regex before used after →
    isWord word used.head? = false → Matches word regex before' used after

/-- Every letter that can come first in a match is of a kind. -/
def Starts (kind : α → Prop) : Regex α → Prop
  | .empty | .bound => True
  | .one test | .star test => ∀ letter, test letter → kind letter
  | .seq first second => Starts kind first ∧ (consumes first ∨ Starts kind second)
  | .alt first second => Starts kind first ∧ Starts kind second

variable {letter : α}

theorem Matches.starts (taken : Matches word regex before used after) (starts : Starts kind regex)
    (head : used.head? = some letter) : kind letter := by
  induction regex generalizing before used after with
  | empty =>
    rw [show used = [] from taken] at head
    cases head
  | bound =>
    rw [taken.1] at head
    cases head
  | one test =>
    obtain ⟨first, rfl, passes⟩ := taken
    obtain rfl := some.inj head
    exact starts first passes
  | star test => exact starts letter (taken letter (mem_of_mem_head? head))
  | seq first second ihFirst ihSecond =>
    obtain ⟨left, right, rfl, matchesFirst, matchesSecond⟩ := taken
    cases left with
    | nil =>
      refine ihSecond matchesSecond (starts.2.resolve_left fun uses => ?_) head
      exact matchesFirst.ne_nil uses rfl
    | cons first left => exact ihFirst matchesFirst starts.1 head
  | alt first second ihFirst ihSecond =>
    exact taken.elim (ihFirst · starts.1 head) (ihSecond · starts.2 head)

/-- Every letter that can come last in a match is of a kind. -/
def Ends (kind : α → Prop) : Regex α → Prop
  | .empty | .bound => True
  | .one test | .star test => ∀ letter, test letter → kind letter
  | .seq first second => Ends kind second ∧ (consumes second ∨ Ends kind first)
  | .alt first second => Ends kind first ∧ Ends kind second

theorem Matches.ends (taken : Matches word regex before used after) (ends : Ends kind regex)
    (last : used.getLast? = some letter) : kind letter := by
  induction regex generalizing before used after with
  | empty =>
    rw [show used = [] from taken] at last
    cases last
  | bound =>
    rw [taken.1] at last
    cases last
  | one test =>
    obtain ⟨first, rfl, passes⟩ := taken
    obtain rfl := some.inj last
    exact ends first passes
  | star test => exact ends letter (taken letter (mem_of_mem_getLast? last))
  | seq first second ihFirst ihSecond =>
    obtain ⟨left, right, rfl, matchesFirst, matchesSecond⟩ := taken
    rw [getLast?_append] at last
    cases lastRight : right.getLast? with
    | none =>
      obtain rfl := getLast?_eq_none_iff.mp lastRight
      refine ihFirst matchesFirst (ends.2.resolve_left fun uses => ?_) last
      exact matchesSecond.ne_nil uses rfl
    | some other =>
      rw [lastRight] at last
      exact ihSecond matchesSecond ends.1 (lastRight.trans last)
  | alt first second ihFirst ihSecond =>
    exact taken.elim (ihFirst · ends.1 last) (ihSecond · ends.2 last)

theorem consumes_times {regex next : Regex α} (uses : consumes next) (count : Nat) :
    consumes (times count regex next) := by
  induction count with
  | zero => exact uses
  | succ count ih => exact Bool.or_eq_true_iff.mpr (.inr ih)

theorem ends_times {regex next : Regex α} (endsNext : Ends kind next)
    (ends : consumes next ∨ Ends kind regex) (count : Nat) : Ends kind (times count regex next) := by
  induction count with
  | zero => exact endsNext
  | succ count ih => exact ⟨ih, ends.imp_left (consumes_times · count)⟩

theorem ends_upTo (ends : Ends kind regex) (count : Nat) : Ends kind (upTo count regex) := by
  induction count with
  | zero => trivial
  | succ count ih => exact ⟨⟨ih, .inr ends⟩, trivial⟩

/-- Every match ends at a boundary. -/
def boundLast : Regex α → Bool
  | .bound => true
  | .seq _ second => boundLast second
  | .alt first second => boundLast first && boundLast second
  | .empty | .one _ | .star _ => false

theorem Matches.edge_last (taken : Matches word regex before used after) (fenced : boundLast regex)
    : edge word (used.getLast?.or before) after := by
  induction regex generalizing before used after with
  | empty | one _ | star _ => cases fenced
  | bound =>
    rw [taken.1]
    exact taken.2
  | seq first second ihFirst ihSecond =>
    obtain ⟨left, right, rfl, matchesFirst, matchesSecond⟩ := taken
    rw [getLast?_append, Option.or_assoc]
    exact ihSecond matchesSecond fenced
  | alt first second ihFirst ihSecond =>
    rw [boundLast, Bool.and_eq_true] at fenced
    exact taken.elim (ihFirst · fenced.1) (ihSecond · fenced.2)

/-- A match that starts in a word letter stands at a boundary, another does not depend on what is
before. -/
structure Opens (word : α → Bool) (regex : Regex α) : Prop where
  before : ∀ {before used after}, Matches word regex before used after →
    isWord word used.head? = true → isWord word before = false
  free : ∀ {before before' used after}, Matches word regex before used after →
    isWord word used.head? = false → Matches word regex before' used after

end

namespace Opens

variable {first second regex : Regex α}

theorem alt (opensFirst : Opens word first) (opensSecond : Opens word second) : Opens word (.alt first second) where
  before taken head := taken.elim (opensFirst.before · head) (opensSecond.before · head)
  free taken head := taken.imp (opensFirst.free · head) (opensSecond.free · head)

theorem seq (opens : Opens word first) (uses : consumes first) : Opens word (.seq first second) where
  before := by
    rintro before _ after ⟨left, right, rfl, matchesFirst, -⟩ head
    rw [head?_append_of_ne_nil _ (matchesFirst.ne_nil uses)] at head
    exact opens.before matchesFirst head
  free := by
    rintro before before' _ after ⟨left, right, rfl, matchesFirst, matchesSecond⟩ head
    have some_letter := matchesFirst.ne_nil uses
    rw [head?_append_of_ne_nil _ some_letter] at head
    refine ⟨left, right, rfl, opens.free matchesFirst head, ?_⟩
    cases last : left.getLast? with
    | none => exact absurd (getLast?_eq_none_iff.mp last) some_letter
    | some letter => simpa [last] using matchesSecond

theorem of_bound (uses : consumes regex) (starts : Starts (word · = true) regex) :
    Opens word (.seq .bound regex) := by
  have head_word : ∀ {before used after}, Matches word (.seq .bound regex) before used after →
      isWord word used.head? = true ∧ isWord word before = false := by
    rintro before _ after ⟨_, used, rfl, ⟨rfl, apart⟩, taken⟩
    cases used with
    | nil => exact absurd rfl (taken.ne_nil uses)
    | cons letter used =>
      have isLetter : word letter = true := taken.starts starts rfl
      refine ⟨isLetter, ?_⟩
      have apart : (isWord word before != word letter) = true := apart
      rw [isLetter] at apart
      simpa using apart
  constructor
  · exact fun taken _ => (head_word taken).2
  · intro before before' used after taken head
    rw [(head_word taken).1] at head
    cases head

theorem of_boundFree (uses : consumes regex) (starts : Starts (word · = false) regex)
    (free : boundFree regex) : Opens word regex where
  before := by
    intro before used after taken head
    cases used with
    | nil => exact absurd rfl (taken.ne_nil uses)
    | cons letter used =>
      have isLetter : word letter = false := taken.starts starts rfl
      exact absurd (head.symm.trans isLetter) (by decide)
  free taken _ := taken.of_boundFree free

end Opens

variable {regex : Regex α}

theorem Opens.anchored (opens : Opens word regex) (uses : consumes regex)
    (ends : Ends (word · = true) regex) (fenced : boundLast regex) : Anchored word regex := by
  have lastWord : ∀ {before used after}, Matches word regex before used after →
      isWord word used.getLast? = true ∧ isWord word after = false := by
    intro before used after taken
    cases last : used.getLast? with
    | none => exact absurd (getLast?_eq_none_iff.mp last) (taken.ne_nil uses)
    | some letter =>
      have isLetter : word letter = true := taken.ends ends last
      refine ⟨isLetter, ?_⟩
      have apart := taken.edge_last fenced
      rw [last] at apart
      have apart : (word letter != isWord word after) = true := apart
      rw [isLetter] at apart
      simpa using apart
  exact ⟨fun taken => (lastWord taken).1, fun taken => (lastWord taken).2, opens.before, opens.free⟩

/-- A pass that hides matches; a kept piece has stayed in its place. -/
inductive Marks (word : α → Bool) (regex : Regex α) (stay : Option (Piece α) → List (Piece α) → Prop) :
    Option (Piece α) → List (Piece α) → List (Piece α) → Prop
  | nil {before} : Marks word regex stay before [] []
  | keep {before piece old new} (stays : stay before (piece :: old))
      (later : Marks word regex stay (some piece) old new) :
      Marks word regex stay before (piece :: old) (piece :: new)
  | hide {before letters old new} (some_letter : letters ≠ [])
      (taken : Matches word regex (before.bind letter?) letters (old.head?.bind letter?))
      (later : Marks word regex stay (letters.map .kept).getLast? old new) :
      Marks word regex stay before (letters.map .kept ++ old) (.hidden letters :: new)

namespace Marks

variable {regex : Regex α} {stay : Option (Piece α) → List (Piece α) → Prop}
variable {before : Option (Piece α)} {pieces : List (Piece α)} {letters : List α}

variable {old rest : List (Piece α)}

theorem keepAll {pieces new} (stays : ∀ before rest, stay before rest)
    (later : Marks word regex stay (pieces.getLast?.or before) old new) :
    Marks word regex stay before (pieces ++ old) (pieces ++ new) := by
  induction pieces generalizing before with
  | nil => exact later
  | cons piece pieces ih =>
    refine .keep (stays _ _) (ih ?_)
    rwa [getLast?_cons_or] at later

/-- Each place was one of the old text, after its letter or a hidden match. -/
theorem split_at {left} (marks : Marks word regex stay before old (left ++ rest)) :
    ∃ left' rest', old = left' ++ rest' ∧ left'.flatMap source = left.flatMap source ∧
      Marks word regex stay (left'.getLast?.or before) rest' rest ∧
      (left'.getLast?.or before = left.getLast?.or before ∨
        ∃ previous used, Matches word regex previous used (rest'.head?.bind letter?)) := by
  induction left generalizing before old with
  | nil => exact ⟨[], old, rfl, rfl, marks, .inl rfl⟩
  | cons piece left ih =>
    cases marks with
    | keep stays later =>
      obtain ⟨left', rest', rfl, same, further, beside⟩ := ih later
      refine ⟨piece :: left', rest', rfl, by simp [same], ?_, ?_⟩
      · rwa [getLast?_cons_or]
      · rwa [getLast?_cons_or, getLast?_cons_or]
    | @hide _ letters old' _ some_letter taken later =>
      have some_piece : letters.map kept ≠ [] := mt map_eq_nil_iff.mp some_letter
      cases left with
      | nil =>
        refine ⟨letters.map .kept, old', rfl, by simp [source], ?_, .inr ⟨_, letters, taken⟩⟩
        have last := getLast?_append_or some_piece [] before
        rw [append_nil] at last
        rw [last]
        exact later
      | cons piece' left =>
        obtain ⟨left', rest', rfl, same, further, beside⟩ := ih later
        refine ⟨letters.map .kept ++ left', rest', by simp, ?_, ?_, ?_⟩
        · rw [flatMap_append, source_map_kept, same]
          rfl
        · rwa [getLast?_append_or some_piece]
        · rw [getLast?_cons_or] at beside
          rwa [getLast?_append_or some_piece, getLast?_cons_or, getLast?_cons_or]

/-- Letters that were kept are letters of the old text, each in its place. -/
theorem split_kept (marks : Marks word regex stay before old (letters.map .kept ++ rest)) :
    ∃ rest', old = letters.map .kept ++ rest' ∧
      Marks word regex stay ((letters.map kept).getLast?.or before) rest' rest := by
  induction letters generalizing before old with
  | nil => exact ⟨old, rfl, marks⟩
  | cons letter letters ih =>
    cases marks with
    | keep stays later =>
      obtain ⟨rest', rfl, further⟩ := ih later
      refine ⟨rest', rfl, ?_⟩
      rwa [map_cons, getLast?_cons_or]

theorem stays_head {letter} (marks : Marks word regex stay before old (.kept letter :: rest)) :
    stay before old := by
  cases marks with
  | keep stays later => exact stays

/-- The next letter is the same, or a hidden match's first one. -/
theorem head_eq_or {new} (marks : Marks word regex stay before old new) :
    new.head? = old.head? ∨ ∃ letters after, new.head? = some (.hidden letters) ∧
      old.head?.bind letter? = letters.head? ∧ Matches word regex (before.bind letter?) letters after := by
  cases marks with
  | nil => exact .inl rfl
  | keep stays later => exact .inl rfl
  | @hide _ letters old' _ some_letter taken later =>
    refine .inr ⟨letters, _, rfl, ?_, taken⟩
    cases letters with
    | nil => exact absurd rfl some_letter
    | cons letter letters => rfl

/-- Where letters of the new text come from, and what was beside them. -/
theorem origin {left right : List (Piece α)}
    (marks : Marks word regex stay none old (left ++ (letters.map .kept ++ right)))
    (some_letter : letters ≠ []) : ∃ left' right', old = left' ++ (letters.map .kept ++ right') ∧
      stay left'.getLast? (letters.map .kept ++ right') ∧ (left'.getLast? = left.getLast? ∨
        ∃ previous used, Matches word regex previous used letters.head?) ∧
      (right.head? = right'.head? ∨ ∃ used after, right.head? = some (.hidden used) ∧
        right'.head?.bind letter? = used.head? ∧ Matches word regex letters.getLast? used after) := by
  obtain ⟨left', rest', rfl, -, further, beside⟩ := marks.split_at
  obtain ⟨right', rfl, last⟩ := further.split_kept
  rw [or_none] at further
  cases letters with
  | nil => exact absurd rfl some_letter
  | cons letter letters =>
    refine ⟨left', right', rfl, further.stays_head, ?_, ?_⟩
    · rw [or_none, or_none] at beside
      exact beside
    · refine last.head_eq_or.imp_right ?_
      rintro ⟨used, after, hides, first, taken⟩
      refine ⟨used, after, hides, first, taken.congr ?_ rfl⟩
      rw [getLast?_map]
      cases lastLetter : (letter :: letters).getLast? with
      | none => exact absurd lastLetter (by simp)
      | some letter => rfl

end Marks

/-- No match starts at a place. -/
def Unmatched (word : α → Bool) (regex : Regex α) (before : Option (Piece α)) (rest : List (Piece α)) : Prop :=
  ∀ letters right, rest = letters.map .kept ++ right →
    ¬ Matches word regex (before.bind letter?) letters (right.head?.bind letter?)

theorem unmatched_of_first_eq_none {before rest}
    (taken : first (test word) regex.lift ⟨before, rest⟩ = none) : Unmatched word regex before rest := by
  rintro letters right rfl fits
  exact first_eq_none taken fits.lift

section Passes

variable {regex other : Regex α} {stay : Option (Piece α) → List (Piece α) → Prop}

variable {pieces : List (Piece α)} {valid : List α → Bool} {letters : List α}

theorem marks_of_splits {before chunks} (splits : Splits (test word) regex.lift before pieces chunks) :
    Marks word regex (fun before rest => (∀ used, valid used) → Unmatched word regex before rest)
      before pieces (chunks.flatMap (hide valid)) := by
  induction splits with
  | nil => exact .nil
  | plain none_here _ ih => exact .keep (fun _ => unmatched_of_first_eq_none none_here) ih
  | @found before used rest chunks used_some taken _ ih =>
    obtain ⟨right, whole, fits⟩ := first_eq_some taken
    obtain rfl := append_cancel_left whole
    obtain ⟨letters, rfl, fitsLetters⟩ := fits.kept
    have some_letter : letters ≠ [] := by simpa using used_some
    rw [flatMap_cons, hide, source_map_kept]
    split
    · exact .hide some_letter fitsLetters ih
    · rename_i invalid
      refine .keepAll (fun _ _ all => absurd (all letters) invalid) ?_
      cases last : (letters.map kept).getLast? with
      | none => exact absurd (getLast?_eq_none_iff.mp last) used_some
      | some piece => simpa [last] using ih

theorem marks_mark (uses : consumes regex) (valid : List α → Bool) (pieces : List (Piece α)) :
    Marks word regex (fun before rest => (∀ used, valid used) → Unmatched word regex before rest)
      none pieces (mark word regex valid pieces) :=
  marks_of_splits (splits_split _ ((consumes_lift regex).trans uses) none pieces)

/-- No match of a text has a piece after it that meets the guard. -/
def Clear (word : α → Bool) (guard : Option (Piece α) → Prop) (regex : Regex α) (pieces : List (Piece α)) : Prop :=
  ∀ left letters right, pieces = left ++ (letters.map .kept ++ right) → guard right.head? →
    ¬ Matches word regex (left.getLast?.bind letter?) letters (right.head?.bind letter?)

theorem exists_of_mem_findAll (uses : consumes regex)
    (found : letters.map .kept ∈ findAll (test word) regex.lift pieces) :
    ∃ left right, pieces = left ++ (letters.map .kept ++ right) ∧
      Matches word regex (left.getLast?.bind letter?) letters (right.head?.bind letter?) := by
  have splits := splits_split (test word) ((consumes_lift regex).trans uses) none pieces
  obtain ⟨left, right, whole, fits⟩ := splits.matches_found (mem_findAll.mp found)
  obtain ⟨others, same, fitsLetters⟩ := fits.kept
  obtain rfl := (map_injective_iff.mpr fun _ _ => kept.inj) same
  rw [or_none] at fitsLetters
  exact ⟨left, right, by simpa using whole, fitsLetters⟩

/-- A place where the letters match overlaps letters that are found. -/
theorem exists_foundAt (uses : consumes regex) {left right}
    (fits : Matches word regex (left.getLast?.bind letter?) letters (right.head?.bind letter?)) :
    ∃ left' others right', FoundAt word regex (left ++ (letters.map .kept ++ right)) left' others right' ∧
      left ++ (letters.map .kept ++ right) = left' ++ (others.map .kept ++ right') ∧
      Matches word regex (left'.getLast?.bind letter?) others (right'.head?.bind letter?) ∧
      left'.length < left.length + letters.length ∧ left.length < left'.length + others.length := by
  have uses := (consumes_lift regex).trans uses
  have splits := splits_split (test word) uses none (left ++ (letters.map .kept ++ right))
  obtain ⟨earlier, _, later, found, taken, starts, ends⟩ := splits.found_of_matches uses
    (append_assoc ..).symm (by rw [or_none]; exact fits.lift)
  obtain ⟨others, rfl, fitsLetters⟩ := taken.kept
  rw [or_none] at fitsLetters
  rw [length_map] at starts ends
  refine ⟨_, others, _, ⟨earlier, later, found, rfl, rfl⟩, ?_, fitsLetters, starts, ends⟩
  rw [← splits.source, found, flatMap_append, flatMap_cons, Chunk.source]

/-- After a pass of the first expression, a match of the second was there. -/
def Traced (word : α → Bool) (guard : Option (Piece α) → Prop) (regex other : Regex α) : Prop :=
  ∀ (stay : Option (Piece α) → List (Piece α) → Prop) (old left right : List (Piece α))
    (letters : List α), Marks word regex stay none old (left ++ (letters.map .kept ++ right)) →
    guard right.head? →
    Matches word other (left.getLast?.bind letter?) letters (right.head?.bind letter?) →
    ∃ left' right', old = left' ++ (letters.map .kept ++ right') ∧ guard right'.head? ∧
      stay left'.getLast? (letters.map .kept ++ right') ∧
      Matches word other (left'.getLast?.bind letter?) letters (right'.head?.bind letter?)

variable {guard : Option (Piece α) → Prop}

theorem Traced.clear (traced : Traced word guard regex other) {old new}
    (marks : Marks word regex stay none old new) (clear : Clear word guard other old) :
    Clear word guard other new := by
  rintro left letters right rfl allowed taken
  obtain ⟨left', right', rfl, allowed', -, taken'⟩ := traced _ _ _ _ _ marks allowed taken
  exact clear left' letters right' rfl allowed' taken'

theorem Traced.clear_mark (traced : Traced word guard regex regex) (uses : consumes regex)
    (all : ∀ used, valid used) (pieces : List (Piece α)) :
    Clear word guard regex (mark word regex valid pieces) := by
  intro left letters right whole allowed taken
  have marks := @marks_mark _ word _ uses valid pieces
  rw [whole] at marks
  obtain ⟨left', right', -, -, stays, taken'⟩ := traced _ _ _ _ _ marks allowed taken
  exact stays all letters right' rfl taken'

/-- Hidden letters beside an anchored match do not make it one. -/
theorem Anchored.traced (anchored : Anchored word regex) (anchoredOther : Anchored word other) :
    Traced word (fun _ => True) regex other := by
  intro stay old left right letters marks _ taken
  have lastWord := anchoredOther.last taken
  have some_letter : letters ≠ [] := by
    rintro rfl
    cases lastWord
  obtain ⟨left', right', rfl, stays, beside, next⟩ := marks.origin some_letter
  refine ⟨left', right', rfl, trivial, stays, ?_⟩
  have fits : Matches word other (left.getLast?.bind letter?) letters (right'.head?.bind letter?) := by
    rcases next with same | ⟨used, after, hides, first, hidden⟩
    · rwa [← same]
    · refine taken.congr rfl ?_
      rw [hides, first]
      cases firstWord : isWord word used.head? with
      | false => rfl
      | true =>
        rw [anchored.before hidden firstWord] at lastWord
        cases lastWord
  rcases beside with same | ⟨previous, used, hidden⟩
  · rwa [same]
  · exact anchoredOther.free fits (anchored.after hidden)

theorem traced_of_boundFree (regex : Regex α) (uses : consumes other) (free : boundFree other) :
    Traced word (fun _ => True) regex other := by
  intro stay old left right letters marks _ taken
  obtain ⟨left', right', rfl, stays, -⟩ := marks.origin (taken.ne_nil uses)
  exact ⟨left', right', rfl, trivial, stays, taken.of_boundFree free⟩

/-- The piece is there to be read, or the text ends. -/
def Shown (piece : Option (Piece α)) : Prop := ∀ used, piece ≠ some (.hidden used)

theorem traced_of_beforeFree (regex : Regex α) (uses : consumes other)
    (free : ∀ {before before' after : Option α} {used : List α},
      Matches word other before used after → Matches word other before' used after) :
    Traced word Shown regex other := by
  intro stay old left right letters marks allowed taken
  obtain ⟨left', right', rfl, stays, -, next⟩ := marks.origin (taken.ne_nil uses)
  rcases next with same | ⟨used, after, hides, -⟩
  · rw [same] at allowed taken
    exact ⟨left', right', rfl, allowed, stays, free taken⟩
  · exact absurd hides (allowed used)

end Passes

section Settled

variable {regex : Regex α}

theorem avoids_hidden (regex : Regex α) (used : List α) : avoids (.hidden used) regex.lift := by
  induction regex with
  | empty | bound | one _ | star _ => rfl
  | seq first second ihFirst ihSecond | alt first second ihFirst ihSecond =>
    rw [lift, avoids, ihFirst, ihSecond, Bool.and_self]

/-- From a place on, two texts agree, or a match of the first is hidden. -/
def HiddenAt (word : α → Bool) (regex : Regex α) (before : Option (Piece α)) (tail other : List (Piece α)) : Prop :=
  tail = other ∨ ∃ letters rest rest', tail = letters.map .kept ++ rest ∧ other = .hidden letters :: rest' ∧
    Matches word regex (before.bind letter?) letters (rest.head?.bind letter?)

variable {before : Option (Piece α)} {chunks : List (Chunk (Piece α))}
  {pieces text : List (Piece α)} {letters : List α}

/-- Up to the first valid match a pass changes nothing. -/
theorem Splits.stretch (valid : List α → Bool) (splits : Splits (test word) regex.lift before pieces chunks) :
    ∃ text tail other, pieces = text ++ tail ∧ chunks.flatMap (hide valid) = text ++ other ∧
      HiddenAt word regex (text.getLast?.or before) tail other := by
  induction splits with
  | nil => exact ⟨[], [], [], rfl, rfl, .inl rfl⟩
  | @plain before piece rest chunks _ _ ih =>
    obtain ⟨text, tail, other, rfl, new, differ⟩ := ih
    refine ⟨piece :: text, tail, other, rfl, congrArg (cons piece) new, ?_⟩
    rwa [getLast?_cons_or]
  | @found before used rest chunks used_some taken _ ih =>
    obtain ⟨right, whole, fits⟩ := first_eq_some taken
    obtain rfl := append_cancel_left whole
    obtain ⟨letters, rfl, fitsLetters⟩ := fits.kept
    rw [flatMap_cons, hide, source_map_kept]
    split
    · exact ⟨[], _, _, rfl, rfl, .inr ⟨letters, rest, _, rfl, rfl, fitsLetters⟩⟩
    · obtain ⟨text, tail, other, rfl, new, differ⟩ := ih
      refine ⟨letters.map .kept ++ text, tail, other, by simp, by simp [new], ?_⟩
      rwa [getLast?_append_or used_some]

variable (anchored : Anchored word regex)
  (leads : ∀ {before used after}, Matches word regex before used after → isWord word used.head? = true)

include anchored leads

theorem not_matches_before {before' after' after}
    (hidden : Matches word regex ((text.getLast?.or before).bind letter?) letters after) :
    ¬ Matches (test word) regex.lift before' text after' := by
  intro taken
  obtain ⟨others, rfl, fits⟩ := taken.kept
  have lastWord := anchored.last fits
  have apart := anchored.before hidden (leads hidden)
  rw [getLast?_map] at apart
  cases last : others.getLast? with
  | none =>
    rw [last] at lastWord
    cases lastWord
  | some letter =>
    rw [last] at lastWord apart
    exact absurd (lastWord.symm.trans apart) (by decide)

theorem first_of_hiddenAt {before text tail other}
    (differ : HiddenAt word regex (text.getLast?.or before) tail other)
    (short : ∀ used, first (test word) regex.lift ⟨before, text ++ tail⟩ = some used → used.length ≤ text.length) :
    first (test word) regex.lift ⟨before, text ++ other⟩ = first (test word) regex.lift ⟨before, text ++ tail⟩ := by
  rcases differ with rfl | ⟨letters, rest, rest', rfl, rfl, hidden⟩
  · rfl
  apply first_exchange
  · intro used taken
    refine Nat.lt_of_le_of_ne (short used taken) fun same => ?_
    obtain ⟨right, whole, fits⟩ := first_eq_some taken
    obtain ⟨rfl, -⟩ := append_inj whole same.symm
    exact not_matches_before anchored leads hidden fits
  · intro used right whole fits
    rcases append_eq_append_iff.mp whole with ⟨more, rfl, tail⟩ | ⟨more, rfl, -⟩
    · cases more with
      | nil =>
        rw [append_nil] at fits
        exact absurd fits (not_matches_before anchored leads hidden)
      | cons piece more =>
        obtain ⟨rfl, -⟩ : Piece.hidden letters = piece ∧ _ := cons.inj tail
        exact absurd (by simp) (fits.not_mem (avoids_hidden regex letters))
    · cases more with
      | nil =>
        rw [append_nil] at hidden
        exact absurd fits (not_matches_before anchored leads hidden)
      | cons piece more => simp

omit anchored in
theorem first_of_outside (outside : isWord (test word) pieces.head? = false) :
    first (test word) regex.lift ⟨before, pieces⟩ = none := by
  cases taken : first (test word) regex.lift ⟨before, pieces⟩ with
  | none => rfl
  | some used =>
    obtain ⟨right, rfl, fits⟩ := first_eq_some taken
    obtain ⟨letters, rfl, fitsLetters⟩ := fits.kept
    have head := leads fitsLetters
    cases letters with
    | nil => cases head
    | cons letter letters => exact absurd (head.symm.trans outside) (by decide)

/-- What a second pass leaves of a chunk; what was hidden is a plain piece. -/
def settle (valid : List α → Bool) : Chunk (Piece α) → Chunk (Piece α)
  | .plain piece => .plain piece
  | .found used =>
    if valid (used.flatMap source) then .plain (.hidden (used.flatMap source))
    else .found used

/-- A second pass finds the matches of the first that are not valid. -/
theorem Splits.settle (uses : consumes regex) (valid : List α → Bool) {before'}
    (splits : Splits (test word) regex.lift before pieces chunks)
    (beside : before' = before ∨ isWord (test word) pieces.head? = false) :
    Splits (test word) regex.lift before' (chunks.flatMap (hide valid)) (chunks.map (Regex.settle valid)) := by
  induction splits generalizing before' with
  | nil => exact .nil
  | @plain before piece rest chunks none_here later ih =>
    rw [flatMap_cons, map_cons, hide, singleton_append]
    refine .plain ?_ (ih (.inl rfl))
    rcases beside with rfl | outside
    · obtain ⟨text, tail, other, rfl, new, differ⟩ := later.stretch valid
      rw [← getLast?_cons_or piece text before'] at differ
      have same := first_of_hiddenAt anchored leads differ
        fun used taken => by rw [cons_append, none_here] at taken; cases taken
      rw [new]
      exact same.trans none_here
    · exact first_of_outside leads outside
  | @found before used rest chunks used_some taken later ih =>
    have inside : before' = before := by
      refine beside.resolve_right fun outside => ?_
      rw [first_of_outside leads outside] at taken
      cases taken
    subst inside
    obtain ⟨right, whole, fits⟩ := first_eq_some taken
    obtain rfl := append_cancel_left whole
    obtain ⟨letters, rfl, fitsLetters⟩ := fits.kept
    rw [flatMap_cons, map_cons, hide, Regex.settle]
    split
    · refine .plain (first_of_avoids ((consumes_lift regex).trans uses) (avoids_hidden ..) _ _) (ih (.inr ?_))
      rw [isWord_lift]
      exact anchored.after fitsLetters
    · refine .found used_some ?_ (ih (.inl rfl))
      obtain ⟨text, tail, other, rfl, new, differ⟩ := later.stretch valid
      rw [← getLast?_append_or used_some text before'] at differ
      rw [← append_assoc] at taken
      have same := first_of_hiddenAt anchored leads differ fun used found => by
        obtain rfl := some.inj (taken.symm.trans found)
        simp
      rw [new, ← append_assoc]
      exact same.trans taken

/-- No valid match is left after a pass. -/
theorem mark_settled (uses : consumes regex) (valid : List α → Bool) (pieces : List (Piece α)) {letters}
    (found : letters.map .kept ∈ findAll (test word) regex.lift (mark word regex valid pieces)) :
    valid letters = false := by
  have splits := splits_split (test word) ((consumes_lift regex).trans uses) none pieces
  rw [mem_findAll, mark, (splits.settle anchored leads uses valid (.inl rfl)).eq_split] at found
  obtain ⟨chunk, -, left⟩ := mem_map.mp found
  cases chunk with
  | plain piece => cases left
  | found used =>
    rw [Regex.settle] at left
    split at left
    · cases left
    · rename_i invalid
      obtain rfl := Chunk.found.inj left
      rwa [source_map_kept, Bool.not_eq_true] at invalid

end Settled

end OneVoice.Library.Regex
