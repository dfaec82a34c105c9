import OneVoice.Proof.Security.Redaction

/-!
A valid card number stays where the earlier classes leave it and the check of the candidate around it
fails: one space or dash joins the number to other digits, and the pattern takes all as one candidate.
-/

namespace OneVoice.Security

open Library Regex Piece Pattern List

/-- A decimal digit. -/
def digit : Symbol → Bool := Symbol.test Char.isDigit

/-- A card number in a text, from the first to the last of its digits. -/
structure Card (before run after : Text) : Prop where
  digits : ∀ symbol ∈ run, digit symbol
  size : 13 ≤ run.length ∧ run.length ≤ 19
  valid : luhnValid run
  left : Regex.isWord word before.getLast? = false
  right : Regex.isWord word after.head? = false

/-- The pieces of a text hide no part of the run in its place. -/
def Leaves (pieces : List (Piece Symbol)) (before run after : Text) : Prop :=
  ∃ left right, pieces = left ++ (run.map .kept ++ right) ∧
    left.flatMap source = before ∧ right.flatMap source = after

/-- The redaction hides no part of the run. -/
def Stays (before run after : Text) : Prop := Leaves (segments (before ++ run ++ after)) before run after

/-- The card pattern takes the run, with what it takes on both sides of it, as one candidate. -/
def Candidate (before run after candidate : Text) : Prop :=
  ∃ left earlier later right, candidate = earlier ++ (run ++ later) ∧
    FoundAt word reCreditCard (beforeCards (before ++ run ++ after)) left candidate right ∧
    left.flatMap source ++ earlier = before ∧ later ++ right.flatMap source = after

/-- A digit with at most one separator after it. -/
def cardGroup : Pattern := .seq (class_ Char.isDigit) (.opt (class_ (among [' ', '-'])))

/-- The last digit, at a word boundary. -/
def cardEnd : Pattern := .seq (class_ Char.isDigit) .bound

variable {before after : Option Symbol} {used : Text} {symbol : Symbol} {count : Nat}

/-- A digit is part of a word. -/
theorem isWord_digit (isDigit : digit symbol) : Regex.isWord word (some symbol) = true := by
  cases symbol with
  | raw byte => cases isDigit
  | rune char => exact isWord_of_isDigit char isDigit

theorem matches_group (isDigit : digit symbol) : Matches word cardGroup before [symbol] after :=
  ⟨[symbol], [], rfl, ⟨symbol, rfl, isDigit⟩, .inr rfl⟩

/-- The groups take any run of digits that is short enough. -/
theorem matches_upTo (digits : ∀ symbol ∈ used, digit symbol) (short : used.length ≤ count) :
    Matches word (.upTo count cardGroup) before used after := by
  induction count generalizing before used with
  | zero => exact length_eq_zero_iff.mp (Nat.le_zero.mp short)
  | succ count ih =>
    cases used with
    | nil => exact .inr rfl
    | cons symbol used =>
      obtain ⟨isDigit, digits⟩ := forall_mem_cons.mp digits
      exact .inl ⟨[symbol], used, rfl, matches_group isDigit, ih digits (Nat.le_of_succ_le_succ short)⟩

/-- The groups and the last digit take the whole run. -/
theorem matches_times (digits : ∀ symbol ∈ used, digit symbol)
    (size : count < used.length ∧ used.length ≤ count + 7) (right : Regex.isWord word after = false) :
    Matches word (.times count cardGroup (.seq (.upTo 6 cardGroup) cardEnd)) before used after := by
  induction count generalizing before used with
  | zero =>
    obtain rfl | ⟨others, last, rfl⟩ := eq_nil_or_concat' used
    · simp at size
    obtain ⟨digits, isLast⟩ : (∀ symbol ∈ others, digit symbol) ∧ digit last := by
      simpa [or_imp, forall_and] using digits
    have ends : edge word (some last) after := by simp [edge, right, isWord_digit isLast]
    exact ⟨others, [last], rfl, matches_upTo digits (by simp at size; omega), [last], [], rfl,
      ⟨last, rfl, isLast⟩, rfl, ends⟩
  | succ count ih =>
    cases used with
    | nil => simp at size
    | cons symbol used =>
      obtain ⟨isDigit, digits⟩ := forall_mem_cons.mp digits
      exact ⟨[symbol], used, rfl, matches_group isDigit, ih digits (by simp at size; omega)⟩

/-- A run of digits between boundaries is a match of the card pattern. -/
theorem matches_run (digits : ∀ symbol ∈ used, digit symbol)
    (size : 13 ≤ used.length ∧ used.length ≤ 19) (left : Regex.isWord word before = false)
    (right : Regex.isWord word after = false) : Matches word reCreditCard before used after := by
  refine ⟨[], used, rfl, ⟨rfl, ?_⟩, matches_times digits size right⟩
  cases used with
  | nil => simp at size
  | cons first used => simp [edge, left, isWord_digit (digits first mem_cons_self)]

variable {run before after others : Text} {left right left' right' : List (Piece Symbol)}

theorem word_of_mem_map (digits : ∀ symbol ∈ run, digit symbol) {piece : Piece Symbol}
    (member : piece ∈ run.map .kept) : Regex.isWord word piece.letter? = true := by
  obtain ⟨symbol, listed, rfl⟩ := mem_map.mp member
  exact isWord_digit (digits symbol listed)

/-- A candidate that overlaps a card number covers it: its ends are no places inside a word. -/
theorem covers_of_overlaps (digits : ∀ symbol ∈ run, digit symbol)
    (same : left ++ (run.map .kept ++ right) = left' ++ (others.map .kept ++ right'))
    (taken : Matches word reCreditCard (left'.getLast?.bind letter?) others (right'.head?.bind letter?))
    (starts : left'.length < left.length + run.length) (ends : left.length < left'.length + others.length) :
    ∃ earlier later, others = earlier ++ (run ++ later) ∧ left = left' ++ earlier.map .kept ∧
      right = later.map .kept ++ right' := by
  obtain ⟨more, rfl, shared⟩ : ∃ more, left = left' ++ more ∧
      others.map .kept ++ right' = more ++ (run.map .kept ++ right) := by
    obtain ⟨more, rfl, shared⟩ | found := append_eq_append_iff.mp same
    · obtain rfl | ⟨more, piece, rfl⟩ := eq_nil_or_concat' more
      · exact ⟨[], by simp, shared.symm⟩
      · have cut : more ++ [piece] <+: run.map .kept :=
          prefix_of_prefix_length_le ⟨_, shared.symm⟩ ⟨_, rfl⟩ (by simp at starts ⊢; omega)
        have member : piece ∈ run.map .kept := cut.subset (by simp)
        have outside := anchored_reCreditCard.before taken (isWord_head?_reCreditCard taken)
        rw [← append_assoc, getLast?_concat, Option.bind_some, word_of_mem_map digits member] at outside
        cases outside
    · exact found
  obtain ⟨cut, split⟩ : more <+: others.map .kept :=
    prefix_of_prefix_length_le ⟨_, shared.symm⟩ ⟨_, rfl⟩ (by simp at ends ⊢; omega)
  obtain ⟨earlier, rest, rfl, rfl, rfl⟩ := map_eq_append_iff.mp split.symm
  rw [map_append, append_assoc, append_cancel_left_eq] at shared
  obtain ⟨piece, whole, rfl⟩ | ⟨piece, whole, rfl⟩ := append_eq_append_iff.mp shared
  · cases piece with
    | nil =>
      refine ⟨earlier, [], ?_, rfl, rfl⟩
      rw [append_nil] at whole ⊢
      rw [map_injective_iff.mpr (fun _ _ => Piece.kept.inj) whole]
    | cons piece pieces =>
      have outside : Regex.isWord word piece.letter? = false := anchored_reCreditCard.after taken
      have inside := word_of_mem_map digits (whole ▸ mem_append_right _ mem_cons_self)
      exact absurd (inside.symm.trans outside) (by simp)
  · obtain ⟨first, later, rfl, here, rfl⟩ := map_eq_append_iff.mp whole
    obtain rfl := map_injective_iff.mpr (fun _ _ => Piece.kept.inj) here
    exact ⟨earlier, later, rfl, rfl, rfl⟩

/-- A card number that the earlier classes leave is part of a candidate. -/
theorem Card.candidate (card : Card before run after)
    (leaves : Leaves (beforeCards (before ++ run ++ after)) before run after) :
    ∃ candidate, Candidate before run after candidate := by
  obtain ⟨left, right, whole, rfl, rfl⟩ := leaves
  have outsideLeft : Regex.isWord word (left.getLast?.bind letter?) = false := by
    obtain rfl | ⟨others, symbol | used, rfl⟩ := eq_nil_or_concat' left
    · rfl
    · simpa [source, letter?] using card.left
    · simp [letter?, Regex.isWord]
  have outsideRight : Regex.isWord word (right.head?.bind letter?) = false := by
    cases right with
    | nil => rfl
    | cons piece right =>
      cases piece with
      | hidden used => rfl
      | kept symbol => simpa [source, letter?] using card.right
  obtain ⟨left', others, right', found, same, taken, starts, ends⟩ := exists_foundAt rfl
    (matches_run card.digits card.size outsideLeft outsideRight)
  obtain ⟨earlier, later, shape, rfl, rfl⟩ := covers_of_overlaps card.digits same taken starts ends
  rw [← whole] at found
  exact ⟨others, left', earlier, later, right', shape, found, by simp, by simp⟩

/-- The card class only hides, so that the run was there before it. -/
theorem Stays.beforeCards (stays : Stays before run after) :
    Leaves (beforeCards (before ++ run ++ after)) before run after := by
  obtain ⟨left, right, whole, wholeLeft, wholeRight⟩ := stays
  rw [segments_eq_markClass] at whole
  generalize Security.beforeCards (before ++ run ++ after) = pieces at whole ⊢
  have same : (markClass pieces creditCard).flatMap source = pieces.flatMap source := source_mark rfl _ _
  have marks : Marks word reCreditCard _ none pieces (markClass pieces creditCard) := marks_mark rfl _ _
  rw [whole] at marks
  obtain ⟨left', rest, rfl, sameLeft, further, -⟩ := marks.split_at
  obtain ⟨right', rfl, -⟩ := further.split_kept
  rw [whole] at same
  refine ⟨left', right', rfl, sameLeft.trans wholeLeft, ?_⟩
  simpa [sameLeft, wholeRight] using same.symm

/-- Letters of a hidden part are not kept in their place. -/
theorem kept_ne_hidden {earlier : Text} (same : left' ++ ([.hidden used] ++ right') = left ++ (run.map .kept ++ right))
    (starts : left.flatMap source = left'.flatMap source ++ earlier) (some_digit : run ≠ [])
    (inside : earlier.length + run.length ≤ used.length) : False := by
  obtain ⟨symbol, run, rfl⟩ := exists_cons_of_ne_nil some_digit
  obtain ⟨more, rfl, shared⟩ | ⟨more, rfl, shared⟩ := append_eq_append_iff.mp same
  · cases more with
    | nil => cases shared
    | cons piece more =>
      obtain ⟨rfl, -⟩ := cons.inj shared
      have := congrArg length starts
      simp [source] at this inside
      omega
  · cases more with
    | nil => cases shared
    | cons piece more =>
      obtain ⟨rfl, -⟩ := cons.inj shared
      simp [source] at starts

/-- Whether the run stays is the check of its candidate. -/
theorem Candidate.stays_iff {candidate} (found : Candidate before run after candidate) (some_digit : run ≠ []) :
    Stays before run after ↔ luhnValid candidate = false := by
  obtain ⟨left, earlier, later, right, rfl, found, wholeLeft, wholeRight⟩ := found
  obtain ⟨left', right', sameLeft, sameRight, whole⟩ := found.mark luhnValid
  rw [← sameLeft] at wholeLeft
  rw [← sameRight] at wholeRight
  have whole := (segments_eq_markClass (before ++ run ++ after)).trans whole
  cases valid : luhnValid (earlier ++ (run ++ later)) with
  | false =>
    refine iff_of_true ⟨left' ++ earlier.map .kept, later.map .kept ++ right', whole.trans ?_, ?_, ?_⟩ rfl
    · simp [valid]
    · simpa using wholeLeft
    · simpa using wholeRight
  | true =>
    refine iff_of_false ?_ (by simp)
    rintro ⟨first, last, same, starts, -⟩
    rw [whole, valid] at same
    exact kept_ne_hidden same (starts.trans wholeLeft.symm) some_digit (by simp)

end OneVoice.Security
