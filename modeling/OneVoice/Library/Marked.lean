import OneVoice.Library.Regex

/-!
Texts in which some parts are hidden. A hidden part is one letter that no test accepts and that is no
word letter, so that matching and hiding go on over such a text as over any other. Shown with a
placeholder that no pattern can enter, it is the text in which the matches were replaced.
-/

namespace OneVoice.Library

open List

inductive Piece (α : Type) where
  | kept (letter : α)
  | hidden (used : List α)

namespace Piece

variable {α : Type}

def letter? : Piece α → Option α
  | .kept letter => some letter
  | .hidden _ => none

def test (test : α → Bool) (piece : Piece α) : Bool := piece.letter?.any test

@[simp] theorem test_kept (passes : α → Bool) (letter : α) : test passes (.kept letter) = passes letter := rfl

@[simp] theorem test_hidden (passes : α → Bool) (used : List α) : test passes (.hidden used) = false := rfl

def source : Piece α → List α
  | .kept letter => [letter]
  | .hidden used => used

def show_ (shown : List α) : Piece α → List α
  | .kept letter => [letter]
  | .hidden _ => shown

def render (shown : List α) (pieces : List (Piece α)) : List α := pieces.flatMap (show_ shown)

@[simp] theorem render_nil (shown : List α) : render shown [] = [] := rfl

@[simp] theorem render_kept (shown : List α) (letter : α) (pieces : List (Piece α)) :
    render shown (.kept letter :: pieces) = letter :: render shown pieces := rfl

@[simp] theorem render_hidden (shown used : List α) (pieces : List (Piece α)) :
    render shown (.hidden used :: pieces) = shown ++ render shown pieces := rfl

@[simp] theorem render_append (shown : List α) (left right : List (Piece α)) :
    render shown (left ++ right) = render shown left ++ render shown right :=
  flatMap_append

@[simp] theorem render_map_kept (shown letters : List α) : render shown (letters.map .kept) = letters := by
  induction letters with
  | nil => rfl
  | cons letter letters ih => rw [map_cons, render_kept, ih]

@[simp] theorem source_map_kept (letters : List α) : (letters.map .kept).flatMap source = letters := by
  induction letters with
  | nil => rfl
  | cons letter letters ih => rw [map_cons, flatMap_cons, ih, source, singleton_append]

end Piece

/-- The text for a hidden part, with its first and last letter. -/
structure Placeholder (α : Type) where
  opening : α
  body : List α
  closing : α

def Placeholder.text {α : Type} (holder : Placeholder α) : List α :=
  holder.opening :: (holder.body ++ [holder.closing])

namespace Regex

open Piece

variable {α : Type}

def lift : Regex α → Regex (Piece α)
  | .empty => .empty
  | .one test => .one (Piece.test test)
  | .star test => .star (Piece.test test)
  | .seq first second => .seq (lift first) (lift second)
  | .alt first second => .alt (lift first) (lift second)
  | .bound => .bound

theorem consumes_lift (regex : Regex α) : regex.lift.consumes = regex.consumes := by
  induction regex with
  | empty | one _ | star _ | bound => rfl
  | seq first second ihFirst ihSecond | alt first second ihFirst ihSecond =>
    simp only [lift, consumes, ihFirst, ihSecond]

variable {word : α → Bool}

theorem isWord_lift (piece : Option (Piece α)) :
    isWord (test word) piece = isWord word (piece.bind letter?) := by
  cases piece <;> rfl

variable {regex : Regex α}

/-- A match of the lifted expression has kept letters only. -/
theorem Matches.kept {before after used} (taken : Matches (Piece.test word) regex.lift before used after) :
    ∃ letters, used = letters.map .kept ∧
      Matches word regex (before.bind letter?) letters (after.bind letter?) := by
  induction regex generalizing before used after with
  | empty => exact ⟨[], taken, rfl⟩
  | bound =>
    refine ⟨[], taken.1, rfl, ?_⟩
    rw [edge, ← isWord_lift, ← isWord_lift]
    exact taken.2
  | one test =>
    obtain ⟨piece, rfl, passes⟩ := taken
    cases piece with
    | kept letter => exact ⟨[letter], rfl, letter, rfl, passes⟩
    | hidden used => cases passes
  | star test =>
    induction used with
    | nil => exact ⟨[], rfl, forall_mem_nil _⟩
    | cons piece used ih =>
      obtain ⟨letters, rfl, passes⟩ := ih fun other member => taken other (.tail piece member)
      have first := taken piece mem_cons_self
      cases piece with
      | kept letter => exact ⟨letter :: letters, rfl, forall_mem_cons.mpr ⟨first, passes⟩⟩
      | hidden used => cases first
  | alt first second ihFirst ihSecond =>
    rcases taken with taken | taken
    · obtain ⟨letters, rfl, fits⟩ := ihFirst taken
      exact ⟨letters, rfl, .inl fits⟩
    · obtain ⟨letters, rfl, fits⟩ := ihSecond taken
      exact ⟨letters, rfl, .inr fits⟩
  | seq first second ihFirst ihSecond =>
    obtain ⟨left, right, rfl, matchesFirst, matchesSecond⟩ := taken
    obtain ⟨lettersFirst, rfl, fitsFirst⟩ := ihFirst matchesFirst
    obtain ⟨lettersSecond, rfl, fitsSecond⟩ := ihSecond matchesSecond
    refine ⟨lettersFirst ++ lettersSecond, map_append.symm, lettersFirst, lettersSecond, rfl,
      fitsFirst.congr rfl ?_, fitsSecond.congr ?_ rfl⟩
    · cases lettersSecond <;> rfl
    · rw [getLast?_map]
      cases lettersFirst.getLast? <;> rfl

theorem Matches.lift {before after letters}
    (taken : Matches word regex (before.bind letter?) letters (after.bind letter?)) :
    Matches (test word) regex.lift before (letters.map .kept) after := by
  induction regex generalizing before letters after with
  | empty => exact congrArg (map Piece.kept) taken
  | bound =>
    obtain ⟨rfl, apart⟩ := taken
    refine ⟨rfl, ?_⟩
    rw [edge, isWord_lift, isWord_lift]
    exact apart
  | one test =>
    obtain ⟨letter, rfl, passes⟩ := taken
    exact ⟨.kept letter, rfl, passes⟩
  | star test =>
    intro piece member
    obtain ⟨letter, isLetter, rfl⟩ := mem_map.mp member
    exact taken letter isLetter
  | alt first second ihFirst ihSecond => exact taken.imp ihFirst ihSecond
  | seq first second ihFirst ihSecond =>
    obtain ⟨left, right, rfl, matchesFirst, matchesSecond⟩ := taken
    refine ⟨left.map .kept, right.map .kept, map_append, ihFirst (matchesFirst.congr rfl ?_),
      ihSecond (matchesSecond.congr ?_ rfl)⟩
    · cases right <;> rfl
    · rw [getLast?_map]
      cases left.getLast? <;> rfl

section Rendering

variable {regex : Regex α} {opening : α} {closing : List α}

/-- A place in the shown text and the same place among the pieces. -/
def SamePlace (word : α → Bool) (shown : List α) (cursor : Cursor α) (pieces : Cursor (Piece α)) : Prop :=
  isWord word cursor.before = isWord (test word) pieces.before ∧ cursor.rest = render shown pieces.rest

theorem isWord_head?_render (outside : word opening = false) (pieces : List (Piece α)) :
    isWord word (render (opening :: closing) pieces).head? = isWord (test word) pieces.head? := by
  cases pieces with
  | nil => rfl
  | cons piece pieces =>
    cases piece with
    | kept letter => rfl
    | hidden used => exact outside

/-- The expression runs over the shown text as it runs over the pieces. -/
theorem run_render (outside : word opening = false) (avoid : avoids opening regex) {cursor pieces}
    (same : SamePlace word (opening :: closing) cursor pieces) :
    List.Forall₂ (SamePlace word (opening :: closing)) (run word regex cursor)
      (run (test word) regex.lift pieces) := by
  induction regex generalizing cursor pieces with
  | empty => exact .cons same .nil
  | bound =>
    have edges : edge word cursor.before cursor.rest.head? =
        edge (test word) pieces.before pieces.rest.head? := by
      rw [edge, edge, same.1, same.2, isWord_head?_render outside]
    simp only [lift, run, edges]
    split
    · exact .cons same .nil
    · exact .nil
  | one test =>
    obtain ⟨before, rest⟩ := cursor
    obtain ⟨beforePiece, restPieces⟩ := pieces
    obtain ⟨-, rfl⟩ : _ ∧ rest = _ := same
    cases restPieces with
    | nil => exact .nil
    | cons piece later =>
      cases piece with
      | kept letter =>
        cases passes : test letter with
        | true =>
          simp only [lift, run, render_kept, test_kept, passes]
          exact .cons ⟨rfl, rfl⟩ .nil
        | false =>
          simp only [lift, run, render_kept, test_kept, passes]
          exact .nil
      | hidden used =>
        have rejects : test opening = false := by simpa [avoids] using avoid
        simp only [run, render_hidden, cons_append, rejects]
        exact .nil
  | star test =>
    obtain ⟨before, rest⟩ := cursor
    obtain ⟨beforePiece, restPieces⟩ := pieces
    obtain ⟨words, rfl⟩ : _ ∧ rest = _ := same
    have rejects : test opening = false := by simpa [avoids] using avoid
    simp only [lift, run]
    induction restPieces generalizing before beforePiece with
    | nil => exact .cons ⟨words, rfl⟩ .nil
    | cons piece later ih =>
      have here : List.Forall₂ (SamePlace word (opening :: closing))
          [⟨before, render (opening :: closing) (piece :: later)⟩]
          [⟨beforePiece, piece :: later⟩] := .cons ⟨words, rfl⟩ .nil
      cases piece with
      | kept letter =>
        cases passes : test letter with
        | true =>
          simp only [render_kept, repeats, test_kept, passes]
          exact rel_append (ih (some letter) (some (.kept letter)) rfl) here
        | false =>
          simp only [render_kept, repeats, test_kept, passes]
          exact here
      | hidden used =>
        simp only [render_hidden, cons_append, repeats, rejects]
        exact here
  | seq first second ihFirst ihSecond =>
    rw [avoids, Bool.and_eq_true] at avoid
    exact rel_flatMap (ihFirst avoid.1 same) fun _ _ reached => ihSecond avoid.2 reached
  | alt first second ihFirst ihSecond =>
    rw [avoids, Bool.and_eq_true] at avoid
    exact rel_append (ihFirst avoid.1 same) (ihSecond avoid.2 same)

theorem first_render (outside : word opening = false) (avoid : avoids opening regex) {before beforePiece}
    (words : isWord word before = isWord (test word) beforePiece) (pieces : List (Piece α)) :
    first word regex ⟨before, render (opening :: closing) pieces⟩ =
      (first (test word) regex.lift ⟨beforePiece, pieces⟩).map (render (opening :: closing)) := by
  have same : SamePlace word (opening :: closing) ⟨before, render (opening :: closing) pieces⟩
      ⟨beforePiece, pieces⟩ := ⟨words, rfl⟩
  have related := run_render outside avoid same
  unfold first
  cases ends : run (test word) regex.lift ⟨beforePiece, pieces⟩ with
  | nil =>
    rw [ends, forall₂_nil_right_iff] at related
    rw [related]
    rfl
  | cons stop stops =>
    rw [ends] at related
    obtain ⟨textStop, textStops, place, -, texts⟩ := forall₂_cons_right_iff.mp related
    obtain ⟨used, whole, -, -⟩ := mem_run.mp (ends ▸ mem_cons_self)
    rw [texts]
    simp only [head?_cons, Option.map_some, place.2, whole]
    simp

/-- No match starts inside of the text, whatever follows it. -/
def Silent (word : α → Bool) (regex : Regex α) : Option α → List α → Prop
  | _, [] => True
  | before, letter :: shown =>
    (∀ rest, first word regex ⟨before, letter :: shown ++ rest⟩ = none) ∧ Silent word regex (some letter) shown

theorem Silent.splits {before shown rest chunks}
    (silent : Silent word regex before shown) (later : Splits word regex (shown.getLast?.or before) rest chunks) :
    Splits word regex before (shown ++ rest) (shown.map .plain ++ chunks) := by
  induction shown generalizing before with
  | nil => exact later
  | cons letter shown ih =>
    refine .plain (silent.1 rest) (ih silent.2 ?_)
    rwa [getLast?_cons_or] at later

theorem first_of_avoids (uses : consumes regex) (avoid : avoids opening regex)
    (before : Option α) (rest : List α) : first word regex ⟨before, opening :: rest⟩ = none := by
  cases taken : first word regex ⟨before, opening :: rest⟩ with
  | none => rfl
  | some used =>
    obtain ⟨after, whole, fits⟩ := first_eq_some taken
    cases used with
    | nil => exact absurd rfl (fits.ne_nil uses)
    | cons head tail =>
      obtain ⟨rfl, -⟩ : opening = head ∧ rest = tail ++ after := cons.inj whole
      exact absurd mem_cons_self (fits.not_mem avoid)

/-- Whether each place of a text is without a match before an unmatched part. -/
def quiet (word : α → Bool) (regex : Regex α) : Option α → List α → Bool
  | _, [] => true
  | before, letter :: body =>
    (first (test word) regex.lift ⟨before.map .kept, (letter :: body).map .kept ++ [.hidden []]⟩).isNone &&
      quiet word regex (some letter) body

theorem silent_of_quiet {last} (uses : consumes regex) (outside : word last = false)
    (avoid : avoids last regex) {before body}
    (still : quiet word regex before body) : Silent word regex before (body ++ [last]) := by
  induction body generalizing before with
  | nil => exact ⟨first_of_avoids uses avoid before, trivial⟩
  | cons letter body ih =>
    rw [quiet, Bool.and_eq_true, Option.isNone_iff_eq_none] at still
    refine ⟨fun rest => ?_, ih still.2⟩
    have words : isWord word before = isWord (test word) (before.map .kept) := by
      cases before <;> rfl
    have shown := @first_render _ word regex last rest outside avoid before _ words
      ((letter :: body).map .kept ++ [.hidden []])
    rw [still.1] at shown
    simpa using shown

/-- No match enters or starts in the placeholder, whose ends are no words. -/
structure KeepsOut (word : α → Bool) (holder : Placeholder α) (regex : Regex α) : Prop where
  uses : consumes regex
  avoidsOpening : avoids holder.opening regex
  avoidsClosing : avoids holder.closing regex
  quietBody : quiet word regex (some holder.opening) holder.body
  opens : word holder.opening = false
  closes : word holder.closing = false

section Marking

variable {holder : Placeholder α}

section

variable (out : KeepsOut word holder regex)

include out

theorem KeepsOut.uses_lift : regex.lift.consumes := (consumes_lift regex).trans out.uses

theorem KeepsOut.first_render {before beforePiece}
    (words : isWord word before = isWord (test word) beforePiece) (pieces : List (Piece α)) :
    first word regex ⟨before, render holder.text pieces⟩ =
      (first (test word) regex.lift ⟨beforePiece, pieces⟩).map (render holder.text) :=
  Regex.first_render out.opens out.avoidsOpening words pieces

theorem KeepsOut.silent (before : Option α) : Silent word regex before holder.text :=
  ⟨fun _ => first_of_avoids out.uses out.avoidsOpening before _,
    silent_of_quiet out.uses out.closes out.avoidsClosing out.quietBody⟩

theorem KeepsOut.isWord_last (before : Option α) : isWord word (holder.text.getLast?.or before) = false := by
  have last : holder.text.getLast? = some holder.closing := by
    rw [Placeholder.text, ← cons_append, getLast?_concat]
  rw [last]
  exact out.closes

end

/-- A chunk of a split, its match hidden where it is valid. -/
def hide (valid : List α → Bool) : Chunk (Piece α) → List (Piece α)
  | .plain piece => [piece]
  | .found used =>
    if valid (used.flatMap source) then [.hidden (used.flatMap source)] else used

def mark (word : α → Bool) (regex : Regex α) (valid : List α → Bool) (pieces : List (Piece α)) : List (Piece α) :=
  (split (test word) regex.lift none 0 pieces).flatMap (hide valid)

/-- Hiding changes no letter of what is hidden. -/
theorem source_hide (valid : List α → Bool) (chunks : List (Chunk (Piece α))) :
    (chunks.flatMap (hide valid)).flatMap source = (chunks.flatMap Chunk.source).flatMap source := by
  rw [flatMap_assoc, flatMap_assoc]
  apply flatMap_congr
  intro chunk _
  cases chunk with
  | plain piece => rfl
  | found used =>
    rw [hide]
    split
    · exact append_nil _
    · rfl

theorem source_mark (uses : consumes regex) (valid : List α → Bool) (pieces : List (Piece α)) :
    (mark word regex valid pieces).flatMap source = pieces.flatMap source := by
  have splits := splits_split (test word) ((consumes_lift regex).trans uses) none pieces
  rw [mark, source_hide, splits.source]

/-- The search finds these letters between the pieces on the left and on the right. -/
def FoundAt (word : α → Bool) (regex : Regex α) (pieces left : List (Piece α)) (letters : List α)
    (right : List (Piece α)) : Prop :=
  ∃ earlier later, split (test word) regex.lift none 0 pieces = earlier ++ .found (letters.map .kept) :: later ∧
    earlier.flatMap Chunk.source = left ∧ later.flatMap Chunk.source = right

/-- A found part is hidden as a whole, or left as a whole. -/
theorem FoundAt.mark {pieces left letters right} (found : FoundAt word regex pieces left letters right)
    (valid : List α → Bool) : ∃ left' right', left'.flatMap source = left.flatMap source ∧
      right'.flatMap source = right.flatMap source ∧ mark word regex valid pieces =
        left' ++ ((if valid letters then [.hidden letters] else letters.map .kept) ++ right') := by
  obtain ⟨earlier, later, whole, rfl, rfl⟩ := found
  refine ⟨_, _, source_hide valid earlier, source_hide valid later, ?_⟩
  rw [Regex.mark, whole, flatMap_append, flatMap_cons, hide, source_map_kept]

/-- A hidden part was hidden before or is a valid match. -/
theorem hidden_of_mark (uses : consumes regex) {valid pieces used}
    (member : .hidden used ∈ mark word regex valid pieces) :
    .hidden used ∈ pieces ∨ valid used = true ∧ ∃ before after, Matches word regex before used after := by
  have splits := splits_split (test word) ((consumes_lift regex).trans uses) none pieces
  obtain ⟨chunk, inside, hides⟩ := mem_flatMap.mp member
  cases chunk with
  | plain piece =>
    rw [← splits.source]
    exact .inl (mem_flatMap.mpr ⟨_, inside, hides⟩)
  | found letters =>
    obtain ⟨_, _, _, taken⟩ := splits.matches_found inside
    obtain ⟨letters, rfl, fits⟩ := taken.kept
    rw [hide, source_map_kept] at hides
    split at hides
    · cases mem_singleton.mp hides
      exact .inr ⟨‹_›, _, _, fits⟩
    · simp at hides

/-- The chunks of the shown text that a chunk of the pieces stands for. -/
def showChunk (shown : List α) : Chunk (Piece α) → List (Chunk α)
  | .plain (.kept letter) => [.plain letter]
  | .plain (.hidden _) => shown.map .plain
  | .found used => [.found (render shown used)]

variable {pieces : List (Piece α)}

theorem Splits.render (out : KeepsOut word holder regex) {before beforePiece chunks}
    (words : isWord word before = isWord (test word) beforePiece)
    (splits : Splits (test word) regex.lift beforePiece pieces chunks) :
    Splits word regex before (render holder.text pieces) (chunks.flatMap (showChunk holder.text)) := by
  induction splits generalizing before with
  | nil => exact .nil
  | @plain beforePiece piece rest chunks none_here _ ih =>
    cases piece with
    | kept letter =>
      have here := out.first_render words (.kept letter :: rest)
      rw [none_here] at here
      exact .plain here (ih rfl)
    | hidden used =>
      exact (out.silent before).splits (ih (out.isWord_last before))
  | @found beforePiece used rest chunks used_some taken _ ih =>
    obtain ⟨right, whole, fits⟩ := first_eq_some taken
    obtain ⟨letters, rfl, -⟩ := fits.kept
    have here := out.first_render words (letters.map .kept ++ rest)
    rw [taken, render_append] at here
    rw [render_append]
    refine .found ?_ here (ih ?_)
    · simpa using used_some
    · rw [render_map_kept, getLast?_map]
      cases letters.getLast? <;> rfl

/-- Replacing valid matches of a shown text hides its pieces. -/
theorem replaceAll_render (valid : List α → Bool) (out : KeepsOut word holder regex) (pieces : List (Piece α)) :
    replaceAll word regex (fun used => if valid used then holder.text else used)
        (render holder.text pieces) = render holder.text (mark word regex valid pieces) := by
  have splits := splits_split (test word) out.uses_lift none pieces
  rw [replaceAll, (splits.render out rfl).eq_split, mark, flatMap_assoc, render, flatMap_assoc]
  apply flatMap_congr
  intro chunk member
  cases chunk with
  | plain piece =>
    cases piece with
    | kept letter => rfl
    | hidden used => simp [showChunk, hide, show_, flatMap_map]
  | found used =>
    obtain ⟨_, _, _, fits⟩ := splits.matches_found member
    obtain ⟨letters, rfl, -⟩ := fits.kept
    simp only [showChunk, hide, render_map_kept, source_map_kept, flatMap_singleton]
    split
    · exact (append_nil _).symm
    · exact (render_map_kept _ letters).symm

/-- The matches of a shown text are those of its pieces. -/
theorem mem_findAll_render (out : KeepsOut word holder regex) {letters} :
    letters ∈ findAll word regex (render holder.text pieces) ↔
      letters.map .kept ∈ findAll (test word) regex.lift pieces := by
  have splits := splits_split (test word) out.uses_lift none pieces
  rw [mem_findAll, mem_findAll, (splits.render out rfl).eq_split, mem_flatMap]
  constructor
  · rintro ⟨chunk, member, shows⟩
    cases chunk with
    | plain piece => cases piece <;> simp [showChunk] at shows
    | found used =>
      obtain ⟨_, _, _, fits⟩ := splits.matches_found member
      obtain ⟨others, rfl, -⟩ := fits.kept
      obtain rfl : letters = others := by simpa [showChunk] using shows
      exact member
  · intro member
    exact ⟨_, member, by simp [showChunk]⟩

end Marking

end Rendering

end Regex

end OneVoice.Library
