import OneVoice.Library.Anchored
import OneVoice.Proof.Security.Detection

/-!
The redaction leaves nothing to redact, apart from a phone number that ends directly before a number
it has hidden.
-/

namespace OneVoice.Security

open Library Regex Piece List

/-- The token, cut at its brackets. -/
def placeholder : Placeholder Symbol := ⟨.rune '[', text "Скрыто", .rune ']'⟩

/-- The token is the text of the placeholder. -/
theorem redactionToken_eq : redactionToken = placeholder.text := by
  decide +kernel

/-- No match of a class reaches into a token. -/
theorem keepsOut_piiClasses : ∀ c ∈ piiClasses, KeepsOut word placeholder c.pattern := by
  have closing : ∀ c ∈ piiClasses, c.pattern.avoids (.rune ']') := by
    decide +kernel
  have body : ∀ c ∈ piiClasses, quiet word c.pattern (some (.rune '[')) (text "Скрыто") := by
    decide +kernel
  intro c member
  exact ⟨consumes_piiClasses c member, avoids_piiClasses c member, closing c member, body c member,
    by decide, by decide⟩

variable (pieces : List (Piece Symbol)) (char : Char)

/-- The matches of one class, hidden. -/
def markClass (c : PiiClass) : List (Piece Symbol) := mark word c.pattern c.valid pieces

/-- The parts of a text that the classes hide in turn, and the rest. -/
def segments (s : Text) : List (Piece Symbol) := piiClasses.foldl markClass (s.map .kept)

/-- One class on a text with tokens hides pieces. -/
theorem pass_render {c} (member : c ∈ piiClasses) (pieces : List (Piece Symbol)) :
    pass (render placeholder.text pieces) c = render placeholder.text (markClass pieces c) := by
  have same : redactMatch c [] = fun used => if c.valid used then placeholder.text else used := by
    funext used
    rw [redactMatch_nil, redactionToken_eq]
  rw [pass, same]
  exact replaceAll_render c.valid (keepsOut_piiClasses c member) pieces

/-- All classes on a text with tokens hide pieces. -/
theorem redactPII_render :
    redactPII (render placeholder.text pieces) = render placeholder.text (piiClasses.foldl markClass pieces) := by
  rw [redactPII_eq_foldl]
  have each : ∀ c ∈ piiClasses, _ := fun c member pieces => @pass_render c member pieces
  generalize piiClasses = classes at each
  induction classes generalizing pieces with
  | nil => rfl
  | cons c classes ih =>
    rw [foldl_cons, each c mem_cons_self]
    exact ih _ fun other member => each other (.tail c member)

/-- The redacted text shows the segments. -/
theorem redactPII_eq_render (s : Text) : redactPII s = render placeholder.text (segments s) := by
  rw [segments, ← redactPII_render, render_map_kept]

/-- A valid match of some class. -/
def Personal (used : Text) : Prop :=
  ∃ c ∈ piiClasses, c.valid used ∧ ∃ before after, Matches word c.pattern before used after

/-- Parts of the text are replaced, each a valid match of a class, and the rest stays in place. -/
theorem redaction_replaces_matches (s : Text) : ∃ pieces, pieces.flatMap source = s ∧
    redactPII s = render redactionToken pieces ∧ ∀ used, .hidden used ∈ pieces → Personal used := by
  refine ⟨segments s, ?_, by rw [redactPII_eq_render, redactionToken_eq], ?_⟩
  · refine foldlRecOn (motive := (flatMap source · = s)) _ _ (source_map_kept s) ?_
    intro pieces same c member
    exact (source_mark (consumes_piiClasses c member) c.valid pieces).trans same
  · refine foldlRecOn (motive := fun pieces => ∀ used, hidden used ∈ pieces → Personal used) _ _ ?_ ?_
    · simp
    · intro pieces earlier c member used hides
      rcases hidden_of_mark (consumes_piiClasses c member) hides with old | new
      · exact earlier used old
      · exact ⟨c, member, new⟩

section Anchors

variable {accepts : Char → Bool} {value : Bool}

/-- A character class starts with word characters if it has no others. -/
theorem starts_class (all : ∀ char, accepts char → isWord char = value) :
    Starts (word · = value) (Pattern.class_ accepts) := by
  intro symbol accepted
  cases symbol with
  | raw byte => cases accepted
  | rune char => exact all char accepted

/-- A character class ends as it starts. -/
theorem ends_class (all : ∀ char, accepts char → isWord char = value) :
    Ends (word · = value) (Pattern.class_ accepts) := starts_class all

/-- A digit is a word character. -/
theorem isWord_of_isDigit (isDigit : char.isDigit) : isWord char = true := by
  simp [isWord, Char.isAlphanum, isDigit]

/-- A capital letter is a word character. -/
theorem isWord_of_isUpper (isUpper : char.isUpper) : isWord char = true := by
  change (char.isUpper || char.isLower || char.isDigit || decide (char = '_')) = true
  rw [isUpper]
  rfl

/-- The class of the account numbers has word characters only. -/
theorem isWord_of_isUpperOrDigit (accepted : isUpperOrDigit char) : isWord char = true :=
  (Bool.or_eq_true_iff.mp accepted).elim (isWord_of_isUpper char) (isWord_of_isDigit char)

/-- A listed class is of the kind that all its characters have. -/
theorem isWord_of_among {chars} (all : (chars.all fun char => isWord char == value) = true)
    (char : Char) (accepted : Pattern.among chars char) : isWord char = value :=
  eq_of_beq (all_eq_true.mp all char (of_decide_eq_true accepted))

/-- Digits before a pattern that ends in a word character do not change that. -/
theorem ends_digits {next} (ends : Ends (word · = true) next) (count : Nat) :
    Ends (word · = true) (Pattern.digits count next) :=
  ends_times ends (.inr (ends_class isWord_of_isDigit)) count

/-- Account numbers stand between word boundaries. -/
theorem anchored_reIBAN : Anchored word reIBAN := by
  have opens : Opens word reIBAN := .of_bound rfl ⟨starts_class isWord_of_isUpper, .inl rfl⟩
  refine opens.anchored rfl ⟨?_, .inl rfl⟩ rfl
  refine ends_times (ends_digits (ends_times ?_ ?_ 11) 2) ?_ 2
  · exact ⟨trivial, .inr (ends_upTo (ends_class isWord_of_isUpperOrDigit) 19)⟩
  · exact .inr (ends_class isWord_of_isUpperOrDigit)
  · exact .inr (ends_class isWord_of_isUpper)

/-- Passport numbers stand between word boundaries. -/
theorem anchored_rePassportRU : Anchored word rePassportRU := by
  have opens : Opens word rePassportRU := by
    refine .alt (.seq (.of_boundFree rfl ⟨?_, ?_⟩ rfl) rfl) (.of_bound rfl ?_)
    · exact ⟨starts_class (isWord_of_among rfl), .inl rfl⟩
    · exact ⟨starts_class (isWord_of_among rfl), .inl rfl⟩
    · exact ⟨starts_class isWord_of_isDigit, .inl rfl⟩
  refine opens.anchored rfl ⟨⟨⟨?_, .inl rfl⟩, .inl rfl⟩, ⟨?_, .inl rfl⟩⟩ rfl
  · refine ends_digits ?_ 4
    exact ⟨ends_digits (show Ends _ .bound from trivial) 6, .inl rfl⟩
  · refine ends_digits ?_ 4
    exact ⟨ends_digits (show Ends _ .bound from trivial) 6, .inl rfl⟩

/-- Tax numbers stand between word boundaries. -/
theorem anchored_reINN : Anchored word reINN := by
  have opens : Opens word reINN := by
    refine .seq (.alt (.of_bound rfl ?_) (.of_boundFree rfl ?_ rfl)) rfl
    · exact ⟨starts_class (isWord_of_among rfl), .inl rfl⟩
    · exact ⟨starts_class (isWord_of_among rfl), .inl rfl⟩
  refine opens.anchored rfl ⟨⟨?_, .inl rfl⟩, .inl rfl⟩ rfl
  refine ends_digits ?_ 10
  exact ⟨trivial, .inr ⟨ends_digits (show Ends _ .empty from trivial) 2, trivial⟩⟩

/-- A card number starts with a digit. -/
theorem starts_reCreditCard : Starts (word · = true) reCreditCard :=
  ⟨trivial, .inr ⟨⟨starts_class isWord_of_isDigit, .inl rfl⟩, .inl rfl⟩⟩

/-- A match of the card pattern has a word character at its head. -/
theorem isWord_head?_reCreditCard {before after used}
    (taken : Matches word reCreditCard before used after) : Regex.isWord word used.head? = true := by
  cases used with
  | nil => exact absurd rfl (taken.ne_nil rfl)
  | cons symbol used => exact taken.starts starts_reCreditCard rfl

/-- Card numbers stand between word boundaries. -/
theorem anchored_reCreditCard : Anchored word reCreditCard := by
  have opens : Opens word reCreditCard := .of_bound rfl ⟨⟨starts_class isWord_of_isDigit, .inl rfl⟩, .inl rfl⟩
  refine opens.anchored rfl ⟨ends_times ?_ (.inl rfl) 12, .inl rfl⟩ rfl
  exact ⟨⟨trivial, .inr (ends_class isWord_of_isDigit)⟩, .inl rfl⟩

end Anchors

/-- A phone number that stays in the text, directly before a hidden part. -/
def GluedPhone (s : Text) : Prop :=
  ∃ left phone used right,
    segments s = left ++ (phone.map .kept ++ .hidden used :: right) ∧ Matches word phoneShape none phone none

variable {guard : Option (Piece Symbol) → Prop} {before : Option Symbol} {used s : Text}

/-- A pattern without a match stays so under classes that bring none back. -/
theorem clear_foldl {other : Pattern} {classes : List PiiClass} (members : ∀ c ∈ classes, c ∈ piiClasses)
    (traced : ∀ c ∈ classes, Traced word guard c.pattern other) {pieces : List (Piece Symbol)}
    (clear : Clear word guard other pieces) : Clear word guard other (classes.foldl markClass pieces) := by
  induction classes generalizing pieces with
  | nil => exact clear
  | cons c classes ih =>
    refine ih (fun other member => members other (.tail c member))
      (fun other member => traced other (.tail c member)) ?_
    have uses := consumes_piiClasses c (members c mem_cons_self)
    exact (traced c mem_cons_self).clear (marks_mark uses c.valid pieces) clear

/-- What a class hid does not return if no later class brings it back. -/
theorem clear_segments {c : PiiClass} {earlier later : List PiiClass}
    (order : piiClasses = earlier ++ c :: later) (always : ∀ used, c.valid used = true)
    (traced : ∀ other ∈ c :: later, Traced word guard other.pattern c.pattern) (s : Text) :
    Clear word guard c.pattern (segments s) := by
  have members : ∀ other ∈ c :: later, other ∈ piiClasses := by
    intro other member
    rw [order]
    exact mem_append_right earlier member
  rw [segments, order, foldl_append, foldl_cons]
  apply clear_foldl
  · exact fun other member => members other (.tail c member)
  · exact fun other member => traced other (.tail c member)
  · have uses := consumes_piiClasses c (members c mem_cons_self)
    exact (traced c mem_cons_self).clear_mark uses always _

/-- No mail address is left. -/
theorem clear_reEmail (s : Text) : Clear word (fun _ => True) reEmail (segments s) :=
  @clear_segments _ ⟨.email, reEmail, none⟩ [] _ rfl (fun _ => rfl)
    (fun other _ => traced_of_boundFree other.pattern rfl rfl) s

/-- The phone pattern does not look at the text before it. -/
theorem rePhoneRU_beforeFree {before' after} (taken : Matches word rePhoneRU before used after) :
    Matches word rePhoneRU before' used after := by
  obtain ⟨left, right, rfl, shape, rfl, apart⟩ := taken
  refine ⟨left, [], rfl, shape.of_boundFree rfl, rfl, ?_⟩
  cases last : left.getLast? with
  | none => exact absurd (getLast?_eq_none_iff.mp last) (shape.ne_nil rfl)
  | some symbol => simpa [last] using apart

/-- No phone number is left before a character that is shown. -/
theorem clear_rePhoneRU (s : Text) : Clear word Shown rePhoneRU (segments s) :=
  @clear_segments _ ⟨.phone, rePhoneRU, none⟩ (piiClasses.take 1) _ rfl (fun _ => rfl)
    (fun other _ => traced_of_beforeFree other.pattern rfl rePhoneRU_beforeFree) s

/-- The classes after the phone numbers stand between word boundaries. -/
theorem anchored_after_phone : ∀ c ∈ piiClasses.drop 2, Anchored word c.pattern := by
  simp only [piiClasses, drop_succ_cons, drop_zero, forall_mem_cons]
  exact ⟨anchored_reIBAN, anchored_rePassportRU, anchored_reINN, anchored_reCreditCard, forall_mem_nil _⟩

/-- No match of a class without a check is left behind the phone numbers. -/
theorem clear_of_anchored {c earlier later}
    (order : piiClasses.drop 2 = earlier ++ c :: later) (always : ∀ used, c.valid used = true)
    (s : Text) : Clear word (fun _ => True) c.pattern (segments s) := by
  have whole : piiClasses = piiClasses.take 2 ++ earlier ++ c :: later := by
    rw [append_assoc, ← order, take_append_drop]
  have anchored : ∀ other ∈ c :: later, Anchored word other.pattern := by
    intro other member
    apply anchored_after_phone
    rw [order]
    exact mem_append_right earlier member
  refine clear_segments whole always (fun other member => ?_) s
  exact (anchored other member).traced (anchored c mem_cons_self)

/-- A phone number ends with a digit. -/
theorem ends_phoneShape : Ends (word · = true) phoneShape := by
  refine ⟨⟨ends_digits ?_ 3, .inl rfl⟩, .inl rfl⟩
  refine ⟨ends_digits ?_ 3, .inl rfl⟩
  refine ⟨ends_digits ?_ 2, .inl rfl⟩
  refine ⟨ends_digits ?_ 1, .inl rfl⟩
  exact ends_class isWord_of_isDigit

/-- A hidden part ends the phone number before it. -/
theorem rePhoneRU_of_shape {phone} (shape : Matches word phoneShape none phone none) :
    Matches word rePhoneRU before phone none := by
  refine ⟨phone, [], (append_nil phone).symm, shape.of_boundFree rfl, rfl, ?_⟩
  cases last : phone.getLast? with
  | none => exact absurd (getLast?_eq_none_iff.mp last) (shape.ne_nil rfl)
  | some symbol =>
    have isLast : word symbol = true := shape.ends ends_phoneShape last
    change (word symbol != false) = true
    rw [isLast]
    rfl

/-- The matches in the redacted text are runs of shown characters. -/
theorem mem_candidates_redactPII {c} (member : c ∈ piiClasses) :
    used ∈ candidates c (redactPII s) ↔ used.map .kept ∈ findAll (test word) c.pattern.lift (segments s) := by
  rw [redactPII_eq_render]
  exact mem_findAll_render (keepsOut_piiClasses c member)

/-- A glued phone number is matched again. -/
theorem GluedPhone.candidate (glued : GluedPhone s) :
    ∃ used, used ∈ candidates ⟨.phone, rePhoneRU, none⟩ (redactPII s) := by
  obtain ⟨left, phone, hidden, right, whole, shape⟩ := glued
  obtain ⟨_, used, _, ⟨earlier, later, found, -⟩, -⟩ := @exists_foundAt _ word rePhoneRU phone rfl
    left (.hidden hidden :: right) (rePhoneRU_of_shape shape)
  rw [← whole] at found
  exact ⟨used, (mem_candidates_redactPII (by simp [piiClasses])).mpr (mem_findAll.mpr (by simp [found]))⟩

/-- A pattern that is cleared is not found. -/
theorem not_mem_of_clear {regex} (uses : consumes regex) (clear : Clear word (fun _ => True) regex (segments s)) :
    used.map .kept ∉ findAll (test word) regex.lift (segments s) := by
  intro found
  obtain ⟨left, right, whole, fits⟩ := exists_of_mem_findAll uses found
  exact clear left used right whole trivial fits

/-- A phone number that is found again is glued. -/
theorem gluedPhone_of_found (found : used.map .kept ∈ findAll (test word) rePhoneRU.lift (segments s)) :
    GluedPhone s := by
  obtain ⟨left, right, whole, fits⟩ := exists_of_mem_findAll rfl found
  have covered : ¬ Shown right.head? := fun shown => clear_rePhoneRU s left used right whole shown fits
  obtain ⟨hidden, isHidden⟩ : ∃ hidden, right.head? = some (.hidden hidden) := by
    simpa [Shown] using covered
  obtain ⟨phone, last, rfl, shape, rfl, -⟩ := fits
  cases right with
  | nil => cases isHidden
  | cons piece right =>
    obtain rfl := Option.some.inj isHidden
    refine ⟨left, phone, hidden, right, ?_, shape.of_boundFree rfl⟩
    rw [whole, append_nil]

/-- What the classes before the card numbers leave of a text. -/
def beforeCards (s : Text) : List (Piece Symbol) := (piiClasses.take 5).foldl markClass (s.map .kept)

/-- The card numbers come last. -/
theorem segments_eq_markClass (s : Text) : segments s = markClass (beforeCards s) creditCard := by
  have order : piiClasses = piiClasses.take 5 ++ [creditCard] := rfl
  rw [segments, congrArg (foldl markClass (s.map .kept)) order, foldl_append, foldl_cons, foldl_nil]
  rfl

/-- A card number that is left fails the check. -/
theorem card_settled (found : used.map .kept ∈ findAll (test word) reCreditCard.lift (segments s)) :
    creditCard.valid used = false := by
  rw [segments_eq_markClass] at found
  exact mark_settled anchored_reCreditCard isWord_head?_reCreditCard rfl creditCard.valid _ found

/-- The second redaction finds the glued phone numbers and nothing else. -/
theorem redactPII_twice_iff (s : Text) : redactPII (redactPII s) = redactPII s ↔ ¬ GluedPhone s := by
  rw [redactPII_eq_self_iff]
  constructor
  · intro invalid glued
    obtain ⟨used, found⟩ := glued.candidate
    have fails : true = false := invalid _ (by simp [piiClasses]) used found
    cases fails
  · intro apart c member used found
    rw [mem_candidates_redactPII member] at found
    simp only [piiClasses, mem_cons, not_mem_nil, or_false] at member
    rcases member with rfl | rfl | rfl | rfl | rfl | rfl
    · exact absurd found (not_mem_of_clear rfl (clear_reEmail s))
    · exact absurd (gluedPhone_of_found found) apart
    · exact absurd found (not_mem_of_clear rfl (@clear_of_anchored _ [] _ rfl (fun _ => rfl) s))
    · exact absurd found (not_mem_of_clear rfl (@clear_of_anchored _ [_] _ rfl (fun _ => rfl) s))
    · exact absurd found (not_mem_of_clear rfl (@clear_of_anchored _ [_, _] _ rfl (fun _ => rfl) s))
    · exact card_settled found

/-- Complete and idempotent just where no phone number is glued. -/
theorem redaction_complete_iff (s : Text) :
    (redactPII (redactPII s) = redactPII s ∧ containsPII (redactPII s) = false) ↔ ¬ GluedPhone s := by
  rw [← redactPII_twice_iff]
  refine ⟨And.left, fun same => ⟨same, ?_⟩⟩
  by_contra reported
  exact redactPII_ne_self_of_containsPII (Bool.not_eq_false _ ▸ reported) same

/-- Two phone numbers without a character between them. -/
theorem phone_before_phone_left :
    redactPII (redactPII (text "8495123456784951234567")) ≠ redactPII (text "8495123456784951234567") ∧
      containsPII (redactPII (text "8495123456784951234567")) = true := by
  decide +kernel

end OneVoice.Security
