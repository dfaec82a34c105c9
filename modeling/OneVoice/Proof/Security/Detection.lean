import OneVoice.Construction.Security.Pii

/-!
The detector looks at the first match of each class and the redaction at all of them, so that the two
agree unless only a later card number is a valid one.
-/

namespace OneVoice.Security

open Library

/-- No class matches the empty text. -/
theorem consumes_piiClasses : ∀ c ∈ piiClasses, c.pattern.consumes := by
  decide +kernel

/-- No match of a class has the bracket that opens the token. -/
theorem avoids_piiClasses : ∀ c ∈ piiClasses, c.pattern.avoids (.rune '[') := by
  decide +kernel

/-- The matches of a class in a text, from the left. -/
def candidates (c : PiiClass) (s : Text) : List Text := c.pattern.findAll word s

/-- A match that fails its check is written back. -/
theorem redactMatch_nil (c : PiiClass) (found : Text) :
    redactMatch c [] found = if c.valid found then redactionToken else found := by
  cases valid : c.valid found <;> simp [redactMatch, valid]

/-- One class of the redaction. -/
def pass (s : Text) (c : PiiClass) : Text := c.pattern.replaceAll word (redactMatch c []) s

/-- The redaction runs the classes in turn. -/
theorem redactPII_eq_foldl (s : Text) : redactPII s = piiClasses.foldl pass s := rfl

variable {c : PiiClass}

/-- A match stays as it is, or its replacement adds a bracket. -/
theorem redactMatch_eq_or_count_lt (member : c ∈ piiClasses) {s used}
    (found : used ∈ candidates c s) : c.valid used = false ∧ redactMatch c [] used = used ∨
      used.count (.rune '[') < (redactMatch c [] used).count (.rune '[') := by
  rw [redactMatch_nil]
  cases valid : c.valid used with
  | false => exact .inl ⟨rfl, rfl⟩
  | true =>
    right
    have splits := Regex.splits_split word (consumes_piiClasses c member) none s
    obtain ⟨_, _, _, taken⟩ := splits.matches_found (Regex.mem_findAll.mp found)
    rw [List.count_eq_zero.mpr (taken.not_mem (avoids_piiClasses c member)), if_pos rfl]
    decide

/-- A class without a valid match changes nothing. -/
theorem pass_eq_self (member : c ∈ piiClasses) {s}
    (invalid : ∀ used ∈ candidates c s, c.valid used = false) : pass s c = s := by
  apply Regex.replaceAll_eq_self (consumes_piiClasses c member)
  intro used found
  rw [redactMatch_nil, invalid used found]
  rfl

/-- A class with a valid match adds brackets to the text. -/
theorem count_lt_pass (member : c ∈ piiClasses) {s used} (found : used ∈ candidates c s)
    (valid : c.valid used) : s.count (.rune '[') < (pass s c).count (.rune '[') := by
  have kept_or_more := fun used found => @redactMatch_eq_or_count_lt c member s used found
  apply Regex.count_lt_replaceAll (consumes_piiClasses c member)
  · exact fun used found => (kept_or_more used found).imp_left And.right
  · refine ⟨used, found, fun same => ?_⟩
    rcases kept_or_more used found with ⟨invalid, -⟩ | more
    · simp [valid] at invalid
    · rw [same] at more
      exact Nat.lt_irrefl _ more

/-- The brackets measure the progress of a class. -/
theorem pass_eq_self_or_count_lt (member : c ∈ piiClasses) (s : Text) :
    pass s c = s ∨ s.count (.rune '[') < (pass s c).count (.rune '[') := by
  by_cases valid : ∃ used ∈ candidates c s, c.valid used
  · obtain ⟨used, found, valid⟩ := valid
    exact .inr (count_lt_pass member found valid)
  · refine .inl (pass_eq_self member fun used found => Bool.eq_false_iff.mpr fun passes => ?_)
    exact valid ⟨used, found, passes⟩

/-- The redaction keeps a text just where no class has a valid match. -/
theorem redactPII_eq_self_iff (s : Text) :
    redactPII s = s ↔ ∀ c ∈ piiClasses, ∀ used ∈ candidates c s, c.valid used = false := by
  rw [redactPII_eq_foldl, foldl_eq_self_iff fun c member value => pass_eq_self_or_count_lt member value]
  constructor
  · intro each c member used found
    by_contra valid
    have more := count_lt_pass member found (by simpa using valid)
    rw [each c member] at more
    exact Nat.lt_irrefl _ more
  · exact fun invalid c member => pass_eq_self member (invalid c member)

/-- The detector reports a class whose first match is valid. -/
theorem containsPII_iff (s : Text) : containsPII s = true ↔
    ∃ c ∈ piiClasses, ∃ used, (candidates c s).head? = some used ∧ c.valid used := by
  rw [containsPII, containsPIIClass, List.findSome?_isSome_iff]
  refine exists_congr fun c => and_congr_right fun _ => ?_
  rw [Regex.find, candidates]
  cases (c.pattern.findAll word s).head? with
  | none => simp
  | some used => cases valid : c.valid used <;> simp

/-- The one class with a check. -/
def creditCard : PiiClass := ⟨.cc, reCreditCard, some luhnValid⟩

/-- The other classes accept each of their matches. -/
theorem plain_or_creditCard : ∀ c ∈ piiClasses, c.name ≠ .cc ∧ (∀ used, c.valid used = true) ∨ c = creditCard := by
  simp [piiClasses, creditCard, PiiClass.valid]

/-- The first card number fails the check, a later one passes. -/
def OnlyLaterCard (s : Text) : Prop :=
  (∀ c ∈ piiClasses, c.name ≠ .cc → candidates c s = []) ∧
    ∃ first later, candidates creditCard s = first :: later ∧ luhnValid first = false ∧
      ∃ card ∈ later, luhnValid card

/-- The redaction changes a text with a valid match of some class. -/
theorem redactPII_ne_self_iff (s : Text) :
    redactPII s ≠ s ↔ ∃ c ∈ piiClasses, ∃ used ∈ candidates c s, c.valid used := by
  rw [Ne, redactPII_eq_self_iff]
  simp

/-- What is reported is redacted. -/
theorem redactPII_ne_self_of_containsPII {s} (reported : containsPII s = true) : redactPII s ≠ s := by
  obtain ⟨c, member, used, first, valid⟩ := (containsPII_iff s).mp reported
  exact (redactPII_ne_self_iff s).mpr ⟨c, member, used, List.mem_of_mem_head? first, valid⟩

/-- A class without a check has no match in a text that is not reported. -/
theorem candidates_eq_nil {s} (silent : ¬ containsPII s = true) (member : c ∈ piiClasses)
    (always : ∀ used, c.valid used = true) : candidates c s = [] := by
  cases found : candidates c s with
  | nil => rfl
  | cons first later =>
    refine absurd ((containsPII_iff s).mpr ⟨c, member, first, ?_, always first⟩) silent
    rw [found]
    rfl

/-- A text that is redacted and not reported has only a later card number. -/
theorem onlyLaterCard_of_silent {s} (silent : ¬ containsPII s = true)
    (changed : redactPII s ≠ s) : OnlyLaterCard s := by
  obtain ⟨c, member, used, found, valid⟩ := (redactPII_ne_self_iff s).mp changed
  rcases plain_or_creditCard c member with ⟨-, always⟩ | rfl
  · rw [candidates_eq_nil silent member always] at found
    cases found
  refine ⟨fun other isClass named => ?_, ?_⟩
  · rcases plain_or_creditCard other isClass with ⟨-, always⟩ | rfl
    · exact candidates_eq_nil silent isClass always
    · exact absurd rfl named
  · cases all : candidates creditCard s with
    | nil =>
      rw [all] at found
      cases found
    | cons first later =>
      have invalid : luhnValid first = false := by
        by_contra passes
        refine silent ((containsPII_iff s).mpr ⟨creditCard, member, first, by rw [all]; rfl, ?_⟩)
        simpa [creditCard, PiiClass.valid] using passes
      refine ⟨first, later, rfl, invalid, used, ?_, valid⟩
      rw [all] at found
      refine (List.mem_cons.mp found).resolve_left fun same => ?_
      subst same
      exact absurd valid (by simp [creditCard, PiiClass.valid, invalid])

/-- The detector stops at the first card number. -/
theorem OnlyLaterCard.silent {s} (only : OnlyLaterCard s) : ¬ containsPII s = true := by
  obtain ⟨others, first, later, all, invalid, -⟩ := only
  intro reported
  obtain ⟨c, member, used, head, valid⟩ := (containsPII_iff s).mp reported
  rcases plain_or_creditCard c member with ⟨named, -⟩ | rfl
  · rw [others c member named] at head
    cases head
  · rw [all] at head
    obtain rfl := Option.some.inj head
    exact absurd valid (by simp [creditCard, PiiClass.valid, invalid])

/-- The redaction reaches the later card number. -/
theorem OnlyLaterCard.changed {s} (only : OnlyLaterCard s) : redactPII s ≠ s := by
  obtain ⟨-, first, later, all, -, card, isLater, valid⟩ := only
  refine (redactPII_ne_self_iff s).mpr ⟨creditCard, by simp [piiClasses, creditCard], card, ?_, valid⟩
  rw [all]
  exact List.mem_cons_of_mem first isLater

/-- They disagree on a valid card number after a failing one. -/
theorem detection_agrees_iff (s : Text) : (containsPII s = true ↔ redactPII s ≠ s) ↔ ¬ OnlyLaterCard s := by
  constructor
  · intro agree only
    exact only.silent (agree.mpr only.changed)
  · intro covered
    refine ⟨redactPII_ne_self_of_containsPII, fun changed => ?_⟩
    by_contra silent
    exact covered (onlyLaterCard_of_silent silent changed)

/-- Two card numbers, of which the second alone passes the check. -/
theorem later_card_not_detected :
    containsPII (text "1111111111111,4222222222222") = false ∧
      redactPII (text "1111111111111,4222222222222") ≠ text "1111111111111,4222222222222" := by
  decide +kernel

end OneVoice.Security
