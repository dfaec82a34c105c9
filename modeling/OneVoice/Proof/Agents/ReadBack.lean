import OneVoice.Construction.Agents.Yandex

namespace OneVoice.Agents.Yandex

/-- The normal form of a value is a proper part of another's. -/
def WithinProperly (lower : Char → Char) (value other : String) : Prop :=
  normal lower value ≠ "" ∧ ∃ before after, before ++ after ≠ [] ∧
    (normal lower other).toList = before ++ (normal lower value).toList ++ after

/-- A field that has reverted to a different value is refused exactly when the new value is no part of it. -/
theorem reverted_field_unconfirmed_iff (lower : Char → Char) (quote : String → String) (previous new : String) :
    (normal lower previous ≠ normal lower new → confirmFieldSaved lower quote new previous ≠ none) ↔
      ¬ WithinProperly lower new previous := by
  have confirmed : confirmFieldSaved lower quote new previous = none ↔
      normal lower new ≠ "" ∧ (normal lower new).toList <:+: (normal lower previous).toList := by
    simp [confirmFieldSaved, fieldSavedMatches]
  rw [Ne, Ne, confirmed]
  constructor
  · rintro refused ⟨filled, before, after, more, whole⟩
    refine refused ?_ ⟨filled, before, after, whole.symm⟩
    intro same
    rw [same] at whole
    have lengths := congrArg List.length whole
    have longer := List.length_pos_of_ne_nil more
    simp only [List.length_append] at lengths longer
    omega
  · rintro apart differ ⟨filled, before, after, whole⟩
    refine apart ⟨filled, before, after, ?_, whole.symm⟩
    intro none
    obtain ⟨rfl, rfl⟩ := List.append_eq_nil_iff.mp none
    simp only [List.nil_append, List.append_nil] at whole
    exact differ (String.toList_injective whole.symm)

/-- The save was rejected, and the old value that extends the new one passes for it. -/
theorem shortened_field_confirmed : normal Char.toLower "Cafe 24" ≠ normal Char.toLower "Cafe" ∧
    confirmFieldSaved Char.toLower id "Cafe" "Cafe 24" = none := by
  decide

end OneVoice.Agents.Yandex
