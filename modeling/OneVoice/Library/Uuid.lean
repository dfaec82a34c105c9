import Mathlib.Data.List.Basic
import Mathlib.Data.Nat.Bitwise

/-!
The canonical text of a 128-bit identifier, as five groups of hexadecimal digits.
-/

namespace OneVoice.Library

open List

abbrev UUID := BitVec 128

namespace UUID

variable (id : UUID)

/-- The hexadecimal digit at a position, counted from the low end. -/
def nibble (position : Nat) : Nat := (id.toNat >>> (4 * position)) % 16

def digits : List Char := (range 32).map fun position => Nat.digitChar (nibble id (31 - position))

def text : String :=
  let digits := digits id
  String.ofList (digits.take 8 ++ '-' :: (digits.drop 8).take 4 ++ '-' :: (digits.drop 12).take 4 ++
    '-' :: (digits.drop 16).take 4 ++ '-' :: digits.drop 20)

theorem digitChar_inj : ∀ first < 16, ∀ second < 16,
    Nat.digitChar first = Nat.digitChar second → first = second := by
  decide

theorem digitChar_ne : ∀ value < 16, Nat.digitChar value ≠ '-' ∧ Nat.digitChar value ≠ ':' := by
  decide

theorem nibble_lt (position : Nat) : nibble id position < 16 := Nat.mod_lt _ (by decide)

theorem length_digits : (digits id).length = 32 := by
  simp [digits]

theorem ne_of_mem_digits {id char} (member : char ∈ digits id) : char ≠ '-' ∧ char ≠ ':' := by
  obtain ⟨position, _, rfl⟩ := mem_map.mp member
  exact digitChar_ne _ (nibble_lt id _)

/-- The bits of an identifier are the bits of its hexadecimal digits. -/
theorem testBit_nibble (index : Nat) : (nibble id (index / 4)).testBit (index % 4) = id.toNat.testBit index := by
  have inside : index % 4 < 4 := Nat.mod_lt _ (by decide)
  have whole : 4 * (index / 4) + index % 4 = index := Nat.div_add_mod index 4
  rw [nibble, show (16 : Nat) = 2 ^ 4 from rfl, Nat.testBit_mod_two_pow, Nat.testBit_shiftRight,
    whole, decide_eq_true inside, Bool.true_and]

theorem digits_injective {first second} (same : digits first = digits second) : first = second := by
  have nibbles : ∀ position < 32, nibble first position = nibble second position := by
    intro position inside
    have digit : Nat.digitChar (nibble first (31 - (31 - position))) =
        Nat.digitChar (nibble second (31 - (31 - position))) :=
      map_inj_left.mp same _ (mem_range.mpr (by omega))
    rw [show 31 - (31 - position) = position by omega] at digit
    exact digitChar_inj _ (nibble_lt first position) _ (nibble_lt second position) digit
  apply BitVec.eq_of_toNat_eq
  apply Nat.eq_of_testBit_eq
  intro index
  by_cases inside : index < 128
  · rw [← testBit_nibble, ← testBit_nibble, nibbles (index / 4) (by omega)]
  · have above : 128 ≤ index := Nat.le_of_not_gt inside
    rw [Nat.testBit_lt_two_pow (lt_of_lt_of_le first.isLt (Nat.pow_le_pow_right (by decide) above)),
      Nat.testBit_lt_two_pow (lt_of_lt_of_le second.isLt (Nat.pow_le_pow_right (by decide) above))]

/-- The dashes carry no information. -/
theorem filter_text : (text id).toList.filter (fun char => char ≠ '-') = digits id := by
  have kept : ∀ part : List Char, (∀ char ∈ part, char ∈ digits id) →
      part.filter (fun char => char ≠ '-') = part := by
    intro part inside
    apply filter_eq_self.mpr
    intro char member
    simpa using (ne_of_mem_digits (inside char member)).1
  have taken : ∀ start count, ((digits id).drop start |>.take count).filter
      (fun char => char ≠ '-') = ((digits id).drop start).take count := by
    intro start count
    apply kept
    intro char member
    exact mem_of_mem_drop (mem_of_mem_take member)
  have whole : digits id = (digits id).take 8 ++ (((digits id).drop 8).take 4 ++
      (((digits id).drop 12).take 4 ++ (((digits id).drop 16).take 4 ++ (digits id).drop 20))) := by
    have joined : ∀ start count, ((digits id).drop start).take count ++
        (digits id).drop (start + count) = (digits id).drop start := by
      intro start count
      rw [← drop_drop]
      exact take_append_drop count _
    rw [joined 16 4, joined 12 4, joined 8 4, take_append_drop]
  have first := kept ((digits id).take 8) fun char member => mem_of_mem_take member
  have last := kept ((digits id).drop 20) fun char member => mem_of_mem_drop member
  simp only [text, String.toList_ofList, filter_append, filter_cons]
  rw [first, last, taken, taken, taken]
  exact whole.symm

theorem text_injective {first second} (same : text first = text second) : first = second := by
  apply digits_injective
  rw [← filter_text first, ← filter_text second, same]

theorem length_text : (text id).toList.length = 36 := by
  simp [text, length_digits]

theorem colon_notMem_text : ':' ∉ (text id).toList := by
  intro member
  have kept : ':' ∈ (text id).toList.filter (fun char => char ≠ '-') := mem_filter.mpr ⟨member, by decide⟩
  rw [filter_text] at kept
  exact (ne_of_mem_digits kept).2 rfl

end UUID

end OneVoice.Library
