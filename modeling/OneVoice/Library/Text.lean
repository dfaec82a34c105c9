import Mathlib.Algebra.Ring.Int.Defs
import Mathlib.Algebra.Ring.Nat
import Mathlib.Data.List.Basic
import Mathlib.Data.List.TakeWhile

/-! Texts cut at a separator, case mappings, and signed 64-bit integers with their decimal texts. -/

namespace OneVoice.Library

open List

/-- The case mapping of a text is the one of its characters. -/
def toLower (lower : Char → Char) (text : String) : String := .ofList (text.toList.map lower)

/-- The parts of a text between its spaces. -/
def fields (space : Char → Bool) (text : String) : List String :=
  ((text.toList.splitOnP space).filter fun part => !part.isEmpty).map .ofList

/-- The signed 64-bit integer with the low bits of a value. -/
def wrap64 (value : Int) : Int := value.bmod (2 ^ 64)

/-- A sum may be wrapped at its end or on the way. -/
theorem wrap64_add (sum value : Int) : wrap64 (wrap64 sum + value) = wrap64 (sum + value) := Int.bmod_add_bmod

theorem wrap64_eq_self {value : Int} (low : -2 ^ 63 ≤ value) (high : value < 2 ^ 63) : wrap64 value = value :=
  Int.bmod_eq_of_le (by omega) (by omega)

namespace Decimal

def parseDigits (digits : List Char) : Option Nat :=
  if digits ≠ [] ∧ digits.all Char.isDigit then some (Nat.ofDigitChars 10 digits 0) else none

/-- A sign may stand before the digits; the value fits in 64 bits. -/
def parseInt (text : String) : Option Int :=
  match text.toList with
  | '-' :: digits => ((parseDigits digits).filter (· ≤ 2 ^ 63)).map fun value : Nat => -(value : Int)
  | '+' :: digits => ((parseDigits digits).filter (· < 2 ^ 63)).map fun value : Nat => (value : Int)
  | digits => ((parseDigits digits).filter (· < 2 ^ 63)).map fun value : Nat => (value : Int)

def formatInt (value : Int) : String :=
  .ofList (if value < 0 then '-' :: Nat.toDigits 10 value.natAbs else Nat.toDigits 10 value.natAbs)

/-- The parts of a text before and after the first separator. -/
def cut (separator : Char) (text : String) : Option (String × String) :=
  match text.toList.dropWhile (· ≠ separator) with
  | [] => none
  | _ :: after => some (.ofList (text.toList.takeWhile (· ≠ separator)), .ofList after)

theorem isDigit_of_mem_toDigits {value digit} (member : digit ∈ Nat.toDigits 10 value) : digit.isDigit = true :=
  Nat.isDigit_of_mem_toDigits (by decide) (by decide) member

theorem parseDigits_toDigits (value : Nat) : parseDigits (Nat.toDigits 10 value) = some value := by
  have digits : (Nat.toDigits 10 value).all Char.isDigit = true := by
    rw [all_eq_true]
    intro digit member
    exact isDigit_of_mem_toDigits member
  rw [parseDigits, if_pos ⟨Nat.toDigits_ne_nil, digits⟩, Nat.ofDigitChars_ten_toDigits]

/-- A number is read back from its text. -/
theorem parseInt_formatInt {value} (low : -2 ^ 63 ≤ value) (high : value < 2 ^ 63) :
    parseInt (formatInt value) = some value := by
  by_cases negative : value < 0
  · have bound : value.natAbs ≤ 2 ^ 63 := by omega
    have opposite : -(value.natAbs : Int) = value := by omega
    simp only [parseInt, formatInt, negative, if_true, String.toList_ofList, parseDigits_toDigits,
      Option.filter_some, bound, decide_true, Option.map_some, opposite]
  · have bound : value.natAbs < 2 ^ 63 := by omega
    have same : (value.natAbs : Int) = value := by omega
    have unsigned : ∀ sign rest, sign.isDigit = false → Nat.toDigits 10 value.natAbs ≠ sign :: rest := by
      intro sign rest other starts
      have member : sign ∈ Nat.toDigits 10 value.natAbs := starts ▸ mem_cons_self
      rw [isDigit_of_mem_toDigits member] at other
      cases other
    simp only [parseInt, formatInt, negative, if_false, String.toList_ofList]
    split
    · rename_i rest starts
      exact absurd starts (unsigned _ _ (by decide))
    · rename_i rest starts
      exact absurd starts (unsigned _ _ (by decide))
    · simp only [parseDigits_toDigits, Option.filter_some, bound, decide_true, if_true, Option.map_some, same]

variable {before : String} {separator : Char}

/-- Only digits and the sign occur in a number. -/
theorem not_mem_formatInt (digit : separator.isDigit = false) (sign : separator ≠ '-')
    (value : Int) : separator ∉ (formatInt value).toList := by
  have absent : separator ∉ Nat.toDigits 10 value.natAbs := by
    intro member
    have other := isDigit_of_mem_toDigits member
    rw [digit] at other
    cases other
  unfold formatInt
  rw [String.toList_ofList]
  split
  · simp [sign, absent]
  · exact absent

theorem cut_append (absent : separator ∉ before.toList) (after : String) :
    cut separator (before ++ .singleton separator ++ after) = some (before, after) := by
  have passes : ∀ character ∈ before.toList, (character ≠ separator : Bool) = true := by
    intro character member
    have other : character ≠ separator := by
      intro same
      exact absent (same ▸ member)
    simpa using other
  simp only [cut, String.toList_append, append_assoc,
    dropWhile_append_of_pos passes, takeWhile_append_of_pos passes]
  simp

theorem eq_of_cut {text after} (parts : cut separator text = some (before, after)) :
    text = before ++ .singleton separator ++ after := by
  unfold cut at parts
  split at parts
  · cases parts
  · next first rest found =>
      cases parts
      have stops := head?_dropWhile_not (· ≠ separator) text.toList
      rw [found] at stops
      obtain rfl : first = separator := by simpa using stops
      have whole := takeWhile_append_dropWhile (p := (· ≠ first)) (l := text.toList)
      rw [found] at whole
      apply String.toList_injective
      simpa using whole.symm

end Decimal

end OneVoice.Library
