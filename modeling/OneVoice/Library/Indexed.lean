import Mathlib.Data.List.Nodup

/-!
Lists with an index that maps the key of each row to its position.
-/

namespace OneVoice.Library

open List

/-- The index finds each key at its position and nothing else. -/
def Indexes {Key : Type*} (index : Key → Option Nat) (keys : List Key) : Prop :=
  ∀ key position, index key = some position ↔ keys[position]? = some key

namespace Indexes

variable {Key : Type*} {index : Key → Option Nat} {keys : List Key}

section

variable (coherent : Indexes index keys)

include coherent

variable {key : Key}

theorem isSome_iff : (index key).isSome ↔ key ∈ keys := by
  rw [Option.isSome_iff_exists, mem_iff_getElem?]
  exact exists_congr fun position => coherent key position

theorem eq_none_iff : index key = none ↔ key ∉ keys := by
  rw [← coherent.isSome_iff, Option.isSome_iff_ne_none, not_not]

theorem nodup : keys.Nodup := by
  rw [nodup_iff_getElem?_ne_getElem?]
  intro first second before inside same
  have present : keys[second]? = some keys[second] := getElem?_eq_getElem inside
  have one := (coherent _ first).mpr (same.trans present)
  have other := (coherent _ second).mpr present
  rw [one] at other
  cases other
  exact Nat.lt_irrefl _ before

/-- A new key goes to the end. -/
theorem append [DecidableEq Key] (fresh : index key = none) :
    Indexes (Function.update index key (some keys.length)) (keys ++ [key]) := by
  intro wanted position
  have absent := coherent.eq_none_iff.mp fresh
  by_cases same : wanted = key
  · subst same
    rw [Function.update_self, Option.some.injEq, getElem?_append]
    split
    · constructor
      · omega
      · intro found
        exact absurd (mem_of_getElem? found) absent
    · rw [getElem?_singleton]
      split <;> simp <;> omega
  · rw [Function.update_of_ne same, coherent, getElem?_append]
    split
    · rfl
    · rw [getElem?_eq_none (by omega), getElem?_singleton]
      split <;> simp [Ne.symm same]

end

end Indexes

section

variable {Key : Type*} [DecidableEq Key]

/-- The loop that enters the keys of a list from a position on. -/
def indexFrom (position : Nat) (index : Key → Option Nat) : List Key → Key → Option Nat
  | [] => index
  | key :: rest => indexFrom (position + 1) (Function.update index key (some position)) rest

def indexKeys (keys : List Key) : Key → Option Nat := indexFrom 0 (fun _ => none) keys

variable {keys : List Key}

theorem indexes_indexFrom {index known} (coherent : Indexes index known) (distinct : (known ++ keys).Nodup) :
    Indexes (indexFrom known.length index keys) (known ++ keys) := by
  induction keys generalizing index known with
  | nil =>
    rw [append_nil]
    exact coherent
  | cons key rest ih =>
    have absent : key ∉ known := by
      intro member
      exact disjoint_of_nodup_append distinct member mem_cons_self
    have longer := coherent.append (coherent.eq_none_iff.mpr absent)
    have regroup : known ++ key :: rest = (known ++ [key]) ++ rest := by simp
    rw [regroup] at distinct ⊢
    simpa [indexFrom] using ih longer distinct

theorem indexes_indexKeys (distinct : keys.Nodup) : Indexes (indexKeys keys) keys := by
  have empty : Indexes (fun _ : Key => none) [] := by
    intro key position
    simp
  exact indexes_indexFrom empty distinct

end

end OneVoice.Library
