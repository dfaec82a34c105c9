import Mathlib.Data.List.Perm.Basic
import Mathlib.Data.List.Nodup

/-!
Transcripts in which a party opens a group of requests and each request waits for one answer.
-/

namespace OneVoice.Library

open List

/-- An entry opens requests, answers one, or does neither. -/
inductive Entry (ι : Type*) where
  | opening (ids : List ι)
  | answer (id : ι)
  | other

namespace Entry

variable {ι : Type*}

/-- No entry of the list opens a group. -/
def Settled (entries : List (Entry ι)) : Prop := ∀ ids, .opening ids ∉ entries

variable {entries : List (Entry ι)} {pending : List ι} {id : ι}

theorem Settled.append_answer : Settled (entries ++ [.answer id]) ↔ Settled entries := by
  simp [Settled]

/-- An occurrence in an extended list is one in the list or the new entry. -/
theorem occurrence_in_extension {before after last found} (equal : entries ++ [last] = before ++ found :: after) :
    (∃ rest, after = rest ++ [last] ∧ entries = before ++ found :: rest) ∨
      (after = [] ∧ found = last ∧ before = entries) := by
  rcases append_eq_append_iff.mp equal with ⟨gap, same, tail⟩ | ⟨gap, same, tail⟩
  · cases gap with
    | nil => simp_all
    | cons entry gap => simp at tail
  · cases gap with
    | nil => simp_all
    | cons entry gap =>
      obtain ⟨rfl, rfl⟩ := cons.inj tail
      exact .inl ⟨gap, rfl, same⟩

variable [DecidableEq ι]

/-- The answers to one request before the next opening. -/
def answerCount (id : ι) : List (Entry ι) → Nat
  | [] => 0
  | .opening _ :: _ => 0
  | .answer answered :: rest => (if answered = id then 1 else 0) + answerCount id rest
  | .other :: rest => answerCount id rest

/-- Each request has one answer before the next opening, and conversely. -/
structure WellFormed (entries : List (Entry ι)) : Prop where
  answered : ∀ before ids after, entries = before ++ .opening ids :: after → ∀ id ∈ ids, answerCount id after = 1
  anchored : ∀ before id after, entries = before ++ .answer id :: after → ∃ ids, .opening ids ∈ before ∧ id ∈ ids

/-- Well formed but for the last opening's listed requests, which wait. -/
structure Owing (pending : List ι) (entries : List (Entry ι)) : Prop where
  waiting : ∀ before ids after, entries = before ++ .opening ids :: after → ∀ id ∈ ids,
    Settled after → id ∈ pending → answerCount id after = 0
  answered : ∀ before ids after, entries = before ++ .opening ids :: after → ∀ id ∈ ids,
    ¬ (Settled after ∧ id ∈ pending) → answerCount id after = 1
  anchored : ∀ before id after, entries = before ++ .answer id :: after → ∃ ids, .opening ids ∈ before ∧ id ∈ ids
  backed : ∀ id ∈ pending, ∃ ids, .opening ids ∈ entries ∧ id ∈ ids
  distinct : pending.Nodup

theorem answerCount_append_opening (id : ι) (ids : List ι) (entries : List (Entry ι)) :
    answerCount id (entries ++ [.opening ids]) = answerCount id entries := by
  induction entries with
  | nil => rfl
  | cons entry rest ih => cases entry <;> simp [answerCount, ih]

theorem answerCount_append_answer_of_settled (id answered : ι) (entries : List (Entry ι)) (settled : Settled entries) :
    answerCount id (entries ++ [.answer answered]) = answerCount id entries + if answered = id then 1 else 0 := by
  induction entries with
  | nil => simp [answerCount]
  | cons entry rest ih =>
    have tail : Settled rest := fun ids member => settled ids (mem_cons_of_mem _ member)
    cases entry with
    | opening ids => exact absurd mem_cons_self (settled ids)
    | answer first => simp [answerCount, ih tail, Nat.add_assoc]
    | other => simp [answerCount, ih tail]

theorem answerCount_append_answer_of_not_settled (id answered : ι) (entries : List (Entry ι))
    (opened : ¬ Settled entries) : answerCount id (entries ++ [.answer answered]) = answerCount id entries := by
  induction entries with
  | nil => exact absurd (fun _ member => (not_mem_nil member).elim) opened
  | cons entry rest ih =>
    cases entry with
    | opening ids => rfl
    | answer first | other =>
      have tail : ¬ Settled rest := fun settled => opened fun ids member =>
        settled ids (by simpa using member)
      simp [answerCount, ih tail]

theorem owing_nil_iff : Owing [] entries ↔ WellFormed entries := by
  constructor
  · intro owing
    exact ⟨fun before ids after equal id member =>
      owing.answered before ids after equal id member (by simp), owing.anchored⟩
  · intro formed
    exact ⟨fun _ _ _ _ _ _ _ member => (not_mem_nil member).elim,
      fun before ids after equal id member _ => formed.answered before ids after equal id member,
      formed.anchored, fun _ member => (not_mem_nil member).elim, nodup_nil⟩

variable {others ids : List ι}

/-- The order in which requests wait does not matter. -/
theorem Owing.perm (owing : Owing pending entries) (same : pending.Perm others) : Owing others entries where
  waiting before ids after equal id member settled waits :=
    owing.waiting before ids after equal id member settled (same.mem_iff.mpr waits)
  answered before ids after equal id member settles :=
    owing.answered before ids after equal id member fun both =>
      settles ⟨both.1, same.mem_iff.mp both.2⟩
  anchored := owing.anchored
  backed id member := owing.backed id (same.mem_iff.mpr member)
  distinct := same.nodup_iff.mp owing.distinct

/-- A settled transcript takes a new group of distinct requests. -/
theorem Owing.open (owing : Owing [] entries) (distinct : ids.Nodup) : Owing ids (entries ++ [.opening ids]) where
  waiting before opened after equal id member settled _ := by
    rcases occurrence_in_extension equal with ⟨rest, rfl, _⟩ | ⟨rfl, _, _⟩
    · exact absurd (mem_append_right rest mem_cons_self) (settled ids)
    · rfl
  answered before opened after equal id member settles := by
    rcases occurrence_in_extension equal with ⟨rest, rfl, same⟩ | ⟨rfl, found, _⟩
    · rw [answerCount_append_opening]
      exact owing.answered before opened rest same id member (by simp)
    · cases found
      exact absurd ⟨fun _ empty => (not_mem_nil empty).elim, member⟩ settles
  anchored before id after equal := by
    rcases occurrence_in_extension equal with ⟨rest, _, same⟩ | ⟨_, found, _⟩
    · exact owing.anchored before id rest same
    · cases found
  backed id member := ⟨ids, by simp, member⟩
  distinct := distinct

/-- One answer settles the request that it names. -/
theorem Owing.answer (owing : Owing (id :: pending) entries) : Owing pending (entries ++ [.answer id]) where
  waiting before ids after equal other member settled waits := by
    have fresh := (nodup_cons.mp owing.distinct).1
    have different : id ≠ other := fun same => fresh (same ▸ waits)
    rcases occurrence_in_extension equal with ⟨rest, rfl, same⟩ | ⟨_, found, _⟩
    · have settledRest := Settled.append_answer.mp settled
      rw [answerCount_append_answer_of_settled _ _ _ settledRest, if_neg different]
      exact owing.waiting before ids rest same other member settledRest (mem_cons_of_mem _ waits)
    · cases found
  answered before ids after equal other member settles := by
    rcases occurrence_in_extension equal with ⟨rest, rfl, same⟩ | ⟨_, found, _⟩
    · by_cases settledRest : Settled rest
      · rw [answerCount_append_answer_of_settled _ _ _ settledRest]
        by_cases named : id = other
        · subst named
          rw [owing.waiting before ids rest same id member settledRest mem_cons_self]
          simp
        · rw [if_neg named]
          have notWaiting : other ∉ id :: pending := by
            intro waits
            rcases mem_cons.mp waits with rfl | waits
            · exact named rfl
            · exact settles ⟨Settled.append_answer.mpr settledRest, waits⟩
          exact owing.answered before ids rest same other member fun both => notWaiting both.2
      · rw [answerCount_append_answer_of_not_settled _ _ _ settledRest]
        exact owing.answered before ids rest same other member fun both => settledRest both.1
    · cases found
  anchored before answered after equal := by
    rcases occurrence_in_extension equal with ⟨rest, _, same⟩ | ⟨_, found, same⟩
    · exact owing.anchored before answered rest same
    · cases found
      subst same
      exact owing.backed id mem_cons_self
  backed other member := by
    obtain ⟨ids, opened, named⟩ := owing.backed other (mem_cons_of_mem _ member)
    exact ⟨ids, mem_append_left _ opened, named⟩
  distinct := (nodup_cons.mp owing.distinct).2

/-- One answer settles any waiting request of the list. -/
theorem Owing.answer_mem (owing : Owing pending entries) (same : pending.Perm (id :: others)) :
    Owing others (entries ++ [.answer id]) :=
  (owing.perm same).answer

/-- A list of answers settles the requests that it names. -/
theorem Owing.answers (owing : Owing (ids ++ pending) entries) : Owing pending (entries ++ ids.map .answer) := by
  induction ids generalizing entries with
  | nil => simpa using owing
  | cons id ids ih =>
    have answered : Owing (ids ++ pending) (entries ++ [.answer id]) := owing.answer
    have next := ih answered
    simpa using next

end Entry

end OneVoice.Library
