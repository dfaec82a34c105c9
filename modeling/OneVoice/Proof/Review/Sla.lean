import OneVoice.Construction.Review.Statistics
import Mathlib.Data.List.GetD
import Mathlib.Tactic.Linarith

namespace OneVoice.Reviews.Statistics

open List Library

def total (ds : List Int) : Int := ds.foldr (· + ·) 0

def counted (rows : List (String × List Int)) : Nat := rows.foldr (fun row count => row.2.length + count) 0

/-- The value lies between the smallest and the largest one. -/
def Between (ds : List Int) (value : Int) : Prop := (∃ low ∈ ds, low ≤ value) ∧ ∃ high ∈ ds, value ≤ high

/-- The two durations in the middle have a sum of their type. -/
def MiddleFits (ds : List Int) : Prop :=
  ds.length % 2 = 1 ∨ ds.mergeSort.getD (ds.length / 2 - 1) 0 + ds.mergeSort.getD (ds.length / 2) 0 < 2 ^ 63

structure Kept (stats : SLAStats) : Prop where
  buckets : stats.lt24h + stats.h24to72 + stats.gt72h = stats.unanswered
  platforms : counted stats.latenciesByPlatform = stats.latencies.length
  sum : stats.latencySum = wrap64 (total stats.latencies)
  bounds : ∀ latency ∈ stats.latencies, 0 ≤ latency ∧ latency < 2 ^ 63

theorem counted_appendTo (platform : String) (latency : Int) (rows : List (String × List Int)) :
    counted (appendTo platform latency rows) = counted rows + 1 := by
  induction rows with
  | nil => rfl
  | cons row rest ih =>
    rw [appendTo]
    split <;> simp only [counted, foldr_cons, length_append, length_singleton] at ih ⊢ <;> omega

theorem total_append (ds : List Int) (latency : Int) : total (ds ++ [latency]) = total ds + latency := by
  induction ds with
  | nil => simp [total]
  | cons first rest ih => simp only [total, cons_append, foldr_cons] at ih ⊢; omega

theorem Review.latency_bounds {r : Review} {latency} (measured : r.latency = some latency) :
    0 ≤ latency ∧ latency < 2 ^ 63 := by
  obtain ⟨repliedAt, -, later⟩ := Option.bind_eq_some_iff.mp measured
  split at later
  · cases later
  · rw [← Option.some.inj later, sub]
    omega

theorem Kept.measured {stats} (kept : Kept stats) (r : Review) : Kept (stats.measured r.platform r.latency) := by
  cases measured : r.latency with
  | none => simpa [SLAStats.measured, Stats.measure] using kept
  | some latency =>
    refine ⟨kept.buckets, ?_, ?_, fun other listed => ?_⟩
    · simp [SLAStats.measured, Stats.measure, counted_appendTo, kept.platforms]
    · simp [SLAStats.measured, Stats.measure, kept.sum, total_append, wrap64_add]
    · obtain listed | listed := mem_append.mp listed
      · exact kept.bounds other listed
      · rw [mem_singleton.mp listed]
        exact Review.latency_bounds measured

theorem Kept.round {stats} (kept : Kept stats) (now : Int) (r : Review) : Kept (slaRound now stats r) := by
  obtain ⟨buckets, platforms, sum, bounds⟩ := kept
  unfold slaRound
  split
  · apply Kept.measured
    exact ⟨buckets, platforms, sum, bounds⟩
  split
  · exact ⟨buckets, platforms, sum, bounds⟩
  · unfold SLAStats.bucketUnanswered Stats.await
    repeat' split
    all_goals exact ⟨by simp only; omega, platforms, sum, bounds⟩

theorem kept_computeSLA (reviews : List Review) (now : Int) : Kept (computeSLA reviews now) := by
  rw [computeSLA]
  generalize start : ({} : SLAStats) = stats
  have kept : Kept stats := start ▸ ⟨rfl, rfl, rfl, fun _ none => by cases none⟩
  clear start
  induction reviews generalizing stats with
  | nil => exact kept
  | cons r rest ih => exact ih _ (kept.round now r)

theorem total_bounds {ds low high} (bounds : ∀ latency ∈ ds, low ≤ latency ∧ latency ≤ high) :
    ds.length * low ≤ total ds ∧ total ds ≤ ds.length * high := by
  induction ds with
  | nil => simp [total]
  | cons first rest ih =>
    have later := ih fun latency listed => bounds latency (.tail _ listed)
    have head := bounds first (.head _)
    simp only [total, foldr_cons, length_cons] at later ⊢
    push_cast
    constructor <;> linarith

section

variable {ds : List Int} (bounds : ∀ latency ∈ ds, 0 ≤ latency ∧ latency < 2 ^ 63) (some : ds ≠ [])

include bounds

theorem total_nonneg : 0 ≤ total ds := by
  have around := total_bounds fun latency listed => ⟨(bounds latency listed).1, (bounds latency listed).2.le⟩
  simpa using around.1

include some

theorem between_average : Between ds ((total ds).tdiv ds.length) := by
  have positive : (0 : Int) < ds.length := by exact_mod_cast length_pos_iff.mpr some
  rw [Int.tdiv_eq_ediv_of_nonneg (total_nonneg bounds)]
  constructor
  · by_contra! above
    have least := total_bounds fun latency listed =>
      ⟨Int.add_one_le_of_lt (above latency listed), (bounds latency listed).2.le⟩
    have most := Int.lt_ediv_add_one_mul_self (total ds) positive
    linarith
  · by_contra! below
    have most := total_bounds fun latency listed =>
      ⟨(bounds latency listed).1, Int.le_sub_one_of_lt (below latency listed)⟩
    have least := Int.ediv_mul_le (total ds) positive.ne'
    linarith

theorem between_median_iff : Between ds (medianDuration ds) ↔ MiddleFits ds := by
  have filled := length_pos_iff.mpr some
  have mem : ∀ index < ds.length, ds.mergeSort.getD index 0 ∈ ds := by
    intro index inside
    rw [getD_eq_getElem _ _ (by simpa using inside)]
    exact mem_mergeSort.mp (getElem_mem _)
  have middle := mem (ds.length / 2) (by omega)
  rw [medianDuration, MiddleFits, length_mergeSort]
  by_cases odd : ds.length % 2 = 1
  · rw [if_pos odd]
    exact iff_of_true ⟨⟨_, middle, le_rfl⟩, _, middle, le_rfl⟩ (.inl odd)
  · have before := mem (ds.length / 2 - 1) (by omega)
    have order : ds.mergeSort.getD (ds.length / 2 - 1) 0 ≤ ds.mergeSort.getD (ds.length / 2) 0 := by
      have sorted : ds.mergeSort.Pairwise (decide <| · ≤ ·) :=
        pairwise_mergeSort (by simpa using fun _ _ _ => le_trans) (by simpa using le_total) ds
      have inside : ds.length / 2 < ds.mergeSort.length := by rw [length_mergeSort]; omega
      rw [getD_eq_getElem _ _ (by omega), getD_eq_getElem _ _ inside]
      simpa using pairwise_iff_getElem.mp sorted (ds.length / 2 - 1) _ (by omega) inside (by omega)
    have low := bounds _ before
    have high := bounds _ middle
    generalize ds.mergeSort.getD (ds.length / 2 - 1) 0 = first at *
    generalize ds.mergeSort.getD (ds.length / 2) 0 = second at *
    constructor
    · rintro ⟨⟨least, listed, below⟩, _⟩
      by_contra! wide
      have wrapped : wrap64 (first + second) = -(2 ^ 64 - (first + second)) := by
        rw [wrap64, Int.bmod_def]
        omega
      rw [wrapped, Int.neg_tdiv, Int.tdiv_eq_ediv_of_nonneg (by omega)] at below
      have := (bounds least listed).1
      omega
    · intro fits
      rw [wrap64_eq_self (by omega) (by omega), Int.tdiv_eq_ediv_of_nonneg (by omega)]
      exact ⟨⟨first, before, by omega⟩, second, middle, by omega⟩

end

/-- The numbers fit their reviews as long as the sums of the latencies fit their type. -/
theorem sla_within_data (reviews : List Review) (now : Int) : let stats := computeSLA reviews now
    (stats.latencies ≠ [] → (Between stats.latencies (medianDuration stats.latencies) ↔ MiddleFits stats.latencies) ∧
        (total stats.latencies < 2 ^ 63 → Between stats.latencies stats.averageResponse)) ∧
      stats.lt24h + stats.h24to72 + stats.gt72h = stats.unanswered ∧
      counted stats.latenciesByPlatform = stats.latencies.length := by
  intro stats
  obtain ⟨buckets, platforms, sum, bounds⟩ : Kept stats := kept_computeSLA reviews now
  refine ⟨fun some => ⟨between_median_iff bounds some, fun fits => ?_⟩, buckets, platforms⟩
  have whole := total_nonneg bounds
  rw [SLAStats.averageResponse, sum, wrap64_eq_self (by omega) fits]
  exact between_average bounds some

/-- Two replies to reviews without a date of creation take less than no time. -/
theorem average_below_zero : let now : Int := 63900000000 * 10 ^ 9
    let review : Review := ⟨some .replied, 0, some now, "yandex"⟩
    let stats := computeSLA [review, review] now
    stats.latencies ≠ [] ∧ stats.averageResponse = -1 ∧ ¬ Between stats.latencies stats.averageResponse := by
  intro now review stats
  have average : stats.averageResponse = -1 := by decide
  refine ⟨by decide, average, fun between => ?_⟩
  obtain ⟨low, listed, below⟩ := between.1
  have least := ((kept_computeSLA [review, review] now).bounds low listed).1
  omega

end OneVoice.Reviews.Statistics
