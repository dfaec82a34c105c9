import Mathlib.Algebra.Order.Field.Rat
import OneVoice.Construction.Llm.Router

namespace OneVoice.Llm

open List

/-- The order of a strategy, unmeasured latencies last. -/
def Ordered : Strategy → ModelProviderEntry → ModelProviderEntry → Prop
  | .cost, first, second => avgCost first ≤ avgCost second
  | .speed, first, second => second.avgLatencyMs = 0 ∨
      (first.avgLatencyMs ≠ 0 ∧ first.avgLatencyMs ≤ second.avgLatencyMs)

/-- The healthy entries come first, and both groups follow the strategy. -/
def Precedes (strategy : Strategy) (first second : ModelProviderEntry) : Prop :=
  (second.healthStatus = .healthy → first.healthStatus = .healthy) ∧
    ((first.healthStatus = .healthy → second.healthStatus = .healthy) → Ordered strategy first second)

section

variable {strategy : Strategy} {first second third : ModelProviderEntry}

theorem not_before_iff : (!before strategy second first) = true ↔ Precedes strategy first second := by
  by_cases here : first.healthStatus = .healthy <;>
    by_cases there : second.healthStatus = .healthy <;>
    cases strategy <;> simp [before, Precedes, Ordered, betterLatency, here, there]

theorem Ordered.trans (left : Ordered strategy first second) (right : Ordered strategy second third) :
    Ordered strategy first third := by
  cases strategy with
  | cost => exact le_trans left right
  | speed =>
    unfold Ordered at *
    omega

theorem Ordered.total (strategy : Strategy) (first second : ModelProviderEntry) :
    Ordered strategy first second ∨ Ordered strategy second first := by
  cases strategy with
  | cost => exact le_total _ _
  | speed =>
    unfold Ordered
    omega

theorem Precedes.trans (left : Precedes strategy first second)
    (right : Precedes strategy second third) : Precedes strategy first third := by
  refine ⟨fun healthy => left.1 (right.1 healthy), fun same => ?_⟩
  exact (left.2 fun healthy => right.1 (same healthy)).trans (right.2 fun healthy => same (left.1 healthy))

theorem Precedes.total (strategy : Strategy) (first second : ModelProviderEntry) :
    Precedes strategy first second ∨ Precedes strategy second first := by
  have either := Ordered.total strategy first second
  unfold Precedes
  tauto

end

section

variable {Provider Response Error : Type} {registry : Registry}
  {providers : String → Option Provider} {model : String} {strategy : Strategy}

theorem pairwise_buildCandidates :
    (buildCandidates registry providers model strategy).Pairwise fun first second =>
      Precedes strategy first.entry second.entry := by
  refine (pairwise_mergeSort ?_ ?_ _).imp not_before_iff.mp
  · intro first second third left right
    exact not_before_iff.mpr ((not_before_iff.mp left).trans (not_before_iff.mp right))
  · intro first second
    rw [Bool.or_eq_true, not_before_iff, not_before_iff]
    exact Precedes.total strategy _ _

/-- The candidates of a request have different providers. -/
theorem nodup_buildCandidates :
    ((buildCandidates registry providers model strategy).map (·.entry.provider)).Nodup := by
  have part : ((usable registry providers model).map (·.entry.provider)).Sublist
      ((registry.entries model).map ModelProviderEntry.provider) := by
    unfold usable
    induction registry.entries model with
    | nil => exact List.Sublist.refl _
    | cons entry rest ih =>
      rw [filterMap_cons]
      split
      · exact ih.cons _
      · next candidate taken =>
          have same : candidate.entry = entry := by
            split_ifs at taken
            obtain ⟨_, _, rfl⟩ := Option.map_eq_some_iff.mp taken
            rfl
          rw [map_cons, same]
          exact ih.cons_cons _
  exact ((mergeSort_perm _ _).map _).nodup_iff.mpr ((registry.distinct model).sublist part)

/-- What the loop does from an attempt on. -/
structure Router.Walks (router : Router Error) (namesBusiness : Bool) (replies : Nat → Reply Response Error)
    (attempt : Nat) (candidates : List (Candidate Provider)) (chatted : Chatted Provider Response Error) : Prop where
  order : chatted.called <+: candidates
  few : chatted.called.length ≤ maxChatAttempts - attempt
  transient : 2 ≤ chatted.called.length → attempt = 0 ∧
    ∃ error, router.outcome (replies 0) = .error error ∧ router.isTransientLLMError error = true
  answered : ∀ response, chatted.result = .ok response →
    router.outcome (replies (attempt + chatted.called.length - 1)) = .ok response ∧ ∃ candidate,
      chatted.called.getLast? = some candidate ∧ chatted.billed =
        if router.billing && namesBusiness then [(candidate.entry, response)] else []
  failed : ∀ error, chatted.result = .error error → chatted.billed = []

theorem Router.attempts_walks (router : Router Error) (namesBusiness : Bool) (count : Nat)
    (replies : Nat → Reply Response Error) (attempt : Nat) (candidates : List (Candidate Provider))
    (lastErr : Error) : router.Walks namesBusiness replies attempt candidates
      (router.attempts namesBusiness count replies attempt candidates lastErr) := by
  induction candidates generalizing attempt lastErr with
  | nil => constructor <;> simp [attempts]
  | cons candidate rest ih =>
    unfold attempts
    split
    · constructor <;> simp
    · next more =>
        have room : 1 ≤ maxChatAttempts - attempt := by omega
        split
        · next answer answers => constructor <;> simp [room, answers]
        · next error fails =>
            split
            · next retries =>
                simp only [Bool.and_eq_true, decide_eq_true_eq] at retries
                obtain ⟨⟨transient, rfl⟩, _⟩ := retries
                have later := ih (0 + 1) error
                have few := later.few
                refine ⟨cons_prefix_cons.mpr ⟨rfl, later.order⟩, ?_, ?_, ?_, later.failed⟩
                · simp only [length_cons] at few ⊢
                  omega
                · exact fun _ => ⟨rfl, error, fails, transient⟩
                · intro response done
                  obtain ⟨answers, answering, last, billed⟩ := later.answered response done
                  refine ⟨?_, answering, getLast?_cons.trans (by rw [last]; rfl), billed⟩
                  rwa [length_cons, ← Nat.add_assoc, Nat.add_right_comm]
            · constructor <;> simp [room]

end

end OneVoice.Llm
