import OneVoice.Construction.Orchestrator.Registry

namespace OneVoice.Hitl

open Domain Agent

theorem neg_one_le_rank (floor : ToolFloor) : -1 ≤ toolFloorRank floor := by
  cases floor <;> simp [toolFloorRank]

theorem eq_forbidden_of_rank {floor} (strict : 2 ≤ toolFloorRank floor) : floor = .forbidden := by
  cases floor with
  | forbidden => rfl
  | _ => simp [toolFloorRank] at strict

/-- The rank of the entry for a tool; an absent one ranks like an unknown one. -/
def entryRank (policy : ApprovalMap) (toolName : String) : Int := (policy.lookup toolName).elim (-1) toolFloorRank

theorem rank_tighten (effective : ToolFloor) (policy : ApprovalMap) (toolName : String) :
    toolFloorRank (tighten effective policy toolName) =
      max (toolFloorRank effective) (entryRank policy toolName) := by
  have least := neg_one_le_rank effective
  unfold tighten entryRank
  split <;> rename_i found
  · rw [found, strictest]
    simp only [Option.elim_some]
    split <;> omega
  · rw [found, Option.elim_none]
    omega

theorem rank_resolve (floor : ToolFloor) (business project : ApprovalMap) (toolName : String) :
    toolFloorRank (resolve floor business project toolName) =
      max (max (toolFloorRank floor) (entryRank business toolName)) (entryRank project toolName) := by
  rw [resolve, rank_tighten, rank_tighten]

/-- The entry of a tool was raised or added, or is as it was. -/
def Raised (toolName : String) (old new : ApprovalMap) : Prop :=
  ∀ entry, old.lookup toolName = some entry →
    ∃ raised, new.lookup toolName = some raised ∧ toolFloorRank entry ≤ toolFloorRank raised

theorem Raised.rank {toolName old new} (raised : Raised toolName old new) :
    entryRank old toolName ≤ entryRank new toolName := by
  cases known : old.lookup toolName with
  | none =>
    rw [entryRank, known, entryRank]
    cases new.lookup toolName with
    | none => exact Int.le_refl _
    | some entry => exact neg_one_le_rank entry
  | some entry =>
    obtain ⟨stricter, found, more⟩ := raised entry known
    simpa [entryRank, known, found] using more

/-- The effective floor is as strict as all its sources, and no raised or added entry loosens it.
The buckets keep the order of the calls, and what is not registered is forbidden. -/
theorem policy_only_tightens (registry : Registry) (business project : ApprovalMap)
    (toolName : String) (calls : List ToolCall) :
    let effective (business project : ApprovalMap) (name : String) :=
      resolve (registry.floor name) business project name
    let rank := toolFloorRank (effective business project toolName)
    toolFloorRank (registry.floor toolName) ≤ rank ∧
      (∀ policy ∈ [business, project], ∀ entry, policy.lookup toolName = some entry → toolFloorRank entry ≤ rank) ∧
      (∀ business' project', Raised toolName business business' → Raised toolName project project' →
        rank ≤ toolFloorRank (effective business' project' toolName)) ∧
      bucket registry.floor business project calls =
        ⟨calls.filter (effective business project ·.name = .auto),
          calls.filter (effective business project ·.name = .manual),
          calls.filter fun call => effective business project call.name ≠ .auto ∧
            effective business project call.name ≠ .manual⟩ ∧
      (registry.tools.lookup toolName = none → effective business project toolName = .forbidden) := by
  intro effective rank
  have joined := rank_resolve (registry.floor toolName) business project toolName
  refine ⟨?_, ?_, ?_, bucket_eq_filter .., ?_⟩
  · simp only [rank, effective]
    omega
  · intro policy listed entry found
    have own : entryRank policy toolName = toolFloorRank entry := by rw [entryRank, found]; rfl
    simp only [rank, effective]
    simp only [List.mem_cons, List.not_mem_nil, or_false] at listed
    rcases listed with rfl | rfl <;> omega
  · intro business' project' businessRaised projectRaised
    have raised := rank_resolve (registry.floor toolName) business' project' toolName
    have ranks := And.intro businessRaised.rank projectRaised.rank
    simp only [rank, effective]
    omega
  · intro unregistered
    have floor : registry.floor toolName = .forbidden := by rw [Registry.floor, unregistered]
    apply eq_forbidden_of_rank
    simp only [effective]
    rw [floor] at joined ⊢
    have strict : toolFloorRank .forbidden = 2 := rfl
    omega

end OneVoice.Hitl
