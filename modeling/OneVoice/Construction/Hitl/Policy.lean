/- `pkg/hitl/policy.go`, the policy that both the pause and the resume consult. -/

import OneVoice.Construction.Domain

namespace OneVoice.Hitl

open Domain

/-- Ties and unknown floors keep the left argument. -/
def strictest (a b : ToolFloor) : ToolFloor :=
  if toolFloorRank b > toolFloorRank a then b else a

/-- The running value can only become stricter. -/
def tighten (effective : ToolFloor) (policy : ApprovalMap) (toolName : String) : ToolFloor :=
  match policy.lookup toolName with
  | some entry => strictest effective entry
  | none => effective

def resolve (floor : ToolFloor) (businessPolicy projectOverride : ApprovalMap) (toolName : String) : ToolFloor :=
  tighten (tighten floor businessPolicy toolName) projectOverride toolName

/-- The three dispatch buckets keep the order of the calls. -/
structure Buckets where
  auto : List ToolCall
  manual : List ToolCall
  forbidden : List ToolCall

def bucket (floorOf : String → ToolFloor) (businessPolicy projectOverride : ApprovalMap) : List ToolCall → Buckets
  | [] => ⟨[], [], []⟩
  | call :: calls =>
    let rest := bucket floorOf businessPolicy projectOverride calls
    match resolve (floorOf call.name) businessPolicy projectOverride call.name with
    | .auto => { rest with auto := call :: rest.auto }
    | .manual => { rest with manual := call :: rest.manual }
    | .forbidden => { rest with forbidden := call :: rest.forbidden }
    | .malformed _ _ => { rest with forbidden := call :: rest.forbidden }

section

variable (floorOf : String → ToolFloor) (businessPolicy projectOverride : ApprovalMap) (calls : List ToolCall)

/-- The effective floor decides a call's bucket; an unknown one is forbidden. -/
theorem bucket_eq_filter :
    let effective (call : ToolCall) := resolve (floorOf call.name) businessPolicy projectOverride call.name
    bucket floorOf businessPolicy projectOverride calls =
      ⟨calls.filter (effective · = .auto), calls.filter (effective · = .manual),
        calls.filter fun call => effective call ≠ .auto ∧ effective call ≠ .manual⟩ := by
  intro effective
  induction calls with
  | nil => rfl
  | cons call calls ih =>
    simp only [bucket, ih]
    split <;> rename_i floor <;> simp [effective, floor]

/-- An automatic call is one whose effective floor is automatic. -/
theorem bucket_auto_floor :
    ∀ call ∈ (bucket floorOf businessPolicy projectOverride calls).auto,
      resolve (floorOf call.name) businessPolicy projectOverride call.name = .auto := by
  intro call member
  rw [bucket_eq_filter] at member
  exact of_decide_eq_true (List.mem_filter.mp member).2

/-- The buckets partition the calls. -/
theorem bucket_perm :
    let buckets := bucket floorOf businessPolicy projectOverride calls
    (buckets.forbidden ++ buckets.auto ++ buckets.manual).Perm calls := by
  induction calls with
  | nil => simp [bucket]
  | cons call calls ih =>
    simp only [bucket] at ih ⊢
    split
    · refine .trans ?_ (.cons call ih)
      simp
    · exact .trans List.perm_middle (.cons call ih)
    · exact .cons call ih
    · exact .cons call ih

end

/-- Without any entry for the tool the registered floor stands. -/
theorem resolve_empty (floor : ToolFloor) (toolName : String) :
    resolve floor ∅ ∅ toolName = floor := rfl

/-- Policies with the same lookup resolve alike. -/
theorem resolve_congr {floor business business' project project' toolName}
    (sameBusiness : business.lookup toolName = business'.lookup toolName)
    (sameProject : project.lookup toolName = project'.lookup toolName) :
    resolve floor business project toolName = resolve floor business' project' toolName := by
  simp only [resolve, tighten, sameBusiness, sameProject]

end OneVoice.Hitl
