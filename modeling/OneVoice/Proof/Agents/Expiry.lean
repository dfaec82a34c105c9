import OneVoice.Proof.Agents.Tenancy

namespace OneVoice.Agents

open Domain List

section Mark

variable {rows : List Integration} {businessID externalID : String} {platform : Platform}

theorem integrationExists_iff : integrationExists rows businessID platform externalID = true ↔
    Owns rows businessID platform externalID := by
  simp [integrationExists, Owns]

theorem markTokenExpiredWhere_exists (scope : String) :
    integrationExists (markTokenExpiredWhere rows businessID platform scope).1 businessID platform
      externalID = integrationExists rows businessID platform externalID := by
  simp only [integrationExists, markTokenExpiredWhere, any_map]
  congr 1
  funext row
  simp only [Function.comp]
  split <;> rfl

/-- The update keeps to an id that names an integration, if it does. -/
theorem markTokenExpired_eq :
    markTokenExpired rows businessID platform externalID = (markTokenExpiredWhere rows businessID platform
        (if integrationExists rows businessID platform externalID then externalID else "")).1 := by
  simp only [markTokenExpired, markTokenExpiredWhere_exists]
  by_cases unnamed : externalID = ""
  · simp [unnamed]
  by_cases known : integrationExists rows businessID platform externalID
  · simp [known]
  · have none_ : ∀ row ∈ rows, ¬ (row.businessID = businessID ∧ row.platform = platform ∧
        row.status = .active ∧ (externalID ≠ "" → row.externalID = externalID)) := by
      rintro row member ⟨business, named, _, same⟩
      exact known (integrationExists_iff.mpr ⟨row, member, business, named, same unnamed⟩)
    have unaffected : markTokenExpiredWhere rows businessID platform externalID = (rows, 0) := by
      refine Prod.ext ((map_congr_left ?_).trans (map_id rows)) ?_
      · intro row member
        exact if_neg (by simpa using none_ row member)
      · exact countP_eq_zero.mpr (by simpa using none_)
    simp [unaffected, unnamed, known]

end Mark

/-- An active integration has become one whose token has expired. -/
def Flagged (rows : List Integration) (integration : Integration) : Prop :=
  { integration with status := .tokenExpired } ∈ rows ∧ integration ∉ rows

section Flag

variable {service : TokenService} {businessID externalID : String} {platform : Platform}
  {integration : Integration} {tokens : Tokens}

theorem flagged_where_iff {scope} (released : service.Releases businessID platform externalID integration tokens) :
    Flagged (markTokenExpiredWhere service.integrations businessID platform scope).1 integration ↔
      scope = "" ∨ scope = integration.externalID := by
  obtain ⟨stored, business, named⟩ := mem_of_select released.1
  have active := released.2.1
  constructor
  · rintro ⟨-, gone⟩
    by_contra outside
    refine gone (mem_map.mpr ⟨integration, stored, if_neg ?_⟩)
    simp only [decide_eq_true_eq]
    rintro ⟨_, _, _, same⟩
    exact outside (or_iff_not_imp_left.mpr fun given => (same given).symm)
  · intro inside
    constructor
    · refine mem_map.mpr ⟨integration, stored, if_pos ?_⟩
      simp only [decide_eq_true_eq]
      exact ⟨business, named, active, fun given => (inside.resolve_left given).symm⟩
    · intro kept
      obtain ⟨row, _, same⟩ := mem_map.mp kept
      split at same <;> rename_i matched
      · rw [← same] at active
        cases active
      · rw [same] at matched
        simp only [decide_eq_true_eq] at matched
        exact matched ⟨business, named, active, fun given => (inside.resolve_left given).symm⟩

/-- The integration selected by an id has it, or none has. -/
theorem named_of_select (selected : service.select businessID platform externalID = some integration)
    (given : externalID ≠ "") :
    externalID = integration.externalID ∨ ¬ Owns service.integrations businessID platform externalID := by
  unfold TokenService.select at selected
  rw [if_pos given] at selected
  cases found : service.getByBusinessPlatformExternal businessID platform externalID with
  | some row =>
    rw [found] at selected
    cases selected
    have named := find?_some found
    exact .inl (of_decide_eq_true named).symm
  | none =>
    right
    rintro ⟨row, stored, business, named, same⟩
    have other := find?_eq_none.mp found row (mem_listByBusinessAndPlatform.mpr ⟨stored, business, named⟩)
    exact other (decide_eq_true same)

/-- The integration whose credential was released is flagged exactly where the supplied id is empty,
its own or no id of an integration; and an id that names one leaves the others alone. -/
theorem rejected_credential_flagged_iff {request : ToolRequest}
    (released : service.Releases request.businessID platform (selector platform request) integration tokens) :
    let supplied := externalIDFromToolArgs platform request.args
    let own := Owns service.integrations request.businessID platform
    let rows := onToolResult service.integrations platform request integrationTokenInvalidCode
    (Flagged rows integration ↔ supplied = "" ∨ supplied = integration.externalID ∨ ¬ own supplied) ∧
      (selector platform request = supplied → Flagged rows integration) ∧
      (supplied ≠ "" → own supplied → ∀ row ∈ service.integrations,
        ¬ (row.businessID = request.businessID ∧ row.platform = platform ∧
          row.externalID = supplied) → row ∈ rows) := by
  intro supplied own rows
  have marked : rows = (markTokenExpiredWhere service.integrations request.businessID platform
      (if integrationExists service.integrations request.businessID platform supplied then supplied
        else "")).1 := markTokenExpired_eq
  have flagged : Flagged rows integration ↔
      supplied = "" ∨ supplied = integration.externalID ∨ ¬ own supplied := by
    rw [marked, flagged_where_iff released]
    split <;> rename_i known <;> rw [integrationExists_iff] at known <;> simp [own, known]
  refine ⟨flagged, ?_, ?_⟩
  · intro same
    rw [flagged, or_iff_not_imp_left]
    intro given
    exact named_of_select (same ▸ released.1) given
  · intro given known row member other
    rw [marked, if_pos (integrationExists_iff.mpr known)]
    refine mem_map.mpr ⟨row, member, if_neg ?_⟩
    simp only [decide_eq_true_eq]
    rintro ⟨business, named, _, same⟩
    exact other ⟨business, named, same given⟩

end Flag

namespace Sample

/-- A business with two channels, whose bots have tokens of their own. -/
def channels : Telegram.Handler where
  tokens :=
    { integrations := [⟨"acme", .telegram, "@main", .active⟩, ⟨"acme", .telegram, "@news", .active⟩]
      release := fun integration => .ok ⟨"bot of " ++ integration.externalID, ""⟩ }
  reachable := fun _ => true
  approvalHMACSecret := ""
  computeMAC := fun _ _ _ => ""

def onNews (tool : String) : ToolRequest where
  tool := tool
  businessID := "acme"
  args := (∅ : Args).insert "channel_id" (.str "@news")
  approvalID := ""

end Sample

/-- A post to the second channel flags the second channel. -/
theorem rejected_credential_flagged_iff_post :
    Flagged (onToolResult Sample.channels.tokens.integrations .telegram
      (Sample.onNews "telegram__send_channel_post") integrationTokenInvalidCode)
      ⟨"acme", .telegram, "@news", .active⟩ := by
  have released : Sample.channels.tokens.Releases "acme" .telegram
      (selector .telegram (Sample.onNews "telegram__send_channel_post"))
      ⟨"acme", .telegram, "@news", .active⟩ ⟨"bot of @news", ""⟩ := by
    exact ⟨by decide +kernel, rfl, rfl⟩
  exact (rejected_credential_flagged_iff released).2.1 (by decide)

/-- Reviews are read with the first bot, and the second one is flagged. -/
theorem reviews_flag_other_channel :
    Sample.channels.handle (Sample.onNews "telegram__get_reviews") = .ok ⟨"bot of @main", .getReviews 500⟩ ∧
      onToolResult Sample.channels.tokens.integrations .telegram
          (Sample.onNews "telegram__get_reviews") integrationTokenInvalidCode =
        [⟨"acme", .telegram, "@main", .active⟩, ⟨"acme", .telegram, "@news", .tokenExpired⟩] := by
  decide +kernel

end OneVoice.Agents
