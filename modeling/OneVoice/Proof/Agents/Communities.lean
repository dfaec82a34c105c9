import OneVoice.Proof.Agents.Tenancy

namespace OneVoice.Agents.Vk

open Library Domain

variable {handler : Handler} {own : Integration} {supplied : String}

/-- A business's active community, supplied up to its minus. -/
structure Own (service : TokenService) (own : Integration) (supplied : String) : Prop where
  stored : own ∈ service.listByBusinessAndPlatform own.businessID .vk
  active : own.status = .active
  numeric : (Decimal.parseInt (trimMinus own.externalID)).isSome
  named : trimMinus supplied = trimMinus own.externalID

/-- The integration stored under the supplied text itself is active, or there is none and the first
active one has the community. -/
def Reaches (service : TokenService) (businessID supplied : String) : Prop :=
  match service.getByBusinessPlatformExternal businessID .vk supplied with
  | some row => row.status = .active
  | none => ∃ first, trimMinus first.externalID = trimMinus supplied ∧
      (service.listByBusinessAndPlatform businessID .vk).find? (·.status = .active) = some first

def foreignCommunity : AgentError := { text := "vk: group_id does not match the connected community" }

/-- Every call that names the community acts on it, a publication does so, and no edit or deletion is
refused as a foreign one. -/
structure Honours (handler : Handler) (own : Integration) (supplied : String) : Prop where
  acts : ∀ request performed, request.businessID = own.businessID →
    stringArg request.args "group_id" = supplied → handler.handle request = .ok performed →
    performed.call.groupID = ensureNegativeGroupID own.externalID
  publishes : ∀ request, request.businessID = own.businessID → stringArg request.args "group_id" = supplied →
    ∃ performed, handler.publishPost request = .ok performed
  mutates : ∀ request, request.businessID = own.businessID → stringArg request.args "group_id" = supplied →
    handler.mutatePost request ≠ .error foreignCommunity

theorem ensureNegativeGroupID_numeric {groupID} (numeric : (Decimal.parseInt (trimMinus groupID)).isSome) :
    ensureNegativeGroupID groupID = "-" ++ trimMinus groupID := by
  unfold ensureNegativeGroupID
  split
  · rename_i letters
    simp [trimMinus, letters, Decimal.parseInt, Decimal.parseDigits] at numeric
  · rename_i rest letters
    apply String.toList_inj.mp
    simp [trimMinus, letters]
  · rename_i unsigned
    rw [trimMinus_of_unsigned unsigned] at numeric ⊢
    exact if_pos numeric

/-- The supplied text and the stored one have one owner. -/
theorem Own.same (stands : Own handler.tokens own supplied) {row : Integration}
    (named : trimMinus row.externalID = trimMinus supplied) :
    ensureNegativeGroupID row.externalID = ensureNegativeGroupID own.externalID ∧
      ensureNegativeGroupID supplied = ensureNegativeGroupID row.externalID := by
  have numeric (text : String) (same : trimMinus text = trimMinus own.externalID) :=
    @ensureNegativeGroupID_numeric text (same ▸ stands.numeric)
  rw [numeric _ rfl, numeric supplied stands.named, numeric _ (named.trans stands.named), named, stands.named]
  exact ⟨rfl, rfl⟩

theorem reaches_iff {service} (stands : Own service own supplied) :
    Reaches service own.businessID supplied ↔ ∃ integration,
      service.select own.businessID .vk supplied = some integration ∧
        integration.status = .active ∧ trimMinus integration.externalID = trimMinus supplied := by
  have given : supplied ≠ "" := by
    rintro rfl
    have numeric := stands.numeric
    rw [← stands.named] at numeric
    cases numeric
  unfold Reaches TokenService.select
  simp only [given, ne_eq]
  cases found : service.getByBusinessPlatformExternal own.businessID .vk supplied with
  | some row =>
    have named := List.find?_some found
    simp [of_decide_eq_true named]
  | none =>
    constructor
    · rintro ⟨first, named, listed⟩
      have active := List.find?_some listed
      exact ⟨first, listed, of_decide_eq_true active, named⟩
    · rintro ⟨first, listed, _, named⟩
      exact ⟨first, named, listed⟩

/-- A community is honoured in a form of its id just where it is reached. -/
theorem own_community_honoured_iff (stands : Own handler.tokens own supplied)
    (released : ∀ row, ∃ tokens, handler.tokens.release row = .ok tokens) :
    Honours handler own supplied ↔ Reaches handler.tokens own.businessID supplied := by
  rw [reaches_iff stands]
  constructor
  · intro honours
    let request : ToolRequest :=
      ⟨"vk__publish_post", own.businessID, (∅ : Args).insert "group_id" (.str supplied), ""⟩
    have named : stringArg request.args "group_id" = supplied := by
      simp [request, stringArg, -AList.insert_empty]
    obtain ⟨performed, performs⟩ : ∃ performed, handler.handle request = .ok performed :=
      honours.publishes request rfl named
    obtain ⟨row, _, selected, group⟩ := on_of_handle performs
    rw [honours.acts request performed rfl named performs] at group
    refine ⟨row, named ▸ selected.1, selected.2.1, ?_⟩
    rw [← trimMinus_ensureNegativeGroupID, ← group, trimMinus_ensureNegativeGroupID, stands.named]
  · rintro ⟨row, selected, active, community⟩
    obtain ⟨tokens, given⟩ := released row
    have releases : handler.tokens.Releases own.businessID .vk supplied row tokens := ⟨selected, active, given⟩
    obtain ⟨onOwn, asSupplied⟩ := stands.same community
    constructor
    · intro request performed business named performs
      obtain ⟨other, _, found, group⟩ := on_of_handle performs
      rw [business, named] at found
      cases selected.symm.trans found.1
      exact group.trans onOwn
    · intro request business named
      have found := getClient_ok.mpr ⟨row, tokens, by rw [business, named]; exact releases,
        fun _ => by rw [named]; exact asSupplied, rfl, rfl⟩
      exact ⟨_, bind_ok.mpr ⟨_, found, rfl⟩⟩
    · intro request business named refused
      have fetched := fetchToken_ok.mpr ⟨row, tokens, releases, rfl⟩
      simp only [Handler.mutatePost, bind_error, expect_error, require_error, business, named,
        fetched, foreignCommunity] at refused
      simp [asSupplied, pure, Except.pure] at refused

namespace Sample

/-- Two communities; the second is addressed as its posts report it. -/
def communities : Handler where
  tokens :=
    { integrations := [⟨"acme", .vk, "111", .active⟩, ⟨"acme", .vk, "222", .active⟩]
      release := fun row => .ok ⟨"group-" ++ row.externalID, "admin"⟩ }
  serviceKey := ""
  now := 0
  parseRFC3339 := fun _ => none

def naming (tool groupID : String) : ToolRequest where
  tool := tool
  businessID := "acme"
  args := (((∅ : Args).insert "text" (.str "open")).insert "post_id" (.num 7)).insert "group_id" (.str groupID)
  approvalID := ""

end Sample

/-- Both communities are honoured under their stored ids. -/
theorem own_community_honoured_iff_stored : Honours Sample.communities ⟨"acme", .vk, "222", .active⟩ "222" :=
  (own_community_honoured_iff ⟨by decide, rfl, by decide, rfl⟩ fun _ => ⟨_, rfl⟩).mpr (by rfl)

/-- The reported id posts to the other community and deletes nothing. -/
theorem reported_community_missed :
    Own Sample.communities.tokens ⟨"acme", .vk, "222", .active⟩ "-222" ∧
      Sample.communities.handle (Sample.naming "vk__publish_post" "-222") =
        .ok ⟨"group-111", .publishPost "-111" "open"⟩ ∧
      Sample.communities.handle (Sample.naming "vk__delete_post" "-222") = .error foreignCommunity := by
  exact ⟨⟨by decide, rfl, by decide, rfl⟩, by decide +kernel, by decide +kernel⟩

end OneVoice.Agents.Vk
