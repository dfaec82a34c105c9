import OneVoice.Proof.Resume.Bodies

namespace OneVoice.Resume

open Library Domain Agent List EntryPoint Registry TelegramApprovalConsumer

/-- Two scopes agree as sets. -/
structure SameScope (first second : Scope) : Prop where
  active : ∀ platform, platform ∈ first.active ↔ platform ∈ second.active
  whitelistMode : first.whitelistMode = second.whitelistMode
  allowedTools : ∀ toolName, toolName ∈ first.allowedTools ↔ toolName ∈ second.allowedTools

/-- The scope that a body spells, before any limit on its size. -/
def sentScope (sent : Option Json) : Scope := ((sent.bind decodeResumeBody).getD .zero).scope

variable (agent : Orchestrator) (locale : Agent.Locale)

/-- The tools that the resumed loop offers after it has read the body. -/
def offeredAfter (model : String) (batch : PendingToolCallBatch) (sent : Option Json) : List String :=
  offeredToolSet (Loop.resume agent
    (resumeRequest locale model batch.id (readResumeBody sent)) batch).state.availableTools

theorem offeredAfter_eq (model : String) (batch : PendingToolCallBatch) (sent : Option Json) :
    offeredAfter agent locale model batch sent = (readResumeBody sent).scope.offered agent.tools locale batch := by
  unfold offeredAfter Loop.resume
  split
  · rfl
  · split
    · rfl
    · split <;> rfl

theorem mem_scopedIntegrations (active selected : List String) (scopeSet : Bool) (platform : String) :
    platform ∈ scopedIntegrations active selected scopeSet ↔
      platform ∈ active ∧ (scopeSet = true → platform ∈ selected) := by
  cases scopeSet with
  | false => simp [scopedIntegrations]
  | true => simp [scopedIntegrations, mem_intersectSelectedPlatforms]

/-- Scopes that agree as sets offer the same names in every locale. -/
theorem SameScope.offered {first second} (same : SameScope first second) (registry : Registry)
    (locale other : Agent.Locale) (batch : PendingToolCallBatch) (toolName : String) :
    toolName ∈ first.offered registry locale batch ↔ toolName ∈ second.offered registry other batch := by
  have inScope : ∀ platform, platform ∈ scopedIntegrations first.active batch.selectedPlatforms
      batch.platformScopeSet ↔ platform ∈ scopedIntegrations second.active
      batch.selectedPlatforms batch.platformScopeSet := by
    intro platform
    rw [mem_scopedIntegrations, mem_scopedIntegrations, same.active]
  have admitted : registry.admits first.whitelistMode first.allowedTools toolName =
      registry.admits second.whitelistMode second.allowedTools toolName := by
    rw [same.whitelistMode]
    cases second.whitelistMode with
    | explicit => simp only [admits, whitelisted, contains_eq_mem, same.allowedTools]
    | _ => rfl
  rw [Scope.offered, Scope.offered, mem_offeredToolSet_availableForWhitelist,
    mem_offeredToolSet_availableForWhitelist, platformActive_congr inScope, admitted]

section

variable {UUID : Type}

variable (integrations : List (Integration UUID))

theorem mem_distinctActive (platform : String) :
    platform ∈ distinctActive integrations ↔ ∃ row ∈ integrations, row.status = .active ∧
        row.platform = platform := by
  have loop : ∀ (rest : List (Integration UUID)) seen,
      platform ∈ distinctActive.go rest seen ↔ platform ∈ seen ∨
        ∃ row ∈ rest, row.status = .active ∧ row.platform = platform := by
    intro rest
    induction rest with
    | nil => intro seen; simp [distinctActive.go]
    | cons head rest ih =>
      intro seen
      rw [distinctActive.go]
      split
      · grind
      · grind
  have result := loop integrations []
  simpa [distinctActive] using result

theorem nodup_distinctActive : (distinctActive integrations).Nodup := by
  have loop : ∀ (rest : List (Integration UUID)) seen, seen.Nodup → (distinctActive.go rest seen).Nodup := by
    intro rest
    induction rest with
    | nil => intro seen distinct; exact nodup_reverse.mpr distinct
    | cons head rest ih =>
      intro seen distinct
      rw [distinctActive.go]
      split
      · rename_i fresh
        exact ih _ (nodup_cons.mpr ⟨fresh.2, distinct⟩)
      · exact ih _ distinct
  exact loop integrations [] nodup_nil

end

def supportedPlatforms : List String := ["telegram", "vk", "yandex_business", "google_business"]

section

variable {UUID : Type} [DecidableEq UUID]

/-- No integration of the business is active on Google Business. -/
def NoActiveGoogle (db : Database UUID) (businessID : UUID) : Prop :=
  ∀ row ∈ listByBusinessID db businessID, row.status = .active → row.platform ≠ "google_business"

variable {db : Database UUID} {businessID : UUID}

/-- The consumer finds the active platforms that are among its own. -/
theorem mem_active_telegramConsumer (platform : String) :
    platform ∈ telegramConsumer.active db businessID ↔ platform ∈ platforms ∧
        platform ∈ distinctActive (listByBusinessID db businessID) := by
  rw [active, mem_filter, mem_distinctActive]
  simp only [listByBusinessAndPlatform, listByBusinessID]
  grind

end

section

variable {UUID : Type} [DecidableEq UUID] [UUIDFormat UUID]

/-- The two paths send equal scopes and lead to the same tools. -/
def ResumesAlike (db : Database UUID) (batch : PendingToolCallBatch) : Prop :=
  ∀ (entry other : EntryPoint UUID) (sent sentOther : Option Json),
    entry.send db batch = .ok sent → other.send db batch = .ok sentOther →
      SameScope (sentScope sent) (sentScope sentOther) ∧
        ∀ agent locale localeOther model toolName,
          toolName ∈ offeredAfter agent locale model batch sent ↔
            toolName ∈ offeredAfter agent localeOther model batch sentOther

/-- No active platform is in scope and the whitelist restricts nothing. -/
def ScopeBlank (db : Database UUID) (batch : PendingToolCallBatch) (businessID : UUID) : Prop :=
  (∀ row ∈ listByBusinessID db businessID, row.status = .active →
    batch.platformScopeSet = true ∧ row.platform ∉ batch.selectedPlatforms) ∧
  (projectFields db.project batch.projectID).whitelistMode ≠ "explicit" ∧
  (projectFields db.project batch.projectID).whitelistMode ≠ "none"

variable {db : Database UUID} {batch : PendingToolCallBatch} {business : Business UUID}

theorem sentScope_body (entry : EntryPoint UUID) :
    sentScope (some (entry.body db batch business)) = entry.scope db batch business := by
  obtain ⟨decoded, equal, carries⟩ := entry.decode_body db batch business
  rw [sentScope, Option.bind_some, equal, Option.getD_some, carries.scope]

section

variable (supported : ∀ row ∈ db.integrations, row.platform ∈ supportedPlatforms)
  (absent : NoActiveGoogle db business.id)

include supported absent

omit [UUIDFormat UUID] in
/-- Without active Google Business every path finds the same platforms. -/
theorem active_perm (entry : EntryPoint UUID) :
    (entry.active db business.id).Perm (distinctActive (listByBusinessID db business.id)) := by
  cases entry with
  | httpResume => exact .refl _
  | chatRejoin => exact .refl _
  | telegramConsumer =>
    have distinct : (telegramConsumer.active db business.id).Nodup := List.Nodup.filter _ (by decide)
    apply (perm_ext_iff_of_nodup distinct (nodup_distinctActive _)).mpr
    intro platform
    rw [mem_active_telegramConsumer]
    constructor
    · exact And.right
    · intro active
      obtain ⟨row, member, live, rfl⟩ := (mem_distinctActive _ _).mp active
      have known := supported row (mem_of_mem_filter member)
      simp only [supportedPlatforms, mem_cons] at known
      simp only [platforms, mem_cons]
      tauto

theorem sameScope_of_absent (entry other : EntryPoint UUID) :
    SameScope (entry.scope db batch business) (other.scope db batch business) where
  active platform := by
    change platform ∈ entry.active db business.id ↔ platform ∈ other.active db business.id
    rw [(active_perm supported absent entry).mem_iff, (active_perm supported absent other).mem_iff]
  whitelistMode := rfl
  allowedTools _ := Iff.rfl

omit [UUIDFormat UUID] in
/-- The order in which a path lists the platforms does not change the size of its body. -/
theorem policyBody_size (entry other : EntryPoint UUID) (approvals : Option ApprovalMap) (fields : ProjectFields) :
    (policyBody (entry.active db business.id) approvals fields).encodedSize =
      (policyBody (other.active db business.id) approvals fields).encodedSize := by
  have same := (active_perm supported absent entry).trans (active_perm supported absent other).symm
  have sizes := Json.itemsSize_perm (same.map Json.str)
  simp only [policyBody, Json.encodedSize, Json.fieldsSize, encodeStrings, Json.encodeList, sizes]

/-- Only two sizes matter, the policy-carrying body's and the rejoin's. -/
theorem fits_iff (entry : EntryPoint UUID) (conversationID : String) :
    entry.Fits db batch business ↔ if entry.carriesPolicy then telegramConsumer.Fits db batch business
      else (chatRejoin conversationID).Fits db batch business := by
  cases entry with
  | httpResume callerBusinessID conversation =>
    have sizes := policyBody_size supported absent (.httpResume callerBusinessID conversation) .telegramConsumer
    simp only [EntryPoint.Fits, body, carriesPolicy, if_true, sizes]
  | chatRejoin => rfl
  | telegramConsumer => rfl

variable {conversationID : String}

theorem telegramConsumer_fits_chatRejoin (fits : telegramConsumer.Fits db batch business) :
    (chatRejoin conversationID).Fits db batch business := by
  have sizes := policyBody_size supported absent .telegramConsumer (.chatRejoin conversationID)
  simp only [EntryPoint.Fits, body, carriesPolicy, if_true, sizes] at fits
  refine Nat.le_trans ?_ fits
  -- The body of the rejoin leaves two fields out.
  change (rejoinBody _ _).encodedSize ≤ _
  simp only [rejoinBody, policyBody, Json.encodedSize, Json.fieldsSize]
  omega

theorem fits_of_policy (policy : telegramConsumer.Fits db batch business)
    (entry : EntryPoint UUID) : entry.Fits db batch business := by
  apply (fits_iff supported absent entry "").mpr
  cases entry.carriesPolicy with
  | true => exact policy
  | false => exact telegramConsumer_fits_chatRejoin supported absent policy

theorem not_fits_of_rejoin (rejoin : ¬ (chatRejoin conversationID).Fits db batch business)
    (entry : EntryPoint UUID) : ¬ entry.Fits db batch business := by
  intro fits
  apply rejoin
  have either := (fits_iff supported absent entry conversationID).mp fits
  cases policy : entry.carriesPolicy with
  | true =>
    rw [if_pos policy] at either
    exact telegramConsumer_fits_chatRejoin supported absent either
  | false =>
    rw [if_neg (Bool.not_eq_true _ ▸ policy)] at either
    exact either

end

variable {mode : WhitelistMode}

theorem ofString_ne {raw} (differs : raw ≠ mode.toString) : WhitelistMode.ofString raw ≠ mode := by
  rintro rfl
  rw [WhitelistMode.toString_ofString] at differs
  exact differs rfl

theorem admits_unrestricted (registry : Registry) (allowed : List String) (toolName : String)
    (notExplicit : mode ≠ .explicit) (notNone : mode ≠ .none) : registry.admits mode allowed toolName = true := by
  cases mode <;> simp_all [admits]

section

variable (blank : ScopeBlank db batch business.id) (entry : EntryPoint UUID)

include blank entry

/-- No path of a blank scope reports a platform in the batch's scope. -/
theorem ScopeBlank.inactive (platform : String) :
    platform ∈ scopedIntegrations (entry.active db business.id) batch.selectedPlatforms batch.platformScopeSet ↔
      platform ∈ scopedIntegrations [] batch.selectedPlatforms batch.platformScopeSet := by
  rw [mem_scopedIntegrations, mem_scopedIntegrations]
  refine iff_of_false ?_ (by simp)
  rintro ⟨active, selected⟩
  have known : platform ∈ distinctActive (listByBusinessID db business.id) := by
    cases entry with
    | httpResume => exact active
    | chatRejoin => exact active
    | telegramConsumer => exact ((mem_active_telegramConsumer platform).mp active).2
  obtain ⟨row, member, live, rfl⟩ := (mem_distinctActive _ _).mp known
  obtain ⟨scopeSet, unselected⟩ := blank.1 row member live
  exact unselected (selected scopeSet)

/-- A blank scope offers what an unread body offers. -/
theorem ScopeBlank.offered (registry : Registry) (locale other : Agent.Locale) (toolName : String) :
    toolName ∈ (entry.scope db batch business).offered registry locale batch ↔
      toolName ∈ Scope.unread.offered registry other batch := by
  have admitted : registry.admits (entry.scope db batch business).whitelistMode
      (entry.scope db batch business).allowedTools toolName = true :=
    admits_unrestricted registry _ toolName (ofString_ne blank.2.1) (ofString_ne blank.2.2)
  rw [Scope.offered, Scope.offered, mem_offeredToolSet_availableForWhitelist,
    mem_offeredToolSet_availableForWhitelist, admitted]
  change _ ∧ platformActive (scopedIntegrations (entry.active db business.id)
    batch.selectedPlatforms batch.platformScopeSet) toolName = true ∧ _ ↔ _
  rw [platformActive_congr (blank.inactive entry) toolName]
  rfl

/-- Read or not, a blank scope offers what an unread body does. -/
theorem ScopeBlank.offered_read (registry : Registry) (locale : Agent.Locale) (toolName : String) :
    toolName ∈ (if entry.Fits db batch business then entry.scope db batch business
        else Scope.unread).offered registry locale batch ↔
      toolName ∈ Scope.unread.offered registry .english batch := by
  split
  · exact blank.offered entry registry locale .english toolName
  · exact SameScope.offered ⟨fun _ => Iff.rfl, rfl, fun _ => Iff.rfl⟩ registry locale .english batch toolName

end

end

open Agent.Sample

/-- An installation that registers one tool. -/
def probe (entry : RegistryEntry) : Orchestrator := { orchestrator with tools := newRegistry.register entry }

theorem mem_offered_probe {name floor locale} {scope : Scope} {batch : PendingToolCallBatch} :
    name ∈ scope.offered (probe (tool name floor [])).tools locale batch ↔
      platformActive (scopedIntegrations scope.active batch.selectedPlatforms batch.platformScopeSet) name = true ∧
      (probe (tool name floor [])).tools.admits scope.whitelistMode scope.allowedTools name = true := by
  have registered : ∃ entry ∈ (probe (tool name floor [])).tools.entries, entry.definition.name = name :=
    ⟨tool name floor [], mem_cons_self, rfl⟩
  rw [Scope.offered, mem_offeredToolSet_availableForWhitelist]
  exact and_iff_right registered

theorem lookup_probe (name : String) (floor : ToolFloor) :
    (probe (tool name floor [])).tools.tools.lookup name = some (tool name floor []) :=
  AList.lookup_insert _

variable {allowed : List String} {name : String}

theorem admits_auto_probe {mode} (listed : mode ≠ .none) :
    (probe (tool name .auto [])).tools.admits mode allowed name = true := by
  have found := lookup_probe name .auto
  cases mode with
  | explicit =>
    simp only [admits, whitelisted, found]
    simp [tool]
  | none => exact absurd rfl listed
  | _ => rfl

theorem toolPlatform?_supported {platform} (supported : platform ∈ supportedPlatforms) :
    toolPlatform? (platform ++ "__probe") = some platform := by
  simp only [supportedPlatforms, mem_cons, not_mem_nil, or_false] at supported
  rcases supported with rfl | rfl | rfl | rfl <;> decide

theorem beforeSeparator_replicate (count : Nat) : beforeSeparator (replicate count 'a') = none := by
  induction count with
  | zero => rfl
  | succ count ih =>
    rw [replicate_succ, beforeSeparator, ih]
    · rfl
    · intro rest equal
      cases equal

/-- Some name without a platform part is missing from any list. -/
theorem exists_plain_name (allowed : List String) : ∃ name ∉ allowed, toolPlatform? name = none := by
  have longer : ∃ bound, ∀ name ∈ allowed, name.toList.length < bound := by
    induction allowed with
    | nil => exact ⟨0, by simp⟩
    | cons head rest ih =>
      obtain ⟨bound, shorter⟩ := ih
      refine ⟨max bound (head.toList.length + 1), ?_⟩
      rw [forall_mem_cons]
      constructor
      · omega
      · intro name member
        have := shorter name member
        omega
  obtain ⟨bound, shorter⟩ := longer
  refine ⟨String.ofList (replicate bound 'a'), ?_, ?_⟩
  · intro member
    have length := shorter _ member
    rw [String.toList_ofList, length_replicate] at length
    omega
  · rw [toolPlatform?, String.toList_ofList, beforeSeparator_replicate]
    rfl

/-- The scope offers what an unread body offers, whatever the registry. -/
def OffersUnread (scope : Scope) (batch : PendingToolCallBatch) : Prop :=
  ∀ (agent : Orchestrator) locale toolName,
    toolName ∈ scope.offered agent.tools locale batch ↔ toolName ∈ Scope.unread.offered agent.tools locale batch

namespace OffersUnread

variable {scope : Scope} {batch : PendingToolCallBatch} {name platform : String}

section

variable (same : OffersUnread scope batch)

include same

theorem admits_plain (plain : toolPlatform? name = none) (floor : ToolFloor) :
    (probe (tool name floor [])).tools.admits scope.whitelistMode scope.allowedTools name = true := by
  have unread : name ∈ Scope.unread.offered (probe (tool name floor [])).tools .english batch :=
    mem_offered_probe.mpr ⟨by simp only [platformActive, plain], rfl⟩
  exact (mem_offered_probe.mp ((same (probe (tool name floor [])) .english name).mpr unread)).2

theorem listed : scope.whitelistMode ≠ .none := by
  intro none
  obtain ⟨name, _, plain⟩ := exists_plain_name []
  have admitted := same.admits_plain plain .auto
  rw [none] at admitted
  exact Bool.noConfusion admitted

theorem not_explicit : scope.whitelistMode ≠ .explicit := by
  intro explicit
  obtain ⟨name, fresh, plain⟩ := exists_plain_name scope.allowedTools
  have admitted := same.admits_plain plain .manual
  have found := lookup_probe name .manual
  simp only [explicit, admits, whitelisted, found] at admitted
  simp [tool, fresh] at admitted

/-- An active platform's tool would be offered; an unread body has none. -/
theorem inactive (named : toolPlatform? name = some platform) :
    platform ∉ scopedIntegrations scope.active batch.selectedPlatforms batch.platformScopeSet := by
  intro active
  have offered : name ∈ scope.offered (probe (tool name .auto [])).tools .english
      batch := by
    rw [mem_offered_probe]
    constructor
    · simpa only [platformActive, named, contains_eq_mem, decide_eq_true_eq] using active
    · exact admits_auto_probe same.listed
  have unread := (same (probe (tool name .auto [])) .english name).mp offered
  rw [mem_offered_probe] at unread
  have reported := unread.1
  simp only [platformActive, named, contains_eq_mem, decide_eq_true_eq] at reported
  rw [mem_scopedIntegrations] at reported
  exact not_mem_nil reported.1

end

end OffersUnread

section

variable {UUID : Type} [DecidableEq UUID] [UUIDFormat UUID] {db : Database UUID}
  {batch : PendingToolCallBatch} {business : Business UUID}

section

variable (lookups : LookupsSucceed db batch business)

include lookups

theorem send_telegramConsumer :
    telegramConsumer.send db batch = .ok (some (telegramConsumer.body db batch business)) := by
  have sends : telegramConsumer.send db batch = .ok _ := rfl
  rw [sends, send_body lookups sends]

theorem send_chatRejoin :
    (chatRejoin batch.conversationID).send db batch =
      .ok (some ((chatRejoin batch.conversationID).body db batch business)) := by
  have sends : (chatRejoin batch.conversationID).send db batch =
      .ok (Turn.resumeBody db batch.businessID batch.projectID) := if_neg (not_not.mpr rfl)
  rw [sends, send_body lookups sends]

/-- The consumer never reports Google Business, so agreeing paths do not. -/
theorem ResumesAlike.noActiveGoogle (alike : ResumesAlike db batch) : NoActiveGoogle db business.id := by
  intro row member live google
  have same := (alike _ _ _ _ (send_chatRejoin lookups) (send_telegramConsumer lookups)).1
  rw [sentScope_body, sentScope_body] at same
  have active : "google_business" ∈ distinctActive (listByBusinessID db business.id) :=
    (mem_distinctActive _ _).mpr ⟨row, member, live, google⟩
  have found := (mem_active_telegramConsumer "google_business").mp ((same.active "google_business").mp active)
  exact absurd found.1 (by decide)

/-- When only the rejoin is read, agreeing paths offer as if unread. -/
theorem ResumesAlike.offersUnread (alike : ResumesAlike db batch)
    (tooLarge : ¬ telegramConsumer.Fits db batch business)
    (fits : (chatRejoin batch.conversationID).Fits db batch business) :
    OffersUnread ((chatRejoin batch.conversationID).scope db batch business) batch := by
  intro agent locale toolName
  have offered := (alike _ _ _ _ (send_chatRejoin lookups) (send_telegramConsumer lookups)).2
    agent locale locale "" toolName
  rw [offeredAfter_eq, offeredAfter_eq, readResumeBody_scope, readResumeBody_scope, if_pos fits,
    if_neg tooLarge] at offered
  exact offered

/-- So agreement on every registry leaves the scope blank. -/
theorem ResumesAlike.scopeBlank (supported : ∀ row ∈ db.integrations, row.platform ∈ supportedPlatforms)
    (alike : ResumesAlike db batch) (tooLarge : ¬ telegramConsumer.Fits db batch business)
    (fits : (chatRejoin batch.conversationID).Fits db batch business) : ScopeBlank db batch business.id := by
  have same := alike.offersUnread lookups tooLarge fits
  refine ⟨?_, ?_, ?_⟩
  · intro row member live
    by_contra inside
    have selected : batch.platformScopeSet = true → row.platform ∈ batch.selectedPlatforms := by
      intro scopeSet
      by_contra unselected
      exact inside ⟨scopeSet, unselected⟩
    have active : row.platform ∈ distinctActive (listByBusinessID db business.id) :=
      (mem_distinctActive _ _).mpr ⟨row, member, live, rfl⟩
    have named := toolPlatform?_supported (supported row (mem_of_mem_filter member))
    exact same.inactive named ((mem_scopedIntegrations ..).mpr ⟨active, selected⟩)
  · intro explicit
    exact same.not_explicit (congrArg WhitelistMode.ofString explicit)
  · intro none
    exact same.listed (congrArg WhitelistMode.ofString none)

end

/-- The paths resume alike exactly when no Google Business integration is active and a body is read,
or already the rejoin is too large, or nothing is in scope. -/
theorem resumesAlike_iff (lookups : LookupsSucceed db batch business)
    (supported : ∀ row ∈ db.integrations, row.platform ∈ supportedPlatforms) :
    ResumesAlike db batch ↔ NoActiveGoogle db business.id ∧ (telegramConsumer.Fits db batch business ∨
          ¬ (chatRejoin batch.conversationID).Fits db batch business ∨ ScopeBlank db batch business.id) := by
  constructor
  · intro alike
    refine ⟨alike.noActiveGoogle lookups, ?_⟩
    by_cases policy : telegramConsumer.Fits db batch business
    · exact .inl policy
    · by_cases rejoin : (chatRejoin batch.conversationID).Fits db batch business
      · exact .inr (.inr (alike.scopeBlank lookups supported policy rejoin))
      · exact .inr (.inl rejoin)
  · rintro ⟨absent, sizes⟩ entry other sent sentOther sends sendsOther
    obtain rfl := send_body lookups sends
    obtain rfl := send_body lookups sendsOther
    have same : SameScope (entry.scope db batch business)
        (other.scope db batch business) := sameScope_of_absent supported absent entry other
    refine ⟨?_, ?_⟩
    · rw [sentScope_body, sentScope_body]
      exact same
    · intro agent locale localeOther model toolName
      rw [offeredAfter_eq, offeredAfter_eq, readResumeBody_scope, readResumeBody_scope]
      rcases sizes with policy | rejoin | blank
      · rw [if_pos (fits_of_policy supported absent policy entry),
          if_pos (fits_of_policy supported absent policy other)]
        exact same.offered agent.tools locale localeOther batch toolName
      · rw [if_neg (not_fits_of_rejoin supported absent rejoin entry),
          if_neg (not_fits_of_rejoin supported absent rejoin other)]
        exact SameScope.offered ⟨fun _ => Iff.rfl, rfl, fun _ => Iff.rfl⟩ agent.tools locale
          localeOther batch toolName
      · rw [blank.offered_read, blank.offered_read]

end

/-- With only a Telegram integration the three paths of the sample batch agree. -/
theorem resumesAlike_telegram : ResumesAlike (Sample.database "telegram" none) approvedBatch :=
  (resumesAlike_iff (Sample.lookupsSucceed "telegram" none) (by decide)).mpr
    ⟨by simp [NoActiveGoogle, listByBusinessID, Sample.database], .inl (by decide)⟩

/-- The consumer withholds the Google Business tools that others offer. -/
theorem not_resumesAlike_google_business :
    LookupsSucceed (Sample.database "google_business" none) approvedBatch (Sample.business none) ∧
      (∀ row ∈ (Sample.database "google_business" none).integrations, row.platform ∈ supportedPlatforms) ∧
      ¬ ResumesAlike (Sample.database "google_business" none) approvedBatch := by
  have lookups := Sample.lookupsSucceed "google_business" none
  refine ⟨lookups, by decide, ?_⟩
  intro alike
  have absent := alike.noActiveGoogle lookups
  exact absent ⟨(), "google_business", .active⟩ mem_cons_self rfl rfl

end OneVoice.Resume
