/- The tool catalogue of `toolregistry/registry.go` and the platform scope of
`pkg/tools/platform_scope.go`. -/

import OneVoice.Construction.Hitl.Policy

namespace OneVoice.Agent

open Library Domain

/-- The two locales that a request context can carry. -/
inductive Locale where
  | english
  | russian
deriving DecidableEq

/-- The executor of a tool is nil when its agent transport is unavailable. -/
structure RegistryEntry where
  definition : ToolDefinition
  descriptionEn : String
  parameterDescriptionsEn : StringMap String
  hasExecutor : Bool
  floor : ToolFloor
  editableFields : List String

/-- Registration stores each entry under the name of its own definition. -/
structure Registry where
  tools : StringMap RegistryEntry
  named : ∀ name entry, tools.lookup name = some entry → entry.definition.name = name

variable (registry : Registry)

namespace Registry

def newRegistry : Registry := ⟨∅, fun name entry found => by simp at found⟩

def register (entry : RegistryEntry) : Registry where
  tools := registry.tools.insert entry.definition.name entry
  named name stored found := by
    by_cases same : name = entry.definition.name
    · subst same
      rw [AList.lookup_insert] at found
      exact (Option.some.inj found) ▸ rfl
    · rw [AList.lookup_insert_ne same] at found
      exact registry.named name stored found

/-- An unknown tool is forbidden. -/
def floor (registry : Registry) (toolName : String) : ToolFloor :=
  match registry.tools.lookup toolName with
  | some entry => entry.floor
  | none => .forbidden

def editableFields (registry : Registry) (toolName : String) : List String :=
  match registry.tools.lookup toolName with
  | some entry => entry.editableFields
  | none => []

end Registry

/-- This is `name[:strings.Index(name, "__")]`, on the characters of the name. -/
def beforeSeparator : List Char → Option (List Char)
  | '_' :: '_' :: _ => some []
  | char :: rest => (beforeSeparator rest).map (char :: ·)
  | [] => none

def toolPlatform? (toolName : String) : Option String := (beforeSeparator toolName.toList).map String.ofList

/-- A property of a parameter schema takes its English description, if any. -/
def localizeProperty (translations : StringMap String) (name : String) (raw : Json) : Json :=
  match raw, translations.lookup name with
  | .obj fields, some description =>
    if description = "" then raw
    else .obj (fields.filter (·.1 ≠ "description") ++ [("description", .str description)])
  | _, _ => raw

def localizeParameters (parameters : Json) (translations : StringMap String) : Json :=
  match parameters with
  | .obj fields =>
    match Json.field? "properties" fields with
    | some (.obj []) => parameters
    | some (.obj properties) =>
      .obj (fields.filter (·.1 ≠ "properties") ++ [("properties",
        .obj (properties.map fun entry => (entry.1, localizeProperty translations entry.1 entry.2)))])
    | _ => parameters
  | _ => parameters

def localizeDef (entry : RegistryEntry) (locale : Locale) : ToolDefinition :=
  match locale with
  | .russian => entry.definition
  | .english =>
    { entry.definition with
      description := if entry.descriptionEn = "" then entry.definition.description
        else entry.descriptionEn
      parameters := if entry.parameterDescriptionsEn.keys = [] then entry.definition.parameters
        else localizeParameters entry.definition.parameters entry.parameterDescriptionsEn }

variable (locale : Locale) (activeIntegrations : List String)

/-- A tool without a platform part is always active. -/
def platformActive (toolName : String) : Bool :=
  match toolPlatform? toolName with
  | none => true
  | some platform => activeIntegrations.contains platform

variable (mode : WhitelistMode) (allowed : List String)

namespace Registry

def entries (registry : Registry) : List RegistryEntry := registry.tools.entries.map Sigma.snd

def availableLocalized (activeIntegrations : List String) (locale : Locale) : List ToolDefinition :=
  (registry.entries.filter fun entry =>
    platformActive activeIntegrations entry.definition.name).map (localizeDef · locale)

/-- The explicit mode keeps listed registered tools and every automatic one. -/
def whitelisted (toolName : String) : Bool :=
  (allowed.contains toolName && (registry.tools.lookup toolName).isSome) ||
    (match registry.tools.lookup toolName with
      | some entry => entry.floor == .auto
      | none => false)

def availableForWhitelist : List ToolDefinition :=
  let base := registry.availableLocalized activeIntegrations locale
  match mode with
  | .inherit | .all => base
  | .none => []
  | .explicit => base.filter fun definition => registry.whitelisted allowed definition.name
  | .other _ _ => base

end Registry

/-- This is the name set that the dispatch paths check against. -/
def offeredToolSet (definitions : List ToolDefinition) : List String := definitions.map ToolDefinition.name

/-- The loop keeps each platform that the scope selected, once. -/
def intersectSelectedPlatforms (active selected : List String) : List String := go active []
where
  go : List String → List String → List String
    | [], seen => seen.reverse
    | platform :: rest, seen =>
      if selected.contains platform = false then go rest seen
      else if seen.contains platform then go rest seen
      else go rest (platform :: seen)

@[simp] theorem localizeDef_name (entry : RegistryEntry) (locale : Locale) :
    (localizeDef entry locale).name = entry.definition.name := by
  cases locale <;> rfl

/-- The whitelist lets a tool through. -/
def Registry.admits (toolName : String) : Bool :=
  match mode with
  | .explicit => registry.whitelisted allowed toolName
  | .none => false
  | _ => true

/-- A tool is offered if registered, on an active platform and whitelisted. -/
theorem mem_offeredToolSet_availableForWhitelist (toolName : String) :
    toolName ∈ offeredToolSet (registry.availableForWhitelist locale activeIntegrations mode allowed) ↔
      (∃ entry ∈ registry.entries, entry.definition.name = toolName) ∧
        platformActive activeIntegrations toolName = true ∧ registry.admits mode allowed toolName = true := by
  have base : toolName ∈ offeredToolSet (registry.availableLocalized activeIntegrations locale) ↔
      (∃ entry ∈ registry.entries, entry.definition.name = toolName) ∧
        platformActive activeIntegrations toolName = true := by
    simp only [offeredToolSet, Registry.availableLocalized, List.map_map, List.mem_map,
      List.mem_filter, Function.comp, localizeDef_name]
    constructor
    · rintro ⟨entry, ⟨member, active⟩, rfl⟩
      exact ⟨⟨entry, member, rfl⟩, active⟩
    · rintro ⟨⟨entry, member, rfl⟩, active⟩
      exact ⟨entry, ⟨member, active⟩, rfl⟩
  cases mode with
  | inherit | all | other =>
    rw [Registry.availableForWhitelist, base]
    simp [Registry.admits]
  | none => simp [Registry.availableForWhitelist, Registry.admits, offeredToolSet]
  | explicit =>
    have listed : toolName ∈ offeredToolSet (registry.availableForWhitelist locale
        activeIntegrations .explicit allowed) ↔
        toolName ∈ offeredToolSet (registry.availableLocalized activeIntegrations locale) ∧
          registry.whitelisted allowed toolName = true := by
      simp only [offeredToolSet, Registry.availableForWhitelist, List.mem_map, List.mem_filter]
      constructor
      · rintro ⟨definition, ⟨member, passes⟩, rfl⟩
        exact ⟨⟨definition, member, rfl⟩, passes⟩
      · rintro ⟨⟨definition, member, rfl⟩, passes⟩
        exact ⟨definition, ⟨member, passes⟩, rfl⟩
    rw [listed, base, and_assoc]
    rfl

/-- The scope keeps the selected platforms of the fresh list. -/
theorem mem_intersectSelectedPlatforms (active selected : List String) (platform : String) :
    platform ∈ intersectSelectedPlatforms active selected ↔ platform ∈ active ∧ platform ∈ selected := by
  have loop : ∀ rest seen, platform ∈ intersectSelectedPlatforms.go selected rest seen ↔
      platform ∈ seen ∨ platform ∈ rest ∧ platform ∈ selected := by
    intro rest
    induction rest with
    | nil => intro seen; simp [intersectSelectedPlatforms.go]
    | cons head rest ih =>
      intro seen
      rw [intersectSelectedPlatforms.go]
      split
      · rename_i unselected
        rw [ih seen]
        grind
      · split
        · rename_i known
          rw [ih seen]
          grind
        · rename_i chosen _
          rw [ih (head :: seen)]
          grind
  have result := loop active []
  simpa [intersectSelectedPlatforms] using result

theorem platformActive_congr {active others}
    (same : ∀ platform, platform ∈ active ↔ platform ∈ others) (toolName : String) :
    platformActive active toolName = platformActive others toolName := by
  unfold platformActive
  split
  · rfl
  · rename_i platform _
    simp only [List.contains_eq_mem, same platform]

end OneVoice.Agent
