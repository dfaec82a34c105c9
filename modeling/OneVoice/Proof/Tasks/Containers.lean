import OneVoice.Construction.Containers

namespace OneVoice.Containers

open List Option

variable {Plain : Type}

/-- One step into a value. -/
inductive Step where
  | key (name : String)
  | index (index : Nat)

/-- What a value has itself: a plain value, or the length of an array. -/
inductive Shape (Plain : Type) where
  | plain (value : Plain)
  | keyed
  | listed (length : Nat)

variable (entries : List (String × Value Plain)) (value : Value Plain)

namespace Value

/-- What a value has itself, whatever the type of its container. -/
def shape : Value Plain → Shape Plain
  | plain value => .plain value
  | document _ _ => .keyed
  | array _ items => .listed items.length

/-- The part of a value behind one step. -/
def child : Value Plain → Step → Option (Value Plain)
  | document _ entries, .key name => assigned name entries
  | array _ items, .index index => items[index]?
  | _, _ => none

/-- The part of a value at the end of a path. -/
def part (path : List Step) : Option (Value Plain) := path.foldlM child value

/-- No container of the driver, and a map with one entry for each of its keys. -/
def Native : Value Plain → Prop
  | plain _ => True
  | document type entries => type = .map ∧ (entries.map Prod.fst).Nodup
  | array type _ => type = .slice

end Value

/-- The items are normalised one by one. -/
theorem normalizeItems_eq (items : List (Value Plain)) : normalizeItems items = items.map normalizeBSONContainer := by
  induction items with
  | nil => simp [normalizeItems]
  | cons item rest ih => simp [normalizeItems, ih]

/-- A key keeps the last value that is assigned to it. -/
theorem assigned_normalizeEntries (key : String) (entries : List (String × Value Plain)) :
    assigned key (normalizeEntries entries) = (assigned key entries).map normalizeBSONContainer := by
  induction entries with
  | nil => simp [normalizeEntries, assigned]
  | cons entry rest ih =>
    rw [normalizeEntries, assigned]
    split
    · rename_i again
      rw [ih]
      by_cases same : entry.1 = key
      · obtain ⟨last, found⟩ := isSome_iff_exists.mp (same ▸ again)
        rw [found]
        rfl
      · rw [if_neg same, or_none]
    · rw [assigned, ih, Option.map_or, apply_ite (Option.map normalizeBSONContainer)]
      rfl

/-- A listed key has a value. -/
theorem isSome_assigned {key : String} {entries : List (String × Value Plain)} (listed : key ∈ entries.map Prod.fst) :
    (assigned key entries).isSome = true := by
  induction entries with
  | nil => cases listed
  | cons entry rest ih =>
    rw [assigned, isSome_or, Bool.or_eq_true]
    cases listed with
    | head => exact .inr (by simp)
    | tail _ later => exact .inl (ih later)

/-- The entries that are left have distinct keys. -/
theorem nodup_normalizeEntries : ((normalizeEntries entries).map Prod.fst).Nodup := by
  induction entries with
  | nil => simp [normalizeEntries]
  | cons entry rest ih =>
    rw [normalizeEntries]
    split
    · exact ih
    · rename_i last
      refine nodup_cons.mpr ⟨fun listed => last ?_, ih⟩
      simpa [assigned_normalizeEntries] using isSome_assigned listed

/-- The outermost container becomes one of the language. -/
theorem native_normalize : (normalizeBSONContainer value).Native := by
  cases value with
  | plain value => simp [normalizeBSONContainer, Value.Native]
  | document type entries => simp [normalizeBSONContainer, Value.Native, nodup_normalizeEntries entries]
  | array type items => simp [normalizeBSONContainer, Value.Native]

/-- The outermost container keeps its shape. -/
theorem shape_normalize : (normalizeBSONContainer value).shape = value.shape := by
  cases value <;> simp [normalizeBSONContainer, Value.shape, normalizeItems_eq]

/-- The normalisation reaches every part of a value. -/
theorem part_normalize (path : List Step) :
    (normalizeBSONContainer value).part path = (value.part path).map normalizeBSONContainer := by
  induction path generalizing value with
  | nil => rfl
  | cons step path ih =>
    have below : (normalizeBSONContainer value).child step = (value.child step).map normalizeBSONContainer := by
      cases value <;> cases step <;>
        simp [normalizeBSONContainer, Value.child, assigned_normalizeEntries, normalizeItems_eq]
    simp only [Value.part, foldlM_cons, below]
    cases value.child step with
    | none => rfl
    | some child => exact ih child

mutual

/-- A second normalisation changes nothing. -/
theorem normalize_normalize : ∀ value : Value Plain,
    normalizeBSONContainer (normalizeBSONContainer value) = normalizeBSONContainer value
  | .plain _ => by simp only [normalizeBSONContainer]
  | .document _ entries => by simp only [normalizeBSONContainer, normalizeEntries_normalizeEntries entries]
  | .array _ items => by simp only [normalizeBSONContainer, normalizeItems_normalizeItems items]

theorem normalizeEntries_normalizeEntries : ∀ entries : List (String × Value Plain),
    normalizeEntries (normalizeEntries entries) = normalizeEntries entries
  | [] => by simp only [normalizeEntries]
  | (key, item) :: rest => by
    have below := normalizeEntries_normalizeEntries rest
    rw [normalizeEntries]
    split
    · exact below
    · rename_i last
      rw [normalizeEntries, assigned_normalizeEntries, isSome_map, if_neg last, below,
        normalize_normalize item]

theorem normalizeItems_normalizeItems : ∀ items : List (Value Plain),
    normalizeItems (normalizeItems items) = normalizeItems items
  | [] => by simp only [normalizeItems]
  | item :: rest => by
    simp only [normalizeItems, normalize_normalize item, normalizeItems_normalizeItems rest]

end

/-- Every part keeps its content and loses the type that the driver gave it. -/
theorem containers_normalised :
    (∀ path, ∀ part ∈ (normalizeBSONContainer value).part path, part.Native) ∧
      (∀ path, ((normalizeBSONContainer value).part path).map Value.shape = (value.part path).map Value.shape) ∧
      normalizeBSONContainer (normalizeBSONContainer value) = normalizeBSONContainer value := by
  refine ⟨fun path part found => ?_, fun path => ?_, normalize_normalize value⟩
  · rw [part_normalize] at found
    obtain ⟨before, _, rfl⟩ := map_eq_some_iff.mp found
    exact native_normalize before
  · rw [part_normalize, Option.map_map]
    congr 1
    exact funext shape_normalize

end OneVoice.Containers
