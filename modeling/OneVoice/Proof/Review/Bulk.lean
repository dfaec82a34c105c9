import Mathlib.Data.List.Induction
import OneVoice.Construction.Review.Sync

namespace OneVoice.Reviews.Document

open Library List SyncedReview

def lookup (docs : List Document) (key : ReviewKey) : Option Document := docs.find? (·.key = key)

/-- No two documents share their natural key. -/
def Single (docs : List Document) : Prop := (docs.map key).Nodup

/-- The last review of a list under a natural key. -/
def last (reviews : List Document) (key : ReviewKey) : Option Document :=
  reviews.reverse.find? fun review => review.externalID ≠ "" ∧ review.key = key

/-- The author of a document is not one of the placeholders. -/
def Known (document : Document) : Prop :=
  document.authorName ≠ vkUnknownUserName ∧ document.authorName ≠ vkUnknownCommunityName

section

variable {write : Option Document → Document} {key : ReviewKey} {docs : List Document}
  (named : ∀ old, (write old).key = key)
include named

theorem keys_place :
    (place write key docs).map Document.key = if key ∈ docs.map Document.key then docs.map Document.key
      else docs.map Document.key ++ [key] := by
  induction docs with
  | nil => simp [place, named]
  | cons document rest ih =>
    unfold place
    by_cases same : document.key = key
    · simp [same, named]
    · simp only [if_neg same, map_cons, ih, mem_cons, Ne.symm same, false_or]
      split <;> rfl

theorem Single.place (single : Single docs) : Single (place write key docs) := by
  rw [Single, keys_place named]
  split
  · exact single
  · next fresh => exact concat_eq_append ▸ single.concat fresh

theorem lookup_place (wanted : ReviewKey) :
    lookup (place write key docs) wanted =
      if key = wanted then some (write (lookup docs wanted)) else lookup docs wanted := by
  unfold lookup
  induction docs with
  | nil => by_cases own : key = wanted <;> simp [place, named]
  | cons document rest ih =>
    unfold place
    by_cases same : document.key = key
    · by_cases own : key = wanted <;> simp [same, named, own]
    · rw [if_neg same, find?_cons, ih]
      by_cases own : document.key = wanted
      · have other : key ≠ wanted := fun equal => same (own.trans equal.symm)
        simp [own, other]
      · simp [own]

end

variable {stored reviews order again docs others : List Document} {document : Document} {key : ReviewKey}

variable (review : Document)

theorem key_update (old : Option Document) : (review.update old).key = review.key := by
  cases old <;> rfl

theorem lookup_eq_some (single : Single docs) :
    lookup docs key = some document ↔ document ∈ docs ∧ document.key = key :=
  @Table.find_eq_some _ _ _ _ document key ⟨docs, single⟩

/-- A list with single keys is determined by its lookups up to order. -/
theorem perm_of_lookup (single : Single docs) (other : Single others)
    (same : ∀ key, lookup docs key = lookup others key) : docs.Perm others := by
  rw [perm_ext_iff_of_nodup single.of_map other.of_map]
  intro document
  have listed := @lookup_eq_some docs document document.key single
  rw [same, lookup_eq_some other] at listed
  simpa using listed.symm

theorem lookup_eq_of_perm (single : Single docs) (perm : order.Perm docs) : lookup order key = lookup docs key := by
  have ordered : Single order := (perm.map Document.key).nodup_iff.mpr single
  ext document
  rw [lookup_eq_some ordered, lookup_eq_some single, perm.mem_iff]

theorem Single.bulkWrite (single : Single stored) : Single (bulkWrite stored order) := by
  induction order generalizing stored with
  | nil => exact single
  | cons review rest ih => exact ih (single.place review.key_update)

/-- Updates under different keys do not touch each other. -/
theorem lookup_bulkWrite (distinct : Single order) :
    lookup (bulkWrite stored order) key = match lookup order key with
      | none => lookup stored key
      | some review => some (review.update (lookup stored key)) := by
  induction order generalizing stored with
  | nil => rfl
  | cons review rest ih =>
    obtain ⟨fresh, distinct⟩ := nodup_cons.mp distinct
    have written := @lookup_place review.update review.key stored review.key_update key
    refine (ih distinct).trans ?_
    rw [upsertInto, written]
    by_cases own : review.key = key
    · have absent : lookup rest key = none := by
        rw [lookup, find?_eq_none]
        intro later member same
        rw [decide_eq_true_eq] at same
        exact fresh (mem_map.mpr ⟨later, member, same.trans own.symm⟩)
      rw [absent]
      simp [own, lookup]
    · simp [own, lookup]

theorem single_models (reviews : List Document) : Single (models reviews) := by
  induction reviews using reverseRecOn with
  | nil => exact nodup_nil
  | append_singleton reviews review ih =>
    rw [models, foldl_append]
    show Single (collapse (models reviews) review)
    unfold collapse
    split
    · exact ih
    · exact ih.place fun _ => rfl

/-- A bulk write holds the last review under each key. -/
theorem lookup_models (reviews : List Document) (key : ReviewKey) :
    lookup (models reviews) key = last reviews key := by
  induction reviews using reverseRecOn with
  | nil => rfl
  | append_singleton reviews review ih =>
    rw [models, foldl_append, last, reverse_append, reverse_singleton, singleton_append, find?_cons, ← last, ← ih]
    show lookup (collapse (models reviews) review) key = _
    unfold collapse
    by_cases empty : review.externalID = ""
    · simp [empty]
    · rw [if_neg empty, lookup_place fun _ => rfl]
      by_cases own : review.key = key <;> simp [empty, own]

theorem upsert_upsert (old : Option SyncedReview) (incoming : SyncedReview) :
    upsert (some (incoming.upsert old)) incoming = incoming.upsert old := by
  cases incoming
  cases old with
  | none | some review => grind [upsert]

theorem key_last {review} (newest : last reviews key = some review) : review.key = key := by
  have named := find?_some newest
  rw [decide_eq_true_eq] at named
  exact named.2

/-- A bulk write leaves each key an update with its last review. -/
theorem lookup_settled (perm : order.Perm (models reviews)) (stored : List Document) (key : ReviewKey) :
    lookup (bulkWrite stored order) key = match last reviews key with
      | none => lookup stored key
      | some review => some (review.update (lookup stored key)) := by
  rw [lookup_bulkWrite ((perm.map Document.key).nodup_iff.mpr (single_models reviews)),
    lookup_eq_of_perm (single_models reviews) perm, lookup_models]

/-- A second update with the same review changes nothing. -/
theorem update_update (old : Option Document) : review.update (some (review.update old)) = review.update old := by
  cases old with
  | none =>
    simp only [update, mk.injEq]
    exact ⟨upsert_upsert none _, trivial, trivial, ite_self _⟩
  | some document =>
    simp only [update, mk.injEq]
    exact ⟨upsert_upsert (some _) _, trivial, trivial, by split <;> rfl⟩

/-- What an update of a stored document leaves of it. -/
structure Kept (document after : Document) : Prop where
  key : after.key = document.key
  id : after.id = document.id
  createdAt : after.createdAt = document.createdAt
  replied : document.replyStatus = .replied → after.replyStatus = .replied
  known : document.platform = .vk → document.Known → after.Known

theorem Kept.refl (document : Document) : Kept document document :=
  ⟨rfl, rfl, rfl, fun replied => replied, fun _ known => known⟩

theorem kept_update (same : review.key = document.key) : Kept document (review.update (some document)) where
  key := same
  id := rfl
  createdAt := rfl
  replied replied := by simp [update, upsert, replied]
  known vk known := by
    have platform : review.platform = .vk := (congrArg ReviewKey.platform same).trans vk
    simp only [update, upsert, platform, true_and]
    split
    · exact known
    · next absent => exact not_or.mp absent

/-- In whatever order the updates run, each key keeps a single document, the one that an update with
its last review leaves, and a second write changes nothing. -/
theorem bulk_upsert_settles (single : Single stored) (one : order.Perm (models reviews))
    (two : again.Perm (models reviews)) :
    Single (bulkWrite stored order) ∧ (bulkWrite stored order).Perm (bulkWrite stored again) ∧
    (∀ key, lookup (bulkWrite stored order) key = match last reviews key with
      | none => lookup stored key
      | some review => some (review.update (lookup stored key))) ∧
    (∀ key review, last reviews key = some review →
      lookup (bulkWrite stored order) key = lookup (upsertInto stored review) key) ∧
    (∀ document ∈ stored, ∃ after ∈ bulkWrite stored order, Kept document after) ∧
    (bulkWrite (bulkWrite stored order) again).Perm (bulkWrite stored order) := by
  refine ⟨single.bulkWrite, ?_, lookup_settled one stored, ?_, ?_, ?_⟩
  · apply perm_of_lookup single.bulkWrite single.bulkWrite
    intro key
    rw [lookup_settled one, lookup_settled two]
  · intro key review newest
    rw [lookup_settled one, newest, upsertInto, lookup_place review.key_update, if_pos (key_last newest)]
  · intro document member
    have found := lookup_settled one stored document.key
    rw [(lookup_eq_some single).mpr ⟨member, rfl⟩] at found
    split at found
    · exact ⟨document, ((lookup_eq_some single.bulkWrite).mp found).1, .refl document⟩
    · next review newest =>
      exact ⟨_, ((lookup_eq_some single.bulkWrite).mp found).1, kept_update review (key_last newest)⟩
  · apply perm_of_lookup single.bulkWrite.bulkWrite single.bulkWrite
    intro key
    rw [lookup_settled two, lookup_settled one]
    split
    · rfl
    · rw [update_update]

def comment (externalID authorName : String) (replyStatus : ReplyStatus) : Document :=
  { businessID := "b", platform := .vk, externalID, authorName, rating := 0, text := "",
    replyText := "", replyStatus, platformMeta := {}, id := externalID, createdAt := 0 }

/-- An answered comment comes twice, the second time without a name. -/
theorem bulk_upsert_settles_answered :
    ∃ after ∈ bulkWrite [comment "1" "Anna" .replied]
      [comment "2" "Ivan" .pending, comment "1" vkUnknownUserName .pending],
      Kept (comment "1" "Anna" .replied) after := by
  have brought : [comment "2" "Ivan" .pending, comment "1" vkUnknownUserName .pending].Perm
      (models [comment "1" "Anna" .pending, comment "2" "Ivan" .pending,
        comment "1" vkUnknownUserName .pending]) := .swap ..
  have stored : Single [comment "1" "Anna" .replied] := nodup_singleton _
  obtain ⟨-, -, -, -, kept, -⟩ := bulk_upsert_settles stored brought brought
  exact kept _ mem_cons_self

end OneVoice.Reviews.Document
