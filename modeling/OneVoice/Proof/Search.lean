/- A search lists the distinct conversations of its hits in the order of their ranks. -/

import OneVoice.Construction.Search
import Mathlib.Order.ConditionallyCompleteLattice.Basic
import Mathlib.Data.Int.ConditionallyCompleteOrder
import Mathlib.Data.Prod.Lex
import Mathlib.Data.String.Basic

namespace OneVoice.Search

open Library List

variable {Score Hit : Type}

section

variable {key : Hit → String} {hits : List Hit} (unique : (hits.map key).Nodup)

include unique

/-- With one hit for a key, a search by key finds exactly the hit that has it. -/
theorem find_eq_some {id hit} : hits.find? (key · = id) = some hit ↔ hit ∈ hits ∧ key hit = id := by
  induction hits with
  | nil => simp
  | cons head rest ih =>
    rw [map_cons, nodup_cons] at unique
    grind

/-- The loop leaves a row as it was, or writes it for the one hit of its key. -/
theorem lookup_putRows {row} (byID : StringMap (SearchResult Score)) (id : String) :
    (putRows key row byID hits).lookup id =
      ((hits.find? (key · = id)).map (row (byID.lookup id))).or (byID.lookup id) := by
  induction hits generalizing byID with
  | nil => rfl
  | cons head rest ih =>
    rw [map_cons, nodup_cons] at unique
    change (putRows key row (byID.insert _ _) rest).lookup id = _
    rw [ih unique.2]
    by_cases same : key head = id
    · subst same
      have last : rest.find? (key · = key head) = none := by grind
      simp [last]
    · simp [same, AList.lookup_insert_ne (Ne.symm same)]

end

section

variable [LinearOrder Score]

/-- The score descends, then the time of the last message, and the identifier ascends. -/
abbrev Rank (Score : Type) : Type := Scoreᵒᵈ ×ₗ WithTop Intᵒᵈ ×ₗ String

/-- A row without a message time stands after those with one. -/
def SearchResult.rank (row : SearchResult Score) : Rank Score :=
  toLex (.toDual row.score, toLex (row.lastMessageAt.elim ⊤ fun time => .some (.toDual time), row.conversationID))

/-- The comparison of the source is the order of the ranks. -/
theorem less_iff {first second : SearchResult Score} : less first second ↔ first.rank < second.rank := by
  unfold less SearchResult.rank
  rcases first.lastMessageAt with _ | ai <;> rcases second.lastMessageAt with _ | aj <;>
    simp [Prod.Lex.toLex_lt_toLex] <;> grind

/-- Rows of distinct conversations are sorted strictly. -/
theorem pairwise_rank {rows : List (SearchResult Score)} (distinct : (rows.map (·.conversationID)).Nodup) :
    (rows.mergeSort fun first second => ¬ less second first).Pairwise fun first second =>
      first.rank < second.rank := by
  have apart := pairwise_map.mp (((mergeSort_perm rows fun first second =>
    ¬ less second first).map _).nodup_iff.mpr distinct)
  have sorted := @pairwise_mergeSort _ (fun first second => ¬ less second first)
    (by simp only [less_iff]; grind) (by simp only [less_iff]; grind) rows
  refine (sorted.and apart).imp fun {first second} ⟨sorted, apart⟩ => ?_
  simp only [less_iff, decide_eq_true_eq, not_lt] at sorted
  refine sorted.lt_of_ne fun same => apart ?_
  exact congrArg (fun rank : Rank Score => (ofLex (ofLex rank).2).2) same

end

/-- The hits of a search, with one hit of a conversation in each list. -/
structure Hits (Score : Type) where
  titles : List (ConversationTitleHit Score)
  messages : List (MessageSearchHit Score)
  titles_nodup : (titles.map (·.id)).Nodup
  messages_nodup : (messages.map (·.conversationID)).Nodup

namespace Hits

section

variable (hits : Hits Score) (id : String)

/-- The hit on the title of a conversation. -/
def title : Option (ConversationTitleHit Score) := hits.titles.find? (·.id = id)

/-- The hit on the messages of a conversation. -/
def message : Option (MessageSearchHit Score) := hits.messages.find? (·.conversationID = id)

variable {hits id}

/-- The title hit of a conversation is the one that carries its identifier. -/
theorem title_eq_some {hit} :
    hits.title id = some hit ↔ hit ∈ hits.titles ∧ hit.id = id := find_eq_some hits.titles_nodup

/-- The message hit of a conversation is the one that carries its identifier. -/
theorem message_eq_some {hit} : hits.message id = some hit ↔ hit ∈ hits.messages ∧ hit.conversationID = id :=
  find_eq_some hits.messages_nodup

end

variable [LinearOrder Score] [Mul Score] (query : Query Score) (hits : Hits Score) (id : String)

/-- The weighted scores of the hits of a conversation. -/
def weighted : Set Score :=
  { score | (∃ hit ∈ hits.titles, hit.id = id ∧ score = hit.score * query.titleW) ∨
    ∃ hit ∈ hits.messages, hit.conversationID = id ∧ score = hit.topScore * query.contentW }

/-- The map that the two loops fill. -/
def byID : StringMap (SearchResult Score) := mergeHits query hits.titles hits.messages

/-- A conversation's row is its message row over its title row. -/
theorem lookup_byID : (hits.byID query).lookup id =
    ((hits.message id).map (messageRow query ((hits.title id).map (titleRow query)))).or
      ((hits.title id).map (titleRow query)) := by
  simp [byID, mergeHits, title, message, lookup_putRows hits.titles_nodup, lookup_putRows hits.messages_nodup]

/-- The map has a row for each conversation with a hit, and for no other. -/
theorem mem_byID : id ∈ hits.byID query ↔
    id ∈ hits.titles.map (·.id) ∨ id ∈ hits.messages.map (·.conversationID) := by
  rw [← AList.lookup_isSome, lookup_byID]
  simp [title, message, or_comm]

variable {hits id}

/-- A row has the greatest weighted score of its hits and the time of its title hit. -/
theorem row_spec {row} (found : (hits.byID query).lookup id = some row) :
    row.conversationID = id ∧ IsGreatest (hits.weighted query id) row.score ∧
      row.lastMessageAt = (hits.title id).bind (·.lastMessageAt) := by
  rw [lookup_byID] at found
  simp only [IsGreatest, upperBounds, weighted, ← and_assoc, ← title_eq_some, ← message_eq_some]
  rcases title : hits.title id with _ | titleHit <;>
    rcases message : hits.message id with _ | msgHit <;>
    simp only [title, message, Option.map_none, Option.map_some, Option.none_or,
      Option.some_or, Option.some.injEq, reduceCtorEq] at found <;> subst found
  · simp [messageRow, (message_eq_some.mp message).2]
  · simp [titleRow, (title_eq_some.mp title).2]
  · simp [messageRow, titleRow, (title_eq_some.mp title).2]
    grind

/-- The rows carry the keys under which they are stored. -/
theorem ids_byID : ((hits.byID query).entries.map Sigma.snd).map (·.conversationID) = (hits.byID query).keys := by
  rw [map_map]
  refine map_congr_left fun entry listed => ?_
  exact (row_spec query (AList.mem_lookup_iff.mpr listed)).1

/-- The row of a conversation is the same in every order of the hits. -/
theorem byID_perm {other : Hits Score} (titles : other.titles ~ hits.titles)
    (messages : other.messages ~ hits.messages) : (other.byID query).entries ~ (hits.byID query).entries := by
  refine lookup_ext (AList.nodupKeys _) (AList.nodupKeys _) fun id row => ?_
  have title : other.title id = hits.title id :=
    Option.ext fun hit => by rw [title_eq_some, title_eq_some, titles.mem_iff]
  have message : other.message id = hits.message id :=
    Option.ext fun hit => by rw [message_eq_some, message_eq_some, messages.mem_iff]
  have same := other.lookup_byID query id
  rw [title, message, ← lookup_byID] at same
  exact iff_of_eq (congrArg (row ∈ ·) same)

end Hits

/-- Neither the order of the hits nor that of the map shows in a search. -/
theorem search_ranked_union [LinearOrder Score] [Mul Score] (query : Query Score) (hits : Hits Score) :
    ∃ ranked : List (SearchResult Score), ranked.Pairwise (fun first second => first.rank < second.rank) ∧
      (ranked.map (·.conversationID)).Nodup ∧ (∀ id, id ∈ ranked.map (·.conversationID) ↔
        id ∈ hits.titles.map (·.id) ∨ id ∈ hits.messages.map (·.conversationID)) ∧
      (∀ row ∈ ranked, IsGreatest (hits.weighted query row.conversationID) row.score ∧
        row.lastMessageAt = (hits.title row.conversationID).bind (·.lastMessageAt)) ∧
      ∀ (other : Hits Score) range limit, other.titles ~ hits.titles →
        other.messages ~ hits.messages → (∀ rows, range rows ~ rows) →
          mergeAndRank query range other.titles other.messages limit = ranked.take limit := by
  have distinct := Hits.ids_byID query ▸ (hits.byID query).keys_nodup
  have sorted := mergeSort_perm ((hits.byID query).entries.map Sigma.snd) fun first second => ¬ less second first
  refine ⟨_, pairwise_rank distinct, (sorted.map _).nodup_iff.mpr distinct, fun id => ?_,
    fun row listed => ?_, fun other range limit titles messages ranges => ?_⟩
  · rw [(sorted.map _).mem_iff, Hits.ids_byID]
    exact hits.mem_byID query id
  · obtain ⟨⟨id, _⟩, entry, rfl⟩ := mem_map.mp (sorted.mem_iff.mp listed)
    obtain ⟨rfl, spec⟩ := Hits.row_spec query (AList.mem_lookup_iff.mpr entry)
    exact spec
  · have same := (ranges _).trans ((Hits.byID_perm query titles messages).map Sigma.snd)
    refine congrArg (take limit) (Perm.eq_of_pairwise (fun _ _ _ _ before after => (lt_asymm before after).elim)
      (pairwise_rank ((same.map _).nodup_iff.mpr distinct)) (pairwise_rank distinct) ?_)
    exact (mergeSort_perm _ _).trans (same.trans sorted.symm)

end OneVoice.Search
