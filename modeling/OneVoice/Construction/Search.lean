/- The ranking of `search.go`: one row for each conversation that a query hits. -/

import OneVoice.Library.Json

namespace OneVoice.Search

open Library

structure ConversationTitleHit (Score : Type) where
  id : String
  title : String
  titleStatus : String
  createdAt : Int
  projectID : Option String
  lastMessageAt : Option Int
  score : Score

structure MessageSearchHit (Score : Type) where
  conversationID : String
  topMessageID : String
  topContent : String
  topScore : Score
  matchCount : Nat

structure SearchResult (Score : Type) where
  titleStatus : String := ""
  createdAt : Option Int := none
  conversationID : String
  title : String := ""
  projectID : Option String := none
  snippet : String := ""
  matchCount : Nat := 0
  topMessageID : String := ""
  score : Score
  marks : List (Nat × Nat) := []
  lastMessageAt : Option Int := none

/-- The weights, and the texts that a query shows of a message. -/
structure Query (Score : Type) where
  titleW : Score
  contentW : Score
  buildSnippet : String → String
  highlightRanges : String → List (Nat × Nat)

variable {Score : Type} [LinearOrder Score]

/-- A row without a message time comes after those with one. -/
def less (first second : SearchResult Score) : Bool :=
  if first.score ≠ second.score then first.score > second.score
  else
    match first.lastMessageAt, second.lastMessageAt with
    | some ai, some aj =>
      if ai ≠ aj then ai > aj else first.conversationID < second.conversationID
    | some _, none => true
    | none, some _ => false
    | none, none => first.conversationID < second.conversationID

variable [Mul Score] (query : Query Score)

def titleRow (hit : ConversationTitleHit Score) : SearchResult Score where
  conversationID := hit.id
  title := hit.title
  titleStatus := hit.titleStatus
  createdAt := some hit.createdAt
  projectID := hit.projectID
  score := hit.score * query.titleW
  lastMessageAt := hit.lastMessageAt

def messageRow (existing : Option (SearchResult Score)) (hit : MessageSearchHit Score) : SearchResult Score :=
  let score := hit.topScore * query.contentW
  let snippet := query.buildSnippet hit.topContent
  let row := existing.getD { conversationID := hit.conversationID, score := score }
  { row with
    score := if score > row.score then score else row.score
    snippet := snippet
    matchCount := hit.matchCount
    topMessageID := hit.topMessageID
    marks := query.highlightRanges snippet }

/-- The loops write the row of each hit over the one that is there. -/
def putRows {Hit : Type} (key : Hit → String) (row : Option (SearchResult Score) → Hit → SearchResult Score)
    (byID : StringMap (SearchResult Score)) (hits : List Hit) : StringMap (SearchResult Score) :=
  hits.foldl (fun byID hit => byID.insert (key hit) (row (byID.lookup (key hit)) hit)) byID

def mergeHits (titleHits : List (ConversationTitleHit Score))
    (msgHits : List (MessageSearchHit Score)) : StringMap (SearchResult Score) :=
  putRows (·.conversationID) (messageRow query) (putRows (·.id) (fun _ => titleRow query) ∅ titleHits) msgHits

/-- The map is read in an order of its own, `range`; a search has a positive limit. -/
def mergeAndRank (range : List (SearchResult Score) → List (SearchResult Score))
    (titleHits : List (ConversationTitleHit Score)) (msgHits : List (MessageSearchHit Score))
    (limit : Nat) : List (SearchResult Score) :=
  let out := range ((mergeHits query titleHits msgHits).entries.map Sigma.snd)
  (out.mergeSort fun first second => ¬ less second first).take limit

end OneVoice.Search
