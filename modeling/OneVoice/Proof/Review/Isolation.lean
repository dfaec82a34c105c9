import OneVoice.Construction.Review.Ingest
import OneVoice.Proof.Agents.Tenancy
import OneVoice.Proof.Review.Replies

namespace OneVoice.Reviews

open Library Domain Agents List Ingest Ingest.Step

/-- The chats' public names, and each channel's group. -/
structure Chats where
  directory : String → Option Int
  discussion : Int → Option Int

/-- A chat of a business: a connected channel or its discussion group. -/
def OwnChat (chats : Chats) (integrations : List Integration) (businessID : String) (chat : Int) : Prop :=
  ∃ externalID channel, Owns integrations businessID .telegram externalID ∧
    Telegram.recipient chats.directory externalID = some channel ∧
    (chat = channel ∨ chats.discussion channel = some chat)

/-- The chat of an update that becomes a review. -/
def sourceChat (update : Telegram.Update) : Option Int :=
  (update.message.or update.channelPost).bind fun message =>
    message.reviewEntry.bind fun _ => message.chat.map fun chat => chat.id.value

/-- The content of a review is the one of an update. -/
def SyncedReview.Shows (review : SyncedReview) (update : Telegram.Update) : Prop :=
  ∃ entry, update.reviewEntry = some entry ∧
    review.externalID = (reviewFromMap entry review.businessID .telegram).externalID ∧
    review.authorName = (reviewFromMap entry review.businessID .telegram).authorName ∧
    review.text = (reviewFromMap entry review.businessID .telegram).text ∧
    review.platformMeta = (reviewFromMap entry review.businessID .telegram).platformMeta

/-- The condition on the updates of a business. -/
def Confined (own : String → Int → Prop) (businessID : String) (updates : List Telegram.Update) : Prop :=
  ∀ update ∈ updates, ∀ chat, sourceChat update = some chat → own businessID chat

/-- Each stored review shows a message of a chat of its business. -/
structure Isolated (own : String → Int → Prop) (store : ReviewKey → Option SyncedReview) : Prop where
  traced : ∀ key review, store key = some review →
    ∃ update chat, review.Shows update ∧ sourceChat update = some chat ∧ own key.businessID chat
  apart : ∀ key review update chat, store key = some review → review.Shows update →
    sourceChat update = some chat → own key.businessID chat

/-- A sync fetches only messages from the chats of its own business. -/
def FetchesOwn (own : String → Int → Prop) (ingest : Ingest) : Ingest.Action → Prop
  | .poll id => ∀ sync, ingest.syncs id = some sync → Confined own sync.businessID (ingest.batch sync.offset)
  | _ => True

/-- The store and what is under way are confined to own chats. -/
structure Sound (own : String → Int → Prop) (ingest : Ingest) : Prop where
  fetched : ∀ id sync, ingest.syncs id = some sync → Confined own sync.businessID sync.fetched
  stored : ∀ key review, ingest.store key = some review →
    ∃ update chat, review.Shows update ∧ sourceChat update = some chat ∧ own key.businessID chat

section Entries

variable {update : Telegram.Update} {entry : Args}

/-- An update with an entry has a message, whose chat is the review's. -/
theorem sourceChat_of_reviewEntry (kept : update.reviewEntry = some entry) :
    ∃ chat, sourceChat update = some chat ∧ ∀ businessID,
      (reviewFromMap entry businessID .telegram).platformMeta.chatID = some chat := by
  obtain ⟨message, carried, made⟩ := Option.bind_eq_some_iff.mp kept
  obtain ⟨chat, found, -⟩ := reviewEntry_coordinates made
  refine ⟨chat.id.value, ?_, fun businessID => ?_⟩
  · simp [sourceChat, carried, made, found]
  · rw [platformMeta_of_reviewEntry found made businessID]

theorem chatID_of_shows {review : SyncedReview} {chat : Int} (shows : review.Shows update)
    (source : sourceChat update = some chat) : review.platformMeta.chatID = some chat := by
  obtain ⟨entry, kept, _, _, _, coordinates⟩ := shows
  obtain ⟨other, named, carried⟩ := sourceChat_of_reviewEntry kept
  rw [coordinates, carried, ← named, source]

end Entries

variable {review : SyncedReview} (chat : WireInt)

/-- Whatever is placed in a list was there or is new. -/
theorem mem_placeReview {out placed}
    (member : placed ∈ placeReview out review) : placed ∈ out ∨ placed = review := by
  unfold placeReview at member
  split at member
  · exact .inl member
  split at member
  · obtain ⟨old, listed, same⟩ := mem_map.mp member
    split at same
    · exact .inr same.symm
    · exact .inl (same ▸ listed)
  · simpa using member

theorem mem_dedupeReviewsByExternalID {entries businessID platform}
    (member : review ∈ dedupeReviewsByExternalID entries businessID platform) :
    ∃ entry ∈ entries, review = reviewFromMap entry businessID platform := by
  have loop : ∀ (reviews out : List SyncedReview), review ∈ reviews.foldl placeReview out →
      review ∈ out ∨ review ∈ reviews := by
    intro reviews
    induction reviews with
    | nil => exact fun out listed => .inl listed
    | cons first rest ih =>
      intro out listed
      rcases ih _ listed with earlier | later
      · rcases mem_placeReview earlier with old | new
        · exact .inl old
        · exact .inr (by simp [new])
      · exact .inr (mem_cons_of_mem _ later)
  rcases loop _ _ member with none | listed
  · cases none
  · obtain ⟨entry, source, same⟩ := mem_map.mp listed
    exact ⟨entry, source, same.symm⟩

/-- An incoming review comes from an update in an own chat. -/
def SyncedReview.FromOwn (own : String → Int → Prop) (review : SyncedReview) : Prop :=
  ∃ update entry chat, update.reviewEntry = some entry ∧ sourceChat update = some chat ∧
    own review.businessID chat ∧ review = reviewFromMap entry review.businessID .telegram

section Steps

variable {own : String → Int → Prop} {ingest : Ingest}

theorem fromOwn_of_mem_reviews {sync : Sync} {review : SyncedReview}
    (confined : Confined own sync.businessID sync.fetched) (member : review ∈ sync.reviews) :
    review.FromOwn own := by
  obtain ⟨entry, listed, rfl⟩ := mem_dedupeReviewsByExternalID member
  obtain ⟨update, fetched, kept⟩ := mem_filterMap.mp listed
  obtain ⟨chat, source, _⟩ := sourceChat_of_reviewEntry kept
  exact ⟨update, entry, chat, kept, source, confined update fetched chat source, rfl⟩

/-- An upsert takes the whole content from the incoming review. -/
theorem shows_upsert {update entry} (kept : update.reviewEntry = some entry)
    (stored : Option SyncedReview) (businessID : String) :
    ((reviewFromMap entry businessID .telegram).upsert stored).Shows update := by
  obtain ⟨chat, _, carried⟩ := sourceChat_of_reviewEntry kept
  have present : (reviewFromMap entry businessID .telegram).platformMeta ≠ {} := by
    intro absent
    have chatless := carried businessID
    rw [absent] at chatless
    cases chatless
  cases stored with
  | none => exact ⟨entry, kept, rfl, rfl, rfl, rfl⟩
  | some old =>
    refine ⟨entry, kept, rfl, ?_, rfl, if_pos present⟩
    simp [SyncedReview.upsert, reviewFromMap]

section

variable (sound : Sound own ingest)

include sound

theorem Sound.setSync (id : Nat) {sync}
    (confined : ∀ moved, sync = some moved → Confined own moved.businessID moved.fetched) :
    Sound own (ingest.setSync id sync) where
  fetched := by
    have rest : ∀ other ≠ id, ∀ moved, ingest.syncs other = some moved →
        Confined own moved.businessID moved.fetched :=
      fun other _ moved found => sound.fetched other moved found
    exact Function.forall_update_iff ingest.syncs
      (fun _ cell => ∀ moved, cell = some moved → Confined own moved.businessID moved.fetched)
      |>.mpr ⟨confined, rest⟩
  stored := sound.stored

theorem Sound.endSync (id : Nat) : Sound own (ingest.setSync id none) := by
  apply sound.setSync
  intro moved ended
  cases ended

theorem Sound.queue (queue : List Telegram.Update) : Sound own { ingest with queue := queue } :=
  ⟨sound.fetched, sound.stored⟩

theorem Sound.upsert {review} (fromOwn : review.FromOwn own) : Sound own (ingest.upsert review) where
  fetched := sound.fetched
  stored := by
    obtain ⟨update, entry, chat, kept, source, owned, made⟩ := fromOwn
    have moved : ∀ written, some (review.upsert (ingest.store review.key)) = some written →
        ∃ update chat, written.Shows update ∧ sourceChat update = some chat ∧
          own review.key.businessID chat := by
      rintro _ ⟨⟩
      refine ⟨update, chat, ?_, source, owned⟩
      rw [made]
      exact shows_upsert kept _ _
    exact Function.forall_update_iff ingest.store (fun key cell => ∀ written, cell = some written →
        ∃ update chat, written.Shows update ∧ sourceChat update = some chat ∧ own key.businessID chat)
      |>.mpr ⟨moved, fun key _ => sound.stored key⟩

theorem Sound.bulkUpsert {written}
    (fromOwn : ∀ review ∈ written, review.FromOwn own) : Sound own (ingest.bulkUpsert written) := by
  induction written generalizing ingest with
  | nil => exact sound
  | cons review rest ih =>
    rw [forall_mem_cons] at fromOwn
    exact ih (sound.upsert fromOwn.1) fromOwn.2

end

theorem Confined.append {businessID updates batch}
    (first : Confined own businessID updates) (second : Confined own businessID batch) :
    Confined own businessID (updates ++ batch) := by
  intro update member
  rcases mem_append.mp member with old | new
  · exact first update old
  · exact second update new

theorem Confined.extend {sync : Sync} {batch : List Telegram.Update}
    (first : Confined own sync.businessID sync.fetched) (second : Confined own sync.businessID batch) :
    Confined own (sync.extend batch).businessID (sync.extend batch).fetched := by
  unfold Sync.extend
  split
  · exact first
  · exact first.append second

/-- A step that fetches from own chats only keeps the system sound. -/
theorem Sound.step {handler : Telegram.Handler} {token : String} {action : Ingest.Action}
    {next : Ingest} (taken : Ingest.Step handler token ingest action next)
    (fetches : FetchesOwn own ingest action) (sound : Sound own ingest) : Sound own next := by
  cases taken with
  | arrive update newest | consume offset => exact sound.queue _
  | begin unused released =>
    apply sound.setSync
    rintro _ ⟨⟩
    intro update member
    cases member
  | @poll id sync found polling =>
    apply (sound.queue _).setSync
    rintro _ ⟨⟩
    exact (sound.fetched id sync found).extend (fetches sync found)
  | @pollFailed id sync found polling =>
    apply sound.setSync
    intro moved cut
    unfold Sync.cutOff at cut
    split at cut
    · cases cut
    · cases cut
      exact sound.fetched id sync found
  | @confirm id sync sent found polled =>
    have kept : Sound own (if sent ∧ 0 < sync.offset then ingest.confirm sync.offset else ingest) := by
      split
      · exact sound.queue _
      · exact sound
    apply kept.setSync
    rintro _ ⟨⟩
    exact sound.fetched id sync found
  | @deliver id sync written found answered listed =>
    apply (sound.endSync id).bulkUpsert
    intro review member
    exact fromOwn_of_mem_reviews (sound.fetched id sync found) (listed.subset member)
  | abandon found => exact sound.endSync _

theorem Sound.isolated (sound : Sound own ingest) : Isolated own ingest.store where
  traced := sound.stored
  apart key review update chat found shows source := by
    obtain ⟨origin, other, shown, located, owned⟩ := sound.stored key review found
    have same : some chat = some other := (chatID_of_shows shows source).symm.trans (chatID_of_shows shown located)
    cases same
    exact owned

end Steps

theorem sound_start (own : String → Int → Prop) (queue : List Telegram.Update) :
    Sound own (start queue) where
  fetched _ _ found := by cases found
  stored _ _ found := by cases found

namespace Sample

/-- Two businesses under the system bot, each with channel and group. -/
def chats : Chats where
  directory := fun name =>
    if name = "@acme" then some (-1001) else if name = "@globex" then some (-2001) else none
  discussion := fun channel =>
    if channel = -1001 then some (-1002) else if channel = -2001 then some (-2002) else none

def update : Telegram.Update where
  updateID := 1
  message :=
    some { messageID := comment.messageID, chat := some ⟨chat, "talk"⟩, text := "hello" }

def begun : Ingest := (start [update chat]).setSync 0 (some { businessID := "acme", limit := 50 })

def fetched (chat : WireInt) : Sync := { businessID := "acme", limit := 50, offset := 2, fetched := [update chat] }

def acmeGroup : WireInt := group.id

def globexGroup : WireInt := ⟨-2002, by decide⟩

open Agents.Sample

theorem own_acmeGroup : OwnChat chats telegram.tokens.integrations "acme" acmeGroup.value :=
  ⟨"@acme", -1001, ⟨⟨"acme", .telegram, "@acme", .active⟩, by decide, rfl, rfl, rfl⟩,
    by decide +kernel, .inr rfl⟩

theorem own_globexGroup : OwnChat chats telegram.tokens.integrations "globex" globexGroup.value :=
  ⟨"@globex", -2001, ⟨⟨"globex", .telegram, "@globex", .active⟩, by decide, rfl, rfl, rfl⟩,
    by decide +kernel, .inr rfl⟩

theorem not_own_globexGroup : ¬ OwnChat chats telegram.tokens.integrations "acme" globexGroup.value := by
  rintro ⟨externalID, channel, owned, reached, located⟩
  have named : externalID = "@acme" := by
    simpa [Owns, telegram, eq_comm] using owned
  have connected : Telegram.recipient chats.directory "@acme" = some (-1001) := by decide +kernel
  rw [named] at reached
  cases reached
  revert located
  decide

/-- The first business syncs while one message waits. -/
def actions : List Ingest.Action :=
  [.begin 0 "acme", .poll 0, .poll 0, .confirm 0 true, .deliver 0 (fetched chat).reviews]

def polled : Ingest := ((begun chat).confirm 0).setSync 0 (some (fetched chat))

def drained : Ingest := ((polled chat).confirm 2).setSync 0 (some { fetched chat with phase := .polled })

def confirmed : Ingest := ((drained chat).confirm 2).setSync 0 (some { fetched chat with phase := .answered })

def delivered : Ingest := ((confirmed chat).setSync 0 none).bulkUpsert (fetched chat).reviews

theorem run {guard : Ingest → Ingest.Action → Prop} (first : guard (begun chat) (.poll 0))
    (second : guard (polled chat) (.poll 0))
    (others : ∀ ingest action, (∀ id, action ≠ .poll id) → guard ingest action) :
    Run (Guarded (Ingest.Step telegram "system-bot") guard)
      (start [update chat]) (actions chat) (delivered chat) := by
  have released : telegram.handle (syncRequest "acme" "telegram__get_reviews") =
      .ok ⟨"system-bot", .getReviews 50⟩ := by decide +kernel
  have begins : Ingest.Step telegram "system-bot" (start [update chat])
      (.begin 0 "acme") (begun chat) := .begin rfl released
  have polls : Ingest.Step telegram "system-bot" (begun chat) (.poll 0) (polled chat) :=
    @poll _ _ (begun chat) 0 { businessID := "acme", limit := 50 } rfl rfl
  have drains : Ingest.Step telegram "system-bot" (polled chat) (.poll 0)
      (drained chat) := @poll _ _ (polled chat) 0 (fetched chat) rfl rfl
  have confirms : Ingest.Step telegram "system-bot" (drained chat) (.confirm 0 true) (confirmed chat) :=
    @confirm _ _ (drained chat) 0 { fetched chat with phase := .polled } true rfl rfl
  have delivers : Ingest.Step telegram "system-bot" (confirmed chat)
      (.deliver 0 (fetched chat).reviews) (delivered chat) :=
    @deliver _ _ (confirmed chat) 0 { fetched chat with phase := .answered } _ rfl rfl
      (List.Sublist.refl _)
  exact .cons ⟨begins, others _ _ (by simp)⟩ (.cons ⟨polls, first⟩ (.cons ⟨drains, second⟩
    (.cons ⟨confirms, others _ _ (by simp)⟩ (.single ⟨delivers, others _ _ (by simp)⟩))))

end Sample

/-- Where syncs fetch from own chats only, the reviews are from these. -/
theorem synced_reviews_isolated (handler : Telegram.Handler) (token : String) (chats : Chats)
    (queue : List Telegram.Update) {actions : List Ingest.Action} {last : Ingest}
    (run : Run (Guarded (Ingest.Step handler token)
      (FetchesOwn (OwnChat chats handler.tokens.integrations))) (start queue) actions last) :
    Isolated (OwnChat chats handler.tokens.integrations) last.store := by
  have sound : Sound (OwnChat chats handler.tokens.integrations) last :=
    run.invariant (fun _ _ _ taken sound => sound.step taken.1 taken.2) (sound_start _ queue)
  exact sound.isolated

open Sample

theorem synced_reviews_isolated_discussion :
    (delivered acmeGroup).store ⟨"acme", .telegram, "-1002_7"⟩ ≠ none ∧
      Isolated (OwnChat chats telegram.tokens.integrations) (delivered acmeGroup).store := by
  refine ⟨by decide +kernel, synced_reviews_isolated telegram "system-bot" chats
    [update acmeGroup] (run _ ?_ ?_ ?_)⟩
  · rintro _ ⟨⟩ update member chat source
    cases mem_singleton.mp member
    cases source
    exact own_acmeGroup
  · rintro _ ⟨⟩ update member
    cases member
  · intro ingest action other
    cases action with
    | poll id => exact absurd rfl (other id)
    | _ => trivial

theorem sync_takes_foreign_comment :
    ∃ last review,
      Run (Ingest.Step telegram "system-bot") (start [update globexGroup]) (actions globexGroup) last ∧
      last.store ⟨"acme", .telegram, "-2002_7"⟩ = some review ∧ review.text = "hello" ∧
      OwnChat chats telegram.tokens.integrations "globex" (-2002) ∧
      ¬ OwnChat chats telegram.tokens.integrations "acme" (-2002) := by
  have run : Run (Guarded (Ingest.Step telegram "system-bot") fun _ _ => True)
      (start [update globexGroup]) (actions globexGroup) (delivered globexGroup) :=
    run _ trivial trivial fun _ _ _ => trivial
  exact ⟨_, _, run.unguarded, rfl, by decide +kernel, own_globexGroup, not_own_globexGroup⟩

end OneVoice.Reviews
