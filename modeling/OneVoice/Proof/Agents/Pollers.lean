import OneVoice.Construction.Agents.Pollers

namespace OneVoice.Agents.Pollers

open Library List Pollers.Bot Update List.Subset

variable {update : Update}

theorem forCallbacks_of_event (event : update.callbackEvent.isSome) : update.forCallbacks := by
  unfold callbackEvent at event
  unfold forCallbacks
  split at event
  · rfl
  · cases event

theorem forReviews_of_comment (comment : update.isComment) : update.forReviews := by
  have message := (Bool.and_eq_true_iff.mp comment).1
  unfold forStart at message
  unfold forReviews
  split at message
  · next same => simp only [same]
  · cases message

namespace Bot

variable {bot : Bot}

/-- The callbacks below an offset are with their handler. -/
def CallbacksHanded (bot : Bot) (offset : Nat) : Prop :=
  ∀ update ∈ bot.queue, update.callbackEvent.isSome → update.updateID < offset →
    update.updateID ∈ bot.handed.map Prod.fst

/-- The comments below an offset are with some fetch. -/
def CommentsReturned (bot : Bot) (offset : Nat) : Prop :=
  ∀ update ∈ bot.queue, update.isComment → update.updateID < offset → update.updateID ∈ bot.returned

/-- What each consumer knows about the updates of its own type. -/
structure Tidy (bot : Bot) : Prop where
  ordered : Ordered updateID bot.queue
  waiting : ∀ update ∈ bot.queue, update.updateID < bot.nextID
  batchOrdered : Ordered updateID bot.callbacks.batch
  batchWaited : ∀ update ∈ bot.callbacks.batch, update.updateID < bot.nextID
  batchAhead : ∀ update ∈ bot.callbacks.batch, bot.callbacks.offset ≤ update.updateID
  batchWhole : ∀ update ∈ bot.queue, update.forCallbacks →
    ∀ last ∈ bot.callbacks.batch, update.updateID ≤ last.updateID →
      bot.callbacks.offset ≤ update.updateID → update ∈ bot.callbacks.batch
  callbacksOffset : bot.callbacks.offset ≤ bot.nextID
  callbacksHanded : bot.CallbacksHanded bot.callbacks.offset
  startOffset : bot.startOffset ≤ bot.nextID
  startComments : bot.CommentsReturned bot.startOffset
  fetchOffset : ∀ {id fetch}, bot.fetches id = some fetch → fetch.offset ≤ bot.nextID
  fetchComments : ∀ {id fetch}, bot.fetches id = some fetch → bot.CommentsReturned fetch.offset

theorem owes_eq_false (update : Update) :
    bot.owes update = false ↔ (update.callbackEvent.isSome → update.updateID ∈ bot.handed.map Prod.fst) ∧
        (update.isComment → update.updateID ∈ bot.returned) := by
  simp only [owes, Bool.or_eq_false_iff, Bool.and_eq_false_imp, decide_eq_false_iff_not, not_not]

/-- `GetUpdates` loses nothing just when all below its offset was delivered. -/
theorem lost_getUpdates (offset : Nat) :
    (bot.getUpdates offset).lost = [] ↔
      bot.lost = [] ∧ bot.CallbacksHanded offset ∧ bot.CommentsReturned offset := by
  simp only [getUpdates, append_eq_nil_iff, filter_eq_nil_iff, Bool.and_eq_true,
    decide_eq_true_eq, not_and, Bool.not_eq_true, owes_eq_false]
  constructor
  · intro ⟨empty, delivered⟩
    exact ⟨empty, fun update member event below => (delivered update member below).1 event,
      fun update member comment below => (delivered update member below).2 comment⟩
  · intro ⟨empty, handed, returned⟩
    exact ⟨empty, fun update member below => ⟨fun event => handed update member event below,
      fun comment => returned update member comment below⟩⟩

variable {update : Update} {next : Bot}

variable {offset count : Nat} {requested : Update → Bool}

theorem CallbacksHanded.mono (known : bot.CallbacksHanded offset)
    (queue : ∀ update ∈ next.queue, update ∈ bot.queue) (handed : bot.handed ⊆ next.handed) :
    next.CallbacksHanded offset := by
  intro update member event below
  exact map_subset Prod.fst handed (known update (queue update member) event below)

theorem CommentsReturned.mono (known : bot.CommentsReturned offset)
    (queue : ∀ update ∈ next.queue, update ∈ bot.queue) (returned : bot.returned ⊆ next.returned) :
    next.CommentsReturned offset := by
  intro update member comment below
  exact returned (known update (queue update member) comment below)

theorem mem_batch (member : update ∈ bot.batch requested count) : update ∈ bot.queue :=
  mem_of_mem_filter (mem_of_mem_take member)

/-- A batch has all updates of its types up to its last one. -/
theorem Tidy.mem_batch_of_le (tidy : bot.Tidy) {last} (member : update ∈ bot.queue)
    (wanted : requested update) (taken : last ∈ bot.batch requested count)
    (before : update.updateID ≤ last.updateID) : update ∈ bot.batch requested count :=
  (tidy.ordered.filter requested).mem_take (mem_filter.mpr ⟨member, wanted⟩) taken before

namespace Tidy

theorem of_start : start.Tidy where
  ordered := .nil
  waiting := by simp [start]
  batchOrdered := .nil
  batchWaited := by simp [start]
  batchAhead := by simp [start]
  batchWhole := by simp [start]
  callbacksOffset := Nat.le_refl 0
  callbacksHanded := by simp [CallbacksHanded, start]
  startOffset := Nat.le_refl 0
  startComments := by simp [CommentsReturned, start]
  fetchOffset := by simp [start]
  fetchComments := by simp [start]

section

variable (tidy : bot.Tidy)

include tidy

theorem getUpdates (offset : Nat) : (bot.getUpdates offset).Tidy := by
  have kept : ∀ update ∈ (bot.getUpdates offset).queue, update ∈ bot.queue := by
    intro update member
    exact (mem_discard.mp member).1
  exact
    { tidy with
      ordered := tidy.ordered.discard offset
      waiting := fun update member => tidy.waiting update (kept update member)
      batchWhole := fun update member => tidy.batchWhole update (kept update member)
      callbacksHanded := tidy.callbacksHanded.mono kept (refl _)
      startComments := tidy.startComments.mono kept (refl _)
      fetchComments := fun found => (tidy.fetchComments found).mono kept (refl _) }

variable {update : Update} {id : Nat}

theorem arrive (new : bot.nextID ≤ update.updateID) :
    Tidy { bot with queue := bot.queue ++ [update], nextID := update.updateID + 1 } := by
  have larger : ∀ other ∈ bot.queue, other.updateID < update.updateID := by
    intro other member
    exact Nat.lt_of_lt_of_le (tidy.waiting other member) new
  have extended : ∀ {offset}, offset ≤ bot.nextID → offset ≤ update.updateID + 1 := by
    omega
  have comments : ∀ {offset}, offset ≤ bot.nextID → bot.CommentsReturned offset →
      CommentsReturned { bot with queue := bot.queue ++ [update], nextID := update.updateID + 1 }
        offset := by
    intro offset reached known other member comment below
    rcases mem_append.mp member with old | same
    · exact known other old comment below
    · rw [mem_singleton.mp same] at below
      omega
  exact
    { tidy with
      ordered := tidy.ordered.snoc larger
      waiting other member := by
        rcases mem_append.mp member with old | same
        · exact Nat.lt_succ_of_lt (larger other old)
        · rw [mem_singleton.mp same]
          exact Nat.lt_succ_self _
      batchWaited := fun other member => Nat.lt_succ_of_lt (Nat.lt_of_lt_of_le (tidy.batchWaited other member) new)
      batchWhole other member wanted last taken before ahead := by
        rcases mem_append.mp member with old | same
        · exact tidy.batchWhole other old wanted last taken before ahead
        · rw [mem_singleton.mp same] at before
          have waited := tidy.batchWaited last taken
          omega
      callbacksOffset := extended tidy.callbacksOffset
      callbacksHanded other member event below := by
        rcases mem_append.mp member with old | same
        · exact tidy.callbacksHanded other old event below
        · rw [mem_singleton.mp same] at below
          have reached := tidy.callbacksOffset
          dsimp only at below
          omega
      startOffset := extended tidy.startOffset
      startComments := comments tidy.startOffset tidy.startComments
      fetchOffset := fun found => extended (tidy.fetchOffset found)
      fetchComments := fun found => comments (tidy.fetchOffset found) (tidy.fetchComments found) }

theorem receiveCallbacks (count : Nat) (ahead : ∀ update ∈ bot.queue, bot.callbacks.offset ≤ update.updateID) :
    (bot.receiveCallbacks count).Tidy :=
  { tidy with
    batchOrdered := (tidy.ordered.filter _).take count
    batchWaited := fun update member => tidy.waiting update (mem_batch member)
    batchAhead := fun update member => ahead update (mem_batch member)
    batchWhole := fun _ member wanted _ taken before _ =>
      tidy.mem_batch_of_le member wanted taken before }

theorem handOver {rest} (received : bot.callbacks.batch = update :: rest) : (bot.handOver update rest).Tidy := by
  have head : update ∈ bot.callbacks.batch := by simp [received]
  have later : ∀ other ∈ rest, other ∈ bot.callbacks.batch := by
    intro other member
    simp [received, member]
  have split := tidy.batchOrdered
  rw [Ordered, received, pairwise_cons] at split
  -- The callbacks up to the one that is handed over are this one and those that were handed before.
  have whole : ∀ other ∈ bot.queue, other.forCallbacks → ∀ last ∈ bot.callbacks.batch,
      other.updateID ≤ last.updateID → bot.callbacks.offset ≤ other.updateID →
        other = update ∨ other ∈ rest := by
    intro other member wanted last taken before ahead
    have known := tidy.batchWhole other member wanted last taken before ahead
    rwa [received, mem_cons] at known
  exact
    { tidy with
      batchOrdered := split.2
      batchWaited := fun other member => tidy.batchWaited other (later other member)
      batchAhead := fun other member => split.1 other member
      batchWhole other member wanted last taken before ahead := by
        have reached := tidy.batchAhead update head
        have passed : update.updateID + 1 ≤ other.updateID := ahead
        rcases whole other member wanted last (later last taken) before (by omega) with same | found
        · rw [same] at passed
          omega
        · exact found
      callbacksOffset := tidy.batchWaited update head
      callbacksHanded other member event below := by
        have upTo : other.updateID < update.updateID + 1 := below
        show other.updateID ∈ (bot.handed ++ _).map Prod.fst
        rw [map_append, mem_append]
        by_cases passed : other.updateID < bot.callbacks.offset
        · exact .inl (tidy.callbacksHanded other member event passed)
        · rcases whole other member (forCallbacks_of_event event) update head (by omega) (by omega)
            with same | found
          · subst same
            obtain ⟨handed, equal⟩ := Option.isSome_iff_exists.mp event
            simp [equal]
          · have after := split.1 other found
            omega }

theorem receiveStarts (count : Nat) : (bot.receiveStarts count).Tidy := by
  let leading := (bot.batch forStart count).takeWhile fun update => update.startEvent.isSome
  have isFirst : leading ++ (bot.batch forStart count).dropWhile
      (fun update => update.startEvent.isSome) = bot.batch forStart count :=
    takeWhile_append_dropWhile
  cases ends : leading.getLast? with
  | none =>
    have same : (bot.receiveStarts count).startOffset = bot.startOffset := by
      simp only [Bot.receiveStarts]
      rw [ends]
      rfl
    refine { tidy with startOffset := ?_, startComments := ?_ }
    · exact same ▸ tidy.startOffset
    · exact same ▸ tidy.startComments
  | some last =>
    have moved : (bot.receiveStarts count).startOffset = last.updateID + 1 := by
      simp only [Bot.receiveStarts]
      rw [ends]
      rfl
    have handled := mem_of_getLast? ends
    have taken : last ∈ bot.batch forStart count := by
      rw [← isFirst]
      exact mem_append_left _ handled
    refine { tidy with startOffset := ?_, startComments := ?_ }
    · rw [moved]
      exact tidy.waiting last (mem_batch taken)
    · intro update member comment below
      rw [moved] at below
      obtain ⟨wanted, plain⟩ := Bool.and_eq_true_iff.mp comment
      have inBatch := tidy.mem_batch_of_le member wanted taken (by omega)
      have order := (tidy.ordered.filter forStart).take count
      change Ordered _ (bot.batch forStart count) at order
      rw [← isFirst] at order inBatch
      have command := mem_takeWhile_imp (order.mem_of_append inBatch handled (by omega))
      rw [Option.isNone_iff_eq_none.mp plain] at command
      cases command

theorem setFetch {id fetch}
    (known : ∀ open_, fetch = some open_ → open_.offset ≤ bot.nextID ∧ bot.CommentsReturned open_.offset) :
    (bot.setFetch id fetch).Tidy := by
  have each : ∀ {other open_}, (bot.setFetch id fetch).fetches other = some open_ →
      open_.offset ≤ bot.nextID ∧ bot.CommentsReturned open_.offset := by
    intro other open_ found
    obtain ⟨_, here⟩ | ⟨_, old⟩ := cell_update found
    · exact known open_ here
    · exact ⟨tidy.fetchOffset old, tidy.fetchComments old⟩
  exact { tidy with
    fetchOffset := fun found => (each found).1
    fetchComments := fun found => (each found).2 }

theorem receiveReviews {fetch} (found : bot.fetches id = some fetch) (count : Nat) :
    (bot.receiveReviews id fetch count).Tidy := by
  let batch := bot.batch forReviews count
  let marked : Bot := { bot with returned := bot.returned ++ batch.map updateID }
  have grown : bot.returned ⊆ marked.returned := subset_append_left _ _
  have tidyMarked : marked.Tidy :=
    { tidy with
      startComments := tidy.startComments.mono (fun _ waits => waits) grown
      fetchComments := fun open_ => (tidy.fetchComments open_).mono (fun _ waits => waits) grown }
  apply tidyMarked.setFetch
  intro extended equal
  cases Option.some.inj equal
  rw [Fetch.offset_extend]
  cases ends : batch.getLast? with
  | none => exact ⟨tidy.fetchOffset found, tidyMarked.fetchComments found⟩
  | some last =>
    have taken := mem_of_getLast? ends
    refine ⟨tidy.waiting last (mem_batch taken), ?_⟩
    intro update member comment below
    have inBatch := tidy.mem_batch_of_le member (forReviews_of_comment comment) taken (Nat.le_of_lt_succ below)
    exact mem_append_right _ (mem_map_of_mem inBatch)

end

theorem step {first last action} (taken : Step first action last) (tidy : first.Tidy) : last.Tidy := by
  cases taken with
  | arrive update new => exact tidy.arrive new
  | pollCallbacks count _ =>
    apply (tidy.getUpdates _).receiveCallbacks
    intro update member
    exact (mem_discard.mp member).2
  | callbacksRetried _ | startRetried | reviewsRetried => exact tidy.getUpdates _
  | handOver received => exact tidy.handOver received
  | callbacksRestarted =>
    exact { tidy with
      batchOrdered := .nil
      batchWaited := by simp
      batchAhead := by simp
      batchWhole := by simp
      callbacksOffset := Nat.zero_le _
      callbacksHanded := by simp [CallbacksHanded] }
  | pollStart count => exact (tidy.getUpdates _).receiveStarts count
  | startRestarted =>
    exact { tidy with
      startOffset := Nat.zero_le _
      startComments := by simp [CommentsReturned] }
  | begin limit _ =>
    apply tidy.setFetch
    intro opened equal
    cases Option.some.inj equal
    exact ⟨Nat.zero_le _, by simp [CommentsReturned, Fetch.new]⟩
  | pollReviews count found _ => exact (tidy.getUpdates _).receiveReviews found count
  | reviewsFailed found _ =>
    apply tidy.setFetch
    intro kept equal
    split at equal
    · cases equal
    · cases Option.some.inj equal
      have reached := tidy.fetchOffset found
      have known := tidy.fetchComments found
      exact ⟨reached, known⟩
  | finish confirmed _ _ =>
    apply setFetch
    · split
      · exact tidy.getUpdates _
      · exact tidy
    · simp

end Tidy

/-- No call confirms an update of another consumer that waits for it. -/
def Spares (bot : Bot) : Action → Prop
  | .pollCallbacks _ | .callbacksRetried => bot.CommentsReturned bot.callbacks.offset
  | .pollStart _ | .startRetried => bot.CallbacksHanded bot.startOffset
  | .pollReviews id _ | .reviewsRetried id | .finish id true =>
    ∀ fetch, bot.fetches id = some fetch → bot.CallbacksHanded fetch.offset
  | _ => True

/-- The updates that have gone are delivered or lost. -/
def Accounts (bot : Bot) (update : Update) : Prop :=
  update ∈ bot.queue ∨ update ∈ bot.lost ∨ bot.owes update = false

theorem Accounts.getUpdates (accounts : bot.Accounts update) (offset : Nat) :
    (bot.getUpdates offset).Accounts update := by
  rcases accounts with waits | lost | delivered
  · by_cases below : update.updateID < offset
    · cases owes : bot.owes update with
      | true => exact .inr (.inl (mem_append_right _ (by simp [waits, below, owes])))
      | false => exact .inr (.inr owes)
    · exact .inl (mem_discard.mpr ⟨waits, by omega⟩)
  · exact .inr (.inl (mem_append_left _ lost))
  · exact .inr (.inr delivered)

theorem Accounts.mono (accounts : bot.Accounts update) (queue : bot.queue ⊆ next.queue) (lost : bot.lost = next.lost)
    (handed : bot.handed ⊆ next.handed) (returned : bot.returned ⊆ next.returned) : next.Accounts update := by
  rcases accounts with waits | gone | delivered
  · exact .inl (queue waits)
  · exact .inr (.inl (lost ▸ gone))
  · rw [owes_eq_false] at delivered
    refine .inr (.inr ((owes_eq_false update).mpr ⟨fun event => ?_, fun comment => ?_⟩))
    · exact map_subset Prod.fst handed (delivered.1 event)
    · exact returned (delivered.2 comment)

end Bot

variable {first last : Bot} {action : Action}

theorem Step.lost_of_lost (taken : Step first action last) (kept : last.lost = []) : first.lost = [] := by
  cases taken with
  | pollCallbacks | callbacksRetried | pollStart | startRetried | pollReviews | reviewsRetried =>
    exact ((lost_getUpdates _).mp kept).1
  | finish =>
    split at kept
    · exact ((lost_getUpdates _).mp kept).1
    · exact kept
  | _ => exact kept

/-- From a tidy state a step loses nothing just when it spares the others. -/
theorem Step.lost_iff (taken : Step first action last) (tidy : first.Tidy) :
    last.lost = [] ↔ first.lost = [] ∧ first.Spares action := by
  have reviews : ∀ {id fetch}, first.fetches id = some fetch →
      ((first.getUpdates fetch.offset).lost = [] ↔ first.lost = [] ∧
        ∀ fetch, first.fetches id = some fetch → first.CallbacksHanded fetch.offset) := by
    intro id fetch found
    rw [lost_getUpdates, and_iff_left (tidy.fetchComments found), found]
    simp
  cases taken with
  | pollCallbacks | callbacksRetried =>
    refine (lost_getUpdates _).trans (and_congr_right fun _ => ?_)
    exact and_iff_right tidy.callbacksHanded
  | pollStart | startRetried =>
    refine (lost_getUpdates _).trans (and_congr_right fun _ => ?_)
    exact and_iff_left tidy.startComments
  | pollReviews _ found | reviewsRetried found => exact reviews found
  | @finish id fetch confirmed found _ =>
    cases confirmed with
    | false => exact (and_iff_left trivial).symm
    | true =>
      by_cases confirms : 0 < fetch.offset
      · simp only [confirms]
        exact reviews found
      · have none : ∀ fetch, first.fetches id = some fetch → first.CallbacksHanded fetch.offset := by
          intro other same
          cases Option.some.inj (found.symm.trans same)
          intro update _ _ below
          omega
        simp only [confirms]
        exact (and_iff_left none).symm
  | _ => exact (and_iff_left trivial).symm

theorem Step.accounts (taken : Step first action last) (accounts : first.Accounts update) : last.Accounts update := by
  have grows : ∀ {α : Type} (items more : List α), items ⊆ items ++ more :=
    fun items more => subset_append_left items more
  cases taken with
  | arrive => exact accounts.mono (grows _ _) rfl (refl _) (refl _)
  | handOver => exact accounts.mono (refl _) rfl (grows _ _) (refl _)
  | pollReviews =>
    exact (accounts.getUpdates _).mono (refl _) rfl (refl _) (grows _ _)
  | finish =>
    split
    · exact accounts.getUpdates _
    · exact accounts
  | callbacksRestarted | startRestarted | begin | reviewsFailed => exact accounts
  | _ => exact accounts.getUpdates _

/-- Every update that has arrived waits, was lost, or is delivered. -/
theorem accounts_of_arrive {actions} (run : Run Step start actions last)
    (update : Update) (arrived : .arrive update ∈ actions) : last.Accounts update := by
  refine @Run.history Bot Action Step _ _ _ run
    (fun past bot => .arrive update ∈ past → bot.Accounts update) ?_ [] (by simp) arrived
  intro past first label last taken known arrived
  rcases mem_append.mp arrived with before | now
  · exact taken.accounts (known before)
  · cases mem_singleton.mp now
    cases taken
    exact .inl (mem_append_right _ (by simp))

/-- No update is lost just when every call spares the other consumers'. -/
theorem no_update_lost_iff {actions : List Action} (run : Run Step start actions last) :
    (last.lost = [] ↔ Run (Guarded Step Bot.Spares) start actions last) ∧
      (last.lost = [] → ∀ update, .arrive update ∈ actions → update ∈ last.queue ∨
        (update.callbackEvent.isSome → update.updateID ∈ last.handed.map Prod.fst) ∧
          (update.isComment → update.updateID ∈ last.returned)) := by
  refine ⟨⟨fun kept => ?_, fun guarded => ?_⟩, fun kept update arrived => ?_⟩
  · refine @Run.guarded_of_good Bot Action Step _ _ _ run Bot.Tidy Bot.Spares
      (fun bot => bot.lost = []) (fun _ _ _ taken tidy => tidy.step taken)
      (fun _ _ _ taken => taken.lost_of_lost) ?_ .of_start kept
    exact fun _ _ _ taken tidy kept => ((taken.lost_iff tidy).mp kept).2
  · have sound : last.Tidy ∧ last.lost = [] := by
      refine @Run.invariant Bot Action _ _ _ _ guarded (fun bot => bot.Tidy ∧ bot.lost = []) ?_ ⟨.of_start, rfl⟩
      intro first action last taken sound
      exact ⟨sound.1.step taken.1, (taken.1.lost_iff sound.1).mpr ⟨sound.2, taken.2⟩⟩
    exact sound.2
  · rcases accounts_of_arrive run update arrived with waits | lost | delivered
    · exact .inl waits
    · rw [kept] at lost
      cases lost
    · exact .inr ((owes_eq_false update).mp delivered)

/-- A customer writes, and then the owner taps a button. -/
def Sample.comment : Update := ⟨0, .message ⟨some ⟨7, "anna"⟩, "How late are you open?"⟩⟩

def Sample.tap : Update := ⟨1, .callbackQuery ⟨"query", some ⟨8, "owner"⟩, "v1:batch:a:00000000", none⟩⟩

/-- The fetch has the comment before the callbacks pass it. -/
theorem no_update_lost_iff_fetched :
    ∃ last, Run Step start [.arrive Sample.comment, .begin 0 1, .pollReviews 0 1, .arrive Sample.tap,
          .pollCallbacks 1, .handOver, .callbacksRetried, .finish 0 true] last ∧ last.lost = [] ∧
        (last.lost = [] ↔ Run (Guarded Step Bot.Spares) start
          [.arrive Sample.comment, .begin 0 1, .pollReviews 0 1, .arrive Sample.tap,
            .pollCallbacks 1, .handOver, .callbacksRetried, .finish 0 true] last) := by
  exact Run.reaches (.cons (.arrive _ (Nat.le_refl 0)) <| .cons (.begin 1 rfl) <| .cons (.pollReviews 1 rfl rfl) <|
    .cons (.arrive _ (Nat.le_refl 1)) <| .cons (.pollCallbacks 1 rfl) <| .cons (.handOver rfl) <|
    .cons (.callbacksRetried rfl) <| .cons (.finish true rfl rfl) <| .nil _)
    fun run => ⟨by decide +kernel, (no_update_lost_iff run).1⟩

/-- Without a fetch the second call for callbacks forgets the comment. -/
theorem callbacks_poll_loses_comment :
    ∃ last, Run Step start
        [.arrive Sample.comment, .arrive Sample.tap, .pollCallbacks 1, .handOver, .pollCallbacks 1] last ∧
      Sample.comment.isComment ∧ Sample.comment ∈ last.lost ∧ last.returned = [] :=
  ⟨_, .cons (.arrive _ (Nat.le_refl 0)) <| .cons (.arrive _ (Nat.le_refl 1)) <|
    .cons (.pollCallbacks 1 rfl) <| .cons (.handOver rfl) <| .cons (.pollCallbacks 1 rfl) <| .nil _,
    by decide +kernel, mem_singleton.mpr rfl, rfl⟩

end OneVoice.Agents.Pollers
