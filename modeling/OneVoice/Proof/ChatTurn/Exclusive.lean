import OneVoice.Library.Run
import OneVoice.Construction.ChatTurn.Conversation
import OneVoice.Proof.ChatTurn.Writes

/-! At most one fresh turn of a conversation streams, as long as no request reads the gate while
another is on its way from the gate to its reservation. -/

namespace OneVoice.ChatTurn

open Library Domain Messages Conversation Function List Phase Conversation

/-- A request that has read the gate and has not reserved its message yet. -/
def Phase.unreserved : Phase → Bool
  | .gating _ | .healing _ | .admitted | .asked => true
  | _ => false

/-- The reserved message of a turn whose stream has not ended. -/
def Phase.openID : Phase → Option String
  | .reserved id _ | .streaming id _ _ => some id
  | _ => none

/-- The reserved message of a turn that has not returned. -/
def Phase.turnID : Phase → Option String
  | .reserved id _ | .streaming id _ _ | .drained id _ _ => some id
  | _ => none

/-- The copy of a stored message that a request may still write back. -/
def Phase.copy : Phase → Option Message
  | .gating (.ok message) | .healing message | .rejoined message => some message
  | _ => none

/-- Nobody else is between the gate and a reservation when a request reads the gate; a found
placeholder is the newest and decided on while recent; a reservation is stored. -/
def Orderly (requests : Nat → TurnRequest) (state : Conversation) : Action → Prop
  | .find id active =>
    (∀ other ≠ id, (state.requests other).unreserved = false) ∧
      active ∈ state.messages.findByConversationActive (requests id).conversationID ∧
      ∀ other messageID row, (state.requests other).openID = some messageID →
        state.messages.find messageID = some row →
          ∀ message ∈ state.messages.rows, message.active (requests id).conversationID →
            message.id ≠ messageID → message.createdAt < row.createdAt
  | .gate id batches =>
    ∀ message, state.requests id = .gating (.ok message) →
      ∀ other, (state.requests other).openID = some message.id →
        state.clock < message.createdAt + streamBudget ∧ ∀ batch ∈ batches.getD [], claimed batch = false
  | .reserve _ messageID _ fails => fails = false ∧ state.messages.find messageID = none
  | _ => True

/-- The row of an open turn as its reservation has stored it. -/
structure Message.Holds (message : Message) (conversationID : String) : Prop where
  active : message.active conversationID = true
  running : message.status = .inProgress
  stamped : message.createdAt ≠ 0

structure Exclusive (conversationID : String) (state : Conversation) : Prop where
  alone : ∀ one other, (state.requests one).unreserved → (state.requests other).unreserved → one = other
  single : ∀ one other id otherID, (state.requests one).openID = some id →
    (state.requests other).openID = some otherID → one = other
  held : ∀ one id, (state.requests one).openID = some id →
    ∃ row, state.messages.find id = some row ∧ row.Holds conversationID
  /-- A request past the gate beside an open turn has read its message. -/
  met : ∀ one id other, (state.requests one).openID = some id → (state.requests other).unreserved →
    ∃ message, state.requests other = .gating (.ok message) ∧ message.id = id ∧ message.Holds conversationID
  apart : ∀ one id other message, (state.requests one).openID = some id →
    state.requests other = .rejoined message → message.id ≠ id
  known : ∀ one message, (state.requests one).copy = some message → (state.messages.find message.id).isSome
  owned : ∀ one id, (state.requests one).turnID = some id → (state.messages.find id).isSome
  distinct : ∀ one other id, (state.requests one).turnID = some id →
    (state.requests other).turnID = some id → one = other

variable {phase : Phase}

theorem Phase.turnID_of_openID {id} (opened : phase.openID = some id) : phase.turnID = some id := by
  cases phase <;> first | exact opened | cases opened

theorem Phase.unreserved_of_openID {id} (opened : phase.openID = some id) : phase.unreserved = false := by
  cases phase <;> first | rfl | cases opened

/-- The move of one request fits the others. -/
structure Fits (conversationID : String) (state : Conversation) (mover : Nat) (phase : Phase)
    (messages : Messages) : Prop where
  rows : ∀ other ≠ mover, ∀ id, (state.requests other).openID = some id → messages.find id = state.messages.find id
  stays : ∀ id, (state.messages.find id).isSome → (messages.find id).isSome
  alone : phase.unreserved → ∀ other ≠ mover, (state.requests other).unreserved = false
  single : ∀ id, phase.openID = some id → ∀ other ≠ mover, (state.requests other).openID = none
  held : ∀ id, phase.openID = some id → ∃ row, messages.find id = some row ∧ row.Holds conversationID
  meets : phase.unreserved → ∀ other ≠ mover, ∀ id, (state.requests other).openID = some id →
    ∃ message, phase = .gating (.ok message) ∧ message.id = id ∧ message.Holds conversationID
  met : ∀ id, phase.openID = some id → ∀ other ≠ mover, (state.requests other).unreserved →
    ∃ message, state.requests other = .gating (.ok message) ∧ message.id = id ∧ message.Holds conversationID
  leaves : ∀ message, phase = .rejoined message → ∀ other ≠ mover, ∀ id,
    (state.requests other).openID = some id → message.id ≠ id
  left : ∀ id, phase.openID = some id → ∀ other ≠ mover, ∀ message,
    state.requests other = .rejoined message → message.id ≠ id
  known : ∀ message, phase.copy = some message → (messages.find message.id).isSome
  owned : ∀ id, phase.turnID = some id → (messages.find id).isSome
  distinct : ∀ id, phase.turnID = some id → ∀ other ≠ mover, (state.requests other).turnID ≠ some id

section Moves

variable {conversationID : String} {state : Conversation} {mover : Nat} {phase : Phase} {messages : Messages}

/-- A fitting move keeps the invariant. -/
theorem Exclusive.move (inv : Exclusive conversationID state) (fits : Fits conversationID state mover phase messages) :
    Exclusive conversationID (state.move mover phase messages) := by
  have kept : ∀ other ≠ mover, ∀ id, (state.requests other).openID = some id →
      ∃ row, messages.find id = some row ∧ row.Holds conversationID := by
    intro other apart id opened
    rw [fits.rows other apart id opened]
    exact inv.held other id opened
  constructor
  · apply forall_update_pair fun one other (first second : Phase) =>
      first.unreserved → second.unreserved → one = other
    · exact fun _ _ => rfl
    · intro other apart waits also
      exact absurd also (by simp [fits.alone waits other apart])
    · intro one apart also waits
      exact absurd also (by simp [fits.alone waits one apart])
    · exact inv.alone
  · intro one other id otherID
    apply forall_update_pair fun one other (first second : Phase) =>
      first.openID = some id → second.openID = some otherID → one = other
    · exact fun _ _ => rfl
    · intro other apart opened also
      exact absurd also (by simp [fits.single id opened other apart])
    · intro one apart also opened
      exact absurd also (by simp [fits.single otherID opened one apart])
    · exact fun one other => inv.single one other id otherID
  · apply (forall_update_iff state.requests fun _ cell => ∀ id, cell.openID = some id →
      ∃ row, messages.find id = some row ∧ row.Holds conversationID).mpr
    exact ⟨fits.held, kept⟩
  · intro one id other
    apply forall_update_pair fun _ _ (first second : Phase) =>
      first.openID = some id → second.unreserved → ∃ message,
        second = .gating (.ok message) ∧ message.id = id ∧ message.Holds conversationID
    · intro opened waits
      exact absurd waits (by simp [unreserved_of_openID opened])
    · exact fun other apart opened => fits.met id opened other apart
    · exact fun one apart opened waits => fits.meets waits one apart id opened
    · exact fun one => inv.met one id
  · intro one id other message
    apply forall_update_pair fun _ _ (first second : Phase) =>
      first.openID = some id → second = .rejoined message → message.id ≠ id
    · rintro opened rfl
      cases opened
    · exact fun other apart opened => fits.left id opened other apart message
    · exact fun one apart opened handed => fits.leaves message handed one apart id opened
    · exact fun one other => inv.apart one id other message
  · apply (forall_update_iff state.requests fun _ cell => ∀ message,
      cell.copy = some message → (messages.find message.id).isSome).mpr
    exact ⟨fits.known, fun one _ message copied => fits.stays message.id (inv.known one message copied)⟩
  · apply (forall_update_iff state.requests fun _ cell => ∀ id,
      cell.turnID = some id → (messages.find id).isSome).mpr
    exact ⟨fits.owned, fun one _ id running => fits.stays id (inv.owned one id running)⟩
  · intro one other id
    apply forall_update_pair fun one other (first second : Phase) =>
      first.turnID = some id → second.turnID = some id → one = other
    · exact fun _ _ => rfl
    · exact fun other apart running also => absurd also (fits.distinct id running other apart)
    · exact fun one apart also running => absurd also (fits.distinct id running one apart)
    · exact fun one other => inv.distinct one other id

section

variable (rows : ∀ other ≠ mover, ∀ id, (state.requests other).openID = some id →
    messages.find id = state.messages.find id)
  (stays : ∀ id, (state.messages.find id).isSome → (messages.find id).isSome)

include rows stays

/-- A request moves behind its reservation, to no open turn. -/
theorem Fits.closed (unreserved : phase.unreserved = false) (unopened : phase.openID = none) (blank : phase.copy = none)
    (owned : ∀ id, phase.turnID = some id → (messages.find id).isSome)
    (distinct : ∀ id, phase.turnID = some id → ∀ other ≠ mover, (state.requests other).turnID ≠ some id) :
    Fits conversationID state mover phase messages where
  rows := rows
  stays := stays
  alone := by simp [unreserved]
  single := by simp [unopened]
  held := by simp [unopened]
  meets := by simp [unreserved]
  met := by simp [unopened]
  leaves := by
    rintro message rfl
    cases blank
  left := by simp [unopened]
  known := by simp [blank]
  owned := owned
  distinct := distinct

/-- A request that arrives or returns takes part in no clause. -/
theorem Fits.quiet (unreserved : phase.unreserved = false) (unopened : phase.openID = none)
    (ended : phase.turnID = none) (blank : phase.copy = none) : Fits conversationID state mover phase messages := by
  apply Fits.closed rows stays unreserved unopened blank
  · simp [ended]
  · simp [ended]

/-- A request moves to a phase in which its turn is open. -/
theorem Fits.opened {messageID} (unreserved : phase.unreserved = false) (blank : phase.copy = none)
    (opened : phase.openID = some messageID)
    (single : ∀ other ≠ mover, ∀ id, (state.requests other).openID ≠ some id)
    (held : ∃ row, messages.find messageID = some row ∧ row.Holds conversationID)
    (met : ∀ other ≠ mover, (state.requests other).unreserved →
      ∃ message, state.requests other = .gating (.ok message) ∧ message.id = messageID ∧
        message.Holds conversationID)
    (left : ∀ other ≠ mover, ∀ message, state.requests other = .rejoined message → message.id ≠ messageID)
    (distinct : ∀ other ≠ mover, (state.requests other).turnID ≠ some messageID) :
    Fits conversationID state mover phase messages where
  rows := rows
  stays := stays
  alone := by simp [unreserved]
  single id _ other apart := by
    exact Option.eq_none_iff_forall_ne_some.mpr (single other apart)
  held id same := by
    cases opened.symm.trans same
    exact held
  meets := by simp [unreserved]
  met id same := by
    cases opened.symm.trans same
    exact met
  leaves := by
    rintro message rfl
    cases blank
  left id same := by
    cases opened.symm.trans same
    exact left
  known := by simp [blank]
  owned id running := by
    cases (turnID_of_openID opened).symm.trans running
    obtain ⟨row, found, _⟩ := held
    rw [found]
    rfl
  distinct id running := by
    cases (turnID_of_openID opened).symm.trans running
    exact distinct

/-- A request moves to a phase before its reservation. -/
theorem Fits.unopened (unopened : phase.openID = none) (ended : phase.turnID = none)
    (alone : phase.unreserved → ∀ other ≠ mover, (state.requests other).unreserved = false)
    (meets : phase.unreserved → ∀ other ≠ mover, ∀ id, (state.requests other).openID = some id →
        ∃ message, phase = .gating (.ok message) ∧ message.id = id ∧ message.Holds conversationID)
    (leaves : ∀ message, phase = .rejoined message → ∀ other ≠ mover, ∀ id,
      (state.requests other).openID = some id → message.id ≠ id)
    (known : ∀ message, phase.copy = some message → (messages.find message.id).isSome) :
    Fits conversationID state mover phase messages where
  rows := rows
  stays := stays
  alone := alone
  single := by simp [unopened]
  held := by simp [unopened]
  meets := meets
  met := by simp [unopened]
  leaves := leaves
  left := by simp [unopened]
  known := known
  owned := by simp [ended]
  distinct := by simp [ended]

end

/-- Beside a request on its way to its reservation no turn is open. -/
theorem Exclusive.closed (inv : Exclusive conversationID state) (before : (state.requests mover).unreserved)
    (decided : ∀ active, state.requests mover ≠ .gating active) (other : Nat) (id : String) :
    (state.requests other).openID ≠ some id := by
  intro opened
  obtain ⟨message, read, _⟩ := inv.met other id mover opened before
  exact decided (.ok message) read

/-- A request that has read the gate moves on while no turn is open. -/
theorem Fits.towards (inv : Exclusive conversationID state) (before : (state.requests mover).unreserved)
    (closed : ∀ other id, (state.requests other).openID ≠ some id) (unopened : phase.openID = none)
    (ended : phase.turnID = none) (known : ∀ message, phase.copy = some message → (messages.find message.id).isSome)
    (stays : ∀ id, (state.messages.find id).isSome → (messages.find id).isSome) :
    Fits conversationID state mover phase messages := by
  apply Fits.unopened _ stays unopened ended
  · intro _ other apart
    by_contra waits
    rw [Bool.not_eq_false] at waits
    exact apart (inv.alone other mover waits before)
  · intro _ other _ id opened
    exact absurd opened (closed other id)
  · intro _ _ other _ id opened
    exact absurd opened (closed other id)
  · exact known
  · intro other _ id opened
    exact absurd opened (closed other id)

variable {active : Except StoreError Message} {batches : Option (List PendingToolCallBatch)}
  {message : Message} {now : Time}

/-- The gate hands on no other message than the one that it was given. -/
theorem copy_afterGate {header}
    (copied : (afterGate (gateOnRequest active batches now header)).copy = some message) :
    active = .ok message := by
  unfold gateOnRequest at copied
  split at copied
  · cases copied
  · split at copied
    · cases copied
      rfl
    · split at copied
      · cases copied
        rfl
      · split at copied
        · cases copied
        · split at copied
          · cases copied
          · cases copied
            rfl

theorem openID_afterGate (action : GateAction) : (afterGate action).openID = none := by
  cases action <;> rfl

theorem turnID_afterGate (action : GateAction) : (afterGate action).turnID = none := by
  cases action <;> rfl

/-- A recent placeholder without a batch ends the request. -/
theorem afterGate_of_recent (recent : isRecentInProgress message now = true)
    (unclaimed : ∀ batch ∈ batches.getD [], claimed batch = false) :
    ∃ outcome, afterGate (gateOnRequest (.ok message) batches now "") = .returned outcome := by
  have none : (batches.getD []).find? claimed = none := by
    rw [find?_eq_none]
    intro batch member
    simp [unclaimed batch member]
  unfold gateOnRequest
  simp only [ne_eq, not_true_eq_false, if_false, none]
  split
  · exact ⟨_, rfl⟩
  · rw [if_pos recent]
    exact ⟨_, rfl⟩

/-- With an open turn the lookup answers with its row. -/
theorem answer_of_newest {row active}
    (found : state.messages.find row.id = some row) (holds : row.Holds conversationID)
    (newest : ∀ message ∈ state.messages.rows, message.active conversationID →
      message.id ≠ row.id → message.createdAt < row.createdAt)
    (answer : active ∈ state.messages.findByConversationActive conversationID) : active = .ok row := by
  have listed := (Table.find_eq_some.mp found).1
  have first : row ∈ state.messages.newestActive conversationID := by
    rw [mem_newestActive]
    constructor
    · exact ⟨listed, holds.active⟩
    · intro other member running
      by_cases same : other.id = row.id
      · rw [state.messages.eq_of_key member listed same]
      · exact Nat.le_of_lt (newest other member running same)
  cases active with
  | error failure =>
    unfold findByConversationActive at answer
    split at answer
    · rename_i empty
      rw [empty] at first
      cases first
    · obtain ⟨_, _, same⟩ := mem_map.mp answer
      cases same
  | ok message =>
    obtain ⟨stored, among⟩ := find_of_answer answer
    obtain ⟨⟨member, running⟩, latest⟩ := mem_newestActive.mp among
    have same : message.id = row.id := by
      by_contra apart
      have earlier := newest message member running apart
      exact Nat.not_le_of_lt earlier (latest row listed holds.active)
    rw [state.messages.eq_of_key member listed same]

theorem touches_finishTurn (tr : String → String) (messages : Messages) (conversation streamStartID : String)
    (streamStartAt : Time) (exchange : Exchange) (failing : Failing) (savedAt : Time) :
    Touches messages streamStartID
      (finishTurn tr messages conversation streamStartID streamStartAt exchange failing savedAt).2 := by
  unfold finishTurn
  dsimp only
  split
  · exact .same _
  · have touched := touches_finalizeAssistantMessage messages failing savedAt
      (assistantMessage tr conversation streamStartID streamStartAt
        (streamSSE dispatchEvent exchange newStreamState).1)
    rwa [assistantMessage_id] at touched

end Moves

section Steps

variable {tr : String → String} {requests : Nat → TurnRequest} {conversationID : String} {state next : Conversation}

section

variable (inv : Exclusive conversationID state)

include inv

variable {active : Except StoreError Message} {id : Nat} {messageID streamStartID : String}

theorem Exclusive.find (same : (requests id).conversationID = conversationID)
    (orderly : Orderly requests state (.find id active)) :
    Exclusive conversationID (state.move id (.gating active) state.messages) := by
  obtain ⟨alone, answer, newest⟩ := orderly
  rw [same] at answer
  apply inv.move
  apply Fits.unopened (fun _ _ _ _ => rfl) (fun _ stored => stored) rfl rfl
  · exact fun _ => alone
  · intro _ other _ messageID opened
    obtain ⟨row, found, holds⟩ := inv.held other messageID opened
    have named := (Table.find_eq_some.mp found).2
    subst named
    rw [same] at newest
    exact ⟨row, congrArg _ (answer_of_newest found holds (newest other row.id row opened found) answer), rfl, holds⟩
  · intro message handed
    cases handed
  · intro message copied
    have read : active = .ok message := by
      cases active with
      | error => cases copied
      | ok found => exact congrArg _ (Option.some.inj copied)
    rw [read] at answer
    rw [(find_of_answer answer).1]
    rfl

theorem Exclusive.gate {batches}
    (headless : (requests id).resumeBatchID = "") (read : state.requests id = .gating active)
    (orderly : Orderly requests state (.gate id batches)) : Exclusive conversationID (state.move id
      (.afterGate (gateOnRequest active batches state.clock (requests id).resumeBatchID)) state.messages) := by
  have before : (state.requests id).unreserved = true := by rw [read]; rfl
  apply inv.move
  by_cases opened : ∃ other messageID, (state.requests other).openID = some messageID
  · obtain ⟨other, messageID, opened⟩ := opened
    obtain ⟨message, gating, named, holds⟩ := inv.met other messageID id opened before
    subst named
    obtain ⟨young, unclaimed⟩ := orderly message gating other opened
    have recent : isRecentInProgress message state.clock = true := by
      simp [isRecentInProgress, holds.running, holds.stamped, young]
    obtain ⟨outcome, ended⟩ := afterGate_of_recent recent unclaimed
    have same : active = .ok message := Phase.gating.inj (read.symm.trans gating)
    rw [same, headless, ended]
    exact .quiet (fun _ _ _ _ => rfl) (fun _ stored => stored) rfl rfl rfl rfl
  · push Not at opened
    apply Fits.towards inv before opened (openID_afterGate _) (turnID_afterGate _)
    · intro message copied
      apply inv.known id
      rw [read, copy_afterGate copied]
      rfl
    · exact fun _ stored => stored

theorem Exclusive.reserve {startedAt fails} (asked : state.requests id = .asked)
    (orderly : Orderly requests state (.reserve id messageID startedAt fails)) :
    Exclusive conversationID (state.move id (.reserved messageID startedAt)
      (reserveAssistantPlaceholder state.messages fails state.clock conversationID messageID startedAt)) := by
  obtain ⟨rfl, absent⟩ := orderly
  have before : (state.requests id).unreserved = true := by rw [asked]; rfl
  have closed := inv.closed before (by rw [asked]; exact nofun)
  have kept := keeps_create state.messages false state.clock (placeholder conversationID messageID startedAt)
  have stored : (reserveAssistantPlaceholder state.messages false state.clock conversationID
      messageID startedAt).find messageID =
        some (placeholder conversationID messageID state.clock) := find_create absent
  have unknown : ∀ {other : String}, (state.messages.find other).isSome → other ≠ messageID := by
    rintro other found rfl
    rw [absent] at found
    cases found
  apply inv.move
  apply Fits.opened (fun other _ id opened => absurd opened (closed other id)) (fun _ => kept.isSome) rfl rfl rfl
  · exact fun other _ => closed other
  · exact ⟨_, stored, by simp [Message.active, placeholder], rfl, state.started⟩
  · intro other apart waits
    exact absurd (inv.alone other id waits before) apart
  · intro other _ message handed
    apply unknown (inv.known other message _)
    rw [handed]
    rfl
  · intro other _ running
    exact unknown (inv.owned other _ running) rfl

/-- The stream of an open turn starts. -/
theorem Exclusive.connect {streamStartAt openedAt}
    (waits : state.requests id = .reserved streamStartID streamStartAt) : Exclusive conversationID
      (state.move id (.streaming streamStartID streamStartAt openedAt) state.messages) := by
  have opened : (state.requests id).openID = some streamStartID := by rw [waits]; rfl
  have running := turnID_of_openID opened
  apply inv.move
  apply Fits.opened (fun _ _ _ _ => rfl) (fun _ stored => stored) rfl rfl rfl
  · intro other different otherID second
    exact different (inv.single other id otherID streamStartID second opened)
  · exact inv.held id streamStartID opened
  · intro other _ gating
    exact inv.met id streamStartID other opened gating
  · intro other _ message handed
    exact inv.apart id streamStartID other message opened handed
  · intro other different second
    exact different (inv.distinct other id streamStartID second running)

/-- The stream of an open turn ends. -/
theorem Exclusive.close {streamStartAt openedAt exchange}
    (streams : state.requests id = .streaming streamStartID streamStartAt openedAt) :
    Exclusive conversationID (state.move id (.drained streamStartID streamStartAt exchange) state.messages) := by
  have running : (state.requests id).turnID = some streamStartID := by rw [streams]; rfl
  apply inv.move
  apply Fits.closed (fun _ _ _ _ => rfl) (fun _ stored => stored) rfl rfl rfl
  · intro turnID same
    cases same
    exact inv.owned id streamStartID running
  · intro turnID same other apart second
    cases same
    exact apart (inv.distinct other id streamStartID second running)

/-- A request returns after a write that reaches no open turn. -/
theorem Exclusive.returned {messages outcome} (touched : Touches state.messages messageID messages)
    (apart : ∀ other ≠ id, (state.requests other).openID ≠ some messageID) :
    Exclusive conversationID (state.move id (.returned outcome) messages) := by
  apply inv.move
  refine Fits.quiet ?_ (fun _ => touched.isSome) rfl rfl rfl rfl
  intro other different openID opened
  apply touched.others
  rintro rfl
  exact apart other different opened

end

theorem Exclusive.step (same : ∀ id, (requests id).conversationID = conversationID)
    (headless : ∀ id, (requests id).resumeBatchID = "") {action}
    (taken : Step tr requests state action next) (orderly : Orderly requests state action)
    (inv : Exclusive conversationID state) : Exclusive conversationID next := by
  cases taken with
  | tick =>
    exact ⟨inv.alone, inv.single, inv.held, inv.met, inv.apart, inv.known, inv.owned, inv.distinct⟩
  | arrive =>
    apply inv.move
    split
    · exact .quiet (fun _ _ _ _ => rfl) (fun _ stored => stored) rfl rfl rfl rfl
    · exact .quiet (fun _ _ _ _ => rfl) (fun _ stored => stored) rfl rfl rfl rfl
  | find => exact inv.find (same _) orderly
  | gate read => exact inv.gate (headless _) read orderly
  | @heal id active fails healing =>
    have before : (state.requests id).unreserved = true := by rw [healing]; rfl
    apply inv.move
    apply Fits.towards inv before (inv.closed before (by rw [healing]; exact nofun)) rfl rfl
    · exact nofun
    · exact fun _ => (touches_finalizeStranded state.messages fails active).isSome
  | refuse =>
    apply inv.move
    exact .quiet (fun _ _ _ _ => rfl) (fun _ stored => stored) rfl rfl rfl rfl
  | @ask id messageID fails admitted =>
    have before : (state.requests id).unreserved = true := by rw [admitted]; rfl
    have kept := keeps_create state.messages fails state.clock
      (userMessage (requests id).conversationID messageID (requests id).message)
    apply inv.move
    apply Fits.towards inv before (inv.closed before (by rw [admitted]; exact nofun)) rfl rfl
    · exact nofun
    · exact fun _ => kept.isSome
  | reserve asked =>
    rw [same]
    exact inv.reserve asked orderly
  | connect waits => exact inv.connect waits
  | close streams => exact inv.close streams
  | @finish id streamStartID streamStartAt exchange failing result drained finished =>
    have running : (state.requests id).turnID = some streamStartID := by rw [drained]; rfl
    rw [finished]
    apply inv.returned (touches_finishTurn ..)
    intro other different opened
    exact different (inv.distinct other id streamStartID (turnID_of_openID opened) running)
  | @rejoin id active outcome fails written handed resumes =>
    have apart : ∀ other ≠ id, (state.requests other).openID ≠ some active.id := by
      intro other _ opened
      exact inv.apart other active.id id active opened handed rfl
    cases written with
    | none => exact inv.returned (.same active.id) apart
    | some message =>
      have touched := touches_update state.messages fails message
      rw [(resumes message rfl).id] at touched
      exact inv.returned touched apart

theorem exclusive_start (messages : Messages) (now : Time) (started : now ≠ 0) :
    Exclusive conversationID (start messages now started) := by
  constructor <;> exact nofun

/-- In orderly runs at most one fresh turn of the conversation streams. -/
theorem one_fresh_turn_streams (tr : String → String) (requests : Nat → TurnRequest) (conversationID : String)
    (same : ∀ id, (requests id).conversationID = conversationID) (headless : ∀ id, (requests id).resumeBatchID = "")
    (messages : Messages) (now : Time) (started : now ≠ 0) {actions : List Action} {state : Conversation}
    (run : Run (Guarded (Step tr requests) (Orderly requests)) (start messages now started) actions state)
    {one other : Nat} (first : state.Streams one) (second : state.Streams other) : one = other := by
  have inv : Exclusive conversationID state := by
    apply run.invariant _ (exclusive_start messages now started)
    intro before action after taken inv
    exact Exclusive.step same headless taken.1 taken.2 inv
  obtain ⟨id, _, _, streams⟩ := first
  obtain ⟨otherID, _, _, otherStreams⟩ := second
  apply inv.single one other id otherID
  · rw [streams]
    rfl
  · rw [otherStreams]
    rfl

end Steps

open Sample

/-- A request that meets a streaming turn at the gate is rejected. -/
theorem one_fresh_turn_streams_rejection :
    ∃ actions state, Run (Guarded (Step id fun _ => request) (Orderly fun _ => request))
      (start noMessages 1000 (by decide)) actions state ∧
        state.Streams 1 ∧ (state.requests 2 = .returned .turnInProgress) ∧
        ∀ other, state.Streams other → other = 1 := by
  let step := Guarded (Step id fun _ => request) (Orderly fun _ => request)
  have run : Run step (start noMessages 1000 (by decide))
      [.arrive 1 .notFound, .find 1 (.error .messageNotFound), .gate 1 (some []),
        .ask 1 "question" false, .reserve 1 "answer" 1000 false, .connect 1, .arrive 2 .notFound,
        .find 2 (.ok (placeholder "conversation" "answer" 1000)), .gate 2 (some [])] _ :=
    .cons ⟨.arrive rfl, trivial⟩ <|
    .cons ⟨.find rfl (.inl (mem_singleton_self _)), by
      rintro (_ | _ | _) apart
      · rfl
      · exact absurd rfl apart
      · rfl, mem_singleton_self _, by
      rintro (_ | _ | _) messageID row ⟨⟩⟩ <|
    .cons ⟨.gate rfl, nofun⟩ <| .cons ⟨.ask rfl rfl, trivial⟩ <|
    .cons ⟨.reserve rfl (Nat.le_refl _), rfl, rfl⟩ <| .cons ⟨.connect rfl, trivial⟩ <|
    .cons ⟨.arrive rfl, trivial⟩ <|
    .cons ⟨.find rfl (.inl (mem_singleton_self _)), by
      rintro (_ | _ | _ | _) apart
      · rfl
      · rfl
      · exact absurd rfl apart
      · rfl, mem_singleton_self _, by
      rintro (_ | _ | _ | _) messageID row ⟨⟩ found message member active apart
      rcases mem_cons.mp member with rfl | asked
      · exact absurd rfl apart
      · rw [mem_singleton.mp asked] at active
        cases active⟩ <|
    .cons ⟨.gate rfl, by
      rintro message ⟨⟩ other _
      constructor
      · show 1000 < 1000 + streamBudget
        simp [streamBudget]
      · exact nofun⟩ <| .nil _
  have streams : ∃ state, Run step (start noMessages 1000 (by decide)) _ state ∧
      state.Streams 1 ∧ state.requests 2 = .returned .turnInProgress := ⟨_, run, ⟨_, _, _, rfl⟩, rfl⟩
  obtain ⟨state, run, streams, rejected⟩ := streams
  exact ⟨_, state, run, streams, rejected, fun other also =>
    one_fresh_turn_streams id _ "conversation" (fun _ => rfl) (fun _ => rfl) _ _ _ run also streams⟩

/-- Two requests pass the gate before either reserves, and both stream. -/
theorem two_fresh_turns_stream :
    ∃ actions state, Run (Step id fun _ => request) (start noMessages 1000 (by decide)) actions state ∧
        state.Streams 1 ∧ state.Streams 2 := by
  have run : Run (Step id fun _ => request) (start noMessages 1000 (by decide))
      [.arrive 1 .notFound, .arrive 2 .notFound, .find 1 (.error .messageNotFound),
        .find 2 (.error .messageNotFound), .gate 1 (some []), .gate 2 (some []),
        .ask 1 "question" false, .ask 2 "remark" false, .reserve 1 "answer" 1000 false,
        .reserve 2 "reply" 1000 false, .connect 1, .connect 2] _ :=
    .cons (.arrive rfl) <| .cons (.arrive rfl) <|
    .cons (.find rfl (.inl (mem_singleton_self _))) <|
    .cons (.find rfl (.inl (mem_singleton_self _))) <|
    .cons (.gate rfl) <| .cons (.gate rfl) <| .cons (.ask rfl rfl) <| .cons (.ask rfl rfl) <|
    .cons (.reserve rfl (Nat.le_refl _)) <| .cons (.reserve rfl (Nat.le_refl _)) <|
    .cons (.connect rfl) <| .cons (.connect rfl) <| .nil _
  exact ⟨_, _, run, ⟨_, _, _, rfl⟩, ⟨_, _, _, rfl⟩⟩

end OneVoice.ChatTurn
