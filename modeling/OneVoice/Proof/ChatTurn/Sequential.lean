import OneVoice.Library.Run
import OneVoice.Construction.ChatTurn.Conversation

/-! A call of `run` is a run of the system in which no other request moves. -/

namespace OneVoice.ChatTurn

open Library Domain

/-- The part of a state that a request running alone reads and writes. -/
structure Conversation.Stands (state : Conversation) (id : Nat) (now : Time) (phase : Phase)
    (messages : Messages) : Prop where
  clock : state.clock = now
  phase : state.requests id = phase
  messages : state.messages = messages
  calm : ∀ other ≠ id, ¬ state.Streams other

section

variable {tr : String → String} {requests : Nat → TurnRequest} {first : Conversation} {id : Nat}
  {now : Time} {phase : Phase} {messages : Messages}

/-- The request gets as far as a phase in some run of the system. -/
def Comes (tr : String → String) (requests : Nat → TurnRequest) (first : Conversation) (id : Nat)
    (now : Time) (phase : Phase) (messages : Messages) : Prop :=
  ∃ actions state, Run (Step tr requests) first actions state ∧ state.Stands id now phase messages

theorem Conversation.Stands.move {state : Conversation} (stands : state.Stands id now phase messages)
    (next : Phase) (stored : Messages) : (state.move id next stored).Stands id now next stored where
  clock := stands.clock
  phase := Function.update_self ..
  messages := rfl
  calm other apart := by
    rintro ⟨_, _, _, streams⟩
    apply stands.calm other apart
    exact ⟨_, _, _, (Function.update_of_ne apart ..).symm.trans streams⟩

/-- A step that moves the request extends the run. -/
theorem Comes.step (comes : Comes tr requests first id now phase messages) {action next stored}
    (taken : ∀ state : Conversation, state.Stands id now phase messages →
      Step tr requests state action (state.move id next stored)) : Comes tr requests first id now next stored := by
  obtain ⟨actions, state, run, stands⟩ := comes
  exact ⟨_, _, run.snoc (taken state stands), stands.move next stored⟩

/-- Time passes while the request does not stream. -/
theorem Comes.wait (comes : Comes tr requests first id now phase messages) {later}
    (after : now ≤ later) (still : ∀ a b c, phase ≠ .streaming a b c) :
    Comes tr requests first id later phase messages := by
  obtain ⟨actions, state, run, stands⟩ := comes
  have calm : ∀ other, ¬ state.Streams other := by
    intro other streams
    by_cases same : other = id
    · obtain ⟨_, _, _, streaming⟩ := streams
      rw [same, stands.phase] at streaming
      exact still _ _ _ streaming
    · exact stands.calm other same streams
  have taken : Step tr requests state (.tick (later - now)) (state.advance (later - now)) :=
    .tick fun other _ _ _ streaming => absurd ⟨_, _, _, streaming⟩ (calm other)
  have clock : state.clock + (later - now) = later := by
    rw [stands.clock]
    exact Nat.add_sub_of_le after
  exact ⟨_, _, run.snoc taken, clock, stands.phase, stands.messages, stands.calm⟩

theorem prepare_fresh {request enriched admitted} : prepare messages request enriched = .fresh admitted ↔
    refusal request enriched = none ∧ admitted = messages := by
  unfold prepare
  split <;> simp [*, eq_comm]

/-- What the gate has let pass as a fresh turn. -/
theorem fresh_of_admission {admitted request around} (fresh : admission messages request around = .fresh admitted) :
    ownsConversation around.conversation request = true ∧ refusal request around.enriched = none ∧
      (gateOnRequest around.active around.batches around.gatedAt request.resumeBatchID = .fresh ∧
          admitted = messages ∨
        ∃ active, gateOnRequest around.active around.batches around.gatedAt request.resumeBatchID =
            .healStranded active ∧ admitted = finalizeStranded messages around.failing.heal active) := by
  unfold admission at fresh
  split at fresh
  · cases fresh
  · rename_i owned
    rw [Bool.not_eq_false] at owned
    split at fresh
    · cases fresh
    · cases fresh
    · cases fresh
    · rename_i active gated
      obtain ⟨passed, same⟩ := prepare_fresh.mp fresh
      exact ⟨owned, passed, .inr ⟨active, gated, same⟩⟩
    · rename_i gated
      obtain ⟨passed, same⟩ := prepare_fresh.mp fresh
      exact ⟨owned, passed, .inl ⟨gated, same⟩⟩

/-- A request is not refused before its enrichment is looked at. -/
theorem refusal_ok {request enriched}
    (passed : refusal request enriched = none) : refusal request (.ok ()) = none := by
  unfold refusal at passed ⊢
  split at passed <;> simp_all

variable {around : Surroundings} {admitted : Messages}

theorem Comes.enter (start : Comes tr requests first id first.clock .idle messages)
    (answers : around.active ∈ messages.findByConversationActive (requests id).conversationID ∨
      around.active = .error .unavailable) (gated : first.clock ≤ around.gatedAt)
    (fresh : admission messages (requests id) around = .fresh admitted) :
    Comes tr requests first id around.gatedAt .admitted admitted := by
  obtain ⟨owned, _, gate⟩ := fresh_of_admission fresh
  have arrived : Comes tr requests first id first.clock .arrived messages := by
    apply start.step
    intro before stood
    have taken : Step tr requests before (.arrive id around.conversation) _ := .arrive stood.phase
    rwa [if_pos owned, stood.messages] at taken
  have gating : Comes tr requests first id first.clock (.gating around.active) messages := by
    apply arrived.step
    intro before stood
    rw [← stood.messages]
    exact .find stood.phase (by rwa [stood.messages])
  have decided : Comes tr requests first id around.gatedAt (.afterGate
      (gateOnRequest around.active around.batches around.gatedAt (requests id).resumeBatchID))
      messages := by
    apply (gating.wait gated nofun).step
    intro before stood
    rw [← stood.messages, ← stood.clock]
    exact .gate stood.phase
  rcases gate with ⟨free, rfl⟩ | ⟨active, stranded, rfl⟩
  · rwa [free] at decided
  · rw [stranded] at decided
    apply decided.step
    intro before stood
    rw [← stood.messages]
    exact .heal stood.phase

theorem Comes.reserve (entered : Comes tr requests first id around.gatedAt .admitted admitted)
    (written : refusal (requests id) (.ok ()) = none) (asked : around.gatedAt ≤ around.askedAt)
    (kept : around.askedAt ≤ around.reservedAt) (stamped : around.streamStartAt ≤ around.reservedAt) :
    Comes tr requests first id around.reservedAt (.reserved around.streamStartID around.streamStartAt)
      (reserved admitted (requests id) around) := by
  have spoken : Comes tr requests first id around.askedAt .asked
      (persistUserMessage admitted around.failing.ask around.askedAt
        (userMessage (requests id).conversationID around.userMessageID (requests id).message)) := by
    apply (entered.wait asked nofun).step
    intro before stood
    rw [← stood.messages, ← stood.clock]
    exact .ask stood.phase written
  apply (spoken.wait kept nofun).step
  intro before stood
  rw [reserved, ← stood.messages, ← stood.clock]
  exact .reserve stood.phase (by rwa [stood.clock])

theorem Comes.finish
    (held : Comes tr requests first id around.reservedAt (.reserved around.streamStartID around.streamStartAt) messages)
    (saved : around.reservedAt ≤ around.savedAt) :
    let result := finishTurn tr messages (requests id).conversationID around.streamStartID
      around.streamStartAt around.exchange around.failing around.savedAt
    Comes tr requests first id around.savedAt (.returned result.1) result.2 := by
  have streaming : Comes tr requests first id around.reservedAt
      (.streaming around.streamStartID around.streamStartAt around.reservedAt) messages := by
    apply held.step
    intro before stood
    rw [← stood.messages, ← stood.clock]
    exact .connect stood.phase
  have drained : Comes tr requests first id around.reservedAt
      (.drained around.streamStartID around.streamStartAt around.exchange) messages := by
    apply streaming.step
    intro before stood
    rw [← stood.messages]
    exact .close stood.phase
  apply (drained.wait saved nofun).step
  intro before stood
  rw [← stood.messages, ← stood.clock]
  exact .finish stood.phase rfl

end

/-- A fresh turn that runs alone, clocks in order, is a run. -/
theorem comes_of_run (tr : String → String) (streamResume : Messages → Message → String → TurnOutcome × Messages)
    (requests : Nat → TurnRequest) {state id around admitted}
    (stands : state.Stands id state.clock .idle state.messages)
    (answers : around.active ∈ state.messages.findByConversationActive (requests id).conversationID ∨
      around.active = .error .unavailable) (gated : state.clock ≤ around.gatedAt)
    (asked : around.gatedAt ≤ around.askedAt) (kept : around.askedAt ≤ around.reservedAt)
    (stamped : around.streamStartAt ≤ around.reservedAt) (saved : around.reservedAt ≤ around.savedAt)
    (fresh : admission state.messages (requests id) around = .fresh admitted) :
    let result := run tr streamResume state.messages (requests id) around
    Comes tr requests state id around.savedAt (.returned result.1) result.2 := by
  have written := refusal_ok (fresh_of_admission fresh).2.1
  have entered := @Comes.enter tr _ _ _ _ _ _ ⟨[], state, .nil state, stands⟩ answers gated fresh
  have held := entered.reserve written asked kept stamped
  unfold run
  rw [fresh]
  exact held.finish saved

theorem comes_of_run_answered : let first := Conversation.start Sample.noMessages 1000 (by decide)
    let result := run id (fun stored _ _ => (.done, stored)) first.messages Sample.request
      (Sample.around (Sample.streamed []))
    Comes id (fun _ => Sample.request) first 0 2000 (.returned result.1) result.2 :=
  @comes_of_run id _ _ (.start Sample.noMessages 1000 (by decide)) 0 (Sample.around (Sample.streamed [])) _
    ⟨rfl, rfl, rfl, by rintro _ _ ⟨_, _, _, ⟨⟩⟩⟩ (.inl (List.mem_singleton_self _)) (by decide) (by decide)
    (by decide) (by decide) (by decide) rfl

end OneVoice.ChatTurn
