import OneVoice.Construction.ChatTurn.Turn

/-! What each write of a chat turn can do to the stored messages. -/

namespace OneVoice.ChatTurn

open Library List Table

namespace Messages

/-- Stored rows stay as they are. -/
def Keeps (messages next : Messages) : Prop := ∀ id row, messages.find id = some row → next.find id = some row

/-- Only one identifier's row changes, and no row disappears. -/
structure Touches (messages : Messages) (id : String) (next : Messages) : Prop where
  others : ∀ other ≠ id, next.find other = messages.find other
  stays : (messages.find id).isSome → (next.find id).isSome

variable {messages next : Messages} {fails : Bool}

theorem Touches.same (id : String) : Touches messages id messages := ⟨fun _ _ => rfl, fun stored => stored⟩

theorem Touches.isSome {id other} (touched : Touches messages id next)
    (stored : (messages.find other).isSome) : (next.find other).isSome := by
  by_cases same : other = id
  · subst same
    exact touched.stays stored
  · rw [touched.others other same]
    exact stored

theorem Keeps.isSome {id} (kept : Keeps messages next)
    (stored : (messages.find id).isSome) : (next.find id).isSome := by
  obtain ⟨row, found⟩ := Option.isSome_iff_exists.mp stored
  rw [kept id row found]
  rfl

variable {message : Message}

variable {now : Domain.Time} {conversationID : String}

theorem create_eq_ok (created : messages.create fails now message = .ok next) :
    messages.insert { message with createdAt := now } = some next := by
  unfold create at created
  split at created
  · cases created
  · split at created
    · cases created
    · rename_i inserted
      cases created
      exact inserted

/-- An insertion never reaches a stored row. -/
theorem keeps_create (messages : Messages) (fails : Bool) (now : Domain.Time) (message : Message) :
    Keeps messages (messages.attempt (messages.create fails now message)) := by
  intro id row found
  unfold attempt
  split
  · rename_i created
    exact find_kept (create_eq_ok created) found
  · exact found

/-- An insertion under a new identifier is found there. -/
theorem find_create (absent : messages.find message.id = none) :
    (messages.attempt (messages.create false now message)).find message.id =
      some { message with createdAt := now } := by
  unfold attempt create
  simp only [Bool.false_eq_true, if_false]
  split
  · rename_i created
    split at created
    · cases created
    · rename_i inserted
      cases created
      rw [find_of_insert inserted, if_pos rfl]
  · rename_i failed
    split at failed
    · rename_i taken
      unfold Table.insert at taken
      split at taken
      · rename_i listed
        obtain ⟨old, member, named⟩ := mem_map.mp listed
        exact absurd named (find_eq_none.mp absent old member)
      · cases taken
    · cases failed

theorem update_eq_ok (updated : messages.update fails message = .ok next) :
    messages.replace message = some next := by
  unfold update at updated
  split at updated
  · cases updated
  · split at updated
    · cases updated
    · split at updated
      · cases updated
      · rename_i replaced
        cases updated
        exact replaced

theorem touches_replace (replaced : messages.replace message = some next) : Touches messages message.id next where
  others other apart := by
    rw [find_of_replace replaced, if_neg fun same => apart same.symm]
  stays _ := by
    rw [find_of_replace replaced, if_pos rfl]
    rfl

theorem touches_update (messages : Messages) (fails : Bool) (message : Message) :
    Touches messages message.id (messages.attempt (messages.update fails message)) := by
  unfold attempt
  split
  · rename_i updated
    exact touches_replace (update_eq_ok updated)
  · exact .same _

theorem touches_create (messages : Messages) (fails : Bool) (now : Domain.Time) (message : Message) :
    Touches messages message.id (messages.attempt (messages.create fails now message)) where
  others other apart := by
    unfold attempt
    split
    · rename_i created
      rw [find_of_insert (create_eq_ok created), if_neg fun same => apart same.symm]
    · rfl
  stays := (keeps_create messages fails now message).isSome

/-- The update of a stored row is found there. -/
theorem find_update {old} (named : message.id ≠ "") (found : messages.find message.id = some old) :
    ∃ next, messages.update false message = .ok next ∧ next.find message.id = some message := by
  unfold update
  rw [if_neg named]
  cases replaced : messages.replace message with
  | none =>
    rw [find_of_replace_eq_none replaced] at found
    cases found
  | some next =>
    have stored : next.find message.id = some message := by
      rw [find_of_replace replaced, if_pos rfl]
    exact ⟨next, rfl, stored⟩

theorem mem_newestActive : message ∈ messages.newestActive conversationID ↔
      (message ∈ messages.rows ∧ message.active conversationID) ∧
        ∀ other ∈ messages.rows, other.active conversationID → other.createdAt ≤ message.createdAt := by
  unfold newestActive
  rw [mem_filter, mem_filter, all_eq_true]
  apply and_congr_right
  intro _
  constructor
  · intro newest other member active
    exact of_decide_eq_true (newest other (mem_filter.mpr ⟨member, active⟩))
  · intro newest other member
    obtain ⟨listed, active⟩ := mem_filter.mp member
    exact decide_eq_true (newest other listed active)

/-- The answer to the lookup is a stored message. -/
theorem find_of_answer (answer : .ok message ∈ messages.findByConversationActive conversationID) :
    messages.find message.id = some message ∧ message ∈ messages.newestActive conversationID := by
  have newest : message ∈ messages.newestActive conversationID := by
    unfold findByConversationActive at answer
    split at answer
    · cases mem_singleton.mp answer
    · obtain ⟨other, member, same⟩ := mem_map.mp answer
      cases same
      exact member
  exact ⟨find_eq_some.mpr ⟨(mem_newestActive.mp newest).1.1, rfl⟩, newest⟩

end Messages

open Messages

variable {messages : Messages}

theorem touches_finalizeStranded (messages : Messages) (fails : Bool) (message : Message) :
    Touches messages message.id (finalizeStranded messages fails message) :=
  touches_update messages fails { message with status := .complete }

theorem touches_finalizeAssistantMessage (messages : Messages) (failing : Failing)
    (now : Domain.Time) (message : Message) :
    Touches messages message.id (finalizeAssistantMessage messages failing now message) := by
  unfold finalizeAssistantMessage
  split
  · rename_i updated
    exact touches_replace (update_eq_ok updated)
  · exact touches_create messages failing.insert now message
  · exact .same _

/-- With every write taken, the final message replaces its holder. -/
theorem find_finalizeAssistantMessage {now message old}
    (named : message.id ≠ "") (found : messages.find message.id = some old) :
    (finalizeAssistantMessage messages .nothing now message).find message.id = some message := by
  obtain ⟨next, updated, stored⟩ := find_update named found
  have taken : messages.update Failing.nothing.update message = .ok next := updated
  unfold finalizeAssistantMessage
  rw [taken]
  exact stored

@[simp]
theorem assistantMessage_id (tr : String → String) (conversationID streamStartID : String)
    (streamStartAt : Domain.Time) (state : StreamState) :
    (assistantMessage tr conversationID streamStartID streamStartAt state).id = streamStartID := by
  unfold assistantMessage
  split <;> rfl

end OneVoice.ChatTurn
