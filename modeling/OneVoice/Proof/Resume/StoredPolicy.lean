import OneVoice.Proof.Orchestrator.Authorisation
import OneVoice.Proof.Orchestrator.Reachability
import OneVoice.Proof.Resume.Bodies

namespace OneVoice.Resume

open Library Domain Agent EntryPoint

/-- Tools without verdict must be automatic, approved ones permitted. -/
def GovernedBy (floorOf : String → ToolFloor) : Observation → Prop
  | .execute toolName _ (.fresh _) => floorOf toolName = .auto
  | .execute toolName _ (.approved _ _) => floorOf toolName ≠ .forbidden
  | _ => True

/-- A loop that has nothing left but its last events executes nothing. -/
def Quiet (loop : Loop) : Prop := loop.phase.active = false ∧ loop.workers = []

variable {agent : Orchestrator}

theorem Quiet.step {first last seen}
    (taken : Step agent first seen last) (quiet : Quiet first) (floorOf : String → ToolFloor) :
    Quiet last ∧ ∀ observation ∈ seen, GovernedBy floorOf observation := by
  obtain ⟨inactive, idle⟩ := quiet
  cases taken with
  | cancel => exact ⟨⟨inactive, idle⟩, by simp⟩
  | panic active =>
    rw [inactive] at active
    cases active
  | stepRun taken =>
    cases taken with
    | emitted => exact ⟨⟨rfl, idle⟩, by simp [GovernedBy]⟩
    | emissionCut | stopped => exact ⟨⟨rfl, idle⟩, by simp⟩
    | _ => cases inactive
  | dispatchApproved taken => cases taken <;> cases inactive
  | worker taken => cases taken <;> simp at idle

section

variable {UUID : Type} [DecidableEq UUID] [UUIDFormat UUID]

variable (registry : Registry) (locale : Agent.Locale)

/-- The floor of a tool under the policy stored for the batch. -/
def storedFloor (db : Database UUID) (batch : PendingToolCallBatch) (business : Business UUID)
    (toolName : String) : ToolFloor :=
  Hitl.resolve (registry.floor toolName) business.toolApprovals (storedOverrides db batch) toolName

/-- Every execution that the body leads to obeys the stored policy. -/
def StoredPolicyGoverns (model : String) (db : Database UUID) (batch : PendingToolCallBatch)
    (business : Business UUID) (sent : Option Json) : Prop :=
  ∀ agent : Orchestrator, agent.tools = registry → ∀ labels last,
    Run (Step agent) (.resume agent (resumeRequest locale model batch.id (readResumeBody sent)) batch) labels last →
    ∀ seen ∈ labels, ∀ observation ∈ seen, GovernedBy (storedFloor registry db batch business) observation

/-- The registered floors let through an automatic tool or an approved call that the policy does
not. -/
def Exposed (db : Database UUID) (batch : PendingToolCallBatch) (business : Business UUID) (scope : Scope) : Prop :=
  batch.status ≠ .expired ∧ (∃ snapshot, decodeSnapshot batch.modelMessages = some snapshot) ∧
  ((∃ toolName ∈ scope.offered registry locale batch, registry.floor toolName = .auto ∧
      storedFloor registry db batch business toolName ≠ .auto) ∨
    ∃ call ∈ batch.calls, (call.verdict = .approve ∨ call.verdict = .edit) ∧
      call.dispatched = false ∧ call.toolName ∈ scope.offered registry locale batch ∧
      registry.floor call.toolName ≠ .forbidden ∧
      storedFloor registry db batch business call.toolName = .forbidden)

variable {db : Database UUID} {batch : PendingToolCallBatch} {business : Business UUID}

section

variable (db batch business) (agent : Orchestrator) (model : String) (entry : EntryPoint UUID)

/-- The resumed turn after the body of an entry point. -/
def resumed : Invocation :=
  .resume (resumeRequest locale model batch.id (readResumeBody (some (entry.body db batch business)))) batch

/-- The maps that the orchestrator reads are the stored ones or empty. -/
theorem effectiveFloor_read (toolName : String) :
    (resumed locale db batch business model entry).effectiveFloor agent toolName =
      if entry.carriesPolicy ∧ entry.Fits db batch business then
        storedFloor agent.tools db batch business toolName else agent.tools.floor toolName := by
  by_cases fits : entry.Fits db batch business
  · have carries := readResumeBody_fits fits
    have resolved : (resumed locale db batch business model entry).effectiveFloor agent toolName = _ :=
      Hitl.resolve_congr (carries.business toolName) (carries.project toolName)
    rw [resolved]
    cases policy : entry.carriesPolicy with
    | true =>
      rw [if_pos rfl, if_pos rfl, if_pos ⟨rfl, fits⟩]
      rfl
    | false =>
      exact Hitl.resolve_empty _ _
  · rw [if_neg fun read => fits read.2, resumed, readResumeBody_unread fits]
    exact Hitl.resolve_empty _ _

theorem offered_read :
    (resumed locale db batch business model entry).offered agent =
      (if entry.Fits db batch business then entry.scope db batch business
        else Scope.unread).offered agent.tools locale batch := by
  rw [← readResumeBody_scope]
  rfl

end

/-- A batch that cannot continue executes nothing. -/
theorem resume_quiet {agent request}
    (closed : batch.status = .expired ∨ decodeSnapshot batch.modelMessages = none) :
    Quiet (.resume agent request batch) := by
  unfold Loop.resume
  split
  · exact ⟨rfl, rfl⟩
  · split
    · exact ⟨rfl, rfl⟩
    · rename_i live
      rw [closed.resolve_left live]
      exact ⟨rfl, rfl⟩

/-- The stored policy governs when it was read or nothing is exposed. -/
theorem storedPolicyGoverns_of_read (model : String)
    (entry : EntryPoint UUID) (safe : (entry.carriesPolicy = true ∧ entry.Fits db batch business) ∨
      ¬ Exposed registry locale db batch business
        (if entry.Fits db batch business then entry.scope db batch business else Scope.unread)) :
    StoredPolicyGoverns registry locale model db batch business (some (entry.body db batch business)) := by
  rintro agent rfl labels last run
  by_cases closed : batch.status = .expired ∨ decodeSnapshot batch.modelMessages = none
  · exact run.forall_labels (fun _ _ _ taken quiet => (quiet.step taken
        (storedFloor agent.tools db batch business)).1)
      (fun _ _ _ taken quiet => (quiet.step taken _).2) (resume_quiet closed)
  · obtain ⟨live, readable⟩ := not_or.mp closed
    have decoded := Option.ne_none_iff_exists'.mp readable
    have authorised := Step.run_authorised run
      (Invocation.start_authorised agent (resumed locale db batch business model entry))
    intro seen inside observation member
    have allowed := authorised seen inside observation member
    cases observation with
    | execute toolName args origin =>
      obtain ⟨offered, automatic | ⟨approvalID, call, rfl, rfl, known, verdict, fresh, permitted⟩⟩ := allowed
      · rw [effectiveFloor_read] at automatic
        rw [offered_read] at offered
        have floor : storedFloor agent.tools db batch business toolName = .auto := by
          split at automatic
          · exact automatic
          · rename_i unread
            by_contra held
            exact safe.resolve_left unread ⟨live, decoded, .inl ⟨toolName, offered, automatic, held⟩⟩
        cases origin with
        | fresh => exact floor
        | approved =>
          change storedFloor agent.tools db batch business toolName ≠ .forbidden
          rw [floor]
          decide
      · rw [effectiveFloor_read] at permitted
        rw [offered_read] at offered
        split at permitted
        · exact permitted
        · rename_i unread
          intro forbidden
          exact safe.resolve_left unread
            ⟨live, decoded, .inr ⟨call, known, verdict, fresh, offered, permitted, forbidden⟩⟩
    | _ => trivial

open Agent.Sample

/-- Room for one more iteration, and a model that replies anything. -/
def permissive (registry : Registry) (batch : PendingToolCallBatch) : Orchestrator :=
  { orchestrator with
    tools := registry
    maxIterations := batch.iterationIdx + 2 }

/-- Without the policy an exposed batch breaks it in some run. -/
theorem exposed_breaks {registry locale model} {entry : EntryPoint UUID}
    (unread : ¬ (entry.carriesPolicy = true ∧ entry.Fits db batch business))
    (exposed : Exposed registry locale db batch business
      (if entry.Fits db batch business then entry.scope db batch business else Scope.unread)) :
    ¬ StoredPolicyGoverns registry locale model db batch business (some (entry.body db batch business)) := by
  intro governs
  obtain ⟨live, ⟨snapshot, decoded⟩, held⟩ := exposed
  let agent := permissive registry batch
  have runs := governs agent rfl
  generalize request_eq : resumeRequest locale model batch.id
    (readResumeBody (some (entry.body db batch business))) = request at runs
  have floor : ∀ toolName, Hitl.resolve (registry.floor toolName) request.businessApprovals
      request.projectApprovalOverrides toolName = registry.floor toolName := by
    intro toolName
    have read := effectiveFloor_read locale db batch business agent model entry toolName
    rw [if_neg unread, resumed, request_eq] at read
    exact read
  have tools : offeredToolSet (agent.resumeState request batch snapshot).availableTools =
      (if entry.Fits db batch business then entry.scope db batch business
        else Scope.unread).offered registry locale batch := by
    have read := offered_read locale db batch business agent model entry
    rw [resumed, request_eq] at read
    exact read
  rw [Loop.resume_decoded rfl live decoded] at runs
  rcases held with ⟨toolName, offered, automatic, held⟩ |
    ⟨call, member, verdict, fresh, offered, permitted, forbidden⟩
  · obtain ⟨labels, messages, reached⟩ := resumed_reaches_chat agent request
      batch batch.calls (agent.resumeState request batch snapshot)
    rw [← tools] at offered
    rw [← floor] at automatic
    obtain ⟨more, last, args, asked, executes, inside⟩ :=
      automatic_tool_executes agent { agent.resumeState request batch snapshot with messages := messages } toolName
        (fun _ _ => rfl) rfl rfl (Nat.lt_succ_self _) offered automatic
    obtain ⟨seen, known, executed⟩ := List.mem_flatten.mp inside
    exact held (runs _ _ (reached.append executes) seen (List.mem_append_right _ known) _ executed)
  · obtain ⟨before, after, split⟩ := List.append_of_mem member
    rw [split] at runs
    rw [← tools] at offered
    rw [← floor] at permitted
    obtain ⟨labels, last, executes, inside⟩ :=
      dispatched_call_executes agent request batch before after call (agent.resumeState request batch snapshot)
        fun _ => by
          have decided : ¬ (call.verdict ≠ .approve ∧ call.verdict ≠ .edit) := by tauto
          rw [Orchestrator.disposition, if_neg decided, if_neg (not_not.mpr offered), fresh]
          exact if_neg permitted
    obtain ⟨seen, known, executed⟩ := List.mem_flatten.mp inside
    exact runs _ _ executes seen known _ executed forbidden

/-- The stored policy governs exactly when the body carries it within the limit, or the floors
expose nothing. -/
theorem storedPolicyGoverns_iff (registry : Registry) (locale : Agent.Locale) (model : String)
    (lookups : LookupsSucceed db batch business) {entry : EntryPoint UUID}
    {sent : Option Json} (sends : entry.send db batch = .ok sent) :
    StoredPolicyGoverns registry locale model db batch business sent ↔
      (entry.carriesPolicy = true ∧ entry.Fits db batch business) ∨ ¬ Exposed registry locale db batch business
          (if entry.Fits db batch business then entry.scope db batch business else Scope.unread) := by
  obtain rfl := send_body lookups sends
  constructor
  · intro governs
    by_cases read : entry.carriesPolicy = true ∧ entry.Fits db batch business
    · exact .inl read
    · exact .inr fun exposed => exposed_breaks read exposed governs
  · exact storedPolicyGoverns_of_read registry locale model entry

end

/-- The owner holds the review tool back. -/
def Sample.heldBack : Option (StringMap Json) :=
  some ((∅ : StringMap Json).insert "google_business__get_reviews" (.str "manual"))

open Sample

/-- The resume handler carries that decision into the sample's turn. -/
theorem storedPolicyGoverns_httpResume :
    StoredPolicyGoverns orchestrator.tools .english "model"
      (database "google_business" heldBack) approvedBatch (business heldBack)
      (some ((httpResume () "conversation").body
        (database "google_business" heldBack) approvedBatch (business heldBack))) := by
  have sends : (httpResume () "conversation").send (database "google_business" heldBack) approvedBatch =
      .ok (some ((httpResume () "conversation").body
        (database "google_business" heldBack) approvedBatch (business heldBack))) := rfl
  exact (storedPolicyGoverns_iff orchestrator.tools .english "model"
    (lookupsSucceed "google_business" heldBack) sends).mpr (.inl ⟨rfl, by decide⟩)

/-- The rejoin drops it, and the turn may read the reviews unasked. -/
theorem not_storedPolicyGoverns_chatRejoin :
    LookupsSucceed (database "google_business" heldBack) approvedBatch (business heldBack) ∧
      ∃ sent, (chatRejoin "conversation").send (database "google_business" heldBack) approvedBatch = .ok sent ∧
        ¬ StoredPolicyGoverns orchestrator.tools .english "model"
          (database "google_business" heldBack) approvedBatch (business heldBack) sent := by
  have lookups := lookupsSucceed "google_business" heldBack
  refine ⟨lookups, _, rfl, ?_⟩
  have unread : ¬ ((chatRejoin "conversation" : EntryPoint Unit).carriesPolicy = true ∧
      (chatRejoin "conversation").Fits (database "google_business" heldBack) approvedBatch
        (business heldBack)) := fun read => Bool.noConfusion read.1
  apply exposed_breaks unread
  refine ⟨by decide, ⟨_, decodeSnapshot_encodeSnapshot pausedState⟩,
    .inl ⟨"google_business__get_reviews", ?_, ?_, ?_⟩⟩
  · decide
  · decide
  · decide

end OneVoice.Resume
