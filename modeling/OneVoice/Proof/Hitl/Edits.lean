import OneVoice.Proof.Hitl.Verdicts

namespace OneVoice.Hitl

open Library Domain Agent List AList

/-- A value has its field's declared kind at the check. -/
structure OfKind (parseRFC3339 : String → Option Time) (now : Time) (field : String) (value : Json) : Prop where
  scalar : scalar value = true
  string : editableFieldKind field = some "string" → ∃ text, value = .str text ∧
    (field = "scheduled_at" → text ≠ "" → ∃ instant, parseRFC3339 text = some instant ∧ now < instant)

section Validation

variable {parseRFC3339 : String → Option Time} {now : Time} {toolName field : String}
  {editable : List String} {value : Json}

theorem assertKind_string (passed : assertKind parseRFC3339 now toolName field "string" value = .ok ()) :
    ∃ text, value = .str text ∧ (field = "scheduled_at" → text ≠ "" →
      ∃ instant, parseRFC3339 text = some instant ∧ now < instant) := by
  cases value with
  | str text =>
    refine ⟨text, rfl, ?_⟩
    intro scheduled set
    simp only [assertKind, ne_eq, not_true_eq_false, if_false, scheduled, set, not_false_eq_true,
      and_self, if_true] at passed
    cases parsed : parseRFC3339 text with
    | none =>
      rw [parsed] at passed
      cases passed
    | some instant =>
      refine ⟨instant, rfl, ?_⟩
      by_contra late
      simp only [parsed, if_neg late, reduceCtorEq] at passed
  | _ => cases passed

theorem validateEditArg_ok (passed : validateEditArg parseRFC3339 now toolName editable field value = .ok ()) :
    field ∈ editable ∧ OfKind parseRFC3339 now field value := by
  unfold validateEditArg at passed
  split_ifs at passed with inside compound
  refine ⟨inside, ?_, ?_⟩
  · cases known : scalar value with
    | true => rfl
    | false => exact absurd known compound
  · intro kind
    rw [kind] at passed
    exact assertKind_string passed

/-- Every accepted edit names an editable field and has its kind. -/
theorem validateEditArgs_ok {editedArgs}
    (passed : validateEditArgs parseRFC3339 now toolName editedArgs editable = .ok ()) :
    ∀ field value, editedArgs.lookup field = some value →
      field ∈ editable ∧ OfKind parseRFC3339 now field value := by
  intro field value found
  exact validateEditArg_ok (forM_ok passed ⟨field, value⟩ (mem_lookup_iff.mp found))

end Validation

/-- The recorded edit of a call was submitted and accepted. -/
structure EditAccepted (attempt : Attempt) (call : PendingCall) : Prop where
  action : (decisionByID attempt.input.decisions call.callID).action = .edit
  submitted : call.editedArgs = (decisionByID attempt.input.decisions call.callID).editedArgs
  validated : ∃ now, validateEditArgs attempt.service.parseRFC3339 now call.toolName
    (call.editedArgs.getD ∅) (attempt.service.editableFields call.toolName) = .ok ()

/-- A stored call is the persisted one, and its edit is accepted. -/
structure Derived (submitted : Attempt → Prop) (original call : PendingCall) : Prop where
  callID : call.callID = original.callID
  toolName : call.toolName = original.toolName
  arguments : call.arguments = original.arguments
  edited : call.verdict = .edit → ∃ attempt, submitted attempt ∧ EditAccepted attempt call

theorem exists_derived {submitted : Attempt → Prop} {known calls}
    (derived : List.Forall₂ (Derived submitted) known calls) {call}
    (member : call ∈ calls) : ∃ original ∈ known, Derived submitted original call := by
  induction derived with
  | nil => cases member
  | cons head _ ih =>
    rcases mem_cons.mp member with rfl | later
    · exact ⟨_, mem_cons_self, head⟩
    · obtain ⟨original, inside, same⟩ := ih later
      exact ⟨original, mem_cons_of_mem _ inside, same⟩

section Finalize

variable {submitted : Attempt → Prop} {attempt : Attempt} {now : Time}
  {batch : PendingToolCallBatch} {original call : PendingCall}

variable {businessApprovals projectOverrides : ApprovalMap} (known : submitted attempt)

include known

theorem Derived.finalizeCall (derived : Derived submitted original call)
    (accepted : attempt.service.checkCall attempt.context now batch call
      (decisionByID attempt.input.decisions call.callID) = .ok ()) :
    Derived submitted original (Hitl.finalizeCall businessApprovals projectOverrides call
      (decisionByID attempt.input.decisions call.callID)) := by
  unfold Hitl.finalizeCall
  split_ifs
  · exact ⟨derived.callID, derived.toolName, derived.arguments, fun edits => by cases edits⟩
  · refine ⟨derived.callID, derived.toolName, derived.arguments, fun edits => ?_⟩
    refine ⟨attempt, known, edits, rfl, now, ?_⟩
    have passed := HITLService.checkAction_of_checkCall accepted
    change (decisionByID attempt.input.decisions call.callID).action = .edit at edits
    simp only [HITLService.checkAction, edits, HITLService.checkEdit] at passed
    split at passed
    · cases passed
    · assumption

theorem forall₂_finalize {originals calls} (derived : List.Forall₂ (Derived submitted) originals calls)
    (accepted : ∀ call ∈ calls, attempt.service.checkCall attempt.context now batch call
      (decisionByID attempt.input.decisions call.callID) = .ok ()) :
    List.Forall₂ (Derived submitted) originals
      (finalize businessApprovals projectOverrides calls attempt.input.decisions) := by
  induction derived with
  | nil => exact .nil
  | cons head _ ih =>
    rw [forall_mem_cons] at accepted
    exact .cons (head.finalizeCall known accepted.1) (ih accepted.2)

end Finalize

/-- The document, copies and resumes derive from the persisted calls. -/
structure Confined (agent : Orchestrator) (submitted : Attempt → Prop)
    (calls : List PendingCall) (state : Approval) : Prop where
  stored : ∀ doc ∈ state.cell, List.Forall₂ (Derived submitted) calls doc.calls
  copied : ∀ resolver attempt copy, (state.resolvers resolver).copy = some (attempt, copy) →
    submitted attempt ∧ (∃ now, attempt.service.check attempt.context now attempt.input copy =
      .ok ()) ∧ List.Forall₂ (Derived submitted) calls copy.calls
  loaded : ∀ resume request batch loop unanswered, state.resumes resume = .running request batch loop unanswered →
    LoopAuthorised agent (.resume request batch) loop ∧ List.Forall₂ (Derived submitted) calls batch.calls

section Runs

variable {agent : Orchestrator} {id : String} {submitted : Attempt → Prop}
  {calls : List PendingCall} {first last : Approval} {action : Action}

theorem Confined.stored_step (inv : Confined agent submitted calls first)
    (step : Approval.Step agent id first action last) :
    ∀ doc ∈ last.cell, List.Forall₂ (Derived submitted) calls doc.calls := by
  apply step.keeps_calls _ _ inv.stored
  · rintro resolver decisions rfl
    cases step with
    | record businessApprovals projectOverrides _ phase =>
      obtain ⟨known, ⟨now, accepted⟩, derived⟩ := inv.copied resolver _ _ (by rw [phase]; rfl)
      exact forall₂_finalize known derived (HITLService.checkCall_of_check accepted)
  · intro op doc quiet
    apply forall₂_set_calls _ quiet
    intro original call now derived
    refine ⟨derived.callID, derived.toolName, derived.arguments, fun edits => ?_⟩
    obtain ⟨attempt, known, accepted⟩ := derived.edited edits
    exact ⟨attempt, known, accepted.action, accepted.submitted, accepted.validated⟩

theorem Confined.step (inv : Confined agent submitted calls first) (step : Approval.Step agent id first action last)
    (known : ∀ resolver attempt, action = .read resolver attempt → submitted attempt) :
    Confined agent submitted calls last where
  stored := inv.stored_step step
  copied resolver attempt copy held := by
    rcases step.copies held with before | ⟨doc, present, rfl, reads, accepted⟩
    · exact inv.copied resolver attempt copy before
    · refine ⟨known resolver attempt reads, ⟨first.now, accepted⟩, ?_⟩
      rw [virtualizeExpiry_calls]
      exact inv.stored doc present
  loaded resume request batch loop unanswered running := by
    constructor
    · exact step.loaded_authorised (fun _ _ _ _ earlier => (inv.loaded _ _ _ _ _ earlier).1) running
    · exact step.loaded_calls inv.stored (fun _ _ _ _ earlier => (inv.loaded _ _ _ _ _ earlier).2) running

theorem confined_start {batch} (fresh : Fresh batch) (now : Time) :
    Confined agent submitted batch.calls (.start batch now) where
  stored doc member := by
    cases member
    refine forall₂_same.mpr fun call inside => ⟨rfl, rfl, rfl, fun edits => ?_⟩
    rw [fresh.undecided call inside] at edits
    cases edits
  copied _ _ _ held := by cases held
  loaded _ _ _ _ _ running := by cases running

/-- The value that a request submits for a key of a call. -/
def submittedValue (attempt : Attempt) (callID key : String) : Option Json :=
  (decisionByID attempt.input.decisions callID).editedArgs.bind (lookup key)

/-- The persisted arguments with accepted edits of editable keys. -/
structure EditedBy (attempt : Attempt) (checkedAt : Time) (original : PendingCall) (args : Args) : Prop where
  action : (decisionByID attempt.input.decisions original.callID).action = .edit
  submitted : ∀ key value, submittedValue attempt original.callID key = some value →
    args.lookup key = some value ∧ key ∈ attempt.service.editableFields original.toolName ∧
      OfKind attempt.service.parseRFC3339 checkedAt key value
  unsubmitted : ∀ key, submittedValue attempt original.callID key = none →
    args.lookup key = original.arguments.lookup key
  outside : ∀ key ∉ attempt.service.editableFields original.toolName,
    args.lookup key = original.arguments.lookup key

variable {call : PendingCall}

/-- An edit verdict merges the edited values over the persisted ones. -/
theorem lookup_approvedArgs (verdict : call.verdict = .edit) (key : String) :
    (approvedArgs call).lookup key = (call.editedArgs.bind (lookup key)).or (call.arguments.lookup key) := by
  unfold approvedArgs
  rw [verdict]
  cases call.editedArgs with
  | none => rfl
  | some edited =>
    change lookup key (edited ∪ call.arguments) = (edited.lookup key).or (call.arguments.lookup key)
    by_cases present : key ∈ edited
    · rw [lookup_union_left present]
      obtain ⟨value, found⟩ := Option.isSome_iff_exists.mp (lookup_isSome.mpr present)
      rw [found, Option.some_or]
    · rw [lookup_union_right present, lookup_eq_none.mpr present, Option.none_or]

theorem EditAccepted.editedBy {attempt original} (accepted : EditAccepted attempt call)
    (derived : Derived submitted original call) (verdict : call.verdict = .edit) :
    ∃ checkedAt, EditedBy attempt checkedAt original (approvedArgs call) := by
  obtain ⟨action, same, checkedAt, validated⟩ := accepted
  rw [derived.toolName] at validated
  rw [derived.callID] at action same
  have merged : ∀ key, (approvedArgs call).lookup key =
      (submittedValue attempt original.callID key).or (original.arguments.lookup key) := by
    intro key
    rw [lookup_approvedArgs verdict, derived.arguments, same]
    rfl
  have unsubmitted : ∀ key, submittedValue attempt original.callID key = none →
      (approvedArgs call).lookup key = original.arguments.lookup key := by
    intro key none
    rw [merged key, none, Option.none_or]
  have checked : ∀ key value, submittedValue attempt original.callID key = some value →
      key ∈ attempt.service.editableFields original.toolName ∧
        OfKind attempt.service.parseRFC3339 checkedAt key value := by
    intro key value found
    rw [same] at validated
    obtain ⟨edited, some_, inside⟩ := Option.bind_eq_some_iff.mp found
    rw [some_] at validated
    exact validateEditArgs_ok validated key value inside
  refine ⟨checkedAt, action, ?_, unsubmitted, ?_⟩
  · intro key value found
    refine ⟨?_, checked key value found⟩
    rw [merged key, found, Option.some_or]
  · intro key outside
    apply unsubmitted
    cases found : submittedValue attempt original.callID key with
    | none => rfl
    | some value => exact absurd (checked key value found).1 outside

/-- A call is executed with persisted arguments or accepted edits. -/
theorem executed_args_confined {batch : PendingToolCallBatch} {now : Time} {actions : List Action} {resume : Nat}
    {seen : List Observation} {toolName approvalID : String} {args : Args} {call : PendingCall}
    (fresh : Fresh batch) (run : Run (Approval.Step agent id) (.start batch now) actions last)
    (taken : .agent resume seen ∈ actions) (executed : .execute toolName args (.approved approvalID call) ∈ seen) :
    ∃ original ∈ batch.calls, call.callID = original.callID ∧ toolName = original.toolName ∧
      (call.verdict = .approve ∧ args = original.arguments ∨
        call.verdict = .edit ∧ ∃ resolver attempt checkedAt, .read resolver attempt ∈ actions ∧
          EditedBy attempt checkedAt original args) := by
  obtain ⟨before, after, split⟩ := append_of_mem taken
  have guarded := run.guarded fun _ member => member
  rw [split] at guarded
  obtain ⟨source, target, head, ⟨step, _⟩, _⟩ := guarded.split_at
  have confined : Confined agent (fun attempt => ∃ resolver, .read resolver attempt ∈ actions)
      batch.calls source := by
    refine head.invariant (fun _ action _ taken inv => inv.step taken.1 ?_) (confined_start fresh now)
    rintro resolver attempt rfl
    exact ⟨resolver, split ▸ taken.2⟩
  cases step with
  | agent phase moved =>
    obtain ⟨authorised, derived⟩ := confined.loaded _ _ _ _ _ phase
    obtain ⟨worker, member, _, rfl, rfl, rfl⟩ := moved.workedBy _ executed
    have approved := authorised.workers worker member
    obtain ⟨original, inside, same⟩ := exists_derived derived approved.member
    refine ⟨original, inside, same.callID, same.toolName, ?_⟩
    rcases approved.verdict with approve | edit
    · refine .inl ⟨approve, ?_⟩
      rw [approvedArgs, approve]
      exact same.arguments
    · obtain ⟨attempt, ⟨resolver, read⟩, accepted⟩ := same.edited edit
      obtain ⟨checkedAt, edited⟩ := accepted.editedBy same edit
      exact .inr ⟨edit, resolver, attempt, checkedAt, read, edited⟩

end Runs

def Sample.edits : Args := (∅ : Args).insert "text" (.str "Thank you")

/-- The owner edits the text of the sample call. -/
def Sample.edition : Attempt :=
  { attempt with input := { attempt.input with decisions := [⟨"call", .edit, some edits, ""⟩] } }

def Sample.editedCall : PendingCall := { waitingCall with verdict := .edit, editedArgs := some edits }

def Sample.editedActions : List Action :=
  [.read 0 edition, .claim 0, .record 0 [editedCall], .resumeClaim 0,
    .load 0 Agent.Sample.resumeRequest, .agent 0 [],
    .agent 0 [.send (.toolCall "call" "google_business__reply_review" (approvedArgs editedCall))],
    .agent 0 [.execute "google_business__reply_review" (approvedArgs editedCall)
      (.approved "batch-call" editedCall)]]

theorem Sample.editedActions_run : ∃ last, Steps (.start Agent.Sample.batch 1) editedActions last := by
  have loaded : ∃ middle, Steps (.start Agent.Sample.batch 1) [.read 0 edition, .claim 0,
      .record 0 [editedCall], .resumeClaim 0, .load 0 Agent.Sample.resumeRequest] middle ∧
      middle.resumes 0 = .running Agent.Sample.resumeRequest (doc .resuming [editedCall] 1)
        (loop [editedCall] 1) true := by
    exact ⟨_, .cons (.read _ rfl rfl rfl) <| .cons (.claim rfl (.updated rfl)) <|
      .cons (@Approval.Step.record _ _ _ _ edition (doc .pending [waitingCall] 1) 1 _ ∅ ∅ true rfl
        (.updated rfl)) <|
      .cons (.resumeClaim rfl (.updated rfl)) <| .cons (.load _ rfl rfl) <| .nil _, rfl⟩
  obtain ⟨middle, before, running⟩ := loaded
  exact ⟨_, before.append <|
    .cons (.agent running (.dispatchApproved (.spawned (by decide))) (.nil _) (nil_sublist _)) <|
    .cons (.agent rfl (.worker (@WorkerStep.announced _ _ _ [] _ _ _ _)) (.nil _) (nil_sublist _)) <|
    .cons (.agent rfl (.worker (@WorkerStep.executed _ _ _ [] _ _ _ _)) (.nil _) (nil_sublist _)) <| .nil _⟩

open Sample

theorem executed_args_confined_edited :
    ∃ original ∈ Agent.Sample.batch.calls, editedCall.callID = original.callID ∧
      "google_business__reply_review" = original.toolName ∧
      (editedCall.verdict = .approve ∧ approvedArgs editedCall = original.arguments ∨
        editedCall.verdict = .edit ∧ ∃ resolver attempt checkedAt, .read resolver attempt ∈ editedActions ∧
          EditedBy attempt checkedAt original (approvedArgs editedCall)) := by
  obtain ⟨last, run⟩ := editedActions_run
  have executes : .agent 0 [.execute "google_business__reply_review"
      (approvedArgs editedCall) (.approved "batch-call" editedCall)] ∈
      editedActions := mem_of_getLast? rfl
  exact executed_args_confined fresh_batch run executes mem_cons_self

end OneVoice.Hitl
