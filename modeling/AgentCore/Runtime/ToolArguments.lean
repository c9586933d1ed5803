import AgentCore.Runtime.ToolAuthority

/-! What an external harness is sent: the arguments of the model without the member that the
kernel uses for itself. -/

namespace AgentCore.Runtime

open Foundation Foundation.Traced
open Registry Journal Adapters Gateway
open Domain hiding OperationSpec RegistrySnapshot

/-- The only effects are requests that carry the arguments. -/
def Sends (arguments : Json) (act : ToolAct) : Prop :=
  act.isEffect = true → ∃ request, act = .contacted request ∧
    request.body.get "arguments" = some arguments

lemma withoutSessionId_withSessionId (sessionId : SessionId) (v : Json) :
    withoutSessionId (withSessionId sessionId v) = withoutSessionId v := by
  cases v with
  | obj fields => exact congrArg Json.obj (Json.removeField_insertField _ _ fields)
  | _ => rfl

lemma withoutSessionId_eq_self (v : Json) : withoutSessionId v = v ↔ v.get "session_id" = none := by
  cases v with
  | obj fields =>
    rw [withoutSessionId, Json.obj.injEq]
    exact Json.removeField_eq_self
  | _ => exact iff_of_true rfl rfl

lemma body_prepareRequest
    (h : prepareRequest manifest invocationId arguments config snapshotId net = .ok request) :
    request.body = requestBody manifest invocationId arguments snapshotId := by
  obtain ⟨parsed, -, h⟩ := bind_eq_ok.mp h
  obtain ⟨addresses, -, h⟩ := bind_eq_ok.mp h
  split_ifs at h
  · cases h
  · dsimp only at h
    split at h
    · cases h
    · cases h
      rfl

lemma sends_of_quiet (h : Quiet act) : Sends arguments act :=
  fun heffect => absurd (heffect.symm.trans h) (by decide)

section Call

variable [Platform] {env : ToolEnv} {I : ToolInput} {q : ToolRequest} {run : Run} {session : Session}
  {snapshot : RegistrySnapshot} {spec : OperationSpec} {approved : ApprovedInvocation}

lemma sends_appendOrFatal : Safe (fun _ => True) (Sends arguments)
    (appendOrFatal stamp kind run session correlationId payload) :=
  safe_appendOrFatal.mono fun _ => sends_of_quiet

lemma sends_executeExternal :
    Safe (fun _ => True) (Sends (withoutSessionId approved.intent.arguments))
      (executeExternal env I spec approved timeout snapshotId) := by
  refine (safe_reads _).bind fun _ loaded _ _ => ?_
  cases loaded with
  | none => exact safe_stop _
  | some manifest =>
    refine (safe_ofExcept _).bind fun _ request _ hrequest => ?_
    refine (safe_does fun _ => ⟨request, rfl, ?_⟩).bind fun _ _ _ _ =>
      (safe_ofExcept _).bind fun _ _ _ _ => safe_ofExcept _
    have hbody := body_prepareRequest (ofExcept_eq_ok hrequest)
    rw [hbody]
    exact Json.get_mkObj_of_mem (by simp) (by simp)

lemma sends_dispatch (hoperation : approved.intent.operation ≠ TASK_SUBMIT) :
    Safe (fun _ => True) (Sends (withoutSessionId approved.intent.arguments))
      (dispatch env I q spec approved run session correlationId snapshotId) := by
  rw [dispatch, if_neg hoperation]
  refine Safe.bind (Safe.attempt ?_) fun _ _ _ _ =>
    sends_appendOrFatal.bind fun _ _ _ _ => safe_done _
  rw [executeBinding]
  split_ifs
  · exact (safe_reads _).bind fun _ _ _ _ => safe_done _
  · exact (safe_reads _).bind fun _ _ _ _ => safe_done _
  · exact safe_stop _
  · split
    · exact safe_stop _
    · exact sends_executeExternal.attempt.bind fun _ _ _ _ => safe_ofExcept _

lemma sends_handleInlineToolCall (hoperation : q.call.operation ≠ TASK_SUBMIT) :
    Safe (fun _ => True) (Sends (withoutSessionId q.call.arguments))
      (handleInlineToolCall env I q run session snapshot) := by
  have hreject : ∀ rejection parameters, Safe (fun _ => True)
      (Sends (withoutSessionId q.call.arguments)) (recordRejection I run session q.call.id
        (sanitizeOperationForAuditWithSnapshot q.call.operation snapshot) rejection parameters) :=
    fun _ _ => sends_appendOrFatal.bind fun _ _ _ _ => safe_done _
  refine sends_appendOrFatal.bind fun _ _ _ _ => ?_
  split
  · exact hreject _ _
  · split
    · exact hreject _ _
    · next intent hintent =>
      split
      · exact hreject _ _
      · obtain ⟨_, _, _, _, _, rfl⟩ := validateToolCall_eq_ok hintent
        refine sends_appendOrFatal.bind fun _ _ _ _ => ?_
        split
        · exact sends_appendOrFatal.bind fun _ _ _ _ => safe_done _
        · next approved happroved =>
          refine sends_appendOrFatal.bind fun _ _ _ _ => ?_
          obtain rfl := approveInvocation_eq_ok happroved
          rw [← withoutSessionId_withSessionId session.id q.call.arguments]
          exact sends_dispatch hoperation

lemma sends_invokeTool (hoperation : q.call.operation ≠ TASK_SUBMIT) :
    Safe (fun _ => True) (Sends (withoutSessionId q.call.arguments)) (invokeTool env I q) := by
  refine (safe_reads _).bind fun _ governance _ _ =>
    (sends_handleInlineToolCall hoperation).attempt.bind fun _ result _ _ => ?_
  cases result with
  | ok text | error category => exact safe_done _

/-- Coding tasks have a client of their own. Every other effect of a tool call is a request to a
harness, and it carries the arguments of the model exactly if they have no member of the name
that the kernel injects and takes out again. -/
theorem harness_arguments_iff (env : ToolEnv) (I : ToolInput) (q : ToolRequest) (s : ToolStore)
    (hoperation : q.call.operation ≠ TASK_SUBMIT) (act : ToolAct)
    (hact : act ∈ (invokeTool env I q s).trace) (heffect : act.isEffect = true) :
    ∃ request, act = .contacted request ∧
      (request.body.get "arguments" = some q.call.arguments ↔
        q.call.arguments.get "session_id" = none) := by
  obtain ⟨request, rfl, harguments⟩ := (sends_invokeTool hoperation s trivial).2 act hact heffect
  refine ⟨request, rfl, ?_⟩
  rw [harguments, Option.some.injEq]
  exact withoutSessionId_eq_self q.call.arguments

end Call

theorem harness_arguments_iff_note : letI := zeroPlatform
    ∃ request, .contacted request ∈
      (invokeTool noteEnv noteInput (noteCall "buy milk") noteStore).trace ∧
      request.body.get "arguments" = some (noteCall "buy milk").call.arguments := by
  obtain ⟨act, after, htrace, heffect⟩ := split_at_effect 3
    (by decide +kernel : ((@invokeTool zeroPlatform noteEnv noteInput (noteCall "buy milk")
      noteStore).trace.drop 3).head?.any ToolAct.isEffect = true)
  have hact := htrace ▸ List.mem_append_right _ List.mem_cons_self
  obtain ⟨request, rfl, hiff⟩ := @harness_arguments_iff zeroPlatform noteEnv noteInput
    (noteCall "buy milk") noteStore (by decide) act hact heffect
  exact ⟨request, hact, hiff.mpr rfl⟩

/-- A note for a session that the model names. -/
def addressedCall : ToolRequest :=
  { noteCall "" with
    call := ⟨"call", "external.note", .obj [("session_id", .str "other"), ("text", .str "buy milk")]⟩ }

/-- The member is in no conflict with the pinned schema, and the harness is not sent it. -/
theorem harness_arguments_lost : letI := zeroPlatform
    ∃ request, .contacted request ∈ (invokeTool noteEnv noteInput addressedCall noteStore).trace ∧
      request.body.get "arguments" ≠ some addressedCall.call.arguments := by
  obtain ⟨act, after, htrace, heffect⟩ := split_at_effect 3
    (by decide +kernel : ((@invokeTool zeroPlatform noteEnv noteInput addressedCall
      noteStore).trace.drop 3).head?.any ToolAct.isEffect = true)
  have hact := htrace ▸ List.mem_append_right _ List.mem_cons_self
  obtain ⟨request, rfl, harguments⟩ :=
    (@sends_invokeTool zeroPlatform noteEnv noteInput addressedCall (by decide) noteStore trivial).2
      act hact heffect
  exact ⟨request, hact, by rw [harguments]; decide⟩

end AgentCore.Runtime
