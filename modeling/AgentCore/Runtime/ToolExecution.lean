import AgentCore.Runtime.CodingTask

/-! One tool call of the model, from the stored run to the text that answers it: issued,
checked against the pinned snapshot, proposed, approved, dispatched and receipted. -/

namespace AgentCore.Runtime

open Foundation Foundation.Traced Registry Journal
open Adapters Gateway
open Harness hiding TASK_SUBMIT
open Domain hiding OperationSpec RegistrySnapshot

/-- The configuration, what is taken from libraries, and the builtin handlers, which only
read the store. -/
structure ToolEnv where
  less : JsonNumber → JsonNumber → Bool
  jsonError : String → String
  debugJson : Json → String
  harnessReadTimeoutMs : Nat
  executionToken : Option String
  sessionRecall : ToolStore → SessionId → Json → Except String (ReceiptStatus × Json)
  systemStatus : ToolStore → Except String Json
  coding : CodingEnv

/-- What one call takes from outside. A missing stamp stands for a refused write. -/
structure ToolInput where
  (invocationUuid decisionId : String)
  now : Timestamp
  (issued rejected proposed approved receipt : Option Stamp)
  network : Network
  coding : CodingInput

structure ToolRequest where
  runId : RunId
  call : ToolCall
  (turnIndex toolIndex remainingMs : Nat)

inductive ToolCallOutcome
  | toolResult (text : String)
  | fatal (category : String)

/-! ## Rejections -/

def availableWorkspaceIds (parameters : Json) : List String :=
  (((((parameters.get "properties").bind fun p => p.get "workspace_id").bind fun w =>
    w.get "enum").bind Json.asArray).getD []).filterMap Json.asStr

def issueDetails (parameters : Option Json) : SchemaValidationIssue → List (String × Json)
  | .missingRequired fields =>
    let ids := (parameters.map availableWorkspaceIds).getD []
    ("missing_fields", .arr (fields.map .str)) ::
      if "workspace_id" ∈ fields ∧ ids ≠ [] then
        [("available_workspace_ids", .arr (ids.map .str))]
      else []
  | .enumMismatch property allowed =>
    (property.toList.map fun p => ("invalid_field", .str p)) ++
      [("allowed_values", .arr (allowed.map .str))]
  | .unexpectedProperty property => [("unexpected_field", .str property)]
  | .typeMismatch => []
  | .outOfRange => []

def rejectedResult (rejection : ToolRejection) (parameters : Option Json) : String :=
  match rejection with
  | .invalidArgumentsWithDetails issue =>
    (Json.mkObj
      [("status", .str "rejected"), ("error_category", .str "invalid_arguments"),
        ("retryable", .bool true), ("details", .mkObj
          ([("retryable", .bool true), ("error_category", .str "invalid_arguments")] ++
            issueDetails parameters issue))]).toText
  | _ =>
    "status: rejected\nerror_category: " ++ rejection.category ++ "\nmessage: " ++
      rejection.safeMessage

/-! ## Dispatch -/

inductive ToolDispatchError
  | retiredBuiltinOperation (key : String)
  | unknownBuiltinBinding (key : String)
  | other (text : String)

def ToolDispatchError.category : ToolDispatchError → String
  | retiredBuiltinOperation _ => "retired_builtin_operation"
  | unknownBuiltinBinding _ => "registry_binding_invalid"
  | other text => errorCategory text

def receiptText (debugJson : Json → String) (receipt : Receipt) : String :=
  match receipt.status with
  | .succeeded => "status: succeeded\noutput: " ++ debugJson receipt.output
  | .failed =>
    "status: execution_failed\nerror_category: " ++
      ((receipt.output.get "error_category").bind Json.asStr).getD "harness_failed"
  | .unknown => "status: execution_failed\nerror_category: unknown_outcome"

/-- The receipt's status, output and reference, and the text for the model. After a timeout
nothing is known of the remote side. -/
def dispatchAnswer (debugJson : Json → String) :
    Except ToolDispatchError Receipt → ReceiptStatus × Json × Option String × String
  | .ok receipt => (receipt.status, receipt.output, receipt.externalRef, receiptText debugJson receipt)
  | .error e =>
    if e.category = "timeout" then
      (.failed,
        .mkObj
          [("error_category", .str "timeout"), ("caller_stopped_waiting", .bool true),
            ("remote_side_effect_cancellation_unverified", .bool true)],
        none,
        "status: execution_failed\nerror_category: timeout\ncaller_stopped_waiting=true\n" ++
          "remote_side_effect_cancellation_unverified=true")
    else
      (.failed, .mkObj [("error_category", .str e.category)], none,
        "status: execution_failed\nerror_category: " ++ e.category)

/-- The session is injected for the policy and must not reach the harness. -/
def withSessionId (sessionId : SessionId) : Json → Json
  | .obj fields => .obj (Json.insertField "session_id" (.str sessionId) fields)
  | other => other

def withoutSessionId : Json → Json
  | .obj fields => .obj (Json.removeField "session_id" fields)
  | other => other

section Call

variable [Platform] (env : ToolEnv) (I : ToolInput)

def executeExternalHarness (manifest : HarnessManifest) (approved : ApprovedInvocation)
    (config : ExternalHarnessTransportConfig) (registrySnapshotId : String) : Tool String Receipt := do
  let request ← ofExcept (prepareRequest manifest approved.intent.invocationId
    (withoutSessionId approved.intent.arguments) config registrySnapshotId I.network)
  does (.contacted request)
  let response ← ofExcept (receive config I.network)
  ofExcept (parseResponse env.less env.jsonError manifest approved.intent.invocationId config I.now
    response)

def executeExternal (spec : OperationSpec) (approved : ApprovedInvocation) (readTimeoutMs : Nat)
    (registrySnapshotId : String) : Tool String Receipt := do
  let loaded ← reads fun s =>
    (loadHarnessManifest s.toRegistryDb spec.bindingKey).mapError
      ("external_harness_manifest_load_failed: " ++ ·)
  match loaded with
  | none => stop ("external_harness_manifest_not_found: " ++ spec.bindingKey)
  | some manifest =>
    executeExternalHarness env I manifest approved
      { readTimeoutMs, bearerToken := env.executionToken } registrySnapshotId

/-- By the binding key first: a builtin key is served here whatever the kind of its binding. -/
def executeBinding (spec : OperationSpec) (approved : ApprovedInvocation) (session : Session)
    (readTimeoutMs : Nat) (registrySnapshotId : String) : Tool ToolDispatchError Receipt := do
  if spec.bindingKey = "builtin.session_recall_recent" then
    let out ← reads fun s =>
      (env.sessionRecall s session.id approved.intent.arguments).mapError .other
    pure
      { invocationId := approved.intent.invocationId
        status := out.1
        output := out.2
        externalRef := none
        occurredAt := I.now }
  else if spec.bindingKey = "builtin.system_status" then
    let output ← reads fun s => (env.systemStatus s).mapError .other
    pure
      { invocationId := approved.intent.invocationId
        status := .succeeded
        output
        externalRef := none
        occurredAt := I.now }
  else if spec.bindingKey = "builtin.time_now" then
    stop (.retiredBuiltinOperation spec.bindingKey)
  else
    match spec.bindingKind with
    | .builtin => stop (.unknownBuiltinBinding spec.bindingKey)
    | .external => do
      let result ← attempt (executeExternal env I spec approved readTimeoutMs registrySnapshotId)
      ofExcept (result.mapError .other)

def dispatchBuiltinBinding (spec : OperationSpec) (approved : ApprovedInvocation) (run : Run)
    (session : Session) (correlationId : String) (readTimeoutMs : Nat)
    (registrySnapshotId : String) : Tool String String := do
  let result ← attempt (executeBinding env I spec approved session readTimeoutMs registrySnapshotId)
  appendOrFatal I.receipt .receiptReceived run session (some correlationId)
    (.mkObj
      [("invocation_id", .str approved.intent.invocationId),
        ("status", .str (dispatchAnswer env.debugJson result).1.debug),
        ("output", (dispatchAnswer env.debugJson result).2.1),
        ("external_ref", .ofOption (dispatchAnswer env.debugJson result).2.2.1)])
  pure (dispatchAnswer env.debugJson result).2.2.2

def dispatch (q : ToolRequest) (spec : OperationSpec) (approved : ApprovedInvocation) (run : Run)
    (session : Session) (correlationId registrySnapshotId : String) : Tool String String :=
  if approved.intent.operation = TASK_SUBMIT then
    dispatchCodingTaskSubmit env.coding I.coding approved run session correlationId I.receipt
  else
    dispatchBuiltinBinding env I spec approved run session correlationId
      (min q.remainingMs env.harnessReadTimeoutMs) registrySnapshotId

/-! ## The call -/

def recordRejection (run : Run) (session : Session) (toolCallId auditedOp : String)
    (rejection : ToolRejection) (parameters : Option Json) : Tool String String := do
  appendOrFatal I.rejected .toolCallRejected run session none
    (.mkObj
      [("operation", .str auditedOp), ("tool_call_id", .str toolCallId),
        ("error_category", .str rejection.category)])
  pure (rejectedResult rejection parameters)

def proposeAndDispatch (q : ToolRequest) (run : Run) (session : Session)
    (snapshot : RegistrySnapshot) (spec : OperationSpec) (intent : InvocationIntent) :
    Tool String String := do
  appendOrFatal I.proposed .invocationProposed run session (some intent.invocationId)
    (.mkObj
      [("operation", .str intent.operation), ("idempotency_key", .ofOption intent.idempotencyKey),
        ("source", .str "model_tool_call")])
  match approveInvocation { intent with arguments := withSessionId session.id intent.arguments }
      run session (pinned snapshot) I.decisionId with
  | .error _ => do
    appendOrFatal I.rejected .toolCallRejected run session (some intent.invocationId)
      (.mkObj
        [("operation", .str "tool_call"), ("invocation_id", .str intent.invocationId),
          ("error_category", .str ToolRejection.policyDenied.category)])
    pure (rejectedResult .policyDenied none)
  | .ok approved => do
    appendOrFatal I.approved .invocationApproved run session (some intent.invocationId)
      (.mkObj
        [("decision_id", .str approved.decisionId), ("operation", .str approved.intent.operation)])
    dispatch env I q spec approved run session intent.invocationId snapshot.snapshotId

def invocationIdOf (I : ToolInput) : InvocationId := "invocation_" ++ I.invocationUuid

def handleInlineToolCall (q : ToolRequest) (run : Run) (session : Session)
    (snapshot : RegistrySnapshot) : Tool String String := do
  let auditedOp := sanitizeOperationForAuditWithSnapshot q.call.operation snapshot
  appendOrFatal I.issued .toolCallIssued run session none
    (.mkObj [("operation", .str auditedOp), ("tool_call_id", .str q.call.id)])
  match snapshot.lookup q.call.operation with
  | none => recordRejection I run session q.call.id auditedOp .unknownOperation none
  | some spec =>
    match validateToolCall q.call run.id q.turnIndex q.toolIndex snapshot (invocationIdOf I) with
    | .error rejection => recordRejection I run session q.call.id auditedOp rejection none
    | .ok intent =>
      match validateModelArguments env.less spec intent.arguments with
      | .error rejection =>
        recordRejection I run session q.call.id auditedOp rejection (some spec.parameters)
      | .ok () => proposeAndDispatch env I q run session snapshot spec intent

def loadLegacyGovernance (runId : RunId) (s : ToolStore) :
    Except String (Run × Session × RegistrySnapshot) :=
  match runById runId s.toDb with
  | none => .error ("run_not_found: " ++ runId)
  | some run =>
    match sessionById run.sessionId s.toDb with
    | none => .error ("session_not_found: " ++ run.sessionId)
    | some session =>
      (loadSnapshotFromConn s.registry run.registrySnapshotId).map fun snapshot =>
        (run, session, snapshot)

def invokeTool (q : ToolRequest) : Tool String ToolCallOutcome := do
  let governance ← reads (loadLegacyGovernance q.runId)
  match ← attempt (handleInlineToolCall env I q governance.1 governance.2.1 governance.2.2) with
  | .ok text => pure (.toolResult text)
  | .error category => pure (.fatal category)

end Call

end AgentCore.Runtime
