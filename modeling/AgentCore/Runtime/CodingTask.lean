import AgentCore.Journal.CodingAttempts
import AgentCore.Runtime.ToolStore

/-! The coding path of a tool call: a sealed development request is claimed as an attempt,
sent to the coding harness, settled and turned into a proposal, and one receipt answers the
call whatever came of it. -/

namespace AgentCore.Runtime

open Foundation Foundation.Traced Registry Journal
open Adapters Gateway
open Domain hiding OperationSpec RegistrySnapshot

/-- `text` is the record as it is serialised, `json` the value that its text reads as. -/
structure DevelopmentRequest where
  (requestId sourceSubject sourceScope sourceMessageId name buildProfile idempotencyKey : String)
  (contractCatalogVersion text : String)
  json : Json

structure AcceptedCandidate where
  (issuer receiptDigest candidateId candidateDigest artifactRef artifactDigest manifestRef : String)
  (manifestDigest evidenceDigest : String)

inductive CodingHarnessExecutionOutcome
  | succeeded (result : Json)
  | definitivelyRejected (errorCode : String)
  | outcomeUnknown (error : String)
  | inProgress

structure CodingFailure where
  message : String
  unknownContracts : Option (List String) := none

/-- The configuration and the computations of the path that write nothing: sealing the
model's draft, the contract catalog, the checks of an acceptance and the content store. -/
structure CodingEnv where
  (codingOwnerId controlToken : Option String)
  sealRequest : ToolStore → Run → Session → Json → Except CodingFailure DevelopmentRequest
  validateRequest : DevelopmentRequest → Except String Unit
  validateAcceptance : Json → DevelopmentRequest → String → String → Except String AcceptedCandidate
  load : Sha256Digest → Except String Unit

/-- What the path takes from outside. A missing stamp stands for a refused transaction. -/
structure CodingInput where
  (attemptUuid proposalUuid approvalId approvalExpiresAt decisionId retryDecisionId : String)
  claim : Option (Timestamp × Stamp × Stamp)
  exchange : Except String (List UInt8)
  finish : Option (Timestamp × Stamp)
  /-- The proposal's own checks: a failure, the proposal of a replay, or a new proposal. -/
  proposal : Except String (Option String)
  proposalStamp : Option Stamp

def PROFILE_CATALOG_VERSION : String := "component-profile-catalog-v1"

/-! ## The checks before a claim -/

def validatePrivateOwnerContext (configuredOwner : Option String) (run : Run) (session : Session) :
    Except String Unit :=
  match configuredOwner.filter fun owner => trim owner ≠ "" with
  | none => .error "CODING_OWNER_NOT_CONFIGURED"
  | some owner =>
    let expectedPrincipal := "feishu:open_id:" ++ owner
    if session.channel ≠ .feishu ∨ run.principal.source ≠ .feishu ∨
        run.principal.subject ≠ .feishuOpenId owner ∨
        run.principal.principalId ≠ expectedPrincipal ∨
        session.conversationKey ≠ expectedPrincipal then
      .error "CODING_REQUIRES_OWNER_PRIVATE_FEISHU_SESSION"
    else .ok ()

def validateSourceBinding (request : DevelopmentRequest) (run : Run) (session : Session)
    (sourceMessageId : String) : Except String Unit :=
  if trim sourceMessageId = "" ∨ request.sourceMessageId ≠ sourceMessageId ∨
      request.sourceSubject ≠ run.principal.principalId ∨ request.sourceScope ≠ session.id ∨
      request.idempotencyKey ≠ "development:" ++ sourceMessageId then
    .error "DEVELOPMENT_REQUEST_SOURCE_BINDING_MISMATCH"
  else .ok ()

def approveSubmissionInvocation (run : Run) (session : Session) (snapshot : RegistrySnapshot)
    (invocationId : InvocationId) (request : DevelopmentRequest) (decisionId : String) :
    Except String ApprovedInvocation :=
  let submitKey := "development-attempt:" ++ invocationId
  approveInvocation
    { invocationId
      runId := run.id
      operation := TASK_SUBMIT
      arguments := .mkObj
        [("session_id", .str session.id), ("development_request", request.json),
          ("idempotency_key", .str submitKey)]
      idempotencyKey := some submitKey }
    run session (pinned snapshot) decisionId

/-! ## The coding harness -/

section Client

variable [Platform]

def MAX_RESPONSE_BYTES : Nat := 128 * 1024

def classifyResponse (value : Json) : Except String CodingHarnessExecutionOutcome :=
  if (value.get "protocol_version").bind Json.asStr ≠ some "external-harness-v1" then
    .error "CODING_HARNESS_PROTOCOL_MISMATCH"
  else
    match (value.get "outcome").bind Json.asStr, (value.get "ok").bind Json.asBool with
    | some "succeeded", some true =>
      match value.get "result" with
      | none => .error "CODING_HARNESS_RESULT_MISSING"
      | some result => .ok (.succeeded result)
    | some "definitively_rejected", some false =>
      match ((value.get "error_code").bind Json.asStr).filter fun code => trim code ≠ "" with
      | none => .error "CODING_HARNESS_REJECTION_CODE_MISSING"
      | some code => .ok (.definitivelyRejected code)
    | some "outcome_unknown", _ => .ok (.outcomeUnknown "CODING_HARNESS_REPORTED_OUTCOME_UNKNOWN")
    | some "in_progress", some false => .ok .inProgress
    | _, _ => .error "CODING_HARNESS_OUTCOME_MISSING_OR_INVALID"

def readCodingResponse (raw : List UInt8) : Except String CodingHarnessExecutionOutcome :=
  if MAX_RESPONSE_BYTES < raw.length then .error "CODING_HARNESS_RESPONSE_TOO_LARGE"
  else
    match String.fromUTF8? ⟨raw.toArray⟩ with
    | none => .error "INVALID_UTF8"
    | some response =>
      if ¬(200 ≤ statusCode response ∧ statusCode response < 300) then
        .error "CODING_HARNESS_HTTP_ERROR"
      else
        match bodyOf response with
        | none => .error "CODING_HARNESS_MALFORMED_RESPONSE"
        | some body =>
          match fromStr body with
          | none => .error "invalid JSON from coding harness"
          | some value => classifyResponse value

def codingRequestBody (intent : InvocationIntent) : Json :=
  let arguments := match intent.arguments with
    | .obj fields => .obj (Json.insertField "invocation_intent_id" (.str intent.invocationId) fields)
    | other => other
  .mkObj
    [("protocol_version", .str "external-harness-v1"), ("invocation_id", .str intent.invocationId),
      ("operation", .str intent.operation), ("arguments", arguments)]

def executeInner (controlToken : Option String) (exchange : Except String (List UInt8))
    (approved : ApprovedInvocation) : Tool String CodingHarnessExecutionOutcome := do
  if approved.intent.operation ≠ TASK_SUBMIT then stop "CODING_HARNESS_OPERATION_MISMATCH"
  else
    match controlToken.filter fun token => trim token ≠ "" with
    | none => stop "CODING_HARNESS_CONTROL_NOT_CONFIGURED"
    | some _ => do
      does (.contactedCoding approved.intent.invocationId (codingRequestBody approved.intent))
      let raw ← ofExcept exchange
      ofExcept (readCodingResponse raw)

def executeCoding (controlToken : Option String) (exchange : Except String (List UInt8))
    (approved : ApprovedInvocation) : Tool String CodingHarnessExecutionOutcome := do
  match ← attempt (executeInner controlToken exchange approved) with
  | .ok outcome => pure outcome
  | .error error => pure (.outcomeUnknown error)

end Client

/-! ## Claiming and settling -/

section Submission

variable [Platform] (env : CodingEnv) (I : CodingInput)

def claimTx (q : ClaimRequest) (s : ToolStore) :
    Except String (CodingTaskSubmissionClaim × ToolStore) :=
  match I.claim with
  | none => .error "database error"
  | some (now, proposed, approved) =>
    (claimCodingTaskSubmission q now proposed approved s.coding).map fun out =>
      (out.1, s.withCoding out.2)

def finishTx (q : FinishRequest) (s : ToolStore) : Except String (Unit × ToolStore) :=
  match I.finish with
  | none => .error "database error"
  | some (now, stamp) =>
    (finishCodingTaskSubmission q now stamp s.coding).map fun c => ((), s.withCoding c)

def finish (attemptId : String) (invocationId : InvocationId) (outcome : SubmissionOutcome) :
    Tool String Unit :=
  commits wroteRows (finishTx I ⟨attemptId, invocationId, outcome⟩)

inductive ContentFault
  | invalid (error : String)
  | missing (error : String)

def loadContents : List String → Except ContentFault Unit
  | [] => .ok ()
  | digest :: rest =>
    match Sha256Digest.parse digest with
    | .error e => .error (.invalid e)
    | .ok parsed =>
      match env.load parsed with
      | .error e => .error (.missing e)
      | .ok () => loadContents rest

def AcceptedCandidate.digests (accepted : AcceptedCandidate) : List String :=
  [accepted.artifactDigest, accepted.evidenceDigest, accepted.manifestDigest]

def markUnknown (attemptId : String) (invocationId : InvocationId) :
    Tool String (InvocationId × Json) := do
  finish I attemptId invocationId .unknown
  stop "CODING_HARNESS_OUTCOME_UNKNOWN"

def settleSubmissionAttempt (request : DevelopmentRequest) (requestDigest attemptId : String)
    (invocationId : InvocationId) :
    CodingHarnessExecutionOutcome → Tool String (InvocationId × Json)
  | .succeeded result =>
    match env.validateAcceptance result request requestDigest invocationId with
    | .error _ => markUnknown I attemptId invocationId
    | .ok accepted =>
      match loadContents env accepted.digests with
      | .error (.invalid e) => stop e
      | .error (.missing _) => markUnknown I attemptId invocationId
      | .ok () => do
        finish I attemptId invocationId (.complete result)
        pure (invocationId, result)
  | .definitivelyRejected errorCode => do
    finish I attemptId invocationId (.reject errorCode)
    stop ("CODING_HARNESS_DEFINITIVELY_REJECTED:" ++ errorCode)
  | .outcomeUnknown _ => markUnknown I attemptId invocationId
  | .inProgress => stop "CODING_TASK_ALREADY_IN_PROGRESS"

/-- A claim that is in progress is sent again under the identity it was stored with. -/
def performClaim (run : Run) (session : Session) (snapshot : RegistrySnapshot)
    (request : DevelopmentRequest) (requestDigest : String) (proposed : ApprovedInvocation) :
    CodingTaskSubmissionClaim → Tool String (InvocationId × Json)
  | .inProgress attemptId invocationId => do
    let approved ← ofExcept (approveSubmissionInvocation run session snapshot invocationId request
      I.retryDecisionId)
    let outcome ← executeCoding env.controlToken I.exchange approved
    settleSubmissionAttempt env I request requestDigest attemptId invocationId outcome
  | .succeeded invocationId result => pure (invocationId, result)
  | .definitivelyRejected errorCode =>
    stop ("CODING_HARNESS_DEFINITIVELY_REJECTED:" ++ errorCode)
  | .claimed attemptId invocationId => do
    let outcome ← executeCoding env.controlToken I.exchange proposed
    settleSubmissionAttempt env I request requestDigest attemptId invocationId outcome

/-! ## The proposal -/

def proposalPayload (run : Run) (request : DevelopmentRequest) (requestDigest proposalId : String)
    (accepted : AcceptedCandidate) : Json :=
  .mkObj
    [("proposal_id", .str proposalId), ("submitter", .str run.principal.principalId),
      ("request_digest", .str requestDigest),
      ("acceptance_receipt_digest", .str accepted.receiptDigest),
      ("acceptance_issuer", .str accepted.issuer),
      ("artifact_digest", .str accepted.artifactDigest),
      ("manifest_digest", .str accepted.manifestDigest),
      ("requested_operations", .arr [.str request.name]),
      ("expected_snapshot_id", .str run.registrySnapshotId), ("approval_id", .str I.approvalId),
      ("approval_expires_at", .str I.approvalExpiresAt)]

def createProposalTx (run : Run) (session : Session) (request : DevelopmentRequest)
    (requestDigest : String) (accepted : AcceptedCandidate) (s : ToolStore) :
    Except String (String × ToolStore) :=
  match I.proposal with
  | .error e => .error e
  | .ok (some existing) => .ok (existing, s)
  | .ok none =>
    (appendTx I.proposalStamp .capabilityChangeProposed run.id session.id
      (some ("proposal_" ++ I.proposalUuid))
      (proposalPayload I run request requestDigest ("proposal_" ++ I.proposalUuid) accepted) s).map
        fun out => ("proposal_" ++ I.proposalUuid, out.2)

def submitResultJson (request : DevelopmentRequest) (submitInvocation proposalId : String)
    (accepted : AcceptedCandidate) : Json :=
  .mkObj
    [("development_request_id", .str request.requestId),
      ("contract_catalog_version", .str request.contractCatalogVersion),
      ("component_profile", .str request.buildProfile),
      ("submit_invocation_id", .str submitInvocation),
      ("acceptance_receipt_digest", .str accepted.receiptDigest),
      ("acceptance_issuer", .str accepted.issuer), ("candidate_id", .str accepted.candidateId),
      ("candidate_digest", .str accepted.candidateDigest),
      ("artifact_ref", .str accepted.artifactRef),
      ("artifact_digest", .str accepted.artifactDigest),
      ("evidence_digest", .str accepted.evidenceDigest), ("proposal_id", .str proposalId)]

def contentError : ContentFault → String
  | .invalid e => e
  | .missing e => e

def handleCodingTaskSubmit (request : DevelopmentRequest) (run : Run) (session : Session)
    (sourceMessageId submissionCallKey : String) : Tool String Json := do
  ofExcept (env.validateRequest request)
  ofExcept (validatePrivateOwnerContext env.codingOwnerId run session)
  ofExcept (validateSourceBinding request run session sourceMessageId)
  let snapshot ← reads fun s => loadSnapshotFromConn s.registry run.registrySnapshotId
  -- The attempt is also the identity of the external invocation.
  let proposed ← ofExcept (approveSubmissionInvocation run session snapshot
    ("attempt_" ++ I.attemptUuid) request I.decisionId)
  let claim ← commits wroteRows (claimTx I
    { sourceMessageId
      submissionCallKey
      requestDigest := Sha256Digest.compute request.text
      proposedAttemptId := "attempt_" ++ I.attemptUuid
      proposedInvocationId := "attempt_" ++ I.attemptUuid
      runId := run.id
      sessionId := session.id
      decisionId := proposed.decisionId })
  let submitted ← performClaim env I run session snapshot request
    (Sha256Digest.compute request.text) proposed claim
  let accepted ← ofExcept (env.validateAcceptance submitted.2 request
    (Sha256Digest.compute request.text) submitted.1)
  ofExcept ((loadContents env accepted.digests).mapError contentError)
  let proposalId ← commits wroteRows (createProposalTx I run session request
    (Sha256Digest.compute request.text) accepted)
  pure (submitResultJson request submitted.1 proposalId accepted)

end Submission

/-! ## The call's answer -/

def knownContractIds : List String :=
  ["event.observe.v0", "context.prepare.v0", "context.load.v0", "route.proposal.v0",
    "run.create.v0", "component.invoke.v0", "deployment.effect.v0", "feishu.reply.v0"]

def safeDetailCode (message : String) : String :=
  let isCode (c : Char) : Bool :=
    decide ('A' ≤ c ∧ c ≤ 'Z') || decide ('0' ≤ c ∧ c ≤ '9') || decide (c = '_')
  let words := (message.toList.splitOnP fun c => !isCode c).filter fun w =>
    decide (3 ≤ w.length) && w.any fun c => decide ('A' ≤ c ∧ c ≤ 'Z')
  String.ofList ((words.getLast?.getD "CODING_TASK_SUBMIT_FAILED".toList).take 128)

def contractDiscovery (failure : CodingFailure) (detailCode : String) : Option Json :=
  let discovery (unknown : List String) : Json :=
    .mkObj [("unknown_contracts", .arr (unknown.map .str)),
      ("known_contracts", .arr (knownContractIds.map .str))]
  match failure.unknownContracts with
  | some unknown => some (discovery unknown)
  | none =>
    if detailCode = "DEVELOPMENT_REQUEST_INVALID_REQUIRED_CONTRACTS" then some (discovery [])
    else none

def codingAnswer : Except CodingFailure Json → ReceiptStatus × Json × String
  | .ok output =>
    (.succeeded, output,
      (Json.mkObj [("status", .str "succeeded"), ("result", output)]).toText)
  | .error failure =>
    let detail := safeDetailCode failure.message
    let members := [("error_category", .str "external_execution_failed"),
      ("detail_code", .str detail)] ++
        (contractDiscovery failure detail).toList.map fun d => ("contract_discovery", d)
    (.failed, .mkObj members, (Json.mkObj (("status", .str "execution_failed") :: members)).toText)

section Dispatch

variable [Platform] (env : CodingEnv) (I : CodingInput)

def submitCodingTask (approved : ApprovedInvocation) (run : Run) (session : Session) :
    Tool String (Except CodingFailure Json) := do
  match approved.intent.arguments.get "development_request" with
  | none => pure (.error ⟨"DEVELOPMENT_REQUEST_MISSING", none⟩)
  | some draft =>
    match ← reads fun s => .ok (env.sealRequest s run session draft) with
    | .error failure => pure (.error failure)
    | .ok request =>
      match approved.intent.idempotencyKey with
      | none => pure (.error ⟨"CODING_SUBMISSION_CALL_IDENTITY_MISSING", none⟩)
      | some callKey => do
        does (.submitting request.json)
        let result ← attempt (handleCodingTaskSubmit env I request run session
          request.sourceMessageId callKey)
        pure (result.mapError fun message => ⟨message, none⟩)

def dispatchCodingTaskSubmit (approved : ApprovedInvocation) (run : Run) (session : Session)
    (correlationId : String) (receipt : Option Stamp) : Tool String String := do
  let result ← submitCodingTask env I approved run session
  appendOrFatal receipt .receiptReceived run session (some correlationId)
    (.mkObj
      [("invocation_id", .str approved.intent.invocationId),
        ("operation", .str approved.intent.operation),
        ("status", .str (codingAnswer result).1.debug), ("output", (codingAnswer result).2.1)])
  pure (codingAnswer result).2.2

end Dispatch

end AgentCore.Runtime
