import AgentCore.Foundation.Pool
import AgentCore.Foundation.Search
import AgentCore.Journal.InFlight

/-! The decision of a service proposal. A request does one action on the journal after the
other; the deployment that an approval starts runs in a worker of its own. -/

namespace AgentCore.Server

open Foundation Journal Option
open Domain hiding OperationSpec RegistrySnapshot

inductive CapabilityRouteError
  | invalidRequest (detail : String)
  | forbidden (detail : String)
  | notFound (detail : String)
  | conflict (detail : String)
  | internal (detail : String)
deriving DecidableEq

inductive HandlerError
  | route (e : CapabilityRouteError)
  | other (message : String)
deriving DecidableEq

def DEPLOYMENT_FAILURE : String := "SERVICE_DEPLOYMENT_FAILED"

/-! ## The body of a decision -/

structure TrustedDecisionBody where
  (decision approvalId decisionNonce principalId expectedSourceSnapshotId candidateDigest : String)
  (artifactDigest manifestDigest : String)
deriving DecidableEq

namespace TrustedDecisionBody

def fieldNames : List String :=
  ["decision", "approval_id", "decision_nonce", "principal_id", "expected_source_snapshot_id",
    "candidate_digest", "artifact_digest", "manifest_digest"]

def ofTexts : List String → Option TrustedDecisionBody
  | [decision, approval, nonce, principal, source, candidate, artifact, manifest] =>
    some ⟨decision, approval, nonce, principal, source, candidate, artifact, manifest⟩
  | _ => none

def ofJson : Json → Option TrustedDecisionBody
  | .obj members =>
    if members.all fun member => fieldNames.contains member.1 then
      (fieldNames.mapM fun name => ((Json.obj members).get name).bind Json.asStr).bind ofTexts
    else none
  | .arr items => (items.mapM Json.asStr).bind ofTexts
  | _ => none

end TrustedDecisionBody

def startsWith (text start : String) : Bool := start.toList.isPrefixOf text.toList

def parseInput (body : Json) : Except HandlerError TrustedDecisionBody :=
  match TrustedDecisionBody.ofJson body with
  | none => .error (.route (.invalidRequest "invalid_trusted_decision"))
  | some input =>
    if !(["approved", "rejected"].contains input.decision) ||
        !startsWith input.approvalId "approval_" || 160 < input.approvalId.utf8ByteSize ||
        input.decisionNonce.utf8ByteSize < 32 || 160 < input.decisionNonce.utf8ByteSize ||
        !startsWith input.principalId "feishu:open_id:" || 256 < input.principalId.utf8ByteSize ||
        input.expectedSourceSnapshotId.isEmpty || 160 < input.expectedSourceSnapshotId.utf8ByteSize then
      .error (.route (.invalidRequest "invalid_trusted_decision"))
    else do
      (parseDigests [input.candidateDigest, input.artifactDigest, input.manifestDigest]).mapError
        fun _ => .route (.invalidRequest "invalid_digest_format")
      return input

def mapTrustedError (message : String) : HandlerError :=
  let contains (part : String) := (firstIndex? part.toList message.toList).isSome
  if contains "NOT_FOUND" then .route (.notFound "trusted_approval_not_found")
  else if ["CONFLICT", "NOT_PENDING", "EXPIRED", "SNAPSHOT_CHANGED", "ALREADY_REGISTERED",
      "NOT_MONOTONIC", "IN_FLIGHT"].any contains then
    .route (.conflict "trusted_decision_conflict")
  else if contains "MISMATCH" || contains "INVALID" then
    .route (.forbidden "trusted_decision_mismatch")
  else .route (.internal "trusted_decision_failed")

def internal (message : String) : HandlerError := .route (.internal message)

section

variable [Platform]

def decisionIdentity (proposalId : String) (input : TrustedDecisionBody) : TrustedDecisionIdentity :=
  let canonical := Json.mkObj
    [("approval_id", .str input.approvalId), ("artifact_digest", .str input.artifactDigest),
      ("candidate_digest", .str input.candidateDigest), ("decision", .str input.decision),
      ("decision_nonce", .str input.decisionNonce),
      ("expected_source_snapshot_id", .str input.expectedSourceSnapshotId),
      ("manifest_digest", .str input.manifestDigest), ("principal_id", .str input.principalId),
      ("proposal_id", .str proposalId)]
  { proposalId
    approvalId := input.approvalId
    decisionNonce := input.decisionNonce
    principalId := input.principalId
    expectedSourceSnapshotId := input.expectedSourceSnapshotId
    candidateDigest := input.candidateDigest
    artifactDigest := input.artifactDigest
    manifestDigest := input.manifestDigest
    decisionId := "decision_" ++ Platform.sha256Hex canonical.toText
    payloadDigest := Sha256Digest.compute canonical.toText }

end

/-! ## Answers -/

structure ServiceRequest where
  proposalId : String
  input : TrustedDecisionBody
  identity : TrustedDecisionIdentity
  expectedAgent : AgentId

def responseStatus : CapabilityApprovalStatus → String
  | .approved => "Activated"
  | .rejected => "Rejected"
  | .activationFailed => "ActivationFailed"
  | .pending | .expired => "Invalid"

def response (r : ServiceRequest) (result : TrustedDecisionResult) : Json :=
  .mkObj
    [("proposal_id", .str r.proposalId), ("approval_id", .str r.input.approvalId),
      ("decision_id", .str result.decisionId), ("status", .str (responseStatus result.status)),
      ("activated_snapshot_id", .ofOption result.activatedSnapshotId),
      ("host_deployment_id", .ofOption result.hostDeploymentId),
      ("activation_error", .ofOption result.activationError), ("replayed", .bool result.replayed)]

def pendingResponse (r : ServiceRequest) : Json :=
  .mkObj
    [("proposal_id", .str r.proposalId), ("approval_id", .str r.input.approvalId),
      ("decision_id", .str r.identity.decisionId), ("status", .str "deployment_pending"),
      ("activated_snapshot_id", .null), ("host_deployment_id", .null), ("activation_error", .null),
      ("replayed", .bool false)]

section

variable [Platform]

def replayResponse (db : ComponentDb) (r : ServiceRequest) (result : TrustedDecisionResult) :
    Except HandlerError Json :=
  if result.status ≠ .approved then .ok (response r result)
  else match result.activatedSnapshotId with
    | none => .error (.other "APPROVAL_REPLAY_RESULT_CORRUPT")
    | some snapshotId => do
      let snapshot ← (db.components.loadSnapshot snapshotId).mapError mapTrustedError
      match snapshot.components.find? fun c => result.hostDeploymentId = some c.deploymentId with
      | none => .error (.other "APPROVAL_REPLAY_RESULT_CORRUPT")
      | some component =>
        return .mkObj
          [("proposal_id", .str r.proposalId), ("approval_id", .str r.input.approvalId),
            ("decision_id", .str result.decisionId), ("status", .str "Activated"),
            ("activated_snapshot_id", .ofOption result.activatedSnapshotId),
            ("host_deployment_id", .ofOption result.hostDeploymentId),
            ("activation_error", .ofOption result.activationError), ("replayed", .bool true),
            ("component_id", .str component.componentId),
            ("component_version", .str component.version),
            ("component_url", .str component.endpoint),
            ("deployment_receipt_id", .str component.deploymentReceiptId)]

end

/-! ## The candidate -/

structure ContentStore where
  load : String → Option String
  readManifest : String → Option ServiceManifest

def ContentStore.loadObject (store : ContentStore) (digest detail : String) :
    Except HandlerError String := do
  let digest ← (Sha256Digest.parse digest).mapError internal
  match store.load digest.text with
  | none => .error (.route (.invalidRequest detail))
  | some bytes => return bytes

section

variable [Platform]

def loadProposal (db : GovernanceDb) (proposalId : String) :
    Except HandlerError (ProposalRow × List String) :=
  match findProposal db.proposals proposalId with
  | none => .error (.route (.notFound "proposal_not_found"))
  | some proposal =>
    match readTexts proposal.requestedOperationsJson with
    | none => .error (internal "invalid requested_operations_json")
    | some operations => .ok (proposal, operations)

def verifyServiceCandidate (db : GovernanceDb) (store : ContentStore) (proposalId : String)
    (i : TrustedDecisionIdentity) : Except HandlerError ServiceManifest := do
  let (proposal, operations) ← loadProposal db proposalId
  match findLink db.evidence proposalId with
  | none => .error (.route (.forbidden "trusted_receipt_required"))
  | some link =>
    if operations ≠ [link.operation] || proposal.manifestDigest ≠ i.manifestDigest ||
        proposal.artifactDigest ≠ i.artifactDigest || link.candidateDigest ≠ i.candidateDigest then
      .error (.route (.forbidden "trusted_binding_mismatch"))
    else
      let _ ← store.loadObject i.artifactDigest "artifact_verification_failed"
      let _ ← store.loadObject proposal.evidenceDigest "evidence_verification_failed"
      let bytes ← store.loadObject i.manifestDigest "manifest_verification_failed"
      match store.readManifest bytes with
      | none => .error (.route (.invalidRequest "service_manifest_invalid"))
      | some m =>
        m.validate.mapError fun _ => .route (.invalidRequest "service_manifest_invalid")
        if proposal.manifestRef ≠ m.manifestId || m.componentId ≠ link.operation ||
            m.artifactDigest ≠ i.artifactDigest || Sha256Digest.compute bytes ≠ i.manifestDigest then
          .error (.route (.forbidden "manifest_identity_mismatch"))
        else return m

def decisionSuffix (decisionId : String) : String :=
  if startsWith decisionId "decision_" then
    String.ofList (decisionId.toList.drop "decision_".toList.length)
  else decisionId

def deploymentIntent (i : TrustedDecisionIdentity) (m : ServiceManifest) : DeploymentIntent :=
  let intent : DeploymentIntent :=
    { protocolVersion := DEPLOYMENT_PROTOCOL
      invocationId := "deployment_invocation_" ++ decisionSuffix i.decisionId
      intentId := ""
      proposalId := i.proposalId
      decisionId := i.decisionId
      serviceManifestDigest := i.manifestDigest
      artifactDigest := i.artifactDigest
      expectedVersion := m.version
      action := "install_start" }
  { intent with intentId := intent.expectedIntentId }

structure DeploymentJob where
  identity : TrustedDecisionIdentity
  intent : DeploymentIntent
  manifest : ServiceManifest
  expectedAgent : AgentId

def ServiceRequest.job (r : ServiceRequest) (m : ServiceManifest) : DeploymentJob :=
  ⟨r.identity, deploymentIntent r.identity m, m, r.expectedAgent⟩

/-! ## The worker -/

inductive Deployment
  | noClient
  | failed
  | answered (receipt : DeploymentReceipt)

/-- What one action reads from outside: the clock, the identifiers of the events it appends,
whether the journal could be cloned and what the deployment came to. -/
structure ServiceInput where
  now : Timestamp
  (approved outcome receiptRecorded registered : EventId)
  journalCloned : Bool
  deployment : Deployment

namespace ServiceInput

def intentStamps (x : ServiceInput) : IntentStamps := ⟨x.now, x.approved, x.outcome⟩

def decisionStamps (x : ServiceInput) : DecisionStamps := ⟨x.now, x.approved, x.outcome⟩

def serviceStamps (x : ServiceInput) : ServiceStamps :=
  ⟨x.now, x.approved, x.receiptRecorded, x.registered, x.outcome⟩

end ServiceInput

def recordDeploymentFailure (job : DeploymentJob) (x : ServiceInput) (db : ComponentDb) :
    Except String ComponentDb := do
  let (_, g) ← failTrustedActivationAtomic job.identity DEPLOYMENT_FAILURE job.expectedAgent
    x.decisionStamps db.toGovernanceDb
  return { db with toGovernanceDb := g }

def deployerDeployAndRecord (job : DeploymentJob) (deployed : Option DeploymentReceipt)
    (x : ServiceInput) (db : ComponentDb) : Except String ComponentDb :=
  match deployed with
  | none => (recordDeploymentFailure job x db).mapError ("failed to record deployment failure: " ++ ·)
  | some receipt =>
    match receipt.validateFor job.intent job.manifest.componentId with
    | .error _ =>
      (recordDeploymentFailure job x db).mapError ("failed to record deployment failure: " ++ ·)
    | .ok _ => do
      let (_, db) ← (activateTrustedServiceAtomic job.identity job.intent job.manifest receipt
        job.expectedAgent x.serviceStamps db).mapError ("activation commit failed: " ++ ·)
      return db

/-- The journal as the worker leaves it. An error of its transaction is logged and no more. -/
def runBackgroundServiceDeployment (job : DeploymentJob) (x : ServiceInput) (db : ComponentDb) :
    ComponentDb :=
  match x.deployment with
  | .noClient => commit db (recordDeploymentFailure job x db)
  | .failed => commit db (deployerDeployAndRecord job none x db)
  | .answered receipt => commit db (deployerDeployAndRecord job (some receipt) x db)

def DeploymentJob.outcome (job : DeploymentJob) (x : ServiceInput) : ComponentCall :=
  let failure := .decision (.fail job.identity DEPLOYMENT_FAILURE job.expectedAgent x.decisionStamps)
  match x.deployment with
  | .noClient | .failed => failure
  | .answered receipt =>
    match receipt.validateFor job.intent job.manifest.componentId with
    | .error _ => failure
    | .ok _ => .activateService job.identity job.intent job.manifest receipt job.expectedAgent
      x.serviceStamps

/-! ## A request, one action at a time -/

inductive ServiceThread
  | received (proposalId : String) (body : Json) (expectedAgent : AgentId)
  | expiring (approvalId : String) (expectedAgent : AgentId)
  | replaying (r : ServiceRequest) (expectedTerminal : CapabilityApprovalStatus)
  | answering (r : ServiceRequest) (result : TrustedDecisionResult)
  | rejecting (r : ServiceRequest)
  | loading (r : ServiceRequest)
  | checking (r : ServiceRequest)
  | verifying (r : ServiceRequest)
  | recording (r : ServiceRequest) (job : DeploymentJob)
  | registering (r : ServiceRequest) (job : DeploymentJob)
  | spawning (r : ServiceRequest) (job : DeploymentJob)
  | working (job : DeploymentJob)
  | cleaning (decisionId : String)
  | answered (answer : Except HandlerError Json)
  | finished

structure ServiceState where
  db : ComponentDb
  activeWorkers : List String := []

def expectedTerminal (decision : String) (status : CapabilityApprovalStatus) :
    Option CapabilityApprovalStatus :=
  if decision = "approved" then
    some (if status = .activationFailed then .activationFailed else .approved)
  else if decision = "rejected" then some .rejected
  else none

def receive (now : Timestamp) (proposalId : String) (body : Json) (expectedAgent : AgentId)
    (db : GovernanceDb) : Except HandlerError ServiceThread := do
  let input ← parseInput body
  match db.approvals.rows.find? fun a => a.proposalId = proposalId with
  | none => .error (.route (.forbidden "trusted_approval_required"))
  | some approval =>
    if approval.approvalId ≠ input.approvalId then
      .error (.route (.forbidden "approval_identity_mismatch"))
    else if approval.status = .pending && approval.expiresAt ≤ now then
      return .expiring approval.approvalId expectedAgent
    else match expectedTerminal input.decision approval.status with
      | none => .error (.route (.invalidRequest "invalid_decision"))
      | some expected =>
        return .replaying ⟨proposalId, input, decisionIdentity proposalId input, expectedAgent⟩ expected

def replayed (r : ServiceRequest) (expected : CapabilityApprovalStatus) (db : GovernanceDb) :
    Except HandlerError ServiceThread := do
  match ← (replayTrustedCapabilityDecision r.identity r.expectedAgent expected db).mapError
      mapTrustedError with
  | some result => return .answering r result
  | none => if r.input.decision = "rejected" then return .rejecting r else return .loading r

namespace ServiceThread

def ofExcept : Except HandlerError ServiceThread → ServiceThread
  | .ok t => t
  | .error e => .answered (.error e)

def transact {α : Type} (s : ServiceState) (outcome : Except String (α × ComponentDb))
    (next : α → ServiceThread) : ServiceThread × ServiceState :=
  match outcome with
  | .error e => (.answered (.error (mapTrustedError e)), s)
  | .ok (a, db) => (next a, { s with db })

/-- After the spawn, the request is answered and the thread goes on as its worker. -/
def act (store : ContentStore) (x : ServiceInput) :
    ServiceThread → ServiceState → ServiceThread × ServiceState
  | received proposalId body expectedAgent, s =>
    (ofExcept (receive x.now proposalId body expectedAgent s.db.toGovernanceDb), s)
  | expiring approvalId expectedAgent, s =>
    transact s
      (do
        let (expired, g) ← expireTrustedApproval approvalId expectedAgent ⟨x.outcome, x.now⟩
          s.db.toGovernanceDb
        return (expired, { s.db with toGovernanceDb := g }))
      fun _ => answered (.error (.route (.conflict "approval_expired")))
  | replaying r expected, s => (ofExcept (replayed r expected s.db.toGovernanceDb), s)
  | answering r result, s => (answered (replayResponse s.db r result), s)
  | rejecting r, s =>
    transact s
      (do
        let (result, g) ← rejectTrustedCapabilityAtomic r.identity r.expectedAgent x.decisionStamps
          s.db.toGovernanceDb
        return (result, { s.db with toGovernanceDb := g }))
      fun result => answered (.ok (response r result))
  | loading r, s =>
    (ofExcept ((loadProposal s.db.toGovernanceDb r.proposalId).map fun _ => checking r), s)
  | checking r, s =>
    if intentExistsWithoutReceipt s.db r.proposalId r.identity.manifestDigest then
      (answered (.ok (pendingResponse r)), s)
    else (verifying r, s)
  | verifying r, s =>
    (ofExcept ((verifyServiceCandidate s.db.toGovernanceDb store r.proposalId r.identity).map
      fun m => recording r (r.job m)), s)
  | recording r job, s =>
    transact s
      (do
        let db ← recordTrustedServiceDeploymentIntent job.identity job.intent job.manifest
          job.expectedAgent x.intentStamps s.db
        return ((), db))
      fun _ => registering r job
  | registering r job, s =>
    if s.activeWorkers.contains job.identity.decisionId then (answered (.ok (pendingResponse r)), s)
    else (spawning r job, { s with activeWorkers := s.activeWorkers ++ [job.identity.decisionId] })
  | spawning _ job, s =>
    if x.journalCloned then (working job, s)
    else (answered (.error (internal "failed to clone journal")), s)
  | working job, s =>
    (cleaning job.identity.decisionId, { s with db := runBackgroundServiceDeployment job x s.db })
  | cleaning decisionId, s =>
    (finished, { s with activeWorkers := s.activeWorkers.filter fun id => id ≠ decisionId })
  | answered answer, s => (answered answer, s)
  | finished, s => (finished, s)

def call (x : ServiceInput) : ServiceThread → Option ComponentCall
  | expiring approvalId expectedAgent =>
    some (.decision (.expire approvalId expectedAgent ⟨x.outcome, x.now⟩))
  | rejecting r => some (.decision (.reject r.identity r.expectedAgent x.decisionStamps))
  | recording _ job =>
    some (.recordDeployment job.identity job.intent job.manifest job.expectedAgent x.intentStamps)
  | working job => some (job.outcome x)
  | _ => none

end ServiceThread

omit [Platform] in
lemma commit_mapError {ε ε' σ : Type} (s : σ) (x : Except ε σ) (f : ε → ε') :
    commit s (x.mapError f) = commit s x := by
  cases x <;> rfl

lemma recordDeploymentFailure_eq (job : DeploymentJob) (x : ServiceInput) (db : ComponentDb) :
    commit db (recordDeploymentFailure job x db) = componentStep db
      (.decision (.fail job.identity DEPLOYMENT_FAILURE job.expectedAgent x.decisionStamps)) := by
  unfold recordDeploymentFailure
  rw [componentStep, answerComponent, answerDecision]
  cases failTrustedActivationAtomic job.identity DEPLOYMENT_FAILURE job.expectedAgent
    x.decisionStamps db.toGovernanceDb <;> rfl

lemma runBackgroundServiceDeployment_eq (job : DeploymentJob) (x : ServiceInput)
    (db : ComponentDb) :
    runBackgroundServiceDeployment job x db = componentStep db (job.outcome x) := by
  unfold runBackgroundServiceDeployment DeploymentJob.outcome
  cases x.deployment with
  | noClient => exact recordDeploymentFailure_eq job x db
  | failed => exact (commit_mapError db _ _).trans (recordDeploymentFailure_eq job x db)
  | answered receipt =>
    dsimp only [deployerDeployAndRecord]
    cases receipt.validateFor job.intent job.manifest.componentId with
    | error e => exact (commit_mapError db _ _).trans (recordDeploymentFailure_eq job x db)
    | ok _ =>
      dsimp only
      rw [componentStep, answerComponent]
      cases activateTrustedServiceAtomic job.identity job.intent job.manifest receipt
        job.expectedAgent x.serviceStamps db <;> rfl

lemma ServiceThread.act_db (store : ContentStore) (x : ServiceInput) (t : ServiceThread)
    (s : ServiceState) :
    (t.act store x s).2.db = ((t.call x).map (componentStep s.db)).getD s.db := by
  cases t with
  | expiring approvalId agent =>
    simp only [act, call, map_some, getD_some, componentStep, answerComponent,
      answerDecision]
    cases expireTrustedApproval approvalId agent ⟨x.outcome, x.now⟩ s.db.toGovernanceDb <;> rfl
  | rejecting r =>
    simp only [act, call, map_some, getD_some, componentStep, answerComponent,
      answerDecision]
    cases rejectTrustedCapabilityAtomic r.identity r.expectedAgent x.decisionStamps
      s.db.toGovernanceDb <;> rfl
  | recording r job =>
    simp only [act, call, map_some, getD_some, componentStep, answerComponent]
    cases recordTrustedServiceDeploymentIntent job.identity job.intent job.manifest
      job.expectedAgent x.intentStamps s.db <;> rfl
  | working job => exact runBackgroundServiceDeployment_eq job x s.db
  | checking r | registering r job | spawning r job =>
    simp only [act, call, map_none, getD_none]
    split <;> rfl
  | received _ _ _ => rfl
  | replaying _ _ => rfl
  | answering _ _ => rfl
  | loading _ => rfl
  | verifying _ => rfl
  | cleaning _ => rfl
  | answered _ => rfl
  | finished => rfl

/-! ## Any number of requests and workers -/

/-- What happens beside them: an approval expires elsewhere, and a new process starts without
workers. -/
inductive ServiceOther
  | expire (approvalId : String) (expectedAgent : AgentId) (stamp : Stamp)
  | restart

def ServiceOther.apply (s : ServiceState) : ServiceOther → ServiceState
  | .expire approvalId expectedAgent stamp =>
    { s with db := componentStep s.db (.decision (.expire approvalId expectedAgent stamp)) }
  | .restart => { s with activeWorkers := [] }

structure ServiceBody where
  proposalId : String
  body : Json
  expectedAgent : AgentId

def serviceMachine (store : ContentStore) :
    Machine ServiceState ServiceThread ServiceInput ServiceBody ServiceOther where
  start b := .received b.proposalId b.body b.expectedAgent
  act := ServiceThread.act store
  halt _ := .finished
  other o s := o.apply s

abbrev ServicePool := Pool ServiceState ServiceThread

abbrev ServiceAct := Pool.Act ServiceInput ServiceBody ServiceOther

end

end AgentCore.Server
