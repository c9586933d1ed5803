import AgentCore.Journal.TrustedDecision

/-! The activation of a trusted capability: its operation is added to the active snapshot and
granted to its owner in the transaction that decides the approval. -/

namespace AgentCore.Journal

open Foundation Harness Registry
open Domain hiding OperationSpec RegistrySnapshot

structure TrustedHostDeployment where
  (deploymentId targetSnapshotId : String)

structure ActivationStamps where
  now : Timestamp
  (manifestRegistered approved snapshotActivated changeActivated granted : EventId)
  grantId : String

section

variable [Platform]

def validateCapabilityManifest (m : HarnessManifest) (i : TrustedDecisionIdentity) :
    Except String Unit := do
  m.validateAll
  if m.computeManifestId ≠ m.manifestId || m.harnessId ≠ "capability-host-v0" ||
      m.endpoint ≠ "http://127.0.0.1:7300/execute" || m.artifactDigest ≠ i.artifactDigest ||
      !HarnessManifest.externalName m.operationName then
    .error "CAPABILITY_MANIFEST_MISMATCH"
  else if Sha256Digest.compute m.toJson.toText ≠ i.manifestDigest then
    .error "CAPABILITY_MANIFEST_DIGEST_MISMATCH"
  else .ok ()

def capabilitySpec (m : HarnessManifest) : OperationSpec where
  name := m.operationName
  risk := .readOnly
  description := m.description
  parameters := m.inputSchema
  idempotent := m.idempotent
  bindingKind := .external
  bindingKey := m.manifestId

def capabilitySpecs (t : RegistryTables) (i : TrustedDecisionIdentity) (m : HarnessManifest) :
    Except String (List OperationSpec) := do
  let snapshot ← loadSnapshotFromConn t i.expectedSourceSnapshotId
  if (snapshot.lookup m.operationName).isSome then .error "CAPABILITY_ALREADY_REGISTERED"
  else return snapshot.operations ++ [capabilitySpec m]

def prospectiveId (t : RegistryTables) (i : TrustedDecisionIdentity) (specs : List OperationSpec) :
    String :=
  computeSnapshotIdWithHookBindings specs
    (inheritedHookBindings (loadActiveHookBindings t i.expectedSourceSnapshotId))

def trustedCapabilityProspectiveSnapshot (i : TrustedDecisionIdentity) (m : HarnessManifest)
    (expectedAgent : AgentId) (now : Timestamp) (db : GovernanceDb) : Except String String := do
  validateCapabilityManifest m i
  let b ← loadValidatedBinding db i expectedAgent
  if b.approval.status ≠ .pending then
    let result ← replayResult b.approval.toApprovalDecision i .approved
    match result.activatedSnapshotId with
    | some snapshotId => return snapshotId
    | none => .error "APPROVAL_REPLAY_RESULT_CORRUPT"
  else
    validatePending db b i now
    let specs ← capabilitySpecs db.registry i m
    return prospectiveId db.registry i specs

/-! ## Grants -/

def grantRow (i : TrustedDecisionIdentity) (m : HarnessManifest) (snapshotId : String)
    (stamps : ActivationStamps) : GrantRow where
  grantId := stamps.grantId
  operation := m.operationName
  granteePrincipalId := i.principalId
  channel := "Feishu"
  conversationKind := "p2p"
  scope := "principal_channel"
  risk := "ReadOnly"
  capabilityId := some i.proposalId
  snapshotId
  active := true
  createdAt := stamps.now
  createdByPrincipalId := some i.principalId
  decisionReference := some i.decisionId

/-- `INSERT OR IGNORE`, then the grant that is there. Answers the grant and whether it is new. -/
def createExternalOperationGrantTx (row : GrantRow) (grants : SqlTable grantSchema) :
    Except String ((String × Bool) × SqlTable grantSchema) :=
  match grants.insert row with
  | some grants' => .ok ((row.grantId, true), grants')
  | none =>
    match grants.rows.find? fun g =>
        g.operation = row.operation && g.granteePrincipalId = row.granteePrincipalId &&
          g.channel = row.channel && g.conversationKind = row.conversationKind &&
          g.scope = row.scope && g.snapshotId = row.snapshotId && g.active with
    | some g => .ok ((g.grantId, false), grants)
    | none => .error "Query returned no rows"

/-! ## Events -/

def appendApprovedEvents (stamps : ActivationStamps) (p : ProposalTerms) (i : TrustedDecisionIdentity)
    (snapshotId deploymentId operation : String) (db : GovernanceDb) :
    Except String GovernanceDb := do
  let db ← appendApprovalEvent ⟨stamps.approved, stamps.now⟩ p i db
  let db ← db.record ⟨stamps.snapshotActivated, stamps.now⟩ .registrySnapshotActivated p i.decisionId
    (.mkObj
      [("action", .str "trusted_capability_activation"), ("operation", .str operation),
        ("previous_snapshot_id", .str i.expectedSourceSnapshotId),
        ("new_snapshot_id", .str snapshotId), ("decision_id", .str i.decisionId),
        ("host_deployment_id", .str deploymentId)])
  db.record ⟨stamps.changeActivated, stamps.now⟩ .capabilityChangeActivated p i.proposalId
    (.mkObj
      [("proposal_id", .str i.proposalId), ("approval_id", .str i.approvalId),
        ("decision_id", .str i.decisionId), ("new_snapshot_id", .str snapshotId),
        ("host_deployment_id", .str deploymentId)])

def appendGrantEvent (stamps : ActivationStamps) (p : ProposalTerms) (i : TrustedDecisionIdentity)
    (grantId snapshotId operation : String) (db : GovernanceDb) : Except String GovernanceDb :=
  db.record ⟨stamps.granted, stamps.now⟩ .externalOperationGranted p grantId
    (.mkObj
      [("grant_id", .str grantId), ("operation", .str operation),
        ("grantee_principal_id", .str i.principalId), ("channel", .str "Feishu"),
        ("conversation_kind", .str "p2p"), ("scope", .str "principal_channel"),
        ("risk", .str "ReadOnly"), ("snapshot_id", .str snapshotId),
        ("decision_id", .str i.decisionId)])

/-! ## Activation -/

def activationResult (i : TrustedDecisionIdentity) (snapshotId deploymentId : String) :
    TrustedDecisionResult where
  decisionId := i.decisionId
  status := .approved
  activatedSnapshotId := some snapshotId
  hostDeploymentId := some deploymentId
  activationError := none
  replayed := false

def installCapability (i : TrustedDecisionIdentity) (m : HarnessManifest) (target : String)
    (specs : List OperationSpec) (stamps : ActivationStamps) (db : GovernanceDb) :
    Except String GovernanceDb := do
  let base ← (registerHarnessManifestInTx m ⟨stamps.manifestRegistered, stamps.now⟩
    db.toRegistryDb).mapError ("manifest_registration_failed:" ++ ·)
  let (activation, registry) ← activateRegistryTx specs i.expectedSourceSnapshotId stamps.now
    base.registry
  if activation.previousSnapshotId ≠ i.expectedSourceSnapshotId ||
      activation.newSnapshotId ≠ target then
    .error "REGISTRY_ACTIVATION_IDENTITY_MISMATCH"
  else return { db with toRegistryDb := { base with registry } }

def settleActivation (i : TrustedDecisionIdentity) (m : HarnessManifest) (p : ProposalTerms)
    (snapshotId deploymentId : String) (stamps : ActivationStamps) (db : GovernanceDb) :
    Except String GovernanceDb := do
  let (grant, grants) ← createExternalOperationGrantTx (grantRow i m snapshotId stamps) db.grants
  let db ← persistTerminal i (activationResult i snapshotId deploymentId) stamps.now
    { db with grants }
  let db ← appendApprovedEvents stamps p i snapshotId deploymentId m.operationName db
  if grant.2 then appendGrantEvent stamps p i grant.1 snapshotId m.operationName db else return db

def activateTrustedCapabilityAtomic (i : TrustedDecisionIdentity) (m : HarnessManifest)
    (deployment : TrustedHostDeployment) (expectedAgent : AgentId) (stamps : ActivationStamps)
    (db : GovernanceDb) : Except String (TrustedDecisionResult × GovernanceDb) := do
  validateCapabilityManifest m i
  if trim deployment.deploymentId = "" then .error "HOST_DEPLOYMENT_ID_MISSING"
  else
    let b ← loadValidatedBinding db i expectedAgent
    if b.approval.status ≠ .pending then
      let result ← replayResult b.approval.toApprovalDecision i .approved
      if result.hostDeploymentId ≠ some deployment.deploymentId ||
          result.activatedSnapshotId ≠ some deployment.targetSnapshotId then
        .error "APPROVAL_DECISION_CONFLICT"
      else return (result, db)
    else
      validateDecidable b stamps.now
      let specs ← capabilitySpecs db.registry i m
      if deployment.targetSnapshotId ≠ prospectiveId db.registry i specs then
        .error "HOST_DEPLOYMENT_SNAPSHOT_MISMATCH"
      else
        let db ← installCapability i m deployment.targetSnapshotId specs stamps db
        let db ← settleActivation i m b.proposal.toProposalTerms deployment.targetSnapshotId
          deployment.deploymentId stamps db
        return (activationResult i deployment.targetSnapshotId deployment.deploymentId, db)

end

end AgentCore.Journal
