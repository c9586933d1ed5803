import AgentCore.Journal.Components
import AgentCore.Journal.TrustedActivation

/-! The deployment of a managed service: the intent is recorded before the harness is asked,
and its receipt settles the approval and publishes a new snapshot of components. -/

namespace AgentCore.Journal

open Foundation Harness Registry
open Domain hiding OperationSpec RegistrySnapshot

/-! ## Versions -/

def parseU64OrZero (cs : List Char) : Nat :=
  let digits := match cs with
    | '+' :: rest => rest
    | cs => cs
  if digits.isEmpty || !digits.all Char.isDigit then 0
  else
    let n := digits.foldl (fun n c => 10 * n + (c.toNat - '0'.toNat)) 0
    if n < 2 ^ 64 then n else 0

def versionParts (version : String) : List Nat := (version.toList.splitOn '.').map parseU64OrZero

def newerVersion (left right : String) : Prop := versionParts right < versionParts left

instance (left right : String) : Decidable (newerVersion left right) :=
  inferInstanceAs (Decidable (versionParts right < versionParts left))

/-! ## The intent -/

structure IntentStamps where
  now : Timestamp
  (approved recorded : EventId)

def ComponentDb.deploymentsInFlight (db : ComponentDb) (componentId intentId : String) : Nat :=
  db.deploymentIntents.count fun row =>
    row.componentId = componentId && !db.hasReceipt row && row.intentId ≠ intentId &&
      db.proposals.rows.any fun p => p.proposalId = row.proposalId && p.status = .approved

def intentExistsWithoutReceipt (db : ComponentDb) (proposalId manifestDigest : String) : Bool :=
  db.deploymentIntents.rows.any fun row =>
    row.proposalId = proposalId && row.serviceManifestDigest = manifestDigest && !db.hasReceipt row

section

variable [Platform]

def appendIntentEvent (stamp : Stamp) (p : ProposalTerms) (i : TrustedDecisionIdentity)
    (intent : DeploymentIntent) (componentId : String) (db : GovernanceDb) :
    Except String GovernanceDb :=
  db.record stamp .deploymentIntentRecorded p intent.intentId
    (.mkObj
      [("intent_id", .str intent.intentId), ("invocation_id", .str intent.invocationId),
        ("proposal_id", .str i.proposalId), ("decision_id", .str i.decisionId),
        ("component_id", .str componentId), ("manifest_digest", .str intent.serviceManifestDigest),
        ("artifact_digest", .str intent.artifactDigest), ("version", .str intent.expectedVersion)])

def insertIntent (intent : DeploymentIntent) (componentId : String) (db : ComponentDb) :
    Except String ComponentDb := do
  require (db.deploymentsInFlight componentId intent.intentId = 0 ∧ db.pendingControls componentId = 0)
    "SERVICE_COMPONENT_EFFECT_IN_FLIGHT"
  match db.deploymentIntents.insert ⟨intent, componentId⟩ with
  | none => .error "UNIQUE constraint failed: component_deployment_intents"
  | some intents => return { db with deploymentIntents := intents }

def recordTrustedServiceDeploymentIntent (i : TrustedDecisionIdentity) (intent : DeploymentIntent)
    (m : ServiceManifest) (expectedAgent : AgentId) (stamps : IntentStamps) (db : ComponentDb) :
    Except String ComponentDb := do
  m.validate
  intent.validate
  require (intent.proposalId = i.proposalId ∧ intent.decisionId = i.decisionId ∧
    intent.serviceManifestDigest = i.manifestDigest ∧ intent.artifactDigest = i.artifactDigest ∧
    intent.expectedVersion = m.version ∧ intent.artifactDigest = m.artifactDigest)
    "DEPLOYMENT_INTENT_BINDING_MISMATCH"
  let b ← loadValidatedBinding db.toGovernanceDb i expectedAgent
  validatePending db.toGovernanceDb b i stamps.now
  require (b.link.operation = m.componentId) "SERVICE_COMPONENT_BINDING_MISMATCH"
  let approved ← appendApprovalEvent ⟨stamps.approved, stamps.now⟩ b.proposal.toProposalTerms i
    db.toGovernanceDb
  let (_, source) ← db.components.active
  require (∀ current ∈ source.lookup m.componentId, newerVersion m.version current.version)
    "SERVICE_VERSION_NOT_MONOTONIC"
  match db.findIntent intent.intentId with
  | some row =>
    require (row = ⟨intent, m.componentId⟩) "DEPLOYMENT_INTENT_CONFLICT"
    return { db with toGovernanceDb := approved }
  | none =>
    let db ← insertIntent intent m.componentId { db with toGovernanceDb := approved }
    let recorded ← appendIntentEvent ⟨stamps.recorded, stamps.now⟩ b.proposal.toProposalTerms i intent
      m.componentId db.toGovernanceDb
    return { db with toGovernanceDb := recorded }

/-! ## The receipt -/

structure ServiceStamps where
  now : Timestamp
  (approved receiptRecorded registered changeActivated : EventId)

def validateRecordedIntent (db : ComponentDb) (intent : DeploymentIntent) (componentId : String) :
    Except String Unit :=
  match db.findIntent intent.intentId with
  | none => .error "DEPLOYMENT_INTENT_NOT_RECORDED"
  | some row => require (row = ⟨intent, componentId⟩) "DEPLOYMENT_INTENT_BINDING_MISMATCH"

def validateSuccession (source : ComponentRegistrySnapshot) (m : ServiceManifest)
    (receipt : DeploymentReceipt) : Except String Unit :=
  match source.lookup m.componentId with
  | some current => do
    require (newerVersion m.version current.version) "SERVICE_VERSION_NOT_MONOTONIC"
    require (receipt.previousArtifactDigest = some current.artifactDigest)
      "SERVICE_PREVIOUS_ARTIFACT_MISMATCH"
  | none => require (receipt.previousArtifactDigest = none) "SERVICE_PREVIOUS_ARTIFACT_MISMATCH"

def deployedComponent (i : TrustedDecisionIdentity) (m : ServiceManifest) (receipt : DeploymentReceipt) :
    RegisteredComponent where
  componentId := m.componentId
  kind := m.kind
  manifestId := m.manifestId
  manifestDigest := i.manifestDigest
  artifactDigest := m.artifactDigest
  version := m.version
  endpoint := receipt.endpoint
  deploymentId := receipt.deploymentId
  deploymentReceiptId := receipt.receiptId
  status := .healthy
  requiredContracts := m.requiredContracts
  requestedPermissions := m.requestedPermissions

def replaceComponent (components : List RegisteredComponent) (componentId : String)
    (c : RegisteredComponent) : List RegisteredComponent :=
  (components.filter fun current => current.componentId ≠ componentId) ++ [c]

def appendActivationEvents (stamps : ServiceStamps) (p : ProposalTerms) (i : TrustedDecisionIdentity)
    (intent : DeploymentIntent) (m : ServiceManifest) (receipt : DeploymentReceipt)
    (sourceSnapshotId targetSnapshotId : String) (db : GovernanceDb) :
    Except String GovernanceDb := do
  let db ← appendApprovalEvent ⟨stamps.approved, stamps.now⟩ p i db
  let db ← db.record ⟨stamps.receiptRecorded, stamps.now⟩ .deploymentReceiptRecorded p receipt.receiptId
    (.mkObj
      [("receipt_id", .str receipt.receiptId), ("deployment_id", .str receipt.deploymentId),
        ("intent_id", .str intent.intentId), ("component_id", .str m.componentId),
        ("artifact_digest", .str receipt.artifactDigest), ("version", .str receipt.version),
        ("status", .str receipt.status), ("health_status", .str receipt.healthStatus),
        ("endpoint", .str receipt.endpoint), ("log_ref", .str receipt.logRef)])
  let db ← db.record ⟨stamps.registered, stamps.now⟩ .componentRegistered p m.componentId
    (.mkObj
      [("component_id", .str m.componentId), ("kind", .str m.kind.text),
        ("manifest_id", .str m.manifestId), ("artifact_digest", .str m.artifactDigest),
        ("version", .str m.version), ("deployment_id", .str receipt.deploymentId),
        ("previous_snapshot_id", .str sourceSnapshotId),
        ("new_snapshot_id", .str targetSnapshotId)])
  db.record ⟨stamps.changeActivated, stamps.now⟩ .capabilityChangeActivated p i.proposalId
    (.mkObj
      [("proposal_id", .str i.proposalId), ("approval_id", .str i.approvalId),
        ("decision_id", .str i.decisionId), ("component_id", .str m.componentId),
        ("new_component_snapshot_id", .str targetSnapshotId),
        ("host_deployment_id", .str receipt.deploymentId), ("endpoint", .str receipt.endpoint)])

def installComponent (i : TrustedDecisionIdentity) (m : ServiceManifest) (receipt : DeploymentReceipt)
    (s : ComponentRegistryState) (source : ComponentRegistrySnapshot) (now : Timestamp)
    (db : ComponentDb) : Except String (String × ComponentDb) :=
  match db.deploymentReceipts.insert receipt with
  | none => .error "UNIQUE constraint failed: component_deployment_receipts"
  | some receipts => do
    let (target, components) ← db.components.persistSnapshot
      (replaceComponent source.components m.componentId (deployedComponent i m receipt)) now
    require (components.state = some s) "COMPONENT_REGISTRY_ACTIVATION_CONFLICT"
    let components ← components.setState ⟨target, s.version + 1⟩
    return (target, { db with deploymentReceipts := receipts, components })

def activateTrustedServiceAtomic (i : TrustedDecisionIdentity) (intent : DeploymentIntent)
    (m : ServiceManifest) (receipt : DeploymentReceipt) (expectedAgent : AgentId)
    (stamps : ServiceStamps) (db : ComponentDb) :
    Except String (TrustedDecisionResult × ComponentDb) := do
  m.validate
  intent.validate
  receipt.validateFor intent m.componentId
  require (m.manifestId ≠ "" ∧ intent.serviceManifestDigest = i.manifestDigest ∧
    m.artifactDigest = i.artifactDigest) "SERVICE_ACTIVATION_BINDING_MISMATCH"
  let b ← loadValidatedBinding db.toGovernanceDb i expectedAgent
  if b.approval.status ≠ .pending then
    let result ← replayResult b.approval.toApprovalDecision i .approved
    require (result.hostDeploymentId = some receipt.deploymentId) "APPROVAL_DECISION_CONFLICT"
    return (result, db)
  else
    validatePending db.toGovernanceDb b i stamps.now
    require (b.link.operation = m.componentId) "SERVICE_COMPONENT_BINDING_MISMATCH"
    validateRecordedIntent db intent m.componentId
    let (s, source) ← db.components.active
    validateSuccession source m receipt
    let (target, db) ← installComponent i m receipt s source stamps.now db
    let result := activationResult i target receipt.deploymentId
    let decided ← persistTerminal i result stamps.now db.toGovernanceDb
    let recorded ← appendActivationEvents stamps b.proposal.toProposalTerms i intent m receipt
      s.activeSnapshotId target decided
    return (result, { db with toGovernanceDb := recorded })

end

end AgentCore.Journal
