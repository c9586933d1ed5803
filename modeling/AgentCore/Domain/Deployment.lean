import AgentCore.Harness.Manifest

/-! Managed services: the manifest of one, the effect a deployment asks for and the receipt it
brings back, and the same for a control of a running component. -/

namespace AgentCore.Domain

open Foundation Harness

/-! ## Texts -/

def isAsciiSpaceOrControl (c : Char) : Bool := decide (c.toNat ≤ 0x20) || c = '\x7f'

def safeIdentity (value : String) (max : Nat) : Bool :=
  !value.isEmpty && decide (value.utf8ByteSize ≤ max) && value.toList.all fun c => !isAsciiSpaceOrControl c

def lowerSha256 (value : String) : Bool :=
  value.utf8ByteSize = 71 && sha256Prefixed value && (value.toList.drop 7).all isLowerHex

def safeComponentId (value : String) : Bool :=
  !value.isEmpty && decide (value.utf8ByteSize ≤ 128) &&
    value.toList.all fun c => c.isLower || c.isDigit || ['.', '_', '-'].contains c

def semverV0 (value : String) : Bool :=
  let parts := value.toList.splitOn '.'
  parts.length = 3 && parts.all fun part =>
    !part.isEmpty && decide ((String.ofList part).utf8ByteSize ≤ 9) && part.all Char.isDigit

def loopbackEndpoint (value : String) : Bool :=
  match (dropText "http://127.0.0.1:" value.toList).bind parseU16 with
  | some port => decide (port ≠ 0)
  | none => false

def safeParts (path : List Char) : Bool :=
  (path.splitOn '/').all fun part =>
    !part.isEmpty && decide (part ≠ ['.']) && decide (part ≠ ['.', '.']) &&
      part.all fun c => c.isAlphanum || ['.', '_', '-'].contains c

def safeRelativePath (value : String) (max : Nat) : Bool :=
  !value.isEmpty && decide (value.utf8ByteSize ≤ max) && decide (value.toList.head? ≠ some '/') &&
    safeParts value.toList

def safeAbsolutePath (value : String) : Bool :=
  decide (value.toList.head? = some '/') && decide (value.utf8ByteSize ≤ 128) &&
    decide (value ≠ "/") && safeParts (value.toList.drop 1)

def stableId [Platform] (label : String) (value : Json) : String :=
  label ++ "_" ++ Platform.sha256Hex value.toText

/-! ## Manifests of services -/

inductive TargetKind
  | invocableCapability
  | hookConsumerService
  | contextProvider
  | contextTransformer
  | scheduledWorker
  | schedulerService
  | ingressRouter
  | multiRunOrchestrator
  | connectorExtension
deriving DecidableEq

def TargetKind.text : TargetKind → String
  | invocableCapability => "invocable_capability"
  | hookConsumerService => "hook_consumer_service"
  | contextProvider => "context_provider"
  | contextTransformer => "context_transformer"
  | scheduledWorker => "scheduled_worker"
  | schedulerService => "scheduler_service"
  | ingressRouter => "ingress_router"
  | multiRunOrchestrator => "multi_run_orchestrator"
  | connectorExtension => "connector_extension"

structure ListenPolicy where
  host : String
  port : Nat
  exposure : String
deriving DecidableEq

structure ServiceHealthcheck where
  (method path : String)
  timeoutMs : Nat
deriving DecidableEq

structure UpgradePolicy where
  strategy : String
  requireHealthyBeforeSwitch : Bool
deriving DecidableEq

structure RollbackPolicy where
  retainPreviousVersions : Nat
  automaticOnHealthFailure : Bool
deriving DecidableEq

structure ServiceManifest where
  (schemaVersion manifestId componentId : String)
  kind : TargetKind
  (artifactDigest entrypoint runtimeProfile version : String)
  (requiredContracts requestedPermissions : List String)
  listenPolicy : ListenPolicy
  healthcheck : ServiceHealthcheck
  statePath : String
  upgradePolicy : UpgradePolicy
  rollbackPolicy : RollbackPolicy
deriving DecidableEq

def SERVICE_MANIFEST_SCHEMA : String := "deployment.service-manifest.v0"

def DEPLOYMENT_PROTOCOL : String := "deployment.effect.v0"

def textsJson (texts : List String) : Json := .arr (texts.map .str)

namespace ServiceManifest

def toJson (m : ServiceManifest) : Json :=
  .obj
    [("schema_version", .str m.schemaVersion), ("manifest_id", .str m.manifestId),
      ("component_id", .str m.componentId), ("kind", .str m.kind.text),
      ("artifact_digest", .str m.artifactDigest), ("entrypoint", .str m.entrypoint),
      ("runtime_profile", .str m.runtimeProfile), ("version", .str m.version),
      ("required_contracts", textsJson m.requiredContracts),
      ("requested_permissions", textsJson m.requestedPermissions), ("listen_policy", .obj
        [("host", .str m.listenPolicy.host), ("port", .num (.int m.listenPolicy.port)),
          ("exposure", .str m.listenPolicy.exposure)]), ("healthcheck", .obj
        [("method", .str m.healthcheck.method), ("path", .str m.healthcheck.path),
          ("timeout_ms", .num (.int m.healthcheck.timeoutMs))]), ("state_path", .str m.statePath),
      ("upgrade_policy", .obj
        [("strategy", .str m.upgradePolicy.strategy),
          ("require_healthy_before_switch", .bool m.upgradePolicy.requireHealthyBeforeSwitch)]),
      ("rollback_policy", .obj
        [("retain_previous_versions", .num (.int m.rollbackPolicy.retainPreviousVersions)),
          ("automatic_on_health_failure", .bool m.rollbackPolicy.automaticOnHealthFailure)])]

variable [Platform]

def computeManifestId (m : ServiceManifest) : String :=
  stableId "service_manifest" { m with manifestId := "" }.toJson

def validate (m : ServiceManifest) : Except String Unit := do
  require (m.schemaVersion = SERVICE_MANIFEST_SCHEMA ∧ m.kind = .hookConsumerService ∧
    m.runtimeProfile = "managed-service-v0" ∧ m.entrypoint = "artifact" ∧
    safeComponentId m.componentId ∧ lowerSha256 m.artifactDigest ∧ semverV0 m.version)
    "SERVICE_MANIFEST_IDENTITY_INVALID"
  require (m.manifestId = m.computeManifestId) "SERVICE_MANIFEST_DIGEST_INVALID"
  require (m.requiredContracts = ["event.observe.v0"] ∧ m.requestedPermissions = ["journal.observe"])
    "SERVICE_MANIFEST_CONTRACT_INVALID"
  require (m.listenPolicy.host = "127.0.0.1" ∧ m.listenPolicy.port = 0 ∧
    m.listenPolicy.exposure = "loopback") "SERVICE_MANIFEST_LISTEN_POLICY_INVALID"
  require (m.healthcheck.method = "GET" ∧ safeAbsolutePath m.healthcheck.path ∧
    (100 ≤ m.healthcheck.timeoutMs ∧ m.healthcheck.timeoutMs ≤ 30000) ∧
    safeRelativePath m.statePath 128) "SERVICE_MANIFEST_HEALTH_INVALID"
  require (m.upgradePolicy.strategy = "replace_after_ready" ∧
    m.upgradePolicy.requireHealthyBeforeSwitch ∧
    (1 ≤ m.rollbackPolicy.retainPreviousVersions ∧ m.rollbackPolicy.retainPreviousVersions ≤ 5))
    "SERVICE_MANIFEST_LIFECYCLE_POLICY_INVALID"

end ServiceManifest

/-! ## Deployments -/

structure DeploymentIntent where
  (protocolVersion invocationId intentId proposalId decisionId serviceManifestDigest : String)
  (artifactDigest expectedVersion action : String)
deriving DecidableEq

namespace DeploymentIntent

def identityFields (i : DeploymentIntent) : List (String × Json) :=
  [("protocol_version", .str i.protocolVersion), ("invocation_id", .str i.invocationId),
    ("proposal_id", .str i.proposalId), ("decision_id", .str i.decisionId),
    ("service_manifest_digest", .str i.serviceManifestDigest),
    ("artifact_digest", .str i.artifactDigest), ("expected_version", .str i.expectedVersion),
    ("action", .str i.action)]

variable [Platform]

def expectedIntentId (i : DeploymentIntent) : String :=
  stableId "deployment_intent" (.mkObj i.identityFields)

def validate (i : DeploymentIntent) : Except String Unit := do
  require (i.protocolVersion = DEPLOYMENT_PROTOCOL ∧ i.action = "install_start")
    "DEPLOYMENT_INTENT_PROTOCOL_INVALID"
  require (∀ value ∈ [i.invocationId, i.intentId, i.proposalId, i.decisionId, i.expectedVersion],
    safeIdentity value 256) "DEPLOYMENT_INTENT_IDENTITY_INVALID"
  require (∀ digest ∈ [i.serviceManifestDigest, i.artifactDigest], lowerSha256 digest)
    "DEPLOYMENT_INTENT_DIGEST_INVALID"
  require (i.intentId = i.expectedIntentId) "DEPLOYMENT_INTENT_ID_INVALID"

def deploymentId (i : DeploymentIntent) (componentId : String) : String :=
  stableId "deployment" (.mkObj
    [("intent", .mkObj
      [("protocol_version", .str i.protocolVersion), ("invocation_id", .str i.invocationId),
        ("intent_id", .str i.intentId), ("proposal_id", .str i.proposalId),
        ("decision_id", .str i.decisionId),
        ("service_manifest_digest", .str i.serviceManifestDigest),
        ("artifact_digest", .str i.artifactDigest), ("expected_version", .str i.expectedVersion),
        ("action", .str i.action)]), ("component_id", .str componentId)])

end DeploymentIntent

structure DeploymentReceipt where
  (protocolVersion receiptId invocationId intentId proposalId decisionId deploymentId : String)
  (componentId serviceManifestDigest artifactDigest version status endpoint healthStatus : String)
  logRef : String
  previousArtifactDigest : Option String
  /-- The instant the text names, if it names one. -/
  (startedAt finishedAt : Option Timestamp)
  replayed : Bool

namespace DeploymentReceipt

variable [Platform]

def expectedReceiptId (r : DeploymentReceipt) : String :=
  stableId "deployment_receipt" (.mkObj
    [("invocation_id", .str r.invocationId), ("intent_id", .str r.intentId),
      ("proposal_id", .str r.proposalId), ("decision_id", .str r.decisionId),
      ("deployment_id", .str r.deploymentId), ("component_id", .str r.componentId),
      ("service_manifest_digest", .str r.serviceManifestDigest),
      ("artifact_digest", .str r.artifactDigest), ("version", .str r.version),
      ("status", .str r.status), ("endpoint", .str r.endpoint),
      ("health_status", .str r.healthStatus), ("log_ref", .str r.logRef),
      ("previous_artifact_digest", .ofOption r.previousArtifactDigest)])

def timesInOrder (r : DeploymentReceipt) : Bool :=
  match r.startedAt, r.finishedAt with
  | some started, some finished => decide (started ≤ finished)
  | _, _ => false

def validateFor (r : DeploymentReceipt) (i : DeploymentIntent) (componentId : String) :
    Except String Unit := do
  require (r.protocolVersion = DEPLOYMENT_PROTOCOL ∧ r.invocationId = i.invocationId ∧
    r.intentId = i.intentId ∧ r.proposalId = i.proposalId ∧ r.decisionId = i.decisionId ∧
    r.deploymentId = i.deploymentId componentId ∧ r.componentId = componentId ∧
    r.serviceManifestDigest = i.serviceManifestDigest ∧ r.artifactDigest = i.artifactDigest ∧
    r.version = i.expectedVersion ∧ r.status = "healthy" ∧ r.healthStatus = "ready" ∧
    loopbackEndpoint r.endpoint ∧ safeRelativePath r.logRef 512 ∧
    (∀ digest ∈ r.previousArtifactDigest, lowerSha256 digest) ∧ r.receiptId = r.expectedReceiptId)
    "DEPLOYMENT_RECEIPT_BINDING_INVALID"
  require (r.timesInOrder = true) "DEPLOYMENT_RECEIPT_TIME_INVALID"

end DeploymentReceipt

/-! ## Controls -/

structure ComponentControlIntent where
  (protocolVersion decisionId decisionNonce principalId componentId action : String)
  (expectedComponentSnapshotId expectedDeploymentId : String)
deriving DecidableEq

namespace ComponentControlIntent

variable [Platform]

def expectedDecisionId (i : ComponentControlIntent) : String :=
  stableId "component_control_decision" (.mkObj
    [("protocol_version", .str i.protocolVersion), ("decision_nonce", .str i.decisionNonce),
      ("principal_id", .str i.principalId), ("component_id", .str i.componentId),
      ("action", .str i.action),
      ("expected_component_snapshot_id", .str i.expectedComponentSnapshotId),
      ("expected_deployment_id", .str i.expectedDeploymentId)])

def validate (i : ComponentControlIntent) : Except String Unit :=
  require (i.protocolVersion = DEPLOYMENT_PROTOCOL ∧ i.action ∈ ["disable", "rollback"] ∧
    "feishu:open_id:".toList.isPrefixOf i.principalId.toList ∧ i.principalId.utf8ByteSize ≤ 256 ∧
    32 ≤ i.decisionNonce.utf8ByteSize ∧ i.decisionNonce.utf8ByteSize ≤ 160 ∧
    safeComponentId i.componentId ∧ safeIdentity i.expectedComponentSnapshotId 160 ∧
    safeIdentity i.expectedDeploymentId 160 ∧ i.decisionId = i.expectedDecisionId)
    "COMPONENT_CONTROL_INTENT_INVALID"

end ComponentControlIntent

structure ComponentControlReceipt where
  protocolVersion : String
  ok : Bool
  (receiptId action decisionId componentId deploymentId artifactDigest version status : String)
  (endpoint healthStatus logRef : String)
deriving DecidableEq

namespace ComponentControlReceipt

variable [Platform]

def expectedReceiptId (r : ComponentControlReceipt) : String :=
  stableId "component_control_receipt" (.mkObj
    [("action", .str r.action), ("decision_id", .str r.decisionId),
      ("component_id", .str r.componentId), ("deployment_id", .str r.deploymentId),
      ("artifact_digest", .str r.artifactDigest), ("version", .str r.version),
      ("status", .str r.status), ("endpoint", .str r.endpoint),
      ("health_status", .str r.healthStatus), ("log_ref", .str r.logRef)])

def expectedState (action : String) : Option (String × String) :=
  if action = "disable" then some ("disabled", "unavailable")
  else if action = "rollback" then some ("rolled_back", "ready")
  else none

def validateFor (r : ComponentControlReceipt) (i : ComponentControlIntent) : Except String Unit :=
  require (expectedState i.action = some (r.status, r.healthStatus) ∧
    r.protocolVersion = DEPLOYMENT_PROTOCOL ∧ r.ok ∧ r.action = i.action ∧
    r.decisionId = i.decisionId ∧ r.componentId = i.componentId ∧
    (i.action = "disable" → r.deploymentId = i.expectedDeploymentId) ∧
    lowerSha256 r.artifactDigest ∧ semverV0 r.version ∧ loopbackEndpoint r.endpoint ∧
    safeRelativePath r.logRef 512 ∧ r.receiptId = r.expectedReceiptId)
    "COMPONENT_CONTROL_RECEIPT_INVALID"

end ComponentControlReceipt

/-! ## Registered components -/

inductive ComponentStatus
  | healthy
  | disabled
  | rolledBack
deriving DecidableEq

def ComponentStatus.text : ComponentStatus → String
  | healthy => "healthy"
  | disabled => "disabled"
  | rolledBack => "rolled_back"

structure RegisteredComponent where
  componentId : String
  kind : TargetKind
  (manifestId manifestDigest artifactDigest version endpoint deploymentId : String)
  deploymentReceiptId : String
  status : ComponentStatus
  (requiredContracts requestedPermissions : List String)

def RegisteredComponent.toJson (c : RegisteredComponent) : Json :=
  .obj
    [("component_id", .str c.componentId), ("kind", .str c.kind.text),
      ("manifest_id", .str c.manifestId), ("manifest_digest", .str c.manifestDigest),
      ("artifact_digest", .str c.artifactDigest), ("version", .str c.version),
      ("endpoint", .str c.endpoint), ("deployment_id", .str c.deploymentId),
      ("deployment_receipt_id", .str c.deploymentReceiptId), ("status", .str c.status.text),
      ("required_contracts", textsJson c.requiredContracts),
      ("requested_permissions", textsJson c.requestedPermissions)]

structure ComponentRegistrySnapshot where
  snapshotId : String
  createdAt : Timestamp
  components : List RegisteredComponent

def ComponentRegistrySnapshot.lookup (s : ComponentRegistrySnapshot) (componentId : String) :
    Option RegisteredComponent := s.components.find? fun c => c.componentId = componentId

def computeComponentSnapshotId [Platform] (components : List RegisteredComponent) : String :=
  stableId "component_snap" (.mkObj (components.map fun c => (c.componentId, c.toJson)))

end AgentCore.Domain
