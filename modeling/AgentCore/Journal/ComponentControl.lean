import AgentCore.Journal.ServiceActivation

/-! The control of a managed component: it is disabled, or rolled back to the version its
deployment replaced. -/

namespace AgentCore.Journal

open Foundation Registry
open Domain hiding OperationSpec RegistrySnapshot

structure ComponentControlResult where
  (targetSnapshotId receiptId : String)
  component : RegisteredComponent
  replayed : Bool

def ComponentDb.pendingDeployments (db : ComponentDb) (componentId : String) : Nat :=
  db.deploymentIntents.count fun row => row.componentId = componentId && db.approvalPending row.proposalId

section

variable [Platform]

def ComponentDb.recordControl (db : ComponentDb) (stamp : Stamp) (kind : JournalEventKind)
    (correlationId : String) (payload : Json) : Except String ComponentDb := do
  let base ← db.toDb.append stamp kind none none (some correlationId) payload
  return { db with toDb := base }

def activeComponent (db : ComponentDb) (intent : ComponentControlIntent) :
    Except String RegisteredComponent :=
  match db.components.state with
  | none => .error "Query returned no rows"
  | some s => do
    require (s.activeSnapshotId = intent.expectedComponentSnapshotId)
      "COMPONENT_CONTROL_SNAPSHOT_CONFLICT"
    let snapshot ← db.components.loadSnapshot s.activeSnapshotId
    match snapshot.lookup intent.componentId with
    | none => .error "COMPONENT_NOT_REGISTERED"
    | some component =>
      require (component.deploymentId = intent.expectedDeploymentId)
        "COMPONENT_CONTROL_DEPLOYMENT_CONFLICT"
      return component

/-! ## The intent -/

def insertControlIntent (intent : ComponentControlIntent) (stamp : Stamp) (db : ComponentDb) :
    Except String ComponentDb :=
  match db.controlIntents.insert ⟨intent, .pending⟩ with
  | none => .error "UNIQUE constraint failed: component_control_intents.decision_id"
  | some controls =>
    { db with controlIntents := controls }.recordControl stamp .componentControlIntentRecorded
      intent.decisionId
      (.mkObj
        [("decision_id", .str intent.decisionId), ("component_id", .str intent.componentId),
          ("action", .str intent.action),
          ("expected_snapshot_id", .str intent.expectedComponentSnapshotId),
          ("expected_deployment_id", .str intent.expectedDeploymentId),
          ("principal_id", .str intent.principalId)])

def recordComponentControlIntent (intent : ComponentControlIntent) (expectedOwnerOpenId : String)
    (stamp : Stamp) (db : ComponentDb) : Except String ComponentDb := do
  intent.validate
  require (intent.principalId = "feishu:open_id:" ++ expectedOwnerOpenId)
    "COMPONENT_CONTROL_OWNER_MISMATCH"
  match db.findControl intent.decisionId with
  | some row =>
    require (row.toComponentControlIntent = intent) "COMPONENT_CONTROL_DECISION_CONFLICT"
    require (row.status ≠ .failed) "COMPONENT_CONTROL_DECISION_TERMINAL"
    return db
  | none =>
    require (db.pendingControls intent.componentId = 0 ∧ db.pendingDeployments intent.componentId = 0)
      "COMPONENT_CONTROL_EFFECT_IN_FLIGHT"
    let active ← activeComponent db intent
    require (intent.action = "rollback" → active.status = .healthy) "COMPONENT_ROLLBACK_STATE_INVALID"
    require (intent.action = "disable" → active.status = .healthy ∨ active.status = .rolledBack)
      "COMPONENT_DISABLE_STATE_INVALID"
    insertControlIntent intent stamp db

def failComponentControlIntent (decisionId : String) (db : ComponentDb) : Except String ComponentDb := do
  let controls ← db.controlIntents.updateOne
    (fun r => r.decisionId = decisionId && r.status = .pending)
    (fun r => { r with status := .failed })
    "UNIQUE constraint failed: component_control_intents.decision_id"
    "COMPONENT_CONTROL_DECISION_CONFLICT"
  return { db with controlIntents := controls }

/-! ## The receipt -/

structure ControlStamps where
  now : Timestamp
  (receiptRecorded settled : EventId)

def validateRecordedControl (db : ComponentDb) (intent : ComponentControlIntent) : Except String Unit :=
  match db.findControl intent.decisionId with
  | none => .error "COMPONENT_CONTROL_INTENT_NOT_RECORDED"
  | some row => require (row.toComponentControlIntent = intent) "COMPONENT_CONTROL_INTENT_CONFLICT"

def controlResult (db : ComponentDb) (componentId : String) (row : ControlReceiptRow) :
    Except String ComponentControlResult := do
  let snapshot ← db.components.loadSnapshot row.targetSnapshotId
  match snapshot.lookup componentId with
  | none => .error "COMPONENT_CONTROL_RESULT_CORRUPT"
  | some component => return ⟨row.targetSnapshotId, row.receiptId, component, true⟩

def findControlReceipt (db : ComponentDb) (decisionId : String) : Option ControlReceiptRow :=
  db.controlReceipts.rows.find? fun r => r.decisionId = decisionId

def replayComponentControl (intent : ComponentControlIntent) (db : ComponentDb) :
    Except String (Option ComponentControlResult) := do
  intent.validate
  validateRecordedControl db intent
  match findControlReceipt db intent.decisionId with
  | none => return none
  | some row =>
    (row.toComponentControlReceipt.validateFor intent).mapError fun _ => "COMPONENT_CONTROL_RESULT_CORRUPT"
    let result ← controlResult db intent.componentId row
    return some result

def validateRollbackTarget (db : ComponentDb) (active : RegisteredComponent)
    (receipt : ComponentControlReceipt) : Except String Unit :=
  match db.deploymentReceipts.rows.find? fun r => r.receiptId = active.deploymentReceiptId with
  | none => .error "COMPONENT_ROLLBACK_LINEAGE_MISSING"
  | some deployment =>
    require (deployment.receiptId = active.deploymentReceiptId ∧
      deployment.deploymentId = active.deploymentId ∧
      deployment.artifactDigest = active.artifactDigest ∧ deployment.version = active.version ∧
      deployment.previousArtifactDigest = some receipt.artifactDigest ∧
      receipt.deploymentId ≠ active.deploymentId) "COMPONENT_ROLLBACK_LINEAGE_INVALID"

def historicalComponent (db : ComponentDb) (receipt : ComponentControlReceipt) :
    Except String (Option RegisteredComponent) :=
  let holds := db.components.snapshots.rows.filter fun s =>
    db.components.entries.rows.any fun e =>
      e.snapshotId = s.snapshotId && e.component.componentId = receipt.componentId &&
        e.component.artifactDigest = receipt.artifactDigest &&
        e.component.version = receipt.version && e.component.deploymentId = receipt.deploymentId
  match (sortBy ComponentSnapshotRow.createdAt holds).getLast? with
  | none => .ok none
  | some row => do
    let snapshot ← db.components.loadSnapshot row.snapshotId
    return snapshot.lookup receipt.componentId

def controlTarget (db : ComponentDb) (intent : ComponentControlIntent)
    (receipt : ComponentControlReceipt) (active : RegisteredComponent) :
    Except String RegisteredComponent :=
  if intent.action = "disable" then do
    require (receipt.deploymentId = active.deploymentId ∧
      receipt.artifactDigest = active.artifactDigest ∧ receipt.version = active.version)
      "COMPONENT_DISABLE_RECEIPT_BINDING_MISMATCH"
    return { active with endpoint := receipt.endpoint, status := .disabled }
  else do
    validateRollbackTarget db active receipt
    match ← historicalComponent db receipt with
    | none => .error "COMPONENT_ROLLBACK_TARGET_UNTRUSTED"
    | some component => return { component with endpoint := receipt.endpoint, status := .rolledBack }

def appendSettlementEvents (stamps : ControlStamps) (intent : ComponentControlIntent)
    (receipt : ComponentControlReceipt) (targetSnapshotId : String) (db : ComponentDb) :
    Except String ComponentDb := do
  let db ← db.recordControl ⟨stamps.receiptRecorded, stamps.now⟩ .componentControlReceiptRecorded
    receipt.receiptId
    (.mkObj
      [("receipt_id", .str receipt.receiptId), ("decision_id", .str intent.decisionId),
        ("component_id", .str intent.componentId), ("action", .str intent.action),
        ("deployment_id", .str receipt.deploymentId),
        ("artifact_digest", .str receipt.artifactDigest), ("version", .str receipt.version),
        ("status", .str receipt.status), ("health_status", .str receipt.healthStatus),
        ("target_snapshot_id", .str targetSnapshotId)])
  db.recordControl ⟨stamps.settled, stamps.now⟩
    (if intent.action = "disable" then .componentDisabled else .componentRolledBack) intent.componentId
    (.mkObj
      [("decision_id", .str intent.decisionId), ("receipt_id", .str receipt.receiptId),
        ("component_id", .str intent.componentId),
        ("previous_snapshot_id", .str intent.expectedComponentSnapshotId),
        ("new_snapshot_id", .str targetSnapshotId), ("deployment_id", .str receipt.deploymentId),
        ("artifact_digest", .str receipt.artifactDigest), ("version", .str receipt.version)])

def writeControl (intent : ComponentControlIntent) (receipt : ComponentControlReceipt)
    (target : RegisteredComponent) (now : Timestamp) (db : ComponentDb) :
    Except String (String × ComponentDb) := do
  let source ← db.components.loadSnapshot intent.expectedComponentSnapshotId
  let (snapshotId, components) ← db.components.persistSnapshot
    (replaceComponent source.components intent.componentId target) now
  match components.state with
  | none => .error "COMPONENT_CONTROL_SNAPSHOT_CONFLICT"
  | some s =>
    require (s.activeSnapshotId = intent.expectedComponentSnapshotId)
      "COMPONENT_CONTROL_SNAPSHOT_CONFLICT"
    let components ← components.setState ⟨snapshotId, s.version + 1⟩
    match db.controlReceipts.insert ⟨receipt, snapshotId⟩ with
    | none => .error "UNIQUE constraint failed: component_control_receipts"
    | some receipts =>
      let controls ← db.controlIntents.updateOne
        (fun r => r.decisionId = intent.decisionId && r.status = .pending)
        (fun r => { r with status := .succeeded })
        "UNIQUE constraint failed: component_control_intents.decision_id"
        "COMPONENT_CONTROL_DECISION_CONFLICT"
      return (snapshotId,
        { db with components, controlReceipts := receipts, controlIntents := controls })

def settleComponentControlAtomic (intent : ComponentControlIntent) (receipt : ComponentControlReceipt)
    (stamps : ControlStamps) (db : ComponentDb) :
    Except String (ComponentControlResult × ComponentDb) := do
  intent.validate
  receipt.validateFor intent
  validateRecordedControl db intent
  match findControlReceipt db intent.decisionId with
  | some row =>
    require (row.toComponentControlReceipt = receipt) "COMPONENT_CONTROL_RECEIPT_CONFLICT"
    let result ← controlResult db intent.componentId row
    return (result, db)
  | none =>
    let active ← activeComponent db intent
    let target ← controlTarget db intent receipt active
    let (snapshotId, db) ← writeControl intent receipt target stamps.now db
    let db ← appendSettlementEvents stamps intent receipt snapshotId db
    return (⟨snapshotId, receipt.receiptId, target, false⟩, db)

end

end AgentCore.Journal
