import AgentCore.Journal.TrustedActivation

/-! The other ways to a new active snapshot: a stored snapshot, an approved proposal with the
manifest it brings, and the upgrade of one operation. Each is one transaction, and the cached
identifier of the active snapshot follows its commit. -/

namespace AgentCore.Journal

open Foundation Harness Registry
open Domain hiding OperationSpec RegistrySnapshot

def ProposalStatus.text : ProposalStatus → String
  | pendingApproval => "PendingApproval"
  | approved => "Approved"
  | rejected => "Rejected"
  | activated => "Activated"
  | activationFailed => "ActivationFailed"
  | expired => "Expired"

structure GovernanceStore where
  db : GovernanceDb
  currentSnapshotId : Option String

namespace GovernanceStore

def toJournalStore (store : GovernanceStore) : JournalStore :=
  ⟨store.db.toRegistryDb, store.currentSnapshotId⟩

def withJournalStore (store : GovernanceStore) (journal : JournalStore) : GovernanceStore :=
  ⟨{ store.db with toRegistryDb := journal.db }, journal.currentSnapshotId⟩

def settle (store : GovernanceStore) :
    Except String (String × GovernanceDb) → Except String String × GovernanceStore
  | .error e => (.error e, store)
  | .ok (snapshotId, db) => (.ok snapshotId, ⟨db, some snapshotId⟩)

end GovernanceStore

section

variable [Platform]

/-! ## A stored snapshot -/

def activateSnapshotTransactional (expectedSnapshotId newSnapshotId decisionId action : String)
    (stamp : Stamp) (db : RegistryDb) : Except String RegistryDb :=
  match db.registry.state with
  | none => .error "registry_state not initialized"
  | some s =>
    if s.activeSnapshotId ≠ expectedSnapshotId then
      .error s!"snapshot_conflict: has {s.activeSnapshotId}, expected {expectedSnapshotId}"
    else do
      let registry ← casState "snapshot_conflict: version CAS failed" s.version
        ⟨newSnapshotId, s.version + 1, stamp.createdAt⟩ db.registry
      let base ← db.toDb.append stamp .registrySnapshotActivated none none (some decisionId)
        (.mkObj
          [("action", .str action), ("previous_snapshot_id", .str expectedSnapshotId),
            ("new_snapshot_id", .str newSnapshotId), ("decision_id", .str decisionId)])
      return { db with toDb := base, registry }

/-! ## Proposals -/

structure ProposalStamps where
  now : Timestamp
  (manifestRegistered snapshotActivated changeActivated : EventId)

def checkProposalOpen (proposals : SqlTable proposalSchema) (proposalId : String)
    (expectedAgent : AgentId) (mismatch : AgentId → String) (now : Timestamp) :
    Except String ProposalRow :=
  match findProposal proposals proposalId with
  | none => .error "proposal_not_found"
  | some row =>
    if row.status ≠ .pendingApproval then .error s!"proposal_not_pending: {row.status.text}"
    else if row.expiresAt ≤ now then .error "proposal_expired: stale_expiry_at_tx_time"
    else if row.targetAgentId ≠ expectedAgent then .error (mismatch row.targetAgentId)
    else .ok row

def setActivated (proposalId principal reason snapshotId : String) (now : Timestamp)
    (proposals : SqlTable proposalSchema) : SqlTable proposalSchema where
  rows := proposals.rows.map fun r =>
    if r.proposalId = proposalId then
      { r with
        status := .activated
        decidedAt := some now
        decidedBy := some principal
        decisionReason := some reason
        activatedSnapshotId := some snapshotId }
    else r
  keeps := by
    refine proposals.keeps.map (fun _ _ => rfl) fun u hu r => .inl ?_
    obtain rfl := List.mem_singleton.mp hu
    dsimp only
    split <;> rfl

def settleProposal (p : ProposalTerms) (principal decisionId reason snapshotId : String)
    (snapshotPayload changePayload : Json) (stamps : ProposalStamps) (db : GovernanceDb) :
    Except String GovernanceDb := do
  let decided := { db with
    proposals := setActivated p.proposalId principal reason snapshotId stamps.now db.proposals }
  let db ← decided.record ⟨stamps.snapshotActivated, stamps.now⟩ .registrySnapshotActivated p
    decisionId snapshotPayload
  db.record ⟨stamps.changeActivated, stamps.now⟩ .capabilityChangeActivated p p.proposalId
    changePayload

def registerOptionalManifest (manifest : Option HarnessManifest) (stamps : ProposalStamps)
    (db : RegistryDb) : Except String RegistryDb :=
  match manifest with
  | none => .ok db
  | some m =>
    (registerHarnessManifestInTx m ⟨stamps.manifestRegistered, stamps.now⟩ db).mapError
      ("manifest_registration_failed:" ++ ·)

def activateProposalAtomic (p : ProposalTerms) (principal : String)
    (newOperations : List OperationSpec) (expectedSnapshotId decisionId : String)
    (manifest : Option HarnessManifest) (expectedAgent : AgentId) (stamps : ProposalStamps)
    (db : GovernanceDb) : Except String (String × GovernanceDb) := do
  let base ← registerOptionalManifest manifest stamps db.toRegistryDb
  let _ ← checkProposalOpen db.proposals p.proposalId expectedAgent
    (fun agent => s!"target_agent_mismatch: has {agent} expected {expectedAgent}") stamps.now
  let (activation, registry) ← activateRegistryTx newOperations expectedSnapshotId stamps.now
    base.registry
  let snapshotId := activation.newSnapshotId
  let db ← settleProposal p principal decisionId "activated" snapshotId
    (.mkObj
      [("action", .str "capability_activation"), ("previous_snapshot_id", .str expectedSnapshotId),
        ("new_snapshot_id", .str snapshotId), ("decision_id", .str decisionId)])
    (.mkObj
      [("proposal_id", .str p.proposalId), ("decided_by", .str principal),
        ("previous_snapshot_id", .str expectedSnapshotId), ("new_snapshot_id", .str snapshotId)])
    stamps { db with toRegistryDb := { base with registry } }
  return (snapshotId, db)

/-! ## Upgrades -/

/-- A row with the identifier is taken if its content is the same, whenever it was made. -/
def registerHarnessManifestReplaceTx (m : HarnessManifest) (stamp : Stamp) (db : RegistryDb) :
    Except String RegistryDb :=
  let contentDigest := m.computeManifestId
  match findManifest db.manifests m.manifestId with
  | some r =>
    if r.canonicalDigest = contentDigest then .ok db
    else .error (s!"manifest_reuse_conflict: {m.manifestId} stored digest {r.canonicalDigest} " ++
      s!"!= {contentDigest}")
  | none => insertManifestRowTx m contentDigest stamp db

def replaceOperation (operations : List OperationSpec) (spec : OperationSpec) : List OperationSpec :=
  match operations.findIdx? fun op => op.name = spec.name with
  | some pos => operations.set pos spec
  | none => operations

structure SchemaUpgrade where
  (activeSnapshotId oldManifestId : String)
  newOperations : List OperationSpec

/-- What an upgrade reads and checks: the operation is external, is the same in the expected
and in the active snapshot, and its manifest is stored under the same name. -/
def planSchemaUpgrade (m : HarnessManifest) (expectedSnapshotId : String) (db : RegistryDb) :
    Except String SchemaUpgrade :=
  match db.registry.state with
  | none => .error "registry_state_not_found"
  | some s => do
    let expectedSnap ← loadSnapshotFromConn db.registry expectedSnapshotId
    let currentSnap ← loadSnapshotFromConn db.registry s.activeSnapshotId
    match expectedSnap.lookup m.operationName, currentSnap.lookup m.operationName with
    | none, _ => .error s!"expected_op_not_found:{m.operationName}"
    | some _, none => .error s!"current_op_not_found:{m.operationName}"
    | some oldExpected, some oldCurrent =>
      require (oldExpected = oldCurrent) s!"target_operation_changed:{m.operationName}"
      require (oldExpected.bindingKind = .external)
        s!"operation_upgrade_not_schema_only:non_external:{m.operationName}"
      match ← loadHarnessManifest db oldExpected.bindingKey with
      | none => .error s!"old_manifest_not_found:{oldExpected.bindingKey}"
      | some oldManifest =>
        require (oldManifest.operationName = m.operationName)
          s!"operation_upgrade_not_schema_only:name_changed:{m.operationName}"
        return {
          activeSnapshotId := s.activeSnapshotId
          oldManifestId := oldExpected.bindingKey
          newOperations := replaceOperation currentSnap.operations
            { name := m.operationName
              risk := oldExpected.risk
              description := m.description
              parameters := m.inputSchema
              idempotent := m.idempotent
              bindingKind := .external
              bindingKey := m.manifestId } }

def activateSchemaUpgradeAtomic (p : ProposalTerms) (principal decisionId : String)
    (m : HarnessManifest) (expectedAgent : AgentId) (stamps : ProposalStamps) (db : GovernanceDb) :
    Except String (String × GovernanceDb) := do
  let row ← checkProposalOpen db.proposals p.proposalId expectedAgent
    (fun _ => "target_agent_mismatch") stamps.now
  let plan ← planSchemaUpgrade m row.expectedActiveSnapshotId db.toRegistryDb
  let base ← (registerHarnessManifestReplaceTx m ⟨stamps.manifestRegistered, stamps.now⟩
    db.toRegistryDb).mapError ("manifest_registration_failed:" ++ ·)
  let (activation, registry) ← activateRegistryTx plan.newOperations plan.activeSnapshotId stamps.now
    base.registry
  let snapshotId := activation.newSnapshotId
  let db ← settleProposal p principal decisionId "schema_upgrade" snapshotId
    (.mkObj
      [("action", .str "schema_upgrade"), ("proposal_id", .str p.proposalId),
        ("operation_name", .str m.operationName), ("old_manifest_id", .str plan.oldManifestId),
        ("new_manifest_id", .str m.manifestId),
        ("previous_snapshot_id", .str plan.activeSnapshotId), ("new_snapshot_id", .str snapshotId),
        ("decision_id", .str decisionId)])
    (.mkObj
      [("proposal_id", .str p.proposalId), ("decided_by", .str principal),
        ("previous_snapshot_id", .str plan.activeSnapshotId), ("new_snapshot_id", .str snapshotId),
        ("operation_name", .str m.operationName), ("old_manifest_id", .str plan.oldManifestId),
        ("new_manifest_id", .str m.manifestId)])
    stamps { db with toRegistryDb := { base with registry } }
  return (snapshotId, db)

end

end AgentCore.Journal
