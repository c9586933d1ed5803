import AgentCore.Foundation.Sql
import AgentCore.Foundation.Traced
import AgentCore.Foundation.JsonText
import AgentCore.Domain.Platform

/-! The schema migrations of the journal database. A statement outside a transaction commits on
its own; a migration leaves the list of the states it committed, which are the states that a
crash can leave behind. Constraints are given for the tables that a migration inserts into. -/

namespace AgentCore.Journal.Migrations

open Foundation Foundation.Sql Domain

def CURRENT_SCHEMA_VERSION : Nat := 21

inductive TableName where
  | sessions | runs | journalEvents | ingressDedup
  | registrySnapshots | registrySnapshotOperations
  | harnessManifests | harnessManifestsV5 | registryState
  | capabilityChangeProposals
  | externalOperationGrants
  | harnessChangeRequests
  | hcrClaims | hcrRunBindings
  | hcrGateAttempts | hcrGateEvidence | hcrSettlements | hcrSettlementsV15
  | hcrReceiptIdentities
  | capabilityProposalHcrLinks | codingTaskSubmissions | codingTaskSubmissionsV20
  | capabilityChangeApprovals
  | componentRegistrySnapshots | componentRegistryEntries | componentRegistryState
  | componentDeploymentIntents | componentDeploymentReceipts
  | componentControlIntents | componentControlReceipts
  | capabilityProposalReceiptLinks | capabilityGovernanceApprovals
  | registrySnapshotHookBindings
  | sessionContinuations
  | workerJobs | outboxDispatches
deriving DecidableEq

abbrev Def := TableDef TableName

abbrev Db := Database TableName

abbrev Script := List (Statement TableName)

/-! ## Tables -/

section Checks

variable (r : Row)

def notNull (columns : List String) : Bool := columns.all fun c => decide (r c ≠ .null)

def allNull (columns : List String) : Bool := columns.all fun c => decide (r c = .null)

def lengthOf (c : String) : Nat :=
  match r c with
  | .text s => s.length
  | .integer n => (toString n).length
  | .null => 0

def isText (columns : List String) : Bool :=
  columns.all fun c =>
    match r c with
    | .integer _ => false
    | _ => true

def nonEmpty (columns : List String) : Bool := columns.all fun c => decide (0 < lengthOf r c)

def oneOf (c : String) (texts : List String) : Bool := texts.any fun s => decide (r c = .text s)

def isDigest (c : String) : Bool :=
  match r c with
  | .text s => decide (s.length = 71) && s.startsWith "sha256:" &&
      (s.toList.drop 7).all fun ch => ch.isDigit || decide ('a' ≤ ch ∧ ch ≤ 'f')
  | _ => false

def isBefore (c c' : String) : Bool :=
  match r c, r c' with
  | .text s, .text s' => decide (s < s')
  | _, _ => false

def decisionColumns : List String :=
  ["decision_id", "decision_payload_digest", "decision_result_json", "decided_at", "decided_by"]

def approvalShape (texts : List String → Bool) : Bool :=
  (oneOf r "status" ["Pending"] && allNull r decisionColumns &&
      allNull r ["activated_snapshot_id", "host_deployment_id", "activation_error"]) ||
    (oneOf r "status" ["Approved"] && notNull r decisionColumns &&
      texts ["decision_id", "decided_by", "activated_snapshot_id", "host_deployment_id"] &&
      notNull r ["activated_snapshot_id", "host_deployment_id"] &&
      allNull r ["activation_error"]) ||
    (oneOf r "status" ["Rejected"] && notNull r decisionColumns &&
      texts ["decision_id", "decided_by"] &&
      allNull r ["activated_snapshot_id", "host_deployment_id", "activation_error"]) ||
    (oneOf r "status" ["ActivationFailed"] && notNull r decisionColumns &&
      texts ["decision_id", "decided_by", "activation_error"] &&
      allNull r ["activated_snapshot_id"] && notNull r ["activation_error"]) ||
    (oneOf r "status" ["Expired"] &&
      allNull r ["decision_id", "decision_payload_digest", "decision_result_json"] &&
      notNull r ["decided_at", "decided_by"] && texts ["decided_by"] &&
      allNull r ["activated_snapshot_id", "host_deployment_id", "activation_error"])

end Checks

def sessions : Def where
  columns := ["id", "agent_id", "channel", "conversation_key", "summary",
    "summarized_until_event_id", "last_active_at", "status", "version"]

def runs : Def where
  columns := ["id", "session_id", "agent_id", "trigger_event_id", "principal_json",
    "parent_run_id", "delegated_by", "status", "created_at", "updated_at"]

def journalEvents : Def where
  columns := ["sequence", "event_id", "run_id", "session_id", "correlation_id", "kind",
    "payload_json", "previous_hash", "hash", "created_at"]

def ingressDedup : Def where
  columns := ["source", "external_event_id", "event_id", "first_seen_at"]
  keys := [⟨["source", "external_event_id"], fun _ => true⟩]
  check r := notNull r ["source", "external_event_id", "event_id", "first_seen_at"]

def registrySnapshots : Def where
  columns := ["snapshot_id", "created_at", "operation_count", "canonical_digest"]

def registrySnapshotOperations : Def where
  columns := ["snapshot_id", "operation_name", "risk", "description", "parameters_json",
    "idempotent", "binding_kind", "binding_key"]

def manifestColumns : List String :=
  ["manifest_id", "harness_id", "artifact_digest", "protocol_version", "endpoint",
    "operation_name", "description", "input_schema_json", "output_schema_json", "idempotent",
    "created_at", "canonical_digest"]

def harnessManifests : Def where
  columns := manifestColumns
  keys := [⟨["manifest_id"], fun _ => true⟩, ⟨["canonical_digest"], fun _ => true⟩,
    ⟨["operation_name"], fun _ => true⟩]
  check r := notNull r manifestColumns.tail

def harnessManifestsV5 : Def where
  columns := manifestColumns
  keys := [⟨["manifest_id"], fun _ => true⟩, ⟨["canonical_digest"], fun _ => true⟩]
  check r := notNull r manifestColumns.tail

def registryState : Def where
  columns := ["singleton_id", "active_snapshot_id", "version", "updated_at"]

def capabilityChangeProposals : Def where
  columns := ["proposal_id", "submitter_principal_id", "target_agent_id", "origin_session_id",
    "origin_run_id", "artifact_ref", "artifact_digest", "manifest_ref", "manifest_digest",
    "evidence_ref", "evidence_digest", "requested_operations_json", "risk_summary",
    "expected_active_snapshot_id", "status", "created_at", "expires_at", "decided_at",
    "decided_by", "decision_reason", "activated_snapshot_id", "activation_error"]

def externalOperationGrants : Def where
  columns := ["grant_id", "operation", "grantee_principal_id", "channel", "conversation_kind",
    "scope", "risk", "capability_id", "snapshot_id", "status", "created_at", "revoked_at",
    "created_by_principal_id", "decision_reference"]

def harnessChangeRequests : Def where
  columns := ["request_id", "source", "source_message_id", "session_id", "principal_id",
    "channel", "chat_type", "harness_id", "requirement", "status", "created_at", "updated_at",
    "run_id", "error_code"]

def hcrClaims : Def where
  columns := ["claim_id", "hcr_id", "harness_id", "worker_instance_id", "claimed_at", "status"]

def hcrRunBindings : Def where
  columns := ["binding_id", "hcr_id", "claim_id", "run_id", "created_at"]

def hcrGateAttempts : Def where
  columns := ["gate_attempt_id", "hcr_id", "claim_id", "run_id", "harness_id", "workspace_id",
    "gate_kind", "expected_operation", "expected_profile", "invocation_intent_id", "created_at"]

def hcrGateEvidence : Def where
  columns := ["evidence_id", "gate_attempt_id", "receipt_event_id", "receipt_payload_digest",
    "created_at"]

def settlementKeys : List Key :=
  [⟨["settlement_id"], fun _ => true⟩, ⟨["hcr_id"], fun _ => true⟩]

def settlementReferences : List (String × TableName × String) :=
  [("hcr_id", .harnessChangeRequests, "request_id"), ("claim_id", .hcrClaims, "claim_id"),
    ("run_id", .runs, "id")]

def settlementColumns : List String :=
  ["settlement_id", "hcr_id", "claim_id", "run_id", "result", "error_code",
    "evidence_set_digest", "created_at"]

def settlementNotNull (r : Row) : Bool :=
  notNull r ["settlement_id", "hcr_id", "claim_id", "run_id", "result", "evidence_set_digest",
    "created_at"]

def hcrSettlements : Def where
  columns := settlementColumns
  keys := settlementKeys
  check r := settlementNotNull r && oneOf r "result" ["succeeded", "candidate_failed"]
  references := settlementReferences

def hcrSettlementsV16 : Def where
  columns := ["settlement_id", "hcr_id", "claim_id", "run_id", "result", "error_code",
    "evidence_set_digest", "failure_evidence_event_id", "created_at"]
  keys := settlementKeys
  check r := settlementNotNull r &&
    oneOf r "result" ["succeeded", "candidate_failed", "infrastructure_failed"]
  references := settlementReferences

def hcrReceiptIdentities : Def where
  columns := ["hcr_id", "claim_id", "run_id", "idempotency_key", "payload_digest",
    "receipt_event_id", "harness_execution_id", "overall_outcome", "candidate_digest",
    "artifact_ref", "artifact_digest", "evidence_digest", "created_at"]

def capabilityProposalHcrLinks : Def where
  columns := ["proposal_id", "hcr_id", "claim_id", "run_id", "operation", "candidate_id",
    "candidate_digest", "artifact_ref", "artifact_digest", "evidence_digest",
    "source_registry_snapshot_id", "settlement_id", "created_at"]

def submissionColumns : List String :=
  ["source_message_id", "request_digest", "invocation_id", "origin_run_id", "origin_session_id",
    "status", "result_json", "error_code", "created_at", "updated_at"]

def submissionCheck (r : Row) : Bool :=
  isText r submissionColumns &&
    notNull r ["source_message_id", "request_digest", "invocation_id", "origin_run_id",
      "origin_session_id", "status", "created_at", "updated_at"] &&
    nonEmpty r ["source_message_id", "invocation_id", "origin_run_id", "origin_session_id"] &&
    decide (lengthOf r "request_digest" = 71)

def codingTaskSubmissions : Def where
  columns := submissionColumns
  keys := [⟨["source_message_id"], fun _ => true⟩, ⟨["invocation_id"], fun _ => true⟩]
  check r := submissionCheck r && oneOf r "status" ["running", "succeeded", "failed"]

def codingTaskSubmissionsV21 : Def where
  columns := ["attempt_id", "source_message_id", "attempt_sequence", "submission_call_key",
    "request_digest", "invocation_id", "origin_run_id", "origin_session_id", "status",
    "result_json", "error_code", "created_at", "updated_at"]
  keys := [⟨["attempt_id"], fun _ => true⟩, ⟨["submission_call_key"], fun _ => true⟩,
    ⟨["invocation_id"], fun _ => true⟩, ⟨["source_message_id", "attempt_sequence"], fun _ => true⟩]
  check r := submissionCheck r && isText r ["attempt_id", "submission_call_key"] &&
    notNull r ["attempt_id", "attempt_sequence", "submission_call_key"] &&
    nonEmpty r ["attempt_id", "submission_call_key"] &&
    (match r "attempt_sequence" with
      | .integer n => decide (0 < n)
      | _ => false) &&
    oneOf r "status" ["running", "succeeded", "definitively_rejected", "outcome_unknown"]

def approvalColumns : List String :=
  ["approval_id", "proposal_id", "owner_principal_id", "source_registry_snapshot_id",
    "candidate_digest", "artifact_digest", "manifest_digest", "decision_nonce", "status",
    "decision_id", "decision_payload_digest", "decision_result_json", "decided_at",
    "decided_by", "activated_snapshot_id", "host_deployment_id", "activation_error",
    "created_at", "expires_at"]

def approvalKeys : List Key :=
  [⟨["approval_id"], fun _ => true⟩, ⟨["proposal_id"], fun _ => true⟩,
    ⟨["decision_nonce"], fun _ => true⟩, ⟨["decision_id"], fun _ => true⟩]

def approvalCheck (r : Row) (digest : String → Bool) (texts : List String → Bool) : Bool :=
  isText r approvalColumns &&
    notNull r ["approval_id", "proposal_id", "owner_principal_id", "source_registry_snapshot_id",
      "decision_nonce", "status", "created_at", "expires_at"] &&
    nonEmpty r ["approval_id", "owner_principal_id", "source_registry_snapshot_id"] &&
    digest "candidate_digest" && digest "artifact_digest" && digest "manifest_digest" &&
    decide (32 ≤ lengthOf r "decision_nonce") && isBefore r "created_at" "expires_at" &&
    approvalShape r texts

def capabilityChangeApprovals : Def where
  columns := approvalColumns
  keys := approvalKeys
  check r := approvalCheck r (isDigest r) (nonEmpty r) &&
    (allNull r ["decision_payload_digest"] || isDigest r "decision_payload_digest")
  references := [("proposal_id", .capabilityChangeProposals, "proposal_id"),
    ("proposal_id", .capabilityProposalHcrLinks, "proposal_id")]

def capabilityGovernanceApprovals : Def where
  columns := approvalColumns
  keys := approvalKeys
  check r := approvalCheck r (fun c => decide (lengthOf r c = 71)) (fun _ => true)
  references := [("proposal_id", .capabilityChangeProposals, "proposal_id")]

def componentRegistrySnapshots : Def where
  columns := ["snapshot_id", "created_at", "component_count", "canonical_digest"]

def componentRegistryEntries : Def where
  columns := ["snapshot_id", "component_id", "kind", "manifest_id", "manifest_digest",
    "artifact_digest", "version", "endpoint", "deployment_id", "deployment_receipt_id", "status",
    "required_contracts_json", "requested_permissions_json"]

def componentRegistryState : Def where
  columns := ["singleton_id", "active_snapshot_id", "version", "updated_at"]

def componentDeploymentIntents : Def where
  columns := ["intent_id", "invocation_id", "proposal_id", "decision_id", "component_id",
    "manifest_digest", "artifact_digest", "expected_version", "payload_json", "created_at"]

def componentDeploymentReceipts : Def where
  columns := ["receipt_id", "deployment_id", "invocation_id", "proposal_id", "decision_id",
    "component_id", "manifest_digest", "artifact_digest", "version", "endpoint",
    "health_status", "log_ref", "payload_json", "created_at"]

def componentControlIntents : Def where
  columns := ["decision_id", "component_id", "action", "principal_id", "expected_snapshot_id",
    "expected_deployment_id", "status", "payload_json", "created_at"]

def componentControlReceipts : Def where
  columns := ["receipt_id", "decision_id", "component_id", "action", "target_snapshot_id",
    "payload_json", "created_at"]

def capabilityProposalReceiptLinks : Def where
  columns := ["proposal_id", "request_id", "request_digest", "acceptance_invocation_id",
    "issuer_principal_id", "operation", "candidate_id", "candidate_digest", "artifact_ref",
    "artifact_digest", "manifest_ref", "manifest_digest", "evidence_digest", "receipt_digest",
    "acceptance_outcome", "contract_catalog_version", "profile_id", "profile_catalog_version",
    "source_registry_snapshot_id", "origin_run_id", "origin_session_id", "created_at"]

def registrySnapshotHookBindings : Def where
  columns := ["snapshot_id", "contract", "hook_id", "hook_version", "binding_kind",
    "binding_key", "provider_id", "endpoint"]

def sessionContinuations : Def where
  columns := ["id", "idempotency_key", "session_id", "trigger_run_id", "event_id",
    "next_run_id", "created_at"]

def workerJobs : Def where
  columns := ["job_id", "job_type", "source_event_id", "session_id", "run_id", "status",
    "attempts", "available_at", "locked_by", "locked_until", "last_error", "created_at",
    "updated_at"]

def outboxDispatches : Def where
  columns := ["dispatch_id", "invocation_id", "run_id", "session_id", "operation",
    "arguments_json", "idempotency_key", "decision_id", "acked_unknown", "status", "attempts",
    "available_at", "locked_by", "locked_until", "last_error", "created_at", "updated_at"]

/-! ## Scripts -/

section Scripts

def ensureTable (n : TableName) (d : Def) : Statement TableName := .createTable true n d

def ensureIndex (index : String) (n : TableName) : Statement TableName :=
  .createIndex true index n none

def ensureTrigger (trigger : String) (n : TableName) : Statement TableName :=
  .createTrigger true trigger n

def project (columns : List String) (r : Row) : Row := fun c =>
  if c ∈ columns then r c else .null

def m0001Init : Script :=
  [ensureTable .sessions sessions,
    ensureTable .runs runs,
    ensureTable .journalEvents journalEvents,
    ensureTable .ingressDedup ingressDedup,
    ensureIndex "idx_runs_session_id" .runs,
    ensureIndex "idx_journal_run_id" .journalEvents,
    ensureIndex "idx_journal_session_id" .journalEvents,
    ensureIndex "idx_journal_correlation_id" .journalEvents,
    ensureIndex "idx_journal_kind" .journalEvents]

def m0002RegistrySnapshots : Script :=
  [ensureTable .registrySnapshots registrySnapshots,
    ensureTable .registrySnapshotOperations registrySnapshotOperations,
    .addColumn .runs "registry_snapshot_id" .null]

def m0003ExternalHarnessHotload : Script :=
  [ensureTable .harnessManifests harnessManifests,
    ensureTable .registryState registryState]

def m0004CapabilityChangeProposals : Script :=
  [ensureTable .capabilityChangeProposals capabilityChangeProposals,
    ensureIndex "idx_proposals_status" .capabilityChangeProposals,
    ensureIndex "idx_proposals_session" .capabilityChangeProposals]

def selectManifests (db : Db) : Except SqlError (List Row) := do
  let t ← db.find .harnessManifests
  return t.rows.map (project manifestColumns)

def m0005RemoveManifestOperationNameUnique : Script :=
  [ensureTable .harnessManifestsV5 harnessManifestsV5,
    .insert false .harnessManifestsV5 selectManifests,
    .dropTable .harnessManifests,
    .renameTable .harnessManifestsV5 .harnessManifests,
    ensureIndex "idx_harness_manifests_operation_name" .harnessManifests]

def activeGrantKey : Key where
  columns := ["operation", "grantee_principal_id", "channel", "conversation_kind", "scope",
    "snapshot_id"]
  condition r := decide (r "status" = .text "active")

def m0006ExternalOperationGrants : Script :=
  [ensureTable .externalOperationGrants externalOperationGrants,
    .createIndex true "idx_ext_op_grants_active_unique" .externalOperationGrants
      (some activeGrantKey),
    ensureIndex "idx_ext_op_grants_lookup" .externalOperationGrants,
    ensureIndex "idx_ext_op_grants_snapshot" .externalOperationGrants]

def m0007HarnessChangeRequests : Script :=
  [ensureTable .harnessChangeRequests harnessChangeRequests,
    .createIndex true "idx_hcr_source_dedup" .harnessChangeRequests
      (some ⟨["source", "source_message_id"], fun _ => true⟩),
    ensureIndex "idx_hcr_status" .harnessChangeRequests]

def m0008HcrClaims : Script :=
  [.addColumn .runs "mode" (.text "default"),
    ensureTable .hcrClaims hcrClaims,
    ensureTable .hcrRunBindings hcrRunBindings,
    ensureIndex "idx_hcr_claims_hcr_id" .hcrClaims,
    ensureIndex "idx_hcr_run_bindings_run_id" .hcrRunBindings]

def m0009HcrEvidence : Script :=
  [ensureTable .hcrGateAttempts hcrGateAttempts,
    ensureTable .hcrGateEvidence hcrGateEvidence,
    ensureTable .hcrSettlements hcrSettlements,
    ensureIndex "idx_hcr_attempts_lookup" .hcrGateAttempts,
    ensureIndex "idx_hcr_evidence_attempt" .hcrGateEvidence,
    ensureIndex "idx_hcr_settlements_hcr" .hcrSettlements,
    ensureTrigger "trg_attempt_hcr_exists" .hcrGateAttempts,
    ensureTrigger "trg_attempt_claim_exists" .hcrGateAttempts,
    ensureTrigger "trg_attempt_run_exists" .hcrGateAttempts,
    ensureTrigger "trg_evidence_attempt_exists" .hcrGateEvidence,
    ensureTrigger "trg_settlement_hcr_exists" .hcrSettlements,
    ensureTrigger "trg_settlement_claim_exists" .hcrSettlements,
    ensureTrigger "trg_settlement_run_exists" .hcrSettlements]

def m0010HcrReceiptIdentity : Script :=
  [ensureTable .hcrReceiptIdentities hcrReceiptIdentities,
    ensureIndex "idx_hcr_receipt_identity_key" .hcrReceiptIdentities]

def m0011CapabilityProposalHcrLinks : Script :=
  [ensureTable .capabilityProposalHcrLinks capabilityProposalHcrLinks,
    .addColumn .hcrReceiptIdentities "candidate_id" (.text ""),
    .addColumn .hcrReceiptIdentities "invocation_id" (.text ""),
    ensureTable .codingTaskSubmissions codingTaskSubmissions]

structure Draws where
  (approvalId nonce : Row → String)

def selectPendingApprovals (draws : Draws) (db : Db) : Except SqlError (List Row) := do
  let proposals ← db.find .capabilityChangeProposals
  let links ← db.find .capabilityProposalHcrLinks
  return proposals.rows.flatMap fun p =>
    (links.rows.filter fun l =>
      decide (p "status" = .text "PendingApproval" ∧ l "proposal_id" = p "proposal_id" ∧
        p "proposal_id" ≠ .null)).map fun l => fun c =>
        if c = "approval_id" then .text ("approval_" ++ draws.approvalId p)
        else if c = "proposal_id" then p "proposal_id"
        else if c = "owner_principal_id" then p "submitter_principal_id"
        else if c = "source_registry_snapshot_id" then l "source_registry_snapshot_id"
        else if c = "candidate_digest" then l "candidate_digest"
        else if c = "artifact_digest" then l "artifact_digest"
        else if c = "manifest_digest" then p "manifest_digest"
        else if c = "decision_nonce" then .text (draws.nonce p)
        else if c = "status" then .text "Pending"
        else if c = "created_at" then p "created_at"
        else if c = "expires_at" then p "expires_at"
        else .null

def m0012CapabilityChangeApprovals (draws : Draws) : Script :=
  [ensureTable .capabilityChangeApprovals capabilityChangeApprovals,
    ensureIndex "idx_capability_approvals_owner_status" .capabilityChangeApprovals,
    .insert true .capabilityChangeApprovals (selectPendingApprovals draws),
    ensureTrigger "capability_approval_binding_immutable" .capabilityChangeApprovals]

def m0013ComponentRegistry : Script :=
  [ensureTable .componentRegistrySnapshots componentRegistrySnapshots,
    ensureTable .componentRegistryEntries componentRegistryEntries,
    ensureTable .componentRegistryState componentRegistryState,
    ensureTable .componentDeploymentIntents componentDeploymentIntents,
    ensureTable .componentDeploymentReceipts componentDeploymentReceipts,
    ensureTable .componentControlIntents componentControlIntents,
    ensureTable .componentControlReceipts componentControlReceipts]

def m0014ExternalReceiptEnvelopeDigests : Script :=
  [.addColumn .hcrReceiptIdentities "receipt_digest" (.text ""),
    .addColumn .hcrReceiptIdentities "opaque_payload_digest" (.text "")]

def m0015DeliveryManifestColumns : Script :=
  [.addColumn .hcrReceiptIdentities "delivery_manifest_ref" (.text ""),
    .addColumn .hcrReceiptIdentities "delivery_manifest_digest" (.text "")]

def selectSettlements (db : Db) : Except SqlError (List Row) := do
  let t ← db.find .hcrSettlementsV15
  return t.rows.map (project settlementColumns)

/-- One transaction, with foreign keys switched off around it. -/
def m0016HcrFailureReconciliation : Script :=
  [.renameTable .hcrSettlements .hcrSettlementsV15,
    .createTable false .hcrSettlements hcrSettlementsV16,
    .insert false .hcrSettlements selectSettlements,
    .dropTable .hcrSettlementsV15,
    .createIndex false "idx_hcr_settlements_hcr" .hcrSettlements none,
    .createTrigger false "trg_settlement_hcr_exists" .hcrSettlements,
    .createTrigger false "trg_settlement_claim_exists" .hcrSettlements,
    .createTrigger false "trg_settlement_run_exists" .hcrSettlements]

def selectApprovals (db : Db) : Except SqlError (List Row) := do
  let t ← db.find .capabilityChangeApprovals
  return t.rows.map (project approvalColumns)

def m0017GenericAcceptanceReceipts : Script :=
  [ensureTable .capabilityProposalReceiptLinks capabilityProposalReceiptLinks,
    ensureTable .capabilityGovernanceApprovals capabilityGovernanceApprovals,
    .insert true .capabilityGovernanceApprovals selectApprovals,
    ensureIndex "idx_capability_governance_approvals_owner_status" .capabilityGovernanceApprovals,
    ensureTrigger "capability_proposal_receipt_link_immutable_update"
      .capabilityProposalReceiptLinks,
    ensureTrigger "capability_proposal_receipt_link_immutable_delete"
      .capabilityProposalReceiptLinks,
    ensureTrigger "capability_governance_approval_binding_immutable"
      .capabilityGovernanceApprovals]

def m0019RegistryHookBindings : Script :=
  [ensureTable .registrySnapshotHookBindings registrySnapshotHookBindings]

def m0020SessionContinuations : Script :=
  [ensureTable .sessionContinuations sessionContinuations,
    ensureIndex "idx_session_continuations_session" .sessionContinuations]

def legacyAttempt (r : Row) : Row := fun c =>
  if c = "attempt_id" then r "invocation_id"
  else if c = "attempt_sequence" then .integer 1
  else if c = "submission_call_key" then
    match r "invocation_id" with
    | .text s => .text ("legacy:" ++ s)
    | .integer n => .text ("legacy:" ++ toString n)
    | .null => .null
  else if c = "status" then
    if r "status" = .text "running" then .text "running"
    else if r "status" = .text "succeeded" then .text "succeeded"
    else .text "outcome_unknown"
  else if c = "error_code" then
    if r "status" = .text "failed" then
      if r "error_code" = .null then .text "LEGACY_OUTCOME_UNKNOWN" else r "error_code"
    else r "error_code"
  else if c ∈ submissionColumns then r c
  else .null

def selectSubmissions (db : Db) : Except SqlError (List Row) := do
  let t ← db.find .codingTaskSubmissionsV20
  return t.rows.map legacyAttempt

def m0021CodingSubmissionAttempts : Script :=
  [.renameTable .codingTaskSubmissions .codingTaskSubmissionsV20,
    .createTable false .codingTaskSubmissions codingTaskSubmissionsV21,
    .insert false .codingTaskSubmissions selectSubmissions,
    .dropTable .codingTaskSubmissionsV20,
    .createIndex false "idx_coding_task_submissions_message_sequence" .codingTaskSubmissions none]

def queueTables : Script :=
  [.createIndex true "idx_runs_trigger_event" .runs
      (some ⟨["trigger_event_id"], fun _ => true⟩),
    ensureTable .workerJobs workerJobs,
    ensureIndex "idx_worker_jobs_ready" .workerJobs,
    ensureIndex "idx_worker_jobs_source_event" .workerJobs,
    ensureTable .outboxDispatches outboxDispatches,
    ensureIndex "idx_outbox_ready" .outboxDispatches,
    ensureIndex "idx_outbox_run_id" .outboxDispatches]

end Scripts

/-! ## Migrating -/

inductive MigrateError where
  | newer (applied : Nat)
  | sql (e : SqlError)

/-- A program over the database; what it did is the list of the states it committed. -/
abbrev Migration := Traced MigrateError Db Db Unit

section Programs

def commit (tx : Db → Except SqlError Db) : Migration :=
  .commits (fun _ db => [db]) fun db => (tx db).mapError .sql |>.map ((), ·)

def runStatement (s : Statement TableName) : Migration := commit (exec true · s)

def executeBatch : Script → Migration
  | [] => .done ()
  | s :: rest => do
    runStatement s
    executeBatch rest

def runScript (foreignKeys : Bool) (db : Db) (script : Script) : Except SqlError Db :=
  script.foldlM (exec foreignKeys) db

def transaction (foreignKeys : Bool) (script : Script) : Migration :=
  commit (runScript foreignKeys · script)

def userVersion : Traced MigrateError Db Db Nat := .reads fun db => .ok db.version

def hasColumn (n : TableName) (column : String) : Traced MigrateError Db Db Bool :=
  .reads fun db => .ok ((db.table n).any fun t => decide (column ∈ t.columns))

def ensureColumn (n : TableName) (column : String) (value : Value) : Migration := do
  if ← hasColumn n column then return
  runStatement (.addColumn n column value)

def ensureBudgetColumns : Migration := do
  ensureColumn .runs "budget_hook_id" .null
  ensureColumn .runs "budget_max_tool_rounds" .null
  ensureColumn .runs "budget_max_wall_time_ms" .null
  ensureColumn .runs "budget_exhaustion_action" .null

def ensureRegistryHookBindingsTable : Migration := do
  let found ← (Traced.reads fun db =>
    .ok (db.table .registrySnapshotHookBindings).isSome : Traced MigrateError Db Db Bool)
  if found then return
  executeBatch m0019RegistryHookBindings

def queueMigrate : Migration := do
  executeBatch queueTables
  ensureColumn .outboxDispatches "decision_id" (.text "")
  ensureColumn .outboxDispatches "acked_unknown" (.integer 0)

def migrateV20ToV21 : Migration :=
  transaction true (m0021CodingSubmissionAttempts ++ [.setVersion 21])

variable [Platform]

def textOf : Value → Except SqlError String
  | .text s => .ok s
  | _ => .error .notText

def dedupEntry (eventId payloadJson createdAt : String) : Option Row := do
  let payload ← fromStr payloadJson
  if (payload.get "source").bind Json.asStr ≠ some "feishu" then none
  let messageId ← (payload.get "message_id").bind Json.asStr
  if messageId = "" then none
  some fun c =>
    if c = "source" then .text "feishu"
    else if c = "external_event_id" then .text ("message:" ++ messageId)
    else if c = "event_id" then .text eventId
    else if c = "first_seen_at" then .text createdAt
    else .null

def selectIngress (db : Db) : Except SqlError (List (Option Row)) := do
  let t ← db.find .journalEvents
  (t.rows.filter fun r => decide (r "kind" = .text "IngressAccepted")).mapM fun r => do
    return dedupEntry (← textOf (r "event_id")) (← textOf (r "payload_json"))
      (← textOf (r "created_at"))

def backfillRows : List (Option Row) → Migration
  | [] => .done ()
  | none :: rest => backfillRows rest
  | some r :: rest => do
    runStatement (.insert true .ingressDedup fun _ => .ok [r])
    backfillRows rest

def backfillFeishuMessageDedup : Migration := do
  let rows ← (Traced.reads fun db => (selectIngress db).mapError .sql :
    Traced MigrateError Db Db (List (Option Row)))
  backfillRows rows

variable (draws : Draws)

def migrateFresh : Migration := do
  executeBatch m0001Init
  executeBatch m0002RegistrySnapshots
  executeBatch m0003ExternalHarnessHotload
  executeBatch m0004CapabilityChangeProposals
  executeBatch m0005RemoveManifestOperationNameUnique
  executeBatch m0006ExternalOperationGrants
  executeBatch m0007HarnessChangeRequests
  executeBatch m0008HcrClaims
  executeBatch m0009HcrEvidence
  executeBatch m0010HcrReceiptIdentity
  executeBatch m0011CapabilityProposalHcrLinks
  executeBatch (m0012CapabilityChangeApprovals draws)
  executeBatch m0013ComponentRegistry
  executeBatch m0014ExternalReceiptEnvelopeDigests
  executeBatch m0015DeliveryManifestColumns
  transaction false m0016HcrFailureReconciliation
  executeBatch m0017GenericAcceptanceReceipts
  ensureBudgetColumns
  ensureRegistryHookBindingsTable
  queueMigrate
  backfillFeishuMessageDedup
  executeBatch m0020SessionContinuations
  migrateV20ToV21

def upgradeBody : Nat → Option Migration
  | 2 => some (executeBatch m0003ExternalHarnessHotload)
  | 3 => some (executeBatch m0004CapabilityChangeProposals)
  | 4 => some (executeBatch m0005RemoveManifestOperationNameUnique)
  | 5 => some (executeBatch m0006ExternalOperationGrants)
  | 6 => some (executeBatch m0007HarnessChangeRequests)
  | 7 => some (executeBatch m0008HcrClaims)
  | 8 => some (executeBatch m0009HcrEvidence)
  | 9 => some (executeBatch m0010HcrReceiptIdentity)
  | 10 => some (executeBatch m0011CapabilityProposalHcrLinks)
  | 11 => some (executeBatch (m0012CapabilityChangeApprovals draws))
  | 12 => some (executeBatch m0013ComponentRegistry)
  | 13 => some (executeBatch m0014ExternalReceiptEnvelopeDigests)
  | 14 => some (executeBatch m0015DeliveryManifestColumns)
  | 15 => some (transaction false m0016HcrFailureReconciliation)
  | 16 => some (executeBatch m0017GenericAcceptanceReceipts)
  | 17 => some ensureBudgetColumns
  | 18 => some ensureRegistryHookBindingsTable
  | 19 => some (executeBatch m0020SessionContinuations)
  | _ => none

/-- An arm of the loop; only the last one stamps its version in its own transaction. -/
def upgrade (current : Nat) : Option Migration :=
  if current = 20 then some migrateV20ToV21
  else (upgradeBody draws current).map fun body => do
    body
    runStatement (.setVersion (current + 1))

/-- The loop over the pending upgrades: each arm raises the version, so that one round for
each version is enough. -/
def upgradeLoop : Nat → Migration
  | 0 => .done ()
  | rounds + 1 => do
    let current ← userVersion
    if CURRENT_SCHEMA_VERSION ≤ current then return
    match upgrade draws current with
    | none => return
    | some arm =>
      arm
      upgradeLoop rounds

def migrate : Migration := do
  let applied ← userVersion
  if CURRENT_SCHEMA_VERSION < applied then Traced.stop (.newer applied)
  if applied = 0 then
    migrateFresh draws
  else if applied = 1 then
    executeBatch m0002RegistrySnapshots
    queueMigrate
    backfillFeishuMessageDedup
    runStatement (.setVersion 2)
  upgradeLoop draws CURRENT_SCHEMA_VERSION
  if 1 ≤ applied then
    queueMigrate
    backfillFeishuMessageDedup

end Programs

end AgentCore.Journal.Migrations
