import AgentCore.Journal.CodingSubmissions
import AgentCore.Journal.HarnessOps

/-! Proposals, the approvals that guard them, and the decision of an approval. The terms of
a proposal or an approval never change; its decision is written once. -/

namespace AgentCore.Journal

open Foundation
open Domain hiding OperationSpec RegistrySnapshot

inductive CapabilityApprovalStatus
  | pending
  | approved
  | rejected
  | activationFailed
  | expired
deriving DecidableEq

namespace CapabilityApprovalStatus

def text : CapabilityApprovalStatus → String
  | pending => "Pending"
  | approved => "Approved"
  | rejected => "Rejected"
  | activationFailed => "ActivationFailed"
  | expired => "Expired"

def ofText (s : String) : Option CapabilityApprovalStatus :=
  [pending, approved, rejected, activationFailed, expired].find? fun status => status.text = s

lemma ofText_text (status : CapabilityApprovalStatus) : ofText status.text = some status := by
  cases status <;> decide

end CapabilityApprovalStatus

inductive ProposalStatus
  | pendingApproval
  | approved
  | rejected
  | activated
  | activationFailed
  | expired
deriving DecidableEq

def CapabilityApprovalStatus.proposal : CapabilityApprovalStatus → ProposalStatus
  | .pending => .pendingApproval
  | .approved => .activated
  | .rejected => .rejected
  | .activationFailed => .activationFailed
  | .expired => .expired

/-! ## Tables -/

structure ProposalTerms where
  proposalId : String
  submitterPrincipalId : PrincipalId
  targetAgentId : AgentId
  originSessionId : SessionId
  originRunId : RunId
  (artifactRef artifactDigest manifestRef manifestDigest evidenceDigest : String)
  (requestedOperationsJson expectedActiveSnapshotId : String)
  expiresAt : Timestamp

structure ProposalDecision where
  status : ProposalStatus
  decidedAt : Option Timestamp := none
  decidedBy : Option String := none
  decisionReason : Option String := none
  activatedSnapshotId : Option String := none
  activationError : Option String := none

structure ProposalRow extends ProposalTerms, ProposalDecision

def proposalSchema : Schema ProposalRow where
  uniques := [⟨fun r => some r.proposalId⟩]

structure ApprovalTerms where
  (approvalId proposalId : String)
  ownerPrincipalId : PrincipalId
  (sourceRegistrySnapshotId candidateDigest artifactDigest manifestDigest decisionNonce : String)
  (createdAt expiresAt : Timestamp)
deriving DecidableEq

structure ApprovalDecision where
  status : CapabilityApprovalStatus
  decisionId : Option String := none
  decisionPayloadDigest : Option String := none
  decisionResultJson : Option String := none
  decidedAt : Option Timestamp := none
  decidedBy : Option String := none
  activatedSnapshotId : Option String := none
  hostDeploymentId : Option String := none
  activationError : Option String := none
deriving DecidableEq

structure ApprovalRow extends ApprovalTerms, ApprovalDecision
deriving DecidableEq

def ApprovalTerms.check (t : ApprovalTerms) : Bool :=
  decide (0 < sqliteLength t.approvalId ∧ 0 < sqliteLength t.ownerPrincipalId ∧
    0 < sqliteLength t.sourceRegistrySnapshotId ∧ sqliteLength t.candidateDigest = 71 ∧
    sqliteLength t.artifactDigest = 71 ∧ sqliteLength t.manifestDigest = 71 ∧
    32 ≤ sqliteLength t.decisionNonce ∧ t.createdAt < t.expiresAt)

def ApprovalDecision.check (d : ApprovalDecision) : Bool :=
  let decided := d.decisionId.isSome && d.decisionPayloadDigest.isSome &&
    d.decisionResultJson.isSome && d.decidedAt.isSome && d.decidedBy.isSome
  let undecided := d.decisionId.isNone && d.decisionPayloadDigest.isNone &&
    d.decisionResultJson.isNone
  let noEffect := d.activatedSnapshotId.isNone && d.hostDeploymentId.isNone
  match d.status with
  | .pending =>
    undecided && d.decidedAt.isNone && d.decidedBy.isNone && noEffect && d.activationError.isNone
  | .approved =>
    decided && d.activatedSnapshotId.isSome && d.hostDeploymentId.isSome && d.activationError.isNone
  | .rejected => decided && noEffect && d.activationError.isNone
  | .activationFailed => decided && d.activatedSnapshotId.isNone && d.activationError.isSome
  | .expired =>
    undecided && d.decidedAt.isSome && d.decidedBy.isSome && noEffect && d.activationError.isNone

def approvalSchema : Schema ApprovalRow where
  uniques := [⟨fun r => some r.approvalId⟩, ⟨fun r => some r.proposalId⟩,
    ⟨fun r => some r.decisionNonce⟩, ⟨fun r => r.decisionId⟩]
  check r := r.toApprovalTerms.check && r.toApprovalDecision.check

structure ReceiptLinkRow where
  (proposalId requestDigest acceptanceInvocationId issuerPrincipalId operation : String)
  (candidateDigest artifactRef artifactDigest evidenceDigest receiptDigest : String)
  (acceptanceOutcome contractCatalogVersion profileId profileCatalogVersion : String)
  sourceRegistrySnapshotId : String
  originRunId : RunId

structure HcrLinkRow where
  (proposalId hcrId claimId : String)
  runId : RunId
  (operation candidateDigest artifactRef artifactDigest evidenceDigest : String)
  (sourceRegistrySnapshotId settlementId : String)

inductive HcrStatus
  | pending
  | running
  | succeeded
  | failed
  | cancelled
deriving DecidableEq

structure HarnessChangeRequestRow where
  requestId : String
  status : HcrStatus
  sessionId : SessionId
  principalId : PrincipalId
  (channel chatType : String)

inductive SettlementResult
  | succeeded
  | candidateFailed
deriving DecidableEq

structure SettlementRow where
  (settlementId hcrId claimId : String)
  runId : RunId
  result : SettlementResult
  evidenceSetDigest : String

structure GateAttemptRow where
  (gateAttemptId hcrId claimId : String)
  runId : RunId

/-- What a decision checks a proposal against. No decision writes it. -/
structure Evidence where
  receiptLinks : List ReceiptLinkRow := []
  hcrLinks : List HcrLinkRow := []
  changeRequests : List HarnessChangeRequestRow := []
  settlements : List SettlementRow := []
  gateAttempts : List GateAttemptRow := []
  /-- The attempt of each piece of evidence. -/
  gateEvidence : List String := []

structure GrantRow where
  (grantId operation : String)
  granteePrincipalId : PrincipalId
  (channel conversationKind scope risk : String)
  capabilityId : Option String
  snapshotId : String
  active : Bool
  createdAt : Timestamp
  createdByPrincipalId : Option PrincipalId
  decisionReference : Option String
deriving DecidableEq

def grantSchema : Schema GrantRow where
  uniques := [⟨fun r => some r.grantId⟩,
    ⟨fun r => if r.active then
      some (r.operation, r.granteePrincipalId, r.channel, r.conversationKind, r.scope, r.snapshotId)
      else none⟩]
  check r := decide (r.conversationKind ∈ ["p2p", "group", "cli"])

structure GovernanceDb extends RegistryDb where
  proposals : SqlTable proposalSchema := .empty
  approvals : SqlTable approvalSchema := .empty
  grants : SqlTable grantSchema := .empty
  evidence : Evidence := {}

/-! ## The identity of a decision -/

structure TrustedDecisionIdentity where
  (proposalId approvalId decisionNonce : String)
  principalId : PrincipalId
  (expectedSourceSnapshotId candidateDigest artifactDigest manifestDigest decisionId : String)
  payloadDigest : String
deriving DecidableEq

structure TrustedDecisionResult where
  decisionId : String
  status : CapabilityApprovalStatus
  (activatedSnapshotId hostDeploymentId activationError : Option String)
  replayed : Bool
deriving DecidableEq

namespace TrustedDecisionResult

def fields (r : TrustedDecisionResult) : List (String × Json) :=
  [("decision_id", .str r.decisionId), ("status", .str r.status.text),
    ("activated_snapshot_id", .ofOption r.activatedSnapshotId),
    ("host_deployment_id", .ofOption r.hostDeploymentId),
    ("activation_error", .ofOption r.activationError), ("replayed", .bool r.replayed)]

def toJson (r : TrustedDecisionResult) : Json := .mkObj r.fields

def optionalText (v : Json) (key : String) : Option (Option String) :=
  match v.get key with
  | none | some .null => some none
  | some (.str s) => some (some s)
  | some _ => none

def ofJson (v : Json) : Option TrustedDecisionResult := do
  let decisionId ← (← v.get "decision_id").asStr
  let status ← CapabilityApprovalStatus.ofText (← (← v.get "status").asStr)
  let activatedSnapshotId ← optionalText v "activated_snapshot_id"
  let hostDeploymentId ← optionalText v "host_deployment_id"
  let activationError ← optionalText v "activation_error"
  match ← v.get "replayed" with
  | .bool replayed =>
    some ⟨decisionId, status, activatedSnapshotId, hostDeploymentId, activationError, replayed⟩
  | _ => none

lemma optionalText_eq (h : v.get key = some (Json.ofOption o)) : optionalText v key = some o := by
  rw [optionalText, h]
  cases o <;> rfl

lemma ofJson_toText [Platform] (r : TrustedDecisionResult) :
    (fromStr r.toJson.toText).bind ofJson = some r := by
  obtain ⟨hwf, hnesting⟩ := Json.readable_mkObj_leaves Platform.readFloat r.fields
    (by simp [fields])
  have hget : ∀ f ∈ r.fields, r.toJson.get f.1 = some f.2 := fun f hf =>
    Json.get_mkObj_of_mem (by simp [fields]) hf
  simp only [fields, List.forall_mem_cons] at hget
  obtain ⟨hid, hstatus, hsnapshot, hdeployment, herror, hreplayed, -⟩ := hget
  rw [fromStr_toText (v := r.toJson) hwf (hnesting.trans (by omega)), Option.bind_some, ofJson, hid,
    hstatus, hreplayed, optionalText_eq hsnapshot, optionalText_eq hdeployment, optionalText_eq herror]
  simp [CapabilityApprovalStatus.ofText_text]

end TrustedDecisionResult

end AgentCore.Journal
