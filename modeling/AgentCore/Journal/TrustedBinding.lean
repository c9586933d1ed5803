import AgentCore.Journal.Governance

/-! The binding of an approval to its proposal and to the evidence behind it, revalidated at
every decision. -/

namespace AgentCore.Journal

open Foundation
open Domain hiding OperationSpec RegistrySnapshot

inductive ProposalLink
  | receipt (row : ReceiptLinkRow)
  | hcr (row : HcrLinkRow)

namespace ProposalLink

def operation : ProposalLink → String
  | receipt l => l.operation
  | hcr l => l.operation

def candidateDigest : ProposalLink → String
  | receipt l => l.candidateDigest
  | hcr l => l.candidateDigest

def artifactDigest : ProposalLink → String
  | receipt l => l.artifactDigest
  | hcr l => l.artifactDigest

def artifactRef : ProposalLink → String
  | receipt l => l.artifactRef
  | hcr l => l.artifactRef

def evidenceDigest : ProposalLink → String
  | receipt l => l.evidenceDigest
  | hcr l => l.evidenceDigest

def sourceRegistrySnapshotId : ProposalLink → String
  | receipt l => l.sourceRegistrySnapshotId
  | hcr l => l.sourceRegistrySnapshotId

end ProposalLink

structure Binding where
  proposal : ProposalRow
  link : ProposalLink
  approval : ApprovalRow

def findLink (evidence : Evidence) (proposalId : String) : Option ProposalLink :=
  match evidence.receiptLinks.find? fun l => l.proposalId = proposalId with
  | some l => some (.receipt l)
  | none => (evidence.hcrLinks.find? fun l => l.proposalId = proposalId).map .hcr

def findProposal (proposals : SqlTable proposalSchema) (proposalId : String) : Option ProposalRow :=
  proposals.rows.find? fun p => p.proposalId = proposalId

def findApproval (approvals : SqlTable approvalSchema) (approvalId proposalId : String) :
    Option ApprovalRow :=
  approvals.rows.find? fun a => a.approvalId = approvalId && a.proposalId = proposalId

def loadBinding (db : GovernanceDb) (identity : TrustedDecisionIdentity) : Option Binding := do
  let approval ← findApproval db.approvals identity.approvalId identity.proposalId
  let proposal ← findProposal db.proposals identity.proposalId
  let link ← findLink db.evidence identity.proposalId
  return ⟨proposal, link, approval⟩

/-! ## Digests of a receipt -/

section

variable [Platform]

inductive ExternalOutcome
  | passed
  | failed

def outcomeStr : ExternalOutcome → String
  | .passed => "Passed"
  | .failed => "Failed"

def SCHEMA_VERSION : String := "external-receipt-envelope-v1"

def TRUSTED_ACCEPTANCE_ISSUER : String := "harness:coding-harness-v0"

def digestFields (values : List String) : String :=
  "sha256:" ++ Platform.sha256Hex (String.join (values.map (· ++ "\n")))

def computeAcceptanceBindingDigest (requestDigest candidateDigest artifactDigest manifestDigest : String)
    (outcome : ExternalOutcome) (contractCatalogVersion profileId profileCatalogVersion : String) :
    String :=
  digestFields
    [requestDigest, candidateDigest, artifactDigest, manifestDigest, outcomeStr outcome,
      contractCatalogVersion, profileId, profileCatalogVersion]

def computeExternalReceiptDigest (schemaVersion invocationIntentId issuer subjectDigest : String)
    (outcome : ExternalOutcome) (evidenceDigest : String) (opaquePayloadDigest : Option String) :
    String :=
  digestFields
    [schemaVersion, invocationIntentId, issuer, subjectDigest, outcomeStr outcome, evidenceDigest,
      opaquePayloadDigest.getD ""]

/-! ## Checks -/

def parseDigests : List String → Except String Unit
  | [] => .ok ()
  | digest :: rest => do
    let _ ← Sha256Digest.parse digest
    parseDigests rest

def safeTargetName (value : String) : Bool :=
  !value.isEmpty && decide (value.utf8ByteSize ≤ 128) &&
    value.toList.all fun c => c.isLower || c.isDigit || ['.', '_', '-'].contains c

def readTexts (text : String) : Option (List String) :=
  match fromStr text with
  | some (.arr items) => items.mapM Json.asStr
  | _ => none

def validateIdentity (p : ProposalTerms) (l : ProposalLink) (a : ApprovalTerms)
    (i : TrustedDecisionIdentity) (agent : AgentId) : Except String Unit := do
  parseDigests [i.candidateDigest, i.artifactDigest, i.manifestDigest, i.payloadDigest]
  if trim i.decisionId = "" || trim i.principalId = "" || p.proposalId ≠ i.proposalId ||
      a.ownerPrincipalId ≠ i.principalId || p.submitterPrincipalId ≠ i.principalId ||
      p.targetAgentId ≠ agent || a.decisionNonce ≠ i.decisionNonce ||
      p.expectedActiveSnapshotId ≠ i.expectedSourceSnapshotId ||
      l.sourceRegistrySnapshotId ≠ i.expectedSourceSnapshotId ||
      a.sourceRegistrySnapshotId ≠ i.expectedSourceSnapshotId ||
      l.candidateDigest ≠ i.candidateDigest || a.candidateDigest ≠ i.candidateDigest ||
      p.artifactDigest ≠ i.artifactDigest || p.artifactRef ≠ i.artifactDigest ||
      l.artifactDigest ≠ i.artifactDigest || l.artifactRef ≠ i.artifactDigest ||
      a.artifactDigest ≠ i.artifactDigest || p.manifestDigest ≠ i.manifestDigest ||
      a.manifestDigest ≠ i.manifestDigest || p.evidenceDigest ≠ l.evidenceDigest ||
      p.expiresAt ≠ a.expiresAt then
    .error "TRUSTED_APPROVAL_BINDING_MISMATCH"
  else match readTexts p.requestedOperationsJson with
    | none => .error "invalid requested_operations_json"
    | some operations =>
      if operations ≠ [l.operation] || !safeTargetName l.operation then
        .error "TRUSTED_APPROVAL_OPERATION_MISMATCH"
      else .ok ()

def validateOrigin (base : Db) (p : ProposalTerms) (a : ApprovalTerms) : Except String Unit :=
  match base.sessions.find? p.originSessionId with
  | none => .error "PROPOSAL_ORIGIN_SESSION_NOT_FOUND"
  | some session =>
    if session.channel ≠ .feishu || session.conversationKey ≠ a.ownerPrincipalId then
      .error "PROPOSAL_REQUIRES_OWNER_PRIVATE_FEISHU_SESSION"
    else match base.runs.find? p.originRunId with
      | none => .error "PROPOSAL_ORIGIN_RUN_NOT_FOUND"
      | some run =>
        if run.sessionId ≠ p.originSessionId ||
            run.registrySnapshotId ≠ p.expectedActiveSnapshotId ||
            run.principal.principalId ≠ a.ownerPrincipalId then
          .error "PROPOSAL_ORIGIN_RUN_MISMATCH"
        else .ok ()

def validateAuthoritativeReceipt (base : Db) (p : ProposalTerms) (l : ReceiptLinkRow)
    (a : ApprovalTerms) : Except String Unit := do
  parseDigests [l.requestDigest, l.receiptDigest, l.candidateDigest, l.artifactDigest, l.evidenceDigest]
  let acceptanceBinding := computeAcceptanceBindingDigest l.requestDigest l.candidateDigest
    l.artifactDigest p.manifestDigest .passed l.contractCatalogVersion l.profileId
    l.profileCatalogVersion
  let expectedReceipt := computeExternalReceiptDigest SCHEMA_VERSION l.acceptanceInvocationId
    l.issuerPrincipalId l.artifactDigest .passed l.evidenceDigest (some acceptanceBinding)
  if l.acceptanceOutcome ≠ "passed" || l.issuerPrincipalId ≠ TRUSTED_ACCEPTANCE_ISSUER ||
      l.receiptDigest ≠ expectedReceipt || l.acceptanceInvocationId.isEmpty ||
      l.contractCatalogVersion.isEmpty || l.profileId.isEmpty || l.profileCatalogVersion.isEmpty ||
      l.originRunId ≠ p.originRunId then
    .error "TRUSTED_ACCEPTANCE_RECEIPT_MISMATCH"
  else validateOrigin base p a

def validateAuthoritativeHcr (base : Db) (evidence : Evidence) (p : ProposalTerms) (l : HcrLinkRow)
    (a : ApprovalTerms) : Except String Unit :=
  match evidence.changeRequests.find? fun r => r.requestId = l.hcrId with
  | none => .error "TRUSTED_HCR_NOT_FOUND"
  | some hcr =>
    if hcr.status ≠ .succeeded || hcr.sessionId ≠ p.originSessionId ||
        hcr.principalId ≠ a.ownerPrincipalId || hcr.channel ≠ "Feishu" || hcr.chatType ≠ "p2p" then
      .error "TRUSTED_HCR_ORIGIN_MISMATCH"
    else match evidence.settlements.find? fun s =>
        s.settlementId = l.settlementId && s.hcrId = l.hcrId with
      | none => .error "TRUSTED_SETTLEMENT_NOT_FOUND"
      | some settlement =>
        let attempts := evidence.gateAttempts.filter fun g =>
          g.hcrId = l.hcrId && g.claimId = l.claimId && g.runId = l.runId
        let pieces := attempts.flatMap fun g =>
          evidence.gateEvidence.filter fun attemptId => attemptId = g.gateAttemptId
        if settlement.claimId ≠ l.claimId || settlement.runId ≠ l.runId ||
            settlement.result ≠ .succeeded ||
            !(Sha256Digest.parse settlement.evidenceSetDigest).toBool then
          .error "TRUSTED_SETTLEMENT_MISMATCH"
        else if attempts.length ≠ 5 || pieces.length ≠ 5 then .error "TRUSTED_GATE_SET_INCOMPLETE"
        else validateOrigin base p a

def checkBinding (base : Db) (evidence : Evidence) (p : ProposalTerms) (l : ProposalLink)
    (a : ApprovalTerms) (i : TrustedDecisionIdentity) (agent : AgentId) : Except String Unit := do
  validateIdentity p l a i agent
  match l with
  | .receipt row => validateAuthoritativeReceipt base p row a
  | .hcr row => validateAuthoritativeHcr base evidence p row a

def loadValidatedBinding (db : GovernanceDb) (identity : TrustedDecisionIdentity)
    (expectedAgent : AgentId) : Except String Binding :=
  match loadBinding db identity with
  | none => .error "TRUSTED_APPROVAL_NOT_FOUND"
  | some b => do
    checkBinding db.toDb db.evidence b.proposal.toProposalTerms b.link b.approval.toApprovalTerms
      identity expectedAgent
    return b

end

end AgentCore.Journal
