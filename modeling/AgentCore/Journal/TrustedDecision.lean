import AgentCore.Journal.RegistryContent
import AgentCore.Journal.TrustedBinding

/-! The decision of a trusted approval: activation, rejection, a failed activation, expiry and
replay. Each is one transaction. -/

namespace AgentCore.Journal

open Foundation Harness Registry
open Domain hiding OperationSpec RegistrySnapshot

section

variable [Platform]

def GovernanceDb.record (db : GovernanceDb) (stamp : Stamp) (kind : JournalEventKind)
    (p : ProposalTerms) (correlationId : String) (payload : Json) : Except String GovernanceDb := do
  let (_, journal) ← appendEventTx stamp kind (some p.originRunId) (some p.originSessionId)
    (some correlationId) payload db.journal
  return { db with journal }

lemma GovernanceDb.record_eq_ok {db db' : GovernanceDb}
    (h : db.record stamp kind p correlationId payload = .ok db') :
    ∃ journal : JournalTable, db' = { db with journal } ∧
      journal.rows = db.journal.rows ++ [newRow db.journal stamp kind.storageName (some p.originRunId)
        (some p.originSessionId) (some correlationId) payload.toText] ∧
      stamp.eventId ∉ db.journal.rows.map JournalRow.eventId := by
  obtain ⟨⟨e, journal⟩, happ, h⟩ := bind_eq_ok.mp h
  obtain ⟨hrows, hfresh⟩ := appendEventTx_eq_ok happ
  exact ⟨journal, (return_eq_ok.mp h).symm, hrows, hfresh⟩

/-! ## Checks on the status -/

def validateDecidable (b : Binding) (now : Timestamp) : Except String Unit :=
  if b.approval.status ≠ .pending || b.proposal.status ≠ .pendingApproval then
    .error "APPROVAL_NOT_PENDING"
  else if b.approval.expiresAt ≤ now then .error "APPROVAL_EXPIRED"
  else .ok ()

def validatePending (db : GovernanceDb) (b : Binding) (i : TrustedDecisionIdentity)
    (now : Timestamp) : Except String Unit := do
  validateDecidable b now
  match db.registry.state with
  | none => .error "Query returned no rows"
  | some s =>
    if s.activeSnapshotId ≠ i.expectedSourceSnapshotId then .error "SOURCE_REGISTRY_SNAPSHOT_CHANGED"
    else .ok ()

def replayResult (d : ApprovalDecision) (i : TrustedDecisionIdentity)
    (expected : CapabilityApprovalStatus) : Except String TrustedDecisionResult :=
  if d.status ≠ expected || d.decisionId ≠ some i.decisionId ||
      d.decisionPayloadDigest ≠ some i.payloadDigest || d.decidedBy ≠ some i.principalId then
    .error "APPROVAL_DECISION_CONFLICT"
  else match d.decisionResultJson.bind fun text => (fromStr text).bind TrustedDecisionResult.ofJson with
    | none => .error "APPROVAL_REPLAY_RESULT_CORRUPT"
    | some result =>
      if result.decisionId ≠ i.decisionId || result.status ≠ expected ||
          result.activatedSnapshotId ≠ d.activatedSnapshotId ||
          result.hostDeploymentId ≠ d.hostDeploymentId ||
          result.activationError ≠ d.activationError then
        .error "APPROVAL_REPLAY_RESULT_CORRUPT"
      else .ok { result with replayed := true }

structure Replays (d : ApprovalDecision) (i : TrustedDecisionIdentity)
    (expected : CapabilityApprovalStatus) (result : TrustedDecisionResult) : Prop where
  status : d.status = expected
  decisionId : d.decisionId = some i.decisionId
  payloadDigest : d.decisionPayloadDigest = some i.payloadDigest
  decidedBy : d.decidedBy = some i.principalId
  stored : ∃ text stored, d.decisionResultJson = some text ∧
    (fromStr text).bind TrustedDecisionResult.ofJson = some stored ∧
    result = { stored with replayed := true }
  resultId : result.decisionId = i.decisionId
  resultStatus : result.status = expected
  snapshot : result.activatedSnapshotId = d.activatedSnapshotId
  deployment : result.hostDeploymentId = d.hostDeploymentId
  activationError : result.activationError = d.activationError

lemma replayResult_eq_ok :
    replayResult d i expected = .ok result ↔ Replays d i expected result := by
  unfold replayResult
  constructor
  · intro h
    split at h
    · cases h
    · rename_i hmatch
      split at h
      · cases h
      · rename_i stored hstored
        split at h
        · cases h
        · rename_i hcorrupt
          cases h
          simp only [Bool.or_eq_true, decide_eq_true_eq, not_or, not_not] at hmatch hcorrupt
          obtain ⟨⟨⟨hstatus, hid⟩, hpayload⟩, hby⟩ := hmatch
          obtain ⟨⟨⟨⟨hrid, hrstatus⟩, hsnapshot⟩, hdeployment⟩, herror⟩ := hcorrupt
          obtain ⟨text, htext, hread⟩ := Option.bind_eq_some_iff.mp hstored
          exact ⟨hstatus, hid, hpayload, hby, ⟨text, stored, htext, hread, rfl⟩, hrid, hrstatus,
            hsnapshot, hdeployment, herror⟩
  · rintro ⟨hstatus, hid, hpayload, hby, ⟨text, stored, htext, hread, rfl⟩, hrid, hrstatus,
      hsnapshot, hdeployment, herror⟩
    simp [hstatus, hid, hpayload, hby, htext, hread] at hrid hrstatus hsnapshot hdeployment herror ⊢
    simp [hrid, hrstatus, hsnapshot, hdeployment, herror]

/-! ## Writing the decision -/

def approvalDecision (i : TrustedDecisionIdentity) (result : TrustedDecisionResult) (now : Timestamp) :
    ApprovalDecision where
  status := result.status
  decisionId := some i.decisionId
  decisionPayloadDigest := some i.payloadDigest
  decisionResultJson := some result.toJson.toText
  decidedAt := some now
  decidedBy := some i.principalId
  activatedSnapshotId := result.activatedSnapshotId
  hostDeploymentId := result.hostDeploymentId
  activationError := result.activationError

def proposalDecision (i : TrustedDecisionIdentity) (result : TrustedDecisionResult) (now : Timestamp) :
    ProposalDecision where
  status := result.status.proposal
  decidedAt := some now
  decidedBy := some i.principalId
  decisionReason := some result.status.text
  activatedSnapshotId := result.activatedSnapshotId
  activationError := result.activationError

def decideApproval (approvalId : String) (d : ApprovalDecision → ApprovalDecision) (missing : String)
    (approvals : SqlTable approvalSchema) : Except String (SqlTable approvalSchema) :=
  approvals.updateOne (fun a => a.approvalId = approvalId && a.status = .pending)
    (fun a => { a with toApprovalDecision := d a.toApprovalDecision })
    "UNIQUE constraint failed: capability_governance_approvals.decision_id" missing

def decideProposal (proposalId : String) (d : ProposalDecision → ProposalDecision) (missing : String)
    (proposals : SqlTable proposalSchema) : Except String (SqlTable proposalSchema) :=
  proposals.updateOne (fun p => p.proposalId = proposalId && p.status = .pendingApproval)
    (fun p => { p with toProposalDecision := d p.toProposalDecision })
    "constraint failed: capability_change_proposals" missing

/-- The snapshot, deployment and error are those of the result, as every caller has it. -/
def persistTerminal (i : TrustedDecisionIdentity) (result : TrustedDecisionResult) (now : Timestamp)
    (db : GovernanceDb) : Except String GovernanceDb := do
  let approvals ← decideApproval i.approvalId (fun _ => approvalDecision i result now)
    "APPROVAL_NOT_PENDING" db.approvals
  let proposals ← decideProposal i.proposalId (fun _ => proposalDecision i result now)
    "PROPOSAL_NOT_PENDING" db.proposals
  return { db with approvals, proposals }

def appendApprovalEvent (stamp : Stamp) (p : ProposalTerms) (i : TrustedDecisionIdentity)
    (db : GovernanceDb) : Except String GovernanceDb :=
  db.record stamp .capabilityChangeApproved p i.proposalId
    (.mkObj
      [("proposal_id", .str i.proposalId), ("approval_id", .str i.approvalId),
        ("decision_id", .str i.decisionId), ("decided_by", .str i.principalId)])

/-! ## Decisions without an activation -/

structure DecisionStamps where
  now : Timestamp
  (approved outcome : EventId)

inductive Refusal
  | rejected
  | failed (errorCode : String)

def Refusal.status : Refusal → CapabilityApprovalStatus
  | .rejected => .rejected
  | .failed _ => .activationFailed

def Refusal.errorCode : Refusal → Option String
  | .rejected => none
  | .failed errorCode => some errorCode

def refusalResult (i : TrustedDecisionIdentity) (r : Refusal) : TrustedDecisionResult where
  decisionId := i.decisionId
  status := r.status
  activatedSnapshotId := none
  hostDeploymentId := none
  activationError := r.errorCode
  replayed := false

def appendRefusalEvents (stamps : DecisionStamps) (p : ProposalTerms) (i : TrustedDecisionIdentity)
    (db : GovernanceDb) : Refusal → Except String GovernanceDb
  | .rejected =>
    db.record ⟨stamps.outcome, stamps.now⟩ .capabilityChangeRejected p i.proposalId
      (.mkObj
        [("proposal_id", .str i.proposalId), ("decision_id", .str i.decisionId),
          ("decided_by", .str i.principalId)])
  | .failed errorCode => do
    let db ← appendApprovalEvent ⟨stamps.approved, stamps.now⟩ p i db
    db.record ⟨stamps.outcome, stamps.now⟩ .capabilityChangeActivationFailed p i.proposalId
      (.mkObj
        [("proposal_id", .str i.proposalId), ("decision_id", .str i.decisionId),
          ("decided_by", .str i.principalId), ("error_code", .str errorCode)])

def finishWithoutActivation (i : TrustedDecisionIdentity) (expectedAgent : AgentId) (r : Refusal)
    (stamps : DecisionStamps) (db : GovernanceDb) :
    Except String (TrustedDecisionResult × GovernanceDb) := do
  let b ← loadValidatedBinding db i expectedAgent
  if b.approval.status ≠ .pending then
    let result ← replayResult b.approval.toApprovalDecision i r.status
    return (result, db)
  else
    validateDecidable b stamps.now
    let db ← persistTerminal i (refusalResult i r) stamps.now db
    let db ← appendRefusalEvents stamps b.proposal.toProposalTerms i db r
    return (refusalResult i r, db)

def rejectTrustedCapabilityAtomic (i : TrustedDecisionIdentity) (expectedAgent : AgentId)
    (stamps : DecisionStamps) (db : GovernanceDb) :
    Except String (TrustedDecisionResult × GovernanceDb) :=
  finishWithoutActivation i expectedAgent .rejected stamps db

def validErrorCode (errorCode : String) : Bool :=
  !errorCode.isEmpty && decide (errorCode.utf8ByteSize ≤ 120) &&
    errorCode.toList.all fun c => c.isUpper || c.isDigit || c = '_'

def failTrustedActivationAtomic (i : TrustedDecisionIdentity) (errorCode : String)
    (expectedAgent : AgentId) (stamps : DecisionStamps) (db : GovernanceDb) :
    Except String (TrustedDecisionResult × GovernanceDb) :=
  if validErrorCode errorCode then
    finishWithoutActivation i expectedAgent (.failed errorCode) stamps db
  else .error "ACTIVATION_ERROR_CODE_INVALID"

/-! ## Expiry -/

def expiredApproval (now : Timestamp) (a : ApprovalDecision) : ApprovalDecision :=
  { a with
    status := .expired
    decidedAt := some now
    decidedBy := some "kernel_expiry" }

def expiredProposal (now : Timestamp) (p : ProposalDecision) : ProposalDecision :=
  { p with
    status := .expired
    decidedAt := some now
    decidedBy := some "kernel_expiry"
    decisionReason := some "approval_expired" }

def expireTrustedApproval (approvalId : String) (expectedAgent : AgentId) (stamp : Stamp)
    (db : GovernanceDb) : Except String (Bool × GovernanceDb) :=
  match db.approvals.rows.find? fun a => a.approvalId = approvalId with
  | none => .error "TRUSTED_APPROVAL_NOT_FOUND"
  | some approval =>
    match findProposal db.proposals approval.proposalId with
    | none => .error "TRUSTED_APPROVAL_NOT_FOUND"
    | some proposal =>
      if proposal.targetAgentId ≠ expectedAgent then .error "TRUSTED_APPROVAL_AGENT_MISMATCH"
      else if approval.status ≠ .pending || proposal.status ≠ .pendingApproval then .ok (false, db)
      else if stamp.createdAt < approval.expiresAt then .ok (false, db)
      else do
        let approvals ← decideApproval approvalId (expiredApproval stamp.createdAt)
          "APPROVAL_EXPIRY_CONFLICT" db.approvals
        let proposals ← decideProposal proposal.proposalId (expiredProposal stamp.createdAt)
          "APPROVAL_EXPIRY_CONFLICT" db.proposals
        let db ← { db with approvals := approvals, proposals := proposals }.record stamp
          .capabilityChangeExpired proposal.toProposalTerms proposal.proposalId
          (.mkObj
            [("proposal_id", .str proposal.proposalId), ("approval_id", .str approvalId),
              ("decided_by", .str "kernel_expiry"), ("reason", .str "approval_expired")])
        return (true, db)

/-! ## Replay -/

def replayTrustedCapabilityDecision (i : TrustedDecisionIdentity) (expectedAgent : AgentId)
    (expectedTerminal : CapabilityApprovalStatus) (db : GovernanceDb) :
    Except String (Option TrustedDecisionResult) :=
  match expectedTerminal with
  | .pending | .expired => .error "APPROVAL_REPLAY_TERMINAL_INVALID"
  | expected => do
    let b ← loadValidatedBinding db i expectedAgent
    if b.approval.status = .pending then return none
    else
      let result ← replayResult b.approval.toApprovalDecision i expected
      return some result

end

end AgentCore.Journal
