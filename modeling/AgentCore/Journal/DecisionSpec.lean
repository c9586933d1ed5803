import AgentCore.Journal.TrustedActivation

/-! What a decision can write: either nothing, when it replays, or the decision columns of one
approval and its proposal, each only once. -/

namespace AgentCore.Journal

open Foundation Harness Registry Option
open Domain hiding OperationSpec RegistrySnapshot

/-! ## The ground of a binding -/

variable {db db' : GovernanceDb} {p : ProposalTerms} {d : ApprovalDecision → ApprovalDecision}

structure SameGround (db db' : GovernanceDb) : Prop where
  sessions : db'.sessions = db.sessions
  runs : db'.runs = db.runs
  evidence : db'.evidence = db.evidence

namespace SameGround

lemma refl (db : GovernanceDb) : SameGround db db := ⟨rfl, rfl, rfl⟩

lemma trans (h : SameGround db db') (h' : SameGround db' db'') : SameGround db db'' :=
  ⟨h'.sessions.trans h.sessions, h'.runs.trans h.runs, h'.evidence.trans h.evidence⟩

lemma checkBinding [Platform] (h : SameGround db db') (p : ProposalTerms) (l : ProposalLink)
    (a : ApprovalTerms) (i : TrustedDecisionIdentity) (agent : AgentId) :
    checkBinding db'.toDb db'.evidence p l a i agent =
      checkBinding db.toDb db.evidence p l a i agent := by
  have horigin : validateOrigin db'.toDb p a = validateOrigin db.toDb p a := by
    simp only [validateOrigin, h.sessions, h.runs]
  simp only [Journal.checkBinding, validateAuthoritativeReceipt, validateAuthoritativeHcr, horigin,
    h.evidence]

end SameGround

/-! ## Decided rows -/

def decideRow (approvalId : String) (d : ApprovalDecision → ApprovalDecision) (a : ApprovalRow) :
    ApprovalRow :=
  if a.approvalId = approvalId && a.status = .pending then
    { a with toApprovalDecision := d a.toApprovalDecision }
  else a

def decideProposalRow (proposalId : String) (q : ProposalDecision → ProposalDecision)
    (p : ProposalRow) : ProposalRow :=
  if p.proposalId = proposalId && p.status = .pendingApproval then
    { p with toProposalDecision := q p.toProposalDecision }
  else p

@[simp] lemma decideRow_terms (approvalId : String) (d : ApprovalDecision → ApprovalDecision)
    (a : ApprovalRow) : (decideRow approvalId d a).toApprovalTerms = a.toApprovalTerms := by
  unfold decideRow
  split <;> rfl

@[simp] lemma decideProposalRow_terms (proposalId : String)
    (q : ProposalDecision → ProposalDecision) (p : ProposalRow) :
    (decideProposalRow proposalId q p).toProposalTerms = p.toProposalTerms := by
  unfold decideProposalRow
  split <;> rfl

lemma decideRow_of_decided (h : a.status ≠ .pending) : decideRow approvalId d a = a := by
  simp [decideRow, h]

structure Decides (db db' : GovernanceDb) (approvalId proposalId : String)
    (d : ApprovalDecision → ApprovalDecision) (q : ProposalDecision → ProposalDecision) : Prop where
  ground : SameGround db db'
  approvals : db'.approvals.rows = db.approvals.rows.map (decideRow approvalId d)
  proposals : db'.proposals.rows = db.proposals.rows.map (decideProposalRow proposalId q)

lemma decideApproval_eq_ok (h : decideApproval approvalId d missing t = .ok t') :
    t'.rows = t.rows.map (decideRow approvalId d) := (SqlTable.updateOne_eq_ok.mp h).1

lemma decideProposal_eq_ok
    (h : decideProposal proposalId q missing t = .ok t') :
    t'.rows = t.rows.map (decideProposalRow proposalId q) := (SqlTable.updateOne_eq_ok.mp h).1

lemma persistTerminal_eq_ok (h : persistTerminal i result now db = .ok db') :
    ∃ approvals proposals, db' = { db with approvals, proposals } ∧
      approvals.rows = db.approvals.rows.map
        (decideRow i.approvalId fun _ => approvalDecision i result now) ∧
      proposals.rows = db.proposals.rows.map
        (decideProposalRow i.proposalId fun _ => proposalDecision i result now) := by
  obtain ⟨approvals, happrovals, h⟩ := bind_eq_ok.mp h
  obtain ⟨proposals, hproposals, h⟩ := bind_eq_ok.mp h
  exact ⟨approvals, proposals, (return_eq_ok.mp h).symm, decideApproval_eq_ok happrovals,
    decideProposal_eq_ok hproposals⟩

lemma loadBinding_eq_some : loadBinding db i = some b ↔
      findApproval db.approvals i.approvalId i.proposalId = some b.approval ∧
        findProposal db.proposals i.proposalId = some b.proposal ∧
        findLink db.evidence i.proposalId = some b.link := by
  simp only [loadBinding, bind_eq_bind, bind_eq_some_iff, pure_def,
    some.injEq]
  constructor
  · rintro ⟨approval, happroval, proposal, hproposal, link, hlink, rfl⟩
    exact ⟨happroval, hproposal, hlink⟩
  · rintro ⟨happroval, hproposal, hlink⟩
    exact ⟨_, happroval, _, hproposal, _, hlink, rfl⟩

section

variable [Platform]

def OnlyJournal (db db' : GovernanceDb) : Prop :=
  ∃ journal : JournalTable, db' = { db with journal }

omit [Platform] in
lemma OnlyJournal.trans (h : OnlyJournal db db')
    (h' : OnlyJournal db' db'') : OnlyJournal db db'' := by
  obtain ⟨journal, rfl⟩ := h
  obtain ⟨journal', rfl⟩ := h'
  exact ⟨journal', rfl⟩

lemma record_onlyJournal (h : db.record stamp kind p correlationId payload = .ok db') :
    OnlyJournal db db' := by
  obtain ⟨journal, rfl, -⟩ := GovernanceDb.record_eq_ok h
  exact ⟨journal, rfl⟩

lemma appendRefusalEvents_onlyJournal {stamps : DecisionStamps}
    (h : appendRefusalEvents stamps p i db r = .ok db') : OnlyJournal db db' := by
  cases r with
  | rejected => exact record_onlyJournal h
  | failed errorCode =>
    obtain ⟨db₁, happroved, h⟩ := bind_eq_ok.mp h
    exact (record_onlyJournal happroved).trans (record_onlyJournal h)

lemma appendApprovedEvents_onlyJournal
    (h : appendApprovedEvents stamps p i snapshotId deploymentId operation db = .ok db') :
    OnlyJournal db db' := by
  obtain ⟨db₁, h₁, h⟩ := bind_eq_ok.mp h
  obtain ⟨db₂, h₂, h⟩ := bind_eq_ok.mp h
  exact (record_onlyJournal h₁).trans ((record_onlyJournal h₂).trans (record_onlyJournal h))

lemma settleActivation_eq_ok
    (h : settleActivation i m p snapshotId deploymentId stamps db = .ok db') :
    db'.registry = db.registry ∧ Decides db db' i.approvalId i.proposalId
        (fun _ => approvalDecision i (activationResult i snapshotId deploymentId) stamps.now)
        (fun _ => proposalDecision i (activationResult i snapshotId deploymentId) stamps.now) := by
  obtain ⟨⟨grant, grants⟩, -, h⟩ := bind_eq_ok.mp h
  obtain ⟨db₁, hpersist, h⟩ := bind_eq_ok.mp h
  obtain ⟨db₂, hevents, hgrant⟩ := bind_eq_ok.mp h
  have honly : OnlyJournal db₂ db' := by
    split at hgrant
    · exact record_onlyJournal hgrant
    · obtain rfl := return_eq_ok.mp hgrant
      exact ⟨db₂.journal, rfl⟩
  obtain ⟨approvals, proposals, rfl, happrovals, hproposals⟩ := persistTerminal_eq_ok hpersist
  obtain ⟨journal, rfl⟩ := (appendApprovedEvents_onlyJournal hevents).trans honly
  exact ⟨rfl, ⟨rfl, rfl, rfl⟩, happrovals, hproposals⟩

lemma installCapability_eq_ok (h : installCapability i m target specs stamps db = .ok db') :
    ∃ journal manifests registry,
      db' = { db with journal, manifests := manifests, registry } ∧
      activateRegistryTx specs i.expectedSourceSnapshotId stamps.now db.registry =
        .ok (⟨i.expectedSourceSnapshotId, target⟩, registry) := by
  obtain ⟨base, hregister, h⟩ := bind_eq_ok.mp h
  obtain ⟨journal, manifests, rfl, -⟩ := registerHarnessManifestInTx_eq_ok (mapError_eq_ok.mp hregister)
  obtain ⟨⟨activation, registry⟩, hactivate, h⟩ := bind_eq_ok.mp h
  dsimp only at h
  split at h
  · cases h
  · rename_i hids
    simp only [Bool.or_eq_true, decide_eq_true_eq, not_or, not_not] at hids
    cases h
    obtain ⟨previous, new⟩ := activation
    obtain ⟨rfl, rfl⟩ := hids
    exact ⟨journal, manifests, registry, rfl, hactivate⟩

/-! ## The outcomes of a call -/

lemma loadValidatedBinding_eq_ok :
    loadValidatedBinding db i agent = .ok b ↔ loadBinding db i = some b ∧
      checkBinding db.toDb db.evidence b.proposal.toProposalTerms b.link b.approval.toApprovalTerms
        i agent = .ok () := by
  unfold loadValidatedBinding
  cases loadBinding db i with
  | none => simp
  | some b' =>
    simp only [bind_eq_ok, return_eq_ok, some.injEq]
    constructor
    · rintro ⟨u, hcheck, rfl⟩
      exact ⟨rfl, hcheck⟩
    · rintro ⟨rfl, hcheck⟩
      exact ⟨(), hcheck, rfl⟩

lemma finishWithoutActivation_eq_ok {stamps : DecisionStamps}
    (h : finishWithoutActivation i agent r stamps db = .ok (result, db')) :
    ∃ b, loadValidatedBinding db i agent = .ok b ∧ ((b.approval.status ≠ .pending ∧ db' = db ∧
          replayResult b.approval.toApprovalDecision i r.status = .ok result) ∨
        (b.approval.status = .pending ∧ validateDecidable b stamps.now = .ok () ∧
          result = refusalResult i r ∧ ∃ db₁, persistTerminal i result stamps.now db = .ok db₁ ∧
            appendRefusalEvents stamps b.proposal.toProposalTerms i db₁ r = .ok db')) := by
  obtain ⟨b, hload, h⟩ := bind_eq_ok.mp h
  refine ⟨b, hload, ?_⟩
  split at h
  · rename_i hdecided
    obtain ⟨replayed, hreplay, ⟨⟩⟩ := bind_eq_ok.mp h
    exact .inl ⟨hdecided, rfl, hreplay⟩
  · rename_i hpending
    obtain ⟨_, hdecidable, h⟩ := bind_eq_ok.mp h
    obtain ⟨db₁, hpersist, h⟩ := bind_eq_ok.mp h
    obtain ⟨db₂, hevents, ⟨⟩⟩ := bind_eq_ok.mp h
    exact .inr ⟨not_not.mp hpending, hdecidable, rfl, db₁, hpersist, hevents⟩

lemma activateTrustedCapabilityAtomic_eq_ok
    (h : activateTrustedCapabilityAtomic i m deployment agent stamps db = .ok (result, db')) :
    validateCapabilityManifest m i = .ok () ∧ trim deployment.deploymentId ≠ "" ∧
    ∃ b, loadValidatedBinding db i agent = .ok b ∧ ((b.approval.status ≠ .pending ∧ db' = db ∧
          replayResult b.approval.toApprovalDecision i .approved = .ok result ∧
          result.hostDeploymentId = some deployment.deploymentId ∧
          result.activatedSnapshotId = some deployment.targetSnapshotId) ∨
        (b.approval.status = .pending ∧ validateDecidable b stamps.now = .ok () ∧
          result = activationResult i deployment.targetSnapshotId deployment.deploymentId ∧
          ∃ specs db₁, capabilitySpecs db.registry i m = .ok specs ∧
            deployment.targetSnapshotId = prospectiveId db.registry i specs ∧
            installCapability i m deployment.targetSnapshotId specs stamps db = .ok db₁ ∧
            settleActivation i m b.proposal.toProposalTerms deployment.targetSnapshotId
              deployment.deploymentId stamps db₁ = .ok db')) := by
  obtain ⟨_, hmanifest, h⟩ := bind_eq_ok.mp h
  split at h
  · cases h
  · rename_i hid
    obtain ⟨b, hload, h⟩ := bind_eq_ok.mp h
    refine ⟨hmanifest, hid, b, hload, ?_⟩
    split at h
    · rename_i hdecided
      obtain ⟨replayed, hreplay, h⟩ := bind_eq_ok.mp h
      split at h
      · cases h
      · rename_i hsame
        simp only [Bool.or_eq_true, decide_eq_true_eq, not_or, not_not] at hsame
        cases h
        exact .inl ⟨hdecided, rfl, hreplay, hsame.1, hsame.2⟩
    · rename_i hpending
      obtain ⟨_, hdecidable, h⟩ := bind_eq_ok.mp h
      obtain ⟨specs, hspecs, h⟩ := bind_eq_ok.mp h
      split at h
      · cases h
      · rename_i htarget
        obtain ⟨db₁, hinstall, h⟩ := bind_eq_ok.mp h
        obtain ⟨db₂, hsettle, ⟨⟩⟩ := bind_eq_ok.mp h
        exact .inr ⟨not_not.mp hpending, hdecidable, rfl, specs, db₁, hspecs, not_not.mp htarget,
          hinstall, hsettle⟩

end

end AgentCore.Journal
