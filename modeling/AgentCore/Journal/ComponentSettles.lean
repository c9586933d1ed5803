import AgentCore.Journal.ComponentSpec

/-! When a decision and an activation go through: what the tables must hold for their writes. -/

namespace AgentCore.Journal

open Foundation Harness Registry List SqlTable
open Domain hiding OperationSpec RegistrySnapshot

/-! ## Deciding an approval -/

variable {db : GovernanceDb} {a : ApprovalRow} {i : TrustedDecisionIdentity} {agent : AgentId}
  {b : Binding} {now : Timestamp} {t : ComponentTables} {components : List RegisteredComponent}
  {receipt : DeploymentReceipt}

def DecisionUnused (decisionId : String) (db : GovernanceDb) : Prop :=
  ∀ a ∈ db.approvals.rows, a.decisionId ≠ some decisionId

lemma approval_check (ha : a ∈ db.approvals.rows) :
    a.toApprovalTerms.check = true ∧ a.toApprovalDecision.check = true := by
  simpa [approvalSchema] using db.approvals.keeps.1 a ha

lemma decisionId_of_pending (ha : a ∈ db.approvals.rows) (h : a.status = .pending) :
    a.decisionId = none := by
  have hcheck := (approval_check ha).2
  rw [ApprovalDecision.check, h] at hcheck
  simp only [Bool.and_eq_true, Option.isNone_iff_eq_none] at hcheck
  exact hcheck.1.1.1.1.1.1

lemma approval_apart {b : ApprovalRow} : approvalSchema.Apart a b ↔
    a.approvalId ≠ b.approvalId ∧ a.proposalId ≠ b.proposalId ∧ a.decisionNonce ≠ b.decisionNonce ∧
      (a.decisionId ≠ none → a.decisionId ≠ b.decisionId) := by
  simp [approvalSchema, Schema.Apart, Unique.Clash]

lemma decideRow_decisionId (approvalId : String) (d : ApprovalDecision) (a : ApprovalRow) :
    (decideRow approvalId (fun _ => d) a).decisionId = d.decisionId ∧ a.approvalId = approvalId ∨
      (decideRow approvalId (fun _ => d) a).decisionId = a.decisionId := by
  unfold decideRow
  split
  · rename_i h
    simp only [Bool.and_eq_true, decide_eq_true_eq] at h
    exact .inl ⟨rfl, h.1⟩
  · exact .inr rfl

lemma decideRow_keeps {approvalId decisionId : String} {d : ApprovalDecision}
    (hcheck : d.check = true) (hid : d.decisionId = some decisionId)
    (h : DecisionUnused decisionId db) :
    approvalSchema.Keeps (db.approvals.rows.map (decideRow approvalId fun _ => d)) := by
  constructor
  · intro r hr
    obtain ⟨a, ha, rfl⟩ := mem_map.mp hr
    have hterms := (approval_check ha).1
    unfold decideRow
    split
    · simp [approvalSchema, hterms, hcheck]
    · exact db.approvals.keeps.1 a ha
  · rw [pairwise_map]
    refine db.approvals.keeps.2.imp_of_mem fun {a b} ha hb hapart => ?_
    -- The terms are those of the rows before, so only the decision could clash.
    obtain ⟨happroval, hproposal, hnonce, hdecision⟩ := approval_apart.mp hapart
    refine approval_apart.mpr ⟨by simpa using happroval, by simpa using hproposal,
      by simpa using hnonce, ?_⟩
    rcases decideRow_decisionId approvalId d a with ⟨hda, hida⟩ | hda <;>
      rcases decideRow_decisionId approvalId d b with ⟨hdb, hidb⟩ | hdb
    · exact absurd (hida.trans hidb.symm) happroval
    · rw [hda, hdb, hid]
      exact fun _ => (h b hb).symm
    · rw [hda, hdb, hid]
      exact fun _ => h a ha
    · rw [hda, hdb]
      exact hdecision

lemma decideProposalRow_keeps {t : SqlTable proposalSchema} (proposalId : String)
    (q : ProposalDecision → ProposalDecision) :
    proposalSchema.Keeps (t.rows.map (decideProposalRow proposalId q)) := by
  refine ⟨fun _ _ => rfl, ?_⟩
  rw [pairwise_map]
  refine t.keeps.2.imp fun {a b} hapart => ?_
  have hids : a.proposalId ≠ b.proposalId := by
    simpa [proposalSchema, Schema.Apart, Unique.Clash] using hapart
  simpa [proposalSchema, Schema.Apart, Unique.Clash] using hids

lemma persistTerminal_journal {db' : GovernanceDb}
    (h : persistTerminal i result now db = .ok db') : db'.journal = db.journal := by
  obtain ⟨approvals, proposals, rfl, -, -⟩ := persistTerminal_eq_ok h
  rfl

section

variable [Platform] {m : ServiceManifest}

lemma persistTerminal_ok
    (hbinding : loadValidatedBinding db i agent = .ok b) (hpending : b.approval.status = .pending)
    (hproposal : b.proposal.status = .pendingApproval)
    (hcheck : (approvalDecision i result now).check = true) :
    (∃ db', persistTerminal i result now db = .ok db') ↔ DecisionUnused i.decisionId db := by
  obtain ⟨hmem, hid, hsubject⟩ := approval_of_binding hbinding
  have hfind := (loadBinding_eq_some.mp (loadValidatedBinding_eq_ok.mp hbinding).1).2.1
  have hpicked : db.approvals.count (fun a => a.approvalId = i.approvalId && a.status = .pending) = 1 := by
    refine count_eq_one (u := ⟨fun r => some r.approvalId⟩) (by simp [approvalSchema]) hmem
      (by simp [hid, hpending]) fun a _ ha => ?_
    simp only [Bool.and_eq_true, decide_eq_true_eq] at ha
    exact ⟨by simp, congrArg some (ha.1.trans hid.symm)⟩
  have hpicked' : db.proposals.count (fun p => p.proposalId = i.proposalId && p.status = .pendingApproval) = 1 := by
    have hpid : b.proposal.proposalId = i.proposalId := findProposal_id hfind
    refine count_eq_one (u := ⟨fun r => some r.proposalId⟩) (by simp [proposalSchema])
      (mem_of_find?_eq_some hfind) (by simp [hpid, hproposal]) fun p _ hp => ?_
    simp only [Bool.and_eq_true, decide_eq_true_eq] at hp
    exact ⟨by simp, congrArg some (hp.1.trans hpid.symm)⟩
  constructor
  · rintro ⟨db', hpersist⟩ a ha hdecision
    obtain ⟨approvals, proposals, -, hrows, -⟩ := persistTerminal_eq_ok hpersist
    -- The decided row and the one that carries the decision are two rows of the table.
    have hdecided : decideRow i.approvalId (fun _ => approvalDecision i result now) b.approval ∈
        approvals.rows := hrows ▸ mem_map_of_mem hmem
    have hnot : a.status ≠ .pending := fun hp => by
      rw [decisionId_of_pending ha hp] at hdecision
      cases hdecision
    have hother : a ∈ approvals.rows := by
      rw [hrows, ← @decideRow_of_decided (fun _ => approvalDecision i result now) i.approvalId a hnot]
      exact mem_map_of_mem ha
    have hsame : (decideRow i.approvalId (fun _ => approvalDecision i result now) b.approval).decisionId =
        a.decisionId := by
      rw [decideRow, if_pos (by simp [hid, hpending]), hdecision]
      rfl
    have hsome : (decideRow i.approvalId (fun _ => approvalDecision i result now) b.approval).decisionId ≠
        none := by
      rw [hsame, hdecision]
      simp
    have hrow := eq_of_clash (t := approvals) (u := ⟨fun r => r.decisionId⟩)
      (by simp [approvalSchema]) hdecided hother ⟨hsome, hsame⟩
    have hids : a.approvalId = b.approval.approvalId := by rw [← hrow, decideRow_terms]
    rw [approval_eq_of_id ha hmem hids] at hnot
    exact hnot hpending
  · intro hunused
    refine ⟨_, bind_eq_ok.mpr ⟨⟨_, decideRow_keeps hcheck rfl hunused⟩,
      updateOne_eq_ok.mpr ⟨rfl, hpicked⟩, bind_eq_ok.mpr
      ⟨⟨_, decideProposalRow_keeps i.proposalId fun _ => proposalDecision i result now⟩,
        updateOne_eq_ok.mpr ⟨rfl, hpicked'⟩, rfl⟩⟩⟩

lemma fail_ok {errorCode : String} {stamps : DecisionStamps}
    (hbinding : loadValidatedBinding db i agent = .ok b) (hpending : b.approval.status = .pending) :
    (∃ result db', finishWithoutActivation i agent (.failed errorCode) stamps db = .ok (result, db')) ↔
      validateDecidable b stamps.now = .ok () ∧ DecisionUnused i.decisionId db ∧
        Fresh [stamps.approved, stamps.outcome] db.journal := by
  have hevents (db₁ : GovernanceDb) :
      (∃ db', appendRefusalEvents stamps b.proposal.toProposalTerms i db₁ (.failed errorCode) = .ok db') ↔
        Fresh [stamps.approved, stamps.outcome] db₁.journal :=
    record_bind_ok fun _ _ => record_ok
  have hpersists (hproposal : b.proposal.status = .pendingApproval) :
      (∃ db', persistTerminal i (refusalResult i (.failed errorCode)) stamps.now db = .ok db') ↔
        DecisionUnused i.decisionId db := persistTerminal_ok hbinding hpending hproposal rfl
  constructor
  · rintro ⟨result, db', h⟩
    obtain ⟨b', hload, hcase⟩ := finishWithoutActivation_eq_ok h
    cases hbinding.symm.trans hload
    rcases hcase with ⟨hdecided, -⟩ | ⟨-, hdecidable, rfl, db₁, hpersist, happend⟩
    · exact absurd hpending hdecided
    · obtain ⟨-, hproposal, -⟩ := validateDecidable_eq_ok.mp hdecidable
      refine ⟨hdecidable, (hpersists hproposal).mp ⟨db₁, hpersist⟩, ?_⟩
      rw [← persistTerminal_journal hpersist]
      exact (hevents db₁).mp ⟨db', happend⟩
  · rintro ⟨hdecidable, hunused, hfresh⟩
    obtain ⟨-, hproposal, -⟩ := validateDecidable_eq_ok.mp hdecidable
    obtain ⟨db₁, hpersist⟩ := (hpersists hproposal).mpr hunused
    obtain ⟨db', happend⟩ := (hevents db₁).mpr (persistTerminal_journal hpersist ▸ hfresh)
    refine ⟨refusalResult i (.failed errorCode), db', bind_eq_ok.mpr ⟨b, hbinding, ?_⟩⟩
    rw [if_neg (not_not.mpr hpending)]
    exact check_bind_eq_ok.mpr ⟨hdecidable, bind_eq_ok.mpr ⟨db₁, hpersist, bind_eq_ok.mpr
      ⟨db', happend, rfl⟩⟩⟩

/-! ## Storing a snapshot of components -/

namespace ComponentTables

omit [Platform] in
lemma insertSnapshot_ok {t : ComponentTables} {header : ComponentSnapshotRow}
    {components : List RegisteredComponent} (hnew : header.snapshotId ∉ t.ids)
    (hids : (components.map RegisteredComponent.componentId).Nodup) :
    ∃ t', t.insertSnapshot header components = .ok t' ∧ t'.state = t.state ∧
      header.snapshotId ∈ t'.ids := by
  obtain ⟨snapshots, hs⟩ : ∃ snapshots, t.snapshots.insert header = some snapshots := by
    refine insert_of_apart rfl fun row hrow => ?_
    have hne : row.snapshotId ≠ header.snapshotId := fun heq =>
      hnew (heq ▸ mem_map_of_mem hrow)
    simpa [componentSnapshotSchema, Schema.Apart, Unique.Clash] using hne
  -- No entry is stored under the identifier of a snapshot that is not there.
  obtain ⟨entries, he⟩ : ∃ entries,
      t.entries.insertAll (components.map (ComponentEntryRow.mk header.snapshotId)) = some entries := by
    refine insertAll_of_keeps (t.entries.keeps.append ⟨fun _ _ => rfl, ?_⟩ ?_)
    · rw [pairwise_map]
      refine (pairwise_map.mp hids).imp fun hne => ?_
      simpa [componentEntrySchema, Schema.Apart, Unique.Clash] using hne
    · intro row hrow entry hentry
      obtain ⟨c, -, rfl⟩ := mem_map.mp hentry
      have hne : row.snapshotId ≠ header.snapshotId := fun heq =>
        hnew (heq ▸ t.entries_fk row hrow)
      simp [componentEntrySchema, Schema.Apart, Unique.Clash, hne]
  unfold insertSnapshot
  split
  · rename_i hnone
    rw [hs] at hnone
    cases hnone
  · split
    · rename_i hnone
      rw [he] at hnone
      cases hnone
    · rename_i hs' _ _
      exact ⟨_, rfl, rfl, (mem_ids_of_insert hs').mpr (.inr rfl)⟩

omit [Platform] in
lemma nodup_entriesOf (t : ComponentTables) (snapshotId : String) :
    ((t.entriesOf snapshotId).map RegisteredComponent.componentId).Nodup := by
  have hperm := (perm_sortBy RegisteredComponent.componentId
    ((t.entries.rows.filter fun r => r.snapshotId = snapshotId).map ComponentEntryRow.component)).map
      RegisteredComponent.componentId
  rw [entriesOf, hperm.nodup_iff, map_map]
  refine pairwise_map.mpr ((t.entries.keeps.2.filter _).imp_of_mem fun {a b} ha hb hapart => ?_)
  have hsa := of_decide_eq_true (mem_filter.mp ha).2
  have hsb := of_decide_eq_true (mem_filter.mp hb).2
  simpa [componentEntrySchema, Schema.Apart, Unique.Clash, hsa, hsb] using hapart

lemma persistSnapshot_ok (hids : (components.map RegisteredComponent.componentId).Nodup) :
    (∃ target t', t.persistSnapshot components now = .ok (target, t')) ↔
      (computeComponentSnapshotId components ∈ t.ids →
        ∃ snapshot, t.loadSnapshot (computeComponentSnapshotId components) = .ok snapshot) := by
  unfold persistSnapshot
  dsimp only
  by_cases hmem : computeComponentSnapshotId components ∈ t.ids
  · simp only [hmem, true_imp_iff]
    constructor
    · rintro ⟨target, t', h⟩
      obtain ⟨snapshot, hload, -⟩ := bind_eq_ok.mp h
      exact ⟨snapshot, hload⟩
    · rintro ⟨snapshot, hload⟩
      exact ⟨_, _, bind_eq_ok.mpr ⟨snapshot, hload, rfl⟩⟩
  · simp only [if_neg hmem]
    refine iff_of_true ?_ fun hthere => absurd hthere hmem
    have hsorted : ((sortBy RegisteredComponent.componentId components).map
        RegisteredComponent.componentId).Nodup :=
      (((perm_sortBy RegisteredComponent.componentId components).map _).nodup_iff).mpr hids
    obtain ⟨t', hinsert, -, -⟩ :=
      @insertSnapshot_ok t ⟨computeComponentSnapshotId components, now⟩ _ hmem hsorted
    exact ⟨_, t', bind_eq_ok.mpr ⟨t', hinsert, rfl⟩⟩

variable {t' : ComponentTables}

omit [Platform] in
lemma insertSnapshot_eq_ok {header : ComponentSnapshotRow}
    (h : t.insertSnapshot header components = .ok t') :
    t'.state = t.state ∧ header.snapshotId ∈ t'.ids := by
  unfold insertSnapshot at h
  split at h
  · cases h
  · rename_i hs
    split at h
    · cases h
    · cases h
      exact ⟨rfl, (mem_ids_of_insert hs).mpr (.inr rfl)⟩

lemma persistSnapshot_eq_ok {target : String}
    (h : t.persistSnapshot components now = .ok (target, t')) :
    target = computeComponentSnapshotId components ∧ t'.state = t.state ∧ target ∈ t'.ids := by
  unfold persistSnapshot at h
  dsimp only at h
  split at h
  · rename_i hmem
    obtain ⟨snapshot, -, ⟨⟩⟩ := bind_eq_ok.mp h
    exact ⟨rfl, rfl, hmem⟩
  · obtain ⟨t₁, hinsert, ⟨⟩⟩ := bind_eq_ok.mp h
    obtain ⟨hstate, hmem⟩ := insertSnapshot_eq_ok hinsert
    exact ⟨rfl, hstate, hmem⟩

variable {source : ComponentRegistrySnapshot} {s : ComponentRegistryState}

lemma active_eq_ok (h : t.active = .ok (s, source)) :
    t.state = some s ∧ source.components = t.entriesOf s.activeSnapshotId := by
  unfold active at h
  split at h
  · cases h
  · rename_i s' hstate
    obtain ⟨snapshot, hload, ⟨⟩⟩ := bind_eq_ok.mp h
    unfold loadSnapshot at hload
    split at hload
    · cases hload
    · obtain ⟨-, ⟨⟩⟩ := check_bind_eq_ok.mp hload
      exact ⟨hstate, rfl⟩

end ComponentTables

omit [Platform] in
lemma nodup_replaceComponent {componentId : String} {c : RegisteredComponent}
    (hc : c.componentId = componentId)
    (h : (components.map RegisteredComponent.componentId).Nodup) :
    ((replaceComponent components componentId c).map RegisteredComponent.componentId).Nodup := by
  rw [replaceComponent, map_append, map_singleton, nodup_append]
  refine ⟨h.sublist (filter_sublist.map _), nodup_singleton _, fun a ha b hb heq => ?_⟩
  obtain ⟨current, hcurrent, rfl⟩ := mem_map.mp ha
  rw [mem_singleton.mp hb, hc] at heq
  exact of_decide_eq_true (mem_filter.mp hcurrent).2 heq

/-! ## Activating a service -/

def ReceiptUnused (receipt : DeploymentReceipt) (db : ComponentDb) : Prop :=
  ∀ r ∈ db.deploymentReceipts.rows, r.receiptId ≠ receipt.receiptId ∧
    r.deploymentId ≠ receipt.deploymentId ∧ r.invocationId ≠ receipt.invocationId

def deployedSnapshotId (i : TrustedDecisionIdentity) (m : ServiceManifest) (receipt : DeploymentReceipt)
    (source : ComponentRegistrySnapshot) : String :=
  computeComponentSnapshotId
    (replaceComponent source.components m.componentId (deployedComponent i m receipt))

omit [Platform] in
lemma receipt_insert_ok {db : ComponentDb} : (∃ receipts : SqlTable deploymentReceiptSchema,
      receipts.rows = db.deploymentReceipts.rows ++ [receipt]) ↔ ReceiptUnused receipt db := by
  have hapart (r : DeploymentReceipt) : deploymentReceiptSchema.Apart r receipt ↔
      r.receiptId ≠ receipt.receiptId ∧ r.deploymentId ≠ receipt.deploymentId ∧
        r.invocationId ≠ receipt.invocationId := by
    simp [deploymentReceiptSchema, Schema.Apart, Unique.Clash]
  constructor
  · rintro ⟨receipts, hrows⟩ r hr
    have hpairs := receipts.keeps.2
    rw [hrows] at hpairs
    exact (hapart r).mp ((pairwise_append.mp hpairs).2.2 r hr receipt mem_cons_self)
  · intro h
    obtain ⟨receipts, hinsert⟩ := insert_of_apart (t := db.deploymentReceipts) (r := receipt)
      rfl fun r hr => (hapart r).mpr (h r hr)
    exact ⟨receipts, insert_eq_some.mp hinsert⟩

lemma installComponent_ok {db : ComponentDb} (hactive : db.components.active = .ok (s, source)) :
    (∃ target db', installComponent i m receipt s source now db = .ok (target, db')) ↔
      ReceiptUnused receipt db ∧ (deployedSnapshotId i m receipt source ∈ db.components.ids →
        ∃ snapshot, db.components.loadSnapshot (deployedSnapshotId i m receipt source) = .ok snapshot) := by
  obtain ⟨hstate, hcomponents⟩ := ComponentTables.active_eq_ok hactive
  have hnodup : ((replaceComponent source.components m.componentId (deployedComponent i m receipt)).map
      RegisteredComponent.componentId).Nodup := by
    refine nodup_replaceComponent rfl ?_
    rw [hcomponents]
    exact db.components.nodup_entriesOf s.activeSnapshotId
  rw [← receipt_insert_ok]
  constructor
  · rintro ⟨target, db', h⟩
    obtain ⟨receipts, components, tables, hrows, hpersist, -⟩ := installComponent_eq_ok.mp h
    exact ⟨⟨receipts, hrows⟩, (ComponentTables.persistSnapshot_ok hnodup).mp ⟨_, _, hpersist⟩⟩
  · rintro ⟨⟨receipts, hrows⟩, hloads⟩
    obtain ⟨target, components, hpersist⟩ : ∃ target components, db.components.persistSnapshot
        (replaceComponent source.components m.componentId (deployedComponent i m receipt)) now =
        .ok (target, components) := (ComponentTables.persistSnapshot_ok hnodup).mpr hloads
    obtain ⟨-, hkept, hmem⟩ := ComponentTables.persistSnapshot_eq_ok hpersist
    have hset : components.setState ⟨target, s.version + 1⟩ = .ok _ := dif_pos hmem
    exact ⟨target, _, installComponent_eq_ok.mpr ⟨receipts, components, _, hrows, hpersist,
      hkept.trans hstate, hset, rfl⟩⟩

structure ServiceActivates (i : TrustedDecisionIdentity) (intent : DeploymentIntent)
    (m : ServiceManifest) (receipt : DeploymentReceipt) (agent : AgentId) (stamps : ServiceStamps)
    (db : ComponentDb) (b : Binding) (s : ComponentRegistryState) (source : ComponentRegistrySnapshot) :
    Prop where
  guards : ServiceGuards i intent m receipt agent db b
  follows : ServiceFollows i intent m receipt stamps.now db b s source
  receipt_unused : ReceiptUnused receipt db
  target_loads : deployedSnapshotId i m receipt source ∈ db.components.ids →
    ∃ snapshot, db.components.loadSnapshot (deployedSnapshotId i m receipt source) = .ok snapshot
  decision_unused : DecisionUnused i.decisionId db.toGovernanceDb
  events_fresh : Fresh [stamps.approved, stamps.receiptRecorded, stamps.registered,
    stamps.changeActivated] db.journal

lemma activateTrustedServiceAtomic_ok {db : ComponentDb}
    (hbinding : loadValidatedBinding db.toGovernanceDb i agent = .ok b)
    (hpending : b.approval.status = .pending) :
    (∃ result db', activateTrustedServiceAtomic i intent m receipt agent stamps db = .ok (result, db')) ↔
      ∃ s source, ServiceActivates i intent m receipt agent stamps db b s source := by
  have hevents (source target : String) (db₁ : GovernanceDb) :
      (∃ db', appendActivationEvents stamps b.proposal.toProposalTerms i intent m receipt source target
        db₁ = .ok db') ↔ Fresh [stamps.approved, stamps.receiptRecorded, stamps.registered,
          stamps.changeActivated] db₁.journal :=
    record_bind_ok fun _ _ => record_bind_ok fun _ _ => record_bind_ok fun _ _ => record_ok
  have hpersists (db₁ : ComponentDb) (target : String)
      (hbinding : loadValidatedBinding db₁.toGovernanceDb i agent = .ok b)
      (hproposal : b.proposal.status = .pendingApproval) :
      (∃ db', persistTerminal i (activationResult i target receipt.deploymentId) stamps.now
        db₁.toGovernanceDb = .ok db') ↔ DecisionUnused i.decisionId db₁.toGovernanceDb :=
    persistTerminal_ok hbinding hpending hproposal rfl
  constructor
  · rintro ⟨result, db', h⟩
    obtain ⟨b', hguards, hcase⟩ := activateTrustedServiceAtomic_eq_ok.mp h
    cases hbinding.symm.trans hguards.binding
    rcases hcase with ⟨hdecided, -⟩ | ⟨-, s, source, hfollows, target, db₁, decided, recorded,
      hinstall, rfl, hpersist, happend, rfl⟩
    · exact absurd hpending hdecided
    · obtain ⟨-, hproposal, -⟩ :=
        validateDecidable_eq_ok.mp (validatePending_eq_ok.mp hfollows.pending).1
      obtain ⟨hreceipt, hloads⟩ := (installComponent_ok hfollows.active).mp ⟨target, db₁, hinstall⟩
      obtain ⟨receipts, -, tables, -, -, -, -, rfl⟩ := installComponent_eq_ok.mp hinstall
      refine ⟨s, source, hguards, hfollows, hreceipt, hloads,
        (hpersists _ target hbinding hproposal).mp ⟨decided, hpersist⟩, ?_⟩
      have hfresh := (hevents s.activeSnapshotId target decided).mp ⟨recorded, happend⟩
      rw [persistTerminal_journal hpersist] at hfresh
      exact hfresh
  · rintro ⟨s, source, hguards, hfollows, hreceipt, hloads, hunused, hfresh⟩
    obtain ⟨-, hproposal, -⟩ :=
      validateDecidable_eq_ok.mp (validatePending_eq_ok.mp hfollows.pending).1
    obtain ⟨target, db₁, hinstall⟩ : ∃ target db₁, installComponent i m receipt s source stamps.now db =
        .ok (target, db₁) := (installComponent_ok hfollows.active).mpr ⟨hreceipt, hloads⟩
    obtain ⟨receipts, -, tables, -, -, -, -, hdb₁⟩ := installComponent_eq_ok.mp hinstall
    have hground : db₁.toGovernanceDb = db.toGovernanceDb := by rw [hdb₁]
    obtain ⟨decided, hpersist⟩ := (hpersists db₁ target (hground ▸ hbinding) hproposal).mpr
      (hground ▸ hunused)
    have hjournal : decided.journal = db.journal := by
      rw [persistTerminal_journal hpersist, hground]
    obtain ⟨recorded, happend⟩ := (hevents s.activeSnapshotId target decided).mpr (hjournal ▸ hfresh)
    exact ⟨_, _, activateTrustedServiceAtomic_eq_ok.mpr ⟨b, hguards, .inr ⟨hpending, s, source,
      hfollows, target, db₁, decided, recorded, hinstall, rfl, hpersist, happend, rfl⟩⟩⟩

end

end AgentCore.Journal
