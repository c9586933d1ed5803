import AgentCore.Journal.Prospective

/-! Decisions are final: over any sequence of calls a decided approval keeps its row, its
proposal follows it, and a repeated call answers what was stored. -/

namespace AgentCore.Journal

open Foundation Harness Registry List
open Domain hiding OperationSpec RegistrySnapshot

/-! ## Calls -/

variable {a : ApprovalRow} {proposalId : String} {db db' : GovernanceDb}
  {i : TrustedDecisionIdentity} {agent : AgentId} {b : Binding} {now : Timestamp}
  {result : TrustedDecisionResult} {p : ProposalRow} {d : ApprovalDecision → ApprovalDecision}
  {q : ProposalDecision → ProposalDecision} {m : HarnessManifest}
  {deployment : TrustedHostDeployment}

inductive DecisionCall
  | activate (i : TrustedDecisionIdentity) (m : HarnessManifest) (deployment : TrustedHostDeployment)
      (agent : AgentId) (stamps : ActivationStamps)
  | reject (i : TrustedDecisionIdentity) (agent : AgentId) (stamps : DecisionStamps)
  | fail (i : TrustedDecisionIdentity) (errorCode : String) (agent : AgentId)
      (stamps : DecisionStamps)
  | expire (approvalId : String) (agent : AgentId) (stamp : Stamp)
  | replay (i : TrustedDecisionIdentity) (agent : AgentId) (terminal : CapabilityApprovalStatus)

variable {call : DecisionCall}

inductive DecisionAnswer
  | decision (result : TrustedDecisionResult)
  | expiry (expired : Bool)
  | replay (result : Option TrustedDecisionResult)

def DecisionCall.approvalId : DecisionCall → String
  | .activate i .. | .reject i .. | .fail i .. | .replay i .. => i.approvalId
  | .expire approvalId .. => approvalId

section

variable [Platform]

def answerDecision (db : GovernanceDb) :
    DecisionCall → Except String (DecisionAnswer × GovernanceDb)
  | .activate i m deployment agent stamps => do
    let (result, db) ← activateTrustedCapabilityAtomic i m deployment agent stamps db
    return (.decision result, db)
  | .reject i agent stamps => do
    let (result, db) ← rejectTrustedCapabilityAtomic i agent stamps db
    return (.decision result, db)
  | .fail i errorCode agent stamps => do
    let (result, db) ← failTrustedActivationAtomic i errorCode agent stamps db
    return (.decision result, db)
  | .expire approvalId agent stamp => do
    let (expired, db) ← expireTrustedApproval approvalId agent stamp db
    return (.expiry expired, db)
  | .replay i agent terminal => do
    let result ← replayTrustedCapabilityDecision i agent terminal db
    return (.replay result, db)

def decisionStep (db : GovernanceDb) (call : DecisionCall) : GovernanceDb :=
  commit db ((answerDecision db call).map Prod.snd)

def Answers (a : ApprovalDecision) : DecisionCall → DecisionAnswer → Prop
  | .activate i _ deployment _ _, .decision result =>
    Replays a i .approved result ∧ result.hostDeploymentId = some deployment.deploymentId ∧
      result.activatedSnapshotId = some deployment.targetSnapshotId
  | .reject i _ _, .decision result => Replays a i .rejected result
  | .fail i _ _ _, .decision result => Replays a i .activationFailed result
  | .expire .., .expiry expired => expired = false
  | .replay i _ terminal, .replay result => ∃ stored, result = some stored ∧ Replays a i terminal stored
  | _, _ => False

/-! ## Rows through a call -/

structure Evolves (db db' : GovernanceDb) (f : ApprovalRow → ApprovalRow)
    (g : ProposalRow → ProposalRow) : Prop where
  ground : SameGround db db'
  approvals : db'.approvals.rows = db.approvals.rows.map f
  proposals : db'.proposals.rows = db.proposals.rows.map g
  approval_terms : ∀ a, (f a).toApprovalTerms = a.toApprovalTerms
  proposal_terms : ∀ p, (g p).toProposalTerms = p.toProposalTerms
  decided : ∀ a, a.status ≠ .pending → f a = a

namespace Evolves

variable {f : ApprovalRow → ApprovalRow} {g : ProposalRow → ProposalRow} {approvalId : String}

omit [Platform]

lemma refl (db : GovernanceDb) : Evolves db db id id :=
  ⟨.refl db, (map_id _).symm, (map_id _).symm, fun _ => rfl, fun _ => rfl,
    fun _ _ => rfl⟩

lemma trans (h : Evolves db db' f g) (h' : Evolves db' db'' f' g') :
    Evolves db db'' (f' ∘ f) (g' ∘ g) where
  ground := h.ground.trans h'.ground
  approvals := by rw [h'.approvals, h.approvals, map_map]
  proposals := by rw [h'.proposals, h.proposals, map_map]
  approval_terms a := (h'.approval_terms (f a)).trans (h.approval_terms a)
  proposal_terms p := (h'.proposal_terms (g p)).trans (h.proposal_terms p)
  decided a ha := by rw [Function.comp_apply, h.decided a ha, h'.decided a ha]

lemma mem_of_decided (h : Evolves db db' f g) (ha : a ∈ db.approvals.rows)
    (hdecided : a.status ≠ .pending) : a ∈ db'.approvals.rows := by
  rw [h.approvals]
  exact mem_map.mpr ⟨a, ha, h.decided a hdecided⟩

lemma findApproval (h : Evolves db db' f g)
    (ha : findApproval db.approvals approvalId proposalId = some a) :
    Journal.findApproval db'.approvals approvalId proposalId = some (f a) := by
  have hterms : (fun a : ApprovalRow => decide (a.approvalId = approvalId) &&
      decide (a.proposalId = proposalId)) ∘ f = fun a => decide (a.approvalId = approvalId) &&
      decide (a.proposalId = proposalId) := by
    funext a
    rw [Function.comp_apply, h.approval_terms a]
  rw [Journal.findApproval, h.approvals, find?_map, hterms]
  exact congrArg (Option.map f) ha

lemma findProposal (h : Evolves db db' f g) (hp : findProposal db.proposals proposalId = some p) :
    Journal.findProposal db'.proposals proposalId = some (g p) := by
  have hterms : (fun p : ProposalRow => decide (p.proposalId = proposalId)) ∘ g =
      fun p => decide (p.proposalId = proposalId) := by
    funext p
    rw [Function.comp_apply, h.proposal_terms p]
  rw [Journal.findProposal, h.proposals, find?_map, hterms]
  exact congrArg (Option.map g) hp

end Evolves

lemma Evolves.binding (h : Evolves db db' f g) (hb : loadValidatedBinding db i agent = .ok b) :
    loadValidatedBinding db' i agent = .ok ⟨g b.proposal, b.link, f b.approval⟩ := by
  obtain ⟨hload, hcheck⟩ := loadValidatedBinding_eq_ok.mp hb
  obtain ⟨happroval, hproposal, hlink⟩ := loadBinding_eq_some.mp hload
  refine loadValidatedBinding_eq_ok.mpr ⟨loadBinding_eq_some.mpr ⟨h.findApproval happroval,
    h.findProposal hproposal, ?_⟩, ?_⟩
  · rw [h.ground.evidence]
    exact hlink
  · rw [h.ground.checkBinding]
    dsimp only
    rw [h.approval_terms, h.proposal_terms]
    exact hcheck

omit [Platform] in
lemma Decides.evolves (h : Decides db db' approvalId proposalId d q) :
    Evolves db db' (decideRow approvalId d) (decideProposalRow proposalId q) where
  ground := h.ground
  approvals := h.approvals
  proposals := h.proposals
  approval_terms := decideRow_terms approvalId d
  proposal_terms := decideProposalRow_terms proposalId q
  decided _ ha := decideRow_of_decided ha

/-! ## What a call does -/

structure Takes (db db' : GovernanceDb) (i : TrustedDecisionIdentity) (agent : AgentId)
    (result : TrustedDecisionResult) (now : Timestamp) (b : Binding) : Prop where
  binding : loadValidatedBinding db i agent = .ok b
  pending : b.approval.status = .pending
  proposal_pending : b.proposal.status = .pendingApproval
  decides : Decides db db' i.approvalId i.proposalId (fun _ => approvalDecision i result now)
    (fun _ => proposalDecision i result now)

section

omit [Platform]

lemma validateDecidable_eq_ok : validateDecidable b now = .ok () ↔ b.approval.status = .pending ∧
      b.proposal.status = .pendingApproval ∧ now < b.approval.expiresAt := by
  unfold validateDecidable
  split
  · rename_i h
    simp only [Bool.or_eq_true, decide_eq_true_eq] at h
    constructor
    · intro hok
      cases hok
    · rintro ⟨happroval, hproposal, -⟩
      exact absurd h (not_or.mpr ⟨not_not.mpr happroval, not_not.mpr hproposal⟩)
  · rename_i h
    simp only [Bool.or_eq_true, decide_eq_true_eq, not_or, not_not] at h
    split
    · rename_i hexpired
      simp [hexpired]
    · rename_i hexpired
      simp [h, not_le.mp hexpired]

lemma Decides.of_onlyJournal
    (h : Decides db db₁ approvalId proposalId d q) (hjournal : OnlyJournal db₁ db') :
    Decides db db' approvalId proposalId d q := by
  obtain ⟨journal, rfl⟩ := hjournal
  exact ⟨⟨h.ground.sessions, h.ground.runs, h.ground.evidence⟩, h.approvals, h.proposals⟩

lemma persistTerminal_decides (h : persistTerminal i result now db = .ok db') :
    Decides db db' i.approvalId i.proposalId (fun _ => approvalDecision i result now)
      (fun _ => proposalDecision i result now) := by
  obtain ⟨approvals, proposals, rfl, happrovals, hproposals⟩ := persistTerminal_eq_ok h
  exact ⟨⟨rfl, rfl, rfl⟩, happrovals, hproposals⟩

end

lemma finishWithoutActivation_takes
    (h : finishWithoutActivation i agent r stamps db = .ok (result, db')) :
    (∃ b, loadValidatedBinding db i agent = .ok b ∧ b.approval.status ≠ .pending ∧ db' = db ∧
        Replays b.approval.toApprovalDecision i r.status result) ∨
      (result = refusalResult i r ∧ ∃ b, Takes db db' i agent result stamps.now b) := by
  obtain ⟨b, hload, hcase⟩ := finishWithoutActivation_eq_ok h
  rcases hcase with ⟨hdecided, rfl, hreplay⟩ | ⟨-, hdecidable, rfl, db₁, hpersist, hevents⟩
  · exact .inl ⟨b, hload, hdecided, rfl, replayResult_eq_ok.mp hreplay⟩
  · obtain ⟨hpending, hproposal, -⟩ := validateDecidable_eq_ok.mp hdecidable
    exact .inr ⟨rfl, b, hload, hpending, hproposal,
      (persistTerminal_decides hpersist).of_onlyJournal (appendRefusalEvents_onlyJournal hevents)⟩

lemma activateTrustedCapability_takes
    (h : activateTrustedCapabilityAtomic i m deployment agent stamps db = .ok (result, db')) :
    (∃ b, loadValidatedBinding db i agent = .ok b ∧ b.approval.status ≠ .pending ∧ db' = db ∧
        Replays b.approval.toApprovalDecision i .approved result ∧
        result.hostDeploymentId = some deployment.deploymentId ∧
        result.activatedSnapshotId = some deployment.targetSnapshotId) ∨
      (result = activationResult i deployment.targetSnapshotId deployment.deploymentId ∧
        ∃ b, Takes db db' i agent result stamps.now b) := by
  obtain ⟨-, -, b, hload, hcase⟩ := activateTrustedCapabilityAtomic_eq_ok h
  rcases hcase with ⟨hdecided, rfl, hreplay, hsame⟩ | ⟨-, hdecidable, rfl, specs, db₁, -, -, hinstall, hsettle⟩
  · exact .inl ⟨b, hload, hdecided, rfl, replayResult_eq_ok.mp hreplay, hsame⟩
  · obtain ⟨hpending, hproposal, -⟩ := validateDecidable_eq_ok.mp hdecidable
    obtain ⟨journal, manifests, registry, rfl, -⟩ := installCapability_eq_ok hinstall
    have hdecides := (settleActivation_eq_ok hsettle).2
    exact .inr ⟨rfl, b, hload, hpending, hproposal,
      ⟨hdecides.ground.sessions, hdecides.ground.runs, hdecides.ground.evidence⟩,
      hdecides.approvals, hdecides.proposals⟩

omit [Platform] in
lemma findProposal_id (h : findProposal proposals proposalId = some p) : p.proposalId = proposalId := by
  simpa using find?_some h

lemma expireTrustedApproval_eq_ok
    (h : expireTrustedApproval approvalId agent stamp db = .ok (expired, db')) :
    (expired = false ∧ db' = db) ∨
      ∃ a ∈ db.approvals.rows, a.approvalId = approvalId ∧ a.status = .pending ∧ expired = true ∧
        Decides db db' approvalId a.proposalId (expiredApproval stamp.createdAt)
          (expiredProposal stamp.createdAt) ∧
        ∃ (db₁ : GovernanceDb) (p : _) (subject : _) (payload : _),
          db₁.record stamp .capabilityChangeExpired p subject payload = .ok db' ∧
            db₁.journal = db.journal := by
  unfold expireTrustedApproval at h
  split at h
  · cases h
  · rename_i approval hfind
    split at h
    · cases h
    · rename_i proposal hproposal
      split at h
      · cases h
      · split at h
        · cases h
          exact .inl ⟨rfl, rfl⟩
        · rename_i hpending
          split at h
          · cases h
            exact .inl ⟨rfl, rfl⟩
          · simp only [Bool.or_eq_true, decide_eq_true_eq, not_or, not_not] at hpending
            obtain ⟨approvals, happrovals, h⟩ := bind_eq_ok.mp h
            obtain ⟨proposals, hproposals, h⟩ := bind_eq_ok.mp h
            obtain ⟨db₁, hrecord, ⟨⟩⟩ := bind_eq_ok.mp h
            refine .inr ⟨approval, mem_of_find?_eq_some hfind,
              by simpa using find?_some hfind, hpending.1, rfl, ?_, _, _, _, _, hrecord, rfl⟩
            obtain ⟨journal, rfl⟩ := record_onlyJournal hrecord
            refine ⟨⟨rfl, rfl, rfl⟩, decideApproval_eq_ok happrovals, ?_⟩
            rw [← findProposal_id hproposal]
            exact decideProposal_eq_ok hproposals

lemma replayTrustedCapabilityDecision_eq_ok :
    replayTrustedCapabilityDecision i agent terminal db = .ok answer ↔
      terminal ≠ .pending ∧ terminal ≠ .expired ∧ ∃ b, loadValidatedBinding db i agent = .ok b ∧
        ((b.approval.status = .pending ∧ answer = none) ∨
          (b.approval.status ≠ .pending ∧ ∃ result, answer = some result ∧
            Replays b.approval.toApprovalDecision i terminal result)) := by
  unfold replayTrustedCapabilityDecision
  split
  · simp
  · simp
  · rename_i hpending hexpired
    rw [and_iff_right (show terminal ≠ .pending from hpending),
      and_iff_right (show terminal ≠ .expired from hexpired), bind_eq_ok]
    refine exists_congr fun b => and_congr_right fun _ => ?_
    split
    · rename_i hstatus
      rw [return_eq_ok]
      simp only [hstatus, not_true_eq_false, ne_eq, true_and, false_and, or_false]
      exact eq_comm
    · rename_i hstatus
      simp only [hstatus, bind_eq_ok, return_eq_ok, replayResult_eq_ok, ne_eq, not_false_eq_true,
        true_and, false_and, false_or]
      exact exists_congr fun result => and_comm.trans (and_congr_left fun _ => eq_comm)

/-! ## One call -/

omit [Platform] in
lemma approval_eq_of_id {b : ApprovalRow} (ha : a ∈ db.approvals.rows)
    (hb : b ∈ db.approvals.rows) (h : a.approvalId = b.approvalId) : a = b :=
  SqlTable.eq_of_clash (t := db.approvals) (u := ⟨fun r => some r.approvalId⟩)
    (by simp [approvalSchema]) ha hb ⟨by simp, congrArg some h⟩

omit [Platform] in
lemma approval_eq_of_proposal {a b : ApprovalRow} (ha : a ∈ db.approvals.rows)
    (hb : b ∈ db.approvals.rows) (h : a.proposalId = b.proposalId) : a = b :=
  SqlTable.eq_of_clash (t := db.approvals) (u := ⟨fun r => some r.proposalId⟩)
    (by simp [approvalSchema]) ha hb ⟨by simp, congrArg some h⟩

lemma approval_of_binding (h : loadValidatedBinding db i agent = .ok b) :
    b.approval ∈ db.approvals.rows ∧ b.approval.approvalId = i.approvalId ∧
      b.approval.proposalId = i.proposalId := by
  have hfind := (loadBinding_eq_some.mp (loadValidatedBinding_eq_ok.mp h).1).1
  have hids := find?_some hfind
  simp only [Bool.and_eq_true, decide_eq_true_eq] at hids
  exact ⟨mem_of_find?_eq_some hfind, hids⟩

def Settles (db db' : GovernanceDb) (approvalId : String) : Prop :=
  ∃ a ∈ db.approvals.rows, a.approvalId = approvalId ∧ a.status = .pending ∧ ∃ d q,
    Decides db db' approvalId a.proposalId d q ∧ ∀ x y, (q y).status = (d x).status.proposal

lemma Takes.settles (h : Takes db db' i agent result now b) : Settles db db' i.approvalId := by
  obtain ⟨hmem, hid, hproposal⟩ := approval_of_binding h.binding
  refine ⟨b.approval, hmem, hid, h.pending, fun _ => approvalDecision i result now,
    fun _ => proposalDecision i result now, ?_, fun _ _ => rfl⟩
  rw [hproposal]
  exact h.decides

lemma answerDecision_eq_ok (h : answerDecision db call = .ok (answer, db')) :
    Settles db db' call.approvalId ∨ (db' = db ∧ ∀ a ∈ db.approvals.rows,
      a.approvalId = call.approvalId → a.status ≠ .pending → Answers a.toApprovalDecision call answer) := by
  -- The approval a call is about is the one that its binding holds.
  have hsame {i : TrustedDecisionIdentity} {agent : AgentId} {b : Binding}
      (hb : loadValidatedBinding db i agent = .ok b) {a : ApprovalRow} (ha : a ∈ db.approvals.rows)
      (hid : a.approvalId = i.approvalId) : a = b.approval :=
    approval_eq_of_id ha (approval_of_binding hb).1 (hid.trans (approval_of_binding hb).2.1.symm)
  have hrefusal {i : TrustedDecisionIdentity} {agent : AgentId} {r : Refusal}
      {stamps : DecisionStamps} {result : TrustedDecisionResult}
      (h : finishWithoutActivation i agent r stamps db = .ok (result, db')) :
      Settles db db' i.approvalId ∨ (db' = db ∧ ∀ a ∈ db.approvals.rows, a.approvalId = i.approvalId →
        a.status ≠ .pending → Replays a.toApprovalDecision i r.status result) := by
    rcases finishWithoutActivation_takes h with ⟨b, hb, -, rfl, hreplays⟩ | ⟨-, b, htakes⟩
    · refine .inr ⟨rfl, fun a ha hid _ => ?_⟩
      rw [hsame hb ha hid]
      exact hreplays
    · exact .inl htakes.settles
  cases call with
  | activate i m deployment agent stamps =>
    obtain ⟨⟨result, db₁⟩, hcall, ⟨⟩⟩ := bind_eq_ok.mp h
    rcases activateTrustedCapability_takes hcall with
      ⟨b, hb, -, rfl, hreplays, hdeployment⟩ | ⟨-, b, htakes⟩
    · refine .inr ⟨rfl, fun a ha hid _ => ?_⟩
      rw [hsame hb ha hid]
      exact ⟨hreplays, hdeployment⟩
    · exact .inl htakes.settles
  | reject i agent stamps =>
    obtain ⟨⟨result, db₁⟩, hcall, ⟨⟩⟩ := bind_eq_ok.mp h
    exact hrefusal hcall
  | fail i errorCode agent stamps =>
    obtain ⟨⟨result, db₁⟩, hcall, ⟨⟩⟩ := bind_eq_ok.mp h
    unfold failTrustedActivationAtomic at hcall
    split at hcall
    · exact hrefusal hcall
    · cases hcall
  | expire approvalId agent stamp =>
    obtain ⟨⟨expired, db₁⟩, hcall, ⟨⟩⟩ := bind_eq_ok.mp h
    rcases expireTrustedApproval_eq_ok hcall with ⟨rfl, rfl⟩ | ⟨a, ha, hid, hpending, -, hdecides, -⟩
    · exact .inr ⟨rfl, fun _ _ _ _ => rfl⟩
    · exact .inl ⟨a, ha, hid, hpending, _, _, hdecides, fun _ _ => rfl⟩
  | replay i agent terminal =>
    obtain ⟨result, hcall, ⟨⟩⟩ := bind_eq_ok.mp h
    obtain ⟨-, -, b, hb, hcase⟩ := replayTrustedCapabilityDecision_eq_ok.mp hcall
    refine .inr ⟨rfl, fun a ha hid hdecided => ?_⟩
    rw [hsame hb ha hid] at hdecided ⊢
    rcases hcase with ⟨hpending, -⟩ | ⟨-, stored, hstored, hreplays⟩
    · exact absurd hpending hdecided
    · exact ⟨stored, hstored, hreplays⟩

lemma decisionStep_cases (db : GovernanceDb) (call : DecisionCall) :
    decisionStep db call = db ∨ Settles db (decisionStep db call) call.approvalId := by
  unfold decisionStep
  match h : answerDecision db call with
  | .error e => exact .inl rfl
  | .ok (answer, db') => exact (answerDecision_eq_ok h).symm.imp_left And.left

/-! ## Any number of calls -/

lemma evolves_step (db : GovernanceDb) (call : DecisionCall) :
    ∃ f g, Evolves db (decisionStep db call) f g := by
  rcases decisionStep_cases db call with heq | ⟨a, -, -, -, d, q, hdecides, -⟩
  · rw [heq]
    exact ⟨id, id, .refl db⟩
  · exact ⟨_, _, hdecides.evolves⟩

lemma evolves_run (db : GovernanceDb) (calls : List DecisionCall) :
    ∃ f g, Evolves db (run decisionStep db calls) f g := by
  induction calls generalizing db with
  | nil => exact ⟨id, id, .refl db⟩
  | cons call calls ih =>
    obtain ⟨f, g, hstep⟩ := evolves_step db call
    obtain ⟨f', g', hrun⟩ := ih (decisionStep db call)
    exact ⟨_, _, hstep.trans hrun⟩

def Coupled (db : GovernanceDb) : Prop :=
  ∀ a ∈ db.approvals.rows, ∃ p ∈ db.proposals.rows, p.proposalId = a.proposalId ∧
    p.status = a.status.proposal

omit [Platform] in
lemma Coupled.settles (hcoupled : Coupled db) (h : Settles db db' approvalId) : Coupled db' := by
  obtain ⟨target, htarget, rfl, hpending, d, q, hdecides, hstatus⟩ := h
  intro a' ha'
  rw [hdecides.approvals] at ha'
  obtain ⟨a, ha, rfl⟩ := mem_map.mp ha'
  obtain ⟨p, hp, hid, hp'⟩ := hcoupled a ha
  refine ⟨decideProposalRow target.proposalId q p, ?_, ?_, ?_⟩
  · rw [hdecides.proposals]
    exact mem_map_of_mem hp
  · rw [decideProposalRow_terms, decideRow_terms]
    exact hid
  · by_cases heq : a = target
    · subst heq
      have hopen : p.status = .pendingApproval := by
        rw [hp', hpending]
        rfl
      simp only [decideRow, decideProposalRow, hpending, hid, hopen, decide_true, Bool.and_true, if_true]
      exact hstatus _ _
    · -- Another approval has another proposal, so neither row is touched.
      have hother : a.approvalId ≠ target.approvalId := fun h => heq (approval_eq_of_id ha htarget h)
      have hproposal : a.proposalId ≠ target.proposalId := fun h =>
        heq (approval_eq_of_proposal ha htarget h)
      simp [decideRow, decideProposalRow, hother, hid, hproposal, hp']

lemma Coupled.step (h : Coupled db) (call : DecisionCall) : Coupled (decisionStep db call) := by
  rcases decisionStep_cases db call with heq | hsettles
  · rw [heq]
    exact h
  · exact h.settles hsettles

lemma Coupled.run (h : Coupled db) (calls : List DecisionCall) :
    Coupled (run decisionStep db calls) := run_invariant (fun _ call hs => hs.step call) calls h

/-! ## Repeated calls -/

def Repeats : DecisionCall → DecisionCall → Prop
  | .activate i _ deployment agent _, .activate i' m' deployment' agent' _ =>
    i' = i ∧ deployment' = deployment ∧ agent' = agent ∧ validateCapabilityManifest m' i = .ok ()
  | .reject i agent _, .reject i' agent' _ => i' = i ∧ agent' = agent
  | .fail i _ agent _, .fail i' errorCode' agent' _ =>
    i' = i ∧ agent' = agent ∧ validErrorCode errorCode' = true
  | .activate i _ _ agent _, .replay i' agent' terminal =>
    i' = i ∧ agent' = agent ∧ terminal = .approved
  | .reject i agent _, .replay i' agent' terminal => i' = i ∧ agent' = agent ∧ terminal = .rejected
  | .fail i _ agent _, .replay i' agent' terminal =>
    i' = i ∧ agent' = agent ∧ terminal = .activationFailed
  | _, _ => False

omit [Platform] in
def DecisionCall.answerWith : DecisionCall → TrustedDecisionResult → DecisionAnswer
  | .replay .., result => .replay (some result)
  | _, result => .decision result

lemma replays_approvalDecision (now : Timestamp) (hid : result.decisionId = i.decisionId) :
    Replays (approvalDecision i result now) i result.status { result with replayed := true } where
  status := rfl
  decisionId := rfl
  payloadDigest := rfl
  decidedBy := rfl
  stored := ⟨_, result, rfl, TrustedDecisionResult.ofJson_toText result, rfl⟩
  resultId := hid
  resultStatus := rfl
  snapshot := rfl
  deployment := rfl
  activationError := rfl

structure Holds (db : GovernanceDb) (i : TrustedDecisionIdentity) (agent : AgentId)
    (result : TrustedDecisionResult) (b : Binding) : Prop where
  binding : loadValidatedBinding db i agent = .ok b
  decided : b.approval.status ≠ .pending
  replays : Replays b.approval.toApprovalDecision i result.status result

lemma Takes.later (h : Takes db db' i agent result now b)
    (hid : result.decisionId = i.decisionId) (hstatus : result.status ≠ .pending)
    (calls : List DecisionCall) :
    ∃ b', Holds (run decisionStep db' calls) i agent { result with replayed := true } b' := by
  obtain ⟨-, happroval, -⟩ := approval_of_binding h.binding
  obtain ⟨f, g, hrun⟩ := evolves_run db' calls
  have hrow : decideRow i.approvalId (fun _ => approvalDecision i result now) b.approval =
      { b.approval with toApprovalDecision := approvalDecision i result now } := by
    simp [decideRow, happroval, h.pending]
  have hlater := hrun.binding (h.decides.evolves.binding h.binding)
  rw [hrow] at hlater
  dsimp only at hlater
  rw [hrun.decided _ hstatus] at hlater
  exact ⟨_, hlater, hstatus, replays_approvalDecision now hid⟩

namespace Holds

lemma finish (h : Holds db i agent result b) (hr : result.status = r.status)
    (stamps : DecisionStamps) : finishWithoutActivation i agent r stamps db = .ok (result, db) := by
  refine bind_eq_ok.mpr ⟨b, h.binding, ?_⟩
  rw [if_pos h.decided, ← hr, replayResult_eq_ok.mpr h.replays]
  rfl

lemma replay (h : Holds db i agent result b) (hstatus : result.status ≠ .expired) :
    replayTrustedCapabilityDecision i agent result.status db = .ok (some result) :=
  replayTrustedCapabilityDecision_eq_ok.mpr ⟨h.replays.status ▸ h.decided, hstatus, b, h.binding,
    .inr ⟨h.decided, result, rfl, h.replays⟩⟩

lemma activate (h : Holds db i agent result b) (hstatus : result.status = .approved)
    (hmanifest : validateCapabilityManifest m i = .ok ())
    (hid : trim deployment.deploymentId ≠ "") (stamps : ActivationStamps) :
    activateTrustedCapabilityAtomic i m deployment agent stamps db =
      if result.hostDeploymentId ≠ some deployment.deploymentId ||
          result.activatedSnapshotId ≠ some deployment.targetSnapshotId then
        .error "APPROVAL_DECISION_CONFLICT"
      else .ok (result, db) := by
  have hreplay : replayResult b.approval.toApprovalDecision i .approved = .ok result :=
    hstatus ▸ replayResult_eq_ok.mpr h.replays
  simp only [activateTrustedCapabilityAtomic, hmanifest, hid, if_false, h.binding, h.decided, ne_eq,
    not_false_eq_true, if_true, hreplay, bind, Except.bind]
  rfl

end Holds

omit [Platform] in
lemma decision_eq_ok {x : Except String (TrustedDecisionResult × GovernanceDb)}
    (h : (do let (result, db) ← x; return (DecisionAnswer.decision result, db)) =
      .ok (.decision result, db')) : x = .ok (result, db') := by
  obtain ⟨p, hx, ⟨⟩⟩ := bind_eq_ok.mp h
  exact hx

lemma answerDecision_repeats
    (h : answerDecision db call = .ok (.decision result, db')) (hnew : result.replayed = false)
    (hretry : Repeats call retry) (more : List DecisionCall) :
    answerDecision (run decisionStep db' more) retry =
      .ok (retry.answerWith { result with replayed := true }, run decisionStep db' more) := by
  have hreplayed {d : ApprovalDecision} {i : TrustedDecisionIdentity}
      {terminal : CapabilityApprovalStatus} (hr : Replays d i terminal result) : False := by
    obtain ⟨-, stored, -, -, rfl⟩ := hr.stored
    cases hnew
  have hrefusal {i : TrustedDecisionIdentity} {agent : AgentId} {r : Refusal}
      {stamps : DecisionStamps} (h : finishWithoutActivation i agent r stamps db = .ok (result, db')) :
      result = refusalResult i r ∧
        ∃ b', Holds (run decisionStep db' more) i agent { result with replayed := true } b' := by
    rcases finishWithoutActivation_takes h with ⟨_, -, -, -, hr⟩ | ⟨rfl, b, htakes⟩
    · exact (hreplayed hr).elim
    · exact ⟨rfl, htakes.later rfl (by cases r <;> exact nofun) more⟩
  cases call with
  | activate i m deployment agent stamps =>
    have hcall := decision_eq_ok h
    have hid := (activateTrustedCapabilityAtomic_eq_ok hcall).2.1
    rcases activateTrustedCapability_takes hcall with ⟨_, -, -, -, hr, -⟩ | ⟨rfl, b, htakes⟩
    · exact (hreplayed hr).elim
    · obtain ⟨b', hholds⟩ := htakes.later rfl nofun more
      cases retry with
      | activate i' m' deployment' agent' stamps' =>
        obtain ⟨rfl, rfl, rfl, hmanifest⟩ := hretry
        have hsame := hholds.activate rfl hmanifest hid stamps'
        rw [if_neg (by simp [activationResult])] at hsame
        exact bind_eq_ok.mpr ⟨_, hsame, rfl⟩
      | replay i' agent' terminal =>
        obtain ⟨rfl, rfl, rfl⟩ := hretry
        exact bind_eq_ok.mpr ⟨_, hholds.replay nofun, rfl⟩
      | reject | fail | expire => exact hretry.elim
  | reject i agent stamps =>
    have hcall := decision_eq_ok h
    obtain ⟨rfl, b', hholds⟩ := hrefusal hcall
    cases retry with
    | reject i' agent' stamps' =>
      obtain ⟨rfl, rfl⟩ := hretry
      exact bind_eq_ok.mpr ⟨_, hholds.finish rfl stamps', rfl⟩
    | replay i' agent' terminal =>
      obtain ⟨rfl, rfl, rfl⟩ := hretry
      exact bind_eq_ok.mpr ⟨_, hholds.replay nofun, rfl⟩
    | activate | fail | expire => exact hretry.elim
  | fail i errorCode agent stamps =>
    have hcall := decision_eq_ok h
    unfold failTrustedActivationAtomic at hcall
    split at hcall
    · obtain ⟨rfl, b', hholds⟩ := hrefusal hcall
      cases retry with
      | fail i' errorCode' agent' stamps' =>
        obtain ⟨rfl, rfl, hcode⟩ := hretry
        have hsame := hholds.finish (r := .failed errorCode') rfl stamps'
        exact bind_eq_ok.mpr ⟨_, (if_pos hcode).trans hsame, rfl⟩
      | replay i' agent' terminal =>
        obtain ⟨rfl, rfl, rfl⟩ := hretry
        exact bind_eq_ok.mpr ⟨_, hholds.replay nofun, rfl⟩
      | activate | reject | expire => exact hretry.elim
    · cases hcall
  | expire approvalId agent stamp | replay i agent terminal =>
    obtain ⟨_, -, ⟨⟩⟩ := bind_eq_ok.mp h

/-! ## Finality -/

theorem trusted_decisions_final {db₀ : GovernanceDb} (hcoupled : Coupled db₀)
    (calls : List DecisionCall) :
    let db := run decisionStep db₀ calls
    Coupled db ∧
      (∀ a ∈ db.approvals.rows, a.status ≠ .pending →
        ∀ more, a ∈ (run decisionStep db more).approvals.rows) ∧
      (∀ call e, answerDecision db call = .error e → decisionStep db call = db) ∧
      (∀ call answer db', answerDecision db call = .ok (answer, db') →
        ∀ a ∈ db.approvals.rows, a.approvalId = call.approvalId → a.status ≠ .pending →
          db' = db ∧ Answers a.toApprovalDecision call answer) ∧
      ∀ call result db', answerDecision db call = .ok (.decision result, db') →
        result.replayed = false → ∀ more retry, Repeats call retry →
          answerDecision (run decisionStep db' more) retry =
            .ok (retry.answerWith { result with replayed := true }, run decisionStep db' more) := by
  intro db
  refine ⟨hcoupled.run calls, ?_, ?_, ?_, ?_⟩
  · intro a ha hdecided more
    obtain ⟨f, g, hrun⟩ := evolves_run db more
    exact hrun.mem_of_decided ha hdecided
  · intro call e herror
    rw [decisionStep, herror]
    rfl
  · intro call answer db' hok a ha hid hdecided
    rcases answerDecision_eq_ok hok with ⟨b, hb, hbid, hpending, -⟩ | ⟨rfl, hanswers⟩
    · obtain rfl := approval_eq_of_id ha hb (hid.trans hbid.symm)
      exact absurd hpending hdecided
    · exact ⟨rfl, hanswers a ha hid hdecided⟩
  · intro call result db' hok hnew more retry hretry
    exact answerDecision_repeats hok hnew hretry more

end

/-! ## Another deployment under the same identity -/

section

local instance : Platform := zeroPlatform

lemma capabilityDb_coupled : Coupled capabilityDb := by
  intro a ha
  rcases mem_cons.mp ha with rfl | ha
  · exact ⟨sampleProposal "[\"external.a\"]" "p", mem_cons_self, rfl, rfl⟩
  · obtain rfl := mem_singleton.mp ha
    exact ⟨sampleProposal "[\"external.a\"]" "q", mem_cons_of_mem _ mem_cons_self, rfl, rfl⟩

/-- The identity, the manifest and the agent of the stored decision, but not its deployment. -/
theorem trusted_decisions_final_other_deployment : ∃ result db',
    sampleActivation .null = .ok (result, db') ∧ result.replayed = false ∧
      activateTrustedCapabilityAtomic (sampleIdentity "p") (sampleManifest .null)
        ⟨"k", sampleSnapshotId⟩ "main" sampleStamps db' = .error "APPROVAL_DECISION_CONFLICT" := by
  obtain ⟨result, db', hactivate, hnew⟩ := sampleActivation_ok (mem_cons_of_mem _ mem_cons_self)
  refine ⟨result, db', hactivate, hnew, ?_⟩
  rcases activateTrustedCapability_takes hactivate with ⟨_, -, -, -, hr, -⟩ | ⟨rfl, b, htakes⟩
  · obtain ⟨-, stored, -, -, rfl⟩ := hr.stored
    cases hnew
  · obtain ⟨b', hholds⟩ := htakes.later rfl nofun []
    have hother : trim (TrustedHostDeployment.mk "k" sampleSnapshotId).deploymentId ≠ "" := by
      decide +kernel
    rw [run_nil] at hholds
    have hvalid : validateCapabilityManifest (sampleManifest .null) (sampleIdentity "p") = .ok () := by
      decide +kernel
    rw [hholds.activate rfl hvalid hother]
    rfl

theorem trusted_decisions_final_replay : ∃ result db',
    sampleActivation .null = .ok (result, db') ∧ result.replayed = false ∧
      answerDecision db' (.replay (sampleIdentity "p") "main" .approved) =
        .ok (.replay (some { result with replayed := true }), db') := by
  obtain ⟨result, db', hactivate, hnew⟩ := sampleActivation_ok (mem_cons_of_mem _ mem_cons_self)
  refine ⟨result, db', hactivate, hnew, ?_⟩
  obtain ⟨-, -, -, -, hrepeat⟩ := trusted_decisions_final capabilityDb_coupled []
  exact hrepeat (.activate (sampleIdentity "p") (sampleManifest .null) ⟨"h", sampleSnapshotId⟩ "main"
    sampleStamps) result db' (bind_eq_ok.mpr ⟨_, hactivate, rfl⟩) hnew []
    (.replay (sampleIdentity "p") "main" .approved) ⟨rfl, rfl, rfl⟩

end

end AgentCore.Journal
