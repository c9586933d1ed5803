import AgentCore.Server.DeploymentWorker

/-! The events that a decision of a service proposal leaves. The approval is reported when the
deployment is recorded, while the approval row stays pending until the worker ends. -/

namespace AgentCore.Server

open Foundation Journal List Pool
open Domain hiding OperationSpec RegistrySnapshot

/-! ## Decisions in the journal -/

variable {db db' : ComponentDb} {events : List Mark} {i : TrustedDecisionIdentity}
  {call : ComponentCall} {m : ServiceManifest} {p : String} {x : ServiceInput} {t : ServiceThread}

def decisionEvents (kind : JournalEventKind) (proposalId : String) (t : JournalTable) : Nat :=
  t.rows.countP fun r => r.kind = kind.storageName && r.correlationId = some proposalId

def decisionMarks (kind : JournalEventKind) (proposalId : String) (events : List Mark) : Nat :=
  events.countP fun m => m.kind = kind.storageName && m.subject = some proposalId

lemma decisionEvents_eq (kind : JournalEventKind) (proposalId : String) (t : JournalTable) :
    decisionEvents kind proposalId t = decisionMarks kind proposalId (marks t) := by
  rw [decisionMarks, marks, countP_map]
  rfl

def decidedProposal : ComponentCall → Option String
  | .recordDeployment i .. | .activateService i .. => some i.proposalId
  | .decision (.reject i ..) | .decision (.fail i ..) => some i.proposalId
  | _ => none

/-! ## What a call reports -/

structure Announces (db db' : ComponentDb) (events : List Mark) : Prop where
  marks : marks db'.journal = marks db.journal ++ events
  intents : ∀ row ∈ db.deploymentIntents.rows, row ∈ db'.deploymentIntents.rows
  approvals : ∀ p, db'.approvalPending p = true → db.approvalPending p = true

def Silent (events : List Mark) : Prop := ∀ p,
  decisionMarks .capabilityChangeApproved p events = 0 ∧
    decisionMarks .capabilityChangeRejected p events = 0

structure ReportsApproval (db db' : ComponentDb) (proposalId : String) (events : List Mark) : Prop where
  pending : db.approvalPending proposalId = true
  after : db'.approvalPending proposalId = false ∨
    ∃ row ∈ db'.deploymentIntents.rows, row.proposalId = proposalId
  approved : ∀ p, decisionMarks .capabilityChangeApproved p events = if p = proposalId then 1 else 0
  rejected : ∀ p, decisionMarks .capabilityChangeRejected p events = 0

structure ReportsRejection (db db' : ComponentDb) (proposalId : String) (events : List Mark) : Prop where
  pending : db.approvalPending proposalId = true
  after : db'.approvalPending proposalId = false
  approved : ∀ p, decisionMarks .capabilityChangeApproved p events = 0
  rejected : ∀ p, p ≠ proposalId → decisionMarks .capabilityChangeRejected p events = 0

def Audited (db db' : ComponentDb) (call : ComponentCall) : Prop :=
  ∃ events, Announces db db' events ∧
    (Silent events ∨ ∃ p ∈ decidedProposal call,
      ReportsApproval db db' p events ∨ ReportsRejection db db' p events)

lemma announces_refl (db : ComponentDb) : Announces db db [] :=
  ⟨(append_nil _).symm, fun _ h => h, fun _ h => h⟩

lemma audited_refl (db : ComponentDb) (call : ComponentCall) : Audited db db call :=
  ⟨[], announces_refl db, .inl fun _ => ⟨rfl, rfl⟩⟩

lemma announces_of_relaxes (h : Relaxes db db')
    (hmarks : marks db'.journal = marks db.journal ++ events) : Announces db db' events :=
  ⟨hmarks, fun _ hrow => h.intents ▸ hrow, h.approvals⟩

lemma not_pending_of_decides (ha : a ∈ db.approvals.rows)
    (h : Decides db.toGovernanceDb g a.approvalId proposalId d q)
    (hd : ∀ x, (d x).status ≠ .pending) :
    ({ db with toGovernanceDb := g } : ComponentDb).approvalPending a.proposalId = false := by
  by_contra hpending
  obtain ⟨a', ha', hid, hstatus⟩ := approvalPending_iff.mp (Bool.not_eq_false _ ▸ hpending)
  have hrows : g.approvals.rows = db.approvals.rows.map (decideRow a.approvalId d) := h.approvals
  rw [hrows] at ha'
  obtain ⟨c, hc, rfl⟩ := mem_map.mp ha'
  rw [decideRow_terms] at hid
  obtain rfl : c = a := @approval_eq_of_proposal db.toGovernanceDb c a hc ha hid
  unfold decideRow at hstatus
  split at hstatus
  · exact hd _ hstatus
  · rename_i hnot
    exact hnot (by simp [hstatus])

section

variable [Platform]

lemma finishWithoutActivation_audited (hcall : decidedProposal call = some i.proposalId)
    (h : finishWithoutActivation i agent r stamps db.toGovernanceDb = .ok (result, g)) :
    Audited db { db with toGovernanceDb := g } call := by
  obtain ⟨b, hload, hcase⟩ := finishWithoutActivation_eq_ok h
  rcases hcase with ⟨-, rfl, -⟩ | ⟨hpending, -, rfl, db₁, hpersist, hevents⟩
  · exact audited_refl db call
  · obtain ⟨hmem, hid, hproposal⟩ := approval_of_binding hload
    have hdecides := (persistTerminal_decides hpersist).of_onlyJournal
      (appendRefusalEvents_onlyJournal hevents)
    have hbefore : db.approvalPending i.proposalId = true :=
      approvalPending_iff.mpr ⟨b.approval, hmem, hproposal, hpending⟩
    have hafter : ({ db with toGovernanceDb := g } : ComponentDb).approvalPending i.proposalId = false := by
      rw [← hid] at hdecides
      rw [← hproposal]
      refine not_pending_of_decides hmem hdecides fun _ => ?_
      cases r <;> nofun
    obtain ⟨journal, rfl, hmarks⟩ := appendRefusalEvents_reports hevents
    obtain ⟨approvals, proposals, rfl, -, -⟩ := persistTerminal_eq_ok hpersist
    refine ⟨refusalMarks stamps i r, announces_of_relaxes hdecides.evolves.relaxes hmarks,
      .inr ⟨i.proposalId, hcall, ?_⟩⟩
    cases r with
    | rejected =>
      refine .inr ⟨hbefore, hafter, fun p => by simp [decisionMarks, refusalMarks, mark,
        JournalEventKind.storageName], fun p hp => ?_⟩
      simp [decisionMarks, refusalMarks, mark, Ne.symm hp]
    | failed errorCode =>
      refine .inl ⟨hbefore, .inl hafter, fun p => ?_, fun p => by simp [decisionMarks, refusalMarks,
        mark, JournalEventKind.storageName]⟩
      simp [decisionMarks, refusalMarks, mark, JournalEventKind.storageName, countP_cons, eq_comm]

lemma activateTrustedServiceAtomic_audited
    (h : activateTrustedServiceAtomic i intent m receipt agent stamps db = .ok (result, db')) :
    Audited db db' (.activateService i intent m receipt agent stamps) := by
  have hrelaxes := activateTrustedServiceAtomic_relaxes h
  obtain ⟨b, hguards, hcase⟩ := activateTrustedServiceAtomic_eq_ok.mp h
  rcases hcase with ⟨-, rfl, -⟩ | ⟨hpending, s, source, -, target, db₁, decided, recorded, hinstall,
    rfl, hpersist, hevents, rfl⟩
  · exact audited_refl db' _
  · obtain ⟨hmem, hid, hproposal⟩ := approval_of_binding hguards.binding
    have hreports := appendActivationEvents_reports hevents
    have hdecides := (persistTerminal_decides hpersist).of_onlyJournal hreports.onlyJournal
    obtain ⟨receipts, -, tables, -, -, -, -, hinstalled⟩ := installComponent_eq_ok.mp hinstall
    have hafter : ({ db₁ with toGovernanceDb := recorded } : ComponentDb).approvalPending
        i.proposalId = false := by
      rw [← hid] at hdecides
      rw [← hproposal]
      have hmem₁ : b.approval ∈ db₁.approvals.rows := hinstalled ▸ hmem
      exact not_pending_of_decides hmem₁ hdecides fun _ => nofun
    subst hinstalled
    obtain ⟨journal, rfl, hmarks⟩ := hreports
    obtain ⟨approvals, proposals, rfl, -, -⟩ := persistTerminal_eq_ok hpersist
    refine ⟨_, announces_of_relaxes hrelaxes hmarks, .inr ⟨i.proposalId, rfl, .inl
      ⟨approvalPending_iff.mpr ⟨b.approval, hmem, hproposal, hpending⟩, .inl hafter, fun p => ?_,
        fun p => by simp [decisionMarks, mark, JournalEventKind.storageName]⟩⟩⟩
    simp [decisionMarks, mark, JournalEventKind.storageName, countP_cons, eq_comm]

lemma recordTrustedServiceDeploymentIntent_audited
    (h : recordTrustedServiceDeploymentIntent i intent m agent stamps db = .ok db') :
    Audited db db' (.recordDeployment i intent m agent stamps) := by
  obtain ⟨b, hguards, approved, happroved, hcase⟩ := recordTrustedServiceDeploymentIntent_eq_ok.mp h
  obtain ⟨hmem, -, hproposal⟩ := approval_of_binding hguards.binding
  have hpending : db.approvalPending i.proposalId = true := by
    obtain ⟨hstatus, -, -⟩ := validateDecidable_eq_ok.mp (validatePending_eq_ok.mp hguards.pending).1
    exact approvalPending_iff.mpr ⟨b.approval, hmem, hproposal, hstatus⟩
  have hsubject : intent.proposalId = i.proposalId := hguards.bound.1
  have hfirst := (record_reports happroved).1
  rcases hcase with ⟨hfind, rfl⟩ | ⟨-, db₁, recorded, hinsert, hrecorded, rfl⟩
  · obtain ⟨journal, rfl, hmarks⟩ := hfirst
    refine ⟨_, ⟨hmarks, fun _ hrow => hrow, fun _ hp => hp⟩, .inr ⟨i.proposalId, rfl, .inl
      ⟨hpending, .inr ⟨_, mem_of_find?_eq_some hfind, hsubject⟩, fun p => ?_,
        fun p => by simp [decisionMarks, mark, JournalEventKind.storageName]⟩⟩⟩
    simp [decisionMarks, mark, countP_cons, eq_comm]
  · obtain ⟨-, intents, hrows, rfl⟩ := insertIntent_eq_ok.mp hinsert
    obtain ⟨journal, rfl, hmarks⟩ := hfirst.trans (record_reports hrecorded).1
    have hgrows : ∀ row ∈ db.deploymentIntents.rows, row ∈ intents.rows := by
      intro row hrow
      rw [hrows]
      exact mem_append_left _ hrow
    have hrow : (⟨intent, m.componentId⟩ : DeploymentIntentRow) ∈ intents.rows := by
      rw [hrows]
      exact mem_append_right _ mem_cons_self
    obtain ⟨journal₁, rfl⟩ := (record_reports happroved).1.onlyJournal
    refine ⟨_, ⟨hmarks, hgrows, fun _ hp => hp⟩, .inr ⟨i.proposalId, rfl, .inl
      ⟨hpending, .inr ⟨_, hrow, hsubject⟩, fun p => ?_,
        fun p => by simp [decisionMarks, mark, JournalEventKind.storageName]⟩⟩⟩
    simp [decisionMarks, mark, JournalEventKind.storageName, countP_cons, eq_comm]

lemma expireTrustedApproval_audited (call : ComponentCall)
    (h : expireTrustedApproval approvalId agent stamp db.toGovernanceDb = .ok (expired, g)) :
    Audited db { db with toGovernanceDb := g } call := by
  rcases expireTrustedApproval_eq_ok h with ⟨-, rfl⟩ | ⟨a, -, -, -, -, hdecides, g₁, _, _, _, hrecord, hsame⟩
  · exact audited_refl db call
  · obtain ⟨journal, rfl, hmarks⟩ := (record_reports hrecord).1
    rw [hsame] at hmarks
    exact ⟨_, announces_of_relaxes hdecides.evolves.relaxes hmarks,
      .inl fun p => by simp [decisionMarks, mark, JournalEventKind.storageName]⟩

lemma audited_step (h : ∀ db', answerComponent db call = .ok db' → Audited db db' call) :
    Audited db (componentStep db call) call := by
  unfold componentStep
  cases hanswer : answerComponent db call with
  | error e => exact audited_refl db call
  | ok db' => exact h db' hanswer

lemma reject_audited (i : TrustedDecisionIdentity) (agent : AgentId) (stamps : DecisionStamps)
    (db : ComponentDb) : Audited db (componentStep db (.decision (.reject i agent stamps)))
      (.decision (.reject i agent stamps)) := by
  refine audited_step fun db' h => ?_
  obtain ⟨⟨answer, g⟩, hanswer, h⟩ := bind_eq_ok.mp h
  obtain ⟨⟨result, g'⟩, hreject, ⟨⟩⟩ := bind_eq_ok.mp hanswer
  cases h
  exact finishWithoutActivation_audited rfl hreject

lemma fail_audited (i : TrustedDecisionIdentity) (errorCode : String) (agent : AgentId)
    (stamps : DecisionStamps) (db : ComponentDb) :
    Audited db (componentStep db (.decision (.fail i errorCode agent stamps)))
      (.decision (.fail i errorCode agent stamps)) := by
  refine audited_step fun db' h => ?_
  obtain ⟨⟨answer, g⟩, hanswer, h⟩ := bind_eq_ok.mp h
  obtain ⟨⟨result, g'⟩, hfail, ⟨⟩⟩ := bind_eq_ok.mp hanswer
  cases h
  unfold failTrustedActivationAtomic at hfail
  split at hfail
  · exact finishWithoutActivation_audited rfl hfail
  · cases hfail

lemma expire_audited (approvalId : String) (agent : AgentId) (stamp : Stamp) (db : ComponentDb) :
    Audited db (componentStep db (.decision (.expire approvalId agent stamp)))
      (.decision (.expire approvalId agent stamp)) := by
  refine audited_step fun db' h => ?_
  obtain ⟨⟨answer, g⟩, hanswer, h⟩ := bind_eq_ok.mp h
  obtain ⟨⟨expired, g'⟩, hexpire, ⟨⟩⟩ := bind_eq_ok.mp hanswer
  cases h
  exact expireTrustedApproval_audited _ hexpire

lemma activate_audited (i : TrustedDecisionIdentity) (intent : DeploymentIntent)
    (m : ServiceManifest) (receipt : DeploymentReceipt) (agent : AgentId) (stamps : ServiceStamps)
    (db : ComponentDb) :
    Audited db (componentStep db (.activateService i intent m receipt agent stamps))
      (.activateService i intent m receipt agent stamps) := by
  refine audited_step fun db' h => ?_
  obtain ⟨⟨result, db₁⟩, hactivate, ⟨⟩⟩ := bind_eq_ok.mp h
  exact activateTrustedServiceAtomic_audited hactivate

lemma serviceCall_audited (hcall : t.call x = some call) (db : ComponentDb) :
    Audited db (componentStep db call) call := by
  cases t with
  | expiring approvalId agent =>
    cases hcall
    exact expire_audited approvalId agent _ db
  | rejecting r =>
    cases hcall
    exact reject_audited r.identity r.expectedAgent _ db
  | recording r job =>
    cases hcall
    exact audited_step fun _ => recordTrustedServiceDeploymentIntent_audited
  | working job =>
    cases hcall
    unfold DeploymentJob.outcome
    cases x.deployment with
    | noClient | failed => exact fail_audited job.identity DEPLOYMENT_FAILURE job.expectedAgent _ db
    | answered receipt =>
      dsimp only
      cases receipt.validateFor job.intent job.manifest.componentId with
      | error e => exact fail_audited job.identity DEPLOYMENT_FAILURE job.expectedAgent _ db
      | ok _ => exact activate_audited job.identity job.intent job.manifest receipt job.expectedAgent _ db
  | _ => cases hcall

end

/-! ## One decision -/

structure OneDecision (db : ComponentDb) (proposalId : String) : Prop where
  once : decisionEvents .capabilityChangeApproved proposalId db.journal ≤ 1
  never_both : decisionEvents .capabilityChangeApproved proposalId db.journal ≠ 0 →
    decisionEvents .capabilityChangeRejected proposalId db.journal = 0
  approved : decisionEvents .capabilityChangeApproved proposalId db.journal ≠ 0 →
    db.approvalPending proposalId = false ∨
      ∃ row ∈ db.deploymentIntents.rows, row.proposalId = proposalId
  rejected : decisionEvents .capabilityChangeRejected proposalId db.journal ≠ 0 →
    db.approvalPending proposalId = false

lemma Announces.decisionEvents (h : Announces db db' events) (kind : JournalEventKind)
    (proposalId : String) : decisionEvents kind proposalId db'.journal =
      decisionEvents kind proposalId db.journal + decisionMarks kind proposalId events := by
  rw [decisionEvents_eq, decisionEvents_eq, h.marks, decisionMarks, countP_append]
  rfl

lemma Announces.pending_false (h : Announces db db' events) (hp : db.approvalPending p = false) :
    db'.approvalPending p = false :=
  Bool.eq_false_iff.mpr fun htrue => Bool.eq_false_iff.mp hp (h.approvals p htrue)

lemma OneDecision.of_silent (h : OneDecision db p) (hannounces : Announces db db' events)
    (happroved : decisionMarks .capabilityChangeApproved p events = 0)
    (hrejected : decisionMarks .capabilityChangeRejected p events = 0) : OneDecision db' p := by
  have ha := hannounces.decisionEvents .capabilityChangeApproved p
  have hr := hannounces.decisionEvents .capabilityChangeRejected p
  rw [happroved, Nat.add_zero] at ha
  rw [hrejected, Nat.add_zero] at hr
  refine ⟨ha ▸ h.once, ?_, ?_, ?_⟩
  · rw [ha, hr]
    exact h.never_both
  · rw [ha]
    intro hne
    rcases h.approved hne with hpending | ⟨row, hrow, hid⟩
    · exact .inl (hannounces.pending_false hpending)
    · exact .inr ⟨row, hannounces.intents row hrow, hid⟩
  · rw [hr]
    intro hne
    exact hannounces.pending_false (h.rejected hne)

lemma OneDecision.step (h : ∀ p, OneDecision db p) (haudited : Audited db db' call)
    (hunrecorded : ∀ p ∈ decidedProposal call, db.approvalPending p = true → ∀ row ∈ db.deploymentIntents.rows, row.proposalId ≠ p)
    (p : String) : OneDecision db' p := by
  obtain ⟨events, hannounces, hsilent | ⟨q, hq, hreports⟩⟩ := haudited
  · exact (h p).of_silent hannounces (hsilent p).1 (hsilent p).2
  have hnone : db.approvalPending q = true →
      decisionEvents .capabilityChangeApproved q db.journal = 0 ∧
        decisionEvents .capabilityChangeRejected q db.journal = 0 := by
    intro hpending
    constructor
    · by_contra hne
      rcases (h q).approved hne with hdecided | ⟨row, hrow, hid⟩
      · rw [hpending] at hdecided
        cases hdecided
      · exact hunrecorded q hq hpending row hrow hid
    · by_contra hne
      rw [(h q).rejected hne] at hpending
      cases hpending
  have ha := hannounces.decisionEvents .capabilityChangeApproved q
  have hr := hannounces.decisionEvents .capabilityChangeRejected q
  by_cases hpq : p = q
  · subst hpq
    rcases hreports with happroval | hrejection
    · obtain ⟨hzero, hzero'⟩ := hnone happroval.pending
      rw [hzero, happroval.approved, if_pos rfl] at ha
      rw [hzero', happroval.rejected] at hr
      exact ⟨by omega, fun _ => hr, fun _ => happroval.after, fun hne => absurd hr hne⟩
    · obtain ⟨hzero, -⟩ := hnone hrejection.pending
      rw [hzero, hrejection.approved] at ha
      exact ⟨by omega, fun hne => absurd ha hne, fun hne => absurd ha hne, fun _ => hrejection.after⟩
  · rcases hreports with happroval | hrejection
    · exact (h p).of_silent hannounces (by rw [happroval.approved, if_neg hpq]) (happroval.rejected p)
    · exact (h p).of_silent hannounces (hrejection.approved p) (hrejection.rejected p hpq)

section

variable [Platform]

/-- A decision about a pending proposal is reported only while its deployment is not recorded. -/
def Unrecorded (p : ServicePool) : ServiceAct → Prop
  | .advance k x => ∀ t ∈ p.threads[k]?, ∀ call ∈ t.call x, ∀ q ∈ decidedProposal call,
    p.shared.db.approvalPending q = true →
      ∀ row ∈ p.shared.db.deploymentIntents.rows, row.proposalId ≠ q
  | _ => True

instance (p : ServicePool) : ∀ a, Decidable (Unrecorded p a)
  | .advance k x => inferInstanceAs (Decidable (∀ t ∈ p.threads[k]?, ∀ call ∈ t.call x,
      ∀ q ∈ decidedProposal call, _ → _))
  | .spawn _ | .crash | .other _ => isTrue trivial

lemma oneDecision_step {p : ServicePool}
    (h : ∀ q, OneDecision p.shared.db q) (ha : Unrecorded p a) (q : String) :
    OneDecision (p.step (serviceMachine store) a).shared.db q := by
  cases a with
  | spawn b => exact h q
  | crash => exact h q
  | advance k x =>
    cases hthread : p.threads[k]? with
    | none =>
      rw [step_advance_none hthread]
      exact h q
    | some t =>
      rw [step_advance hthread]
      show OneDecision (t.act store x p.shared).2.db q
      rw [ServiceThread.act_db]
      cases hcall : t.call x with
      | none => exact h q
      | some call =>
        exact .step h (serviceCall_audited hcall p.shared.db) (ha t hthread call hcall) q
  | other o =>
    cases o with
    | restart => exact h q
    | expire approvalId agent stamp =>
      exact .step h (expire_audited approvalId agent stamp p.shared.db) nofun q

theorem one_decision_per_proposal {store : ContentStore} {s : ServiceState}
    (hstart : ∀ q, decisionEvents .capabilityChangeApproved q s.db.journal = 0 ∧
      decisionEvents .capabilityChangeRejected q s.db.journal = 0)
    {acts : List ServiceAct}
    (h : Along (step (serviceMachine store)) Unrecorded ⟨s, []⟩ acts) (proposalId : String) :
    decisionEvents .capabilityChangeApproved proposalId
        (run (step (serviceMachine store)) ⟨s, []⟩ acts).shared.db.journal ≤ 1 ∧
      ¬ (decisionEvents .capabilityChangeApproved proposalId
          (run (step (serviceMachine store)) ⟨s, []⟩ acts).shared.db.journal ≠ 0 ∧
        decisionEvents .capabilityChangeRejected proposalId
          (run (step (serviceMachine store)) ⟨s, []⟩ acts).shared.db.journal ≠ 0) := by
  have hinit : ∀ q, OneDecision s.db q := fun q =>
    ⟨by rw [(hstart q).1]; exact Nat.zero_le 1, fun _ => (hstart q).2,
      fun hne => absurd (hstart q).1 hne, fun hne => absurd (hstart q).2 hne⟩
  have hfinal := h.invariant (I := fun p : ServicePool => ∀ q, OneDecision p.shared.db q)
    (fun _ _ hp ha => oneDecision_step hp ha) hinit proposalId
  exact ⟨hfinal.once, fun hboth => hboth.2 (hfinal.never_both hboth.1)⟩

end

/-! ## An approval that is reported twice -/

section

local instance : Platform := zeroPlatform

def failedInput : ServiceInput := ⟨2, "e3", "e4", "e5", "e6", true, .failed⟩

theorem one_decision_per_proposal_failed_deployment :
    (∀ q, decisionEvents .capabilityChangeApproved q (serviceDb .empty .empty).journal = 0 ∧
      decisionEvents .capabilityChangeRejected q (serviceDb .empty .empty).journal = 0) ∧
    decisionEvents .capabilityChangeApproved "p"
      (run (step (serviceMachine sampleStore)) ⟨⟨serviceDb .empty .empty, []⟩, []⟩
        (approveActs ++ [.advance 0 failedInput])).shared.db.journal = 2 := by
  have htwice : decisionEvents .capabilityChangeApproved "p"
      (run (step (serviceMachine sampleStore)) ⟨⟨serviceDb .empty .empty, []⟩, []⟩
        (approveActs ++ [.advance 0 failedInput])).shared.db.journal = 2 := by
    decide +kernel
  exact ⟨fun q => ⟨rfl, rfl⟩, htwice⟩

lemma approveActs_unrecorded :
    Along (step (serviceMachine sampleStore)) Unrecorded ⟨⟨serviceDb .empty .empty, []⟩, []⟩
      approveActs := by
  decide +kernel

theorem one_decision_per_proposal_recorded :
    decisionEvents .capabilityChangeApproved "p" (run (step (serviceMachine sampleStore))
      ⟨⟨serviceDb .empty .empty, []⟩, []⟩ approveActs).shared.db.journal ≤ 1 :=
  (one_decision_per_proposal (fun _ => ⟨rfl, rfl⟩) approveActs_unrecorded "p").1

end

end AgentCore.Server
