import AgentCore.Journal.ComponentSettles
import AgentCore.Server.ServiceDecision

/-! What a deployment worker leaves behind. Its one transaction may be refused, and then the
approval stays pending with nobody left to decide it. -/

namespace AgentCore.Server

open Foundation Journal List Pool
open Domain hiding OperationSpec RegistrySnapshot

variable {db : GovernanceDb} {proposalId : String} {i : TrustedDecisionIdentity} {agent : AgentId}
  {x : ServiceInput} {store : ContentStore} {p : ServicePool} {stamps : DecisionStamps}
  {t : ServiceThread} {r : ServiceRequest}

def TerminalApproval (db : GovernanceDb) (proposalId : String) : Prop :=
  ∃ a ∈ db.approvals.rows, a.proposalId = proposalId ∧ a.status ≠ .pending

instance (db : GovernanceDb) (proposalId : String) : Decidable (TerminalApproval db proposalId) :=
  inferInstanceAs (Decidable (∃ a ∈ db.approvals.rows, _))

lemma terminal_of_decides (ha : a ∈ db.approvals.rows) (hpending : a.status = .pending)
    (h : Decides db g a.approvalId proposalId d q) (hd : ∀ x, (d x).status ≠ .pending) :
    TerminalApproval g a.proposalId := by
  refine ⟨decideRow a.approvalId d a, h.approvals ▸ mem_map_of_mem ha, ?_, ?_⟩
  · rw [decideRow_terms]
  · rw [decideRow, if_pos (by simp [hpending])]
    exact hd _

lemma TerminalApproval.of_evolves {db db' : GovernanceDb} (h : TerminalApproval db proposalId)
    (hevolves : Evolves db db' f g) : TerminalApproval db' proposalId := by
  obtain ⟨a, ha, hid, hdecided⟩ := h
  exact ⟨a, hevolves.mem_of_decided ha hdecided, hid, hdecided⟩

section

variable [Platform]

lemma TerminalApproval.binding (h : TerminalApproval db i.proposalId)
    (hbinding : loadValidatedBinding db i agent = .ok b) : b.approval.status ≠ .pending := by
  obtain ⟨a, ha, hid, hdecided⟩ := h
  obtain ⟨hmem, -, hproposal⟩ := approval_of_binding hbinding
  rw [approval_eq_of_proposal hmem ha (hproposal.trans hid.symm)]
  exact hdecided

variable {db : ComponentDb}

/-! ## The two ends of a deployment -/

structure FailureStored (i : TrustedDecisionIdentity) (agent : AgentId) (stamps : DecisionStamps)
    (db : GovernanceDb) (b : Binding) : Prop where
  binding : loadValidatedBinding db i agent = .ok b
  decidable : validateDecidable b stamps.now = .ok ()
  decision_unused : DecisionUnused i.decisionId db
  events_fresh : Fresh [stamps.approved, stamps.outcome] db.journal

lemma componentStep_fail (hcode : validErrorCode errorCode = true) :
    (componentStep db (.decision (.fail i errorCode agent stamps))).toGovernanceDb =
      commit db.toGovernanceDb
        ((finishWithoutActivation i agent (.failed errorCode) stamps db.toGovernanceDb).map Prod.snd) := by
  rw [componentStep, answerComponent, answerDecision, failTrustedActivationAtomic, if_pos hcode]
  cases finishWithoutActivation i agent (.failed errorCode) stamps db.toGovernanceDb <;> rfl

lemma fail_terminal_iff (hcode : validErrorCode errorCode = true) :
    TerminalApproval (componentStep db (.decision (.fail i errorCode agent stamps))).toGovernanceDb
        i.proposalId ↔ TerminalApproval db.toGovernanceDb i.proposalId ∨
        ∃ b, FailureStored i agent stamps db.toGovernanceDb b := by
  rw [componentStep_fail hcode]
  constructor
  · intro h
    match hfinish : finishWithoutActivation i agent (.failed errorCode) stamps db.toGovernanceDb with
    | .error e =>
      rw [hfinish] at h
      exact .inl h
    | .ok (result, g) =>
      rw [hfinish] at h
      rcases finishWithoutActivation_takes hfinish with ⟨b, -, -, rfl, -⟩ | ⟨-, b, htakes⟩
      · exact .inl h
      · obtain ⟨hdecidable, hunused, hfresh⟩ :=
          (fail_ok htakes.binding htakes.pending).mp ⟨result, g, hfinish⟩
        exact .inr ⟨b, htakes.binding, hdecidable, hunused, hfresh⟩
  · rintro (h | ⟨b, hstored⟩)
    · match hfinish : finishWithoutActivation i agent (.failed errorCode) stamps db.toGovernanceDb with
      | .error e => exact h
      | .ok (result, g) =>
        rcases finishWithoutActivation_takes hfinish with ⟨b, -, -, rfl, -⟩ | ⟨-, b, htakes⟩
        · exact h
        · exact absurd htakes.pending (h.binding htakes.binding)
    · obtain ⟨hpending, -, -⟩ := validateDecidable_eq_ok.mp hstored.decidable
      obtain ⟨result, g, hfinish⟩ : ∃ result g, finishWithoutActivation i agent (.failed errorCode)
          stamps db.toGovernanceDb = .ok (result, g) :=
        (fail_ok hstored.binding hpending).mpr
          ⟨hstored.decidable, hstored.decision_unused, hstored.events_fresh⟩
      rw [hfinish]
      rcases finishWithoutActivation_takes hfinish with ⟨b', hload, hdecided, -⟩ | ⟨rfl, b', htakes⟩
      · cases hstored.binding.symm.trans hload
        exact absurd hpending hdecided
      · obtain ⟨hmem, hid, hproposal⟩ := approval_of_binding htakes.binding
        have hdecides := htakes.decides
        rw [← hid] at hdecides
        rw [← hproposal]
        exact terminal_of_decides hmem htakes.pending hdecides fun _ => nofun

lemma activate_terminal_iff {stamps : ServiceStamps} : TerminalApproval
        (componentStep db (.activateService i intent m receipt agent stamps)).toGovernanceDb i.proposalId ↔
      TerminalApproval db.toGovernanceDb i.proposalId ∨ ∃ b s source,
        ServiceActivates i intent m receipt agent stamps db b s source := by
  rw [componentStep, answerComponent]
  constructor
  · intro h
    cases hactivate : activateTrustedServiceAtomic i intent m receipt agent stamps db with
    | error e =>
      rw [hactivate] at h
      exact .inl h
    | ok answer =>
      obtain ⟨result, db'⟩ := answer
      rw [hactivate] at h
      obtain ⟨b, hguards, ⟨-, rfl, -⟩ | ⟨hpending, -⟩⟩ :=
        activateTrustedServiceAtomic_eq_ok.mp hactivate
      · exact .inl h
      · obtain ⟨s, source, hactivates⟩ :=
          (activateTrustedServiceAtomic_ok hguards.binding hpending).mp ⟨result, db', hactivate⟩
        exact .inr ⟨b, s, source, hactivates⟩
  · rintro (h | ⟨b, s, source, hactivates⟩)
    · cases hactivate : activateTrustedServiceAtomic i intent m receipt agent stamps db with
      | error e => exact h
      | ok answer =>
        obtain ⟨b, hguards, ⟨-, rfl, -⟩ | ⟨hpending, -⟩⟩ :=
          activateTrustedServiceAtomic_eq_ok.mp hactivate
        · exact h
        · exact absurd hpending (h.binding hguards.binding)
    · obtain ⟨hpending, -, -⟩ :=
        validateDecidable_eq_ok.mp (validatePending_eq_ok.mp hactivates.follows.pending).1
      obtain ⟨result, db', hactivate⟩ :=
        (activateTrustedServiceAtomic_ok hactivates.guards.binding hpending).mpr ⟨s, source, hactivates⟩
      rw [hactivate]
      show TerminalApproval db'.toGovernanceDb i.proposalId
      obtain ⟨b', hguards, ⟨hdecided, -⟩ | ⟨-, s', source', -, target, db₁, decided, recorded, hinstall,
        rfl, hpersist, hevents, rfl⟩⟩ := activateTrustedServiceAtomic_eq_ok.mp hactivate
      · cases hactivates.guards.binding.symm.trans hguards.binding
        exact absurd hpending hdecided
      · obtain ⟨hmem, hid, hproposal⟩ := approval_of_binding hactivates.guards.binding
        have hdecides := (persistTerminal_decides hpersist).of_onlyJournal
          (appendActivationEvents_reports hevents).onlyJournal
        obtain ⟨receipts, -, tables, -, -, -, -, rfl⟩ := installComponent_eq_ok.mp hinstall
        rw [← hid] at hdecides
        rw [← hproposal]
        exact terminal_of_decides hmem hpending hdecides fun _ h => by cases h

/-! ## The worker -/

def DeploymentJob.receipt (job : DeploymentJob) (x : ServiceInput) : Option DeploymentReceipt :=
  match x.deployment with
  | .noClient | .failed => none
  | .answered receipt =>
    match receipt.validateFor job.intent job.manifest.componentId with
    | .error _ => none
    | .ok _ => some receipt

/-- What the transaction of a worker needs: of a failure that it can be stored, of a receipt
that the service can still be activated. -/
def Completes (job : DeploymentJob) (x : ServiceInput) (db : ComponentDb) : Prop :=
  match job.receipt x with
  | none => ∃ b, FailureStored job.identity job.expectedAgent x.decisionStamps db.toGovernanceDb b
  | some receipt => ∃ b s source, ServiceActivates job.identity job.intent job.manifest receipt
    job.expectedAgent x.serviceStamps db b s source

lemma worker_terminal_iff (job : DeploymentJob) (x : ServiceInput) (db : ComponentDb) :
    TerminalApproval (runBackgroundServiceDeployment job x db).toGovernanceDb job.identity.proposalId ↔
      TerminalApproval db.toGovernanceDb job.identity.proposalId ∨ Completes job x db := by
  have hcode : validErrorCode DEPLOYMENT_FAILURE = true := by decide +kernel
  rw [runBackgroundServiceDeployment_eq]
  unfold DeploymentJob.outcome Completes DeploymentJob.receipt
  cases x.deployment with
  | noClient | failed => exact fail_terminal_iff hcode
  | answered receipt =>
    dsimp only
    cases receipt.validateFor job.intent job.manifest.componentId with
    | error e => exact fail_terminal_iff hcode
    | ok _ => exact activate_terminal_iff

/-! ## Later requests -/

lemma decision_evolves (c : DecisionCall) (db : ComponentDb) : ∃ f g,
    Evolves db.toGovernanceDb (componentStep db (.decision c)).toGovernanceDb f g := by
  have hstep : (componentStep db (.decision c)).toGovernanceDb = decisionStep db.toGovernanceDb c := by
    rw [componentStep, answerComponent, decisionStep]
    cases answerDecision db.toGovernanceDb c <;> rfl
  rw [hstep]
  exact evolves_step db.toGovernanceDb c

lemma serviceCall_evolves (hcall : t.call x = some call) (db : ComponentDb) :
    ∃ f g, Evolves db.toGovernanceDb (componentStep db call).toGovernanceDb f g := by
  cases t with
  | expiring approvalId agent | rejecting r =>
    cases hcall
    exact decision_evolves _ db
  | recording r job =>
    cases hcall
    rw [componentStep, answerComponent]
    cases hrecord : recordTrustedServiceDeploymentIntent job.identity job.intent job.manifest
        job.expectedAgent x.intentStamps db with
    | error e => exact ⟨id, id, .refl _⟩
    | ok db' => exact ⟨id, id, (recordTrustedServiceDeploymentIntent_onlyJournal hrecord).evolves⟩
  | working job =>
    cases hcall
    unfold DeploymentJob.outcome
    cases x.deployment with
    | noClient | failed => exact decision_evolves _ db
    | answered receipt =>
      dsimp only
      cases receipt.validateFor job.intent job.manifest.componentId with
      | error e => exact decision_evolves _ db
      | ok _ =>
        dsimp only
        rw [componentStep, answerComponent]
        cases hactivate : activateTrustedServiceAtomic job.identity job.intent job.manifest receipt
            job.expectedAgent x.serviceStamps db with
        | error e => exact ⟨id, id, .refl _⟩
        | ok answer => exact activateTrustedServiceAtomic_evolves hactivate
  | _ => cases hcall

lemma terminalApproval_step (a : ServiceAct)
    (h : TerminalApproval p.shared.db.toGovernanceDb proposalId) :
    TerminalApproval (p.step (serviceMachine store) a).shared.db.toGovernanceDb proposalId := by
  cases a with
  | spawn b => exact h
  | crash => exact h
  | advance k x =>
    cases hthread : p.threads[k]? with
    | none =>
      rw [step_advance_none hthread]
      exact h
    | some t =>
      rw [step_advance hthread]
      show TerminalApproval (t.act store x p.shared).2.db.toGovernanceDb proposalId
      rw [ServiceThread.act_db]
      cases hcall : t.call x with
      | none => exact h
      | some call =>
        obtain ⟨f, g, hevolves⟩ := serviceCall_evolves hcall p.shared.db
        exact h.of_evolves hevolves
  | other o =>
    cases o with
    | restart => exact h
    | expire approvalId agent stamp =>
      obtain ⟨f, g, hevolves⟩ := decision_evolves (.expire approvalId agent stamp) p.shared.db
      exact h.of_evolves hevolves

def AnswersPending (proposalId : String) : ServiceThread → Prop
  | .answered (.ok v) => v.get "proposal_id" = some (.str proposalId) ∧
    v.get "status" = some (.str "deployment_pending")
  | _ => False

def Stopped (proposalId : String) : ServiceThread → Prop
  | .replaying r _ | .answering r _ => r.identity.proposalId = r.proposalId
  | .rejecting r | .loading r | .checking r | .verifying r => r.proposalId ≠ proposalId
  | .recording r _ | .registering r _ | .spawning r _ => r.proposalId ≠ proposalId
  | .answered (.ok v) => ¬ AnswersPending proposalId (.answered (.ok v))
  | _ => True

omit [Platform] in
lemma response_not_pending (proposalId : String) (r : ServiceRequest) (result : TrustedDecisionResult) :
    ¬ AnswersPending proposalId (.answered (.ok (response r result))) := by
  rintro ⟨-, hstatus⟩
  have hget : (response r result).get "status" = some (.str (responseStatus result.status)) :=
    Json.get_mkObj_of_mem (by simp) (by simp)
  rw [hget] at hstatus
  cases hs : result.status <;> rw [hs] at hstatus <;> simp [responseStatus] at hstatus

lemma replayResponse_not_pending
    (h : replayResponse db r result = .ok v) : ¬ AnswersPending proposalId (.answered (.ok v)) := by
  unfold replayResponse at h
  split at h
  · cases h
    exact response_not_pending proposalId r result
  · split at h
    · cases h
    · obtain ⟨snapshot, -, h⟩ := bind_eq_ok.mp h
      split at h
      · cases h
      · cases h
        rintro ⟨-, hstatus⟩
        simp [Json.get_mkObj, List.lookup_cons] at hstatus

omit [Platform] in
lemma pendingResponse_other (h : r.proposalId ≠ proposalId) :
    ¬ AnswersPending proposalId (.answered (.ok (pendingResponse r))) := by
  rintro ⟨hproposal, -⟩
  have hget : (pendingResponse r).get "proposal_id" = some (.str r.proposalId) :=
    Json.get_mkObj_of_mem (by simp) (by simp)
  rw [hget] at hproposal
  exact h (Json.str.inj (Option.some.inj hproposal))

lemma stopped_act
    (hterminal : TerminalApproval s.db.toGovernanceDb proposalId) (h : Stopped proposalId t) :
    Stopped proposalId (t.act store x s).1 := by
  cases t with
  | received p body agent =>
    show Stopped proposalId (.ofExcept (receive x.now p body agent s.db.toGovernanceDb))
    match hreceive : receive x.now p body agent s.db.toGovernanceDb with
    | .error e => trivial
    | .ok u =>
      obtain ⟨input, -, hreceive⟩ := bind_eq_ok.mp hreceive
      split at hreceive
      · cases hreceive
      · split at hreceive
        · cases hreceive
        · split at hreceive
          · cases hreceive
            trivial
          · split at hreceive
            · cases hreceive
            · cases hreceive
              exact rfl
  | expiring approvalId agent =>
    show Stopped proposalId (ServiceThread.transact s _ _).1
    unfold ServiceThread.transact
    split <;> trivial
  | replaying r expected =>
    show Stopped proposalId (.ofExcept (replayed r expected s.db.toGovernanceDb))
    match hreplayed : replayed r expected s.db.toGovernanceDb with
    | .error e => trivial
    | .ok u =>
      obtain ⟨answer, hanswer, hreplayed⟩ := bind_eq_ok.mp hreplayed
      have hreplay := mapError_eq_ok.mp hanswer
      obtain ⟨-, -, b, hbinding, hcase⟩ := replayTrustedCapabilityDecision_eq_ok.mp hreplay
      rcases hcase with ⟨hpending, rfl⟩ | ⟨-, result, rfl, -⟩
      · -- Only a request about another proposal finds its approval pending.
        have hother : r.proposalId ≠ proposalId := by
          rintro rfl
          rw [← show r.identity.proposalId = r.proposalId from h] at hterminal
          exact hterminal.binding hbinding hpending
        dsimp only at hreplayed
        split at hreplayed
        · cases hreplayed
          exact hother
        · cases hreplayed
          exact hother
      · cases hreplayed
        exact h
  | answering r result =>
    show Stopped proposalId (.answered (replayResponse s.db r result))
    match hresponse : replayResponse s.db r result with
    | .error e => trivial
    | .ok v => exact replayResponse_not_pending hresponse
  | rejecting r =>
    show Stopped proposalId (ServiceThread.transact s _ _).1
    unfold ServiceThread.transact
    split
    · trivial
    · exact response_not_pending proposalId r _
  | loading r =>
    show Stopped proposalId (.ofExcept (.map _ _))
    cases loadProposal s.db.toGovernanceDb r.proposalId with
    | error e => trivial
    | ok p => exact h
  | checking r | registering r job =>
    simp only [ServiceThread.act]
    split
    · exact pendingResponse_other h
    · exact h
  | verifying r =>
    show Stopped proposalId (.ofExcept (.map _ _))
    cases verifyServiceCandidate s.db.toGovernanceDb store r.proposalId r.identity with
    | error e => trivial
    | ok m => exact h
  | recording r job =>
    show Stopped proposalId (ServiceThread.transact s _ _).1
    unfold ServiceThread.transact
    split
    · trivial
    · exact h
  | spawning r job =>
    simp only [ServiceThread.act]
    split <;> trivial
  | answered answer => exact h
  | working job => trivial
  | cleaning decisionId => trivial
  | finished => trivial

structure LaterStopped (n : Nat) (proposalId : String) (p : ServicePool) : Prop where
  terminal : TerminalApproval p.shared.db.toGovernanceDb proposalId
  threads : ∀ j, n ≤ j → ∀ t, p.threads[j]? = some t → Stopped proposalId t

lemma LaterStopped.step (h : LaterStopped n proposalId p) (a : ServiceAct) :
    LaterStopped n proposalId (p.step (serviceMachine store) a) := by
  refine ⟨terminalApproval_step a h.terminal, fun j hj t ht => ?_⟩
  cases a with
  | spawn b =>
    rw [Pool.step, getElem?_append] at ht
    split at ht
    · exact h.threads j hj t ht
    · rw [getElem?_singleton] at ht
      split at ht
      · cases ht
        trivial
      · cases ht
  | advance i x =>
    cases hthread : p.threads[i]? with
    | none =>
      rw [step_advance_none hthread] at ht
      exact h.threads j hj t ht
    | some u =>
      rw [step_advance hthread, getElem?_set] at ht
      split at ht
      · rename_i hij
        split at ht
        · cases ht
          exact stopped_act h.terminal (h.threads i (hij ▸ hj) u hthread)
        · cases ht
      · exact h.threads j hj t ht
  | crash =>
    rw [Pool.step, getElem?_map] at ht
    obtain ⟨u, -, rfl⟩ := Option.map_eq_some_iff.mp ht
    trivial
  | other o => exact h.threads j hj t ht

lemma later_request_not_pending (h : TerminalApproval p.shared.db.toGovernanceDb proposalId)
    (acts : List ServiceAct) :
    ∀ t ∈ (run (step (serviceMachine store)) p acts).threads.drop p.threads.length,
      ¬ AnswersPending proposalId t := by
  have hstart : LaterStopped p.threads.length proposalId p := by
    refine ⟨h, fun j hj t ht => ?_⟩
    rw [getElem?_eq_none hj] at ht
    cases ht
  have hrun : LaterStopped p.threads.length proposalId (run (step (serviceMachine store)) p acts) :=
    run_invariant (fun _ a hq => hq.step a) acts hstart
  intro t ht
  obtain ⟨k, hk⟩ := mem_iff_getElem?.mp ht
  rw [getElem?_drop] at hk
  have hstopped := hrun.threads _ (Nat.le_add_right _ k) t hk
  cases t with
  | answered answer =>
    cases answer with
    | ok v => exact hstopped
    | error e => exact fun hf => hf
  | _ => exact fun hf => hf

end

section

variable [Platform]

/-- A worker leaves a decided approval exactly if the approval was decided before or its own
transaction goes through, and only then nobody is told to wait for it. -/
theorem finished_worker_leaves_decision (job : DeploymentJob) (x : ServiceInput) (db : ComponentDb) :
    (TerminalApproval (runBackgroundServiceDeployment job x db).toGovernanceDb job.identity.proposalId ↔
      TerminalApproval db.toGovernanceDb job.identity.proposalId ∨ Completes job x db) ∧
    (TerminalApproval (runBackgroundServiceDeployment job x db).toGovernanceDb job.identity.proposalId →
      ∀ (store : ContentStore) (p : ServicePool),
        p.shared.db = runBackgroundServiceDeployment job x db → ∀ acts : List ServiceAct,
          ∀ t ∈ (run (step (serviceMachine store)) p acts).threads.drop p.threads.length,
            ¬ AnswersPending job.identity.proposalId t) := by
  refine ⟨worker_terminal_iff job x db, fun h store p hp acts => ?_⟩
  rw [← hp] at h
  exact later_request_not_pending h acts

end

/-! ## A deployment whose activation is refused -/

section

local instance : Platform := zeroPlatform

def approveBody : TrustedDecisionBody where
  decision := "approved"
  approvalId := "approval_" ++ "p"
  decisionNonce := sampleNonce "p"
  principalId := sampleOwner
  expectedSourceSnapshotId := "s"
  candidateDigest := zeroDigest
  artifactDigest := zeroDigest
  manifestDigest := zeroDigest

def approveJson : Json :=
  .mkObj
    [("decision", .str approveBody.decision), ("approval_id", .str approveBody.approvalId),
      ("decision_nonce", .str approveBody.decisionNonce),
      ("principal_id", .str approveBody.principalId),
      ("expected_source_snapshot_id", .str approveBody.expectedSourceSnapshotId),
      ("candidate_digest", .str approveBody.candidateDigest),
      ("artifact_digest", .str approveBody.artifactDigest),
      ("manifest_digest", .str approveBody.manifestDigest)]

def sampleDecisionId : String := "decision_0000000000000000000000000000000000000000000000000000000000000000"

def approveRequest : ServiceRequest := ⟨"p", approveBody, sampleDecision "p" sampleDecisionId, "main"⟩

def approveSpawn : ServiceAct := .spawn ⟨"p", approveJson, "main"⟩

def sampleStore : ContentStore := ⟨fun _ => some "", fun _ => some sampleService⟩

def sampleJob : DeploymentJob := approveRequest.job sampleService

def approveInput : ServiceInput := ⟨1, "e1", "e2", "", "", true, .noClient⟩

def approveActs : List ServiceAct :=
  [approveSpawn, .advance 0 approveInput, .advance 0 approveInput, .advance 0 approveInput] ++
    [.advance 0 approveInput, .advance 0 approveInput, .advance 0 approveInput, .advance 0 approveInput,
      .advance 0 approveInput]

/-- The receipt claims to replace an artifact, but no version of the service is registered. -/
def sampleReceiptBase : DeploymentReceipt where
  protocolVersion := DEPLOYMENT_PROTOCOL
  receiptId := ""
  invocationId := sampleJob.intent.invocationId
  intentId := sampleJob.intent.intentId
  proposalId := sampleJob.intent.proposalId
  decisionId := sampleJob.intent.decisionId
  deploymentId := sampleJob.intent.deploymentId "svc"
  componentId := "svc"
  serviceManifestDigest := sampleJob.intent.serviceManifestDigest
  artifactDigest := sampleJob.intent.artifactDigest
  version := sampleJob.intent.expectedVersion
  status := "healthy"
  endpoint := "http://127.0.0.1:1"
  healthStatus := "ready"
  logRef := "l"
  previousArtifactDigest := some zeroDigest
  startedAt := some 1
  finishedAt := some 1
  replayed := false

def sampleReceipt : DeploymentReceipt :=
  { sampleReceiptBase with receiptId := sampleReceiptBase.expectedReceiptId }

def refusedInput : ServiceInput := ⟨2, "e3", "e4", "e5", "e6", true, .answered sampleReceipt⟩

deriving instance DecidableEq for ServiceRequest, DeploymentJob, ServiceThread

def approvedPool : ServicePool :=
  run (step (serviceMachine sampleStore)) ⟨⟨serviceDb .empty .empty, []⟩, []⟩ approveActs

lemma approvedPool_refused : approvedPool.shared.activeWorkers = [sampleDecisionId] ∧
    approvedPool.threads = [.working sampleJob] ∧
    ¬ TerminalApproval (runBackgroundServiceDeployment sampleJob refusedInput
      approvedPool.shared.db).toGovernanceDb "p" ∧ (run (step (serviceMachine sampleStore))
      ⟨⟨runBackgroundServiceDeployment sampleJob refusedInput approvedPool.shared.db, []⟩, []⟩
      [approveSpawn, .advance 0 approveInput, .advance 0 approveInput, .advance 0 approveInput,
        .advance 0 approveInput]).threads = [.answered (.ok (pendingResponse approveRequest))] := by
  decide +kernel

/-- The worker ends, the approval is pending, and the next request is told to wait for it. -/
theorem finished_worker_leaves_decision_refused : ∃ db,
    run (step (serviceMachine sampleStore)) ⟨⟨serviceDb .empty .empty, []⟩, []⟩ approveActs =
      ⟨⟨db, [sampleDecisionId]⟩, [.working sampleJob]⟩ ∧
    ¬ TerminalApproval (runBackgroundServiceDeployment sampleJob refusedInput db).toGovernanceDb "p" ∧
    ∃ t, (run (step (serviceMachine sampleStore))
      ⟨⟨runBackgroundServiceDeployment sampleJob refusedInput db, []⟩, []⟩
      [approveSpawn, .advance 0 approveInput, .advance 0 approveInput, .advance 0 approveInput,
        .advance 0 approveInput]).threads = [t] ∧ AnswersPending "p" t := by
  obtain ⟨hworkers, hthreads, hpending, hanswer⟩ := approvedPool_refused
  refine ⟨approvedPool.shared.db, ?_, hpending, _, hanswer, ?_⟩
  · rw [← hworkers, ← hthreads]
    rfl
  · exact ⟨Json.get_mkObj_of_mem (by simp) (by simp; rfl), Json.get_mkObj_of_mem (by simp) (by simp)⟩

end

end AgentCore.Server
