import AgentCore.Journal.ComponentSpec

/-! At most one effect on a component is in flight. Most calls only end effects; the two that
start one look for others first, the deployment under a status that no waiting one has. -/

namespace AgentCore.Journal

open Foundation Harness Registry List SqlTable
open Domain hiding OperationSpec RegistrySnapshot

namespace ComponentDb

def waiting (db : ComponentDb) (row : DeploymentIntentRow) : Bool :=
  !db.hasReceipt row && db.approvalPending row.proposalId

def deploymentsWaiting (db : ComponentDb) (componentId : String) : Nat :=
  db.deploymentIntents.count fun row => row.componentId = componentId && db.waiting row

def effectsInFlight (db : ComponentDb) (componentId : String) : Nat :=
  db.deploymentsWaiting componentId + db.pendingControls componentId

end ComponentDb

/-! ## Calls -/

variable {db db' : ComponentDb} {i : TrustedDecisionIdentity} {intent : DeploymentIntent}
  {m : ServiceManifest} {agent : AgentId} {stamps : IntentStamps}
  {receipt : ComponentControlReceipt} {decisionId proposal : String}
  {controls : SqlTable controlIntentSchema} {proposalId : String}

inductive ComponentCall
  | recordDeployment (i : TrustedDecisionIdentity) (intent : DeploymentIntent) (m : ServiceManifest)
      (agent : AgentId) (stamps : IntentStamps)
  | activateService (i : TrustedDecisionIdentity) (intent : DeploymentIntent) (m : ServiceManifest)
      (receipt : DeploymentReceipt) (agent : AgentId) (stamps : ServiceStamps)
  | decision (call : DecisionCall)
  | recordControl (intent : ComponentControlIntent) (owner : String) (stamp : Stamp)
  | failControl (decisionId : String)
  | settleControl (intent : ComponentControlIntent) (receipt : ComponentControlReceipt)
      (stamps : ControlStamps)

section

variable [Platform]

def answerComponent (db : ComponentDb) : ComponentCall → Except String ComponentDb
  | .recordDeployment i intent m agent stamps =>
    recordTrustedServiceDeploymentIntent i intent m agent stamps db
  | .activateService i intent m receipt agent stamps => do
    let (_, db) ← activateTrustedServiceAtomic i intent m receipt agent stamps db
    return db
  | .decision call => do
    let (_, g) ← answerDecision db.toGovernanceDb call
    return { db with toGovernanceDb := g }
  | .recordControl intent owner stamp => recordComponentControlIntent intent owner stamp db
  | .failControl decisionId => failComponentControlIntent decisionId db
  | .settleControl intent receipt stamps => do
    let (_, db) ← settleComponentControlAtomic intent receipt stamps db
    return db

def componentStep (db : ComponentDb) (call : ComponentCall) : ComponentDb :=
  commit db (answerComponent db call)

end

/-! ## Calls that only end effects -/

structure Relaxes (db db' : ComponentDb) : Prop where
  intents : db'.deploymentIntents = db.deploymentIntents
  receipts : ∀ r ∈ db.deploymentReceipts.rows, r ∈ db'.deploymentReceipts.rows
  approvals : ∀ proposalId, db'.approvalPending proposalId = true → db.approvalPending proposalId = true
  controls : ∀ componentId, db'.pendingControls componentId ≤ db.pendingControls componentId

namespace Relaxes

lemma refl (db : ComponentDb) : Relaxes db db :=
  ⟨rfl, fun _ h => h, fun _ h => h, fun _ => le_rfl⟩

lemma trans (h : Relaxes db db') (h' : Relaxes db' db'') : Relaxes db db'' where
  intents := h'.intents.trans h.intents
  receipts r hr := h'.receipts r (h.receipts r hr)
  approvals p hp := h.approvals p (h'.approvals p hp)
  controls c := (h'.controls c).trans (h.controls c)

lemma waiting (h : Relaxes db db') {row : DeploymentIntentRow} (hrow : db'.waiting row = true) :
    db.waiting row = true := by
  simp only [ComponentDb.waiting, Bool.and_eq_true, Bool.not_eq_true', ComponentDb.hasReceipt,
    any_eq_false] at hrow ⊢
  exact ⟨fun r hr => hrow.1 r (h.receipts r hr), h.approvals _ hrow.2⟩

lemma deploymentsWaiting_le (h : Relaxes db db') (componentId : String) :
    db'.deploymentsWaiting componentId ≤ db.deploymentsWaiting componentId := by
  rw [ComponentDb.deploymentsWaiting, h.intents]
  refine countP_mono_left fun row _ hrow => ?_
  simp only [Bool.and_eq_true] at hrow ⊢
  exact ⟨hrow.1, h.waiting hrow.2⟩

lemma effects_le (h : Relaxes db db') (componentId : String) :
    db'.effectsInFlight componentId ≤ db.effectsInFlight componentId :=
  add_le_add (h.deploymentsWaiting_le componentId) (h.controls componentId)

end Relaxes

lemma Evolves.pending {db db' : GovernanceDb} (h : Evolves db db' f g)
    (hpending : ∃ a ∈ db'.approvals.rows, a.proposalId = proposalId ∧ a.status = .pending) :
    ∃ a ∈ db.approvals.rows, a.proposalId = proposalId ∧ a.status = .pending := by
  obtain ⟨a', ha', hid, hstatus⟩ := hpending
  rw [h.approvals] at ha'
  obtain ⟨a, ha, rfl⟩ := mem_map.mp ha'
  refine ⟨a, ha, ?_, ?_⟩
  · rw [← hid, h.approval_terms a]
  · by_contra hdecided
    rw [h.decided a hdecided] at hstatus
    exact hdecided hstatus

lemma approvalPending_iff : db.approvalPending proposalId = true ↔
      ∃ a ∈ db.approvals.rows, a.proposalId = proposalId ∧ a.status = .pending := by
  simp [ComponentDb.approvalPending]

lemma Evolves.relaxes {g : GovernanceDb}
    {f' : ProposalRow → ProposalRow} (h : Evolves db.toGovernanceDb g f f') :
    Relaxes db { db with toGovernanceDb := g } where
  intents := rfl
  receipts _ hr := hr
  approvals _ hp := approvalPending_iff.mpr (h.pending (approvalPending_iff.mp hp))
  controls _ := le_rfl

lemma OnlyJournal.evolves {db db' : GovernanceDb} (h : OnlyJournal db db') :
    Evolves db db' id id := by
  obtain ⟨journal, rfl⟩ := h
  exact ⟨⟨rfl, rfl, rfl⟩, (map_id _).symm, (map_id _).symm, fun _ => rfl, fun _ => rfl,
    fun _ _ => rfl⟩

lemma pendingControls_map_le {p : ControlIntentRow → Bool}
    (h : controls.rows = db.controlIntents.rows.map fun r => if p r then { r with status } else r)
    (hstatus : status ≠ .pending) (componentId : String) :
    controls.count (fun r => r.componentId = componentId && r.status = .pending) ≤
      db.pendingControls componentId := by
  rw [SqlTable.count, h, countP_map]
  refine countP_mono_left fun r _ hr => ?_
  rw [Function.comp_apply] at hr
  split at hr
  · simp [hstatus] at hr
  · exact hr

lemma validateRecordedControl_eq_ok {intent : ComponentControlIntent} :
    validateRecordedControl db intent = .ok () ↔
      ∃ row, db.findControl intent.decisionId = some row ∧ row.toComponentControlIntent = intent := by
  unfold validateRecordedControl
  cases db.findControl intent.decisionId with
  | none => simp
  | some row => simp

lemma failComponentControlIntent_relaxes
    (h : failComponentControlIntent decisionId db = .ok db') : Relaxes db db' := by
  obtain ⟨controls, hupdate, ⟨⟩⟩ := bind_eq_ok.mp h
  have hrows := (updateOne_eq_ok.mp hupdate).1
  exact ⟨rfl, fun _ hr => hr, fun _ hp => hp, pendingControls_map_le hrows (by decide)⟩

lemma deploymentsWaiting_le_pending (db : ComponentDb) (componentId : String) :
    db.deploymentsWaiting componentId ≤ db.pendingDeployments componentId := by
  refine countP_mono_left fun row _ hrow => ?_
  simp only [Bool.and_eq_true, ComponentDb.waiting] at hrow ⊢
  exact ⟨hrow.1, hrow.2.2⟩

lemma effects_after_control {intent : ComponentControlIntent}
    (hcontrols : db.pendingControls intent.componentId = 0)
    (hdeployments : db.pendingDeployments intent.componentId = 0)
    (hrows : controls.rows = db.controlIntents.rows ++ [⟨intent, .pending⟩])
    (h : db.effectsInFlight componentId ≤ 1) :
    { db with controlIntents := controls, journal }.effectsInFlight componentId ≤ 1 := by
  have hcount : controls.count (fun r => r.componentId = componentId && r.status = .pending) =
      db.pendingControls componentId + if intent.componentId = componentId then 1 else 0 := by
    rw [SqlTable.count, hrows, countP_append]
    simp [ComponentDb.pendingControls, SqlTable.count, countP_cons]
  show db.deploymentsWaiting componentId + controls.count _ ≤ 1
  rw [hcount]
  split
  · rename_i heq
    have hwaiting := deploymentsWaiting_le_pending db intent.componentId
    rw [heq] at hcontrols hdeployments hwaiting
    omega
  · exact h

lemma effects_after_deployment {db : ComponentDb} {row : DeploymentIntentRow}
    {intents : SqlTable deploymentIntentSchema} {journal : JournalTable}
    (hcontrols : db.pendingControls row.componentId = 0)
    (hdeployments : db.deploymentsWaiting row.componentId = 0)
    (hrows : intents.rows = db.deploymentIntents.rows ++ [row]) {componentId : String}
    (h : db.effectsInFlight componentId ≤ 1) :
    { db with deploymentIntents := intents, journal }.effectsInFlight componentId ≤ 1 := by
  have hcount : intents.count (fun r => r.componentId = componentId && db.waiting r) ≤
      db.deploymentsWaiting componentId + if row.componentId = componentId then 1 else 0 := by
    rw [SqlTable.count, hrows, countP_append]
    refine Nat.add_le_add_left ?_ _
    by_cases heq : row.componentId = componentId <;> simp [heq, countP_cons]
    split <;> omega
  have hsum : intents.count (fun r => r.componentId = componentId && db.waiting r) +
      db.pendingControls componentId ≤ 1 := by
    split at hcount
    · rename_i heq
      rw [heq] at hcontrols hdeployments
      omega
    · exact (Nat.add_le_add_right hcount _).trans h
  exact hsum

def exclusive (db : ComponentDb) : ComponentCall → Prop
  | .recordDeployment _ intent m _ _ => ∀ row ∈ db.deploymentIntents.rows,
    row.intentId ≠ intent.intentId → row.componentId = m.componentId → db.waiting row = false
  | _ => True

section

variable [Platform] {stamp : Stamp}

lemma ComponentDb.recordControl_eq_ok {kind : JournalEventKind}
    {correlationId : String} {payload : Json}
    (h : db.recordControl stamp kind correlationId payload = .ok db') :
    ∃ journal, db' = { db with journal } := by
  obtain ⟨base, happend, h⟩ := bind_eq_ok.mp h
  obtain ⟨journal, rfl, -⟩ := Db.append_eq_ok happend
  exact ⟨journal, (return_eq_ok.mp h).symm⟩

lemma recordTrustedServiceDeploymentIntent_onlyJournal
    (h : recordTrustedServiceDeploymentIntent i intent m agent stamps db = .ok db') :
    OnlyJournal db.toGovernanceDb db'.toGovernanceDb := by
  obtain ⟨b, -, approved, happroved, hcase⟩ := recordTrustedServiceDeploymentIntent_eq_ok.mp h
  have honly := (record_reports happroved).1.onlyJournal
  rcases hcase with ⟨-, rfl⟩ | ⟨-, db₁, recorded, hinsert, hrecorded, rfl⟩
  · exact honly
  · obtain ⟨-, intents, -, rfl⟩ := insertIntent_eq_ok.mp hinsert
    exact honly.trans (record_reports hrecorded).1.onlyJournal

lemma activateTrustedServiceAtomic_evolves {receipt : DeploymentReceipt}
    {stamps : ServiceStamps} {result : TrustedDecisionResult}
    (h : activateTrustedServiceAtomic i intent m receipt agent stamps db = .ok (result, db')) :
    ∃ f g, Evolves db.toGovernanceDb db'.toGovernanceDb f g := by
  obtain ⟨b, -, hcase⟩ := activateTrustedServiceAtomic_eq_ok.mp h
  rcases hcase with ⟨-, rfl, -⟩ | ⟨-, s, source, -, target, db₁, decided, recorded, hinstall, -,
    hpersist, hevents, rfl⟩
  · exact ⟨id, id, .refl _⟩
  · obtain ⟨receipts, -, tables, -, -, -, -, rfl⟩ := installComponent_eq_ok.mp hinstall
    exact ⟨_, _, (persistTerminal_decides hpersist).evolves.trans
      (appendActivationEvents_reports hevents).onlyJournal.evolves⟩

lemma activateTrustedServiceAtomic_relaxes {receipt : DeploymentReceipt}
    {stamps : ServiceStamps} {result : TrustedDecisionResult}
    (h : activateTrustedServiceAtomic i intent m receipt agent stamps db = .ok (result, db')) :
    Relaxes db db' := by
  obtain ⟨b, -, hcase⟩ := activateTrustedServiceAtomic_eq_ok.mp h
  rcases hcase with ⟨-, rfl, -⟩ | ⟨-, s, source, -, target, db₁, decided, recorded, hinstall, -,
    hpersist, hevents, rfl⟩
  · exact .refl db'
  · obtain ⟨receipts, -, tables, hrows, -, -, -, rfl⟩ := installComponent_eq_ok.mp hinstall
    have hstored : Relaxes db { db with deploymentReceipts := receipts, components := tables } :=
      ⟨rfl, fun r hr => hrows ▸ mem_append_left _ hr, fun _ hp => hp, fun _ => le_rfl⟩
    have hdecided := (persistTerminal_decides hpersist).evolves.trans
      (appendActivationEvents_reports hevents).onlyJournal.evolves
    exact hstored.trans hdecided.relaxes

structure WritesControl (intent : ComponentControlIntent) (receipt : ComponentControlReceipt)
    (target : RegisteredComponent) (now : Timestamp) (db : ComponentDb) (snapshotId : String)
    (source : ComponentRegistrySnapshot) (persisted : ComponentTables) (s : ComponentRegistryState)
    (components : ComponentTables) (receipts : SqlTable controlReceiptSchema)
    (controls : SqlTable controlIntentSchema) : Prop where
  loaded : db.components.loadSnapshot intent.expectedComponentSnapshotId = .ok source
  stored : db.components.persistSnapshot
    (replaceComponent source.components intent.componentId target) now = .ok (snapshotId, persisted)
  state : persisted.state = some s
  expected : s.activeSnapshotId = intent.expectedComponentSnapshotId
  activated : persisted.setState ⟨snapshotId, s.version + 1⟩ = .ok components
  receiptRows : receipts.rows = db.controlReceipts.rows ++ [⟨receipt, snapshotId⟩]
  controlRows : controls.rows = db.controlIntents.rows.map fun r =>
    if r.decisionId = intent.decisionId && r.status = .pending then { r with status := .succeeded } else r
  pending : db.controlIntents.count (fun r => r.decisionId = intent.decisionId && r.status = .pending) = 1

lemma writeControl_eq_ok {intent : ComponentControlIntent}
    (h : writeControl intent receipt target now db = .ok (snapshotId, db')) :
    ∃ source persisted s components receipts controls,
      WritesControl intent receipt target now db snapshotId source persisted s components receipts
        controls ∧
      db' = { db with components, controlReceipts := receipts, controlIntents := controls } := by
  obtain ⟨source, hsource, h⟩ := bind_eq_ok.mp h
  obtain ⟨⟨target, persisted⟩, hpersist, h⟩ := bind_eq_ok.mp h
  dsimp only at h
  split at h
  · cases h
  · rename_i s hstate
    obtain ⟨hexpected, h⟩ := check_bind_eq_ok.mp h
    obtain ⟨components, hset, h⟩ := bind_eq_ok.mp h
    split at h
    · cases h
    · rename_i receipts hreceipts
      obtain ⟨controls, hupdate, ⟨⟩⟩ := bind_eq_ok.mp h
      obtain ⟨hcontrols, hpending⟩ := updateOne_eq_ok.mp hupdate
      exact ⟨source, persisted, s, components, receipts, controls, ⟨hsource, hpersist, hstate,
        require_eq_ok.mp hexpected, hset, insert_eq_some.mp hreceipts, hcontrols, hpending⟩, rfl⟩

lemma settleComponentControlAtomic_eq_ok {intent : ComponentControlIntent}
    {stamps : ControlStamps} :
    settleComponentControlAtomic intent receipt stamps db = .ok (result, db') ↔
      intent.validate = .ok () ∧ receipt.validateFor intent = .ok () ∧
      (∃ row, db.findControl intent.decisionId = some row ∧ row.toComponentControlIntent = intent) ∧
      ((∃ stored, findControlReceipt db intent.decisionId = some stored ∧
          stored.toComponentControlReceipt = receipt ∧
          controlResult db intent.componentId stored = .ok result ∧ db' = db) ∨
        (findControlReceipt db intent.decisionId = none ∧ ∃ active target snapshotId db₁,
          activeComponent db intent = .ok active ∧ controlTarget db intent receipt active = .ok target ∧
          writeControl intent receipt target stamps.now db = .ok (snapshotId, db₁) ∧
          appendSettlementEvents stamps intent receipt snapshotId db₁ = .ok db' ∧
          result = ⟨snapshotId, receipt.receiptId, target, false⟩)) := by
  unfold settleComponentControlAtomic
  rw [check_bind_eq_ok, check_bind_eq_ok, check_bind_eq_ok, validateRecordedControl_eq_ok]
  refine and_congr_right fun _ => and_congr_right fun _ => and_congr_right fun _ => ?_
  cases findControlReceipt db intent.decisionId with
  | some stored =>
    constructor
    · intro h
      obtain ⟨hsame, h⟩ := check_bind_eq_ok.mp h
      obtain ⟨answer, hanswer, ⟨⟩⟩ := bind_eq_ok.mp h
      exact .inl ⟨stored, rfl, require_eq_ok.mp hsame, hanswer, rfl⟩
    · rintro (⟨stored', heq, hsame, hanswer, rfl⟩ | ⟨hnone, -⟩)
      · cases heq
        exact check_bind_eq_ok.mpr ⟨require_eq_ok.mpr hsame, bind_eq_ok.mpr ⟨result, hanswer, rfl⟩⟩
      · cases hnone
  | none =>
    constructor
    · intro h
      obtain ⟨active, hactive, h⟩ := bind_eq_ok.mp h
      obtain ⟨target, htarget, h⟩ := bind_eq_ok.mp h
      obtain ⟨⟨snapshotId, db₁⟩, hwrite, h⟩ := bind_eq_ok.mp h
      obtain ⟨db₂, hevents, ⟨⟩⟩ := bind_eq_ok.mp h
      exact .inr ⟨rfl, active, target, snapshotId, db₁, hactive, htarget, hwrite, hevents, rfl⟩
    · rintro (⟨stored, hsome, -⟩ | ⟨-, active, target, snapshotId, db₁, hactive, htarget, hwrite,
        hevents, rfl⟩)
      · cases hsome
      · exact bind_eq_ok.mpr ⟨active, hactive, bind_eq_ok.mpr ⟨target, htarget, bind_eq_ok.mpr
          ⟨(snapshotId, db₁), hwrite, bind_eq_ok.mpr ⟨db', hevents, rfl⟩⟩⟩⟩

lemma settleComponentControlAtomic_relaxes {intent : ComponentControlIntent}
    {stamps : ControlStamps}
    (h : settleComponentControlAtomic intent receipt stamps db = .ok (result, db')) :
    Relaxes db db' := by
  obtain ⟨-, -, -, ⟨stored, -, -, -, rfl⟩ | ⟨-, active, target, snapshotId, db₁, -, -, hwrite,
    hevents, -⟩⟩ := settleComponentControlAtomic_eq_ok.mp h
  · exact .refl _
  · obtain ⟨db₂, hfirst, hsecond⟩ := bind_eq_ok.mp hevents
    obtain ⟨journal, rfl⟩ := ComponentDb.recordControl_eq_ok hfirst
    obtain ⟨journal', rfl⟩ := ComponentDb.recordControl_eq_ok hsecond
    obtain ⟨_, _, _, components, receipts, controls, hwrites, rfl⟩ := writeControl_eq_ok hwrite
    exact ⟨rfl, fun _ hr => hr, fun _ hp => hp, pendingControls_map_le hwrites.controlRows (by decide)⟩

/-! ## Calls that start an effect -/

lemma recordTrustedServiceDeploymentIntent_writes
    (h : recordTrustedServiceDeploymentIntent i intent m agent stamps db = .ok db') :
    Relaxes db db' ∨ (db.findIntent intent.intentId = none ∧ db.pendingControls m.componentId = 0 ∧
      ∃ intents journal, intents.rows = db.deploymentIntents.rows ++ [⟨intent, m.componentId⟩] ∧
        db' = { db with deploymentIntents := intents, journal }) := by
  obtain ⟨b, -, approved, happroved, hcase⟩ := recordTrustedServiceDeploymentIntent_eq_ok.mp h
  have honly := (record_reports happroved).1.onlyJournal
  rcases hcase with ⟨-, rfl⟩ | ⟨hfind, db₁, recorded, hinsert, hrecorded, rfl⟩
  · exact .inl honly.evolves.relaxes
  · obtain ⟨journal, rfl⟩ := honly
    obtain ⟨⟨-, hcontrols⟩, intents, hrows, rfl⟩ := insertIntent_eq_ok.mp hinsert
    obtain ⟨journal', rfl⟩ := (record_reports hrecorded).1.onlyJournal
    exact .inr ⟨hfind, hcontrols, intents, journal', hrows, rfl⟩

lemma recordComponentControlIntent_writes {intent : ComponentControlIntent}
    (h : recordComponentControlIntent intent owner stamp db = .ok db') :
    db' = db ∨ (db.pendingControls intent.componentId = 0 ∧
      db.pendingDeployments intent.componentId = 0 ∧
      ∃ controls journal, controls.rows = db.controlIntents.rows ++ [⟨intent, .pending⟩] ∧
        db' = { db with controlIntents := controls, journal }) := by
  obtain ⟨-, h⟩ := check_bind_eq_ok.mp h
  obtain ⟨-, h⟩ := check_bind_eq_ok.mp h
  split at h
  · obtain ⟨-, h⟩ := check_bind_eq_ok.mp h
    obtain ⟨-, h⟩ := check_bind_eq_ok.mp h
    exact .inl (return_eq_ok.mp h).symm
  · obtain ⟨hfree, h⟩ := check_bind_eq_ok.mp h
    obtain ⟨active, -, h⟩ := bind_eq_ok.mp h
    obtain ⟨-, h⟩ := check_bind_eq_ok.mp h
    obtain ⟨-, hinsert⟩ := check_bind_eq_ok.mp h
    unfold insertControlIntent at hinsert
    split at hinsert
    · cases hinsert
    · rename_i controls hcontrols
      obtain ⟨journal, rfl⟩ := ComponentDb.recordControl_eq_ok hinsert
      obtain ⟨hnone, hnone'⟩ := require_eq_ok.mp hfree
      exact .inr ⟨hnone, hnone', controls, journal, insert_eq_some.mp hcontrols, rfl⟩

/-! ## Any number of calls -/

lemma effects_step (h : ∀ componentId, db.effectsInFlight componentId ≤ 1)
    (call : ComponentCall) (hcall : exclusive db call) (componentId : String) :
    (componentStep db call).effectsInFlight componentId ≤ 1 := by
  unfold componentStep
  cases hanswer : answerComponent db call with
  | error e => exact h componentId
  | ok db' =>
    have hrelaxed (hr : Relaxes db db') : db'.effectsInFlight componentId ≤ 1 :=
      (hr.effects_le componentId).trans (h componentId)
    show db'.effectsInFlight componentId ≤ 1
    cases call with
    | recordDeployment i intent m agent stamps =>
      rcases recordTrustedServiceDeploymentIntent_writes hanswer with
        hr | ⟨hfind, hcontrols, intents, journal, hrows, rfl⟩
      · exact hrelaxed hr
      · have hnone : db.deploymentsWaiting m.componentId = 0 := by
          refine countP_eq_zero.mpr fun row hrow hwaiting => ?_
          simp only [Bool.and_eq_true, decide_eq_true_eq] at hwaiting
          have hother : row.intentId ≠ intent.intentId := by
            simpa using find?_eq_none.mp hfind row hrow
          exact absurd hwaiting.2 (by simp [hcall row hrow hother hwaiting.1])
        exact @effects_after_deployment db ⟨intent, m.componentId⟩ intents journal hcontrols hnone hrows
          componentId (h componentId)
    | activateService i intent m receipt agent stamps =>
      obtain ⟨⟨result, db₁⟩, hactivate, ⟨⟩⟩ := bind_eq_ok.mp hanswer
      exact hrelaxed (activateTrustedServiceAtomic_relaxes hactivate)
    | decision call =>
      obtain ⟨⟨answer, g⟩, hdecision, ⟨⟩⟩ := bind_eq_ok.mp hanswer
      obtain ⟨f, f', hevolves⟩ := evolves_step db.toGovernanceDb call
      rw [decisionStep, hdecision] at hevolves
      exact hrelaxed hevolves.relaxes
    | recordControl intent owner stamp =>
      rcases recordComponentControlIntent_writes hanswer with
        rfl | ⟨hcontrols, hdeployments, controls, journal, hrows, rfl⟩
      · exact h componentId
      · exact effects_after_control hcontrols hdeployments hrows (h componentId)
    | failControl decisionId => exact hrelaxed (failComponentControlIntent_relaxes hanswer)
    | settleControl intent receipt stamps =>
      obtain ⟨⟨result, db₁⟩, hsettle, ⟨⟩⟩ := bind_eq_ok.mp hanswer
      exact hrelaxed (settleComponentControlAtomic_relaxes hsettle)

theorem at_most_one_effect {db : ComponentDb} (h : ∀ componentId, db.effectsInFlight componentId ≤ 1)
    {calls : List ComponentCall} (hcalls : Along componentStep exclusive db calls)
    (componentId : String) : (run componentStep db calls).effectsInFlight componentId ≤ 1 :=
  hcalls.invariant (I := fun db => ∀ componentId, db.effectsInFlight componentId ≤ 1)
    (fun _ call hdb hcall => effects_step hdb call hcall) h componentId

end

/-! ## Two deployments of one service -/

def sampleServiceBase : ServiceManifest where
  schemaVersion := SERVICE_MANIFEST_SCHEMA
  manifestId := ""
  componentId := "svc"
  kind := .hookConsumerService
  artifactDigest := zeroDigest
  entrypoint := "artifact"
  runtimeProfile := "managed-service-v0"
  version := "1.0.0"
  requiredContracts := ["event.observe.v0"]
  requestedPermissions := ["journal.observe"]
  listenPolicy := ⟨"127.0.0.1", 0, "loopback"⟩
  healthcheck := ⟨"GET", "/h", 100⟩
  statePath := "s"
  upgradePolicy := ⟨"replace_after_ready", true⟩
  rollbackPolicy := ⟨1, true⟩

def sampleIntentBase (proposal : String) : DeploymentIntent where
  protocolVersion := DEPLOYMENT_PROTOCOL
  invocationId := proposal
  intentId := ""
  proposalId := proposal
  decisionId := proposal
  serviceManifestDigest := zeroDigest
  artifactDigest := zeroDigest
  expectedVersion := "1.0.0"
  action := "install_start"

section

variable [Platform]

def sampleService : ServiceManifest :=
  { sampleServiceBase with manifestId := sampleServiceBase.computeManifestId }

def sampleIntent (proposal : String) : DeploymentIntent :=
  { sampleIntentBase proposal with intentId := (sampleIntentBase proposal).expectedIntentId }

def sampleComponents : ComponentTables where
  snapshots := ⟨[⟨computeComponentSnapshotId [], 0⟩], by simp [Schema.Keeps]; rfl⟩
  entries := .empty
  state := some ⟨computeComponentSnapshotId [], 1⟩
  entries_fk := nofun
  state_fk := by simp [componentSnapshotIds]

def serviceDb (journal : JournalTable) (intents : SqlTable deploymentIntentSchema) : ComponentDb where
  toGovernanceDb := { sampleGovernance "svc" "[\"svc\"]" with journal }
  components := sampleComponents
  deploymentIntents := intents

end

def intentText (proposal : String) : String := (Json.mkObj (sampleIntentBase proposal).identityFields).toText

section

local instance : Platform := forkPlatform (intentText "q")

def recordCall (proposal : String) (stamps : IntentStamps) : ComponentCall :=
  .recordDeployment (sampleIdentity proposal) (sampleIntent proposal) sampleService "main" stamps

def twoDeployments : List ComponentCall := [recordCall "p" ⟨1, "e1", "e2"⟩, recordCall "q" ⟨2, "e3", "e4"⟩]

/-- The second deployment starts while the first waits: the proposal of a waiting one is not
`Approved`. -/
theorem at_most_one_effect_two_deployments :
    (∀ componentId, (serviceDb .empty .empty).effectsInFlight componentId ≤ 1) ∧
      (run componentStep (serviceDb .empty .empty) twoDeployments).effectsInFlight "svc" = 2 := by
  have hboth : (run componentStep (serviceDb .empty .empty) twoDeployments).effectsInFlight "svc" =
      2 := by
    decide +kernel
  exact ⟨fun componentId => Nat.zero_le 1, hboth⟩

theorem at_most_one_effect_deployment :
    (run componentStep (serviceDb .empty .empty) [recordCall "p" ⟨1, "e1", "e2"⟩]).effectsInFlight
      "svc" ≤ 1 := by
  have hstart : ∀ componentId, (serviceDb .empty .empty).effectsInFlight componentId ≤ 1 :=
    fun _ => Nat.zero_le 1
  have hexclusive : exclusive (serviceDb .empty .empty) (recordCall "p" ⟨1, "e1", "e2"⟩) :=
    fun _ h => absurd h not_mem_nil
  have hcalls : Along componentStep exclusive (serviceDb .empty .empty)
      [recordCall "p" ⟨1, "e1", "e2"⟩] := ⟨hexclusive, trivial⟩
  exact at_most_one_effect hstart hcalls "svc"

end

end AgentCore.Journal
