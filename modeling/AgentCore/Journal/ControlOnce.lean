import AgentCore.Journal.ComponentContent
import AgentCore.Journal.InFlight

/-! A control decision is settled once: its status, its receipt and its events agree in every
interleaving with the calls around it, and a repeated settlement answers what the first did. -/

namespace AgentCore.Journal

open Foundation Harness Registry List Option SqlTable
open Domain hiding OperationSpec RegistrySnapshot

/-! ## Events of a settlement -/

variable {t t' : JournalTable} {kind : JournalEventKind} {decisionId : String} {g : GovernanceDb}
  {result : TrustedDecisionResult} {now : Timestamp} {m : ServiceManifest} {row : ControlIntentRow}
  {db db' : ComponentDb} {stamps : ControlStamps} {receipt : ComponentControlReceipt}

def settlementKinds : List JournalEventKind :=
  [.componentControlReceiptRecorded, .componentDisabled, .componentRolledBack]

def settlementRows (t : JournalTable) : List JournalRow :=
  t.rows.filter fun r => r.kind ∈ settlementKinds.map JournalEventKind.storageName

lemma settlementRows_other (hrows : t'.rows = t.rows ++ [r])
    (hr : r.kind = kind.storageName) (hkind : kind ∉ settlementKinds) :
    settlementRows t' = settlementRows t := by
  have hnot : r.kind ∉ settlementKinds.map JournalEventKind.storageName := by
    rw [hr]
    intro hmem
    obtain ⟨k, hk, heq⟩ := mem_map.mp hmem
    exact hkind (storageName_injective heq ▸ hk)
  rw [settlementRows, hrows, filter_append, filter_singleton, decide_eq_false hnot]
  exact append_nil _

lemma findControl_of_mem (hrow : row ∈ db.controlIntents.rows) :
    db.findControl row.decisionId = some row :=
  find?_of_clash mem_cons_self hrow (by simp) fun s hs =>
    ⟨nofun, by simpa using hs⟩

lemma findControl_eq_some (h : db.findControl d = some row) :
    row ∈ db.controlIntents.rows ∧ row.decisionId = d :=
  ⟨mem_of_find?_eq_some h, by simpa using find?_some h⟩

lemma lookup_componentId {s : ComponentRegistrySnapshot}
    (h : s.lookup componentId = some c) : c.componentId = componentId := by
  simpa using find?_some h

lemma findControlReceipt_of_mem {row : ControlReceiptRow} (hrow : row ∈ db.controlReceipts.rows) :
    findControlReceipt db row.decisionId = some row :=
  find?_of_clash (mem_cons_of_mem _ mem_cons_self) hrow (by simp) fun s hs =>
    ⟨nofun, by simpa using hs⟩

section

variable [Platform] {s : ComponentRegistryState} {snapshot : ComponentRegistrySnapshot}
  {status : ControlStatus} {componentId : String} {r : JournalRow} {payload : Json} {id : String}
  {intent : ComponentControlIntent}

def settlementEvents (t : JournalTable) (decisionId : String) : List String :=
  ((settlementRows t).filter fun r =>
    (rowToEvent r).payload.get "decision_id" = some (.str decisionId)).map JournalRow.kind

lemma settlementEvents_snoc (hrows : t'.rows = t.rows ++ [r]) (hr : r.kind = kind.storageName)
    (hkind : kind ∈ settlementKinds) (hfields : Texts fields)
    (hpayload : r.payloadJson = (Json.mkObj fields).toText)
    (hdecision : ("decision_id", .str decisionId) ∈ fields) (d : String) : settlementEvents t' d =
      settlementEvents t d ++ if d = decisionId then [kind.storageName] else [] := by
  have hmem : r.kind ∈ settlementKinds.map JournalEventKind.storageName :=
    hr ▸ mem_map_of_mem hkind
  have hrow : settlementRows t' = settlementRows t ++ [r] := by
    rw [settlementRows, hrows, filter_append, filter_singleton, decide_eq_true hmem]
    rfl
  have hget : (rowToEvent r).payload.get "decision_id" = some (.str decisionId) := by
    rw [hfields.payload_rowToEvent hpayload, hfields.get _ _ hdecision]
  rw [settlementEvents, hrow, filter_append, filter_singleton, hget, map_append,
    ← settlementEvents]
  by_cases hd : d = decisionId
  · rw [hd, if_pos rfl, decide_eq_true rfl]
    simp [hr]
  · have hne : ¬ some (Json.str decisionId) = some (.str d) := fun heq =>
      hd (Json.str.inj (some.inj heq)).symm
    rw [if_neg hd, decide_eq_false hne]
    rfl

/-! ## Calls that settle nothing -/

def Silent (t t' : JournalTable) : Prop := settlementRows t' = settlementRows t

lemma record_silent
    (h : g.record stamp kind p correlationId payload = .ok g') (hkind : kind ∉ settlementKinds) :
    Silent g.journal g'.journal := by
  obtain ⟨journal, rfl, hrows, -⟩ := GovernanceDb.record_eq_ok h
  exact settlementRows_other hrows rfl hkind

omit [Platform] in
lemma persistTerminal_silent (h : persistTerminal i result now g = .ok g') :
    Silent g.journal g'.journal := by
  obtain ⟨approvals, proposals, rfl, -, -⟩ := persistTerminal_eq_ok h
  exact rfl

lemma appendActivationEvents_silent {stamps : ServiceStamps} {intent : DeploymentIntent}
    {receipt : DeploymentReceipt}
    (h : appendActivationEvents stamps p i intent m receipt source target g = .ok g') :
    Silent g.journal g'.journal := by
  obtain ⟨g₁, h₁, h⟩ := bind_eq_ok.mp h
  obtain ⟨g₂, h₂, h⟩ := bind_eq_ok.mp h
  obtain ⟨g₃, h₃, h⟩ := bind_eq_ok.mp h
  exact (record_silent h (by decide)).trans ((record_silent h₃ (by decide)).trans
    ((record_silent h₂ (by decide)).trans (record_silent h₁ (by decide))))

lemma appendRefusalEvents_silent {stamps : DecisionStamps} {r : Refusal}
    (h : appendRefusalEvents stamps p i g r = .ok g') : Silent g.journal g'.journal := by
  cases r with
  | rejected => exact record_silent h (by decide)
  | failed errorCode =>
    obtain ⟨g₁, h₁, h⟩ := bind_eq_ok.mp h
    exact (record_silent h (by decide)).trans (record_silent h₁ (by decide))

lemma installCapability_silent {m : HarnessManifest}
    {stamps : ActivationStamps} (h : installCapability i m target specs stamps g = .ok g') :
    Silent g.journal g'.journal := by
  obtain ⟨base, hregister, h⟩ := bind_eq_ok.mp h
  obtain ⟨⟨activation, registry⟩, -, h⟩ := bind_eq_ok.mp h
  dsimp only at h
  split at h
  · cases h
  · cases h
    obtain ⟨journal, manifests, rfl, rfl | ⟨row, hkind, hrows⟩⟩ :=
      registerHarnessManifestInTx_eq_ok (mapError_eq_ok.mp hregister)
    · exact rfl
    · exact settlementRows_other hrows hkind (by decide)

lemma settleActivation_silent {m : HarnessManifest} {stamps : ActivationStamps}
    (h : settleActivation i m p snapshotId deploymentId stamps g = .ok g') :
    Silent g.journal g'.journal := by
  obtain ⟨⟨grant, grants⟩, -, h⟩ := bind_eq_ok.mp h
  obtain ⟨g₁, hpersist, h⟩ := bind_eq_ok.mp h
  obtain ⟨g₄, hevents, hgrant⟩ := bind_eq_ok.mp h
  obtain ⟨g₂, h₁, hevents⟩ := bind_eq_ok.mp hevents
  obtain ⟨g₃, h₂, h₃⟩ := bind_eq_ok.mp hevents
  have hlast : Silent g₄.journal g'.journal := by
    split at hgrant
    · exact record_silent hgrant (by decide)
    · cases hgrant
      exact rfl
  have hpersisted := persistTerminal_silent hpersist
  exact hlast.trans ((record_silent h₃ (by decide)).trans ((record_silent h₂ (by decide)).trans
    ((record_silent h₁ (by decide)).trans hpersisted)))

lemma finishWithoutActivation_silent {r : Refusal} {stamps : DecisionStamps}
    (h : finishWithoutActivation i agent r stamps g = .ok (result, g')) :
    Silent g.journal g'.journal := by
  obtain ⟨b, -, ⟨-, rfl, -⟩ | ⟨-, -, -, g₁, hpersist, hevents⟩⟩ := finishWithoutActivation_eq_ok h
  · exact rfl
  · exact (appendRefusalEvents_silent hevents).trans (persistTerminal_silent hpersist)

lemma answerDecision_silent
    (h : answerDecision g call = .ok (answer, g')) : Silent g.journal g'.journal := by
  cases call with
  | activate i m deployment agent stamps =>
    obtain ⟨⟨result, g₁⟩, hcall, ⟨⟩⟩ := bind_eq_ok.mp h
    obtain ⟨-, -, b, -, ⟨-, rfl, -⟩ | ⟨-, -, -, specs, g₁, -, -, hinstall, hsettle⟩⟩ :=
      activateTrustedCapabilityAtomic_eq_ok hcall
    · exact rfl
    · exact (settleActivation_silent hsettle).trans (installCapability_silent hinstall)
  | reject i agent stamps =>
    obtain ⟨⟨result, g₁⟩, hcall, ⟨⟩⟩ := bind_eq_ok.mp h
    exact finishWithoutActivation_silent hcall
  | fail i errorCode agent stamps =>
    obtain ⟨⟨result, g₁⟩, hcall, ⟨⟩⟩ := bind_eq_ok.mp h
    unfold failTrustedActivationAtomic at hcall
    split at hcall
    · exact finishWithoutActivation_silent hcall
    · cases hcall
  | expire approvalId agent stamp =>
    obtain ⟨⟨expired, g₁⟩, hcall, ⟨⟩⟩ := bind_eq_ok.mp h
    rcases expireTrustedApproval_eq_ok hcall with ⟨-, rfl⟩ | ⟨a, -, -, -, -, -, g₂, p, _, _, hrecord, hsame⟩
    · exact rfl
    · exact hsame ▸ record_silent hrecord (by decide)
  | replay i agent terminal =>
    obtain ⟨result, -, ⟨⟩⟩ := bind_eq_ok.mp h
    exact rfl

/-! ## Calls -/

/-- The calls on components, the lookup of a settled control, the initialisation at the start
of a process, and what the other calls of the kernel write to the tables of the journal. -/
inductive ControlCall
  | component (call : ComponentCall)
  | replay (intent : ComponentControlIntent)
  | boot (now : Timestamp)
  | elsewhere (g : GovernanceDb)

def answerControl (db : ComponentDb) : ControlCall → Except String ComponentDb
  | .component call => answerComponent db call
  | .replay intent => do
    let _ ← replayComponentControl intent db
    return db
  | .boot now => do
    let (_, components) ← db.components.initializeComponentRegistry now
    return { db with components }
  | .elsewhere g =>
    -- no other call writes the events of a settlement
    if settlementRows g.journal = settlementRows db.journal then .ok { db with toGovernanceDb := g }
    else .ok db

def controlStep (db : ComponentDb) (call : ControlCall) : ComponentDb :=
  commit db (answerControl db call)

/-! ## What each call does -/

def Advances (row row' : ControlIntentRow) : Prop :=
  row' = row ∨ (row.status = .pending ∧ row'.status ≠ .pending ∧
    row'.toComponentControlIntent = row.toComponentControlIntent)

omit [Platform] in
lemma Advances.trans (h : Advances row row') (h' : Advances row' row'') : Advances row row'' := by
  rcases h' with rfl | ⟨hpending, hdecided, hintent'⟩
  · exact h
  · rcases h with rfl | ⟨-, hterminal, -⟩
    · exact .inr ⟨hpending, hdecided, hintent'⟩
    · exact absurd hpending hterminal

omit [Platform] in
lemma Advances.same (h : Advances row row') :
    row'.toComponentControlIntent = row.toComponentControlIntent := by
  rcases h with rfl | ⟨-, -, hintent⟩
  · rfl
  · exact hintent

structure Persists (db db' : ComponentDb) : Prop where
  controls : ∀ row ∈ db.controlIntents.rows, ∃ row' ∈ db'.controlIntents.rows, Advances row row'
  receipts : ∀ r ∈ db.controlReceipts.rows, r ∈ db'.controlReceipts.rows
  snapshots : ComponentTables.KeepsSnapshots db.components db'.components

lemma Persists.refl (db : ComponentDb) : Persists db db :=
  ⟨fun row hrow => ⟨row, hrow, .inl rfl⟩, fun _ hr => hr, .refl _⟩

lemma Persists.trans (h : Persists db db') (h' : Persists db' db'') : Persists db db'' where
  controls row hrow := by
    obtain ⟨row', hrow', hadvances⟩ := h.controls row hrow
    obtain ⟨row'', hrow'', hadvances'⟩ := h'.controls row' hrow'
    exact ⟨row'', hrow'', hadvances.trans hadvances'⟩
  receipts r hr := h'.receipts r (h.receipts r hr)
  snapshots := h.snapshots.trans h'.snapshots

def decideControl (decisionId : String) (status : ControlStatus) (r : ControlIntentRow) :
    ControlIntentRow :=
  if r.decisionId = decisionId && r.status = .pending then { r with status } else r

omit [Platform] in
@[simp] lemma decideControl_intent (decisionId : String) (status : ControlStatus)
    (r : ControlIntentRow) :
    (decideControl decisionId status r).toComponentControlIntent = r.toComponentControlIntent := by
  unfold decideControl
  split <;> rfl

omit [Platform] in
lemma decideControl_advances (hstatus : status ≠ .pending)
    (r : ControlIntentRow) : Advances r (decideControl decisionId status r) := by
  unfold decideControl
  split
  · next hpending =>
    rw [Bool.and_eq_true, decide_eq_true_eq, decide_eq_true_eq] at hpending
    exact .inr ⟨hpending.2, hstatus, rfl⟩
  · exact .inl rfl

inductive ControlEffect (db db' : ComponentDb) : Prop
  | quiet (controls : db'.controlIntents = db.controlIntents)
      (receipts : db'.controlReceipts = db.controlReceipts) (silent : Silent db.journal db'.journal)
      (snapshots : ComponentTables.KeepsSnapshots db.components db'.components)
  | recorded (intent : ComponentControlIntent) (fresh : db.findControl intent.decisionId = none)
      (controls : db'.controlIntents.rows = db.controlIntents.rows ++ [⟨intent, .pending⟩])
      (receipts : db'.controlReceipts = db.controlReceipts) (silent : Silent db.journal db'.journal)
      (components : db'.components = db.components)
  | failed (decisionId : String)
      (controls : db'.controlIntents.rows =
        db.controlIntents.rows.map (decideControl decisionId .failed))
      (receipts : db'.controlReceipts = db.controlReceipts) (silent : Silent db.journal db'.journal)
      (components : db'.components = db.components)
  | settled (row : ControlIntentRow) (receipt : ControlReceiptRow)
      (found : db.findControl row.decisionId = some row) (pending : row.status = .pending)
      (decision : receipt.decisionId = row.decisionId)
      (unsettled : findControlReceipt db row.decisionId = none)
      (controls : db'.controlIntents.rows =
        db.controlIntents.rows.map (decideControl row.decisionId .succeeded))
      (receipts : db'.controlReceipts.rows = db.controlReceipts.rows ++ [receipt])
      (events : ∀ d, settlementEvents db'.journal d = settlementEvents db.journal d ++
        if d = row.decisionId then
          [JournalEventKind.componentControlReceiptRecorded.storageName,
            (if row.action = "disable" then JournalEventKind.componentDisabled
              else .componentRolledBack).storageName]
        else [])
      (snapshots : ComponentTables.KeepsSnapshots db.components db'.components)

/-! ### Settlements -/

lemma recordControl_rows (h : db.recordControl stamp kind correlationId payload = .ok db') :
    ∃ journal : JournalTable, db' = { db with journal } ∧ ∃ r,
      journal.rows = db.journal.rows ++ [r] ∧ r.kind = kind.storageName ∧
        r.payloadJson = payload.toText := by
  obtain ⟨base, happend, h⟩ := bind_eq_ok.mp h
  obtain ⟨journal, rfl, hrows, -⟩ := Db.append_eq_ok happend
  exact ⟨journal, (return_eq_ok.mp h).symm, _, hrows, rfl, rfl⟩

lemma appendSettlementEvents_events
    (h : appendSettlementEvents stamps intent receipt snapshotId db = .ok db') :
    ∃ journal : JournalTable, db' = { db with journal } ∧
      ∀ d, settlementEvents journal d = settlementEvents db.journal d ++
        if d = intent.decisionId then [JournalEventKind.componentControlReceiptRecorded.storageName,
            (if intent.action = "disable" then JournalEventKind.componentDisabled
              else .componentRolledBack).storageName] else [] := by
  obtain ⟨db₁, hfirst, hsecond⟩ := bind_eq_ok.mp h
  obtain ⟨journal, rfl, r, hrows, hkind, hpayload⟩ := recordControl_rows hfirst
  obtain ⟨journal', rfl, r', hrows', hkind', hpayload'⟩ := recordControl_rows hsecond
  refine ⟨journal', rfl, fun d => ?_⟩
  have hlast : (if intent.action = "disable" then .componentDisabled
      else .componentRolledBack) ∈ settlementKinds := by
    split <;> decide
  rw [settlementEvents_snoc hrows' hkind' hlast ⟨by simp, by simp⟩ hpayload' mem_cons_self d,
    settlementEvents_snoc hrows hkind (by decide) ⟨by simp, by simp⟩ hpayload
      (mem_cons_of_mem _ mem_cons_self) d, append_assoc]
  split <;> rfl

lemma activeComponent_eq_ok (h : activeComponent db intent = .ok active) :
    ∃ s before, db.components.state = some s ∧
      s.activeSnapshotId = intent.expectedComponentSnapshotId ∧
      db.components.loadSnapshot intent.expectedComponentSnapshotId = .ok before ∧
      before.lookup intent.componentId = some active := by
  unfold activeComponent at h
  split at h
  · cases h
  · rename_i s hs
    obtain ⟨hexpected, h⟩ := check_bind_eq_ok.mp h
    obtain ⟨before, hload, h⟩ := bind_eq_ok.mp h
    have hexpected := require_eq_ok.mp hexpected
    split at h
    · cases h
    · rename_i component hlookup
      obtain ⟨-, ⟨⟩⟩ := check_bind_eq_ok.mp h
      exact ⟨s, before, hs, hexpected, hexpected ▸ hload, hlookup⟩

lemma controlTarget_componentId {active target : RegisteredComponent}
    (h : controlTarget db intent receipt active = .ok target)
    (hactive : active.componentId = intent.componentId)
    (hreceipt : receipt.componentId = intent.componentId) :
    target.componentId = intent.componentId := by
  unfold controlTarget at h
  split at h
  · obtain ⟨-, ⟨⟩⟩ := check_bind_eq_ok.mp h
    exact hactive
  · obtain ⟨-, h⟩ := check_bind_eq_ok.mp h
    obtain ⟨found, hfound, h⟩ := bind_eq_ok.mp h
    cases found with
    | none => cases h
    | some component =>
      cases h
      unfold historicalComponent at hfound
      dsimp only at hfound
      split at hfound
      · cases hfound
      · obtain ⟨snapshot, -, hfound⟩ := bind_eq_ok.mp hfound
        exact (lookup_componentId (return_eq_ok.mp hfound)).trans hreceipt

lemma validateFor_ids (h : receipt.validateFor intent = .ok ()) :
    receipt.decisionId = intent.decisionId ∧ receipt.componentId = intent.componentId := by
  obtain ⟨-, -, -, -, hdecision, hcomponent, -⟩ := require_eq_ok.mp h
  exact ⟨hdecision, hcomponent⟩

lemma replaced_snapshot {t persisted t' : ComponentTables}
    (hbefore : t.loadSnapshot id = .ok before)
    (hstored : t.persistSnapshot (replaceComponent before.components c.componentId c) now = .ok (target, persisted))
    (hactivated : persisted.setState ⟨target, s.version + 1⟩ = .ok t') :
    ComponentTables.KeepsSnapshots t t' ∧ t'.state = some ⟨target, s.version + 1⟩ ∧
      target = computeComponentSnapshotId (replaceComponent before.components c.componentId c) ∧
      ∃ after, t'.loadSnapshot target = .ok after := by
  have hids := nodup_replaceComponent (c := c) rfl (ComponentTables.nodup_load hbefore)
  obtain ⟨hkeeps, htarget, after, hafter⟩ := ComponentTables.persistSnapshot_loads hids hstored
  obtain ⟨hkeeps', hstate⟩ := ComponentTables.setState_keepsSnapshots hactivated
  exact ⟨hkeeps.trans hkeeps', hstate, htarget, after, hkeeps' _ _ hafter⟩

lemma settleComponentControlAtomic_effect {result : ComponentControlResult}
    (h : settleComponentControlAtomic intent receipt stamps db = .ok (result, db')) :
    ControlEffect db db' := by
  obtain ⟨-, hreceipt, ⟨row, hfound, hintent⟩, hcase⟩ := settleComponentControlAtomic_eq_ok.mp h
  obtain ⟨hdecision, hcomponent⟩ := validateFor_ids hreceipt
  have hrow : row.decisionId = intent.decisionId := (findControl_eq_some hfound).2
  rcases hcase with ⟨stored, -, -, -, rfl⟩ | ⟨hunsettled, active, target, snapshotId, db₁, hactive,
    htarget, hwrite, hevents, -⟩
  · exact .quiet rfl rfl rfl (.refl _)
  · obtain ⟨journal, rfl, hmarks⟩ := appendSettlementEvents_events hevents
    obtain ⟨source, persisted, s, components, receipts, controls, hwrites, rfl⟩ :=
      writeControl_eq_ok hwrite
    obtain ⟨-, before, -, -, -, hlookup⟩ := activeComponent_eq_ok hactive
    have hid := controlTarget_componentId htarget (lookup_componentId hlookup) hcomponent
    have hpending : row.status = .pending := by
      obtain ⟨r, hr, hmatch⟩ := countP_pos_iff.mp (Nat.lt_of_lt_of_eq Nat.one_pos hwrites.pending.symm)
      rw [Bool.and_eq_true, decide_eq_true_eq, decide_eq_true_eq] at hmatch
      have hsame := findControl_of_mem hr
      rw [hmatch.1, hfound] at hsame
      exact some.inj hsame ▸ hmatch.2
    have hstored := hwrites.stored
    rw [← hid] at hstored
    have haction : row.action = intent.action := congrArg ComponentControlIntent.action hintent
    refine .settled row ⟨receipt, snapshotId⟩ (hrow ▸ hfound) hpending (hdecision.trans hrow.symm)
      (hrow ▸ hunsettled) (hrow ▸ hwrites.controlRows) hwrites.receiptRows ?_
      (replaced_snapshot hwrites.loaded hstored hwrites.activated).1
    rw [hrow, haction]
    exact hmarks

/-! ### The other calls -/

lemma load_of_active {t : ComponentTables} (h : t.active = .ok (s, snapshot)) :
    t.loadSnapshot s.activeSnapshotId = .ok snapshot := by
  unfold ComponentTables.active at h
  split at h
  · cases h
  · obtain ⟨snapshot, hload, ⟨⟩⟩ := bind_eq_ok.mp h
    exact hload

lemma activateTrustedServiceAtomic_effect {intent : DeploymentIntent}
    {receipt : DeploymentReceipt} {stamps : ServiceStamps}
    (h : activateTrustedServiceAtomic i intent m receipt agent stamps db = .ok (result, db')) :
    ControlEffect db db' := by
  obtain ⟨b, -, ⟨-, rfl, -⟩ | ⟨-, s, source, hfollows, target, db₁, decided, recorded, hinstall, -,
    hpersist, hevents, rfl⟩⟩ := activateTrustedServiceAtomic_eq_ok.mp h
  · exact .quiet rfl rfl rfl (.refl _)
  · obtain ⟨receipts, persisted, tables, -, hstored, -, hset, rfl⟩ := installComponent_eq_ok.mp hinstall
    have hloaded := load_of_active hfollows.active
    have hsilent : Silent db.journal recorded.journal :=
      (appendActivationEvents_silent hevents).trans (persistTerminal_silent hpersist)
    have hreplaced : db.components.persistSnapshot (replaceComponent source.components
        (deployedComponent i m receipt).componentId (deployedComponent i m receipt)) stamps.now =
        .ok (target, persisted) := hstored
    have hkeeps := (replaced_snapshot hloaded hreplaced hset).1
    exact .quiet rfl rfl hsilent hkeeps

lemma recordTrustedServiceDeploymentIntent_effect {intent : DeploymentIntent}
    {stamps : IntentStamps}
    (h : recordTrustedServiceDeploymentIntent i intent m agent stamps db = .ok db') :
    ControlEffect db db' := by
  obtain ⟨b, -, approved, happroved, hcase⟩ := recordTrustedServiceDeploymentIntent_eq_ok.mp h
  have hsilent := record_silent happroved (by decide)
  rcases hcase with ⟨-, rfl⟩ | ⟨-, db₁, recorded, hinsert, hrecorded, rfl⟩
  · exact .quiet rfl rfl hsilent (.refl _)
  · obtain ⟨-, intents, -, rfl⟩ := insertIntent_eq_ok.mp hinsert
    have hsilent' := record_silent hrecorded (by decide)
    exact .quiet rfl rfl (hsilent'.trans hsilent) (.refl _)

lemma recordComponentControlIntent_effect
    (h : recordComponentControlIntent intent owner stamp db = .ok db') : ControlEffect db db' := by
  obtain ⟨-, h⟩ := check_bind_eq_ok.mp h
  obtain ⟨-, h⟩ := check_bind_eq_ok.mp h
  split at h
  · obtain ⟨-, h⟩ := check_bind_eq_ok.mp h
    obtain ⟨-, ⟨⟩⟩ := check_bind_eq_ok.mp h
    exact .quiet rfl rfl rfl (.refl _)
  · rename_i hfresh
    obtain ⟨-, h⟩ := check_bind_eq_ok.mp h
    obtain ⟨active, -, h⟩ := bind_eq_ok.mp h
    obtain ⟨-, h⟩ := check_bind_eq_ok.mp h
    obtain ⟨-, hinsert⟩ := check_bind_eq_ok.mp h
    unfold insertControlIntent at hinsert
    split at hinsert
    · cases hinsert
    · rename_i controls hcontrols
      obtain ⟨journal, rfl, r, hrows, hkind, -⟩ := recordControl_rows hinsert
      exact .recorded intent hfresh (insert_eq_some.mp hcontrols) rfl
        (settlementRows_other hrows hkind (by decide)) rfl

omit [Platform] in
lemma failComponentControlIntent_effect [Platform]
    (h : failComponentControlIntent decisionId db = .ok db') : ControlEffect db db' := by
  obtain ⟨controls, hupdate, ⟨⟩⟩ := bind_eq_ok.mp h
  exact .failed decisionId (updateOne_eq_ok.mp hupdate).1 rfl rfl rfl

lemma initializeComponentRegistry_effect
    (h : db.components.initializeComponentRegistry now = .ok (id, components)) :
    ControlEffect db { db with components } := by
  refine .quiet rfl rfl rfl ?_
  unfold ComponentTables.initializeComponentRegistry at h
  split at h
  · obtain ⟨snapshot, -, ⟨⟩⟩ := bind_eq_ok.mp h
    exact .refl _
  · obtain ⟨⟨target, persisted⟩, hstored, h⟩ := bind_eq_ok.mp h
    obtain ⟨t, hset, ⟨⟩⟩ := bind_eq_ok.mp h
    have hkeeps := (ComponentTables.persistSnapshot_loads (by simp) hstored).1
    exact hkeeps.trans (ComponentTables.setState_keepsSnapshots hset).1

lemma controlStep_effect (db : ComponentDb) (call : ControlCall) :
    ControlEffect db (controlStep db call) := by
  cases hanswer : answerControl db call with
  | error e =>
    rw [controlStep, hanswer, commit_error]
    exact .quiet rfl rfl rfl (.refl _)
  | ok db' =>
    rw [controlStep, hanswer, commit_ok]
    cases call with
    | component call =>
      cases call with
      | recordDeployment i intent m agent stamps =>
        exact recordTrustedServiceDeploymentIntent_effect hanswer
      | activateService i intent m receipt agent stamps =>
        obtain ⟨⟨result, db₁⟩, hcall, ⟨⟩⟩ := bind_eq_ok.mp hanswer
        exact activateTrustedServiceAtomic_effect hcall
      | decision call =>
        obtain ⟨⟨answer, g⟩, hcall, ⟨⟩⟩ := bind_eq_ok.mp hanswer
        exact .quiet rfl rfl (answerDecision_silent hcall) (.refl _)
      | recordControl intent owner stamp => exact recordComponentControlIntent_effect hanswer
      | failControl decisionId => exact failComponentControlIntent_effect hanswer
      | settleControl intent receipt stamps =>
        obtain ⟨⟨result, db₁⟩, hcall, ⟨⟩⟩ := bind_eq_ok.mp hanswer
        exact settleComponentControlAtomic_effect hcall
    | replay intent =>
      obtain ⟨result, -, ⟨⟩⟩ := bind_eq_ok.mp hanswer
      exact .quiet rfl rfl rfl (.refl _)
    | boot now =>
      obtain ⟨⟨id, components⟩, hcall, ⟨⟩⟩ := bind_eq_ok.mp hanswer
      exact initializeComponentRegistry_effect hcall
    | elsewhere g =>
      simp only [answerControl] at hanswer
      split at hanswer
      · next hsilent =>
        cases hanswer
        exact .quiet rfl rfl hsilent (.refl _)
      · cases hanswer
        exact .quiet rfl rfl rfl (.refl _)

/-! ## The ledger -/

def settlementIn (db : ComponentDb) (decisionId : String) : Nat × List String :=
  (db.controlReceipts.count fun r => r.decisionId = decisionId,
    settlementEvents db.journal decisionId)

/-- One receipt and one set of events for a decision that succeeded, and none for any other. -/
def settlementFor : Option ControlIntentRow → Nat × List String
  | none => (0, [])
  | some row =>
    if row.status = .succeeded then
      (1, [JournalEventKind.componentControlReceiptRecorded.storageName,
        (if row.action = "disable" then JournalEventKind.componentDisabled
          else .componentRolledBack).storageName])
    else (0, [])

def Ledger (db : ComponentDb) : Prop := ∀ d, settlementIn db d = settlementFor (db.findControl d)

lemma Silent.events (h : Silent t t') (d : String) :
    settlementEvents t' d = settlementEvents t d := by
  rw [settlementEvents, h, settlementEvents]

lemma settlementIn_silent (hreceipts : db'.controlReceipts = db.controlReceipts)
    (hsilent : Silent db.journal db'.journal) (d : String) :
    settlementIn db' d = settlementIn db d := by
  rw [settlementIn, hreceipts, hsilent.events, settlementIn]

omit [Platform] in
lemma findControl_decide
    (h : db'.controlIntents.rows = db.controlIntents.rows.map (decideControl decisionId status))
    (d : String) :
    db'.findControl d = (db.findControl d).map (decideControl decisionId status) := by
  rw [ComponentDb.findControl, h, find?_map, ComponentDb.findControl]
  congr 2
  funext r
  exact congrArg (fun i : ComponentControlIntent => decide (i.decisionId = d)) (decideControl_intent ..)

lemma Ledger.step (h : Ledger db) (heffect : ControlEffect db db') : Ledger db' := by
  intro d
  cases heffect with
  | quiet controls receipts silent snapshots =>
    rw [settlementIn_silent receipts silent, h d, ComponentDb.findControl, ComponentDb.findControl,
      controls]
  | recorded intent fresh controls receipts silent components =>
    rw [settlementIn_silent receipts silent, h d, ComponentDb.findControl, ComponentDb.findControl,
      controls, find?_append]
    cases hfind : db.controlIntents.rows.find? fun r => r.decisionId = d with
    | some row => rfl
    | none =>
      -- a new row, if it is the one looked for, is pending
      rw [none_or, find?_singleton]
      split <;> rfl
  | failed decisionId controls receipts silent components =>
    rw [settlementIn_silent receipts silent, h d, findControl_decide controls]
    cases db.findControl d with
    | none => rfl
    | some row =>
      rw [map_some, decideControl]
      split
      · next hpending =>
        rw [Bool.and_eq_true, decide_eq_true_eq, decide_eq_true_eq] at hpending
        simp [settlementFor, hpending.2]
      · rfl
  | settled row receipt found pending decision unsettled controls receipts events snapshots =>
    have hbefore := h d
    rw [findControl_decide controls, settlementIn, events, SqlTable.count, receipts, countP_append,
      ← SqlTable.count]
    by_cases hd : d = row.decisionId
    · subst hd
      have hnone : settlementFor (some row) = (0, []) := by simp [settlementFor, pending]
      rw [found, hnone] at hbefore
      obtain ⟨hcount, hevents⟩ := Prod.mk.inj hbefore
      rw [found]
      rw [hcount, hevents, map_some, decideControl]
      simp [pending, decision, settlementFor]
    · have hother : (db.findControl d).map (decideControl row.decisionId .succeeded) =
          db.findControl d := by
        cases hfind : db.findControl d with
        | none => rfl
        | some other =>
          have hne : other.decisionId ≠ row.decisionId := (findControl_eq_some hfind).2 ▸ hd
          rw [map_some, decideControl, if_neg (by simp [hne])]
      have hnot : ¬ receipt.decisionId = d := fun heq => hd (heq.symm.trans decision)
      rw [hother, ← hbefore, settlementIn, if_neg hd, append_nil]
      simp [hnot]

lemma ControlEffect.persists (h : ControlEffect db db') : Persists db db' := by
  cases h with
  | quiet controls receipts silent snapshots =>
    exact ⟨fun row hrow => ⟨row, controls ▸ hrow, .inl rfl⟩, fun r hr => receipts ▸ hr, snapshots⟩
  | recorded intent fresh controls receipts silent components =>
    refine ⟨fun row hrow => ⟨row, ?_, .inl rfl⟩, fun r hr => receipts ▸ hr, components ▸ .refl _⟩
    rw [controls]
    exact mem_append_left _ hrow
  | failed decisionId controls receipts silent components =>
    refine ⟨fun row hrow => ⟨decideControl decisionId .failed row, ?_,
      decideControl_advances (by decide) row⟩, fun r hr => receipts ▸ hr, components ▸ .refl _⟩
    rw [controls]
    exact mem_map_of_mem hrow
  | settled settledRow receipt found pending decision unsettled controls receipts events snapshots =>
    refine ⟨fun row hrow => ⟨decideControl settledRow.decisionId .succeeded row, ?_,
      decideControl_advances (by decide) row⟩, fun r hr => ?_, snapshots⟩
    · rw [controls]
      exact mem_map_of_mem hrow
    · rw [receipts]
      exact mem_append_left _ hr

lemma persists_run (db : ComponentDb) (calls : List ControlCall) :
    Persists db (run controlStep db calls) :=
  run_invariant (I := fun s => Persists db s)
    (fun s call hs => hs.trans (controlStep_effect s call).persists) calls (.refl db)

/-- Receipts stay, and a snapshot that was loaded once loads the same ever after. -/
theorem control_history_kept (db : ComponentDb) (calls : List ControlCall) :
    let db' := run controlStep db calls
    (∀ r ∈ db.controlReceipts.rows, r ∈ db'.controlReceipts.rows) ∧
      db.components.KeepsSnapshots db'.components :=
  ⟨(persists_run db calls).receipts, (persists_run db calls).snapshots⟩

/-! ## A settlement and its repetition -/

structure Answered (intent : ComponentControlIntent) (receipt : ComponentControlReceipt)
    (result : ComponentControlResult) (db : ComponentDb) : Prop where
  intentValid : intent.validate = .ok ()
  receiptValid : receipt.validateFor intent = .ok ()
  recorded : ∃ row ∈ db.controlIntents.rows, row.toComponentControlIntent = intent
  stored : ⟨receipt, result.targetSnapshotId⟩ ∈ db.controlReceipts.rows
  receiptId : result.receiptId = receipt.receiptId
  component : ∃ snapshot, db.components.loadSnapshot result.targetSnapshotId = .ok snapshot ∧
    snapshot.lookup intent.componentId = some result.component

lemma Answered.persists {result : ComponentControlResult}
    (h : Answered intent receipt result db) (hpersists : Persists db db') :
    Answered intent receipt result db' where
  intentValid := h.intentValid
  receiptValid := h.receiptValid
  recorded := by
    obtain ⟨row, hrow, hintent⟩ := h.recorded
    obtain ⟨row', hrow', hadvances⟩ := hpersists.controls row hrow
    exact ⟨row', hrow', hadvances.same.trans hintent⟩
  stored := hpersists.receipts _ h.stored
  receiptId := h.receiptId
  component := by
    obtain ⟨snapshot, hload, hlookup⟩ := h.component
    exact ⟨snapshot, hpersists.snapshots _ _ hload, hlookup⟩

lemma Answered.settle {result : ComponentControlResult}
    (h : Answered intent receipt result db) (stamps : ControlStamps) :
    settleComponentControlAtomic intent receipt stamps db = .ok ({ result with replayed := true }, db) := by
  obtain ⟨row, hrow, rfl⟩ := h.recorded
  obtain ⟨snapshot, hload, hlookup⟩ := h.component
  have hreceipt := findControlReceipt_of_mem h.stored
  rw [(validateFor_ids h.receiptValid).1] at hreceipt
  refine settleComponentControlAtomic_eq_ok.mpr ⟨h.intentValid, h.receiptValid,
    ⟨row, findControl_of_mem hrow, rfl⟩, .inl ⟨_, hreceipt, rfl, ?_, rfl⟩⟩
  refine bind_eq_ok.mpr ⟨snapshot, hload, ?_⟩
  rw [hlookup, ← h.receiptId]
  rfl

structure NoControls (db : ComponentDb) : Prop where
  controls : db.controlIntents.rows = []
  receipts : db.controlReceipts.rows = []
  events : settlementRows db.journal = []

lemma NoControls.ledger (h : NoControls db) : Ledger db := by
  intro d
  rw [settlementIn, SqlTable.count, h.receipts, settlementEvents, h.events, ComponentDb.findControl,
    h.controls]
  rfl

end

/-! ## One component -/

local instance controlPlatform : Platform := zeroPlatform

end AgentCore.Journal
