import AgentCore.Journal.DecisionSpec

/-! The snapshot predicted before a deployment is the one that its activation makes active. -/

namespace AgentCore.Journal

open Foundation Harness Registry List
open Domain hiding OperationSpec RegistrySnapshot

lemma sortedByContract_inherited (t : RegistryTables) (id : String) :
    sortedByContract (inheritedHookBindings (loadActiveHookBindings t id)) =
      inheritedHookBindings (loadActiveHookBindings t id) := by
  unfold inheritedHookBindings
  split
  · rfl
  · exact sortBy_eq_self (pairwise_map.mpr (pairwise_sortBy _ _))

section

variable [Platform]
  {t : RegistryTables} {i : TrustedDecisionIdentity} {m : HarnessManifest} {id : String}

def Readable (v : Json) : Prop := fromStr v.toText = some v

instance (v : Json) : Decidable (Readable v) := inferInstanceAs (Decidable (_ = _))

lemma readOperation_operationRow_iff {op : OperationSpec} :
    readOperation (operationRow id op) = .ok op ↔ Readable op.parameters := by
  simp only [readOperation, operationRow, Readable]
  split
  · rename_i hnone
    simp [hnone]
  · rename_i parameters hsome
    rw [hsome]
    constructor
    · intro h
      have hparameters : parameters = op.parameters :=
        congrArg OperationSpec.parameters (Except.ok.inj h)
      rw [hparameters]
    · intro h
      cases h
      rfl

lemma readOperations_iff {specs : List OperationSpec} :
    (specs.map (operationRow id)).mapM readOperation = .ok specs ↔
      ∀ op ∈ specs, Readable op.parameters := by
  rw [mapM_eq_ok, forall₂_map_left_iff]
  induction specs with
  | nil => simp
  | cons op specs ih =>
    rw [forall₂_cons, forall_mem_cons, ih, readOperation_operationRow_iff]

lemma loadSnapshot_of_adds {header : SnapshotRow} {bindings : List HookBinding}
    (h : Adds t t' [header] ((sortedByName specs).map (operationRow header.snapshotId)) (bindings.map (HookBindingRow.mk header.snapshotId))) :
    loadSnapshotFromConn t' header.snapshotId = (do
      let operations ← ((sortedByName specs).map (operationRow header.snapshotId)).mapM readOperation
      return ⟨header.snapshotId, header.createdAt, operations, sortedByContract bindings⟩) := by
  have hfind : t'.snapshots.rows.find? (fun r => r.snapshotId = header.snapshotId) = some header := by
    have hold : t.snapshots.rows.find? (fun r => r.snapshotId = header.snapshotId) = none :=
      find?_eq_none.mpr fun r hr heq =>
        h.fresh (mem_map.mpr ⟨r, hr, of_decide_eq_true heq⟩)
    rw [h.snapshots, find?_append, hold]
    simp
  rw [loadSnapshotFromConn, hfind]
  simp only [operationRows, h.own_operations, sortBy_operationRows, loadActiveHookBindings,
    h.own_hookBindings, sortBy_hookBindingRows]

lemma SameContent.load (h : SameContent t t') (id : String) :
    loadSnapshotFromConn t' id = loadSnapshotFromConn t id := by
  simp only [loadSnapshotFromConn, operationRows, loadActiveHookBindings, h.snapshots, h.operations,
    h.hookBindings]

lemma activateRegistryTx_load {expected target : String} {now : Timestamp}
    (h : activateRegistryTx specs expected now t = .ok (⟨expected, target⟩, t')) :
    t.state.map RegistryState.activeSnapshotId = some expected ∧
      t'.state.map RegistryState.activeSnapshotId = some target ∧
      loadSnapshotFromConn t' target = (do
        let operations ← ((sortedByName specs).map (operationRow target)).mapM readOperation
        return ⟨target, now, operations,
          inheritedHookBindings (loadActiveHookBindings t expected)⟩) := by
  obtain ⟨s, t₁, bindings, id, hs, hactive, -, rfl, -, hinsert, hstate, hpair⟩ :=
    activateRegistryTx_eq_ok h
  obtain ⟨-, rfl⟩ := RegistryActivation.mk.inj hpair
  refine ⟨by rw [hs, Option.map_some, hactive], ?_, ?_⟩
  · rw [(setState_eq_ok.mp hstate).2.2.2.2]
    rfl
  · rw [(setState_sameContent hstate).load, loadSnapshot_of_adds (snapshotStatements_adds hinsert),
      sortedByContract_inherited]

lemma capabilitySpecs_eq_ok (h : capabilitySpecs t i m = .ok specs) :
    ∃ source, loadSnapshotFromConn t i.expectedSourceSnapshotId = .ok source ∧
      specs = source.operations ++ [capabilitySpec m] := by
  obtain ⟨source, hload, h⟩ := bind_eq_ok.mp h
  split at h
  · cases h
  · exact ⟨source, hload, (return_eq_ok.mp h).symm⟩

def LoadsWith (t : RegistryTables) (id : String) (operations : List OperationSpec)
    (bindings : List HookBinding) : Prop :=
  ∃ snapshot, loadSnapshotFromConn t id = .ok snapshot ∧
    snapshot.operations = sortedByName operations ∧ snapshot.hookBindings = bindings

def PredictionHolds (db db' : GovernanceDb) (m : HarnessManifest) (p : String) : Prop :=
  db'.registry.state.map RegistryState.activeSnapshotId = some p ∧
    ∃ s source, db.registry.state = some s ∧
      loadSnapshotFromConn db.registry s.activeSnapshotId = .ok source ∧
      LoadsWith db'.registry p (source.operations ++ [capabilitySpec m])
        (inheritedHookBindings source.hookBindings)

def ParametersReadable (db : GovernanceDb) (i : TrustedDecisionIdentity) (m : HarnessManifest) : Prop :=
  ∀ source, loadSnapshotFromConn db.registry i.expectedSourceSnapshotId = .ok source →
    ∀ op ∈ source.operations ++ [capabilitySpec m], Readable op.parameters

lemma predictionHolds_iff
    (hactivate : activateTrustedCapabilityAtomic i m ⟨deploymentId, p⟩ agent stamps db =
      .ok (result, db')) (hnew : result.replayed = false) :
    PredictionHolds db db' m p ↔ ParametersReadable db i m := by
  obtain ⟨-, -, b, -, hcase⟩ := activateTrustedCapabilityAtomic_eq_ok hactivate
  rcases hcase with ⟨-, -, hreplay, -⟩ | ⟨-, -, -, specs, db₁, hspecs, -, hinstall, hsettle⟩
  · obtain ⟨text, stored, -, -, rfl⟩ := (replayResult_eq_ok.mp hreplay).stored
    cases hnew
  · obtain ⟨source, hsource, rfl⟩ := capabilitySpecs_eq_ok hspecs
    obtain ⟨journal, manifests, registry, rfl, hregistry⟩ := installCapability_eq_ok hinstall
    obtain ⟨hactive, hnow, hload⟩ := activateRegistryTx_load hregistry
    have hdb' : db'.registry = registry := (settleActivation_eq_ok hsettle).1
    obtain ⟨s, hs, hs'⟩ := Option.map_eq_some_iff.mp hactive
    have hbindings := (loadSnapshotFromConn_eq_ok hsource).2.2.1
    rw [PredictionHolds, hdb', hnow]
    constructor
    · rintro ⟨-, s₁, source₁, hs₁, hsource₁, snapshot, hsnapshot, hoperations, -⟩ source₂ hsource₂ op hop
      -- The active snapshot is the expected one: every reading of it is the same.
      cases hs.symm.trans hs₁
      rw [hs'] at hsource₁
      cases hsource.symm.trans hsource₁
      cases hsource.symm.trans hsource₂
      rw [hload] at hsnapshot
      obtain ⟨operations, hread, ⟨⟩⟩ := bind_eq_ok.mp hsnapshot
      obtain rfl : operations = sortedByName (source.operations ++ [capabilitySpec m]) := hoperations
      exact readOperations_iff.mp hread op (mem_sortBy.mpr hop)
    · intro hreadable
      have hread := (@readOperations_iff _ p (sortedByName (source.operations ++ [capabilitySpec m]))).mpr fun op hop =>
        hreadable source hsource op (mem_sortBy.mp hop)
      refine ⟨rfl, s, source, hs, by rw [hs', hsource],
        ⟨p, stamps.now, sortedByName (source.operations ++ [capabilitySpec m]),
          inheritedHookBindings source.hookBindings⟩, ?_, rfl, rfl⟩
      rw [hload, hbindings]
      exact bind_eq_ok.mpr ⟨_, hread, rfl⟩

/-- The activation computes the identifier again and compares: that the target was predicted,
and when, only says where it came from. -/
theorem prediction_holds_iff {i : TrustedDecisionIdentity} {m : HarnessManifest} {agent : AgentId}
    {earlier : Timestamp} {db₀ : GovernanceDb} {p : String}
    (_hpredicted : trustedCapabilityProspectiveSnapshot i m agent earlier db₀ = .ok p)
    {deploymentId : String} {stamps : ActivationStamps} {db db' : GovernanceDb}
    {result : TrustedDecisionResult}
    (hactivate : activateTrustedCapabilityAtomic i m ⟨deploymentId, p⟩ agent stamps db =
      .ok (result, db')) (hnew : result.replayed = false) :
    PredictionHolds db db' m p ↔ ParametersReadable db i m := predictionHolds_iff hactivate hnew

end

/-! ## A schema that is too deep to read back, and one that is not -/

variable {proposal : String}

def zeroDigest : String := "sha256:0000000000000000000000000000000000000000000000000000000000000000"

def sampleNonce (proposal : String) : String :=
  if proposal = "p" then "00000000000000000000000000000000" else "11111111111111111111111111111111"

def sampleOwner : String := "feishu:open_id:o"

def sampleDecision (proposal decisionId : String) : TrustedDecisionIdentity where
  proposalId := proposal
  approvalId := "approval_" ++ proposal
  decisionNonce := sampleNonce proposal
  principalId := sampleOwner
  expectedSourceSnapshotId := "s"
  candidateDigest := zeroDigest
  artifactDigest := zeroDigest
  manifestDigest := zeroDigest
  decisionId
  payloadDigest := zeroDigest

def sampleIdentity (proposal : String) : TrustedDecisionIdentity := sampleDecision proposal proposal

def sampleProposal (operationsJson proposal : String) : ProposalRow where
  proposalId := proposal
  submitterPrincipalId := sampleOwner
  targetAgentId := "main"
  originSessionId := "session"
  originRunId := "run"
  artifactRef := zeroDigest
  artifactDigest := zeroDigest
  manifestRef := "service_manifest_0000000000000000000000000000000000000000000000000000000000000000"
  manifestDigest := zeroDigest
  evidenceDigest := zeroDigest
  requestedOperationsJson := operationsJson
  expectedActiveSnapshotId := "s"
  expiresAt := 9
  status := .pendingApproval

def sampleApproval (proposal : String) : ApprovalRow where
  approvalId := "approval_" ++ proposal
  proposalId := proposal
  ownerPrincipalId := sampleOwner
  sourceRegistrySnapshotId := "s"
  candidateDigest := zeroDigest
  artifactDigest := zeroDigest
  manifestDigest := zeroDigest
  decisionNonce := sampleNonce proposal
  createdAt := 0
  expiresAt := 9
  status := .pending

lemma sqliteLength_zeroDigest : sqliteLength zeroDigest = 71 := by decide +kernel

lemma sampleApproval_check (hid : 0 < sqliteLength ("approval_" ++ proposal))
    (hnonce : 32 ≤ sqliteLength (sampleNonce proposal)) :
    approvalSchema.check (sampleApproval proposal) = true := by
  have howner : 0 < sqliteLength sampleOwner := by decide
  have hsource : 0 < sqliteLength "s" := by decide
  simp [approvalSchema, ApprovalTerms.check, ApprovalDecision.check, sampleApproval,
    sqliteLength_zeroDigest, hid, hnonce, howner, hsource]

def sampleLink (operation proposal : String) : ReceiptLinkRow where
  proposalId := proposal
  requestDigest := zeroDigest
  acceptanceInvocationId := "i"
  issuerPrincipalId := TRUSTED_ACCEPTANCE_ISSUER
  operation
  candidateDigest := zeroDigest
  artifactRef := zeroDigest
  artifactDigest := zeroDigest
  evidenceDigest := zeroDigest
  receiptDigest := zeroDigest
  acceptanceOutcome := "passed"
  contractCatalogVersion := "1"
  profileId := "1"
  profileCatalogVersion := "1"
  sourceRegistrySnapshotId := "s"
  originRunId := "run"

def sampleRegistry : RegistryTables :=
  { RegistryTables.empty with
    snapshots := ⟨[⟨"s", 0, 0, "s"⟩], by decide⟩
    operations_fk := by simp [RegistryTables.empty, SqlTable.empty]
    hookBindings_fk := by simp [RegistryTables.empty, SqlTable.empty]
    state := some ⟨"s", 1, 0⟩
    state_fk := by decide }

def sampleSessions : Table Session.id := ⟨[⟨"session", "main", .feishu, sampleOwner, 0, .active, 1⟩], by decide⟩

def sampleRuns : Table Run.id :=
  ⟨[⟨"run", "session", "main", "e", ⟨sampleOwner, .feishuOpenId "o", .feishu, [], none⟩, none, none, .completed,
    0, 0, "s"⟩], by decide⟩

def sampleApprovals : SqlTable approvalSchema where
  rows := [sampleApproval "p", sampleApproval "q"]
  keeps := by
    refine ⟨forall_mem_cons.mpr ⟨?_, forall_mem_singleton.mpr ?_⟩, ?_⟩
    · exact sampleApproval_check (by decide) (by decide +kernel)
    · exact sampleApproval_check (by decide) (by decide +kernel)
    · simp [Schema.Apart, Unique.Clash, approvalSchema, sampleApproval, sampleNonce]

def sampleProposals (operationsJson : String) : SqlTable proposalSchema where
  rows := [sampleProposal operationsJson "p", sampleProposal operationsJson "q"]
  keeps := by simp [Schema.Keeps, Schema.Apart, Unique.Clash, proposalSchema, sampleProposal]

def sampleGovernance (operation operationsJson : String) : GovernanceDb where
  sessions := sampleSessions
  runs := sampleRuns
  registry := sampleRegistry
  proposals := sampleProposals operationsJson
  approvals := sampleApprovals
  evidence := { receiptLinks := [sampleLink operation "p", sampleLink operation "q"] }

section

local instance : Platform := zeroPlatform

def nested : Nat → Json
  | 0 => .null
  | n + 1 => .arr [nested n]

def sampleManifest (items : Json) : HarnessManifest where
  manifestId := "manifest_0000000000000000000000000000000000000000000000000000000000000000"
  harnessId := "capability-host-v0"
  artifactDigest := zeroDigest
  protocolVersion := HarnessManifest.PROTOCOL_VERSION
  endpoint := "http://127.0.0.1:7300/execute"
  operationName := "external.a"
  description := ""
  inputSchema := .obj [("items", items)]
  outputSchema := .obj []
  idempotent := true
  createdAt := 0

def sampleSnapshotId : String := "snap_0000000000000000000000000000000000000000000000000000000000000000"

def sampleStamps : ActivationStamps := ⟨1, "e1", "e2", "e3", "e4", "e5", "g"⟩

def capabilityDb : GovernanceDb := sampleGovernance "external.a" "[\"external.a\"]"

lemma capabilityDb_prospective : ∀ items ∈ [nested 127, .null],
    trustedCapabilityProspectiveSnapshot (sampleIdentity "p") (sampleManifest items) "main" 0
      capabilityDb = .ok sampleSnapshotId := by
  decide +kernel

def sampleActivation (items : Json) : Except String (TrustedDecisionResult × GovernanceDb) :=
  activateTrustedCapabilityAtomic (sampleIdentity "p") (sampleManifest items) ⟨"h", sampleSnapshotId⟩
    "main" sampleStamps capabilityDb

lemma sampleActivation_replayed : ∀ items ∈ [nested 127, .null],
    (sampleActivation items).map (·.1.replayed) = .ok false := by
  decide +kernel

lemma sampleActivation_ok {items : Json} (hitems : items ∈ [nested 127, .null]) :
    ∃ result db', sampleActivation items = .ok (result, db') ∧ result.replayed = false := by
  have hreplayed := sampleActivation_replayed items hitems
  match h : sampleActivation items with
  | .error e =>
    rw [h] at hreplayed
    cases hreplayed
  | .ok (result, db') =>
    rw [h] at hreplayed
    exact ⟨result, db', rfl, Except.ok.inj hreplayed⟩

lemma capabilityDb_source :
    loadSnapshotFromConn capabilityDb.registry "s" = .ok ⟨"s", 0, [], []⟩ := rfl

lemma capabilityDb_readable (items : Json) :
    ParametersReadable capabilityDb (sampleIdentity "p") (sampleManifest items) ↔
      Readable (sampleManifest items).inputSchema := by
  constructor
  · intro h
    exact h _ capabilityDb_source (capabilitySpec (sampleManifest items)) (mem_singleton.mpr rfl)
  · intro h source hsource op hop
    cases capabilityDb_source.symm.trans hsource
    obtain rfl := mem_singleton.mp hop
    exact h

lemma nested_not_readable : ¬ Readable (sampleManifest (nested 127)).inputSchema := by
  rw [Readable, fromStr, Json.parse, Json.toText, String.toList_ofList, String.length_ofList]
  decide +kernel

/-- A schema whose items nest too deep passes every check and is activated, and the snapshot
it is activated in cannot be loaded. -/
theorem prediction_holds_deep : ∃ result db',
    trustedCapabilityProspectiveSnapshot (sampleIdentity "p") (sampleManifest (nested 127)) "main" 0
        capabilityDb = .ok sampleSnapshotId ∧
      sampleActivation (nested 127) = .ok (result, db') ∧ result.replayed = false ∧
      ¬ PredictionHolds capabilityDb db' (sampleManifest (nested 127)) sampleSnapshotId := by
  obtain ⟨result, db', hactivate, hnew⟩ := sampleActivation_ok (mem_cons_self (a := nested 127))
  refine ⟨result, db', capabilityDb_prospective _ mem_cons_self, hactivate, hnew, fun hholds => ?_⟩
  have hreadable := (predictionHolds_iff hactivate hnew).mp hholds
  exact nested_not_readable ((capabilityDb_readable (nested 127)).mp hreadable)

theorem prediction_holds_shallow : ∃ result db',
    sampleActivation .null = .ok (result, db') ∧
      PredictionHolds capabilityDb db' (sampleManifest .null) sampleSnapshotId := by
  obtain ⟨result, db', hactivate, hnew⟩ := sampleActivation_ok (mem_cons_of_mem _ mem_cons_self)
  have hreadable : Readable (sampleManifest .null).inputSchema := by decide +kernel
  exact ⟨result, db', hactivate,
    (prediction_holds_iff (capabilityDb_prospective .null (by simp)) hactivate hnew).mpr
      ((capabilityDb_readable .null).mpr hreadable)⟩

end

end AgentCore.Journal
