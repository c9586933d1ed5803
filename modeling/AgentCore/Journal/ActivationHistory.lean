import AgentCore.Journal.CapabilityActivation
import AgentCore.Journal.DecisionSpec

/-! One thread activates snapshots in any of the five ways while the others write what they
write. The events it leaves are one path from the baseline to the active snapshot. -/

namespace AgentCore.Journal

open Foundation Harness Registry List
open Domain hiding OperationSpec RegistrySnapshot

section

variable [Platform]

/-! ## Recorded moves -/

variable {previous new expected decisionId principal : String} {db db' : RegistryDb} {stamp : Stamp}
  {p : ProposalTerms} {m : HarnessManifest} {s : RegistryState} {stamps : ProposalStamps}
  {agent : AgentId} {i : TrustedDecisionIdentity} {store : GovernanceStore}
  {manifest : Option HarnessManifest} {registry : RegistryTables} {now : Timestamp} {r : JournalRow}

def IsActivation (r : JournalRow) : Prop :=
  r.kind = JournalEventKind.registrySnapshotActivated.storageName

instance (r : JournalRow) : Decidable (IsActivation r) := inferInstanceAs (Decidable (_ = _))

def moveOf (payload : Json) : Option (String × String) := do
  let previous ← (← payload.get "previous_snapshot_id").asStr
  let new ← (← payload.get "new_snapshot_id").asStr
  return (previous, new)

def recordedMoves (journal : JournalTable) : List (Option (String × String)) :=
  (journal.rows.filter IsActivation).map fun r => moveOf (rowToEvent r).payload

lemma recordedMoves_other (hrows : t'.rows = t.rows ++ [r])
    (hr : ¬ IsActivation r) : recordedMoves t' = recordedMoves t := by
  rw [recordedMoves, hrows, filter_append, filter_singleton]
  simp [hr, recordedMoves]

lemma recordedMoves_activation
    (hrows : t'.rows = t.rows ++ [r]) (hr : IsActivation r) (hfields : Texts fields)
    (hpayload : r.payloadJson = (Json.mkObj fields).toText)
    (hprevious : ("previous_snapshot_id", .str previous) ∈ fields)
    (hnew : ("new_snapshot_id", .str new) ∈ fields) :
    recordedMoves t' = recordedMoves t ++ [some (previous, new)] := by
  have hmove : moveOf (rowToEvent r).payload = some (previous, new) := by
    rw [hfields.payload_rowToEvent hpayload, moveOf, hfields.get _ _ hprevious, hfields.get _ _ hnew]
    rfl
  rw [recordedMoves, hrows, filter_append, filter_singleton, decide_eq_true hr]
  simp [recordedMoves, hmove]

/-! ## What a transaction does -/

structure Stays (db db' : RegistryDb) : Prop where
  state : db'.registry.state = db.registry.state
  moves : recordedMoves db'.journal = recordedMoves db.journal

structure MovesTo (db db' : RegistryDb) (previous new : String) : Prop where
  state : ∃ s now, db.registry.state = some s ∧ s.activeSnapshotId = previous ∧
    db'.registry.state = some ⟨new, s.version + 1, now⟩
  moves : recordedMoves db'.journal = recordedMoves db.journal ++ [some (previous, new)]

lemma Stays.refl (db : RegistryDb) : Stays db db := ⟨rfl, rfl⟩

lemma Stays.then (h : Stays db db') (h' : MovesTo db' db'' previous new) :
    MovesTo db db'' previous new := by
  obtain ⟨s, now, hs, hprevious, hs'⟩ := h'.state
  exact ⟨⟨s, now, h.state ▸ hs, hprevious, hs'⟩, by rw [h'.moves, h.moves]⟩

lemma MovesTo.then (h : MovesTo db db' previous new) (h' : Stays db' db'') :
    MovesTo db db'' previous new := by
  obtain ⟨s, now, hs, hprevious, hs'⟩ := h.state
  exact ⟨⟨s, now, hs, hprevious, h'.state.trans hs'⟩, by rw [h'.moves, h.moves]⟩

lemma record_stays {db db' : GovernanceDb}
    (h : db.record stamp kind p correlationId payload = .ok db')
    (hkind : kind ≠ .registrySnapshotActivated) : Stays db.toRegistryDb db'.toRegistryDb := by
  obtain ⟨journal, rfl, hrows, -⟩ := GovernanceDb.record_eq_ok h
  exact ⟨rfl, recordedMoves_other hrows fun hr => hkind (storageName_injective hr)⟩

lemma registerHarnessManifestInTx_stays (h : registerHarnessManifestInTx m stamp db = .ok db') :
    Stays db db' := by
  obtain ⟨journal, manifests, rfl, rfl | ⟨row, hkind, hrows⟩⟩ := registerHarnessManifestInTx_eq_ok h
  · exact ⟨rfl, rfl⟩
  · refine ⟨rfl, recordedMoves_other hrows fun hr => ?_⟩
    exact absurd (hkind.symm.trans hr) (by decide)

lemma registerHarnessManifestReplaceTx_stays
    (h : registerHarnessManifestReplaceTx m stamp db = .ok db') : Stays db db' := by
  cases hfind : findManifest db.manifests m.manifestId with
  | some r =>
    simp only [registerHarnessManifestReplaceTx, hfind] at h
    split at h
    · cases h
      exact .refl db
    · cases h
  | none =>
    -- an unknown identifier is registered as the first registration would
    have hfirst : registerHarnessManifestInTx m stamp db = .ok db' := by
      rw [registerHarnessManifestInTx, hfind]
      simpa only [registerHarnessManifestReplaceTx, hfind] using h
    exact registerHarnessManifestInTx_stays hfirst

lemma moves_of_append (hs : db.registry.state = some s) (hprevious : s.activeSnapshotId = previous)
    (hset : registry.state = some ⟨new, s.version + 1, now⟩)
    (happend : db.toDb.append stamp .registrySnapshotActivated none none correlationId (.mkObj fields) = .ok base)
    (hfields : Texts fields) (hprev : ("previous_snapshot_id", .str previous) ∈ fields)
    (hnew : ("new_snapshot_id", .str new) ∈ fields) :
    MovesTo db { db with toDb := base, registry } previous new := by
  obtain ⟨journal, rfl, hrows, -⟩ := Db.append_eq_ok happend
  exact ⟨⟨s, now, hs, hprevious, hset⟩, recordedMoves_activation hrows rfl hfields rfl hprev hnew⟩

lemma activateSnapshotTransactional_moves
    (h : activateSnapshotTransactional expected new decisionId action stamp db = .ok db') :
    MovesTo db db' expected new := by
  unfold activateSnapshotTransactional at h
  split at h
  · cases h
  · rename_i s hs
    split at h
    · cases h
    · rename_i hexpected
      obtain ⟨registry, hcas, h⟩ := bind_eq_ok.mp h
      obtain ⟨base, happend, ⟨⟩⟩ := bind_eq_ok.mp h
      have hstate := (setState_eq_ok.mp (casState_eq_ok hcas)).2.2.2.2
      exact moves_of_append hs (not_not.mp hexpected) hstate happend
        ⟨by simp, by simp⟩ (by simp) (by simp)

lemma activateRegistrySnapshotAtomic_moves
    (h : activateRegistrySnapshotAtomic new expected decisionId action manifestId operationName stamp db = .ok db') :
    MovesTo db db' expected new := by
  unfold activateRegistrySnapshotAtomic at h
  split at h
  · cases h
  · rename_i s hs
    split at h
    · cases h
    · rename_i hexpected
      obtain ⟨registry, hcas, h⟩ := bind_eq_ok.mp h
      obtain ⟨base, happend, ⟨⟩⟩ := bind_eq_ok.mp h
      have hstate := (setState_eq_ok.mp (casState_eq_ok hcas)).2.2.2.2
      exact moves_of_append hs (not_not.mp hexpected) hstate happend
        ⟨by simp, by simp⟩ (by simp) (by simp)

/-! ### With the shared activation -/

lemma record_moves {db db' : GovernanceDb} (hs : db₀.registry.state = some s)
    (hprevious : s.activeSnapshotId = previous)
    (hset : db.registry.state = some ⟨new, s.version + 1, now⟩)
    (hmoves : recordedMoves db.journal = recordedMoves db₀.journal)
    (h : db.record stamp .registrySnapshotActivated p correlationId (.mkObj fields) = .ok db')
    (hfields : Texts fields) (hprev : ("previous_snapshot_id", .str previous) ∈ fields)
    (hnew : ("new_snapshot_id", .str new) ∈ fields) :
    MovesTo db₀ db'.toRegistryDb previous new := by
  obtain ⟨journal, rfl, hrows, -⟩ := GovernanceDb.record_eq_ok h
  refine ⟨⟨s, now, hs, hprevious, hset⟩, ?_⟩
  rw [← hmoves]
  exact recordedMoves_activation hrows rfl hfields rfl hprev hnew

lemma settleProposal_moves {base : RegistryDb} {db db' : GovernanceDb}
    (hactivate : activateRegistryTx specs expected stamps.now base.registry = .ok (activation, registry))
    (hsettle : settleProposal p principal decisionId reason activation.newSnapshotId (.mkObj fields) changePayload stamps { db with toRegistryDb := { base with registry } } = .ok db')
    (hfields : Texts fields) (hprev : ("previous_snapshot_id", .str expected) ∈ fields)
    (hnew : ("new_snapshot_id", .str activation.newSnapshotId) ∈ fields) :
    MovesTo base db'.toRegistryDb expected activation.newSnapshotId := by
  obtain ⟨s, t₁, bindings, id, hs, hexpected, -, -, -, -, hset, rfl⟩ :=
    activateRegistryTx_eq_ok hactivate
  obtain ⟨db₁, hactivated, hchanged⟩ := bind_eq_ok.mp hsettle
  have hmoves := record_moves hs hexpected (setState_eq_ok.mp hset).2.2.2.2 rfl hactivated hfields
    hprev hnew
  exact hmoves.then (record_stays hchanged (by decide))

lemma registerOptionalManifest_stays
    (h : registerOptionalManifest manifest stamps db = .ok db') : Stays db db' := by
  cases manifest with
  | none =>
    cases h
    exact .refl db
  | some m => exact registerHarnessManifestInTx_stays (mapError_eq_ok.mp h)

lemma activateProposalAtomic_moves {db db' : GovernanceDb}
    (h : activateProposalAtomic p principal newOperations expected decisionId manifest agent stamps db = .ok (snapshotId, db')) :
    MovesTo db.toRegistryDb db'.toRegistryDb expected snapshotId := by
  obtain ⟨base, hregister, h⟩ := bind_eq_ok.mp h
  obtain ⟨row, -, h⟩ := bind_eq_ok.mp h
  obtain ⟨⟨activation, registry⟩, hactivate, h⟩ := bind_eq_ok.mp h
  obtain ⟨db₁, hsettle, ⟨⟩⟩ := bind_eq_ok.mp h
  refine (registerOptionalManifest_stays hregister).then ?_
  exact settleProposal_moves hactivate hsettle ⟨by simp, by simp⟩ (by simp) (by simp)

lemma activateSchemaUpgradeAtomic_moves {db db' : GovernanceDb}
    (h : activateSchemaUpgradeAtomic p principal decisionId m agent stamps db = .ok (snapshotId, db')) :
    ∃ previous, MovesTo db.toRegistryDb db'.toRegistryDb previous snapshotId := by
  obtain ⟨row, -, h⟩ := bind_eq_ok.mp h
  obtain ⟨plan, -, h⟩ := bind_eq_ok.mp h
  obtain ⟨base, hregister, h⟩ := bind_eq_ok.mp h
  obtain ⟨⟨activation, registry⟩, hactivate, h⟩ := bind_eq_ok.mp h
  obtain ⟨db₁, hsettle, ⟨⟩⟩ := bind_eq_ok.mp h
  refine ⟨plan.activeSnapshotId, ?_⟩
  refine (registerHarnessManifestReplaceTx_stays (mapError_eq_ok.mp hregister)).then ?_
  exact settleProposal_moves hactivate hsettle ⟨by simp, by simp⟩ (by simp) (by simp)

lemma installCapability_sets {stamps : ActivationStamps} {db db' : GovernanceDb}
    (h : installCapability i m target specs stamps db = .ok db') :
    recordedMoves db'.journal = recordedMoves db.journal ∧
      ∃ s, db.registry.state = some s ∧ s.activeSnapshotId = i.expectedSourceSnapshotId ∧
        db'.registry.state = some ⟨target, s.version + 1, stamps.now⟩ := by
  obtain ⟨journal, manifests, registry, rfl, hactivate⟩ := installCapability_eq_ok h
  obtain ⟨base, hregister, h⟩ := bind_eq_ok.mp h
  obtain ⟨⟨activation', registry'⟩, -, h⟩ := bind_eq_ok.mp h
  dsimp only at h
  split at h
  · cases h
  · have hjournal : base.journal = journal :=
      congrArg (fun db : GovernanceDb => db.journal) (return_eq_ok.mp h)
    have hstays := registerHarnessManifestInTx_stays (mapError_eq_ok.mp hregister)
    obtain ⟨s, t₁, bindings, id, hs, hexpected, -, -, -, -, hset, hid⟩ :=
      activateRegistryTx_eq_ok hactivate
    obtain rfl : target = id := congrArg RegistryActivation.newSnapshotId hid
    exact ⟨hjournal ▸ hstays.moves, s, hs, hexpected, (setState_eq_ok.mp hset).2.2.2.2⟩

lemma settleActivation_moves {deploymentId : String}
    {stamps : ActivationStamps} {db db' : GovernanceDb} (hs : db₀.registry.state = some s)
    (hexpected : s.activeSnapshotId = i.expectedSourceSnapshotId)
    (hset : db.registry.state = some ⟨snapshotId, s.version + 1, stamps.now⟩)
    (hmoves : recordedMoves db.journal = recordedMoves db₀.journal)
    (h : settleActivation i m p snapshotId deploymentId stamps db = .ok db') :
    MovesTo db₀ db'.toRegistryDb i.expectedSourceSnapshotId snapshotId := by
  obtain ⟨⟨grant, grants⟩, -, h⟩ := bind_eq_ok.mp h
  obtain ⟨db₁, hpersist, h⟩ := bind_eq_ok.mp h
  obtain ⟨approvals, proposals, rfl, -, -⟩ := persistTerminal_eq_ok hpersist
  obtain ⟨db₄, hevents, hgrant⟩ := bind_eq_ok.mp h
  obtain ⟨db₂, happroved, hevents⟩ := bind_eq_ok.mp hevents
  obtain ⟨db₃, hactivated, hchanged⟩ := bind_eq_ok.mp hevents
  have hstays := record_stays happroved (by decide)
  have hmove : MovesTo db₀ db₃.toRegistryDb i.expectedSourceSnapshotId snapshotId :=
    record_moves hs hexpected (hstays.state.trans hset) (hstays.moves.trans hmoves) hactivated
      ⟨by simp, by simp⟩ (by simp) (by simp)
  refine (hmove.then (record_stays hchanged (by decide))).then ?_
  split at hgrant
  · exact record_stays hgrant (by decide)
  · cases hgrant
    exact .refl _

lemma activateTrustedCapabilityAtomic_moves {stamps : ActivationStamps} {db db' : GovernanceDb}
    (h : activateTrustedCapabilityAtomic i m deployment agent stamps db = .ok (result, db')) :
    (result.replayed = true ∧ db' = db) ∨
      (result.replayed = false ∧ MovesTo db.toRegistryDb db'.toRegistryDb i.expectedSourceSnapshotId
        deployment.targetSnapshotId) := by
  obtain ⟨-, -, b, -, hcase⟩ := activateTrustedCapabilityAtomic_eq_ok h
  rcases hcase with ⟨-, rfl, hreplay, -, -⟩ | ⟨-, -, rfl, specs, db₁, -, -, hinstall, hsettle⟩
  · obtain ⟨text, stored, -, -, rfl⟩ := (replayResult_eq_ok.mp hreplay).stored
    exact .inl ⟨rfl, rfl⟩
  · obtain ⟨hmoves, s, hs, hexpected, hset⟩ := installCapability_sets hinstall
    exact .inr ⟨rfl, settleActivation_moves hs hexpected hset hmoves hsettle⟩

/-! ### Enabling and disabling -/

lemma createRegistrySnapshot_state (specs : List OperationSpec) (bindings : List HookBinding)
    (now : Timestamp) (t : RegistryTables) :
    (createRegistrySnapshotWithHookBindings specs bindings now t).2.state = t.state := by
  rw [createRegistrySnapshot_tables specs bindings now t le_rfl]
  dsimp only [crashInCreate]
  split
  · refine autocommit_invariant (I := fun u : RegistryTables => u.state = t.state)
      (fun statement hmem u u' hok hu => ?_) rfl
    have hmem := mem_of_mem_take hmem
    simp only [snapshotStatements, mem_cons, mem_append, mem_map] at hmem
    rcases hmem with rfl | ⟨op, -, rfl⟩ | ⟨b, -, rfl⟩
    · exact (insertSnapshot_eq_ok.mp hok).state.trans hu
    · exact (insertOperation_eq_ok.mp hok).2.state.trans hu
    · exact (insertHookBinding_eq_ok.mp hok).2.state.trans hu
  · rfl

lemma changeHarness_moves (action : HarnessChangeAction) (approved : ApprovedHarnessChange)
    (stamp : Stamp) (store : JournalStore) :
    (Stays store.db (changeHarness action approved stamp store).2.db ∧
        (changeHarness action approved stamp store).2.currentSnapshotId = store.currentSnapshotId) ∨
      ∃ previous new, MovesTo store.db (changeHarness action approved stamp store).2.db previous new ∧
        (changeHarness action approved stamp store).2.currentSnapshotId = some new := by
  cases hread : readForChange approved store with
  | error e =>
    simp only [changeHarness, hread]
    exact .inl ⟨.refl _, trivial⟩
  | ok found =>
    obtain ⟨manifest, snapshot⟩ := found
    cases hspecs : action.specs manifest snapshot with
    | none =>
      simp only [changeHarness, hread, hspecs]
      exact .inl ⟨.refl _, trivial⟩
    | some specs =>
      have hstate := createRegistrySnapshot_state specs snapshot.hookBindings stamp.createdAt
        store.db.registry
      have hcreated : Stays store.db (store.withRegistry (createRegistrySnapshotWithHookBindings specs
          snapshot.hookBindings stamp.createdAt store.db.registry).2).db := ⟨hstate, rfl⟩
      simp only [changeHarness, hread, hspecs]
      split
      · next hcreate =>
        rw [hcreate] at hcreated
        exact .inl ⟨hcreated, rfl⟩
      · next hcreate =>
        rw [hcreate] at hcreated
        split
        · exact .inl ⟨hcreated, rfl⟩
        · next hactivate =>
          exact .inr ⟨_, _, hcreated.then (activateRegistrySnapshotAtomic_moves hactivate), rfl⟩

/-! ## Runs -/

inductive ActivationCall
  | snapshot (expected new decisionId action : String) (stamp : Stamp)
  | registrySnapshot (new expected decisionId action manifestId operationName : String) (stamp : Stamp)
  | change (action : HarnessChangeAction) (approved : ApprovedHarnessChange) (stamp : Stamp)
  | proposal (p : ProposalTerms) (principal : String) (newOperations : List OperationSpec)
      (expected decisionId : String) (manifest : Option HarnessManifest) (agent : AgentId)
      (stamps : ProposalStamps)
  | upgrade (p : ProposalTerms) (principal decisionId : String) (m : HarnessManifest) (agent : AgentId)
      (stamps : ProposalStamps)
  | trusted (i : TrustedDecisionIdentity) (m : HarnessManifest) (deployment : TrustedHostDeployment)
      (agent : AgentId) (stamps : ActivationStamps)
  | elsewhere (db : GovernanceDb)

def GovernanceStore.pointTo (store : GovernanceStore) (new : String) :
    Except String RegistryDb → GovernanceStore
  | .error _ => store
  | .ok db => store.withJournalStore ⟨db, some new⟩

def activationStep (store : GovernanceStore) : ActivationCall → GovernanceStore
  | .snapshot expected new decisionId action stamp =>
    store.pointTo new
      (activateSnapshotTransactional expected new decisionId action stamp store.db.toRegistryDb)
  | .registrySnapshot new expected decisionId action manifestId operationName stamp =>
    store.pointTo new (activateRegistrySnapshotAtomic new expected decisionId action manifestId
      operationName stamp store.db.toRegistryDb)
  | .change action approved stamp =>
    store.withJournalStore (changeHarness action approved stamp store.toJournalStore).2
  | .proposal p principal newOperations expected decisionId manifest agent stamps =>
    (store.settle (activateProposalAtomic p principal newOperations expected decisionId manifest agent
      stamps store.db)).2
  | .upgrade p principal decisionId m agent stamps =>
    (store.settle (activateSchemaUpgradeAtomic p principal decisionId m agent stamps store.db)).2
  | .trusted i m deployment agent stamps =>
    match activateTrustedCapabilityAtomic i m deployment agent stamps store.db with
    | .error _ => store
    | .ok (result, db) =>
      -- a replay returns before the cache is set
      ⟨db, if result.replayed then store.currentSnapshotId else some deployment.targetSnapshotId⟩
  | .elsewhere db =>
    -- the other threads write anything but the pointer and the events about it
    if db.registry.state = store.db.registry.state ∧
        recordedMoves db.journal = recordedMoves store.db.journal then { store with db }
    else store

def Follows (store store' : GovernanceStore) : Prop :=
  (Stays store.db.toRegistryDb store'.db.toRegistryDb ∧
      store'.currentSnapshotId = store.currentSnapshotId) ∨
    ∃ previous new, MovesTo store.db.toRegistryDb store'.db.toRegistryDb previous new ∧
      store'.currentSnapshotId = some new

lemma Follows.refl (store : GovernanceStore) : Follows store store := .inl ⟨.refl _, rfl⟩

lemma follows_pointTo (h : ∀ db, outcome = .ok db → MovesTo store.db.toRegistryDb db expected new) :
    Follows store (store.pointTo new outcome) := by
  cases outcome with
  | error e => exact .refl store
  | ok db => exact .inr ⟨expected, new, h db rfl, rfl⟩

lemma follows_settle
    (h : ∀ snapshotId db, outcome = .ok (snapshotId, db) → ∃ previous, MovesTo store.db.toRegistryDb db.toRegistryDb previous snapshotId) :
    Follows store (store.settle outcome).2 := by
  cases outcome with
  | error e => exact .refl store
  | ok done =>
    obtain ⟨previous, hmoves⟩ := h done.1 done.2 rfl
    exact .inr ⟨previous, done.1, hmoves, rfl⟩

lemma activationStep_follows (store : GovernanceStore) (call : ActivationCall) :
    Follows store (activationStep store call) := by
  cases call with
  | snapshot expected new decisionId action stamp =>
    exact follows_pointTo fun db h => activateSnapshotTransactional_moves h
  | registrySnapshot new expected decisionId action manifestId operationName stamp =>
    exact follows_pointTo fun db h => activateRegistrySnapshotAtomic_moves h
  | change action approved stamp => exact changeHarness_moves action approved stamp store.toJournalStore
  | proposal p principal newOperations expected decisionId manifest agent stamps =>
    exact follows_settle fun snapshotId db h => ⟨expected, activateProposalAtomic_moves h⟩
  | upgrade p principal decisionId m agent stamps =>
    exact follows_settle fun snapshotId db h => activateSchemaUpgradeAtomic_moves h
  | trusted i m deployment agent stamps =>
    simp only [activationStep]
    split
    · exact .refl store
    · next result db hactivate =>
      rcases activateTrustedCapabilityAtomic_moves hactivate with ⟨hreplayed, rfl⟩ | ⟨hnew, hmoves⟩
      · exact .inl ⟨Stays.refl _, by rw [hreplayed]; rfl⟩
      · exact .inr ⟨_, _, hmoves, by rw [hnew]; rfl⟩
  | elsewhere db =>
    simp only [activationStep]
    split
    · next hquiet => exact .inl ⟨⟨hquiet.1, hquiet.2⟩, rfl⟩
    · exact .refl store

structure LinearHistory (baseline : RegistryState) (store : GovernanceStore)
    (moves : List (String × String)) (active : RegistryState) : Prop where
  recorded : recordedMoves store.db.journal = moves.map some
  path : Path baseline.activeSnapshotId moves active.activeSnapshotId
  state : store.db.registry.state = some active
  version : active.version = baseline.version + moves.length
  current : currentRegistrySnapshotId store.toJournalStore = .ok active.activeSnapshotId

lemma LinearHistory.follows (h : LinearHistory baseline store moves active)
    (hfollows : Follows store store') :
    ∃ moves' active', LinearHistory baseline store' moves' active' := by
  rcases hfollows with ⟨hstays, hcache⟩ | ⟨previous, new, hmoves, hcache⟩
  · refine ⟨moves, active, hstays.moves.trans h.recorded, h.path, hstays.state.trans h.state,
      h.version, ?_⟩
    rw [currentRegistrySnapshotId, GovernanceStore.toJournalStore, hcache]
    exact h.current
  · obtain ⟨s, now, hs, rfl, hs'⟩ := hmoves.state
    cases h.state.symm.trans hs
    refine ⟨moves ++ [(active.activeSnapshotId, new)], ⟨new, active.version + 1, now⟩, ?_,
      h.path.snoc new, hs', ?_, ?_⟩
    · rw [hmoves.moves, h.recorded, map_append]
      rfl
    · rw [h.version, length_append, length_singleton, Nat.add_assoc]
    · rw [currentRegistrySnapshotId, GovernanceStore.toJournalStore, hcache]

/-- Whatever is activated, in whichever way and with whatever outcome, the history is linear. -/
theorem activation_history_linear {store : GovernanceStore} {baseline : RegistryState}
    (hstate : store.db.registry.state = some baseline) (hnone : recordedMoves store.db.journal = [])
    (hcache : store.currentSnapshotId = some baseline.activeSnapshotId) (calls : List ActivationCall) :
    ∃ moves active, LinearHistory baseline (run activationStep store calls) moves active := by
  refine run_invariant (I := fun s => ∃ moves active, LinearHistory baseline s moves active)
    (fun s call hs => ?_) calls ?_
  · obtain ⟨moves, active, hlinear⟩ := hs
    exact hlinear.follows (activationStep_follows s call)
  · refine ⟨[], baseline, hnone, rfl, hstate, rfl, ?_⟩
    rw [currentRegistrySnapshotId, GovernanceStore.toJournalStore, hcache]

end

/-! ## Two snapshots -/

def twoSnapshots : RegistryTables where
  snapshots := ⟨[⟨"s0", 0, 0, "s0"⟩, ⟨"s1", 0, 0, "s1"⟩], by decide⟩
  operations := .empty
  hookBindings := .empty
  state := some ⟨"s0", 1, 0⟩
  operations_fk := fun _ h => absurd h not_mem_nil
  hookBindings_fk := fun _ h => absurd h not_mem_nil
  state_fk := fun _ h => by
    cases h
    decide

def twoSnapshotStore : GovernanceStore := ⟨{ registry := twoSnapshots }, some "s0"⟩

def thereAndBack : List ActivationCall :=
  [.snapshot "s1" "s0" "d0" "enable" ⟨"e0", 1⟩, .snapshot "s0" "s1" "d1" "enable" ⟨"e1", 2⟩,
    .registrySnapshot "s0" "s1" "d2" "disable" "m" "op" ⟨"e2", 3⟩]

theorem activation_history_linear_back : letI := zeroPlatform
    (run activationStep twoSnapshotStore thereAndBack).db.registry.state = some ⟨"s0", 3, 3⟩ ∧
      ∃ moves active,
        LinearHistory ⟨"s0", 1, 0⟩ (run activationStep twoSnapshotStore thereAndBack) moves active :=
  ⟨by decide +kernel,
    @activation_history_linear zeroPlatform twoSnapshotStore ⟨"s0", 1, 0⟩ rfl rfl rfl thereAndBack⟩

end AgentCore.Journal
