import AgentCore.Journal.RegistryContent

/-! Activations over a whole history of the registry: when the shared activation succeeds on
content that may have been stored before. -/

namespace AgentCore.Journal

open Foundation Registry List
open Domain hiding OperationSpec RegistrySnapshot

lemma loadActiveHookBindings_nodup (t : RegistryTables) (id : String) :
    (hookContracts (loadActiveHookBindings t id)).Nodup := by
  have hrows : ((t.hookBindings.rows.filter fun r => r.snapshotId = id).map
      fun r => r.binding.contract).Nodup := by
    refine pairwise_map.mpr ?_
    refine (t.hookBindings.keeps.2.filter _).imp_of_mem fun {r s} hr hs hapart heq => ?_
    have hrid : r.snapshotId = id := of_decide_eq_true (mem_filter.mp hr).2
    have hsid : s.snapshotId = id := of_decide_eq_true (mem_filter.mp hs).2
    have hkey : some (r.snapshotId, r.binding.contract) = some (s.snapshotId, s.binding.contract) := by
      rw [hrid, hsid, heq]
    exact hapart _ mem_cons_self ⟨Option.some_ne_none _, hkey⟩
  rw [hookContracts, loadActiveHookBindings, map_map]
  exact (((perm_sortBy _ _).map _).nodup_iff).mpr hrows

lemma inheritedHookBindings_nodup (t : RegistryTables) (id : String) :
    (hookContracts (inheritedHookBindings (loadActiveHookBindings t id))).Nodup := by
  unfold inheritedHookBindings
  split
  · decide
  · exact loadActiveHookBindings_nodup t id

section

variable [Platform]

/-! ## Headers -/

variable {t t' : RegistryTables} {specs : List OperationSpec} {now : Timestamp}
  {store : JournalStore} {s : RegistryState}
  {id : String} {newOperations : List OperationSpec} {ids : List String} {expected : String}

def OwnDigests (t : RegistryTables) : Prop :=
  ∀ r ∈ t.snapshots.rows, r.canonicalDigest = r.snapshotId

section

omit [Platform]

lemma OwnDigests.congr (h : OwnDigests t) (hsame : SameContent t t') : OwnDigests t' := by
  intro r hr
  exact h r (hsame.snapshots ▸ hr)

lemma OwnDigests.adds (h : OwnDigests t) {bindings : List HookBindingRow}
    (hadds : Adds t t' headers operations bindings)
    (hheaders : ∀ r ∈ headers, r.canonicalDigest = r.snapshotId) : OwnDigests t' := by
  intro r hr
  rw [hadds.snapshots] at hr
  exact (mem_append.mp hr).elim (h r) (hheaders r)

lemma OwnDigests.statement {statement : RegistryTables → Except String RegistryTables}
    (hmem : statement ∈ snapshotStatements id specs bindings now) (hok : statement t = .ok t')
    (h : OwnDigests t) : OwnDigests t' := by
  simp only [snapshotStatements, mem_cons, mem_append, mem_map] at hmem
  rcases hmem with rfl | ⟨op, -, rfl⟩ | ⟨b, -, rfl⟩
  · refine h.adds (insertSnapshot_eq_ok.mp hok) fun r hr => ?_
    rw [mem_singleton.mp hr]
  · exact h.adds (insertOperation_eq_ok.mp hok).2 fun r hr => absurd hr not_mem_nil
  · exact h.adds (insertHookBinding_eq_ok.mp hok).2 fun r hr => absurd hr not_mem_nil

end

lemma OwnDigests.create (h : OwnDigests t) {statements : Nat} :
    OwnDigests (crashInCreate statements specs bindings now t) := by
  dsimp only [crashInCreate]
  split
  · exact autocommit_invariant (fun statement hmem t t' hok ht =>
      ht.statement (mem_of_mem_take hmem) hok) h
  · exact h

lemma OwnDigests.activate (h : OwnDigests t) {activation : RegistryActivation}
    (hactivate : activateRegistryTx newOperations expected now t = .ok (activation, t')) :
    OwnDigests t' := by
  obtain ⟨s, t₁, bindings, id, -, -, -, -, -, hinsert, hstate, -⟩ := activateRegistryTx_eq_ok hactivate
  refine .congr ?_ (setState_sameContent hstate)
  refine h.adds (snapshotStatements_adds hinsert) fun r hr => ?_
  rw [mem_singleton.mp hr]

lemma OwnDigests.step (h : OwnDigests store.db.registry) (act : RegistryAct) :
    OwnDigests (registryStep store act).db.registry := by
  cases act with
  | create specs bindings now =>
    have htables := createRegistrySnapshot_tables specs bindings now store.db.registry le_rfl
    show OwnDigests (createRegistrySnapshotWithHookBindings ..).2
    rw [htables]
    exact h.create
  | crashInCreate statements specs bindings now => exact h.create
  | activate newOperations expected now =>
    simp only [registryStep]
    split
    · exact h
    · next hactivate => exact h.activate hactivate
  | activateSnapshot newId expected decisionId action manifestId operationName stamp =>
    simp only [registryStep]
    split
    · exact h
    · next hactivate => exact h.congr (activateRegistrySnapshotAtomic_sameContent hactivate)
  | initState snapshotId now =>
    simp only [registryStep, initRegistryState, JournalStore.withRegistry]
    split
    · exact h
    · cases hstate : setState ⟨snapshotId, 1, now⟩ store.db.registry with
      | error e => exact h
      | ok t => exact h.congr (setState_sameContent hstate)
  | change action approved stamp =>
    have hplanned := @changeHarness_planned _ action approved store stamp
    simp only [registryStep]
    split at hplanned
    · rw [hplanned]
      exact h
    · next specs bindings _ =>
      refine .congr ?_ hplanned
      rw [createRegistrySnapshot_tables specs bindings stamp.createdAt store.db.registry le_rfl]
      exact h.create
  | crashInChange statements action approved stamp =>
    simp only [registryStep]
    split
    · exact h
    · exact h.create
  | setCurrent id => exact h
  | elsewhere db manifests => exact h

lemma ownDigests_run (hempty : store.db.registry = .empty) (acts : List RegistryAct) :
    OwnDigests (run registryStep store acts).db.registry := by
  refine run_invariant (I := fun s : JournalStore => OwnDigests s.db.registry) (fun s act hs => hs.step act) acts ?_
  rw [hempty]
  exact fun r hr => absurd hr not_mem_nil

/-! ## Inherited bindings -/

/-! ## Going back -/

def activationContentId (t : RegistryTables) (newOperations : List OperationSpec)
    (activeSnapshotId : String) : String :=
  computeSnapshotIdWithHookBindings newOperations
    (inheritedHookBindings (loadActiveHookBindings t activeSnapshotId))

def Activates (t : RegistryTables) (newOperations : List OperationSpec) (expected : String)
    (now : Timestamp) : Prop :=
  ∃ activation t', activateRegistryTx newOperations expected now t = .ok (activation, t') ∧
    t'.state.map RegistryState.activeSnapshotId = some (activationContentId t newOperations expected)

lemma activateRegistryTx_of_new (hs : t.state = some s) (hdigests : OwnDigests t)
    (hnames : (operationNames newOperations).Nodup) (now : Timestamp)
    (hnew : activationContentId t newOperations s.activeSnapshotId ∉ t.ids) :
    Activates t newOperations s.activeSnapshotId now := by
  obtain ⟨t₁, hinsert⟩ := exists_snapshotStatements now hnew hdigests hnames
    (inheritedHookBindings_nodup t s.activeSnapshotId)
  have hadds := snapshotStatements_adds hinsert
  -- the pointer is as it was read, and the new header is there for it
  have hcas : ∃ t', casState "registry_activation_conflict" s.version
      ⟨activationContentId t newOperations s.activeSnapshotId, s.version + 1, now⟩ t₁ = .ok t' ∧
      t'.state = some ⟨activationContentId t newOperations s.activeSnapshotId, s.version + 1, now⟩ := by
    have hid : activationContentId t newOperations s.activeSnapshotId ∈ snapshotIds t₁.snapshots := by
      show _ ∈ t₁.ids
      rw [hadds.ids]
      exact mem_append_right _ (mem_singleton_self _)
    rw [casState, if_pos (by rw [hadds.state, hs]; rfl), setState, dif_pos hid]
    exact ⟨_, rfl, rfl⟩
  obtain ⟨t', hcas, hstate⟩ := hcas
  refine ⟨⟨s.activeSnapshotId, activationContentId t newOperations s.activeSnapshotId⟩, t', ?_,
    by rw [hstate]; rfl⟩
  unfold activateRegistryTx
  rw [if_neg (not_not.mpr hnames), hs]
  simp only [ne_eq, not_true_eq_false, if_false]
  refine bind_eq_ok.mpr ⟨t₁, hinsert, bind_eq_ok.mpr ⟨t', hcas, rfl⟩⟩

lemma Activates.new {newOperations : List OperationSpec}
    {now : Timestamp} (h : Activates t newOperations expected now) :
    activationContentId t newOperations expected ∉ t.ids := by
  obtain ⟨activation, t', hactivate, -⟩ := h
  obtain ⟨s, t₁, bindings, id, -, rfl, -, rfl, rfl, hinsert, -, -⟩ := activateRegistryTx_eq_ok hactivate
  exact (snapshotStatements_adds hinsert).fresh

/-- In every registry that a history of calls leads to, an activation that expects the active
snapshot succeeds exactly when its content was not stored before. -/
theorem activation_succeeds_iff_new {store : JournalStore} (hempty : store.db.registry = .empty)
    (acts : List RegistryAct) {s : RegistryState}
    (hs : (run registryStep store acts).db.registry.state = some s)
    {newOperations : List OperationSpec} (hnames : (operationNames newOperations).Nodup)
    (now : Timestamp) :
    let t := (run registryStep store acts).db.registry
    Activates t newOperations s.activeSnapshotId now ↔
      activationContentId t newOperations s.activeSnapshotId ∉ t.ids := by
  intro t
  constructor
  · exact Activates.new
  · exact activateRegistryTx_of_new hs (ownDigests_run hempty acts) hnames now

/-! ## There and back -/

def builtinContentId (specs : List OperationSpec) : String :=
  computeSnapshotIdWithHookBindings specs builtinHookBindings

def bootOf (specs : List OperationSpec) : List RegistryAct :=
  [.create specs builtinHookBindings 0, .initState (builtinContentId specs) 1]

def replacedRun (specs others : List OperationSpec) : List RegistryAct :=
  bootOf specs ++ [.activate others (builtinContentId specs) 2]

structure HoldsBuiltin (t : RegistryTables) (s : RegistryState) (ids : List String) : Prop where
  state : t.state = some s
  ids_eq : t.ids = ids
  hookBindings : t.hookBindings.rows = ids.map fun id => ⟨id, HookBinding.builtinBudget⟩

omit [Platform] in
lemma HoldsBuiltin.inherited (h : HoldsBuiltin t s ids) (hnodup : ids.Nodup) (hid : id ∈ ids) :
    inheritedHookBindings (loadActiveHookBindings t id) = builtinHookBindings := by
  have hrows : (t.hookBindings.rows.filter fun r => r.snapshotId = id) =
      [⟨id, .builtinBudget⟩] := by
    rw [h.hookBindings, filter_map]
    have honly : ids.filter (fun i => decide (i = id)) = [id] := by
      rw [filter_eq, hnodup.count, if_pos hid, replicate_one]
    exact congrArg (map _) honly
  rw [loadActiveHookBindings, hrows]
  rfl

lemma HoldsBuiltin.contentId {s : RegistryState} {ids : List String} (h : HoldsBuiltin t s ids)
    (hnodup : ids.Nodup) {id : String} (hid : id ∈ ids) (specs : List OperationSpec) :
    activationContentId t specs id = builtinContentId specs := by
  rw [activationContentId, h.inherited hnodup hid, builtinContentId]

lemma bootOf_holds (hnames : (operationNames specs).Nodup) :
    HoldsBuiltin (run registryStep freshStore (bootOf specs)).db.registry
      ⟨builtinContentId specs, 1, 1⟩ [builtinContentId specs] := by
  obtain ⟨t₁, hinsert⟩ : ∃ t₁, inOrder (snapshotStatements (builtinContentId specs) specs
      builtinHookBindings 0) .empty = .ok t₁ :=
    exists_snapshotStatements 0 not_mem_nil (fun r hr => absurd hr not_mem_nil) hnames
      (by decide)
  have hadds := snapshotStatements_adds hinsert
  have hids : t₁.ids = [builtinContentId specs] := hadds.ids
  have hcreate : (createRegistrySnapshotWithHookBindings specs builtinHookBindings 0 .empty).2 = t₁ := by
    have hnew : computeSnapshotIdWithHookBindings specs builtinHookBindings ∉ RegistryTables.empty.ids :=
      not_mem_nil
    rw [builtinContentId] at hinsert
    rw [createRegistrySnapshotWithHookBindings, if_pos (by decide)]
    dsimp only
    rw [if_neg hnew, autocommit_of_inOrder hinsert]
  have hstate : ∃ t, initRegistryState (builtinContentId specs) 1 t₁ = .ok t ∧
      t.snapshots = t₁.snapshots ∧ t.hookBindings = t₁.hookBindings ∧
      t.state = some ⟨builtinContentId specs, 1, 1⟩ := by
    have hnone : t₁.state = none := hadds.state
    have hfk : builtinContentId specs ∈ snapshotIds t₁.snapshots := by
      show _ ∈ t₁.ids
      rw [hids]
      exact mem_singleton_self _
    rw [initRegistryState, hnone]
    rw [setState, dif_pos hfk]
    exact ⟨_, rfl, rfl, rfl, rfl⟩
  obtain ⟨t, hinit, hsnapshots, hbindings, hstate⟩ := hstate
  have hrun : (run registryStep freshStore (bootOf specs)).db.registry = t := by
    show commit _ (initRegistryState (builtinContentId specs) 1
      (createRegistrySnapshotWithHookBindings specs builtinHookBindings 0 .empty).2) = t
    rw [hcreate, hinit, commit_ok]
  rw [hrun]
  refine ⟨hstate, ?_, ?_⟩
  · rw [RegistryTables.ids, hsnapshots]
    exact hids
  · rw [hbindings, hadds.hookBindings]
    rfl

lemma HoldsBuiltin.activate (h : HoldsBuiltin store.db.registry s ids) (hnodup : ids.Nodup)
    (hid : s.activeSnapshotId ∈ ids) (hdigests : OwnDigests store.db.registry)
    {others : List OperationSpec} (hnames : (operationNames others).Nodup)
    (hnew : builtinContentId others ∉ ids) (now : Timestamp) :
    HoldsBuiltin (registryStep store (.activate others s.activeSnapshotId now)).db.registry
      ⟨builtinContentId others, s.version + 1, now⟩ (ids ++ [builtinContentId others]) := by
  have hcontent := h.contentId hnodup hid others
  obtain ⟨activation, t', hactivate, -⟩ := activateRegistryTx_of_new h.state hdigests hnames now
    (by rw [hcontent, h.ids_eq]; exact hnew)
  obtain ⟨s', t₁, bindings, id, hs', -, -, hbindings, hidentifier, hinsert, hset, -⟩ :=
    activateRegistryTx_eq_ok hactivate
  cases h.state.symm.trans hs'
  rw [h.inherited hnodup hid] at hbindings
  subst hbindings
  obtain rfl : id = builtinContentId others := hidentifier
  have hadds := snapshotStatements_adds hinsert
  obtain ⟨-, hsnapshots, -, hrows, hstate⟩ := setState_eq_ok.mp hset
  have hstep : (registryStep store (.activate others s.activeSnapshotId now)).db.registry = t' := by
    simp only [registryStep, hactivate]
    rfl
  rw [hstep]
  refine ⟨hstate, ?_, ?_⟩
  · rw [RegistryTables.ids, hsnapshots, ← h.ids_eq]
    exact hadds.ids
  · rw [hrows, hadds.hookBindings, h.hookBindings, map_append]
    rfl

lemma replacedRun_holds {specs others : List OperationSpec} (hnames : (operationNames specs).Nodup)
    (hothers : (operationNames others).Nodup) (hne : builtinContentId others ≠ builtinContentId specs) :
    HoldsBuiltin (run registryStep freshStore (replacedRun specs others)).db.registry
      ⟨builtinContentId others, 2, 2⟩ [builtinContentId specs, builtinContentId others] := by
  rw [replacedRun, run_append]
  exact (bootOf_holds hnames).activate (nodup_singleton _) (mem_singleton_self _)
    (ownDigests_run rfl _) hothers (fun h => hne (mem_singleton.mp h)) 2

end

/-! ### Three contents -/

lemma sampleId_eq {specs : List OperationSpec} {n : Nat}
    (h : (Json.print (canonicalContent specs builtinHookBindings)).length = n) :
    @builtinContentId samplePlatform specs = "snap_" ++ toString n := by
  show "snap_" ++ toString (String.length (String.ofList _)) = _
  rw [String.length_ofList, h]

lemma sampleId_a : @builtinContentId samplePlatform [readOp "a"] = "snap_338" :=
  (sampleId_eq (by decide +kernel : _ = 338)).trans (by decide)

lemma sampleId_ab : @builtinContentId samplePlatform [readOp "a", readOp "b"] = "snap_457" :=
  (sampleId_eq (by decide +kernel : _ = 457)).trans (by decide)

lemma sampleId_abc :
    @builtinContentId samplePlatform [readOp "a", readOp "b", readOp "c"] = "snap_576" :=
  (sampleId_eq (by decide +kernel : _ = 576)).trans (by decide)

def extendedRun : List RegistryAct :=
  [.create [readOp "a"] builtinHookBindings 0, .initState "snap_338" 1,
    .activate [readOp "a", readOp "b"] "snap_338" 2]

lemma extendedRun_holds : letI := samplePlatform
    HoldsBuiltin (run registryStep freshStore extendedRun).db.registry ⟨"snap_457", 2, 2⟩
      ["snap_338", "snap_457"] := by
  have hholds := @replacedRun_holds samplePlatform [readOp "a"] [readOp "a", readOp "b"] (by decide)
    (by decide) (by rw [sampleId_ab, sampleId_a]; decide)
  rw [sampleId_ab, sampleId_a] at hholds
  have hrun : extendedRun = @replacedRun samplePlatform [readOp "a"] [readOp "a", readOp "b"] := by
    unfold replacedRun bootOf
    rw [sampleId_a]
    rfl
  rw [hrun]
  exact hholds

/-- The content of the boot cannot be made active again: its header is stored already. -/
theorem activation_succeeds_iff_new_back : letI := samplePlatform
    (run registryStep freshStore extendedRun).db.registry.state = some ⟨"snap_457", 2, 2⟩ ∧
      (operationNames [readOp "a"]).Nodup ∧
      ¬ Activates (run registryStep freshStore extendedRun).db.registry [readOp "a"] "snap_457" 3 := by
  refine ⟨extendedRun_holds.state, by decide, fun h => ?_⟩
  have hnew := @Activates.new samplePlatform _ _ _ _ h
  rw [@HoldsBuiltin.contentId samplePlatform _ _ _ extendedRun_holds (by decide) _ (by decide), sampleId_a,
    extendedRun_holds.ids_eq] at hnew
  exact hnew (by decide)

theorem activation_succeeds_iff_new_third : letI := samplePlatform
    Activates (run registryStep freshStore extendedRun).db.registry
      [readOp "a", readOp "b", readOp "c"] "snap_457" 3 := by
  have hiff := @activation_succeeds_iff_new samplePlatform freshStore rfl extendedRun _
    extendedRun_holds.state [readOp "a", readOp "b", readOp "c"] (by decide) 3
  refine hiff.mpr ?_
  rw [@HoldsBuiltin.contentId samplePlatform _ _ _ extendedRun_holds (by decide) _ (by decide), sampleId_abc,
    extendedRun_holds.ids_eq]
  decide

end AgentCore.Journal
