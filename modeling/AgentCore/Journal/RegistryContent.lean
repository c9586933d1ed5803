import AgentCore.Foundation.Run
import AgentCore.Journal.HarnessOps

/-! Snapshots are content addressed: what is loaded under an identifier has that identifier. -/

namespace AgentCore.Journal

open Foundation Harness Registry List Function
open Domain hiding OperationSpec RegistrySnapshot

/-! ## What the statements of one snapshot write -/

variable {t t' : RegistryTables} {id expected : String} {specs : List OperationSpec}
  {bindings : List HookBinding} {now : Timestamp} {header : SnapshotRow}
  {snapshot : RegistrySnapshot} {store : JournalStore}
  {rows : List OperationRow} {newOperations : List OperationSpec}
  {approved : ApprovedHarnessChange}

lemma inOrder_insertOperations (h : inOrder (rows.map insertOperation) t = .ok t') :
    Adds t t' [] rows [] := by
  induction rows generalizing t with
  | nil =>
    obtain rfl : t = t' := Except.ok.inj h
    exact .refl t
  | cons row rows ih =>
    rw [map_cons, inOrder_cons] at h
    obtain ⟨t₁, hrow, hrest⟩ := bind_eq_ok.mp h
    exact (insertOperation_eq_ok.mp hrow).2.trans (ih hrest)

lemma inOrder_insertHookBindings {rows : List HookBindingRow}
    (h : inOrder (rows.map insertHookBinding) t = .ok t') : Adds t t' [] [] rows := by
  induction rows generalizing t with
  | nil =>
    obtain rfl : t = t' := Except.ok.inj h
    exact .refl t
  | cons row rows ih =>
    rw [map_cons, inOrder_cons] at h
    obtain ⟨t₁, hrow, hrest⟩ := bind_eq_ok.mp h
    exact (insertHookBinding_eq_ok.mp hrow).2.trans (ih hrest)

lemma exists_insertOperations (hfk : ∀ r ∈ rows, r.snapshotId ∈ t.ids)
    (hkeeps : operationSchema.Keeps (t.operations.rows ++ rows)) :
    ∃ t', inOrder (rows.map insertOperation) t = .ok t' := by
  induction rows generalizing t with
  | nil => exact ⟨t, rfl⟩
  | cons row rows ih =>
    rw [append_cons] at hkeeps
    obtain ⟨t₁, hrow⟩ := insertOperation_of_keeps (hfk row mem_cons_self) hkeeps.of_append
    have hadds := (insertOperation_eq_ok.mp hrow).2
    obtain ⟨t', hrest⟩ := ih (fun r hr => hadds.mem_ids (hfk r (mem_cons_of_mem _ hr)))
      (by rw [hadds.operations]; exact hkeeps)
    exact ⟨t', by rw [map_cons, inOrder_cons, hrow]; exact hrest⟩

lemma exists_insertHookBindings {rows : List HookBindingRow}
    (hfk : ∀ r ∈ rows, r.snapshotId ∈ t.ids)
    (hkeeps : hookBindingSchema.Keeps (t.hookBindings.rows ++ rows)) :
    ∃ t', inOrder (rows.map insertHookBinding) t = .ok t' := by
  induction rows generalizing t with
  | nil => exact ⟨t, rfl⟩
  | cons row rows ih =>
    rw [append_cons] at hkeeps
    obtain ⟨t₁, hrow⟩ := insertHookBinding_of_keeps (hfk row mem_cons_self) hkeeps.of_append
    have hadds := (insertHookBinding_eq_ok.mp hrow).2
    obtain ⟨t', hrest⟩ := ih (fun r hr => hadds.mem_ids (hfk r (mem_cons_of_mem _ hr)))
      (by rw [hadds.hookBindings]; exact hkeeps)
    exact ⟨t', by rw [map_cons, inOrder_cons, hrow]; exact hrest⟩

lemma snapshotStatements_adds (h : inOrder (snapshotStatements id specs bindings now) t = .ok t') :
    Adds t t' [⟨id, now, specs.length, id⟩] ((sortedByName specs).map (operationRow id))
      (bindings.map (HookBindingRow.mk id)) := by
  rw [snapshotStatements, inOrder_cons] at h
  obtain ⟨t₁, hheader, h⟩ := bind_eq_ok.mp h
  rw [inOrder_append] at h
  obtain ⟨t₂, hoperations, hbindings⟩ := bind_eq_ok.mp h
  rw [← comp_def, ← map_map] at hoperations
  rw [← comp_def insertHookBinding, ← map_map] at hbindings
  simpa only [append_nil, nil_append] using (insertSnapshot_eq_ok.mp hheader).trans
    ((inOrder_insertOperations hoperations).trans (inOrder_insertHookBindings hbindings))

lemma operationRows_keeps (id : String) (h : (operationNames specs).Nodup) :
    operationSchema.Keeps (specs.map (operationRow id)) := by
  refine ⟨fun _ _ => rfl, pairwise_map.mpr ?_⟩
  refine (pairwise_map.mp h).imp fun hne => ?_
  simpa [Schema.Apart, Unique.Clash, operationSchema, operationRow] using hne

lemma hookBindingRows_keeps (id : String) (h : (hookContracts bindings).Nodup) :
    hookBindingSchema.Keeps (bindings.map (HookBindingRow.mk id)) := by
  refine ⟨fun _ _ => rfl, pairwise_map.mpr ?_⟩
  refine (pairwise_map.mp h).imp fun hne => ?_
  simpa [Schema.Apart, Unique.Clash, hookBindingSchema] using hne

lemma operationNames_sorted_nodup :
    (operationNames (sortedByName specs)).Nodup ↔ (operationNames specs).Nodup :=
  ((perm_sortBy _ specs).map _).nodup_iff

lemma exists_snapshotStatements (now : Timestamp) (hid : id ∉ t.ids)
    (hdigest : ∀ r ∈ t.snapshots.rows, r.canonicalDigest = r.snapshotId)
    (hnames : (operationNames specs).Nodup) (hcontracts : (hookContracts bindings).Nodup) :
    ∃ t', inOrder (snapshotStatements id specs bindings now) t = .ok t' := by
  have hheader : snapshotSchema.Keeps (t.snapshots.rows ++ [⟨id, now, specs.length, id⟩]) := by
    refine t.snapshots.keeps.append ⟨fun _ _ => rfl, pairwise_singleton _ _⟩ ?_
    intro r hr s hs
    obtain rfl := mem_singleton.mp hs
    have hne : r.snapshotId ≠ id := fun h => hid (mem_map.mpr ⟨r, hr, h⟩)
    simpa [Schema.Apart, Unique.Clash, snapshotSchema, hdigest r hr] using hne
  obtain ⟨t₁, ht₁⟩ := insertSnapshot_of_keeps hheader
  have hadds₁ := insertSnapshot_eq_ok.mp ht₁
  have hmem : id ∈ t₁.ids := by rw [hadds₁.ids]; simp
  -- By the reference to its header no row of another snapshot has the new identifier.
  obtain ⟨t₂, ht₂⟩ : ∃ t₂, inOrder (((sortedByName specs).map (operationRow id)).map
      insertOperation) t₁ = .ok t₂ := exists_insertOperations (by simp [operationRow, hmem]) (by
      rw [hadds₁.operations, append_nil]
      refine t.operations.keeps.append
        (operationRows_keeps id (operationNames_sorted_nodup.mpr hnames)) ?_
      intro r hr s hs
      obtain ⟨op, -, rfl⟩ := mem_map.mp hs
      have hne : r.snapshotId ≠ id := fun h => hid (h ▸ t.operations_fk r hr)
      simp [Schema.Apart, Unique.Clash, operationSchema, operationRow, hne])
  have hadds₂ := hadds₁.trans (inOrder_insertOperations ht₂)
  obtain ⟨t₃, ht₃⟩ : ∃ t₃, inOrder ((bindings.map (HookBindingRow.mk id)).map
      insertHookBinding) t₂ = .ok t₃ := exists_insertHookBindings
    (by simp [(inOrder_insertOperations ht₂).mem_ids hmem]) (by
      rw [hadds₂.hookBindings, append_nil, append_nil]
      refine t.hookBindings.keeps.append (hookBindingRows_keeps id hcontracts) ?_
      intro r hr s hs
      obtain ⟨b, -, rfl⟩ := mem_map.mp hs
      have hne : r.snapshotId ≠ id := fun h => hid (h ▸ t.hookBindings_fk r hr)
      simp [Schema.Apart, Unique.Clash, hookBindingSchema, hne])
  refine ⟨t₃, ?_⟩
  rw [map_map] at ht₂ ht₃
  rw [snapshotStatements, inOrder_cons, ht₁]
  show inOrder _ t₁ = _
  rw [inOrder_append]
  exact bind_eq_ok.mpr ⟨t₂, ht₂, ht₃⟩

lemma Adds.fresh (h : Adds t t' [header] os bs) : header.snapshotId ∉ t.ids := by
  intro hid
  obtain ⟨other, hother, heq⟩ := mem_map.mp hid
  have hapart := (pairwise_append.mp (h.snapshots ▸ t'.snapshots.keeps.2)).2.2 other hother
    header (mem_singleton.mpr rfl)
  exact hapart _ mem_cons_self ⟨nofun, congrArg some heq⟩

lemma Adds.own_operations (h : Adds t t' [header] (specs.map (operationRow header.snapshotId)) bs) :
    t'.operations.rows.filter (fun r => r.snapshotId = header.snapshotId) =
      specs.map (operationRow header.snapshotId) := by
  have hold : t.operations.rows.filter (fun r => r.snapshotId = header.snapshotId) = [] :=
    filter_eq_nil_iff.mpr fun r hr heq => h.fresh (of_decide_eq_true heq ▸ t.operations_fk r hr)
  rw [h.operations, filter_append, hold]
  simp [filter_map, operationRow, comp_def]

lemma Adds.own_hookBindings
    (h : Adds t t' [header] os (bindings.map (HookBindingRow.mk header.snapshotId))) :
    t'.hookBindings.rows.filter (fun r => r.snapshotId = header.snapshotId) =
      bindings.map (HookBindingRow.mk header.snapshotId) := by
  have hold : t.hookBindings.rows.filter (fun r => r.snapshotId = header.snapshotId) = [] :=
    filter_eq_nil_iff.mpr fun r hr heq => h.fresh (of_decide_eq_true heq ▸ t.hookBindings_fk r hr)
  rw [h.hookBindings, filter_append, hold]
  simp [filter_map, comp_def]

/-! ## The active snapshot -/

structure SameContent (t t' : RegistryTables) : Prop where
  snapshots : t'.snapshots = t.snapshots
  operations : t'.operations = t.operations
  hookBindings : t'.hookBindings = t.hookBindings

lemma setState_sameContent (h : setState s t = .ok t') : SameContent t t' := by
  obtain ⟨-, hsnapshots, hoperations, hbindings, -⟩ := setState_eq_ok.mp h
  exact ⟨hsnapshots, hoperations, hbindings⟩

lemma casState_eq_ok (h : casState conflict version s t = .ok t') : setState s t = .ok t' := by
  unfold casState at h
  split at h
  · exact h
  · cases h

/-! ## What is loaded of a snapshot -/

lemma sortBy_operationRows (id : String) (specs : List OperationSpec) :
    sortBy OperationRow.operationName ((sortedByName specs).map (operationRow id)) =
      (sortedByName specs).map (operationRow id) := sortBy_map_sortBy (fun _ => rfl) specs

lemma sortBy_hookBindingRows (id : String) (bindings : List HookBinding) :
    (sortBy (fun r : HookBindingRow => r.binding.contract)
      (bindings.map (HookBindingRow.mk id))).map HookBindingRow.binding =
      sortedByContract bindings := by
  rw [← map_sortBy, map_map]
  exact map_id _

section

variable [Platform] {action : HarnessChangeAction}

/-- The text of the value reads back to it, or to nothing. Deep values do not read back,
and a binary64 number may read back to its neighbour. -/
def Stable (v : Json) : Prop := ∀ v' ∈ fromStr v.toText, v' = v

instance (v : Json) : Decidable (Stable v) := inferInstanceAs (Decidable (∀ v' ∈ fromStr v.toText, v' = v))

def StableSpecs (specs : List OperationSpec) : Prop := ∀ op ∈ specs, Stable op.parameters

instance (specs : List OperationSpec) : Decidable (StableSpecs specs) :=
  inferInstanceAs (Decidable (∀ op ∈ specs, Stable op.parameters))

lemma readOperation_operationRow (hstable : Stable op.parameters)
    (h : readOperation (operationRow id op) = .ok op') : op' = op := by
  simp only [readOperation, operationRow] at h
  split at h
  · cases h
  · rename_i parameters hread
    obtain rfl := hstable parameters hread
    exact (Except.ok.inj h).symm

lemma readOperations_of_stable (hstable : StableSpecs specs)
    (h : (specs.map (operationRow id)).mapM readOperation = .ok specs') : specs' = specs := by
  rw [mapM_eq_ok, forall₂_map_left_iff] at h
  induction h with
  | nil => rfl
  | cons hread _ ih =>
    rw [readOperation_operationRow (hstable _ mem_cons_self) hread,
      ih fun op hop => hstable op (mem_cons_of_mem _ hop)]

/-- The snapshot's rows are exactly those of the operations and bindings it is named after. -/
structure Written (t : RegistryTables) (id : String) (specs : List OperationSpec)
    (bindings : List HookBinding) : Prop where
  names : (operationNames specs).Nodup
  stable : StableSpecs specs
  identifier : computeSnapshotIdWithHookBindings specs bindings = id
  operations : t.operations.rows.filter (fun r => r.snapshotId = id) =
    (sortedByName specs).map (operationRow id)
  hookBindings : t.hookBindings.rows.filter (fun r => r.snapshotId = id) =
    bindings.map (HookBindingRow.mk id)

lemma Written.load (h : Written t id specs bindings)
    (hload : loadSnapshotFromConn t id = .ok snapshot) : snapshot.operations = sortedByName specs ∧
      snapshot.hookBindings = sortedByContract bindings := by
  obtain ⟨-, hread, hbindings, -⟩ := loadSnapshotFromConn_eq_ok hload
  constructor
  · rw [operationRows, h.operations, sortBy_operationRows] at hread
    exact readOperations_of_stable (fun op hop => h.stable op (mem_sortBy.mp hop)) hread
  · rw [hbindings, loadActiveHookBindings, h.hookBindings, sortBy_hookBindingRows]

lemma Written.identifier_load (h : Written t id specs bindings)
    (hload : loadSnapshotFromConn t id = .ok snapshot) :
    computeSnapshotIdWithHookBindings snapshot.operations snapshot.hookBindings = id := by
  rw [(h.load hload).1, (h.load hload).2, computeSnapshotId_sorted, h.identifier]

def ContentAddressed (t : RegistryTables) : Prop :=
  ∀ header ∈ t.snapshots.rows, header.canonicalDigest = header.snapshotId ∧
    ∃ specs bindings, Written t header.snapshotId specs bindings

lemma ContentAddressed.written (h : ContentAddressed t) (hid : id ∈ t.ids) :
    ∃ specs bindings, Written t id specs bindings := by
  obtain ⟨header, hheader, rfl⟩ := mem_map.mp hid
  exact (h header hheader).2

lemma ContentAddressed.adds (h : ContentAddressed t)
    (hadds : Adds t t' [header] ((sortedByName specs).map (operationRow header.snapshotId)) (bindings.map (HookBindingRow.mk header.snapshotId)))
    (hdigest : header.canonicalDigest = header.snapshotId) (hnames : (operationNames specs).Nodup)
    (hstable : StableSpecs specs)
    (hidentifier : computeSnapshotIdWithHookBindings specs bindings = header.snapshotId) :
    ContentAddressed t' := by
  intro other hother
  rw [hadds.snapshots] at hother
  rcases mem_append.mp hother with hother | hother
  · have hne : header.snapshotId ≠ other.snapshotId := fun heq =>
      hadds.fresh (heq ▸ mem_map.mpr ⟨other, hother, rfl⟩)
    obtain ⟨hdigest, specs', bindings', hwritten⟩ := h other hother
    refine ⟨hdigest, specs', bindings', hwritten.names, hwritten.stable, hwritten.identifier, ?_, ?_⟩
    · rw [hadds.operations, filter_append, hwritten.operations]
      simp [filter_map, operationRow, comp_def, hne]
    · rw [hadds.hookBindings, filter_append, hwritten.hookBindings]
      simp [filter_map, comp_def, hne]
  · obtain rfl := mem_singleton.mp hother
    exact ⟨hdigest, specs, bindings, hnames, hstable, hidentifier, hadds.own_operations,
      hadds.own_hookBindings⟩

lemma ContentAddressed.congr (h : ContentAddressed t) (hsame : SameContent t t') :
    ContentAddressed t' := by
  intro header hheader
  rw [hsame.snapshots] at hheader
  obtain ⟨hdigest, specs, bindings, hwritten⟩ := h header hheader
  refine ⟨hdigest, specs, bindings, hwritten.names, hwritten.stable, hwritten.identifier, ?_, ?_⟩
  · rw [hsame.operations, hwritten.operations]
  · rw [hsame.hookBindings, hwritten.hookBindings]

lemma activateRegistrySnapshotAtomic_sameContent
    {newId decisionId action manifestId operationName : String} {stamp : Stamp}
    (h : activateRegistrySnapshotAtomic newId expected decisionId action manifestId operationName stamp db = .ok db') :
    SameContent db.registry db'.registry := by
  unfold activateRegistrySnapshotAtomic at h
  split at h
  · cases h
  · split at h
    · cases h
    · obtain ⟨registry, hcas, h⟩ := bind_eq_ok.mp h
      obtain ⟨base, -, ⟨⟩⟩ := bind_eq_ok.mp h
      exact setState_sameContent (casState_eq_ok hcas)

lemma activateRegistryTx_eq_ok
    (h : activateRegistryTx newOperations expected now t = .ok (activation, t')) :
    ∃ s t₁ bindings id, t.state = some s ∧ s.activeSnapshotId = expected ∧
      (operationNames newOperations).Nodup ∧
      bindings = inheritedHookBindings (loadActiveHookBindings t expected) ∧
      id = computeSnapshotIdWithHookBindings newOperations bindings ∧
      inOrder (snapshotStatements id newOperations bindings now) t = .ok t₁ ∧
      setState ⟨id, s.version + 1, now⟩ t₁ = .ok t' ∧ activation = ⟨expected, id⟩ := by
  unfold activateRegistryTx at h
  split at h
  · cases h
  · rename_i hnames
    split at h
    · cases h
    · rename_i s hs
      split at h
      · cases h
      · rename_i hactive
        obtain ⟨t₁, hinsert, h⟩ := bind_eq_ok.mp h
        obtain ⟨t₂, hcas, ⟨⟩⟩ := bind_eq_ok.mp h
        rw [not_not] at hactive hnames
        rw [hactive] at hinsert hcas ⊢
        exact ⟨s, t₁, _, _, hs, hactive, hnames, rfl, rfl, hinsert, casState_eq_ok hcas, rfl⟩

/-! ## One call -/

lemma ContentAddressed.statements (h : ContentAddressed t)
    (hnames : (operationNames specs).Nodup) (hstable : StableSpecs specs)
    (hwrite : inOrder (snapshotStatements (computeSnapshotIdWithHookBindings specs bindings) specs bindings now) t = .ok t') :
    ContentAddressed t' :=
  have hadds := snapshotStatements_adds hwrite
  h.adds hadds rfl hnames hstable rfl

lemma ContentAddressed.create (h : ContentAddressed t) (now : Timestamp)
    (hn : n = 0 ∨ snapshotSize specs bindings ≤ n ∧ (operationNames specs).Nodup ∧ StableSpecs specs) :
    ContentAddressed (crashInCreate n specs bindings now t) := by
  dsimp only [crashInCreate]
  split
  · rename_i hnew
    rcases hn with rfl | ⟨hn, hnames, hstable⟩
    · exact h
    · rw [← length_snapshotStatements (computeSnapshotIdWithHookBindings specs bindings) _ _ now] at hn
      obtain ⟨t', ht'⟩ := exists_snapshotStatements now hnew.2 (fun r hr => (h r hr).1) hnames hnew.1
      rw [take_of_length_le hn, autocommit_of_inOrder ht']
      exact h.statements hnames hstable ht'
  · exact h

lemma ContentAddressed.activate (h : ContentAddressed t) (hstable : StableSpecs newOperations)
    (hactivate : activateRegistryTx newOperations expected now t = .ok (activation, t')) :
    ContentAddressed t' := by
  obtain ⟨s, t₁, bindings, id, -, -, hnames, -, rfl, hinsert, hstate, -⟩ :=
    activateRegistryTx_eq_ok hactivate
  exact (h.statements hnames hstable hinsert).congr (setState_sameContent hstate)

def planned (action : HarnessChangeAction) (approved : ApprovedHarnessChange) (store : JournalStore) :
    Option (List OperationSpec × List HookBinding) :=
  match readForChange approved store with
  | .error _ => none
  | .ok (manifest, snapshot) =>
    (action.specs manifest snapshot).map fun specs => (specs, snapshot.hookBindings)

lemma changeHarness_planned {approved : ApprovedHarnessChange}
    {store : JournalStore} (stamp : Stamp) :
    match planned action approved store with
    | none => (changeHarness action approved stamp store).2 = store
    | some (specs, bindings) =>
      SameContent
        (createRegistrySnapshotWithHookBindings specs bindings stamp.createdAt store.db.registry).2
        (changeHarness action approved stamp store).2.db.registry := by
  unfold planned changeHarness
  cases readForChange approved store with
  | error e => rfl
  | ok p =>
    obtain ⟨manifest, snapshot⟩ := p
    dsimp only
    cases action.specs manifest snapshot with
    | none => rfl
    | some specs =>
      dsimp only [Option.map_some]
      rcases createRegistrySnapshotWithHookBindings specs snapshot.hookBindings stamp.createdAt
        store.db.registry with ⟨e | new, t⟩
      · exact ⟨rfl, rfl, rfl⟩
      · dsimp only
        split
        · exact ⟨rfl, rfl, rfl⟩
        · rename_i db hactivate
          exact activateRegistrySnapshotAtomic_sameContent hactivate

lemma readForChange_eq_ok (h : readForChange approved store = .ok (manifest, snapshot)) :
    ∃ id, loadSnapshotFromConn store.db.registry id = .ok snapshot := by
  unfold readForChange at h
  obtain ⟨found, -, h⟩ := bind_eq_ok.mp h
  cases found with
  | none => cases h
  | some m =>
    obtain ⟨current, -, h⟩ := bind_eq_ok.mp h
    split at h
    · cases h
    · obtain ⟨loaded, hloaded, ⟨⟩⟩ := bind_eq_ok.mp h
      exact ⟨current, hloaded⟩

lemma ContentAddressed.planned_names (h : ContentAddressed store.db.registry)
    (hplanned : planned action approved store = some (specs, bindings)) :
    (operationNames specs).Nodup := by
  unfold planned at hplanned
  split at hplanned
  · cases hplanned
  · rename_i manifest snapshot hread
    obtain ⟨id, hload⟩ := readForChange_eq_ok hread
    obtain ⟨old, oldBindings, hwritten⟩ := h.written (loadSnapshotFromConn_eq_ok hload).1
    have hold : (operationNames snapshot.operations).Nodup := by
      rw [(hwritten.load hload).1]
      exact operationNames_sorted_nodup.mpr hwritten.names
    obtain ⟨specs', hspecs, ⟨⟩⟩ := Option.map_eq_some_iff.mp hplanned
    cases action with
    | enable =>
      simp only [HarnessChangeAction.specs] at hspecs
      split at hspecs
      · cases hspecs
      · rename_i habsent
        cases hspecs
        rw [operationNames, map_append, nodup_append]
        refine ⟨hold, nodup_singleton _, ?_⟩
        rintro name hname _ hnew rfl
        obtain ⟨op, hop, rfl⟩ := mem_map.mp hname
        simp only [map_cons, map_nil, mem_singleton] at hnew
        simp only [Registry.RegistrySnapshot.lookup, find?_isSome, not_exists, not_and] at habsent
        exact habsent op hop (decide_eq_true hnew)
    | disable =>
      simp only [HarnessChangeAction.specs] at hspecs
      split at hspecs
      · cases hspecs
      · cases hspecs
        exact hold.sublist (filter_sublist.map _)

/-! ## Every sequence of calls -/

inductive RegistryAct
  | create (specs : List OperationSpec) (bindings : List HookBinding) (now : Timestamp)
  | crashInCreate (statements : Nat) (specs : List OperationSpec) (bindings : List HookBinding)
    (now : Timestamp)
  | activate (newOperations : List OperationSpec) (expected : String) (now : Timestamp)
  | activateSnapshot (newId expected decisionId action manifestId operationName : String)
    (stamp : Stamp)
  | initState (snapshotId : String) (now : Timestamp)
  | change (action : HarnessChangeAction) (approved : ApprovedHarnessChange) (stamp : Stamp)
  | crashInChange (statements : Nat) (action : HarnessChangeAction)
    (approved : ApprovedHarnessChange) (stamp : Stamp)
  | setCurrent (id : Option String)
  /-- Other calls: they write other tables. -/
  | elsewhere (db : Db) (manifests : SqlTable manifestSchema)

/-- The two halves of a change may also be taken apart, with other calls between them. -/
def registryStep (store : JournalStore) : RegistryAct → JournalStore
  | .create specs bindings now =>
    store.withRegistry (createRegistrySnapshotWithHookBindings specs bindings now store.db.registry).2
  | .crashInCreate statements specs bindings now =>
    ⟨(store.withRegistry (crashInCreate statements specs bindings now store.db.registry)).db, none⟩
  | .activate newOperations expected now =>
    match activateRegistryTx newOperations expected now store.db.registry with
    | .error _ => store
    | .ok (_, t) => store.withRegistry t
  | .activateSnapshot newId expected decisionId action manifestId operationName stamp =>
    match activateRegistrySnapshotAtomic newId expected decisionId action manifestId operationName
        stamp store.db with
    | .error _ => store
    | .ok db => ⟨db, some newId⟩
  | .initState snapshotId now =>
    store.withRegistry (commit store.db.registry (initRegistryState snapshotId now store.db.registry))
  | .change action approved stamp => (changeHarness action approved stamp store).2
  | .crashInChange statements action approved stamp =>
    match planned action approved store with
    | none => ⟨store.db, none⟩
    | some (specs, bindings) =>
      ⟨(store.withRegistry
        (crashInCreate statements specs bindings stamp.createdAt store.db.registry)).db, none⟩
  | .setCurrent id => { store with currentSnapshotId := id }
  | .elsewhere db manifests =>
    { store with db := { store.db with toDb := db, manifests } }

/-- No call stops between the statements of a snapshot, the operations it is given have
names of their own, and their parameters keep their value in the store. -/
def careful (store : JournalStore) : RegistryAct → Prop
  | .create specs _ _ => (operationNames specs).Nodup ∧ StableSpecs specs
  | .crashInCreate statements specs bindings _ =>
    statements = 0 ∨ snapshotSize specs bindings ≤ statements ∧ (operationNames specs).Nodup ∧
      StableSpecs specs
  | .activate newOperations _ _ => StableSpecs newOperations
  | .change action approved _ => ∀ p ∈ planned action approved store, StableSpecs p.1
  | .crashInChange statements action approved _ => ∀ p ∈ planned action approved store,
    statements = 0 ∨ snapshotSize p.1 p.2 ≤ statements ∧ StableSpecs p.1
  | .activateSnapshot .. | .initState .. | .setCurrent _ | .elsewhere .. => True

instance (store : JournalStore) : (act : RegistryAct) → Decidable (careful store act)
  | .create specs _ _ =>
    inferInstanceAs (Decidable ((operationNames specs).Nodup ∧ StableSpecs specs))
  | .crashInCreate statements specs bindings _ =>
    inferInstanceAs (Decidable (statements = 0 ∨ snapshotSize specs bindings ≤ statements ∧
      (operationNames specs).Nodup ∧ StableSpecs specs))
  | .activate newOperations _ _ => inferInstanceAs (Decidable (StableSpecs newOperations))
  | .change action approved _ =>
    inferInstanceAs (Decidable (∀ p ∈ planned action approved store, StableSpecs p.1))
  | .crashInChange statements action approved _ =>
    inferInstanceAs (Decidable (∀ p ∈ planned action approved store,
      statements = 0 ∨ snapshotSize p.1 p.2 ≤ statements ∧ StableSpecs p.1))
  | .activateSnapshot .. | .initState .. | .setCurrent _ | .elsewhere .. => isTrue trivial

lemma ContentAddressed.step (h : ContentAddressed store.db.registry) (act : RegistryAct)
    (hcareful : careful store act) : ContentAddressed (registryStep store act).db.registry := by
  cases act with
  | create specs bindings now =>
    have htables := createRegistrySnapshot_tables specs bindings now store.db.registry le_rfl
    show ContentAddressed (createRegistrySnapshotWithHookBindings ..).2
    rw [htables]
    exact h.create now (.inr ⟨le_rfl, hcareful⟩)
  | crashInCreate statements specs bindings now => exact h.create now hcareful
  | activate newOperations expected now =>
    simp only [registryStep]
    split
    · exact h
    · rename_i hactivate
      exact h.activate hcareful hactivate
  | activateSnapshot newId expected decisionId action manifestId operationName stamp =>
    simp only [registryStep]
    split
    · exact h
    · rename_i hactivate
      exact h.congr (activateRegistrySnapshotAtomic_sameContent hactivate)
  | initState snapshotId now =>
    simp only [registryStep, JournalStore.withRegistry, initRegistryState]
    split
    · exact h
    · cases hset : setState ⟨snapshotId, 1, now⟩ store.db.registry with
      | error e => exact h
      | ok t => exact h.congr (setState_sameContent hset)
  | change action approved stamp =>
    have hplanned := @changeHarness_planned _ action approved store stamp
    show ContentAddressed (changeHarness action approved stamp store).2.db.registry
    cases hplan : planned action approved store with
    | none =>
      rw [hplan] at hplanned
      rw [hplanned]
      exact h
    | some p =>
      rw [hplan] at hplanned
      dsimp only at hplanned
      rw [createRegistrySnapshot_tables _ _ _ _ le_rfl] at hplanned
      exact (h.create _ (.inr ⟨le_rfl, h.planned_names hplan, hcareful p hplan⟩)).congr hplanned
  | crashInChange statements action approved stamp =>
    simp only [registryStep]
    split
    · exact h
    · rename_i specs bindings hplan
      refine h.create _ ((hcareful _ hplan).imp_right fun hwhole => ?_)
      exact ⟨hwhole.1, h.planned_names hplan, hwhole.2⟩
  | setCurrent id => exact h
  | elsewhere db manifests => exact h

lemma contentAddressed_empty : ContentAddressed RegistryTables.empty :=
  fun _ h => absurd h not_mem_nil

theorem loaded_snapshot_identifier {store : JournalStore} (hempty : store.db.registry = .empty)
    {acts : List RegistryAct} (hcareful : Along registryStep careful store acts) {id : String}
    {snapshot : RegistrySnapshot}
    (hload : loadSnapshotFromConn (run registryStep store acts).db.registry id = .ok snapshot) :
    computeSnapshotIdWithHookBindings snapshot.operations snapshot.hookBindings = id := by
  have hrun : ContentAddressed (run registryStep store acts).db.registry :=
    hcareful.invariant (I := fun s => ContentAddressed s.db.registry)
      (fun s act hs hact => hs.step act hact) (hempty ▸ contentAddressed_empty)
  obtain ⟨specs, bindings, hwritten⟩ := hrun.written (loadSnapshotFromConn_eq_ok hload).1
  exact hwritten.identifier_load hload

end

/-! ## A stop between two statements, and a run without one -/

def readOp (name : String) : OperationSpec := ⟨name, .readOnly, "", .null, true, .builtin, ""⟩

def freshStore : JournalStore := ⟨{}, none⟩

/-- The process stops after the header: the snapshot loads with nothing in it, and a later
call with the same content would take it as it stands. -/
theorem loaded_snapshot_identifier_cut : letI := samplePlatform
    ∃ snapshot, freshStore.db.registry = .empty ∧
      loadSnapshotFromConn (run registryStep freshStore [.crashInCreate 1 [readOp "a"] [] 0]).db.registry
        "snap_120" = .ok snapshot ∧
      computeSnapshotIdWithHookBindings snapshot.operations snapshot.hookBindings ≠ "snap_120" :=
  ⟨⟨"snap_120", 0, [], []⟩, rfl, by decide +kernel, by decide +kernel⟩

def bootRun : List RegistryAct :=
  [.create [readOp "a"] [] 0, .initState "snap_120" 1, .setCurrent (some "snap_120")]

lemma bootRun_careful : letI := samplePlatform
    Along registryStep careful freshStore bootRun := by decide +kernel

lemma bootRun_load : letI := samplePlatform
    loadSnapshotFromConn (run registryStep freshStore bootRun).db.registry "snap_120" =
      .ok ⟨"snap_120", 0, [readOp "a"], []⟩ := by decide +kernel

theorem loaded_snapshot_identifier_boot : letI := samplePlatform
    loadSnapshotFromConn (run registryStep freshStore bootRun).db.registry "snap_120" =
        .ok ⟨"snap_120", 0, [readOp "a"], []⟩ ∧
      computeSnapshotIdWithHookBindings [readOp "a"] [] = "snap_120" :=
  ⟨bootRun_load, @loaded_snapshot_identifier samplePlatform freshStore rfl bootRun bootRun_careful
    "snap_120" ⟨"snap_120", 0, [readOp "a"], []⟩ bootRun_load⟩

end AgentCore.Journal
