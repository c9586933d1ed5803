import AgentCore.Foundation.Schema
import AgentCore.Harness.Manifest
import AgentCore.Journal.Db

/-! The tables of the registry and the store calls on them. A snapshot is written by one
statement for its header and one for each of its operations and hook bindings. -/

namespace AgentCore.Journal

open Foundation Harness Registry List SqlTable
open Domain hiding OperationSpec RegistrySnapshot

variable {id : String}

structure SnapshotRow where
  snapshotId : String
  createdAt : Timestamp
  operationCount : Nat
  canonicalDigest : String

variable {row : SnapshotRow}

structure OperationRow where
  (snapshotId operationName : String)
  risk : Risk
  (description parametersJson : String)
  idempotent : Bool
  bindingKind : BindingKind
  bindingKey : String

structure HookBindingRow where
  snapshotId : String
  binding : HookBinding

structure RegistryState where
  activeSnapshotId : String
  version : Nat
  updatedAt : Timestamp
deriving DecidableEq

def snapshotSchema : Schema SnapshotRow where
  uniques := [⟨fun r => some r.snapshotId⟩, ⟨fun r => some r.canonicalDigest⟩]

def operationSchema : Schema OperationRow where
  uniques := [⟨fun r => some (r.snapshotId, r.operationName)⟩]

def hookBindingSchema : Schema HookBindingRow where
  uniques := [⟨fun r => some (r.snapshotId, r.binding.contract)⟩]

def snapshotIds (t : SqlTable snapshotSchema) : List String := t.rows.map SnapshotRow.snapshotId

@[ext] structure RegistryTables where
  snapshots : SqlTable snapshotSchema
  operations : SqlTable operationSchema
  hookBindings : SqlTable hookBindingSchema
  state : Option RegistryState
  operations_fk : ∀ r ∈ operations.rows, r.snapshotId ∈ snapshotIds snapshots
  hookBindings_fk : ∀ r ∈ hookBindings.rows, r.snapshotId ∈ snapshotIds snapshots
  state_fk : ∀ s ∈ state, s.activeSnapshotId ∈ snapshotIds snapshots

namespace RegistryTables

def empty : RegistryTables where
  snapshots := .empty
  operations := .empty
  hookBindings := .empty
  state := none
  operations_fk := fun _ h => absurd h not_mem_nil
  hookBindings_fk := fun _ h => absurd h not_mem_nil
  state_fk := nofun

def ids (t : RegistryTables) : List String := snapshotIds t.snapshots

end RegistryTables

/-! ## Single statements -/

variable {t t' : RegistryTables}

lemma mem_snapshotIds_insert {t t' : SqlTable snapshotSchema} (h : t.insert row = some t')
    (hid : id ∈ snapshotIds t) : id ∈ snapshotIds t' := by
  rw [snapshotIds, insert_eq_some.mp h, map_append]
  exact mem_append_left _ hid

def insertSnapshot (row : SnapshotRow) (t : RegistryTables) : Except String RegistryTables :=
  match h : t.snapshots.insert row with
  | none => .error "UNIQUE constraint failed: registry_snapshots.snapshot_id"
  | some snapshots =>
    .ok
      { t with
        snapshots
        operations_fk := fun r hr => mem_snapshotIds_insert h (t.operations_fk r hr)
        hookBindings_fk := fun r hr => mem_snapshotIds_insert h (t.hookBindings_fk r hr)
        state_fk := fun s hs => mem_snapshotIds_insert h (t.state_fk s hs) }

def insertOperation (row : OperationRow) (t : RegistryTables) : Except String RegistryTables :=
  if hfk : row.snapshotId ∈ snapshotIds t.snapshots then
    match h : t.operations.insert row with
    | none => .error ("UNIQUE constraint failed: registry_snapshot_operations.snapshot_id, " ++
        "registry_snapshot_operations.operation_name")
    | some operations =>
      .ok
        { t with
          operations
          operations_fk := forall_mem_insert h t.operations_fk hfk }
  else .error "FOREIGN KEY constraint failed"

def insertHookBinding (row : HookBindingRow) (t : RegistryTables) : Except String RegistryTables :=
  if hfk : row.snapshotId ∈ snapshotIds t.snapshots then
    match h : t.hookBindings.insert row with
    | none => .error ("UNIQUE constraint failed: registry_snapshot_hook_bindings.snapshot_id, " ++
        "registry_snapshot_hook_bindings.contract")
    | some hookBindings =>
      .ok
        { t with
          hookBindings
          hookBindings_fk := forall_mem_insert h t.hookBindings_fk hfk }
  else .error "FOREIGN KEY constraint failed"

def setState (s : RegistryState) (t : RegistryTables) : Except String RegistryTables :=
  if hfk : s.activeSnapshotId ∈ snapshotIds t.snapshots then
    .ok { t with state := some s, state_fk := fun _ hs => Option.some.inj hs ▸ hfk }
  else .error "FOREIGN KEY constraint failed"

structure Adds (t t' : RegistryTables) (headers : List SnapshotRow) (operations : List OperationRow)
    (hookBindings : List HookBindingRow) : Prop where
  snapshots : t'.snapshots.rows = t.snapshots.rows ++ headers
  operations : t'.operations.rows = t.operations.rows ++ operations
  hookBindings : t'.hookBindings.rows = t.hookBindings.rows ++ hookBindings
  state : t'.state = t.state

namespace Adds

variable {hs : List SnapshotRow} {os : List OperationRow} {bs : List HookBindingRow}

lemma refl (t : RegistryTables) : Adds t t [] [] [] where
  snapshots := (append_nil _).symm
  operations := (append_nil _).symm
  hookBindings := (append_nil _).symm
  state := rfl

lemma trans (h : Adds t t' hs os bs) (h' : Adds t' t'' hs' os' bs') :
    Adds t t'' (hs ++ hs') (os ++ os') (bs ++ bs') where
  snapshots := by rw [h'.snapshots, h.snapshots, append_assoc]
  operations := by rw [h'.operations, h.operations, append_assoc]
  hookBindings := by rw [h'.hookBindings, h.hookBindings, append_assoc]
  state := h'.state.trans h.state

lemma ids (h : Adds t t' hs os bs) : t'.ids = t.ids ++ hs.map SnapshotRow.snapshotId := by
  rw [RegistryTables.ids, snapshotIds, h.snapshots, map_append]
  rfl

lemma mem_ids (h : Adds t t' hs os bs) (hid : id ∈ t.ids) : id ∈ t'.ids := by
  rw [h.ids]
  exact mem_append_left _ hid

end Adds

lemma insertSnapshot_eq_ok : insertSnapshot row t = .ok t' ↔ Adds t t' [row] [] [] := by
  unfold insertSnapshot
  split
  · rename_i hnone
    refine ⟨nofun, fun h => absurd (insert_eq_some.mpr h.snapshots) ?_⟩
    rw [hnone]
    nofun
  · rename_i snapshots hsome
    have hrows := insert_eq_some.mp hsome
    constructor
    · rintro ⟨⟩
      exact ⟨hrows, (append_nil _).symm, (append_nil _).symm, rfl⟩
    · intro h
      refine congrArg Except.ok (RegistryTables.ext ?_ ?_ ?_ h.state.symm)
      · exact ext (hrows.trans h.snapshots.symm)
      · exact ext (h.operations.trans (append_nil _)).symm
      · exact ext (h.hookBindings.trans (append_nil _)).symm

lemma insertOperation_eq_ok {row : OperationRow} :
    insertOperation row t = .ok t' ↔ row.snapshotId ∈ t.ids ∧ Adds t t' [] [row] [] := by
  unfold insertOperation
  split
  · rename_i hfk
    split
    · rename_i hnone
      refine ⟨nofun, fun h => absurd (insert_eq_some.mpr h.2.operations) ?_⟩
      rw [hnone]
      nofun
    · rename_i operations hsome
      have hrows := insert_eq_some.mp hsome
      constructor
      · rintro ⟨⟩
        exact ⟨hfk, (append_nil _).symm, hrows, (append_nil _).symm, rfl⟩
      · rintro ⟨-, h⟩
        refine congrArg Except.ok (RegistryTables.ext ?_ ?_ ?_ h.state.symm)
        · exact ext (h.snapshots.trans (append_nil _)).symm
        · exact ext (hrows.trans h.operations.symm)
        · exact ext (h.hookBindings.trans (append_nil _)).symm
  · rename_i hfk
    exact ⟨nofun, fun h => absurd h.1 hfk⟩

lemma insertHookBinding_eq_ok {row : HookBindingRow} :
    insertHookBinding row t = .ok t' ↔ row.snapshotId ∈ t.ids ∧ Adds t t' [] [] [row] := by
  unfold insertHookBinding
  split
  · rename_i hfk
    split
    · rename_i hnone
      refine ⟨nofun, fun h => absurd (insert_eq_some.mpr h.2.hookBindings) ?_⟩
      rw [hnone]
      nofun
    · rename_i hookBindings hsome
      have hrows := insert_eq_some.mp hsome
      constructor
      · rintro ⟨⟩
        exact ⟨hfk, (append_nil _).symm, (append_nil _).symm, hrows, rfl⟩
      · rintro ⟨-, h⟩
        refine congrArg Except.ok (RegistryTables.ext ?_ ?_ ?_ h.state.symm)
        · exact ext (h.snapshots.trans (append_nil _)).symm
        · exact ext (h.operations.trans (append_nil _)).symm
        · exact ext (hrows.trans h.hookBindings.symm)
  · rename_i hfk
    exact ⟨nofun, fun h => absurd h.1 hfk⟩

lemma insertSnapshot_of_keeps (h : snapshotSchema.Keeps (t.snapshots.rows ++ [row])) :
    ∃ t', insertSnapshot row t = .ok t' := by
  obtain ⟨snapshots, hinsert⟩ := insert_of_keeps h
  unfold insertSnapshot
  split
  · simp_all
  · exact ⟨_, rfl⟩

lemma insertOperation_of_keeps {row : OperationRow} (hfk : row.snapshotId ∈ t.ids)
    (h : operationSchema.Keeps (t.operations.rows ++ [row])) :
    ∃ t', insertOperation row t = .ok t' := by
  obtain ⟨operations, hinsert⟩ := insert_of_keeps h
  unfold insertOperation
  split
  · split
    · simp_all
    · exact ⟨_, rfl⟩
  · rename_i hnone
    exact absurd hfk hnone

lemma insertHookBinding_of_keeps {row : HookBindingRow} (hfk : row.snapshotId ∈ t.ids)
    (h : hookBindingSchema.Keeps (t.hookBindings.rows ++ [row])) :
    ∃ t', insertHookBinding row t = .ok t' := by
  obtain ⟨hookBindings, hinsert⟩ := insert_of_keeps h
  unfold insertHookBinding
  split
  · split
    · simp_all
    · exact ⟨_, rfl⟩
  · rename_i hnone
    exact absurd hfk hnone

lemma setState_eq_ok :
    setState s t = .ok t' ↔ s.activeSnapshotId ∈ t.ids ∧ t'.snapshots = t.snapshots ∧
      t'.operations = t.operations ∧ t'.hookBindings = t.hookBindings ∧ t'.state = some s := by
  unfold setState
  split
  · rename_i hfk
    constructor
    · rintro ⟨⟩
      exact ⟨hfk, rfl, rfl, rfl, rfl⟩
    · rintro ⟨-, hs, ho, hb, hstate⟩
      exact congrArg Except.ok (RegistryTables.ext hs.symm ho.symm hb.symm hstate.symm)
  · rename_i hfk
    exact ⟨nofun, fun h => absurd h.1 hfk⟩

/-! ## Reading a snapshot -/

section

variable [Platform]

def operationRow (snapshotId : String) (op : OperationSpec) : OperationRow where
  snapshotId
  operationName := op.name
  risk := op.risk
  description := op.description
  parametersJson := op.parameters.toText
  idempotent := op.idempotent
  bindingKind := op.bindingKind
  bindingKey := op.bindingKey

def readOperation (r : OperationRow) : Except String OperationSpec :=
  match fromStr r.parametersJson with
  | none => .error "invalid parameters_json"
  | some parameters =>
    .ok ⟨r.operationName, r.risk, r.description, parameters, r.idempotent, r.bindingKind, r.bindingKey⟩

def operationRows (t : RegistryTables) (snapshotId : String) : List OperationRow :=
  sortBy OperationRow.operationName (t.operations.rows.filter fun r => r.snapshotId = snapshotId)

def loadActiveHookBindings (t : RegistryTables) (snapshotId : String) : List HookBinding :=
  (sortBy (fun r : HookBindingRow => r.binding.contract)
    (t.hookBindings.rows.filter fun r => r.snapshotId = snapshotId)).map HookBindingRow.binding

def loadSnapshotFromConn (t : RegistryTables) (snapshotId : String) : Except String RegistrySnapshot :=
  match t.snapshots.rows.find? fun r => r.snapshotId = snapshotId with
  | none => .error "Query returned no rows"
  | some header => do
    let operations ← (operationRows t snapshotId).mapM readOperation
    return ⟨snapshotId, header.createdAt, operations, loadActiveHookBindings t snapshotId⟩

lemma loadSnapshotFromConn_eq_ok (h : loadSnapshotFromConn t id = .ok snapshot) :
    id ∈ t.ids ∧ (operationRows t id).mapM readOperation = .ok snapshot.operations ∧
      snapshot.hookBindings = loadActiveHookBindings t id ∧ snapshot.snapshotId = id := by
  unfold loadSnapshotFromConn at h
  split at h
  · cases h
  · rename_i header hfind
    obtain ⟨operations, hoperations, ⟨⟩⟩ := bind_eq_ok.mp h
    have hid : header.snapshotId = id := by simpa using find?_some hfind
    exact ⟨mem_map.mpr ⟨header, mem_of_find?_eq_some hfind, hid⟩, hoperations, rfl, rfl⟩

/-! ## Writing a snapshot -/

def snapshotStatements (snapshotId : String) (specs : List OperationSpec)
    (bindings : List HookBinding) (now : Timestamp) :
    List (RegistryTables → Except String RegistryTables) :=
  insertSnapshot ⟨snapshotId, now, specs.length, snapshotId⟩ ::
    ((sortedByName specs).map (fun op => insertOperation (operationRow snapshotId op)) ++
      bindings.map fun b => insertHookBinding ⟨snapshotId, b⟩)

/-- The statements are not in a transaction. -/
def createRegistrySnapshotWithHookBindings (specs : List OperationSpec) (bindings : List HookBinding)
    (now : Timestamp) (t : RegistryTables) : Except String RegistrySnapshot × RegistryTables :=
  if (hookContracts bindings).Nodup then
    let snapshotId := computeSnapshotIdWithHookBindings specs bindings
    if snapshotId ∈ t.ids then (loadSnapshotFromConn t snapshotId, t)
    else match autocommit (snapshotStatements snapshotId specs bindings now) t with
      | (.ok (), t') => (.ok ⟨snapshotId, now, sortedByName specs, bindings⟩, t')
      | (.error e, t') => (.error e, t')
  else (.error "registry_duplicate_hook_contract", t)

def crashInCreate (statements : Nat) (specs : List OperationSpec) (bindings : List HookBinding)
    (now : Timestamp) (t : RegistryTables) : RegistryTables :=
  let snapshotId := computeSnapshotIdWithHookBindings specs bindings
  if (hookContracts bindings).Nodup ∧ snapshotId ∉ t.ids then
    (autocommit ((snapshotStatements snapshotId specs bindings now).take statements) t).2
  else t

def snapshotSize (specs : List OperationSpec) (bindings : List HookBinding) : Nat :=
  1 + specs.length + bindings.length

omit [Platform] in
lemma length_snapshotStatements (id : String) (specs : List OperationSpec)
    (bindings : List HookBinding) (now : Timestamp) :
    (snapshotStatements id specs bindings now).length = snapshotSize specs bindings := by
  simp only [snapshotStatements, snapshotSize, sortedByName, length_cons, length_append,
    length_map, length_sortBy]
  omega

lemma createRegistrySnapshot_tables (specs : List OperationSpec) (bindings : List HookBinding)
    (now : Timestamp) (t : RegistryTables) (hn : snapshotSize specs bindings ≤ n) :
    (createRegistrySnapshotWithHookBindings specs bindings now t).2 =
      crashInCreate n specs bindings now t := by
  rw [← length_snapshotStatements (computeSnapshotIdWithHookBindings specs bindings) _ _ now] at hn
  unfold createRegistrySnapshotWithHookBindings crashInCreate
  by_cases hnodup : (hookContracts bindings).Nodup
  · by_cases hid : computeSnapshotIdWithHookBindings specs bindings ∈ t.ids
    · simp [hnodup, hid]
    · simp only [hnodup, hid, if_true, if_false, not_false_iff, and_self, take_of_length_le hn]
      split <;> simp_all
  · simp [hnodup]

structure RegistryActivation where
  (previousSnapshotId newSnapshotId : String)

def casState (conflict : String) (version : Nat) (s : RegistryState) (t : RegistryTables) :
    Except String RegistryTables :=
  if t.state.map RegistryState.version = some version then setState s t else .error conflict

def activateRegistryTx (newOperations : List OperationSpec) (expectedSnapshotId : String)
    (now : Timestamp) (t : RegistryTables) : Except String (RegistryActivation × RegistryTables) :=
  if ¬ (operationNames newOperations).Nodup then .error "registry_duplicate_operation"
  else match t.state with
    | none => .error "registry_state_not_found"
    | some s =>
      if s.activeSnapshotId ≠ expectedSnapshotId then
        .error s!"stale_expected_snapshot: has {s.activeSnapshotId} expected {expectedSnapshotId}"
      else do
        let bindings := inheritedHookBindings (loadActiveHookBindings t s.activeSnapshotId)
        let snapshotId := computeSnapshotIdWithHookBindings newOperations bindings
        let t ← inOrder (snapshotStatements snapshotId newOperations bindings now) t
        let t ← casState "registry_activation_conflict" s.version ⟨snapshotId, s.version + 1, now⟩ t
        return (⟨s.activeSnapshotId, snapshotId⟩, t)

end

end AgentCore.Journal
