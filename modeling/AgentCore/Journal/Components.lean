import AgentCore.Domain.Deployment
import AgentCore.Journal.TrustedDecision

/-! The tables of managed components: their immutable snapshots, and the intents and receipts
of deployments and controls. -/

namespace AgentCore.Journal

open Foundation Registry
open Domain hiding OperationSpec RegistrySnapshot

structure ComponentSnapshotRow where
  snapshotId : String
  createdAt : Timestamp

structure ComponentEntryRow where
  snapshotId : String
  component : RegisteredComponent

structure ComponentRegistryState where
  activeSnapshotId : String
  version : Nat
deriving DecidableEq

def componentSnapshotSchema : Schema ComponentSnapshotRow where
  uniques := [⟨fun r => some r.snapshotId⟩]

def componentEntrySchema : Schema ComponentEntryRow where
  uniques := [⟨fun r => some (r.snapshotId, r.component.componentId)⟩]

def componentSnapshotIds (t : SqlTable componentSnapshotSchema) : List String :=
  t.rows.map ComponentSnapshotRow.snapshotId

@[ext] structure ComponentTables where
  snapshots : SqlTable componentSnapshotSchema
  entries : SqlTable componentEntrySchema
  state : Option ComponentRegistryState
  entries_fk : ∀ r ∈ entries.rows, r.snapshotId ∈ componentSnapshotIds snapshots
  state_fk : ∀ s ∈ state, s.activeSnapshotId ∈ componentSnapshotIds snapshots

structure DeploymentIntentRow extends DeploymentIntent where
  componentId : String
deriving DecidableEq

def deploymentIntentSchema : Schema DeploymentIntentRow where
  uniques := [⟨fun r => some r.intentId⟩, ⟨fun r => some r.invocationId⟩, ⟨fun r => some r.decisionId⟩]

def deploymentReceiptSchema : Schema DeploymentReceipt where
  uniques := [⟨fun r => some r.receiptId⟩, ⟨fun r => some r.deploymentId⟩,
    ⟨fun r => some r.invocationId⟩]

inductive ControlStatus
  | pending
  | succeeded
  | failed
deriving DecidableEq

structure ControlIntentRow extends ComponentControlIntent where
  status : ControlStatus
deriving DecidableEq

def controlIntentSchema : Schema ControlIntentRow where
  uniques := [⟨fun r => some r.decisionId⟩]

structure ControlReceiptRow extends ComponentControlReceipt where
  targetSnapshotId : String

def controlReceiptSchema : Schema ControlReceiptRow where
  uniques := [⟨fun r => some r.receiptId⟩, ⟨fun r => some r.decisionId⟩]

structure ComponentDb extends GovernanceDb where
  components : ComponentTables
  deploymentIntents : SqlTable deploymentIntentSchema := .empty
  deploymentReceipts : SqlTable deploymentReceiptSchema := .empty
  controlIntents : SqlTable controlIntentSchema := .empty
  controlReceipts : SqlTable controlReceiptSchema := .empty

/-! ## Snapshots of components -/

namespace ComponentTables

def ids (t : ComponentTables) : List String := componentSnapshotIds t.snapshots

lemma mem_ids_of_insert (h : t.insert row = some t') {id : String} :
    id ∈ componentSnapshotIds t' ↔ id ∈ componentSnapshotIds t ∨ id = row.snapshotId := by
  rw [componentSnapshotIds, SqlTable.insert_eq_some.mp h, List.map_append, List.mem_append]
  simp [componentSnapshotIds]

def insertSnapshot (header : ComponentSnapshotRow) (components : List RegisteredComponent)
    (t : ComponentTables) : Except String ComponentTables :=
  match hs : t.snapshots.insert header with
  | none => .error "UNIQUE constraint failed: component_registry_snapshots.snapshot_id"
  | some snapshots =>
    match he : t.entries.insertAll (components.map (ComponentEntryRow.mk header.snapshotId)) with
    | none => .error ("UNIQUE constraint failed: component_registry_entries.snapshot_id, " ++
        "component_registry_entries.component_id")
    | some entries =>
      .ok
        { snapshots
          entries
          state := t.state
          entries_fk := by
            intro r hr
            rw [SqlTable.insertAll_eq_some.mp he] at hr
            rcases List.mem_append.mp hr with hr | hr
            · exact (mem_ids_of_insert hs).mpr (.inl (t.entries_fk r hr))
            · obtain ⟨c, -, rfl⟩ := List.mem_map.mp hr
              exact (mem_ids_of_insert hs).mpr (.inr rfl)
          state_fk := fun s h => (mem_ids_of_insert hs).mpr (.inl (t.state_fk s h)) }

def setState (s : ComponentRegistryState) (t : ComponentTables) : Except String ComponentTables :=
  if hfk : s.activeSnapshotId ∈ componentSnapshotIds t.snapshots then
    .ok { t with state := some s, state_fk := fun _ hs => Option.some.inj hs ▸ hfk }
  else .error "FOREIGN KEY constraint failed"

variable [Platform]

def entriesOf (t : ComponentTables) (snapshotId : String) : List RegisteredComponent :=
  sortBy RegisteredComponent.componentId
    ((t.entries.rows.filter fun r => r.snapshotId = snapshotId).map ComponentEntryRow.component)

def loadSnapshot (t : ComponentTables) (snapshotId : String) :
    Except String ComponentRegistrySnapshot :=
  match t.snapshots.rows.find? fun r => r.snapshotId = snapshotId with
  | none => .error "COMPONENT_SNAPSHOT_NOT_FOUND"
  | some header => do
    let components := t.entriesOf snapshotId
    require (computeComponentSnapshotId components = snapshotId) "COMPONENT_SNAPSHOT_DIGEST_MISMATCH"
    return ⟨snapshotId, header.createdAt, components⟩

def persistSnapshot (components : List RegisteredComponent) (now : Timestamp) (t : ComponentTables) :
    Except String (String × ComponentTables) := do
  let snapshotId := computeComponentSnapshotId components
  if snapshotId ∈ t.ids then
    let _ ← t.loadSnapshot snapshotId
    return (snapshotId, t)
  else
    let t ← t.insertSnapshot ⟨snapshotId, now⟩ (sortBy RegisteredComponent.componentId components)
    return (snapshotId, t)

def active (t : ComponentTables) :
    Except String (ComponentRegistryState × ComponentRegistrySnapshot) :=
  match t.state with
  | none => .error "Query returned no rows"
  | some s => do
    let snapshot ← t.loadSnapshot s.activeSnapshotId
    return (s, snapshot)

def initializeComponentRegistry (now : Timestamp) (t : ComponentTables) :
    Except String (String × ComponentTables) :=
  match t.state with
  | some s => do
    let _ ← t.loadSnapshot s.activeSnapshotId
    return (s.activeSnapshotId, t)
  | none => do
    let (snapshotId, t) ← t.persistSnapshot [] now
    let t ← t.setState ⟨snapshotId, 1⟩
    return (snapshotId, t)

end ComponentTables

/-! ## Effects in flight -/

namespace ComponentDb

def hasReceipt (db : ComponentDb) (row : DeploymentIntentRow) : Bool :=
  db.deploymentReceipts.rows.any fun r =>
    r.proposalId = row.proposalId && r.componentId = row.componentId

def approvalPending (db : ComponentDb) (proposalId : String) : Bool :=
  db.approvals.rows.any fun a => a.proposalId = proposalId && a.status = .pending

def pendingControls (db : ComponentDb) (componentId : String) : Nat :=
  db.controlIntents.count fun r => r.componentId = componentId && r.status = .pending

def findIntent (db : ComponentDb) (intentId : String) : Option DeploymentIntentRow :=
  db.deploymentIntents.rows.find? fun r => r.intentId = intentId

def findControl (db : ComponentDb) (decisionId : String) : Option ControlIntentRow :=
  db.controlIntents.rows.find? fun r => r.decisionId = decisionId

end ComponentDb

end AgentCore.Journal
