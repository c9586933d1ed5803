import AgentCore.Journal.RegistryOps

/-! Stored harness manifests, and the calls that enable or disable the operation of one. -/

namespace AgentCore.Journal

open Foundation Harness Registry
open Domain hiding OperationSpec RegistrySnapshot

structure ManifestRow where
  (manifestId harnessId artifactDigest protocolVersion endpoint operationName description : String)
  (inputSchemaJson outputSchemaJson : String)
  idempotent : Bool
  createdAt : Timestamp
  canonicalDigest : String

def manifestSchema : Schema ManifestRow where
  uniques := [⟨fun r => some r.manifestId⟩, ⟨fun r => some r.canonicalDigest⟩]

structure RegistryDb extends Db where
  registry : RegistryTables := .empty
  manifests : SqlTable manifestSchema := .empty

section

variable [Platform]

def manifestRow (m : HarnessManifest) (contentDigest : String) : ManifestRow where
  manifestId := m.manifestId
  harnessId := m.harnessId
  artifactDigest := m.artifactDigest
  protocolVersion := m.protocolVersion
  endpoint := m.endpoint
  operationName := m.operationName
  description := m.description
  inputSchemaJson := m.inputSchema.toText
  outputSchemaJson := m.outputSchema.toText
  idempotent := m.idempotent
  createdAt := m.createdAt
  canonicalDigest := contentDigest

def manifestOfRow (r : ManifestRow) (inputSchema outputSchema : Json) : HarnessManifest where
  manifestId := r.manifestId
  harnessId := r.harnessId
  artifactDigest := r.artifactDigest
  protocolVersion := r.protocolVersion
  endpoint := r.endpoint
  operationName := r.operationName
  description := r.description
  inputSchema
  outputSchema
  idempotent := r.idempotent
  createdAt := r.createdAt

def findManifest (manifests : SqlTable manifestSchema) (manifestId : String) : Option ManifestRow :=
  manifests.rows.find? fun r => r.manifestId = manifestId

/-- A stored manifest answers only if its identifier is the digest of what was read. -/
def loadHarnessManifest (db : RegistryDb) (manifestId : String) :
    Except String (Option HarnessManifest) :=
  match findManifest db.manifests manifestId with
  | none => .ok none
  | some r =>
    match fromStr r.inputSchemaJson, fromStr r.outputSchemaJson with
    | none, _ => .error s!"invalid input_schema_json for {r.manifestId}"
    | some _, none => .error s!"invalid output_schema_json for {r.manifestId}"
    | some inputSchema, some outputSchema =>
      let check := manifestOfRow r inputSchema outputSchema
      if r.protocolVersion ≠ HarnessManifest.PROTOCOL_VERSION then
        .error s!"invalid protocol_version for {r.manifestId}: \"{r.protocolVersion}\""
      else if check.manifestId ≠ check.computeManifestId then
        .error s!"manifest {r.manifestId}: stored manifest_id does not match recomputed digest"
      else .ok (some check)

/-! ## Registration in a transaction -/

def insertManifestRowTx (m : HarnessManifest) (contentDigest : String) (stamp : Stamp)
    (db : RegistryDb) : Except String RegistryDb :=
  match db.manifests.insert (manifestRow m contentDigest) with
  | none => .error "UNIQUE constraint failed: harness_manifests.manifest_id"
  | some manifests => do
    let base ← db.toDb.append stamp .harnessManifestRegistered none none (some m.manifestId)
      (.mkObj
        [("manifest_id", .str m.manifestId), ("harness_id", .str m.harnessId),
          ("artifact_digest", .str m.artifactDigest), ("operation_name", .str m.operationName),
          ("protocol_version", .str m.protocolVersion)])
    return { db with toDb := base, manifests }

/-- A row with the identifier must hold the same manifest, instant of creation included. -/
def reuseManifest (m : HarnessManifest) (r : ManifestRow) : Except String Unit :=
  match fromStr r.inputSchemaJson, fromStr r.outputSchemaJson with
  | none, _ => .error s!"corrupt_persisted_input_schema:{m.manifestId}"
  | some _, none => .error s!"corrupt_persisted_output_schema:{m.manifestId}"
  | some inputSchema, some outputSchema =>
    let persisted := manifestOfRow r inputSchema outputSchema
    let recomputed := persisted.computeManifestId
    let digest := m.computeManifestId
    if recomputed ≠ r.canonicalDigest then
      .error (s!"corrupt_persisted_canonical_digest:{m.manifestId}: stored={r.canonicalDigest} " ++
        s!"recomputed={recomputed}")
    else if r.manifestId ≠ recomputed then
      .error (s!"corrupt_persisted_manifest_id:{m.manifestId}: stored={r.manifestId} " ++
        s!"recomputed={recomputed}")
    else if digest ≠ r.canonicalDigest then
      .error s!"manifest_identity_conflict: incoming digest {digest} != stored {r.canonicalDigest}"
    else if m.manifestId ≠ r.manifestId then
      .error s!"manifest_identity_conflict: incoming id {m.manifestId} != stored {r.manifestId}"
    else if persisted ≠ m then
      .error (s!"manifest_identity_conflict: manifest_id {m.manifestId} already registered with " ++
        "different content")
    else .ok ()

def registerHarnessManifestInTx (m : HarnessManifest) (stamp : Stamp) (db : RegistryDb) :
    Except String RegistryDb :=
  match findManifest db.manifests m.manifestId with
  | some r => do
    reuseManifest m r
    return db
  | none => insertManifestRowTx m m.computeManifestId stamp db

lemma registerHarnessManifestInTx_eq_ok (h : registerHarnessManifestInTx m stamp db = .ok db') :
    ∃ journal manifests, db' = { db with journal, manifests } ∧
      (journal = db.journal ∨ ∃ row, row.kind = JournalEventKind.harnessManifestRegistered.storageName ∧
        journal.rows = db.journal.rows ++ [row]) := by
  unfold registerHarnessManifestInTx at h
  split at h
  · obtain ⟨-, -, ⟨⟩⟩ := bind_eq_ok.mp h
    exact ⟨db.journal, db.manifests, rfl, .inl rfl⟩
  · unfold insertManifestRowTx at h
    split at h
    · cases h
    · rename_i manifests _
      obtain ⟨base, happend, h⟩ := bind_eq_ok.mp h
      obtain ⟨journal, rfl, hrows, -⟩ := Db.append_eq_ok happend
      cases h
      exact ⟨journal, manifests, rfl, .inr ⟨_, newRow_kind .., hrows⟩⟩

/-! ## Enabling and disabling -/

structure JournalStore where
  db : RegistryDb
  currentSnapshotId : Option String

def JournalStore.withRegistry (store : JournalStore) (t : RegistryTables) : JournalStore :=
  { store with db := { store.db with registry := t } }

def currentRegistrySnapshotId (store : JournalStore) : Except String String :=
  match store.currentSnapshotId with
  | some id => .ok id
  | none => .error "registry_snapshot_unavailable: no current registry snapshot"

structure HarnessChangeIntent where
  (manifestId expectedSnapshotId : String)

structure ApprovedHarnessChange where
  intent : HarnessChangeIntent
  decisionId : String

structure RegistryActivationResult where
  (previousSnapshotId activeSnapshotId : String)
  changed : Bool

def activateRegistrySnapshotAtomic (newSnapshotId expectedSnapshotId decisionId action manifestId
    operationName : String) (stamp : Stamp) (db : RegistryDb) : Except String RegistryDb :=
  match db.registry.state with
  | none => .error "registry_state not initialized"
  | some s =>
    if s.activeSnapshotId ≠ expectedSnapshotId then
      .error (s!"snapshot_conflict: registry_state has {s.activeSnapshotId}, " ++
        s!"expected {expectedSnapshotId}")
    else do
      let registry ← casState "snapshot_conflict: version CAS failed" s.version
        ⟨newSnapshotId, s.version + 1, stamp.createdAt⟩ db.registry
      let base ← db.toDb.append stamp .registrySnapshotActivated none none (some decisionId)
        (.mkObj
          [("action", .str action), ("manifest_id", .str manifestId),
            ("operation_name", .str operationName),
            ("previous_snapshot_id", .str expectedSnapshotId),
            ("new_snapshot_id", .str newSnapshotId), ("decision_id", .str decisionId)])
      return { db with toDb := base, registry }

inductive HarnessChangeAction
  | enable
  | disable

def HarnessChangeAction.text : HarnessChangeAction → String
  | .enable => "enable"
  | .disable => "disable"

def readForChange (approved : ApprovedHarnessChange) (store : JournalStore) :
    Except String (HarnessManifest × RegistrySnapshot) := do
  match ← loadHarnessManifest store.db approved.intent.manifestId with
  | none => .error s!"manifest not found: {approved.intent.manifestId}"
  | some manifest =>
    let current ← currentRegistrySnapshotId store
    if current ≠ approved.intent.expectedSnapshotId then
      .error (s!"snapshot_conflict: expected {approved.intent.expectedSnapshotId}, " ++
        s!"current {current}")
    else
      let snapshot ← loadSnapshotFromConn store.db.registry current
      return (manifest, snapshot)

def HarnessChangeAction.specs (manifest : HarnessManifest) (snapshot : RegistrySnapshot) :
    HarnessChangeAction → Option (List OperationSpec)
  | .enable =>
    if (snapshot.lookup manifest.operationName).isSome then none
    else some (snapshot.operations ++
      [{ name := manifest.operationName
         risk := (codingOperationRisk manifest.operationName).getD .write
         description := manifest.description
         parameters := manifest.inputSchema
         idempotent := manifest.idempotent
         bindingKind := .external
         bindingKey := manifest.manifestId }])
  | .disable =>
    if (snapshot.lookup manifest.operationName).isNone then none
    else some (snapshot.operations.filter fun op => op.name ≠ manifest.operationName)

def changeHarness (action : HarnessChangeAction) (approved : ApprovedHarnessChange) (stamp : Stamp)
    (store : JournalStore) : Except String RegistryActivationResult × JournalStore :=
  match readForChange approved store with
  | .error e => (.error e, store)
  | .ok (manifest, snapshot) =>
    match action.specs manifest snapshot with
    | none => (.ok ⟨snapshot.snapshotId, snapshot.snapshotId, false⟩, store)
    | some specs =>
      match createRegistrySnapshotWithHookBindings specs snapshot.hookBindings stamp.createdAt
          store.db.registry with
      | (.error e, t) => (.error e, store.withRegistry t)
      | (.ok new, t) =>
        match activateRegistrySnapshotAtomic new.snapshotId approved.intent.expectedSnapshotId
            approved.decisionId action.text approved.intent.manifestId manifest.operationName stamp
            (store.withRegistry t).db with
        | .error e => (.error e, store.withRegistry t)
        | .ok db =>
          (.ok ⟨snapshot.snapshotId, new.snapshotId, true⟩, ⟨db, some new.snapshotId⟩)

def enableHarness : ApprovedHarnessChange → Stamp → JournalStore →
    Except String RegistryActivationResult × JournalStore :=
  changeHarness .enable

def disableHarness : ApprovedHarnessChange → Stamp → JournalStore →
    Except String RegistryActivationResult × JournalStore :=
  changeHarness .disable

/-- First boot: `INSERT OR IGNORE`. -/
def initRegistryState (snapshotId : String) (now : Timestamp) (t : RegistryTables) :
    Except String RegistryTables :=
  if t.state.isSome then .ok t else setState ⟨snapshotId, 1, now⟩ t

end

end AgentCore.Journal
