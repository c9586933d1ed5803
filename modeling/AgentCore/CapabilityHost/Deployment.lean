import AgentCore.Domain.Digest
import AgentCore.Foundation.JsonSchema
import AgentCore.Foundation.Run
import AgentCore.Foundation.Trim

/-! The one deployment of the capability host, written under a lock and never written again. What
the manifest, the artifact and the probe say of a request comes from outside, and the file is read
back as the record that was written. The temporary of `persist` is read by no other call, so the
file changes at its rename; a power loss may undo that until the directory is synced. -/

namespace AgentCore.CapabilityHost

open Foundation Domain List

structure DeployRequest where
  (protocolVersion proposalId decisionId manifestDigest artifactDigest : String)
  targetRegistrySnapshotId : String

structure DeploymentRecord where
  (deploymentId proposalId decisionId manifestDigest manifestId artifactDigest : String)
  (operationName targetRegistrySnapshotId probeExecutionId : String)
deriving DecidableEq

structure HarnessRequest where
  operationName : String
  arguments : Json
  (manifestId artifactDigest registrySnapshotId : String)

inductive DeployError
  | invalid (code : String)
  | notDeployed
  | bindingMismatch
  | conflict
  | probeFailed
  | state

def OPERATION : String := "external.calculator"

def validateIdentity (request : DeployRequest) : Except DeployError Unit :=
  if request.protocolVersion ≠ "capability-deploy-v1" then
    .error (.invalid "unsupported_deploy_protocol")
  else if [request.proposalId, request.decisionId, request.targetRegistrySnapshotId].any fun value =>
      value.isEmpty || decide (256 < value.utf8ByteSize) || value.toList.any isWhitespace then
    .error (.invalid "invalid_deployment_identity")
  else if (Sha256Digest.parse request.manifestDigest).isOk = false then
    .error (.invalid "manifest_digest_invalid")
  else if (Sha256Digest.parse request.artifactDigest).isOk = false then
    .error (.invalid "artifact_digest_invalid")
  else .ok ()

def validateCalculatorArguments (arguments : Json) : Except DeployError Unit :=
  match arguments with
  | .obj fields =>
    if fields.length = 3 ∧
        ((fields.lookup "operation").bind Json.asStr).any
          (["add", "subtract", "multiply", "divide"].contains ·) ∧
        ((fields.lookup "a").bind Json.asNumber).isSome ∧
        ((fields.lookup "b").bind Json.asNumber).isSome then .ok ()
    else .error (.invalid "invalid_calculator_arguments")
  | _ => .error (.invalid "invalid_calculator_arguments")

def matchesRequest (record : DeploymentRecord) (request : DeployRequest) : Bool :=
  decide (record.proposalId = request.proposalId ∧ record.decisionId = request.decisionId ∧
    record.manifestDigest = request.manifestDigest ∧
    record.artifactDigest = request.artifactDigest ∧
    record.targetRegistrySnapshotId = request.targetRegistrySnapshotId)

section Host

variable [Platform]

def executionId (deploymentId invocationId : String) (arguments : Json) : String :=
  "che_" ++ Platform.sha256Hex (Json.mkObj [("deployment_id", .str deploymentId),
    ("invocation_id", .str invocationId), ("arguments", arguments)]).toText

def expectedProbe (deploymentId : String) : String :=
  executionId deploymentId "capability-host-deploy-probe"
    (.mkObj [("operation", .str "multiply"), ("a", .num (.int 6)), ("b", .num (.int 7))])

def deploymentIdFromRecord (record : DeploymentRecord) : String :=
  "chd_" ++ Platform.sha256Hex (Json.mkObj [("proposal_id", .str record.proposalId),
    ("decision_id", .str record.decisionId), ("manifest_digest", .str record.manifestDigest),
    ("manifest_id", .str record.manifestId), ("artifact_digest", .str record.artifactDigest),
    ("operation_name", .str record.operationName),
    ("target_registry_snapshot_id", .str record.targetRegistrySnapshotId)]).toText

def newRecord (request : DeployRequest) (manifestId : String) : DeploymentRecord :=
  let fields : DeploymentRecord := ⟨"", request.proposalId, request.decisionId,
    request.manifestDigest, manifestId, request.artifactDigest, OPERATION,
    request.targetRegistrySnapshotId, ""⟩
  { fields with
    deploymentId := deploymentIdFromRecord fields
    probeExecutionId := expectedProbe (deploymentIdFromRecord fields) }

def load (file : Option DeploymentRecord) : Except DeployError (Option DeploymentRecord) :=
  match file with
  | none => .ok none
  | some record =>
    if record.deploymentId ≠ deploymentIdFromRecord record ∨
        record.probeExecutionId ≠ expectedProbe record.deploymentId ∨
        record.operationName ≠ OPERATION then .error .state
    else .ok (some record)

def authorizeExecution (file : Option DeploymentRecord) (request : HarnessRequest) :
    Except DeployError DeploymentRecord := do
  validateCalculatorArguments request.arguments
  match ← load file with
  | none => throw .notDeployed
  | some record =>
    if request.operationName ≠ record.operationName ∨ request.manifestId ≠ record.manifestId ∨
        request.artifactDigest ≠ record.artifactDigest ∨
        request.registrySnapshotId ≠ record.targetRegistrySnapshotId then throw .bindingMismatch
    else return record

/-- `prepare` under the lock up to `persist`: a record found is replayed, else `checked` is the
manifest's id if all checks pass. -/
def lookUp (file : Option DeploymentRecord) (request : DeployRequest)
    (checked : Except DeployError String) : Except DeployError (DeploymentRecord × Bool) := do
  match ← load file with
  | some existing =>
    if matchesRequest existing request then return (existing, true) else throw .conflict
  | none => return (newRecord request (← checked), false)

/-! ## Calls -/

inductive Stage
  | rename
  | syncDir

inductive Fact
  /-- An answer of `prepare`, `true` for one that is replayed; a body may be malformed. -/
  | answered (body : Option DeployRequest) (answer : Except DeployError (DeploymentRecord × Bool))
  | admitted (request : HarnessRequest) (record : DeploymentRecord)

structure HostState where
  file : Option DeploymentRecord := none
  synced : Bool := true
  /-- The call that holds the lock, in `persist`. -/
  owner : Option (DeployRequest × DeploymentRecord × Stage) := none
  facts : List Fact := []

inductive HostEvent
  | prepare (body : Option DeployRequest) (checked : Except DeployError String)
  /-- The next operation of the owner, which may fail. -/
  | proceed (succeeds : Bool)
  /-- The owner's process ends. -/
  | leave
  | powerLoss (undoes : Bool)
  | execute (request : HarnessRequest)

namespace HostState

def answer (s : HostState) (body : Option DeployRequest)
    (answer : Except DeployError (DeploymentRecord × Bool)) : HostState :=
  { s with facts := s.facts ++ [.answered body answer] }

def prepare (s : HostState) (body : Option DeployRequest) (checked : Except DeployError String) :
    HostState :=
  match body with
  | none => s.answer none (.error (.invalid "malformed_deploy_request"))
  | some request =>
    match validateIdentity request with
    | .error e => s.answer body (.error e)
    | .ok () =>
      if s.owner.isSome then s
      else match lookUp s.file request checked with
        | .ok (record, false) => { s with owner := some (request, record, .rename) }
        | found => s.answer body found

def proceed (s : HostState) (succeeds : Bool) : HostState :=
  match s.owner, succeeds with
  | none, _ => s
  | some (request, _), false => { s with owner := none }.answer (some request) (.error .state)
  | some (request, record, .rename), true =>
    { s with file := some record, synced := false, owner := some (request, record, .syncDir) }
  | some (request, record, .syncDir), true =>
    { s with synced := true, owner := none }.answer (some request) (.ok (record, false))

def step (s : HostState) : HostEvent → HostState
  | .prepare body checked => s.prepare body checked
  | .proceed succeeds => s.proceed succeeds
  | .leave => { s with owner := none }
  | .powerLoss undoes =>
    { s with file := if undoes && !s.synced then none else s.file, synced := true, owner := none }
  | .execute request =>
    match authorizeExecution s.file request with
    | .ok record => { s with facts := s.facts ++ [.admitted request record] }
    | .error _ => s

end HostState

/-! ## What the record binds -/

/-- What a call comes to once the record is there. A prepare for the deployment of the record is
replayed and any other one refused, and an execution is admitted only as the record has it. -/
def response (r : DeploymentRecord) : HostEvent → List Fact
  | .prepare none _ => [.answered none (.error (.invalid "malformed_deploy_request"))]
  | .prepare (some request) _ =>
    match validateIdentity request with
    | .error e => [.answered request (.error e)]
    | .ok () =>
      if r.proposalId = request.proposalId ∧ r.decisionId = request.decisionId ∧
          r.manifestDigest = request.manifestDigest ∧ r.artifactDigest = request.artifactDigest ∧
          r.targetRegistrySnapshotId = request.targetRegistrySnapshotId then
        [.answered request (.ok (r, true))]
      else [.answered request (.error .conflict)]
  | .execute request =>
    if (validateCalculatorArguments request.arguments).isOk ∧
        request.operationName = r.operationName ∧ request.manifestId = r.manifestId ∧
        request.artifactDigest = r.artifactDigest ∧
        request.registrySnapshotId = r.targetRegistrySnapshotId then [.admitted request r]
    else []
  | _ => []

variable {s : HostState} {r : DeploymentRecord}

lemma load_newRecord (request : DeployRequest) (manifestId : String) :
    load (some (newRecord request manifestId)) = .ok (some (newRecord request manifestId)) := by
  simp [load, newRecord, deploymentIdFromRecord]

lemma lookUp_none (h : lookUp none request checked = .ok (r, replayed)) :
    load (some r) = .ok (some r) := by
  cases checked with
  | error e => cases h
  | ok manifestId =>
    cases h
    exact load_newRecord request manifestId

lemma lookUp_some (hr : load (some r) = .ok (some r)) (request : DeployRequest)
    (checked : Except DeployError String) : lookUp (some r) request checked =
      if matchesRequest r request then .ok (r, true) else .error .conflict := by
  rw [lookUp, hr]
  rfl

/-- What holds between any two operations: the file loads, and the owner renames where there is
none. -/
structure Sound (s : HostState) : Prop where
  loads : ∀ r, s.file = some r → load (some r) = .ok (some r)
  owner : ∀ request r, s.owner = some (request, r, .rename) →
    s.file = none ∧ load (some r) = .ok (some r)

lemma Sound.prepare (h : Sound s) (body : Option DeployRequest)
    (checked : Except DeployError String) : Sound (s.prepare body checked) := by
  unfold HostState.prepare
  split
  · exact ⟨h.loads, h.owner⟩
  · next request =>
    split
    · exact ⟨h.loads, h.owner⟩
    · split
      · exact h
      · split
        · next record hfound =>
          refine ⟨h.loads, fun request' r heq => ?_⟩
          cases heq
          cases hfile : s.file with
          | none => exact ⟨rfl, lookUp_none (hfile ▸ hfound)⟩
          | some existing =>
            rw [hfile, lookUp_some (h.loads existing hfile)] at hfound
            split at hfound <;> cases hfound
        · exact ⟨h.loads, h.owner⟩

lemma Sound.step (h : Sound s) (a : HostEvent) : Sound (s.step a) := by
  cases a with
  | prepare body checked => exact h.prepare body checked
  | proceed succeeds =>
    simp only [HostState.step, HostState.proceed]
    split
    · exact h
    · exact ⟨h.loads, nofun⟩
    · next request record howner =>
      exact ⟨fun r hr => Option.some.inj hr ▸ (h.owner _ _ howner).2, nofun⟩
    · exact ⟨h.loads, nofun⟩
  | leave => exact ⟨h.loads, nofun⟩
  | powerLoss undoes =>
    refine ⟨fun r hr => h.loads r ?_, nofun⟩
    simp only [HostState.step] at hr
    split at hr
    · cases hr
    · exact hr
  | execute request =>
    simp only [HostState.step]
    split
    · exact ⟨h.loads, h.owner⟩
    · exact h

structure Settled (r : DeploymentRecord) (durable : Prop) (s : HostState) : Prop where
  sound : Sound s
  file : s.file = some r
  synced : durable → s.synced = true

variable {durable : Prop}

lemma Settled.step (h : Settled r durable s) (a : HostEvent)
    (hloss : a = .powerLoss true → durable) : Settled r durable (s.step a) := by
  have hsound := h.sound.step a
  cases a with
  | prepare body checked =>
    have hkeeps : (s.prepare body checked).file = s.file ∧
        (s.prepare body checked).synced = s.synced := by
      unfold HostState.prepare
      repeat' split
      all_goals exact ⟨rfl, rfl⟩
    exact ⟨hsound, hkeeps.1.trans h.file, fun hd => hkeeps.2.trans (h.synced hd)⟩
  | proceed succeeds =>
    simp only [HostState.step, HostState.proceed] at hsound ⊢
    split
    · exact h
    · exact ⟨⟨h.sound.loads, nofun⟩, h.file, h.synced⟩
    · next request record howner =>
      cases h.file.symm.trans (h.sound.owner _ _ howner).1
    · exact ⟨⟨h.sound.loads, nofun⟩, h.file, fun _ => rfl⟩
  | leave => exact ⟨hsound, h.file, h.synced⟩
  | powerLoss undoes =>
    refine ⟨hsound, ?_, fun _ => rfl⟩
    cases undoes with
    | false => exact h.file
    | true => simp [HostState.step, h.synced (hloss rfl), h.file]
  | execute request =>
    simp only [HostState.step]
    split
    · exact ⟨⟨h.sound.loads, h.sound.owner⟩, h.file, h.synced⟩
    · exact h

end Host

def sampleRequest : DeployRequest :=
  let digest := "sha256:" ++ String.ofList (replicate 64 '0')
  ⟨"capability-deploy-v1", "proposal", "decision", digest, digest, "snapshot"⟩

end AgentCore.CapabilityHost
