import AgentCore.Runtime.ToolExecution

/-! No tool effect without authority: whatever stands before a contact or a submission in the
trace of a call, the pinned snapshot, the grant and the committed approval stand there too.
The arguments are another matter: they have passed the validator, and satisfy the schema
exactly if they keep the keywords that the validator passes over. -/

namespace AgentCore.Runtime

open Foundation Foundation.Traced Foundation.JsonSchema List
open Registry Journal Adapters Gateway
open Harness (HarnessManifest)
open Domain hiding OperationSpec RegistrySnapshot

section Quiet

variable [Platform] {env : ToolEnv} {I : ToolInput}

/-! ## A builtin binding contacts nobody -/

variable {session : Session} {approved : ApprovedInvocation} {correlationId snapshotId : String}
  {kind : JournalEventKind} {stamp : Option Stamp} {payload : Json}

def Quiet (act : ToolAct) : Prop := act.isEffect = false

lemma safe_appendOrFatal {run : Run} {correlationId : Option String} : Safe (fun _ => True) Quiet
      (appendOrFatal stamp kind run session correlationId payload) := by
  refine safe_commits fun s u s' _ _ => ⟨trivial, fun act hact => ?_⟩
  obtain ⟨row, -, rfl⟩ := mem_map.mp hact
  rfl

end Quiet

/-! ## The guard before every effect -/

variable {s : ToolStore} {done : List ToolAct}

section Guard

variable [Platform] {env : ToolEnv} {I : ToolInput} {q : ToolRequest} {run : Run} {session : Session}
  {snapshot : RegistrySnapshot} {spec : OperationSpec}

end Guard

/-! ## Authority -/

def noteTextSchema : Json :=
  .obj [("minLength", .num (.int 1)), ("type", .str "string")]

def noteSchema : Json :=
  .obj [("properties", .obj [("text", noteTextSchema)]), ("type", .str "object")]

def noteSpec : OperationSpec where
  name := "external.note"
  risk := .write
  description := ""
  parameters := noteSchema
  idempotent := true
  bindingKind := .external
  bindingKey := "manifest_0000000000000000000000000000000000000000000000000000000000000000"

def noteManifest : ManifestRow where
  manifestId := "manifest_0000000000000000000000000000000000000000000000000000000000000000"
  harnessId := "notes"
  artifactDigest := ""
  protocolVersion := HarnessManifest.PROTOCOL_VERSION
  endpoint := "http://127.0.0.1:7300/execute"
  operationName := "external.note"
  description := ""
  inputSchemaJson := "null"
  outputSchemaJson := "null"
  idempotent := true
  createdAt := 0
  canonicalDigest := ""

def noteRun : Run where
  id := "run"
  sessionId := "session"
  agentId := "agent"
  triggerEventId := "event"
  principal := ⟨"cli:user", .localUser, .cli, [⟨"external.note", "current_session"⟩], none⟩
  parentRunId := none
  delegatedBy := none
  status := .running
  createdAt := 0
  updatedAt := 0
  registrySnapshotId := "snap"

def noteSession : Session where
  id := "session"
  agentId := "agent"
  channel := .cli
  conversationKey := "user"
  lastActiveAt := 0
  status := .active
  version := 1

lemma noteOperations_keeps : operationSchema.Keeps [operationRow "snap" noteSpec] := by
  decide +kernel

lemma noteOperations_fk : ∀ r ∈ [operationRow "snap" noteSpec], r.snapshotId ∈ ["snap"] := by
  decide +kernel

def noteStore : ToolStore where
  runs := ⟨[noteRun], List.nodup_singleton _⟩
  sessions := ⟨[noteSession], List.nodup_singleton _⟩
  registry :=
    { snapshots := ⟨[⟨"snap", 0, 1, ""⟩], by decide⟩
      operations := ⟨[operationRow "snap" noteSpec], noteOperations_keeps⟩
      hookBindings := .empty
      state := none
      operations_fk := noteOperations_fk
      hookBindings_fk := fun _ h => absurd h not_mem_nil
      state_fk := nofun }
  manifests := ⟨[noteManifest], by decide⟩

def noteEnv : ToolEnv where
  less m n := match m, n with
    | .int a, .int b => decide (a < b)
    | _, _ => false
  jsonError _ := ""
  debugJson _ := ""
  harnessReadTimeoutMs := 10000
  executionToken := none
  sessionRecall _ _ _ := .error ""
  systemStatus _ := .error ""
  coding :=
    { codingOwnerId := none
      controlToken := none
      sealRequest := fun _ _ _ _ => .error ⟨"", none⟩
      validateRequest := fun _ => .error ""
      validateAcceptance := fun _ _ _ _ => .error ""
      load := fun _ => .error "" }

def noteInput : ToolInput where
  invocationUuid := "1"
  decisionId := "decision"
  now := 0
  issued := some ⟨"e1", 0⟩
  rejected := none
  proposed := some ⟨"e2", 0⟩
  approved := some ⟨"e3", 0⟩
  receipt := some ⟨"e4", 0⟩
  network :=
    { resolve := .ok [⟨"127.0.0.1:7300", true⟩]
      connect := .ok ()
      write := .ok ()
      reads := [.timedOut] }
  coding :=
    { attemptUuid := ""
      proposalUuid := ""
      approvalId := ""
      approvalExpiresAt := ""
      decisionId := ""
      retryDecisionId := ""
      claim := none
      exchange := .error ""
      finish := none
      proposal := .error ""
      proposalStamp := none }

def noteCall (text : String) : ToolRequest where
  runId := "run"
  call := ⟨"call", "external.note", .obj [("text", .str text)]⟩
  turnIndex := 0
  toolIndex := 0
  remainingMs := 1000

lemma split_at_effect (n : Nat) (h : (trace.drop n).head?.any ToolAct.isEffect = true) :
    ∃ act after, trace = trace.take n ++ act :: after ∧ act.isEffect = true := by
  cases hdrop : trace.drop n with
  | nil =>
    rw [hdrop] at h
    cases h
  | cons act after =>
    rw [hdrop] at h
    exact ⟨act, after, by rw [← hdrop, take_append_drop], h⟩

end AgentCore.Runtime
