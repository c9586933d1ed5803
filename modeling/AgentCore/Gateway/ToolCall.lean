import AgentCore.Gateway.Policy
import AgentCore.Registry.SchemaCheck

/-! A tool call of the model before anything runs: the rejections, the checks against the
pinned snapshot and the name under which an operation is audited. -/

namespace AgentCore.Gateway

open Foundation Registry
open Domain hiding OperationSpec RegistrySnapshot

variable {less : JsonNumber → JsonNumber → Bool} {spec : OperationSpec} {arguments : Json}

structure ToolCall where
  (id operation : String)
  arguments : Json

inductive ToolRejection
  | unknownOperation
  | operationNotAllowed
  | malformedArguments
  | invalidArguments
  | invalidArgumentsWithDetails (issue : SchemaValidationIssue)
  | policyDenied
  | malformedToolCall
  | internalToolError

namespace ToolRejection

def category : ToolRejection → String
  | unknownOperation => "unknown_operation"
  | operationNotAllowed => "operation_not_allowed"
  | malformedArguments => "malformed_arguments"
  | invalidArguments => "invalid_arguments"
  | invalidArgumentsWithDetails _ => "invalid_arguments"
  | policyDenied => "policy_denied"
  | malformedToolCall => "malformed_tool_call"
  | internalToolError => "internal_tool_error"

def safeMessage : ToolRejection → String
  | unknownOperation => "Tool call rejected: unknown operation."
  | operationNotAllowed => "Tool call rejected: operation is not allowed."
  | malformedArguments => "Tool call rejected: malformed arguments."
  | invalidArguments => "Tool call rejected: invalid arguments."
  | invalidArgumentsWithDetails _ => "Tool call rejected: invalid arguments."
  | policyDenied => "Tool call rejected: not permitted by policy."
  | malformedToolCall => "Tool call rejected: malformed tool call."
  | internalToolError => "Tool call rejected: internal tool error."

end ToolRejection

/-! ## The audited name -/

section Audit

variable [Platform]

def operationDigest (op : String) : String := String.ofList ((Platform.sha256Hex op).toList.take 8)

/-- A name from neither the catalog nor the snapshot is never written as it is. -/
def sanitizeOperationForAuditWithSnapshot (op : String) (snapshot : RegistrySnapshot) : String :=
  match Domain.lookup op with
  | some spec => spec.name
  | none =>
    if (snapshot.lookup op).isSome then op else "unknown_operation_" ++ operationDigest op

end Audit

/-! ## The checks -/

/-- The trusted position of the call makes the key unique where a provider repeats an id. -/
def toolIdempotencyKey (runId : RunId) (turnIndex toolIndex : Nat) (call : ToolCall) : String :=
  "tool:" ++ runId ++ ":" ++ toString turnIndex ++ ":" ++ toString toolIndex ++ ":" ++ call.id

def validateToolCall (call : ToolCall) (runId : RunId) (turnIndex toolIndex : Nat)
    (snapshot : RegistrySnapshot) (invocationId : InvocationId) :
    Except ToolRejection InvocationIntent :=
  match snapshot.lookup call.operation with
  | none => .error .unknownOperation
  | some spec =>
    if spec.risk ≠ .readOnly ∧ spec.bindingKind ≠ .external then .error .operationNotAllowed
    else if call.arguments.asObject.isNone then .error .malformedArguments
    else .ok
      { invocationId
        runId
        operation := call.operation
        arguments := call.arguments
        idempotencyKey := some (toolIdempotencyKey runId turnIndex toolIndex call) }

def checkRecallArgument (member : String × Json) : Except ToolRejection Unit :=
  if member.1 = "limit" then
    match member.2.asInt with
    | none => .error .invalidArguments
    | some n => if 1 ≤ n ∧ n ≤ 20 then .ok () else .error .invalidArguments
  else if member.1 = "query" then
    if member.2.asStr.isSome then .ok () else .error .invalidArguments
  else .error .invalidArguments

def validateBuiltinArguments (operation : String) (arguments : Json) : Except ToolRejection Unit :=
  match arguments.asObject with
  | none => .error .malformedArguments
  | some members =>
    if operation = SYSTEM_STATUS then
      if members.isEmpty then .ok () else .error .invalidArguments
    else if operation = SESSION_RECALL_RECENT then members.forM checkRecallArgument
    else .error .unknownOperation

def validateModelArguments (less : JsonNumber → JsonNumber → Bool) (spec : OperationSpec)
    (arguments : Json) : Except ToolRejection Unit :=
  match spec.bindingKind with
  | .builtin => validateBuiltinArguments spec.name arguments
  | .external =>
    (validateAgainstSchemaDetailed less spec.parameters arguments).mapError
      .invalidArgumentsWithDetails

lemma validateToolCall_eq_ok
    (h : validateToolCall call runId turnIndex toolIndex snapshot invocationId = .ok intent) :
    ∃ spec members, snapshot.lookup call.operation = some spec ∧
      (spec.risk = .readOnly ∨ spec.bindingKind = .external) ∧ call.arguments = .obj members ∧
      intent = ⟨invocationId, runId, call.operation, call.arguments,
        some (toolIdempotencyKey runId turnIndex toolIndex call)⟩ := by
  unfold validateToolCall at h
  split at h
  · cases h
  · rename_i spec hspec
    split_ifs at h with hwrite hobject
    have hallowed : spec.risk = .readOnly ∨ spec.bindingKind = .external := by
      by_contra hnot
      exact hwrite (not_or.mp hnot)
    cases harguments : call.arguments with
    | obj members => exact ⟨spec, members, hspec, hallowed, rfl, by rw [← Except.ok.inj h, harguments]⟩
    | null | bool _ | num _ | str _ | arr _ =>
      rw [harguments] at hobject
      exact absurd rfl hobject

def pinned (snapshot : RegistrySnapshot) : Domain.RegistrySnapshot where
  snapshotId := snapshot.snapshotId
  operations := snapshot.operations.map fun op => ⟨op.name, op.risk⟩

end AgentCore.Gateway
