import AgentCore.Domain.Platform
import AgentCore.Foundation.Bytes
import AgentCore.Foundation.Trim
import AgentCore.Foundation.Tx

/-!
# The context hook and the budget hook

`hook/context_artifact.rs`, `hook/budget.rs`, `hook/config.rs`, `hook/http_client.rs` and the part of
`llm/context_adapter.rs` that turns artifacts into a model input. The kernel asks a provider for the
artifacts to show the model, or for the budget of a run, and accepts an answer only with a proof: the
HMAC, under the secret of the binding, of the fields the answer is bound to.

What the network returns is an input of the two calls, and so are serde's readings of the bodies:
nothing proved here depends on how they are made.
-/

namespace AgentCore.Hook

open Foundation

@[ext] structure Text where
  str : String
  bounded : str.utf8ByteSize < 2 ^ 64
deriving DecidableEq

lemma utf8ByteSize_le (s : String) : s.utf8ByteSize ≤ 4 * s.length := by
  have hlist : ∀ cs : List Char, String.utf8Len cs ≤ 4 * cs.length := by
    intro cs
    induction cs with
    | nil => exact Nat.le_refl _
    | cons c cs ih =>
      have hc : c.utf8Size ≤ 4 := c.utf8Size_le_four
      rw [String.utf8Len_cons, List.length_cons]
      omega
  have h := hlist s.toList
  rwa [← String.utf8ByteSize_ofList, String.ofList_toList, String.length_toList] at h

namespace Text

def asBytes (t : Text) : Bytes := t.str.toUTF8.data.toList

lemma asBytes_length (t : Text) : t.asBytes.length < 2 ^ 64 := by
  have hsize : t.asBytes.length = t.str.utf8ByteSize := Array.length_toList
  rw [hsize]
  exact t.bounded

lemma asBytes_injective : Function.Injective asBytes := by
  intro s t h
  have hdata : s.str.toUTF8.data = t.str.toUTF8.data := Array.toList_inj.mp h
  have hbytes : s.str.toByteArray = t.str.toByteArray := ByteArray.ext hdata
  exact Text.ext (String.toByteArray_inj.mp hbytes)

def isBlank (t : Text) : Bool := trim t.str == ""

end Text

/-- The two primitives the hooks rest on: a SHA-256 digest as lower-case hex, and the bytes of an
HMAC-SHA-256 under a key. -/
class HookCrypto where
  sha256Hex : Bytes → String
  hmacSha256 : Bytes → Bytes → Bytes

variable [HookCrypto]

/-! ## Digests -/

def parseDigest (s : String) : Except String String := do
  require (s.utf8ByteSize = 71) "invalid_digest_length"
  require ("sha256:".toList.isPrefixOf s.toList) "digest_must_start_with_sha256:"
  let hex := s.toList.drop 7
  require ((String.ofList hex).utf8ByteSize = 64) "invalid_hex_length"
  require (hex.all fun c => c ∈ "0123456789abcdef".toList) "invalid_hex_chars"
  return s

def computeDigest (data : Bytes) : String := "sha256:" ++ HookCrypto.sha256Hex data

structure ImmutableArtifactRef where
  (id digest : Text)
deriving DecidableEq

structure OpaqueArtifactRef where
  (id digest mediaType contentHex : Text)

def OpaqueArtifactRef.decodeVerified (a : OpaqueArtifactRef) : Except String Bytes := do
  require (¬ a.id.isBlank ∧ ¬ a.mediaType.isBlank) "artifact_ref_required_field_empty"
  let digest ← parseDigest a.digest.str
  let bytes ← okOr (hexDecode a.contentHex.str.toList) "artifact_hex"
  require (computeDigest bytes = digest) "artifact_digest_mismatch"
  return bytes

def refFields (refs : List ImmutableArtifactRef) : List Bytes :=
  refs.flatMap (fun item => [item.id.asBytes, item.digest.asBytes])

def digestImmutableRefs (refs : List ImmutableArtifactRef) : String :=
  computeDigest (frames (refFields refs))

/-! ## The context hook -/

structure CandidateInputRef where
  (runId sessionId scopeDigest : Text)
  artifact : OpaqueArtifactRef
  immutableRefs : List ImmutableArtifactRef
  immutableRefsDigest : Text

structure ContextHookRequest where
  requestId : Text
  candidate : CandidateInputRef

structure ContextHookResponse where
  (runId sessionId scopeDigest candidateDigest : Text)
  immutableRefs : List ImmutableArtifactRef
  immutableRefsDigest : Text
  artifacts : List OpaqueArtifactRef

namespace ContextHookResponse

def validateAgainst (r : ContextHookResponse) (request : ContextHookRequest) :
    Except String Unit := do
  let candidate := request.candidate
  require (r.runId = candidate.runId ∧ r.sessionId = candidate.sessionId)
    "context_response_run_session_mismatch"
  require (r.scopeDigest = candidate.scopeDigest) "context_response_scope_mismatch"
  require (r.candidateDigest = candidate.artifact.digest) "context_response_candidate_mismatch"
  require (r.immutableRefs = candidate.immutableRefs ∧
      r.immutableRefsDigest = candidate.immutableRefsDigest ∧
      digestImmutableRefs r.immutableRefs = r.immutableRefsDigest.str)
    "context_response_immutable_refs_mismatch"
  require (r.artifacts ≠ []) "context_response_artifacts_empty"
  let _ ← r.artifacts.mapM OpaqueArtifactRef.decodeVerified
  return ()

def authenticatedFields (r : ContextHookResponse) (providerId requestId : Text) : List Text :=
  [providerId, requestId, r.runId, r.sessionId, r.scopeDigest, r.candidateDigest,
    r.immutableRefsDigest] ++ r.artifacts.map OpaqueArtifactRef.digest

def authenticationMessage (r : ContextHookResponse) (providerId requestId : Text) : Bytes :=
  frames ((r.authenticatedFields providerId requestId).map Text.asBytes)

end ContextHookResponse

/-! ## The budget hook -/

def HOST_MAX_TOOL_ROUNDS : Nat := 64
def HOST_MAX_WALL_TIME_MS : Nat := 600000

inductive ExhaustionAction where
  | terminate
  | yield

def ExhaustionAction.asText : ExhaustionAction → String
  | .terminate => "terminate"
  | .yield => "yield"

structure RunBudgetDecision where
  maxToolRounds : UInt32
  maxWallTimeMs : UInt64
  exhaustionAction : ExhaustionAction

def validateAgainstCeiling (d : RunBudgetDecision) : Except String Unit := do
  require (d.maxToolRounds.toNat ≠ 0) "budget_max_tool_rounds_zero"
  require (d.maxToolRounds.toNat ≤ HOST_MAX_TOOL_ROUNDS)
    ("budget_max_tool_rounds_exceeds_ceiling: " ++ toString d.maxToolRounds.toNat ++ " > " ++
      toString HOST_MAX_TOOL_ROUNDS)
  require (d.maxWallTimeMs.toNat ≠ 0) "budget_max_wall_time_ms_zero"
  require (d.maxWallTimeMs.toNat ≤ HOST_MAX_WALL_TIME_MS)
    ("budget_max_wall_time_ms_exceeds_ceiling: " ++ toString d.maxWallTimeMs.toNat ++ " > " ++
      toString HOST_MAX_WALL_TIME_MS)

structure RunBudgetHookRequest where
  (requestId runId : Text)

structure RunBudgetHookResponse where
  (requestId runId : Text)
  decision : RunBudgetDecision

def decimal (n : Nat) (h : n < 2 ^ 64) : Text where
  str := toString n
  bounded := by
    have hlength : (toString n).length ≤ 20 := (Nat.length_repr_le_iff (by omega)).mpr (by omega)
    have hsize := utf8ByteSize_le (toString n)
    omega

namespace RunBudgetHookResponse

def validateAgainst (r : RunBudgetHookResponse) (request : RunBudgetHookRequest) :
    Except String Unit := do
  require (r.requestId = request.requestId) "budget_response_request_id_mismatch"
  require (r.runId = request.runId) "budget_response_run_id_mismatch"
  validateAgainstCeiling r.decision

def authenticatedFields (r : RunBudgetHookResponse) (providerId : Text) : List Text :=
  [providerId, r.requestId, r.runId,
    decimal r.decision.maxToolRounds.toNat (Nat.lt_trans r.decision.maxToolRounds.toNat_lt (by decide)),
    decimal r.decision.maxWallTimeMs.toNat r.decision.maxWallTimeMs.toNat_lt,
    ⟨r.decision.exhaustionAction.asText, by cases r.decision.exhaustionAction <;> decide⟩]

def authenticationMessage (r : RunBudgetHookResponse) (providerId : Text) : Bytes :=
  frames ((r.authenticatedFields providerId).map Text.asBytes)

end RunBudgetHookResponse

/-! ## Proofs -/

def computeProof (emptySecret : String) (secret : Text) (message : Bytes) :
    Except String (List Char) :=
  if secret.str = "" then .error emptySecret
  else .ok (hexEncode (HookCrypto.hmacSha256 secret.asBytes message))

def computeProviderProof : Text → Bytes → Except String (List Char) :=
  computeProof "context_provider_credential_empty"

def computeBudgetProviderProof : Text → Bytes → Except String (List Char) :=
  computeProof "budget_provider_credential_empty"

def verifyProviderProof (secret : Text) (message : Bytes) (proof : List Char) :
    Except String Unit := do
  let tag ← okOr (hexDecode proof) "provider_proof_encoding"
  require (tag = HookCrypto.hmacSha256 secret.asBytes message) "provider_authentication_failed"

def verifyBudgetProviderProof : Text → Bytes → List Char → Except String Unit :=
  verifyProviderProof

/-! ## The two calls -/

inductive HookKind where
  | ingressRouteV0
  | contextPrepareV0
  | contextLoadV0
  | eventObserveV0
  | decisionPolicyV0
  | runBudgetResolveV0
deriving DecidableEq

inductive HookFailureMode where
  | failOpen
  | failClosed
  | degrade
  | disabled
deriving DecidableEq

structure HookConfig where
  enabled : Bool
  kind : HookKind
  url : String
  (timeoutMs maxRequestBytes maxResponseBytes : Nat)
  failureMode : HookFailureMode
  (providerId sharedSecret : Text)

def checkLimit (field : String) (value max : Nat) : Except String Unit :=
  require (value ≤ max)
    ("hook limit " ++ field ++ " = " ++ toString value ++ " exceeds maximum allowed " ++
      toString max)

def HookConfig.validate (c : HookConfig) : Except String Unit :=
  if !c.enabled then return ()
  else do
    require (trim c.url ≠ "")
      "hook validation error: enabled hook must have a non-empty endpoint URL"
    require (c.failureMode ≠ .disabled)
      "hook validation error: enabled hook must not have failure_mode = disabled"
    require (¬ c.providerId.isBlank)
      "hook validation error: enabled hook must have a bound provider_id"
    require (c.sharedSecret.str ≠ "")
      "hook validation error: enabled hook must have a shared credential"
    checkLimit "timeout_ms" c.timeoutMs 60000
    checkLimit "max_request_bytes" c.maxRequestBytes (10 * 1024 * 1024)
    checkLimit "max_response_bytes" c.maxResponseBytes (10 * 1024 * 1024)

structure HookResponseEnvelope where
  requestId : Text
  hook : HookKind
  payload : Json

class HookWire where
  readEnvelope : String → Option HookResponseEnvelope
  readContext : Json → Option ContextHookResponse
  readBudget : Json → Option RunBudgetHookResponse

/-- What `post_hook` returns: an error's text, or a body with the header of the proof. -/
abbrev Posted := Except String (String × List Char)

structure Authenticated (α : Type) where
  (providerId requestId : Text)
  response : α

section Calls

variable [HookWire]

def receiveEnvelope (posted : Posted) (config : HookConfig) (hook : HookKind) (requestId : Text) :
    Except String (Json × List Char) := do
  config.validate
  let (body, proof) ← posted
  let envelope ← okOr (HookWire.readEnvelope body) "invalid_json"
  require (envelope.hook = hook) "unsupported_hook_response"
  require (envelope.requestId = requestId) "hook_request_id_mismatch"
  return (envelope.payload, proof)

def callContext (posted : Posted) (request : ContextHookRequest) (config : HookConfig) :
    Except String (Authenticated ContextHookResponse) := do
  let (payload, proof) ← receiveEnvelope posted config .contextPrepareV0 request.requestId
  let response ← okOr (HookWire.readContext payload) "invalid_context_artifact_response"
  response.validateAgainst request
  verifyProviderProof config.sharedSecret
    (response.authenticationMessage config.providerId request.requestId) proof
  return ⟨config.providerId, request.requestId, response⟩

def callBudget (posted : Posted) (request : RunBudgetHookRequest) (config : HookConfig) :
    Except String (Authenticated RunBudgetHookResponse) := do
  let (payload, proof) ← receiveEnvelope posted config .runBudgetResolveV0 request.requestId
  let response ← okOr (HookWire.readBudget payload) "invalid_budget_response"
  response.validateAgainst request
  verifyBudgetProviderProof config.sharedSecret
    (response.authenticationMessage config.providerId) proof
  return ⟨config.providerId, request.requestId, response⟩

end Calls

/-! ## The model adapter -/

/-- The adapter's own functions on model inputs: serde's reading of bytes, the check of the wire
input and the references of the parts that may not change. -/
class ModelAdapter (LlmInput : Type) where
  fromSlice : Bytes → Option LlmInput
  validateWireInput : LlmInput → Except String Unit
  immutableRefsFor : LlmInput → Except String (List ImmutableArtifactRef)

structure AdapterCandidate where
  mediaType : Text
  bytes : Bytes
  immutableRefs : List ImmutableArtifactRef

def artifactBytes (mediaType : Text) : List OpaqueArtifactRef → Except String Bytes
  | [] => .ok []
  | artifact :: artifacts => do
    require (artifact.mediaType = mediaType) "model_adapter_artifact_media_type_mismatch"
    let bytes ← artifact.decodeVerified
    let rest ← artifactBytes mediaType artifacts
    return bytes ++ rest

def decodeArtifacts {LlmInput : Type} [ModelAdapter LlmInput] (candidate : AdapterCandidate)
    (artifacts : List OpaqueArtifactRef) : Except String LlmInput := do
  require (artifacts ≠ []) "model_adapter_artifacts_empty"
  let bytes ← artifactBytes candidate.mediaType artifacts
  let input ← okOr (ModelAdapter.fromSlice bytes) "model_adapter_artifact"
  ModelAdapter.validateWireInput input
  let refs ← ModelAdapter.immutableRefsFor input
  require (refs = candidate.immutableRefs) "model_adapter_immutable_input_changed"
  return input

end AgentCore.Hook
