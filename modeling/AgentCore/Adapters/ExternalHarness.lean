import AgentCore.Journal.Observe
import AgentCore.Registry.SchemaCheck
import AgentCore.Server.Http

/-! The transport to an external harness: one request to a loopback address, and the receipt
that is made of whatever comes back. -/

namespace AgentCore.Adapters

open Foundation Harness Registry Server
open Domain hiding OperationSpec RegistrySnapshot
open Journal (containsText)

structure ExternalHarnessTransportConfig where
  readTimeoutMs : Nat
  maxResponseBytes : Nat := 64 * 1024
  bearerToken : Option String

structure HarnessRequest where
  (address path : String)
  body : Json
  config : ExternalHarnessTransportConfig

structure SocketAddress where
  text : String
  loopback : Bool

inductive ReadEvent
  | chunk (bytes : List UInt8)
  | timedOut
  | failed (reason : String)

/-- What the network does in one call; each error is the text of the system's. -/
structure Network where
  resolve : Except String (List SocketAddress)
  connect : Except String Unit
  readTimeoutSet : Except String Unit := .ok ()
  writeTimeoutSet : Except String Unit := .ok ()
  write : Except String Unit
  reads : List ReadEvent

section Transport

variable [Platform] (less : JsonNumber → JsonNumber → Bool) (jsonError : String → String)

def requestBody (manifest : HarnessManifest) (invocationId : InvocationId) (arguments : Json)
    (registrySnapshotId : String) : Json :=
  .mkObj
    [("protocol_version", .str manifest.protocolVersion), ("invocation_id", .str invocationId),
      ("operation", .str manifest.operationName), ("arguments", arguments),
      ("manifest_id", .str manifest.manifestId), ("artifact_digest", .str manifest.artifactDigest),
      ("registry_snapshot_id", .str registrySnapshotId)]

def prepareRequest (manifest : HarnessManifest) (invocationId : InvocationId) (arguments : Json)
    (config : ExternalHarnessTransportConfig) (registrySnapshotId : String) (net : Network) :
    Except String HarnessRequest := do
  let parsed ← manifest.parseEndpoint
  let address := parsed.host ++ ":" ++ toString parsed.port
  let addresses ← net.resolve.mapError ("endpoint resolution failed: " ++ ·)
  if addresses.isEmpty then throw "endpoint resolved to no addresses"
  match addresses.find? fun a => !a.loopback with
  | some a => throw s!"resolved address {a.text} is not a loopback address"
  | none =>
    return ⟨address, parsed.path, requestBody manifest invocationId arguments registrySnapshotId,
      config⟩

def readResponse (limit : Nat) (raw : List UInt8) : List ReadEvent → Except String (List UInt8)
  | [] => .ok raw
  | .timedOut :: _ => .error "external harness request timed out"
  | .failed reason :: _ => .error ("read failed: " ++ reason)
  | .chunk bytes :: rest =>
    if bytes = [] then .ok raw
    else if limit < (raw ++ bytes).length then
      .error s!"response exceeds {limit} byte limit"
    else readResponse limit (raw ++ bytes) rest

def receive (config : ExternalHarnessTransportConfig) (net : Network) : Except String String := do
  net.connect.mapError ("connect failed: " ++ ·)
  net.readTimeoutSet.mapError ("set_read_timeout failed: " ++ ·)
  net.writeTimeoutSet.mapError ("set_write_timeout failed: " ++ ·)
  net.write.mapError ("write failed: " ++ ·)
  let raw ← readResponse config.maxResponseBytes [] net.reads
  match String.fromUTF8? ⟨raw.toArray⟩ with
  | none => throw "non-UTF-8 response from harness"
  | some response => return response

def statusCode (response : String) : Nat :=
  (((splitWhitespace ((lines response).headD ""))[1]?).bind fun s => parseU16 s.toList).getD 0

def bodyOf (response : String) : Option String :=
  (firstIndex? "\r\n\r\n".toList response.toList).map fun i =>
    String.ofList (response.toList.drop (i + 4))

def isAsciiAlphanumeric (c : Char) : Bool :=
  decide ('0' ≤ c ∧ c ≤ '9') || decide ('a' ≤ c ∧ c ≤ 'z') || decide ('A' ≤ c ∧ c ≤ 'Z')

def executionId (response : Json) : Option String :=
  ((response.get "capability_host_execution_id").bind Json.asStr).filter fun value =>
    !value.isEmpty && decide (value.utf8ByteSize ≤ 160) &&
      value.toList.all fun c => isAsciiAlphanumeric c || c ∈ ['_', '-', ':', '.']

def failureClass (code : String) : String :=
  if code ∈ ["ACCEPTANCE_KIT_SELECTION_REQUIRED", "external_input_required"] then
    "external_input_required"
  else if code ∈ ["ACCEPTANCE_KIT_NOT_FOUND", "external_reference_not_found"] then
    "external_reference_not_found"
  else if code ∈ ["ACCEPTANCE_KIT_DIGEST_MISMATCH", "external_binding_mismatch"] then
    "external_binding_mismatch"
  else if code ∈ ["GENERATOR_ACCEPTANCE_REPAIR_EXHAUSTED", "CROSS_KIT_CONTAMINATION_FAILED",
      "COMBINED_CONTRACT_PROBE_FAILED", "external_verification_failed"] then
    "external_verification_failed"
  else if code ∈ ["GENERATOR_COMPILE_REPAIR_EXHAUSTED", "CANDIDATE_CACHE_INVALID",
      "external_build_failed"] then
    "external_build_failed"
  else if code ∈ ["GENERATOR_MODEL_OUTPUT_UNSAFE", "GENERATOR_MODEL_OUTPUT_TRUNCATED",
      "GENERATOR_MODEL_OUTPUT_INVALID", "external_output_rejected"] then
    "external_output_rejected"
  else if code ∈ ["HARNESS_UNAVAILABLE", "CONNECTION_REFUSED", "TIMEOUT", "external_unavailable"] then
    "external_unavailable"
  else if code ∈ ["GENERATOR_MODEL_NOT_CONFIGURED", "GENERATOR_NOT_CONFIGURED_FOR_PROFILE",
      "UNKNOWN_COMPONENT_PROFILE", "INVALID_DEVELOPMENT_REQUEST", "UNSUPPORTED_TARGET_KIND",
      "external_configuration_missing"] then
    "external_configuration_missing"
  else "external_infrastructure_failure"

def boundedCode (response : Json) : String :=
  String.ofList (((((response.get "error_code").bind Json.asStr).getD "").toList.filter fun c =>
    isAsciiAlphanumeric c || c ∈ ['_', '-']).take 64)

section Answer

variable (manifest : HarnessManifest) (invocationId : InvocationId)
  (config : ExternalHarnessTransportConfig) (now : Timestamp)

def failedReceipt (output : List (String × Json)) : Receipt where
  invocationId
  status := .failed
  output := .mkObj output
  externalRef := none
  occurredAt := now

def acceptResult (response result : Json) : Receipt :=
  match validateAgainstSchemaDetailed less manifest.outputSchema result with
  | .error _ => failedReceipt invocationId now [("error_category", .str "output_schema_violation")]
  | .ok () =>
    if manifest.operationName = "external.calculator" ∧ config.bearerToken.isSome ∧
        (executionId response).isNone then
      failedReceipt invocationId now [("error_category", .str "missing_execution_identity")]
    else
      { invocationId
        status := .succeeded
        output := result
        externalRef := executionId response
        occurredAt := now }

def readAnswer (response : Json) : Except String Receipt :=
  if ((response.get "protocol_version").bind Json.asStr).getD "" ≠ manifest.protocolVersion then
    .ok (failedReceipt invocationId now [("error_category", .str "protocol_mismatch")])
  else if ((response.get "ok").bind Json.asBool).getD false then
    match response.get "result" with
    | none => .error "harness returned ok=true but no result"
    | some result => .ok (acceptResult less manifest invocationId config now response result)
  else
    .ok (failedReceipt invocationId now
      [("error_category", .str (failureClass (boundedCode response))),
        ("detail_code", .str (boundedCode response))])

def parseResponse (response : String) : Except String Receipt :=
  if statusCode response = 0 then
    .ok (failedReceipt invocationId now [("error_category", .str "malformed_response")])
  else if ¬(200 ≤ statusCode response ∧ statusCode response < 300) then
    .ok (failedReceipt invocationId now
      [("error_category", .str "http_error"), ("http_code", .num (.int (statusCode response)))])
  else
    match bodyOf response with
    | none => .error "missing HTTP header terminator in harness response"
    | some body =>
      if body = "" then
        .ok (failedReceipt invocationId now [("error_category", .str "malformed_response")])
      else
        match fromStr body with
        | none => .error ("invalid JSON from harness: " ++ jsonError body)
        | some answer => readAnswer less manifest invocationId config now answer

end Answer

end Transport

/-! ## The failures that are no receipt -/

/-- The category of a transport failure, read off its text; the first that matches wins. -/
def errorCategory (text : String) : String :=
  if containsText "timed out" text || containsText "timeout" text then "timeout"
  else if containsText "connect failed" text then "connect_failed"
  else if containsText "protocol version mismatch" text || containsText "protocol" text then
    "protocol_mismatch"
  else if containsText "non-2xx" text || containsText "HTTP" text then "http_error"
  else if containsText "schema violation" text || containsText "output schema" text then
    "output_schema_violation"
  else if containsText "exceeds 64 KiB" text then "response_too_large"
  else if containsText "malformed" text || containsText "invalid JSON" text ||
      containsText "UTF-8" text then
    "malformed_response"
  else "harness_failed"

end AgentCore.Adapters
