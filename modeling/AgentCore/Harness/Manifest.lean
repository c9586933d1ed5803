import AgentCore.Registry.Snapshot
import AgentCore.Domain.Digest

/-! The manifest of an external harness, its identifier and its checks. -/

namespace AgentCore.Harness

open Foundation Domain Registry String

/-! ## Coding operations -/

def WORKSPACE_LIST : String := "external.coding_workspace_list"
def WORKSPACE_READ : String := "external.coding_workspace_read"
def WORKSPACE_WRITE : String := "external.coding_workspace_write"
def WORKSPACE_EXEC : String := "external.coding_workspace_exec"
def TASK_SUBMIT : String := "external.coding_task_submit"
def TASK_STATUS : String := "external.coding_task_status"
def CAPABILITY_PROPOSE : String := "external.coding_capability_propose"

def codingOperationRisk (name : String) : Option Risk :=
  if name ∈ [WORKSPACE_LIST, WORKSPACE_READ, TASK_STATUS] then some .readOnly
  else if name ∈ [WORKSPACE_WRITE, WORKSPACE_EXEC, TASK_SUBMIT, CAPABILITY_PROPOSE] then some .write
  else none

/-! ## The structure of a schema -/

def schemaKeywords : List String :=
  ["type", "properties", "required", "additionalProperties", "items", "minimum", "maximum",
    "minItems", "minLength", "maxLength", "uniqueItems", "description", "enum"]

def checkKeywords : List (String × Json) → Except String Unit
  | [] => .ok ()
  | (key, _) :: rest =>
    if key ∈ schemaKeywords then checkKeywords rest else .error s!"unknown schema keyword: {key}"

def checkEnumValues (seen : List String) : List Json → Except String Unit
  | [] => .ok ()
  | .str s :: rest =>
    if s ∈ seen then .error s!"enum contains duplicate: {s}" else checkEnumValues (s :: seen) rest
  | v :: _ => .error ("enum values must be strings, got " ++ v.toText)

def checkEnum (fields : List (String × Json)) : Except String Unit :=
  match fields.lookup "enum" with
  | none => .ok ()
  | some (.arr []) => .error "enum must not be empty"
  | some (.arr items) => checkEnumValues [] items
  | some _ => .error "enum must be an array"

def hasProperty (fields : List (String × Json)) (name : String) : Bool :=
  match fields.lookup "properties" with
  | some (.obj properties) => (properties.lookup name).isSome
  | _ => false

def checkRequiredValues (fields : List (String × Json)) (seen : List String) :
    List Json → Except String Unit
  | [] => .ok ()
  | .str s :: rest =>
    if s ∈ seen then .error s!"required contains duplicate: {s}"
    else if hasProperty fields s then checkRequiredValues fields (s :: seen) rest
    else .error s!"required field {s} not found in properties"
  | v :: _ => .error ("required entries must be strings, got " ++ v.toText)

def checkRequired (fields : List (String × Json)) : Except String Unit :=
  match fields.lookup "required" with
  | none => .ok ()
  | some (.arr items) => checkRequiredValues fields [] items
  | some _ => .error "required must be an array"

def checkAdditional (fields : List (String × Json)) : Except String Unit :=
  match fields.lookup "additionalProperties" with
  | none | some (.bool _) => .ok ()
  | some _ => .error "additionalProperties must be a boolean"

mutual

def validateSchemaStructure : Json → Except String Unit
  | .obj fields => do
    checkKeywords fields
    checkEnum fields
    checkRequired fields
    checkAdditional fields
    validateMembers fields
  | .null | .bool _ | .num _ | .str _ | .arr _ => .error "schema must be a JSON object"

/-- An object has one member of each name: the first named `properties` is the only one. -/
def validateMembers : List (String × Json) → Except String Unit
  | [] => .ok ()
  | (key, v) :: rest => if key = "properties" then validatePropertiesOf v else validateMembers rest

def validatePropertiesOf : Json → Except String Unit
  | .obj properties => validateEach properties
  | .null | .bool _ | .num _ | .str _ | .arr _ => .ok ()

def validateEach : List (String × Json) → Except String Unit
  | [] => .ok ()
  | (_, v) :: rest => do
    validateSchemaStructure v
    validateEach rest

end

/-! ## Manifests -/

structure HarnessManifest where
  (manifestId harnessId artifactDigest protocolVersion endpoint operationName description : String)
  (inputSchema outputSchema : Json)
  idempotent : Bool
  createdAt : Timestamp
deriving DecidableEq

structure ParsedEndpoint where
  (scheme host : String)
  port : Nat
  path : String

def parseU16 (cs : List Char) : Option Nat :=
  let digits := match cs with
    | '+' :: rest => rest
    | cs => cs
  if digits.isEmpty || !digits.all Char.isDigit then none
  else
    let n := digits.foldl (fun n c => 10 * n + (c.toNat - '0'.toNat)) 0
    if n < 2 ^ 16 then some n else none

def dropText (start : String) (s : List Char) : Option (List Char) :=
  if start.toList.isPrefixOf s then some (s.drop start.toList.length) else none

namespace HarnessManifest

def computeManifestId [Platform] (m : HarnessManifest) : String :=
  "manifest_" ++ Platform.sha256Hex (Json.mkObj
    [("harness_id", .str m.harnessId), ("artifact_digest", .str m.artifactDigest),
      ("protocol_version", .str m.protocolVersion), ("endpoint", .str m.endpoint),
      ("operation_name", .str m.operationName), ("description", .str m.description),
      ("input_schema", m.inputSchema), ("output_schema", m.outputSchema),
      ("idempotent", .bool m.idempotent)]).toText

def toJson [Platform] (m : HarnessManifest) : Json :=
  .obj
    [("manifest_id", .str m.manifestId), ("harness_id", .str m.harnessId),
      ("artifact_digest", .str m.artifactDigest), ("protocol_version", .str m.protocolVersion),
      ("endpoint", .str m.endpoint), ("operation_name", .str m.operationName),
      ("description", .str m.description), ("input_schema", m.inputSchema),
      ("output_schema", m.outputSchema), ("idempotent", .bool m.idempotent),
      ("created_at", .str (Platform.rfc3339 m.createdAt))]

def parseEndpoint (m : HarnessManifest) : Except String ParsedEndpoint :=
  match dropText "http://" m.endpoint.toList with
  | none => .error "endpoint must start with http://"
  | some withoutScheme =>
    let hostPort := withoutScheme.takeWhile (· ≠ '/')
    let path := if '/' ∈ withoutScheme then withoutScheme.dropWhile (· ≠ '/') else ['/']
    let host := hostPort.takeWhile (· ≠ ':')
    if '@' ∈ withoutScheme then .error "endpoint must not contain userinfo"
    else if path.head? ≠ some '/' then .error "endpoint path must be absolute"
    else if '?' ∈ path then .error "endpoint must not contain query string"
    else if '#' ∈ path then .error "endpoint must not contain fragment"
    else if host.isEmpty then .error "endpoint host is empty"
    else if ofList host ∉ ["127.0.0.1", "localhost", "[::1]", "::1"] then
      .error ("endpoint host \"" ++ ofList host ++ "\" is not a loopback address; only " ++
        "127.0.0.1, localhost, and ::1 are allowed")
    else if ':' ∉ hostPort then .error "endpoint must have an explicit port"
    else match parseU16 ((hostPort.dropWhile (· ≠ ':')).drop 1) with
      | none => .error "endpoint port is not a valid u16"
      | some port => .ok ⟨"http", ofList host, port, ofList path⟩

def validateEndpoint (m : HarnessManifest) : Except String Unit := do
  let _ ← m.parseEndpoint
  return ()

def externalName (name : String) : Bool := "external.".toList.isPrefixOf name.toList

def validateOperationName (m : HarnessManifest) : Except String Unit :=
  if externalName m.operationName then .ok ()
  else .error ("operation name \"" ++ m.operationName ++ "\" must start with 'external.'")

def isAsciiHexdigit (c : Char) : Bool := isLowerHex c || (decide ('A' ≤ c) && decide (c ≤ 'F'))

/-- Upper case hex digits pass here, unlike in a `Sha256Digest`. -/
def validateArtifactDigest (m : HarnessManifest) : Except String Unit :=
  if sha256Prefixed m.artifactDigest then
    let hex := m.artifactDigest.toList.drop 7
    if (ofList hex).utf8ByteSize ≠ 64 || !hex.all isAsciiHexdigit then
      .error ("artifact_digest \"" ++ m.artifactDigest ++
        "\" must have exactly 64 hex characters after 'sha256:'")
    else .ok ()
  else .error ("artifact_digest \"" ++ m.artifactDigest ++ "\" must start with 'sha256:'")

def PROTOCOL_VERSION : String := "external-harness-v1"

def validateProtocolVersion (m : HarnessManifest) : Except String Unit :=
  if m.protocolVersion = PROTOCOL_VERSION then .ok ()
  else .error ("protocol_version must be 'external-harness-v1', got \"" ++ m.protocolVersion ++ "\"")

def validateSchemas (m : HarnessManifest) : Except String Unit := do
  (validateSchemaStructure m.inputSchema).mapError ("input_schema invalid: " ++ ·)
  (validateSchemaStructure m.outputSchema).mapError ("output_schema invalid: " ++ ·)

def validateAll (m : HarnessManifest) : Except String Unit := do
  m.validateEndpoint
  m.validateOperationName
  m.validateArtifactDigest
  m.validateProtocolVersion
  m.validateSchemas

end HarnessManifest

end AgentCore.Harness
