import AgentCore.Journal.Worker

/-! The gateway's ingress: what it admits, the event and the stored payload it makes of an
envelope, and the event it reads back from the stored payload. -/

namespace AgentCore.Gateway

open Foundation Domain Journal

/-! ## Reading payloads -/

def stringArg (value : Json) (key : String) : Except String String :=
  match (((value.get key).bind Json.asStr).map trim).filter fun s => s ≠ "" with
  | some s => .ok s
  | none => .error ("missing string argument: " ++ key)

def rawText (value : Json) : String := ((value.get "text").bind Json.asStr).getD ""

def normalizedText (value : Json) : String := String.ofList ((rawText value).toList.take 500)

def hasMention (value : Json) : Bool :=
  match (value.get "mentions").bind Json.asArray with
  | some mentions => !mentions.isEmpty
  | none => false

def payloadHash [Platform] (value : Json) : String := Platform.sha256Hex value.toText

/-! ## Principals -/

def cliPrincipal (config : KernelConfig) : RunPrincipal where
  principalId := "cli:local"
  subject := .localUser
  source := .cli
  grants := ((ExecutionProfile.forChannel .cli).withExtra config.extraAllowedOperations).grants
  requesterId := some "cli:local"

def feishuPrincipal (config : KernelConfig) (senderOpenId : String) : RunPrincipal where
  principalId := "feishu:open_id:" ++ senderOpenId
  subject := .feishuOpenId senderOpenId
  source := .feishu
  grants := ((ExecutionProfile.forChannel .feishu).withExtra config.extraAllowedOperations).grants
  requesterId := some ("feishu:open_id:" ++ senderOpenId)

/-! ## Validation -/

/-- An envelope that passed the checks made before anything is stored: where its
reservation goes, and what is accepted under the event id it then gets. -/
structure Admission where
  (source dedupeId duplicateError : String)
  event : EventId → ValidatedEvent
  payload : EventId → Json

def cliEvent (config : KernelConfig) (envelope : IngressEnvelope) (text : String)
    (eventId : EventId) : ValidatedEvent where
  eventId
  source := .cli
  principal := cliPrincipal config
  sessionTarget := ⟨config.agentId, .cli, "local"⟩
  payload := .userMessage text none none
  dedupeKey := "cli" ++ ":" ++ envelope.externalEventId
  occurredAt := envelope.receivedAt
  chatType := none

def conversationKey (chatType chatId senderOpenId : String) : String :=
  if chatType = "p2p" then "feishu:open_id:" ++ senderOpenId else "feishu:chat_id:" ++ chatId

structure FeishuFields where
  (text messageId chatId chatType senderOpenId : String)

def feishuFields (payload : Json) : Except String FeishuFields := do
  let text ← stringArg payload "text"
  let messageId ← stringArg payload "message_id"
  let chatId ← stringArg payload "chat_id"
  let chatType ← stringArg payload "chat_type"
  let senderOpenId ← stringArg payload "sender_open_id"
  return ⟨text, messageId, chatId, chatType, senderOpenId⟩

def feishuDedupeId (fields : FeishuFields) : String := "message:" ++ fields.messageId

def feishuEvent (config : KernelConfig) (envelope : IngressEnvelope) (fields : FeishuFields)
    (eventId : EventId) : ValidatedEvent where
  eventId
  source := .feishu
  principal := feishuPrincipal config fields.senderOpenId
  sessionTarget :=
    ⟨config.agentId, .feishu, conversationKey fields.chatType fields.chatId fields.senderOpenId⟩
  payload := .userMessage fields.text (some fields.messageId) (some fields.chatId)
  dedupeKey := "feishu:" ++ feishuDedupeId fields
  occurredAt := envelope.receivedAt
  chatType := some fields.chatType

def senderType (payload : Json) : String :=
  ((payload.get "sender_type").bind Json.asStr).getD "user"

def messageType (payload : Json) : String :=
  ((payload.get "message_type").bind Json.asStr).getD "text"

def checkFeishuPolicy (config : KernelConfig) (payload : Json) (fields : FeishuFields) :
    Except String Unit :=
  if senderType payload = "app" then .error "skip:bot_sender"
  else if messageType payload ≠ "text" then .error "skip:unsupported_message_type"
  else if trim fields.text = "" then .error "skip:empty_text"
  else if fields.chatType = "p2p" ∧ config.feishuAllowedOpenIds ≠ [] ∧
      fields.senderOpenId ∉ config.feishuAllowedOpenIds then .error "skip:sender_not_allowed"
  else if fields.chatType ≠ "p2p" ∧ config.feishuAllowedChatIds ≠ [] ∧
      fields.chatId ∉ config.feishuAllowedChatIds then .error "skip:chat_not_allowed"
  else if fields.chatType ≠ "p2p" ∧ config.feishuRequireGroupMention = true ∧
      hasMention payload = false then .error "skip:bot_not_mentioned"
  else .ok ()

section Validate

variable [Platform]

def cliStored (envelope : IngressEnvelope) (text : String) (eventId : EventId) :
    List (String × Json) :=
  [("source", .str "cli"), ("external_event_id", .str envelope.externalEventId),
    ("dedupe_key", .str ("cli" ++ ":" ++ envelope.externalEventId)), ("event_id", .str eventId),
    ("text", .str text), ("payload_hash", .str (payloadHash envelope.payload))]

def cliPayload (envelope : IngressEnvelope) (text : String) (eventId : EventId) : Json :=
  .mkObj (cliStored envelope text eventId)

def feishuStored (envelope : IngressEnvelope) (fields : FeishuFields) (eventId : EventId) :
    List (String × Json) :=
  [("source", .str "feishu"), ("external_event_id", .str envelope.externalEventId),
    ("dedupe_id", .str (feishuDedupeId fields)),
    ("dedupe_key", .str ("feishu:" ++ feishuDedupeId fields)), ("event_id", .str eventId),
    ("sender_open_id", .str fields.senderOpenId), ("chat_id", .str fields.chatId),
    ("chat_type", .str fields.chatType), ("conversation_key",
      .str (conversationKey fields.chatType fields.chatId fields.senderOpenId)),
    ("message_id", .str fields.messageId), ("message_type", .str (messageType envelope.payload)),
    ("text", .str (normalizedText envelope.payload)),
    ("payload_hash", .str (payloadHash envelope.payload))]

def feishuPayload (envelope : IngressEnvelope) (fields : FeishuFields) (eventId : EventId) : Json :=
  .mkObj (feishuStored envelope fields eventId)

def checkCliIngress (config : KernelConfig) (envelope : IngressEnvelope) : Except String Admission := do
  let text ← stringArg envelope.payload "text"
  return {
    source := "cli"
    dedupeId := envelope.externalEventId
    duplicateError := "duplicate_ingress"
    event := cliEvent config envelope text
    payload := cliPayload envelope text }

def checkFeishuIngress (config : KernelConfig) (envelope : IngressEnvelope) :
    Except String Admission := do
  let fields ← feishuFields envelope.payload
  checkFeishuPolicy config envelope.payload fields
  return {
    source := "feishu"
    dedupeId := feishuDedupeId fields
    duplicateError := "skip:duplicate_ingress"
    event := feishuEvent config envelope fields
    payload := feishuPayload envelope fields }

def checkIngress (config : KernelConfig) (envelope : IngressEnvelope) : Except String Admission :=
  if envelope.protocolVersion ≠ "v1" then .error "unsupported protocol version"
  else if envelope.authContext.authenticated = false then .error "ingress is not authenticated"
  else match envelope.source with
    | .cli => checkCliIngress config envelope
    | .feishu => checkFeishuIngress config envelope

def acceptAdmission (admission : Admission) (eventId : EventId) (now : Timestamp)
    (stamps : Nat → Stamp) (db : Db) : Except String ValidatedEvent × Db :=
  match acceptIngressWithWorkerJob (admission.event eventId) (admission.payload eventId) now stamps
      db with
  | .ok (_, db) => (.ok (admission.event eventId), db)
  | .error e => (.error e, db)

/-- Two commits: the reservation, then the acceptance with its worker job. -/
def validateIngress (config : KernelConfig) (envelope : IngressEnvelope) (uuid : Uuid)
    (now : Nat → Timestamp) (stamps : Nat → Stamp) (db : Db) : Except String ValidatedEvent × Db :=
  match checkIngress config envelope with
  | .error e => (.error e, db)
  | .ok admission =>
    match reserveIngress admission.source admission.dedupeId (newEventId uuid) (now 0) db with
    | (false, db) => (.error admission.duplicateError, db)
    | (true, db) => acceptAdmission admission (newEventId uuid) (now 1) stamps db

end Validate

/-! ## Recovery -/

def recoverCliEvent (config : KernelConfig) (eventId : EventId) (dedupeKey : String)
    (payload : Json) (occurredAt : Timestamp) : Except String ValidatedEvent := do
  let text ← stringArg payload "text"
  return {
    eventId
    source := .cli
    principal := cliPrincipal config
    sessionTarget := ⟨config.agentId, .cli, "local"⟩
    payload := .userMessage text none none
    dedupeKey
    occurredAt
    chatType := none }

def recoverFeishuEvent (config : KernelConfig) (eventId : EventId) (dedupeKey : String)
    (payload : Json) (occurredAt : Timestamp) : Except String ValidatedEvent := do
  let senderOpenId ← stringArg payload "sender_open_id"
  let chatId ← stringArg payload "chat_id"
  let conversationKey ← stringArg payload "conversation_key"
  let text ← stringArg payload "text"
  let messageId ← stringArg payload "message_id"
  return {
    eventId
    source := .feishu
    principal := feishuPrincipal config senderOpenId
    sessionTarget := ⟨config.agentId, .feishu, conversationKey⟩
    payload := .userMessage text (some messageId) (some chatId)
    dedupeKey
    occurredAt
    chatType := (payload.get "chat_type").bind Json.asStr }

def recoveredDedupeKey (event : JournalEvent) : String :=
  match event.correlationId with
  | some key => key
  | none => (stringArg event.payload "dedupe_key").toOption.getD ""

def recoverValidatedEvent (config : KernelConfig) (event : JournalEvent) :
    Except String ValidatedEvent := do
  let source ← stringArg event.payload "source"
  let eventId ← stringArg event.payload "event_id"
  if source = "cli" then
    recoverCliEvent config eventId (recoveredDedupeKey event) event.payload event.createdAt
  else if source = "feishu" then
    recoverFeishuEvent config eventId (recoveredDedupeKey event) event.payload event.createdAt
  else throw ("unsupported_recovery_source:" ++ source)

end AgentCore.Gateway
