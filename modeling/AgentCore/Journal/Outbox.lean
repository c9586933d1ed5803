import AgentCore.Journal.Db

/-! The outbox: queueing a dispatch, leasing it to a dispatcher, and the three terminal
writes. Each store call is one immediate transaction over the outbox row, the run row and
the journal. -/

namespace AgentCore.Journal

open Foundation Domain

def TERMINAL_TRANSITION_ERROR : String := "outbox_dispatch_terminal_transition_not_allowed"

section Calls

variable [Platform]

def outboxRowOf (approved : ApprovedInvocation) (sessionId : Option SessionId)
    (now : Timestamp) : OutboxRow where
  dispatchId := "dispatch:" ++ approved.intent.invocationId
  invocationId := approved.intent.invocationId
  runId := approved.intent.runId
  sessionId
  operation := approved.intent.operation
  argumentsJson := approved.intent.arguments.toText
  idempotencyKey := approved.intent.idempotencyKey.getD approved.intent.invocationId
  decisionId := approved.decisionId
  status := .pending
  attempts := 0
  availableAt := now
  lockedBy := none
  lockedUntil := none
  lastError := none
  createdAt := now
  updatedAt := now

def queueOutboxDispatch (approved : ApprovedInvocation) (sessionId : Option SessionId)
    (now : Timestamp) (stamp : Stamp) (db : Db) : Except String (String × Db) := do
  let row := outboxRowOf approved sessionId now
  let (outbox, changed) := db.outbox.insertOrIgnore row
  let db := { db with outbox := outbox }
  if changed = 1 then
    let db ← db.append stamp .outboxQueued (some row.runId) sessionId (some row.invocationId)
      (.mkObj [("dispatch_id", .str row.dispatchId), ("invocation_id", .str row.invocationId),
        ("decision_id", .str row.decisionId), ("operation", .str row.operation),
        ("idempotency_key", .str row.idempotencyKey), ("status", .str row.status.asStr)])
    return (row.dispatchId, db)
  else
    return (row.dispatchId, db)

def leasable (now : Timestamp) (r : OutboxRow) : Bool :=
  decide ((r.status = .pending ∨ (r.status = .retryableFailed ∧ r.availableAt ≤ now)) ∧
    r.availableAt ≤ now)

def outboxBefore (r s : OutboxRow) : Bool :=
  decide (r.availableAt < s.availableAt ∨
    (r.availableAt = s.availableAt ∧ r.createdAt < s.createdAt))

def leaseGuard (now : Timestamp) (invocationId : InvocationId) (r : OutboxRow) : Bool :=
  decide (r.invocationId = invocationId ∧
    (r.status = .pending ∨ (r.status = .retryableFailed ∧ r.availableAt ≤ now)))

def lockForDispatch (now : Timestamp) (r : OutboxRow) : OutboxRow :=
  { r with
    status := .dispatching
    attempts := r.attempts + 1
    lockedBy := some "kernel-outbox"
    lockedUntil := some (now + minutes 5)
    updatedAt := now }

def leaseNextOutboxDispatch (now : Timestamp) (stamp : Stamp) (db : Db) :
    Except String (Option LeasedOutboxDispatch × Db) :=
  match db.outbox.selectFirst (leasable now) outboxBefore with
  | none => .ok (none, db)
  | some row =>
    match fromStr row.argumentsJson with
    | none => .error "invalid arguments_json"
    | some arguments =>
      if db.outbox.count (leaseGuard now row.invocationId) = 0 then .ok (none, db)
      else do
        let outbox := db.outbox.update (leaseGuard now row.invocationId) (lockForDispatch now)
          (fun _ => rfl)
        let db ← ({ db with outbox := outbox } : Db).append stamp .dispatchStarted
          (some row.runId) row.sessionId (some row.invocationId)
          (.mkObj [("operation", .str row.operation), ("attempted_at", .str (Platform.rfc3339 now)),
            ("locked_until", .str (Platform.rfc3339 (now + minutes 5)))])
        return (some
          { invocationId := row.invocationId
            runId := row.runId
            sessionId := row.sessionId
            operation := row.operation
            arguments
            idempotencyKey := row.idempotencyKey
            decisionId := row.decisionId }, db)

def dispatchingGuard (invocationId : InvocationId) (r : OutboxRow) : Bool :=
  decide (r.invocationId = invocationId ∧ r.status = .dispatching)

def settleOutboxRow (invocationId : InvocationId) (f : OutboxRow → OutboxRow)
    (hf : ∀ r, (f r).invocationId = r.invocationId) (db : Db) : Except String Db :=
  if db.outbox.count (dispatchingGuard invocationId) = 0 then .error TERMINAL_TRANSITION_ERROR
  else .ok { db with outbox := db.outbox.update (dispatchingGuard invocationId) f hf }

def setRunStatus (runId : RunId) (status : RunStatus) (now : Timestamp) (db : Db) : Db :=
  { db with
    runs := db.runs.update (fun r => decide (r.id = runId))
      (fun r => { r with status, updatedAt := now }) (fun _ => rfl) }

def replyChannel (operation : String) : Option String :=
  if operation = "stdout.send_text" then some "cli"
  else if operation = "feishu.send_message" then some "feishu"
  else none

def replyText (row : OutboxRow) : Option (String × String) := do
  let channel ← replyChannel row.operation
  let arguments ← fromStr row.argumentsJson
  let text ← (arguments.get "text").bind Json.asStr
  return (channel, text)

def assistantReplyExists (invocationId : InvocationId) (db : Db) : Bool :=
  db.journal.rows.any fun r =>
    decide (r.kind = "AssistantReplyDelivered" ∧ r.correlationId = some invocationId)

/-- A reply operation's delivered text becomes a journal fact; a failed append is passed
over when the fact exists already. -/
def maybeRecordAssistantReply (receipt : Receipt) (runId : RunId) (sessionId : SessionId)
    (stamp : Stamp) (db : Db) : Except String Db :=
  match (db.outbox.find? receipt.invocationId).bind replyText with
  | none => .ok db
  | some (channel, text) =>
    match db.append stamp .assistantReplyDelivered (some runId) (some sessionId)
        (some receipt.invocationId)
        (.mkObj [("session_id", .str sessionId), ("run_id", .str runId),
          ("invocation_id", .str receipt.invocationId), ("channel", .str channel),
          ("text", .str text)]) with
    | .ok db' => .ok db'
    | .error e =>
      if assistantReplyExists receipt.invocationId db then .ok db
      else .error ("failed to record assistant reply: " ++ e)

def recordDeliveredReply (receipt : Receipt) (runId : RunId) (sessionId : Option SessionId)
    (stamp : Stamp) (db : Db) : Except String Db :=
  match receipt.status, sessionId with
  | .succeeded, some session => maybeRecordAssistantReply receipt runId session stamp db
  | _, _ => .ok db

def succeedOutboxDispatch (receipt : Receipt) (runId : RunId) (sessionId : Option SessionId)
    (now : Timestamp) (stamps : Nat → Stamp) (db : Db) : Except String Db := do
  let db ← settleOutboxRow receipt.invocationId
    (fun r => { r with status := .succeeded, updatedAt := now }) (fun _ => rfl) db
  let db ← db.append (stamps 0) .receiptReceived (some runId) sessionId
    (some receipt.invocationId)
    (.mkObj [("status", .str receipt.status.debug),
      ("external_ref", Json.ofOption receipt.externalRef), ("output_kind", .str "text")])
  let db ← recordDeliveredReply receipt runId sessionId (stamps 1) db
  -- a failed run stays failed
  if (db.runs.find? runId).map Run.status = some .failed then return db
  else
    (setRunStatus runId .completed now db).append (stamps 2) .runCompleted (some runId) sessionId
      (some receipt.invocationId)
      (.mkObj [("status", .str "Completed"), ("reason", .str "outbox_dispatch_succeeded")])

def failOutboxDispatch (invocationId : InvocationId) (runId : RunId)
    (sessionId : Option SessionId) (error : String) (now : Timestamp) (stamps : Nat → Stamp)
    (db : Db) : Except String Db := do
  let db ← settleOutboxRow invocationId
    (fun r => { r with status := .failed, lockedBy := none, lockedUntil := none,
                       lastError := some error, updatedAt := now }) (fun _ => rfl) db
  let db ← db.append (stamps 0) .receiptReceived (some runId) sessionId (some invocationId)
    (.mkObj [("status", .str "Failed"), ("error", .str error), ("output_kind", .str "error")])
  (setRunStatus runId .failed now db).append (stamps 1) .runFailed (some runId) sessionId
    (some invocationId)
    (.mkObj [("status", .str "Failed"), ("reason", .str "outbox_dispatch_definite_failure"),
      ("error", .str error)])

def unknownOutboxDispatch (invocationId : InvocationId) (runId : RunId)
    (sessionId : Option SessionId) (error : String) (now : Timestamp) (stamps : Nat → Stamp)
    (db : Db) : Except String Db := do
  let db ← settleOutboxRow invocationId
    (fun r => { r with status := .unknown, lockedBy := none, lockedUntil := none,
                       lastError := some error, updatedAt := now }) (fun _ => rfl) db
  db.append (stamps 0) .outboxDispatchUnknown (some runId) sessionId (some invocationId)
    (.mkObj [("invocation_id", .str invocationId), ("error", .str error),
      ("status", .str OutboxDispatchStatus.unknown.asStr)])

end Calls

end AgentCore.Journal
