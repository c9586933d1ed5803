import AgentCore.Journal.Outbox
import AgentCore.Journal.Worker

/-! Runs, sessions and session continuations. -/

namespace AgentCore.Journal

open Foundation Domain

/-! ## Rows -/

def runById (runId : RunId) (db : Db) : Option Run := db.runs.find? runId

def runStatus (runId : RunId) (db : Db) : Option RunStatus := (db.runs.find? runId).map Run.status

def sessionById (sessionId : SessionId) (db : Db) : Option Session := db.sessions.find? sessionId

def insertRun (run : Run) (db : Db) : Except String Db :=
  if db.runs.rows.any fun r => r.triggerEventId = run.triggerEventId then
    .error "UNIQUE constraint failed: runs.trigger_event_id"
  else match db.runs.insert run with
    | some runs => .ok { db with runs }
    | none => .error "UNIQUE constraint failed: runs.id"

variable {db : Db} {run : Run}

lemma insertRun_eq_ok (h : insertRun run db = .ok db') : db.runs.find? run.id = none ∧
      ∃ runs, db.runs.insert run = some runs ∧ db' = { db with runs } := by
  unfold insertRun at h
  split at h
  · cases h
  split at h
  · next runs hinsert =>
    exact ⟨(Table.insert_eq_some.mp hinsert).1, runs, hinsert, (Except.ok.inj h).symm⟩
  · cases h

def findSession (target : SessionTarget) (db : Db) : Option Session :=
  db.sessions.rows.find? fun s =>
    decide (s.agentId = target.agentId ∧ s.channel = target.channel ∧
      s.conversationKey = target.conversationKey)

def newSession (target : SessionTarget) (id : SessionId) (now : Timestamp) : Session where
  id
  agentId := target.agentId
  channel := target.channel
  conversationKey := target.conversationKey
  lastActiveAt := now
  status := .active
  version := 1

def insertSession (session : Session) (db : Db) : Except String Db :=
  if (findSession ⟨session.agentId, session.channel, session.conversationKey⟩ db).isSome then
    .error "UNIQUE constraint failed: sessions.agent_id, sessions.channel, sessions.conversation_key"
  else match db.sessions.insert session with
    | some sessions => .ok { db with sessions }
    | none => .error "UNIQUE constraint failed: sessions.id"

lemma insertSession_eq_ok (h : insertSession session db = .ok db') :
    ∃ sessions, db' = { db with sessions } := by
  unfold insertSession at h
  split at h
  · cases h
  split at h
  · next sessions _ => exact ⟨sessions, (Except.ok.inj h).symm⟩
  · cases h

/-! ## Continuations -/

def continuationByTriggerRun (triggerRunId : RunId) (db : Db) : Option (EventId × RunId) :=
  (db.continuations.find? triggerRunId).map fun row => (row.eventId, row.nextRunId)

def insertContinuation (row : SessionContinuationRow) (db : Db) : Except String Db :=
  if db.continuations.rows.any fun r => r.idempotencyKey = row.idempotencyKey then
    .error "UNIQUE constraint failed: session_continuations.idempotency_key"
  else match db.continuations.insert row with
    | some rows => .ok { db with continuations := rows }
    | none => .error "UNIQUE constraint failed: session_continuations.trigger_run_id"

def insertJob (job : WorkerJobRow) (db : Db) : Except String Db :=
  match db.workerJobs.insert job with
  | some jobs => .ok { db with workerJobs := jobs }
  | none => .error "UNIQUE constraint failed: worker_jobs.job_id"

lemma insertContinuation_eq_ok (h : insertContinuation row db = .ok db') :
    ∃ rows, db.continuations.insert row = some rows ∧ db' = { db with continuations := rows } := by
  unfold insertContinuation at h
  split at h
  · cases h
  split at h
  · next rows hinsert => exact ⟨rows, hinsert, (Except.ok.inj h).symm⟩
  · cases h

lemma insertJob_eq_ok (h : insertJob job db = .ok db') :
    ∃ jobs, db.workerJobs.insert job = some jobs ∧ db' = { db with workerJobs := jobs } := by
  unfold insertJob at h
  split at h
  · next jobs hinsert => exact ⟨jobs, hinsert, (Except.ok.inj h).symm⟩
  · cases h

section Calls

variable [Platform]

def insertRunAndStart (run : Run) (sessionId : SessionId) (correlationId : String)
    (triggerRunId : RunId) (stamp : Stamp) (db : Db) : Except String Db := do
  let db ← insertRun run db
  db.append stamp .runStarted (some run.id) (some sessionId) (some correlationId)
    (.mkObj [("run_id", .str run.id), ("trigger_event_id", .str run.triggerEventId),
      ("principal_id", .str run.principal.principalId), ("continuation_of", .str triggerRunId)])

def startRows (runId : RunId) (db : Db) : List JournalRow :=
  db.journal.rows.filter fun r =>
    decide (r.runId = some runId ∧ r.kind = JournalEventKind.runStarted.storageName)

def runHasStarted (runId : RunId) (db : Db) : Bool := decide (0 < (startRows runId db).length)

def continuationPayload (requestId : String) (sessionId : SessionId) (triggerRunId : RunId)
    (requestingPrincipal idempotencyKey : String) (nextRunId : RunId) : List (String × Json) :=
  [("request_id", .str requestId), ("trigger_run_id", .str triggerRunId),
    ("session_id", .str sessionId), ("requesting_principal", .str requestingPrincipal),
    ("idempotency_key", .str idempotencyKey), ("next_run_id", .str nextRunId)]

/-- The request, its ledger row and its job are one commit. A trigger run that is continued
already is answered with nothing and changes nothing. -/
def acceptSessionContinuation (requestId : String) (sessionId : SessionId) (triggerRunId : RunId)
    (requestingPrincipal idempotencyKey : String) (nextRunId : RunId) (now : Timestamp)
    (stamp : Stamp) (db : Db) : Except String (Option (EventId × RunId) × Db) :=
  match db.continuations.find? triggerRunId with
  | some _ => .ok (none, db)
  | none => do
    let db ← db.append stamp .sessionContinuationRequested none (some sessionId) (some requestId)
      (.mkObj (continuationPayload requestId sessionId triggerRunId requestingPrincipal
        idempotencyKey nextRunId))
    let db ← insertContinuation
      ⟨idempotencyKey, sessionId, triggerRunId, stamp.eventId, nextRunId, now⟩ db
    let db ← insertJob (newJob .scheduleContinuation stamp.eventId now) db
    return (some (stamp.eventId, nextRunId), db)

def continuationRequestByEventId (eventId : EventId) (db : Db) : Option JournalEvent :=
  (db.journal.rows.find? fun r =>
    decide (r.eventId = eventId ∧
      r.kind = JournalEventKind.sessionContinuationRequested.storageName)).map rowToEvent

lemma acceptSessionContinuation_eq_ok
    (h : acceptSessionContinuation requestId sessionId triggerRunId requestingPrincipal
      idempotencyKey nextRunId now stamp db = .ok (answer, db')) :
    (answer = none ∧ db' = db ∧ db.continuations.find? triggerRunId ≠ none) ∨
      (answer = some (stamp.eventId, nextRunId) ∧ db.continuations.find? triggerRunId = none ∧
        ∃ journal continuations jobs, db' = { db with
            journal := journal, continuations := continuations, workerJobs := jobs } ∧
          journal.rows = db.journal.rows ++ [newRow db.journal stamp
            JournalEventKind.sessionContinuationRequested.storageName none (some sessionId)
            (some requestId) (Json.mkObj (continuationPayload requestId sessionId triggerRunId
              requestingPrincipal idempotencyKey nextRunId)).toText] ∧
          stamp.eventId ∉ db.journal.rows.map JournalRow.eventId ∧
          db.continuations.insert
            ⟨idempotencyKey, sessionId, triggerRunId, stamp.eventId, nextRunId, now⟩ =
              some continuations ∧
          db.workerJobs.insert (newJob .scheduleContinuation stamp.eventId now) = some jobs) := by
  unfold acceptSessionContinuation at h
  split at h
  · next row hrow =>
    cases h
    exact .inl ⟨rfl, rfl, by simp [hrow]⟩
  · next hnone =>
    obtain ⟨db1, happ, h⟩ := bind_eq_ok.mp h
    obtain ⟨db2, hledger, h⟩ := bind_eq_ok.mp h
    obtain ⟨db3, hjob, ⟨⟩⟩ := bind_eq_ok.mp h
    obtain ⟨journal, rfl, hrows, hfresh⟩ := Db.append_eq_ok happ
    obtain ⟨continuations, hcontinuations, rfl⟩ := insertContinuation_eq_ok hledger
    obtain ⟨jobs, hjobs, rfl⟩ := insertJob_eq_ok hjob
    exact .inr ⟨rfl, hnone, journal, continuations, jobs, rfl, hrows, hfresh, hcontinuations,
      hjobs⟩

end Calls

end AgentCore.Journal
