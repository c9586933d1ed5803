import AgentCore.Foundation.Table
import AgentCore.Journal.Events

/-! The kernel's database. A table's rows are kept under its unique key; a store call is a
function of the whole database that answers with an error, and then nothing was written,
or with the new database. -/

namespace AgentCore.Journal

open Foundation Domain

structure OutboxRow where
  dispatchId : String
  invocationId : InvocationId
  runId : RunId
  sessionId : Option SessionId
  (operation argumentsJson idempotencyKey decisionId : String)
  status : OutboxDispatchStatus
  attempts : Nat
  availableAt : Timestamp
  lockedBy : Option String
  lockedUntil : Option Timestamp
  lastError : Option String
  (createdAt updatedAt : Timestamp)

inductive JobType
  | deliverEvent
  | scheduleContinuation
deriving DecidableEq

def JobType.asStr : JobType → String
  | deliverEvent => "deliver_event"
  | scheduleContinuation => "schedule_continuation"

structure WorkerJobRow where
  jobId : String
  jobType : JobType
  sourceEventId : EventId
  status : WorkerJobStatus
  attempts : Nat
  availableAt : Timestamp
  lockedBy : Option String
  lockedUntil : Option Timestamp
  lastError : Option String
  (createdAt updatedAt : Timestamp)
deriving DecidableEq

structure IngressDedupRow where
  (source externalEventId : String)
  eventId : EventId
  firstSeenAt : Timestamp
deriving DecidableEq

def IngressDedupRow.key (r : IngressDedupRow) : String × String := (r.source, r.externalEventId)

structure SessionContinuationRow where
  idempotencyKey : String
  sessionId : SessionId
  triggerRunId : RunId
  eventId : EventId
  nextRunId : RunId
  createdAt : Timestamp

structure Db where
  journal : JournalTable := .empty
  outbox : Table OutboxRow.invocationId := .empty
  runs : Table Run.id := .empty
  workerJobs : Table WorkerJobRow.jobId := .empty
  ingressDedup : Table IngressDedupRow.key := .empty
  sessions : Table Session.id := .empty
  continuations : Table SessionContinuationRow.triggerRunId := .empty

instance : Inhabited Db := ⟨{}⟩

namespace Db

variable [Platform] {stamp : Stamp}

def append (db : Db) (stamp : Stamp) (kind : JournalEventKind) (runId : Option RunId)
    (sessionId : Option SessionId) (correlationId : Option String) (payload : Json) :
    Except String Db := do
  let (_, journal) ← appendEventTx stamp kind runId sessionId correlationId payload db.journal
  return { db with journal }

lemma append_eq_ok {db db' : Db}
    (h : db.append stamp kind runId sessionId correlationId payload = .ok db') :
    ∃ journal : JournalTable, db' = { db with journal } ∧ journal.rows = db.journal.rows ++
        [newRow db.journal stamp kind.storageName runId sessionId correlationId payload.toText] ∧
      stamp.eventId ∉ db.journal.rows.map JournalRow.eventId := by
  obtain ⟨⟨e, journal⟩, happ, h⟩ := bind_eq_ok.mp h
  obtain ⟨hrows, hfresh⟩ := appendEventTx_eq_ok happ
  exact ⟨journal, (return_eq_ok.mp h).symm, hrows, hfresh⟩

lemma append_of_fresh (db : Db) (kind : JournalEventKind)
    (runId : Option RunId) (sessionId : Option SessionId) (correlationId : Option String)
    (payload : Json) (h : stamp.eventId ∉ db.journal.rows.map JournalRow.eventId) :
    ∃ db', db.append stamp kind runId sessionId correlationId payload = .ok db' := by
  obtain ⟨e, t, happ⟩ := appendEventTx_of_fresh h
  exact ⟨_, by rw [append, happ]; rfl⟩

end Db

end AgentCore.Journal
