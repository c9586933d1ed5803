import AgentCore.Foundation.Pool
import AgentCore.Journal.Runs

/-! Session continuations: the gateway's request, the worker's delivery of the scheduled
job, and ordinary deliveries beside them. Every store call is one action of a thread. -/

namespace AgentCore.Runtime.Continuation

open Foundation Domain Journal

structure SessionContinuationRequest where
  triggerRunId : RunId
  expectedSessionId : Option SessionId
  idempotencyKey : String

/-- What one action takes from outside. `refused` is a store call, a registry snapshot or a
budget hook that fails; `callsModel` tells what a running delivery does next. -/
structure Input where
  now : Timestamp
  stamp : Stamp
  requestId : String
  nextRunId : RunId
  eventId : EventId
  (refused callsModel : Bool)

/-! ## Checks -/

def checkRequest (request : SessionContinuationRequest) (trigger : Option Run) :
    Except String Run :=
  if request.idempotencyKey ≠ "continuation:" ++ request.triggerRunId then
    .error "idempotency_key_mismatch"
  else match trigger with
    | none => .error "trigger_run_not_found"
    | some trigger =>
      if ∃ expected ∈ request.expectedSessionId, trigger.sessionId ≠ expected then
        .error "trigger_run_session_mismatch"
      else .ok trigger

def sameTransport : PrincipalSource → ChannelKind → Bool
  | .cli, .cli => true
  | .feishu, .feishu => true
  | _, _ => false

def checkGovernance (trigger : Run) (session : Session) : Except String Unit :=
  if trigger.sessionId ≠ session.id then .error "continuation_session_mismatch"
  else if trigger.agentId ≠ session.agentId then .error "continuation_agent_mismatch"
  else if sameTransport trigger.principal.source session.channel = false then
    .error "continuation_principal_mismatch"
  else .ok ()

def checkSession (trigger : Run) : Option Session → Except String Session
  | none => .error "session_not_found"
  | some session => (checkGovernance trigger session).map fun _ => session

def createRunFrozen (session : Session) (trigger : Run) (eventId : EventId) (nextRunId : RunId)
    (now : Timestamp) : Run where
  id := nextRunId
  sessionId := session.id
  agentId := trigger.agentId
  triggerEventId := eventId
  principal := trigger.principal
  parentRunId := some trigger.id
  delegatedBy := none
  status := .running
  createdAt := now
  updatedAt := now
  registrySnapshotId := trigger.registrySnapshotId

def runConflicts (existing trigger : Run) (session : Session) : Bool :=
  decide (existing.sessionId ≠ session.id ∨ existing.agentId ≠ session.agentId ∨
    existing.registrySnapshotId ≠ trigger.registrySnapshotId)

/-! ## Threads -/

inductive Phase
  /-- A request: before the trigger run is read, before its session is read, before the
  acceptance, before the ledger is read for a duplicate, and answered. -/
  | request (request : SessionContinuationRequest)
  | checked (request : SessionContinuationRequest) (trigger : Run)
  | accepting (request : SessionContinuationRequest) (trigger : Run) (session : Session)
  | duplicate (triggerRunId : RunId)
  | answered (triggerRunId : RunId) (nextRunId : Option RunId)
  /-- A delivery attempt of a continuation job. -/
  | idle
  | leased (eventId : EventId)
  | requested (triggerRunId : RunId)
  | allocated (triggerRunId nextRunId : RunId)
  | loaded (trigger : Run) (nextRunId : RunId)
  | scheduling (trigger : Run) (session : Session) (nextRunId : RunId)
  | existing (run : Run) (session : Session)
  | stranded (run : Run) (session : Session) (category reason : String)
  | reporting (run : Run) (session : Session) (category reason : String)
  | creating (trigger : Run) (session : Session) (nextRunId : RunId)
  /-- An ordinary delivery inserts its run and records the start in two commits. -/
  | inserting (run : Run)
  | inserted (run : Run)
  /-- A delivery of the run; whether it has called the model. -/
  | running (runId : RunId) (called : Bool)
  /-- Over, with the run it called the model for. -/
  | ended (called : Option RunId)

namespace Phase

def halt : Phase → Phase
  | answered triggerRunId nextRunId => answered triggerRunId nextRunId
  | running runId true => ended (some runId)
  | ended called => ended called
  | _ => ended none

variable [Platform]

def lease (x : Input) (db : Db) : Phase × Db :=
  match leaseNextWorkerJob x.now x.stamp db with
  | .ok (some (.scheduleContinuation, eventId), db) => (leased eventId, db)
  | .ok (_, db) => (idle, db)
  | .error _ => (idle, db)

def accept (x : Input) (request : SessionContinuationRequest) (trigger : Run) (session : Session)
    (db : Db) : Phase × Db :=
  match acceptSessionContinuation x.requestId session.id trigger.id "ipc:agent-loop-harness"
      request.idempotencyKey x.nextRunId x.now x.stamp db with
  | .error _ => (ended none, db)
  | .ok (some (_, nextRunId), db) => (answered request.triggerRunId (some nextRunId), db)
  | .ok (none, db) => (duplicate request.triggerRunId, db)

/-- An empty reference in the request's payload reads as a missing one. -/
def requestTrigger (event : JournalEvent) : RunId :=
  ((event.payload.get "trigger_run_id").bind Json.asStr).getD ""

/-- The existing run of an earlier attempt is never driven again. -/
def schedule (trigger : Run) (session : Session) (nextRunId : RunId) (db : Db) : Phase :=
  if trigger.registrySnapshotId = "" then ended none
  else match checkGovernance trigger session with
    | .error _ => ended none
    | .ok () =>
      match runById nextRunId db with
      | none => creating trigger session nextRunId
      | some run => if runConflicts run trigger session then ended none else existing run session

def inspect (run : Run) (session : Session) (db : Db) : Phase :=
  if run.status = .completed ∨ run.status = .failed then ended none
  else if runHasStarted run.id db then
    stranded run session "continuation_run_stranded" "RunStarted exists but no terminal state"
  else stranded run session "continuation_run_partial" "Run row exists but RunStarted missing"

def report (x : Input) (run : Run) (session : Session) (category reason : String) (db : Db) : Db :=
  commit db (db.append x.stamp .runFailed (some run.id) (some session.id) none
    (.mkObj [("run_id", .str run.id), ("error_category", .str category), ("reason", .str reason)]))

def create (x : Input) (trigger : Run) (session : Session) (nextRunId : RunId) (db : Db) :
    Phase × Db :=
  match insertRunAndStart (createRunFrozen session trigger x.eventId nextRunId x.now) session.id
      x.eventId trigger.id x.stamp db with
  | .ok db => (running nextRunId false, db)
  | .error _ => (ended none, db)

def insertOrdinary (run : Run) (db : Db) : Phase × Db :=
  match insertRun run db with
  | .ok db => (inserted run, db)
  | .error _ => (ended none, db)

def startOrdinary (x : Input) (run : Run) (db : Db) : Phase × Db :=
  match db.append x.stamp .runStarted (some run.id) (some run.sessionId)
      (some run.triggerEventId)
      (.mkObj [("run_id", .str run.id), ("trigger_event_id", .str run.triggerEventId),
        ("principal_id", .str run.principal.principalId)]) with
  | .ok db => (running run.id false, db)
  | .error _ => (ended none, db)

def next (x : Input) (phase : Phase) (db : Db) : Phase × Db :=
  match phase with
  | request r =>
    match checkRequest r (runById r.triggerRunId db) with
    | .ok trigger => (checked r trigger, db)
    | .error _ => (ended none, db)
  | checked r trigger =>
    match checkSession trigger (sessionById trigger.sessionId db) with
    | .ok session => (accepting r trigger session, db)
    | .error _ => (ended none, db)
  | accepting r trigger session => accept x r trigger session db
  | duplicate triggerRunId =>
    (answered triggerRunId ((continuationByTriggerRun triggerRunId db).map Prod.snd), db)
  | answered triggerRunId nextRunId => (answered triggerRunId nextRunId, db)
  | idle => lease x db
  | leased eventId =>
    match continuationRequestByEventId eventId db with
    | some event =>
      (if requestTrigger event = "" then ended none else requested (requestTrigger event), db)
    | none => (ended none, db)
  | requested triggerRunId =>
    match continuationByTriggerRun triggerRunId db with
    | some (_, nextRunId) =>
      (if nextRunId = "" then ended none else allocated triggerRunId nextRunId, db)
    | none => (ended none, db)
  | allocated triggerRunId nextRunId =>
    match runById triggerRunId db with
    | some trigger => (loaded trigger nextRunId, db)
    | none => (ended none, db)
  | loaded trigger nextRunId =>
    match sessionById trigger.sessionId db with
    | some session => (scheduling trigger session nextRunId, db)
    | none => (ended none, db)
  | scheduling trigger session nextRunId => (schedule trigger session nextRunId db, db)
  | existing run session => (inspect run session db, db)
  | stranded run session category reason =>
    (reporting run session category reason, setRunStatus run.id .failed x.now db)
  | reporting run session category reason => (ended none, report x run session category reason db)
  | creating trigger session nextRunId => create x trigger session nextRunId db
  | inserting run => insertOrdinary run db
  | inserted run => startOrdinary x run db
  | running runId called =>
    if x.callsModel then (running runId true, db) else ((running runId called).halt, db)
  | ended called => (ended called, db)

def act (x : Input) (phase : Phase) (db : Db) : Phase × Db :=
  if x.refused then (phase.halt, db) else phase.next x db

end Phase

/-! ## The system -/

/-- A request comes in, a worker takes up the next job, or an ordinary delivery begins,
whose run has no parent. -/
inductive Start
  | request (request : SessionContinuationRequest)
  | worker
  | delivery (run : Run)

def Start.phase : Start → Phase
  | request r => .request r
  | worker => .idle
  | delivery run => .inserting { run with parentRunId := none }

inductive Other
  | status (runId : RunId) (status : RunStatus) (now : Timestamp)
  | session (session : Session)
  | record (kind : { k : JournalEventKind // k ≠ .runStarted ∧ k ≠ .sessionContinuationRequested })
      (stamp : Stamp) (runId : Option RunId) (sessionId : Option SessionId)
      (correlationId : Option String) (payload : Json)
  | enqueue (eventId : EventId) (now : Timestamp) (stamp : Stamp)
  | succeed (eventId : EventId) (now : Timestamp) (stamp : Stamp)
  | fail (eventId : EventId) (category : String) (now : Timestamp) (stamp : Stamp)

section System

variable [Platform]

def Other.apply (db : Db) : Other → Db
  | status runId value now => setRunStatus runId value now db
  | session row => commit db (insertSession row db)
  | record kind stamp runId sessionId correlationId payload =>
    commit db (db.append stamp kind runId sessionId correlationId payload)
  | enqueue eventId now stamp => commit db ((enqueueWorkerJob eventId now stamp db).map Prod.snd)
  | succeed eventId now stamp => commit db (succeedWorkerJob eventId now stamp db)
  | fail eventId category now stamp => commit db (failWorkerJob eventId category now stamp db)

def machine : Machine Db Phase Input Start Other where
  start := Start.phase
  act := Phase.act
  halt := .halt
  other o db := o.apply db

end System

end AgentCore.Runtime.Continuation
