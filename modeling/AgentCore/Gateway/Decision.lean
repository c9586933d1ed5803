import AgentCore.Journal.Approval
import AgentCore.Foundation.Pool

/-! Decisions on paused runs: approval, denial and the expiry sweep. Each is a check of the
run's status followed by commits of its own; every store call is one action. -/

namespace AgentCore.Gateway

open Foundation Domain Journal

/-- What one action takes from outside. A refused call ends the decision with its error. -/
structure DecisionInput where
  clock : Nat → Timestamp
  stamp : Stamp
  refused : Bool

inductive Decision
  | approve (runId : RunId)
  /-- The run was found awaiting approval. -/
  | approving (runId : RunId)
  | granting (approved : ApprovedInvocation) (sessionId : Option SessionId)
  | queueing (approved : ApprovedInvocation) (sessionId : Option SessionId)
  | resuming (runId : RunId)
  | deny (runId : RunId)
  | denying (runId : RunId)
  | refusing (runId : RunId) (operation : String) (sessionId : Option SessionId)
  | failing (runId : RunId)
  | sweep (ttlSecs : Nat)
  | expiring (ttlSecs : Nat) (now : Timestamp) (stale : List StaleApproval)
  | expired (ttlSecs : Nat) (now : Timestamp) (runId : RunId) (rest : List StaleApproval)
  | ended
deriving DecidableEq

def fieldStr (snapshot : Json) (key : String) : Option String :=
  (snapshot.get key).bind Json.asStr

def approvedOfRequest (runId : RunId) (snapshot : Json) : Except String ApprovedInvocation := do
  let invocationId ← (fieldStr snapshot "invocation_id").elim
    (.error "approval_request_missing_invocation_id") .ok
  let operation ← (fieldStr snapshot "operation").elim
    (.error "approval_request_missing_operation") .ok
  return {
    intent := {
      invocationId
      runId
      operation
      arguments := (snapshot.get "arguments").getD (.obj [])
      idempotencyKey := fieldStr snapshot "idempotency_key" }
    decisionId := (fieldStr snapshot "decision_id").getD "" }

lemma runId_of_approvedOfRequest (h : approvedOfRequest runId snapshot = .ok approved) :
    approved.intent.runId = runId := by
  obtain ⟨invocationId, -, h⟩ := bind_eq_ok.mp h
  obtain ⟨operation, -, h⟩ := bind_eq_ok.mp h
  rw [← return_eq_ok.mp h]

namespace Decision

variable [Platform]

def loadRequest (runId : RunId) (db : Db) : Decision :=
  match approvalRequestForRun runId db with
  | none => ended
  | some snapshot =>
    match approvedOfRequest runId snapshot with
    | .ok approved => granting approved (fieldStr snapshot "session_id")
    | .error _ => ended

def grant (x : DecisionInput) (approved : ApprovedInvocation) (sessionId : Option SessionId)
    (db : Db) : Decision × Db :=
  match db.append x.stamp .approvalGranted (some approved.intent.runId) sessionId
      (some approved.intent.invocationId)
      (.mkObj [("operation", .str approved.intent.operation)]) with
  | .ok db => (queueing approved sessionId, db)
  | .error _ => (ended, db)

def queue (x : DecisionInput) (approved : ApprovedInvocation) (sessionId : Option SessionId)
    (db : Db) : Decision × Db :=
  match queueOutboxDispatch approved sessionId (x.clock 0) x.stamp db with
  | .ok (_, db) => (resuming approved.intent.runId, db)
  | .error _ => (ended, db)

def loadDenied (runId : RunId) (db : Db) : Decision :=
  let snapshot := approvalRequestForRun runId db
  refusing runId ((snapshot.bind fun p => fieldStr p "operation").getD "")
    (snapshot.bind fun p => fieldStr p "session_id")

def refuse (x : DecisionInput) (runId : RunId) (operation : String)
    (sessionId : Option SessionId) (db : Db) : Decision × Db :=
  match db.append x.stamp .approvalDenied (some runId) sessionId none
      (.mkObj [("operation", .str operation)]) with
  | .ok db => (failing runId, db)
  | .error _ => (ended, db)

def expire (x : DecisionInput) (ttlSecs : Nat) (now : Timestamp) (stale : List StaleApproval)
    (db : Db) : Decision × Db :=
  match stale with
  | [] => (ended, db)
  | approval :: rest =>
    match db.append x.stamp .approvalExpired (some approval.runId) none none
        (.mkObj [("operation", .str approval.operation),
          ("requested_at", .str (Platform.rfc3339 approval.requestedAt)),
          ("expired_at", .str (Platform.rfc3339 now)), ("ttl_secs", .num (.int ttlSecs))]) with
    | .ok db => (expired ttlSecs now approval.runId rest, db)
    | .error _ => (ended, db)

def next (x : DecisionInput) (decision : Decision) (db : Db) : Decision × Db :=
  match decision with
  | approve runId =>
    (if runStatus runId db = some .awaitingApproval then approving runId else ended, db)
  | approving runId => (loadRequest runId db, db)
  | granting approved sessionId => grant x approved sessionId db
  | queueing approved sessionId => queue x approved sessionId db
  | resuming runId => (ended, setRunStatus runId .waitingDispatch (x.clock 0) db)
  | deny runId =>
    (if runStatus runId db = some .awaitingApproval then denying runId else ended, db)
  | denying runId => (loadDenied runId db, db)
  | refusing runId operation sessionId => refuse x runId operation sessionId db
  | failing runId => (ended, setRunStatus runId .failed (x.clock 0) db)
  | sweep ttlSecs =>
    (if ttlSecs = 0 then ended
      else expiring ttlSecs (x.clock 1) (staleApprovalsSince (x.clock 0) ttlSecs db), db)
  | expiring ttlSecs now stale => expire x ttlSecs now stale db
  | expired ttlSecs now runId rest =>
    (expiring ttlSecs now rest, setRunStatus runId .failed (x.clock 0) db)
  | ended => (ended, db)

def act (x : DecisionInput) (decision : Decision) (db : Db) : Decision × Db :=
  if x.refused then (ended, db) else decision.next x db

end Decision

def decisionInput (n : Nat) : DecisionInput where
  clock _ := n
  stamp := ⟨"event_" ++ toString n, n⟩
  refused := false

/-! ## The calls together -/

inductive DecisionCall
  | approveRun (runId : RunId)
  | denyRun (runId : RunId)
  | expireStaleApprovals (ttlSecs : Nat)

def DecisionCall.start : DecisionCall → Decision
  | approveRun runId => .approve runId
  | denyRun runId => .deny runId
  | expireStaleApprovals ttlSecs => .sweep ttlSecs

/-- What the rest of the kernel does beside the decisions: it sets statuses and records its
own facts, and a run asks for approval once. -/
inductive Beside
  | status (runId : RunId) (status : RunStatus) (now : Timestamp)
  | record (kind : JournalEventKind) (stamp : Stamp) (runId : Option RunId)
      (sessionId : Option SessionId) (correlationId : Option String) (payload : Json)

section Machine

variable [Platform]

def Beside.refused (kind : JournalEventKind) (runId : Option RunId) (db : Db) : Bool :=
  decide (kind ∈ decisionKinds) ||
    (decide (kind = .approvalRequested) &&
      runId.any fun r => !(runFacts [.approvalRequested] r db).isEmpty)

def Beside.apply (o : Beside) (db : Db) : Db :=
  match o with
  | status runId value now => setRunStatus runId value now db
  | record kind stamp runId sessionId correlationId payload =>
    if refused kind runId db then db
    else match db.append stamp kind runId sessionId correlationId payload with
      | .ok db => db
      | .error _ => db

def decisionMachine : Machine Db Decision DecisionInput DecisionCall Beside where
  start := DecisionCall.start
  act := Decision.act
  halt _ := .ended
  other := Beside.apply

end Machine

end AgentCore.Gateway
