import AgentCore.Domain.Digest
import AgentCore.Foundation.Run
import AgentCore.Foundation.Schema
import AgentCore.Foundation.Trim
import AgentCore.Journal.Db
import Mathlib.Data.List.MinMax

/-! Coding harness submissions: a message's attempts are claimed one after another, and a
claimed attempt is finished once. -/

namespace AgentCore.Journal

open Foundation Domain

def TASK_SUBMIT : String := "external.coding_task_submit"

inductive SubmissionStatus
  | running
  | succeeded
  | definitivelyRejected
  | outcomeUnknown
deriving DecidableEq

structure CodingTaskSubmissionRow where
  (attemptId sourceMessageId : String)
  attemptSequence : Nat
  (submissionCallKey requestDigest : String)
  invocationId : InvocationId
  originRunId : RunId
  originSessionId : SessionId
  status : SubmissionStatus
  (resultJson errorCode : Option String)
  (createdAt updatedAt : Timestamp)
deriving DecidableEq

def sqliteLength (s : String) : Nat := (s.toList.takeWhile (· ≠ '\x00')).length

def codingTaskSubmissions : Schema CodingTaskSubmissionRow where
  uniques := [⟨fun r => some r.attemptId⟩, ⟨fun r => some r.submissionCallKey⟩,
    ⟨fun r => some r.invocationId⟩, ⟨fun r => some (r.sourceMessageId, r.attemptSequence)⟩]
  check r := decide (0 < sqliteLength r.attemptId ∧ 0 < sqliteLength r.sourceMessageId ∧
    0 < r.attemptSequence ∧ 0 < sqliteLength r.submissionCallKey ∧
    sqliteLength r.requestDigest = 71 ∧ 0 < sqliteLength r.invocationId ∧
    0 < sqliteLength r.originRunId ∧ 0 < sqliteLength r.originSessionId)

structure CodingDb extends Db where
  submissions : SqlTable codingTaskSubmissions := .empty

inductive CodingTaskSubmissionClaim
  | claimed (attemptId : String) (invocationId : InvocationId)
  | inProgress (attemptId : String) (invocationId : InvocationId)
  | succeeded (invocationId : InvocationId) (result : Json)
  | definitivelyRejected (errorCode : String)

structure ClaimRequest where
  (sourceMessageId submissionCallKey requestDigest proposedAttemptId : String)
  proposedInvocationId : InvocationId
  runId : RunId
  sessionId : SessionId
  decisionId : String

section Calls

variable [Platform]

def checkClaim (q : ClaimRequest) : Except String Unit := do
  if trim q.sourceMessageId = "" then throw "MISSING_SOURCE_MESSAGE_ID"
  if trim q.submissionCallKey = "" ∨ trim q.proposedAttemptId = "" ∨ trim q.decisionId = "" then
    throw "MISSING_CODING_SUBMISSION_IDENTITY"
  let _ ← Sha256Digest.parse q.requestDigest
  return ()

/-- A replay of the trusted tool call never creates or executes another harness call. -/
def replayClaim (q : ClaimRequest) (row : CodingTaskSubmissionRow) :
    Except String CodingTaskSubmissionClaim :=
  if row.sourceMessageId ≠ q.sourceMessageId ∨ row.requestDigest ≠ q.requestDigest then
    .error "CODING_SUBMISSION_REPLAY_IDENTITY_CONFLICT"
  else
    match row.status with
    | .running => .ok (.inProgress row.attemptId row.invocationId)
    | .succeeded =>
      match row.resultJson with
      | none => .error "CODING_SUBMISSION_RESULT_MISSING"
      | some text =>
        match fromStr text with
        | none => .error "invalid result_json"
        | some result => .ok (.succeeded row.invocationId result)
    | .definitivelyRejected =>
      .ok (.definitivelyRejected (row.errorCode.getD "CODING_HARNESS_REJECTED"))
    | .outcomeUnknown => .error "CODING_SUBMISSION_OUTCOME_UNKNOWN"

def nextAttemptSequence : Option CodingTaskSubmissionRow → Except String Nat
  | none => .ok 1
  | some row =>
    match row.status with
    | .running => .error "CODING_TASK_ALREADY_IN_PROGRESS"
    | .succeeded => .error "CODING_SUBMISSION_ALREADY_SUCCEEDED"
    | .outcomeUnknown => .error "CODING_SUBMISSION_OUTCOME_UNKNOWN"
    | .definitivelyRejected => .ok (row.attemptSequence + 1)

def newAttempt (q : ClaimRequest) (sequence : Nat) (now : Timestamp) :
    CodingTaskSubmissionRow where
  attemptId := q.proposedAttemptId
  sourceMessageId := q.sourceMessageId
  attemptSequence := sequence
  submissionCallKey := q.submissionCallKey
  requestDigest := q.requestDigest
  invocationId := q.proposedInvocationId
  originRunId := q.runId
  originSessionId := q.sessionId
  status := .running
  resultJson := none
  errorCode := none
  createdAt := now
  updatedAt := now

def CodingDb.attempts (s : CodingDb) (sourceMessageId : String) : List CodingTaskSubmissionRow :=
  s.submissions.rows.filter fun r => r.sourceMessageId = sourceMessageId

def CodingDb.byCallKey (s : CodingDb) (key : String) : Option CodingTaskSubmissionRow :=
  s.submissions.rows.find? fun r => r.submissionCallKey = key

def claimCodingTaskSubmission (q : ClaimRequest) (now : Timestamp) (proposed approved : Stamp)
    (s : CodingDb) : Except String (CodingTaskSubmissionClaim × CodingDb) := do
  checkClaim q
  match s.byCallKey q.submissionCallKey with
  | some row =>
    let claim ← replayClaim q row
    return (claim, s)
  | none =>
    let sequence ← nextAttemptSequence ((s.attempts q.sourceMessageId).argmax (·.attemptSequence))
    match s.submissions.insert (newAttempt q sequence now) with
    | none => throw "constraint failed: coding_task_submissions"
    | some submissions =>
      let db ← s.toDb.append proposed .invocationProposed (some q.runId) (some q.sessionId)
        (some q.proposedInvocationId)
        (.mkObj [("attempt_id", .str q.proposedAttemptId),
          ("invocation_id", .str q.proposedInvocationId), ("operation", .str TASK_SUBMIT),
          ("idempotency_key", .str ("development-attempt:" ++ q.proposedAttemptId))])
      let db ← db.append approved .invocationApproved (some q.runId) (some q.sessionId)
        (some q.proposedInvocationId)
        (.mkObj [("attempt_id", .str q.proposedAttemptId),
          ("invocation_id", .str q.proposedInvocationId), ("operation", .str TASK_SUBMIT),
          ("decision_id", .str q.decisionId)])
      return (.claimed q.proposedAttemptId q.proposedInvocationId, ⟨db, submissions⟩)

inductive SubmissionOutcome
  | complete (result : Json)
  | reject (errorCode : String)
  | unknown

namespace SubmissionOutcome

def status : SubmissionOutcome → SubmissionStatus
  | complete _ => .succeeded
  | reject _ => .definitivelyRejected
  | unknown => .outcomeUnknown

def resultJson : SubmissionOutcome → Option String
  | complete result => some result.toText
  | reject _ => none
  | unknown => none

def errorCode : SubmissionOutcome → Option String
  | complete _ => none
  | reject code => some code
  | unknown => some "OUTCOME_UNKNOWN"

def kind : SubmissionOutcome → JournalEventKind
  | complete _ => .receiptReceived
  | reject _ => .receiptReceived
  | unknown => .codingSubmissionOutcomeUnknown

def payload (attemptId : String) (invocationId : InvocationId) : SubmissionOutcome → Json
  | complete result => .mkObj [("attempt_id", .str attemptId),
      ("invocation_id", .str invocationId), ("operation", .str TASK_SUBMIT),
      ("status", .str "Succeeded"), ("outcome", .str "succeeded"),
      ("acceptance_receipt_digest", (result.get "receipt_digest").getD .null)]
  | reject code => .mkObj [("attempt_id", .str attemptId),
      ("invocation_id", .str invocationId), ("operation", .str TASK_SUBMIT),
      ("status", .str "Failed"), ("outcome", .str "definitively_rejected"),
      ("error_code", .str code)]
  | unknown => .mkObj [("attempt_id", .str attemptId),
      ("invocation_id", .str invocationId), ("operation", .str TASK_SUBMIT),
      ("status", .str "Unknown"), ("outcome", .str "outcome_unknown")]

end SubmissionOutcome

structure FinishRequest where
  attemptId : String
  invocationId : InvocationId
  outcome : SubmissionOutcome

def FinishRequest.names (q : FinishRequest) (r : CodingTaskSubmissionRow) : Bool :=
  decide (r.attemptId = q.attemptId ∧ r.invocationId = q.invocationId)

def FinishRequest.open (q : FinishRequest) (r : CodingTaskSubmissionRow) : Bool :=
  q.names r && decide (r.status = .running)

def finishAttempt (o : SubmissionOutcome) (now : Timestamp) (r : CodingTaskSubmissionRow) :
    CodingTaskSubmissionRow :=
  { r with status := o.status, resultJson := o.resultJson, errorCode := o.errorCode, updatedAt := now }

def finishCodingTaskSubmission (q : FinishRequest) (now : Timestamp) (stamp : Stamp)
    (s : CodingDb) : Except String CodingDb :=
  match s.submissions.rows.find? q.names with
  | none => .error "Query returned no rows"
  | some row =>
    if row.status = q.outcome.status then
      if row.resultJson = q.outcome.resultJson ∧ row.errorCode = q.outcome.errorCode then .ok s
      else .error "CODING_SUBMISSION_FINISH_CONFLICT"
    else if row.status ≠ .running then .error "CODING_SUBMISSION_FINISH_CONFLICT"
    else do
      let db ← s.toDb.append stamp q.outcome.kind (some row.originRunId) (some row.originSessionId)
        (some q.invocationId) (q.outcome.payload q.attemptId q.invocationId)
      match s.submissions.update q.open (finishAttempt q.outcome now) with
      | none => throw "constraint failed: coding_task_submissions"
      | some submissions =>
        if s.submissions.count q.open ≠ 1 then throw "CODING_SUBMISSION_FINISH_CONFLICT"
        else return ⟨db, submissions⟩

end Calls

end AgentCore.Journal
