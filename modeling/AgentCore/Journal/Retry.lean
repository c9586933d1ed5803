import Mathlib.Algebra.Order.Ring.Cast
import AgentCore.Journal.Outbox
import AgentCore.Journal.Worker

/-! Retries: the policy, the wait before the next attempt, and the store calls that start a
queue row by hand, send it back for another attempt or give it up. -/

namespace AgentCore.Journal

open Foundation Domain

structure RetryPolicy where
  maxWorkerAttempts : Int := 3
  maxOutboxAttempts : Int := 3
  baseRetryDelayMs : Int := 1000
  maxRetryDelayMs : Int := 30000
  leaseTimeoutMs : Int := 30000

/-- A 64-bit word of the two's complement. -/
def asU64 (i : Int) : Nat := (i % 2 ^ 64).toNat

def asI64 (n : Nat) : Int := if n < 2 ^ 63 then n else n - 2 ^ 64

/-- Doubling from the base, saturating in 64 bits; a shift of 64 places or more is the
largest word. -/
def nextRetryDelayMs (attempts baseMs maxMs : Int) : Int :=
  let exponent := (if attempts > 0 then attempts - 1 else 0) % 2 ^ 32
  let shift := if exponent < 64 then 2 ^ exponent.toNat else 2 ^ 64 - 1
  let delay := min (asU64 baseMs * min shift 100000) (2 ^ 64 - 1)
  asI64 (min delay (asU64 maxMs))

def retryDelay (attempts baseMs maxMs : Int) : Int :=
  min maxMs (baseMs * min (2 ^ (attempts - 1).toNat) 100000)

lemma asU64_of_nonneg (h : 0 ≤ i) (h' : i < 2 ^ 63) : (asU64 i : Int) = i := by
  rw [asU64, Int.toNat_of_nonneg (Int.emod_nonneg i (by decide))]
  exact Int.emod_eq_of_lt h (by omega)

lemma nextRetryDelayMs_eq (ha : 1 ≤ attempts) (ha' : attempts ≤ 2 ^ 31) (hbase : 0 ≤ baseMs)
    (hbase' : baseMs < 2 ^ 63) (hmax : 0 ≤ maxMs) (hmax' : maxMs < 2 ^ 63) :
    nextRetryDelayMs attempts baseMs maxMs = retryDelay attempts baseMs maxMs := by
  obtain ⟨e, rfl⟩ : ∃ e : Nat, attempts = e + 1 := ⟨(attempts - 1).toNat, by omega⟩
  have hexponent : (if (e : Int) + 1 > 0 then (e : Int) + 1 - 1 else 0) % 2 ^ 32 = e := by
    rw [if_pos (by omega), Int.add_sub_cancel]
    exact Int.emod_eq_of_lt (by omega) (by omega)
  -- from the sixty-fourth doubling on both shifts are above the cap
  have hshift : min (if (e : Int) < 64 then 2 ^ (e : Int).toNat else 2 ^ 64 - 1) 100000 =
      min (2 ^ e) 100000 := by
    rw [Int.toNat_natCast]
    split_ifs with hsmall
    · rfl
    · have hpow : 2 ^ 64 ≤ 2 ^ e := Nat.pow_le_pow_right (by decide) (by omega)
      omega
  have hb := asU64_of_nonneg hbase hbase'
  have hm := asU64_of_nonneg hmax hmax'
  have hword : min (min (asU64 baseMs * min (2 ^ e) 100000) (2 ^ 64 - 1)) (asU64 maxMs) =
      min (asU64 maxMs) (asU64 baseMs * min (2 ^ e) 100000) := by omega
  simp only [nextRetryDelayMs, hexponent, hshift, hword]
  rw [asI64, if_pos (by omega), retryDelay, Int.add_sub_cancel, Int.toNat_natCast]
  push_cast
  rw [hb, hm]

lemma retryDelay_mono (hbase : 0 ≤ baseMs) (h : a ≤ a') :
    retryDelay a baseMs maxMs ≤ retryDelay a' baseMs maxMs := by
  have hpow : (2 : Int) ^ (a - 1).toNat ≤ 2 ^ (a' - 1).toNat :=
    pow_le_pow_right₀ (by decide) (by omega)
  exact min_le_min_left _ (mul_le_mul_of_nonneg_left (min_le_min_right _ hpow) hbase)

/-- The delay is the exact one for all attempts that can be counted. -/
theorem next_retry_delay_exact (attempts baseMs maxMs : Int) (ha : 1 ≤ attempts ∧ attempts ≤ 2 ^ 31)
    (hbase : 0 ≤ baseMs ∧ baseMs < 2 ^ 63) (hmax : 0 ≤ maxMs ∧ maxMs < 2 ^ 63) :
    nextRetryDelayMs attempts baseMs maxMs = retryDelay attempts baseMs maxMs ∧
      0 ≤ nextRetryDelayMs attempts baseMs maxMs ∧
      nextRetryDelayMs attempts baseMs maxMs ≤ maxMs ∧
      ∀ later, attempts ≤ later → later ≤ 2 ^ 31 →
        nextRetryDelayMs attempts baseMs maxMs ≤ nextRetryDelayMs later baseMs maxMs := by
  have heq := nextRetryDelayMs_eq ha.1 ha.2 hbase.1 hbase.2 hmax.1 hmax.2
  rw [heq]
  refine ⟨rfl, ?_, min_le_left _ _, fun later hlater hcount => ?_⟩
  · exact le_min hmax.1 (Int.mul_nonneg hbase.1 (le_min (pow_nonneg (by decide) _) (by decide)))
  · rw [nextRetryDelayMs_eq (ha.1.trans hlater) hcount hbase.1 hbase.2 hmax.1 hmax.2]
    exact retryDelay_mono hbase.1 hlater

theorem next_retry_delay_exact_65 : nextRetryDelayMs 65 (2 ^ 62) (2 ^ 63 - 1) = 2 ^ 63 - 1 :=
  (next_retry_delay_exact 65 (2 ^ 62) (2 ^ 63 - 1) (by decide) (by decide) (by decide)).1.trans
    (by decide)

def afterMs (now : Timestamp) (ms : Int) : Timestamp := (now + ms * 10 ^ 6).toNat

def RetryPolicy.availableAt (policy : RetryPolicy) (now : Timestamp) (attempts : Nat) : Timestamp :=
  afterMs now (nextRetryDelayMs (attempts + 1) policy.baseRetryDelayMs policy.maxRetryDelayMs)

section Calls

variable [Platform]

/-! ## Worker jobs -/

def startWorkerJob (sourceEventId : EventId) (now : Timestamp) (stamp : Stamp) (db : Db) :
    Except String Db :=
  let guard := fun r : WorkerJobRow =>
    decide (r.jobId = workerJobId sourceEventId ∧ r.status ≠ .succeeded)
  if 0 < db.workerJobs.count guard then
    let jobs := db.workerJobs.update guard
      (fun r => { r with
        status := .running
        attempts := r.attempts + 1
        updatedAt := now }) fun _ => rfl
    appendWorkerEventTx stamp .workerJobStarted sourceEventId
      [("status", .str WorkerJobStatus.running.asStr), ("attempted_at", .str (Platform.rfc3339 now))]
      { db with workerJobs := jobs }
  else .ok db

def markWorkerDead (sourceEventId : EventId) (error : String) (now : Timestamp) (stamp : Stamp)
    (db : Db) : Except String Db := do
  let db ← appendWorkerEventTx stamp .workerJobDead sourceEventId
    [("status", .str WorkerJobStatus.dead.asStr), ("error", .str error)] db
  return { db with
    workerJobs := db.workerJobs.update (fun r => decide (r.jobId = workerJobId sourceEventId))
      (fun r => { r with
        status := .dead
        lastError := some error
        lockedBy := none
        lockedUntil := none
        updatedAt := now }) fun _ => rfl }

def workerAttempts (sourceEventId : EventId) (db : Db) : Nat :=
  ((db.workerJobs.find? (workerJobId sourceEventId)).map WorkerJobRow.attempts).getD 0

/-- A job out of attempts is given up in a transaction of its own, at its own instant. -/
def markWorkerRetryableFailed (sourceEventId : EventId) (error : String) (policy : RetryPolicy)
    (now deadNow : Timestamp) (stamp : Stamp) (db : Db) : Except String Db :=
  let attempts := workerAttempts sourceEventId db
  if policy.maxWorkerAttempts ≤ attempts then markWorkerDead sourceEventId error deadNow stamp db
  else do
    let availableAt := policy.availableAt now attempts
    let db ← appendWorkerEventTx stamp .workerJobFailed sourceEventId
      [("status", .str WorkerJobStatus.retryableFailed.asStr), ("error", .str error),
        ("retryable", .bool true), ("next_available_at", .str (Platform.rfc3339 availableAt)),
        ("attempts", .num (.int attempts))] db
    return { db with
      workerJobs := db.workerJobs.update (fun r => decide (r.jobId = workerJobId sourceEventId))
        (fun r => { r with
          status := .retryableFailed
          lastError := some error
          lockedBy := none
          lockedUntil := none
          availableAt
          updatedAt := now }) fun _ => rfl }

/-! ## Outbox rows -/

def startOutboxDispatch (approved : ApprovedInvocation) (sessionId : Option SessionId)
    (now : Timestamp) (stamp : Stamp) (db : Db) : Except String Db :=
  let guard := fun r : OutboxRow =>
    decide (r.invocationId = approved.intent.invocationId ∧ r.status = .pending)
  if db.outbox.count guard = 0 then .error "outbox_dispatch_not_startable"
  else
    let outbox := db.outbox.update guard
      (fun r => { r with
        status := .dispatching
        attempts := r.attempts + 1
        updatedAt := now }) fun _ => rfl
    ({ db with outbox } : Db).append stamp .dispatchStarted
      (some approved.intent.runId) sessionId (some approved.intent.invocationId)
      (.mkObj [("operation", .str approved.intent.operation)])

def markOutboxDead (invocationId : InvocationId) (runId : RunId) (sessionId : Option SessionId)
    (error : String) (now : Timestamp) (stamp : Stamp) (db : Db) : Except String Db := do
  let db ← db.append stamp .outboxDispatchDead (some runId) sessionId (some invocationId)
    (.mkObj [("invocation_id", .str invocationId), ("reason_category", .str error),
      ("retryable", .bool false)])
  return { db with
    outbox := db.outbox.update (fun r => decide (r.invocationId = invocationId))
      (fun r => { r with
        status := .dead
        lastError := some error
        lockedBy := none
        lockedUntil := none
        updatedAt := now }) fun _ => rfl }

def outboxAttempts (invocationId : InvocationId) (db : Db) : Nat :=
  ((db.outbox.find? invocationId).map OutboxRow.attempts).getD 0

def markOutboxRetryableFailed (invocationId : InvocationId) (runId : RunId)
    (sessionId : Option SessionId) (error : String) (policy : RetryPolicy)
    (now deadNow : Timestamp) (stamp : Stamp) (db : Db) : Except String Db :=
  let attempts := outboxAttempts invocationId db
  if policy.maxOutboxAttempts ≤ attempts then
    markOutboxDead invocationId runId sessionId error deadNow stamp db
  else do
    let availableAt := policy.availableAt now attempts
    let db ← db.append stamp .outboxDispatchFailed (some runId) sessionId (some invocationId)
      (.mkObj [("invocation_id", .str invocationId), ("reason_category", .str error),
        ("retryable", .bool true), ("next_available_at", .str (Platform.rfc3339 availableAt)),
        ("attempts", .num (.int attempts))])
    return { db with
      outbox := db.outbox.update (fun r => decide (r.invocationId = invocationId))
        (fun r => { r with
          status := .retryableFailed
          lastError := some error
          lockedBy := none
          lockedUntil := none
          availableAt
          updatedAt := now }) fun _ => rfl }

end Calls

end AgentCore.Journal
