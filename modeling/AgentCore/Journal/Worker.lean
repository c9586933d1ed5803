import AgentCore.Domain.Ingress
import AgentCore.Journal.Db

/-! Worker jobs: the reservation of an ingress, the transaction that accepts it together
with its job, the lease of the next job, and the reads that startup recovery makes. -/

namespace AgentCore.Journal

open Foundation Domain List Table

variable {source externalEventId : String} {eventId : EventId} {now : Timestamp} {db : Db}
  {stamp : Stamp} {stamps : Nat → Stamp}

def workerJobId (sourceEventId : EventId) : String := "job:deliver:" ++ sourceEventId

/-- `INSERT OR IGNORE INTO ingress_dedup`; the answer tells whether a row was written. -/
def reserveIngress (source externalEventId : String) (eventId : EventId) (now : Timestamp)
    (db : Db) : Bool × Db :=
  let (rows, changed) := db.ingressDedup.insertOrIgnore ⟨source, externalEventId, eventId, now⟩
  (changed == 1, { db with ingressDedup := rows })

def newJob (jobType : JobType) (sourceEventId : EventId) (now : Timestamp) : WorkerJobRow where
  jobId := workerJobId sourceEventId
  jobType
  sourceEventId
  status := .queued
  attempts := 0
  availableAt := now
  lockedBy := none
  lockedUntil := none
  lastError := none
  createdAt := now
  updatedAt := now

lemma reserveIngress_fresh
    (h : reserveIngress source externalEventId eventId now db = (true, db')) :
    db.ingressDedup.find? (source, externalEventId) = none ∧
      ∃ rows, db' = { db with ingressDedup := rows } ∧
        rows.rows = db.ingressDedup.rows ++ [⟨source, externalEventId, eventId, now⟩] := by
  by_cases habsent : db.ingressDedup.find? (source, externalEventId) = none
  · obtain ⟨hchanged, hrows⟩ := insertOrIgnore_changed
      (r := (⟨source, externalEventId, eventId, now⟩ : IngressDedupRow)) habsent
    exact ⟨habsent, _, (Prod.mk.inj h).2.symm, hrows⟩
  · have hignored := insertOrIgnore_ignored
      (r := (⟨source, externalEventId, eventId, now⟩ : IngressDedupRow)) habsent
    simp [reserveIngress, hignored] at h

lemma reserveIngress_refused
    (h : reserveIngress source externalEventId eventId now db = (false, db')) :
    db' = db ∧ db.ingressDedup.find? (source, externalEventId) ≠ none := by
  by_cases habsent : db.ingressDedup.find? (source, externalEventId) = none
  · obtain ⟨hchanged, -⟩ := insertOrIgnore_changed
      (r := (⟨source, externalEventId, eventId, now⟩ : IngressDedupRow)) habsent
    simp [reserveIngress, hchanged] at h
  · have hignored := insertOrIgnore_ignored
      (r := (⟨source, externalEventId, eventId, now⟩ : IngressDedupRow)) habsent
    refine ⟨?_, habsent⟩
    rw [reserveIngress, hignored] at h
    exact (Prod.mk.inj h).2.symm

section Calls

variable [Platform]

/-- The extra fields replace the fixed ones of the same name. -/
def appendWorkerEventTx (stamp : Stamp) (kind : JournalEventKind) (sourceEventId : EventId)
    (extra : List (String × Json)) (db : Db) : Except String Db :=
  db.append stamp kind none none (some (workerJobId sourceEventId))
    (.mkObj ([("job_id", .str (workerJobId sourceEventId)),
      ("job_type", .str JobType.deliverEvent.asStr),
      ("source_event_id", .str sourceEventId)] ++ extra))

def insertDeliverJob (sourceEventId : EventId) (now : Timestamp) (stamp : Stamp) (db : Db) :
    Except String Db :=
  let inserted := db.workerJobs.insertOrIgnore (newJob .deliverEvent sourceEventId now)
  if inserted.2 = 1 then
    appendWorkerEventTx stamp .workerJobQueued sourceEventId
      [("status", .str WorkerJobStatus.queued.asStr)] { db with workerJobs := inserted.1 }
  else .ok { db with workerJobs := inserted.1 }

def acceptIngressWithWorkerJob (event : ValidatedEvent) (payload : Json) (now : Timestamp)
    (stamps : Nat → Stamp) (db : Db) : Except String (String × Db) := do
  let db ← db.append (stamps 0) .ingressAccepted none none (some event.dedupeKey) payload
  let db ← insertDeliverJob event.eventId now (stamps 1) db
  return (workerJobId event.eventId, db)

def enqueueWorkerJob (sourceEventId : EventId) (now : Timestamp) (stamp : Stamp) (db : Db) :
    Except String (String × Db) := do
  let db ← insertDeliverJob sourceEventId now stamp db
  return (workerJobId sourceEventId, db)

def OnlyQueued (rows : List JournalRow) : Prop :=
  ∀ r ∈ rows, r.kind = JournalEventKind.workerJobQueued.storageName

lemma insertDeliverJob_eq_ok (h : insertDeliverJob sourceEventId now stamp db = .ok db') :
    ∃ journal tail, db' = { db with
        journal
        workerJobs := (db.workerJobs.insertOrIgnore (newJob .deliverEvent sourceEventId now)).1 } ∧
      journal.rows = db.journal.rows ++ tail ∧ OnlyQueued tail := by
  simp only [insertDeliverJob] at h
  split at h
  · obtain ⟨journal, rfl, hrows, -⟩ := Db.append_eq_ok h
    refine ⟨journal, _, rfl, hrows, ?_⟩
    intro r hr
    obtain rfl := mem_singleton.mp hr
    rfl
  · cases h
    exact ⟨db.journal, [], rfl, by simp, by simp [OnlyQueued]⟩

lemma acceptIngressWithWorkerJob_eq_ok
    (h : acceptIngressWithWorkerJob event payload now stamps db = .ok (jobId, db')) :
    ∃ journal tail, db' = { db with
        journal
        workerJobs := (db.workerJobs.insertOrIgnore (newJob .deliverEvent event.eventId now)).1 } ∧
      journal.rows = db.journal.rows ++
        newRow db.journal (stamps 0) JournalEventKind.ingressAccepted.storageName none none
          (some event.dedupeKey) payload.toText :: tail ∧ OnlyQueued tail := by
  obtain ⟨db1, happ, h⟩ := bind_eq_ok.mp h
  obtain ⟨db2, hjob, ⟨⟩⟩ := bind_eq_ok.mp h
  obtain ⟨journal1, rfl, hrows1, -⟩ := Db.append_eq_ok happ
  obtain ⟨journal2, tail, rfl, hrows2, htail⟩ := insertDeliverJob_eq_ok hjob
  exact ⟨journal2, tail, rfl, by rw [hrows2, hrows1, append_assoc]; rfl, htail⟩

lemma acceptIngressWithWorkerJob_of_fresh (event : ValidatedEvent) (payload : Json)
    (now : Timestamp) (db : Db) (h0 : (stamps 0).eventId ∉ db.journal.rows.map JournalRow.eventId)
    (h1 : (stamps 1).eventId ∉ db.journal.rows.map JournalRow.eventId)
    (hne : (stamps 1).eventId ≠ (stamps 0).eventId) :
    ∃ jobId db', acceptIngressWithWorkerJob event payload now stamps db = .ok (jobId, db') := by
  obtain ⟨db1, happ⟩ := db.append_of_fresh .ingressAccepted none none (some event.dedupeKey) payload h0
  have hfresh : (stamps 1).eventId ∉ db1.journal.rows.map JournalRow.eventId := by
    obtain ⟨journal, rfl, hrows, -⟩ := Db.append_eq_ok happ
    simp only [hrows, map_append, mem_append, map_cons, map_nil,
      mem_singleton, not_or]
    exact ⟨h1, hne⟩
  obtain ⟨db2, hjob⟩ : ∃ db2, insertDeliverJob event.eventId now (stamps 1) db1 = .ok db2 := by
    simp only [insertDeliverJob]
    split
    · exact Db.append_of_fresh _ _ _ _ _ _ hfresh
    · exact ⟨_, rfl⟩
  exact ⟨_, db2, by rw [acceptIngressWithWorkerJob, happ]; simp only [bind, Except.bind, hjob]; rfl⟩

/-! ## Leasing -/

def jobReady (now : Timestamp) (r : WorkerJobRow) : Bool :=
  decide (r.status = .queued ∨ (r.status = .retryableFailed ∧ r.availableAt ≤ now) ∨
    (r.status = .running ∧ ∀ t ∈ r.lockedUntil, t ≤ now))

def jobBefore (r s : WorkerJobRow) : Bool :=
  decide (r.availableAt < s.availableAt ∨
    (r.availableAt = s.availableAt ∧ r.createdAt < s.createdAt))

def lockJob (now : Timestamp) (r : WorkerJobRow) : WorkerJobRow :=
  { r with
    status := .running
    attempts := r.attempts + 1
    lockedBy := some "kernel-worker"
    lockedUntil := some (now + minutes 5)
    updatedAt := now }

/-- The oldest ready job is marked running for five minutes; a job whose lock ran out is
ready again. -/
def leaseNextWorkerJob (now : Timestamp) (stamp : Stamp) (db : Db) :
    Except String (Option (JobType × EventId) × Db) :=
  match db.workerJobs.selectFirst (fun r => decide (r.availableAt ≤ now) && jobReady now r)
      jobBefore with
  | none => .ok (none, db)
  | some job =>
    let guard := fun r : WorkerJobRow => decide (r.jobId = job.jobId) && jobReady now r
    if db.workerJobs.count guard = 0 then .ok (none, db)
    else do
      let jobs := db.workerJobs.update guard (lockJob now) fun _ => rfl
      let db ← ({ db with workerJobs := jobs }).append stamp .workerJobStarted none none
        (some job.jobId)
        (.mkObj [("job_id", .str job.jobId), ("job_type", .str job.jobType.asStr),
          ("source_event_id", .str job.sourceEventId),
          ("status", .str WorkerJobStatus.running.asStr),
          ("attempted_at", .str (Platform.rfc3339 now)),
          ("locked_until", .str (Platform.rfc3339 (now + minutes 5)))])
      return (some (job.jobType, job.sourceEventId), db)

lemma leaseNextWorkerJob_eq_ok (h : leaseNextWorkerJob now stamp db = .ok (leased, db')) :
    (leased = none ∧ db' = db) ∨
      ∃ job ∈ db.workerJobs, job.availableAt ≤ now ∧ jobReady now job = true ∧
        leased = some (job.jobType, job.sourceEventId) ∧
        ∃ payload, ({ db with
              workerJobs := db.workerJobs.update
                (fun r => decide (r.jobId = job.jobId) && jobReady now r) (lockJob now)
                fun _ => rfl } : Db).append
            stamp .workerJobStarted none none (some job.jobId) payload = .ok db' := by
  unfold leaseNextWorkerJob at h
  split at h
  · cases h
    exact .inl ⟨rfl, rfl⟩
  · next job hjob =>
    simp only at h
    split at h
    · cases h
      exact .inl ⟨rfl, rfl⟩
    · obtain ⟨db₁, happ, ⟨⟩⟩ := bind_eq_ok.mp h
      obtain ⟨hmem, hready⟩ := selectFirst_eq_some hjob
      rw [Bool.and_eq_true, decide_eq_true_iff] at hready
      exact .inr ⟨job, hmem, hready.1, hready.2, rfl, _, happ⟩

/-- The last write of a delivery. A job that succeeded is not touched again. -/
def settleWorkerJob (sourceEventId : EventId) (status : WorkerJobStatus)
    (kind : JournalEventKind) (errorCategory : String) (extra : List (String × Json))
    (now : Timestamp) (stamp : Stamp) (db : Db) : Except String Db :=
  let guard := fun r : WorkerJobRow =>
    decide (r.jobId = workerJobId sourceEventId ∧ r.status ≠ .succeeded)
  if 0 < db.workerJobs.count guard then
    let jobs := db.workerJobs.update guard
      (fun r => { r with
        status
        lastError := some errorCategory
        lockedBy := none
        lockedUntil := none
        updatedAt := now }) fun _ => rfl
    appendWorkerEventTx stamp kind sourceEventId
      (("status", .str status.asStr) :: extra ++ [("attempted_at", .str (Platform.rfc3339 now))])
      { db with workerJobs := jobs }
  else .ok db

def succeedWorkerJob (sourceEventId : EventId) : Timestamp → Stamp → Db → Except String Db :=
  settleWorkerJob sourceEventId .succeeded .workerJobSucceeded "" []

def failWorkerJob (sourceEventId : EventId) (errorCategory : String) :
    Timestamp → Stamp → Db → Except String Db :=
  settleWorkerJob sourceEventId .failed .workerJobFailed errorCategory
    [("error_category", .str errorCategory)]

/-! ## Reads -/

def events (db : Db) : List JournalEvent := db.journal.rows.map rowToEvent

def ingressEventId (event : JournalEvent) : Option EventId :=
  (event.payload.get "event_id").bind Json.asStr

def ingressEventByEventId (eventId : EventId) (db : Db) : Option JournalEvent :=
  (events db).find? fun event =>
    decide (event.kind = .ingressAccepted ∧ ingressEventId event = some eventId)

def isDeliveryKind (kind : JournalEventKind) : Bool :=
  kind = .sessionReady || kind = .runStarted || kind = .runCompleted || kind = .runFailed

def deliveredIds (db : Db) : List String :=
  ((events db).filter fun event => isDeliveryKind event.kind).filterMap JournalEvent.correlationId

def undeliveredIngressEvents (db : Db) : List JournalEvent :=
  (events db).filter fun event =>
    decide (event.kind = .ingressAccepted) &&
      match ingressEventId event with
      | some eventId => decide (eventId ∉ deliveredIds db)
      | none => false

end Calls

end AgentCore.Journal
