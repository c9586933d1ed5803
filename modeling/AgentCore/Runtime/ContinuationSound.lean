import AgentCore.Runtime.Continuation

/-! The continuation facts of a database, and the store calls that leave them alone. -/

namespace AgentCore.Runtime.Continuation

open Foundation Domain Journal Option List Table

variable [Platform]
  {db db' : Db} {kind : JournalEventKind} {payload : Json} {sourceEventId : EventId}

def requestRows (triggerRunId : RunId) (db : Db) : List JournalRow :=
  db.journal.rows.filter fun r =>
    decide (r.kind = JournalEventKind.sessionContinuationRequested.storageName ∧
      ((rowToEvent r).payload.get "trigger_run_id").bind Json.asStr = some triggerRunId)

def continuationJobs (triggerRunId : RunId) (db : Db) : List WorkerJobRow :=
  db.workerJobs.rows.filter fun job =>
    decide (job.jobType = .scheduleContinuation ∧
      job.sourceEventId ∈ (requestRows triggerRunId db).map JournalRow.eventId)

def nextRuns (triggerRunId : RunId) (db : Db) : List Run :=
  db.runs.rows.filter fun run => decide (run.parentRunId = some triggerRunId)

def jobsNamed (db : Db) : Prop :=
  ∀ job ∈ db.workerJobs, job.jobId = workerJobId job.sourceEventId

/-! ## The database -/

structure Sound (db : Db) : Prop where
  starts : ∀ x, (startRows x db).length ≤ 1
  started : ∀ x, startRows x db ≠ [] → db.runs.find? x ≠ none
  requests : ∀ t, (requestRows t db).length ≤ 1
  ledger : ∀ t, ∀ r ∈ requestRows t db,
    ∃ row, db.continuations.find? t = some row ∧ row.eventId = r.eventId
  children : ∀ x run t, db.runs.find? x = some run → run.parentRunId = some t →
    ∃ row, db.continuations.find? t = some row ∧ row.nextRunId = x
  jobs : jobsNamed db

lemma sound_empty : Sound {} := by
  refine ⟨fun x => Nat.zero_le 1, fun x hne => absurd rfl hne, fun t => Nat.zero_le 1,
    fun t r hr => absurd hr not_mem_nil, fun x run t hrun => ?_,
    fun job hjob => absurd hjob not_mem_nil⟩
  cases hrun

structure Quiet (db db' : Db) : Prop where
  starts : ∀ x, startRows x db' = startRows x db
  requests : ∀ t, requestRows t db' = requestRows t db
  ledger : db'.continuations = db.continuations
  runs : ∀ x, (db'.runs.find? x).map Run.parentRunId = (db.runs.find? x).map Run.parentRunId
  jobs : jobsNamed db → jobsNamed db'

lemma Quiet.refl (db : Db) : Quiet db db :=
  ⟨fun _ => rfl, fun _ => rfl, rfl, fun _ => rfl, fun h => h⟩

lemma Quiet.trans (h : Quiet a b) (h' : Quiet b c) : Quiet a c :=
  ⟨fun x => (h'.starts x).trans (h.starts x), fun t => (h'.requests t).trans (h.requests t),
    h'.ledger.trans h.ledger, fun x => (h'.runs x).trans (h.runs x), fun hj => h'.jobs (h.jobs hj)⟩

lemma Quiet.find?_ne_none (h : Quiet db db') (x : RunId) :
    db'.runs.find? x ≠ none ↔ db.runs.find? x ≠ none := by
  have hmap := congrArg isSome (h.runs x)
  simp only [isSome_map] at hmap
  rw [← isSome_iff_ne_none, ← isSome_iff_ne_none, hmap]

lemma Quiet.sound (h : Quiet db db') (hs : Sound db) : Sound db' := by
  refine ⟨fun x => ?_, fun x hne => ?_, fun t => ?_, fun t r hr => ?_, fun x run t hrun ht => ?_,
    h.jobs hs.jobs⟩
  · rw [h.starts]
    exact hs.starts x
  · rw [h.starts] at hne
    exact (h.find?_ne_none x).mpr (hs.started x hne)
  · rw [h.requests]
    exact hs.requests t
  · rw [h.requests] at hr
    rw [h.ledger]
    exact hs.ledger t r hr
  · have hmap := h.runs x
    rw [hrun, map_some] at hmap
    obtain ⟨old, hold, hparent⟩ := map_eq_some_iff.mp hmap.symm
    rw [h.ledger]
    exact hs.children x old t hold (hparent.trans ht)

lemma startRows_append (h : db.append stamp kind runId sessionId correlationId payload = .ok db')
    (hx : ¬(kind = .runStarted ∧ runId = some x)) : startRows x db' = startRows x db := by
  obtain ⟨journal, rfl, hrows, -⟩ := Db.append_eq_ok h
  have hrow : ¬(runId = some x ∧ kind.storageName = JournalEventKind.runStarted.storageName) :=
    fun ⟨hrun, hkind⟩ => hx ⟨storageName_injective hkind, hrun⟩
  simp only [startRows, hrows, filter_append, filter_cons, filter_nil, newRow,
    decide_eq_true_eq, if_neg hrow, append_nil]

lemma requestRows_append (h : db.append stamp kind runId sessionId correlationId payload = .ok db')
    (hkind : kind ≠ .sessionContinuationRequested) (t : RunId) :
    requestRows t db' = requestRows t db := by
  obtain ⟨journal, rfl, hrows, -⟩ := Db.append_eq_ok h
  have hname : ¬kind.storageName = JournalEventKind.sessionContinuationRequested.storageName :=
    fun heq => hkind (storageName_injective heq)
  simp only [requestRows, hrows, filter_append, filter_cons, filter_nil, newRow,
    hname, false_and, decide_false, Bool.false_eq_true, if_false, append_nil]

lemma quiet_append (h : db.append stamp kind runId sessionId correlationId payload = .ok db')
    (hstart : kind ≠ .runStarted) (hrequest : kind ≠ .sessionContinuationRequested) :
    Quiet db db' := by
  have hstarts : ∀ x, startRows x db' = startRows x db :=
    fun x => startRows_append h fun hx => hstart hx.1
  have hrequests := requestRows_append h hrequest
  obtain ⟨journal, rfl, -, -⟩ := Db.append_eq_ok h
  exact ⟨hstarts, hrequests, rfl, fun _ => rfl, fun hj => hj⟩

lemma quiet_jobs (db : Db) (h : jobsNamed db → jobsNamed { db with workerJobs := jobs }) :
    Quiet db { db with workerJobs := jobs } :=
  ⟨fun _ => rfl, fun _ => rfl, rfl, fun _ => rfl, h⟩

lemma quiet_updateJobs (db : Db) (p : WorkerJobRow → Bool) (f : WorkerJobRow → WorkerJobRow)
    (hf : ∀ r, (f r).jobId = r.jobId) (hsource : ∀ r, (f r).sourceEventId = r.sourceEventId) :
    Quiet db { db with workerJobs := db.workerJobs.update p f hf } := by
  refine quiet_jobs db fun hjobs job hjob => ?_
  have hmem : job ∈ db.workerJobs.update p f hf := hjob
  rw [mem_update] at hmem
  obtain ⟨old, hold, rfl⟩ := hmem
  split
  · rw [hf, hsource]
    exact hjobs old hold
  · exact hjobs old hold

lemma quiet_lease (h : leaseNextWorkerJob now stamp db = .ok (job, db')) : Quiet db db' := by
  unfold leaseNextWorkerJob at h
  split at h
  · cases h
    exact .refl db
  · simp only at h
    split at h
    · cases h
      exact .refl db
    · obtain ⟨db1, happ, ⟨⟩⟩ := bind_eq_ok.mp h
      refine .trans ?_ (quiet_append happ (by decide) (by decide))
      exact quiet_updateJobs db _ _ _ fun _ => rfl

lemma quiet_settle
    (h : settleWorkerJob sourceEventId status kind errorCategory extra now stamp db = .ok db')
    (hstart : kind ≠ .runStarted) (hrequest : kind ≠ .sessionContinuationRequested) :
    Quiet db db' := by
  simp only [settleWorkerJob] at h
  split at h
  · refine .trans ?_ (quiet_append h hstart hrequest)
    exact quiet_updateJobs db _ _ _ fun _ => rfl
  · cases h
    exact .refl db

lemma quiet_insertDeliverJob
    (h : insertDeliverJob sourceEventId now stamp db = .ok db') : Quiet db db' := by
  have hjobs : Quiet db { db with workerJobs :=
      (db.workerJobs.insertOrIgnore (newJob .deliverEvent sourceEventId now)).1 } := by
    refine quiet_jobs db fun hnamed job hjob => ?_
    by_cases hnone : db.workerJobs.find? (newJob .deliverEvent sourceEventId now).jobId = none
    · have hrows := (insertOrIgnore_changed hnone).2
      rw [mem_rows, hrows, mem_append, mem_singleton] at hjob
      rcases hjob with hold | rfl
      · exact hnamed job hold
      · rfl
    · rw [insertOrIgnore_ignored hnone] at hjob
      exact hnamed job hjob
  simp only [insertDeliverJob] at h
  split at h
  · exact hjobs.trans (quiet_append h (by decide) (by decide))
  · cases h
    exact hjobs

lemma quiet_setRunStatus (runId : RunId) (status : RunStatus) (now : Timestamp) (db : Db) :
    Quiet db (setRunStatus runId status now db) := by
  refine ⟨fun _ => rfl, fun _ => rfl, rfl, fun x => ?_, fun h => h⟩
  simp only [setRunStatus, find?_update]
  cases db.runs.find? x with
  | none => rfl
  | some run =>
    simp only [map_some]
    split <;> rfl

end AgentCore.Runtime.Continuation
