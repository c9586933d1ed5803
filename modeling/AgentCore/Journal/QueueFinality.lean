import AgentCore.Foundation.Lifecycle
import AgentCore.Foundation.Run
import AgentCore.Journal.OutboxSpec
import AgentCore.Journal.Retry

/-! Queue rows under every sequence of store calls: which rows may still change their
status, and how many attempts a row can come to. The calls differ in what they check about
the row, so the condition on a call is stated call by call. -/

namespace AgentCore.Journal

open Foundation Domain Table

/-! ## Rows -/

variable {sessionId : Option SessionId} {source : EventId} {error : String}
  {invocationId : InvocationId} {runId : RunId}
  {f : OutboxRow → OutboxRow} {approved : ApprovedInvocation}

structure RowStep {ρ σ : Type} (status : ρ → σ) (final : σ → Bool) (attempts : ρ → Nat)
    (limit : Int) (r r' : ρ) : Prop where
  status : final (status r) = true → status r' = status r
  attempts : (attempts r : Int) ≤ limit → (attempts r' : Int) ≤ limit

namespace RowStep

variable {ρ σ : Type} {status : ρ → σ} {final : σ → Bool} {attempts : ρ → Nat} {limit : Int}
  {r r' : ρ}

lemma refl (r : ρ) : RowStep status final attempts limit r r := ⟨fun _ => rfl, id⟩

lemma trans (h : RowStep status final attempts limit r r')
    (h' : RowStep status final attempts limit r' r'') :
    RowStep status final attempts limit r r'' where
  status hfinal := by
    have hst := h.status hfinal
    exact (h'.status (hst ▸ hfinal)).trans hst
  attempts hle := h'.attempts (h.attempts hle)

lemma of_same_attempts (hstatus : final (status r) = false ∨ status r' = status r)
    (hattempts : attempts r' = attempts r) : RowStep status final attempts limit r r' where
  status hfinal := hstatus.resolve_left (by simp [hfinal])
  attempts hle := by rwa [hattempts]

lemma of_attempt (hstatus : final (status r) = false) (hleft : (attempts r : Int) < limit)
    (hattempts : attempts r' = attempts r + 1) : RowStep status final attempts limit r r' where
  status hfinal := by simp [hstatus] at hfinal
  attempts _ := by
    rw [hattempts]
    push_cast
    omega

end RowStep

def jobFinal : WorkerJobStatus → Bool
  | .succeeded | .failed | .dead => true
  | .queued | .leased | .running | .retryableFailed => false

def dispatchFinal : OutboxDispatchStatus → Bool
  | .succeeded | .failed | .unknown | .dead => true
  | .pending | .leased | .dispatching | .retryableFailed => false

abbrev JobStep (policy : RetryPolicy) : WorkerJobRow → WorkerJobRow → Prop :=
  RowStep WorkerJobRow.status jobFinal WorkerJobRow.attempts policy.maxWorkerAttempts

abbrev DispatchStep (policy : RetryPolicy) : OutboxRow → OutboxRow → Prop :=
  RowStep OutboxRow.status dispatchFinal OutboxRow.attempts policy.maxOutboxAttempts

/-- Both queues went from one state to the other as the row steps allow; a row that
appeared is within its limit. -/
structure QueuesEvolve (policy : RetryPolicy) (db db' : Db) : Prop where
  jobs : Table.Evolves (JobStep policy) (fun r => (r.attempts : Int) ≤ policy.maxWorkerAttempts)
    db.workerJobs db'.workerJobs
  dispatches : Table.Evolves (DispatchStep policy)
    (fun r => (r.attempts : Int) ≤ policy.maxOutboxAttempts) db.outbox db'.outbox

namespace QueuesEvolve

variable {policy : RetryPolicy} {db db' : Db}

lemma of_eq (hjobs : db'.workerJobs = db.workerJobs) (houtbox : db'.outbox = db.outbox) :
    QueuesEvolve policy db db' where
  jobs := hjobs ▸ Table.Evolves.refl .refl _
  dispatches := houtbox ▸ Table.Evolves.refl .refl _

lemma refl (db : Db) : QueuesEvolve policy db db := of_eq rfl rfl

lemma trans (h : QueuesEvolve policy db db') (h' : QueuesEvolve policy db' db'') :
    QueuesEvolve policy db db'' where
  jobs := h.jobs.trans .trans (fun hnew hstep => hstep.attempts hnew) h'.jobs
  dispatches := h.dispatches.trans .trans (fun hnew hstep => hstep.attempts hnew) h'.dispatches

lemma of_append [Platform] {stamp : Stamp} {runId : Option RunId}
    {correlationId : Option String} {payload : Json}
    (h : db.append stamp kind runId sessionId correlationId payload = .ok db') :
    QueuesEvolve policy db db' := by
  obtain ⟨journal, rfl, -⟩ := Db.append_eq_ok h
  exact of_eq rfl rfl

lemma setRunStatus (runId : RunId) (status : RunStatus) (now : Timestamp) (db : Db) :
    QueuesEvolve policy db (setRunStatus runId status now db) := of_eq rfl rfl

lemma updateJobs {f : WorkerJobRow → WorkerJobRow} {hf : ∀ r, (f r).jobId = r.jobId}
    (h : ∀ r ∈ db.workerJobs, p r = true → JobStep policy r (f r)) :
    QueuesEvolve policy db { db with workerJobs := db.workerJobs.update p f hf } where
  jobs := Table.Evolves.update .refl _ hf h
  dispatches := Table.Evolves.refl .refl _

lemma updateOutbox {p : OutboxRow → Bool}
    (h : ∀ r ∈ db.outbox, p r = true → DispatchStep policy r (f r)) :
    QueuesEvolve policy db { db with outbox := db.outbox.update p f hf } where
  jobs := Table.Evolves.refl .refl _
  dispatches := Table.Evolves.update .refl _ hf h

end QueuesEvolve

/-! ## Calls -/

inductive QueueCall
  | enqueueWorkerJob (sourceEventId : EventId)
  | acceptIngressWithWorkerJob (event : ValidatedEvent) (payload : Json)
  | leaseNextWorkerJob
  | startWorkerJob (sourceEventId : EventId)
  | succeedWorkerJob (sourceEventId : EventId)
  | failWorkerJob (sourceEventId : EventId) (errorCategory : String)
  | markWorkerRetryableFailed (sourceEventId : EventId) (error : String)
  | markWorkerDead (sourceEventId : EventId) (error : String)
  | queueOutboxDispatch (approved : ApprovedInvocation) (sessionId : Option SessionId)
  | leaseNextOutboxDispatch
  | startOutboxDispatch (approved : ApprovedInvocation) (sessionId : Option SessionId)
  | succeedOutboxDispatch (receipt : Receipt) (runId : RunId) (sessionId : Option SessionId)
  | failOutboxDispatch (invocationId : InvocationId) (runId : RunId)
      (sessionId : Option SessionId) (error : String)
  | unknownOutboxDispatch (invocationId : InvocationId) (runId : RunId)
      (sessionId : Option SessionId) (error : String)
  | markOutboxRetryableFailed (invocationId : InvocationId) (runId : RunId)
      (sessionId : Option SessionId) (error : String)
  | markOutboxDead (invocationId : InvocationId) (runId : RunId)
      (sessionId : Option SessionId) (error : String)

structure QueueInput where
  call : QueueCall
  (now deadNow : Timestamp)
  stamps : Nat → Stamp

lemma evolve_settleOutboxRow (h : settleOutboxRow invocationId f hf db = .ok db')
    (hattempts : ∀ r, (f r).attempts = r.attempts) : QueuesEvolve policy db db' := by
  obtain ⟨-, -, -, -, rfl⟩ := settleOutboxRow_eq_ok h
  refine .updateOutbox fun r _ hguard => ?_
  exact .of_same_attempts (.inl (by rw [(of_decide_eq_true hguard).2]; rfl)) (hattempts r)

section Machine

variable [Platform]

def QueueInput.exec (policy : RetryPolicy) (x : QueueInput) (db : Db) : Except String Db :=
  match x.call with
  | .enqueueWorkerJob source => (enqueueWorkerJob source x.now (x.stamps 0) db).map Prod.snd
  | .acceptIngressWithWorkerJob event payload =>
    (acceptIngressWithWorkerJob event payload x.now x.stamps db).map Prod.snd
  | .leaseNextWorkerJob => (leaseNextWorkerJob x.now (x.stamps 0) db).map Prod.snd
  | .startWorkerJob source => startWorkerJob source x.now (x.stamps 0) db
  | .succeedWorkerJob source => succeedWorkerJob source x.now (x.stamps 0) db
  | .failWorkerJob source category => failWorkerJob source category x.now (x.stamps 0) db
  | .markWorkerRetryableFailed source error =>
    markWorkerRetryableFailed source error policy x.now x.deadNow (x.stamps 0) db
  | .markWorkerDead source error => markWorkerDead source error x.now (x.stamps 0) db
  | .queueOutboxDispatch approved session =>
    (queueOutboxDispatch approved session x.now (x.stamps 0) db).map Prod.snd
  | .leaseNextOutboxDispatch => (leaseNextOutboxDispatch x.now (x.stamps 0) db).map Prod.snd
  | .startOutboxDispatch approved session =>
    startOutboxDispatch approved session x.now (x.stamps 0) db
  | .succeedOutboxDispatch receipt run session =>
    succeedOutboxDispatch receipt run session x.now x.stamps db
  | .failOutboxDispatch id run session error =>
    failOutboxDispatch id run session error x.now x.stamps db
  | .unknownOutboxDispatch id run session error =>
    unknownOutboxDispatch id run session error x.now x.stamps db
  | .markOutboxRetryableFailed id run session error =>
    markOutboxRetryableFailed id run session error policy x.now x.deadNow (x.stamps 0) db
  | .markOutboxDead id run session error =>
    markOutboxDead id run session error x.now (x.stamps 0) db

def queueStep (policy : RetryPolicy) (db : Db) (x : QueueInput) : Db :=
  commit db (x.exec policy db)

/-! ## The condition on a call -/

def jobsOf (sourceEventId : EventId) (db : Db) (P : WorkerJobRow → Prop) : Prop :=
  ∀ r ∈ db.workerJobs, r.jobId = workerJobId sourceEventId → P r

def dispatchesOf (invocationId : InvocationId) (db : Db) (P : OutboxRow → Prop) : Prop :=
  ∀ r ∈ db.outbox, r.invocationId = invocationId → P r

/-- What the calls leave to their callers: a call without a check of its own on the status
meets an open row (or one that already has the status it writes), and a call that counts an
attempt meets rows with one left. -/
def Guarded (policy : RetryPolicy) (db : Db) (x : QueueInput) : Prop :=
  match x.call with
  | .enqueueWorkerJob _ | .acceptIngressWithWorkerJob _ _ => 0 ≤ policy.maxWorkerAttempts
  | .leaseNextWorkerJob => ∀ r ∈ db.workerJobs, jobReady x.now r = true →
      (r.attempts : Int) < policy.maxWorkerAttempts
  | .startWorkerJob source => jobsOf source db fun r => r.status = .succeeded ∨
      (jobFinal r.status = false ∧ (r.attempts : Int) < policy.maxWorkerAttempts)
  | .succeedWorkerJob source => jobsOf source db fun r =>
      r.status = .succeeded ∨ jobFinal r.status = false
  | .failWorkerJob source _ => jobsOf source db fun r =>
      r.status = .succeeded ∨ r.status = .failed ∨ jobFinal r.status = false
  | .markWorkerRetryableFailed source _ => jobsOf source db fun r =>
      jobFinal r.status = false ∨ (r.status = .dead ∧ policy.maxWorkerAttempts ≤ r.attempts)
  | .markWorkerDead source _ => jobsOf source db fun r =>
      r.status = .dead ∨ jobFinal r.status = false
  | .queueOutboxDispatch _ _ => 0 ≤ policy.maxOutboxAttempts
  | .leaseNextOutboxDispatch => ∀ r ∈ db.outbox, leasable x.now r = true →
      (r.attempts : Int) < policy.maxOutboxAttempts
  | .startOutboxDispatch approved _ => dispatchesOf approved.intent.invocationId db fun r =>
      r.status = .pending → (r.attempts : Int) < policy.maxOutboxAttempts
  | .succeedOutboxDispatch _ _ _ | .failOutboxDispatch _ _ _ _ | .unknownOutboxDispatch _ _ _ _ =>
    True
  | .markOutboxRetryableFailed id _ _ _ => dispatchesOf id db fun r =>
      dispatchFinal r.status = false ∨ (r.status = .dead ∧ policy.maxOutboxAttempts ≤ r.attempts)
  | .markOutboxDead id _ _ _ => dispatchesOf id db fun r =>
      r.status = .dead ∨ dispatchFinal r.status = false

instance (source : EventId) (db : Db) (P : WorkerJobRow → Prop) [DecidablePred P] :
    Decidable (jobsOf source db P) :=
  inferInstanceAs (Decidable (∀ r ∈ db.workerJobs, r.jobId = workerJobId source → P r))

instance (id : InvocationId) (db : Db) (P : OutboxRow → Prop) [DecidablePred P] :
    Decidable (dispatchesOf id db P) :=
  inferInstanceAs (Decidable (∀ r ∈ db.outbox, r.invocationId = id → P r))

instance (policy : RetryPolicy) (db : Db) : (x : QueueInput) → Decidable (Guarded policy db x)
  | ⟨.enqueueWorkerJob _, _, _, _⟩ | ⟨.acceptIngressWithWorkerJob _ _, _, _, _⟩ =>
    inferInstanceAs (Decidable (0 ≤ policy.maxWorkerAttempts))
  | ⟨.queueOutboxDispatch _ _, _, _, _⟩ =>
    inferInstanceAs (Decidable (0 ≤ policy.maxOutboxAttempts))
  | ⟨.leaseNextWorkerJob, now, _, _⟩ => inferInstanceAs (Decidable (∀ r ∈ db.workerJobs,
      jobReady now r = true → (r.attempts : Int) < policy.maxWorkerAttempts))
  | ⟨.leaseNextOutboxDispatch, now, _, _⟩ => inferInstanceAs (Decidable (∀ r ∈ db.outbox,
      leasable now r = true → (r.attempts : Int) < policy.maxOutboxAttempts))
  | ⟨.startWorkerJob source, _, _, _⟩ | ⟨.succeedWorkerJob source, _, _, _⟩
  | ⟨.failWorkerJob source _, _, _, _⟩ | ⟨.markWorkerRetryableFailed source _, _, _, _⟩
  | ⟨.markWorkerDead source _, _, _, _⟩ => inferInstanceAs (Decidable (jobsOf source db _))
  | ⟨.startOutboxDispatch approved _, _, _, _⟩ =>
    inferInstanceAs (Decidable (dispatchesOf approved.intent.invocationId db _))
  | ⟨.markOutboxRetryableFailed id _ _ _, _, _, _⟩ | ⟨.markOutboxDead id _ _ _, _, _, _⟩ =>
    inferInstanceAs (Decidable (dispatchesOf id db _))
  | ⟨.succeedOutboxDispatch _ _ _, _, _, _⟩ | ⟨.failOutboxDispatch _ _ _ _, _, _, _⟩
  | ⟨.unknownOutboxDispatch _ _ _ _, _, _, _⟩ => inferInstanceAs (Decidable True)

/-! ## What one call does -/

variable {policy : RetryPolicy} {db db' : Db} {now deadNow : Timestamp} {stamps : Nat → Stamp}

lemma evolve_insertDeliverJob (h : insertDeliverJob source now stamp db = .ok db')
    (hlimit : 0 ≤ policy.maxWorkerAttempts) : QueuesEvolve policy db db' := by
  obtain ⟨journal, tail, rfl, -⟩ := insertDeliverJob_eq_ok h
  exact ⟨Table.Evolves.insertOrIgnore .refl _ hlimit, Table.Evolves.refl .refl _⟩

lemma evolve_leaseJob {leased : Option (JobType × EventId)}
    (h : leaseNextWorkerJob now stamp db = .ok (leased, db'))
    (hleft : ∀ r ∈ db.workerJobs, jobReady now r = true →
      (r.attempts : Int) < policy.maxWorkerAttempts) : QueuesEvolve policy db db' := by
  rcases leaseNextWorkerJob_eq_ok h with ⟨-, rfl⟩ | ⟨job, -, -, -, -, payload, happ⟩
  · exact .refl db'
  · refine (QueuesEvolve.updateJobs ?_).trans (.of_append happ)
    intro r hr hguard
    have hready : jobReady now r = true := (Bool.and_eq_true_iff.mp hguard).2
    refine .of_attempt ?_ (hleft r hr hready) rfl
    -- a ready row is queued, waits for its retry or runs
    rcases of_decide_eq_true hready with hst | ⟨hst, -⟩ | ⟨hst, -⟩ <;> rw [hst] <;> rfl

lemma evolve_startJob (h : startWorkerJob source now stamp db = .ok db')
    (hopen : jobsOf source db fun r => r.status = .succeeded ∨ (jobFinal r.status = false ∧ (r.attempts : Int) < policy.maxWorkerAttempts)) :
    QueuesEvolve policy db db' := by
  simp only [startWorkerJob] at h
  split at h
  · refine (QueuesEvolve.updateJobs ?_).trans (.of_append h)
    intro r hr hguard
    obtain ⟨hid, hne⟩ := of_decide_eq_true hguard
    obtain ⟨hstatus, hleft⟩ := (hopen r hr hid).resolve_left hne
    exact .of_attempt hstatus hleft rfl
  · cases h
    exact .refl db

lemma evolve_settleJob {errorCategory : String}
    (h : settleWorkerJob source status kind errorCategory extra now stamp db = .ok db')
    (hopen : jobsOf source db fun r => r.status = .succeeded ∨ r.status = status ∨ jobFinal r.status = false) :
    QueuesEvolve policy db db' := by
  simp only [settleWorkerJob] at h
  split at h
  · refine (QueuesEvolve.updateJobs ?_).trans (.of_append h)
    intro r hr hguard
    obtain ⟨hid, hne⟩ := of_decide_eq_true hguard
    have hstatus := (hopen r hr hid).resolve_left hne
    exact .of_same_attempts (hstatus.symm.imp_right Eq.symm) rfl
  · cases h
    exact .refl db

lemma evolve_markWorkerDead (h : markWorkerDead source error now stamp db = .ok db')
    (hopen : jobsOf source db fun r => r.status = .dead ∨ jobFinal r.status = false) :
    QueuesEvolve policy db db' := by
  obtain ⟨db₁, happ, ⟨⟩⟩ := bind_eq_ok.mp h
  refine (QueuesEvolve.of_append happ).trans (.updateJobs ?_)
  obtain ⟨journal, rfl, -⟩ := Db.append_eq_ok happ
  intro r hr hguard
  have hstatus := hopen r hr (of_decide_eq_true hguard)
  exact .of_same_attempts (hstatus.symm.imp_right Eq.symm) rfl

lemma evolve_markWorkerRetryableFailed
    (h : markWorkerRetryableFailed source error policy now deadNow stamp db = .ok db')
    (hopen : jobsOf source db fun r => jobFinal r.status = false ∨ (r.status = .dead ∧ policy.maxWorkerAttempts ≤ r.attempts)) :
    QueuesEvolve policy db db' := by
  simp only [markWorkerRetryableFailed] at h
  split at h
  · refine evolve_markWorkerDead h fun r hr hid => ?_
    exact (hopen r hr hid).symm.imp_left And.left
  · next hleft =>
    obtain ⟨db₁, happ, ⟨⟩⟩ := bind_eq_ok.mp h
    refine (QueuesEvolve.of_append happ).trans (.updateJobs ?_)
    obtain ⟨journal, rfl, -⟩ := Db.append_eq_ok happ
    intro r hr hguard
    obtain hid : r.jobId = workerJobId source := of_decide_eq_true hguard
    -- the attempts that were read are those of this row, which therefore is not spent
    have hattempts : workerAttempts source db = r.attempts := by
      rw [workerAttempts, ← hid, find?_of_mem hr]
      rfl
    rw [hattempts] at hleft
    have hstatus := (hopen r hr hid).resolve_right fun hspent => hleft hspent.2
    exact .of_same_attempts (.inl hstatus) rfl

lemma evolve_queueOutbox {dispatchId : String}
    (h : queueOutboxDispatch approved sessionId now stamp db = .ok (dispatchId, db'))
    (hlimit : 0 ≤ policy.maxOutboxAttempts) : QueuesEvolve policy db db' := by
  have hinsert : QueuesEvolve policy db
      { db with outbox := (db.outbox.insertOrIgnore (outboxRowOf approved sessionId now)).1 } :=
    ⟨Table.Evolves.refl .refl _, Table.Evolves.insertOrIgnore .refl _ hlimit⟩
  rcases queueOutboxDispatch_eq_ok h with rfl | ⟨payload, happ⟩
  · exact hinsert
  · exact hinsert.trans (.of_append happ)

lemma evolve_leaseOutbox {leased : Option LeasedOutboxDispatch}
    (h : leaseNextOutboxDispatch now stamp db = .ok (leased, db'))
    (hleft : ∀ r ∈ db.outbox, leasable now r = true →
      (r.attempts : Int) < policy.maxOutboxAttempts) : QueuesEvolve policy db db' := by
  rcases leaseNextOutboxDispatch_eq_ok h with ⟨-, rfl⟩ | ⟨row, hrow, hlease, -, payload, happ⟩
  · exact .refl db'
  · refine (QueuesEvolve.updateOutbox ?_).trans (.of_append happ)
    intro r hr hguard
    obtain ⟨hid, hst⟩ := of_decide_eq_true hguard
    obtain rfl : r = row := eq_of_mem hr hrow hid
    refine .of_attempt ?_ (hleft r hr hlease) rfl
    rcases hst with hst | ⟨hst, -⟩ <;> rw [hst] <;> rfl

lemma evolve_startOutbox (h : startOutboxDispatch approved sessionId now stamp db = .ok db')
    (hleft : dispatchesOf approved.intent.invocationId db fun r => r.status = .pending → (r.attempts : Int) < policy.maxOutboxAttempts) :
    QueuesEvolve policy db db' := by
  simp only [startOutboxDispatch] at h
  split at h
  · cases h
  · refine (QueuesEvolve.updateOutbox ?_).trans (.of_append h)
    intro r hr hguard
    obtain ⟨hid, hst⟩ := of_decide_eq_true hguard
    exact .of_attempt (by rw [hst]; rfl) (hleft r hr hid hst) rfl

lemma ofSettlement_evolve : OfSettlement (QueuesEvolve policy) where
  refl := .refl
  trans := .trans
  append _ h := .of_append h
  status runId status now db _ := .setRunStatus runId status now db
  settle h hf := evolve_settleOutboxRow h fun r => (hf r).2

lemma evolve_markOutboxDead
    (h : markOutboxDead invocationId runId sessionId error now stamp db = .ok db')
    (hopen : dispatchesOf invocationId db fun r => r.status = .dead ∨ dispatchFinal r.status = false) :
    QueuesEvolve policy db db' := by
  obtain ⟨db₁, happ, ⟨⟩⟩ := bind_eq_ok.mp h
  refine (QueuesEvolve.of_append happ).trans (.updateOutbox ?_)
  obtain ⟨journal, rfl, -⟩ := Db.append_eq_ok happ
  intro r hr hguard
  have hstatus := hopen r hr (of_decide_eq_true hguard)
  exact .of_same_attempts (hstatus.symm.imp_right Eq.symm) rfl

lemma evolve_markOutboxRetryableFailed
    (h : markOutboxRetryableFailed invocationId runId sessionId error policy now deadNow stamp db = .ok db')
    (hopen : dispatchesOf invocationId db fun r => dispatchFinal r.status = false ∨ (r.status = .dead ∧ policy.maxOutboxAttempts ≤ r.attempts)) :
    QueuesEvolve policy db db' := by
  simp only [markOutboxRetryableFailed] at h
  split at h
  · refine evolve_markOutboxDead h fun r hr hid => ?_
    exact (hopen r hr hid).symm.imp_left And.left
  · next hleft =>
    obtain ⟨db₁, happ, ⟨⟩⟩ := bind_eq_ok.mp h
    refine (QueuesEvolve.of_append happ).trans (.updateOutbox ?_)
    obtain ⟨journal, rfl, -⟩ := Db.append_eq_ok happ
    intro r hr hguard
    obtain hid : r.invocationId = invocationId := of_decide_eq_true hguard
    have hattempts : outboxAttempts invocationId db = r.attempts := by
      rw [outboxAttempts, ← hid, find?_of_mem hr]
      rfl
    rw [hattempts] at hleft
    have hstatus := (hopen r hr hid).resolve_right fun hspent => hleft hspent.2
    exact .of_same_attempts (.inl hstatus) rfl

lemma queueStep_evolves {x : QueueInput} (hguard : Guarded policy db x) :
    QueuesEvolve policy db (queueStep policy db x) := by
  unfold queueStep
  cases hexec : x.exec policy db with
  | error e => exact .refl db
  | ok db' =>
    rw [commit_ok]
    obtain ⟨call, now, deadNow, stamps⟩ := x
    cases call with
    | enqueueWorkerJob source =>
      obtain ⟨jobId, h⟩ := map_snd_eq_ok hexec
      obtain ⟨db₁, hjob, ⟨⟩⟩ := bind_eq_ok.mp h
      exact evolve_insertDeliverJob hjob hguard
    | acceptIngressWithWorkerJob event payload =>
      obtain ⟨jobId, h⟩ := map_snd_eq_ok hexec
      obtain ⟨db₁, happ, h⟩ := bind_eq_ok.mp h
      obtain ⟨db₂, hjob, ⟨⟩⟩ := bind_eq_ok.mp h
      exact (QueuesEvolve.of_append happ).trans (evolve_insertDeliverJob hjob hguard)
    | leaseNextWorkerJob =>
      obtain ⟨leased, h⟩ := map_snd_eq_ok hexec
      exact evolve_leaseJob h hguard
    | startWorkerJob source => exact evolve_startJob hexec hguard
    | succeedWorkerJob source =>
      exact evolve_settleJob hexec fun r hr hid => (hguard r hr hid).imp_right .inr
    | failWorkerJob source category => exact evolve_settleJob hexec hguard
    | markWorkerRetryableFailed source error =>
      exact evolve_markWorkerRetryableFailed hexec hguard
    | markWorkerDead source error => exact evolve_markWorkerDead hexec hguard
    | queueOutboxDispatch approved session =>
      obtain ⟨dispatchId, h⟩ := map_snd_eq_ok hexec
      exact evolve_queueOutbox h hguard
    | leaseNextOutboxDispatch =>
      obtain ⟨leased, h⟩ := map_snd_eq_ok hexec
      exact evolve_leaseOutbox h hguard
    | startOutboxDispatch approved session => exact evolve_startOutbox hexec hguard
    | succeedOutboxDispatch receipt run session => exact ofSettlement_evolve.succeed hexec
    | failOutboxDispatch id run session error => exact ofSettlement_evolve.fail hexec
    | unknownOutboxDispatch id run session error => exact ofSettlement_evolve.unknown hexec
    | markOutboxRetryableFailed id run session error =>
      exact evolve_markOutboxRetryableFailed hexec hguard
    | markOutboxDead id run session error => exact evolve_markOutboxDead hexec hguard

/-! ## Whole runs -/

lemma queueRun_evolves {xs : List QueueInput}
    (h : Along (queueStep policy) (Guarded policy) db xs) :
    QueuesEvolve policy db (run (queueStep policy) db xs) :=
  h.invariant (I := QueuesEvolve policy db)
    (fun _ _ hrun hguard => hrun.trans (queueStep_evolves hguard)) (.refl db)

def WithinAttempts (policy : RetryPolicy) (db : Db) : Prop :=
  (∀ r ∈ db.workerJobs, (r.attempts : Int) ≤ policy.maxWorkerAttempts) ∧
    ∀ r ∈ db.outbox, (r.attempts : Int) ≤ policy.maxOutboxAttempts

omit [Platform] in
lemma QueuesEvolve.within (h : QueuesEvolve policy db db') (hwithin : WithinAttempts policy db) :
    WithinAttempts policy db' :=
  ⟨h.jobs.all (fun hstep hle => hstep.attempts hle) id hwithin.1,
    h.dispatches.all (fun hstep hle => hstep.attempts hle) id hwithin.2⟩

/-- Between any two states of the run, later rows agree with earlier ones on every final
status, and a row with a final status is within its limit. -/
def FinalRowsStay (policy : RetryPolicy) (earlier later : Db) : Prop :=
  (∀ r ∈ earlier.workerJobs, jobFinal r.status = true →
    (r.attempts : Int) ≤ policy.maxWorkerAttempts ∧
      (later.workerJobs.find? r.jobId).map WorkerJobRow.status = some r.status) ∧
  (∀ r ∈ earlier.outbox, dispatchFinal r.status = true →
    (r.attempts : Int) ≤ policy.maxOutboxAttempts ∧
      (later.outbox.find? r.invocationId).map OutboxRow.status = some r.status)

instance (policy : RetryPolicy) (earlier later : Db) :
    Decidable (FinalRowsStay policy earlier later) := inferInstanceAs (Decidable (_ ∧ _))

omit [Platform] in
lemma QueuesEvolve.finalRowsStay (h : QueuesEvolve policy db db')
    (hwithin : WithinAttempts policy db) : FinalRowsStay policy db db' := by
  refine ⟨fun r hr hfinal => ⟨hwithin.1 r hr, ?_⟩, fun r hr hfinal => ⟨hwithin.2 r hr, ?_⟩⟩
  · obtain ⟨r', hr', hstep⟩ := h.jobs.find? (find?_of_mem hr)
    rw [hr', Option.map_some, hstep.status hfinal]
  · obtain ⟨r', hr', hstep⟩ := h.dispatches.find? (find?_of_mem hr)
    rw [hr', Option.map_some, hstep.status hfinal]

/-- In a run whose calls all meet the condition, a final row keeps its status and stays
within the attempts of the policy, from any state of the run to any later one. -/
theorem terminal_queue_rows_stay (policy : RetryPolicy) (db : Db) (before after : List QueueInput)
    (hstart : WithinAttempts policy db)
    (hguarded : Along (queueStep policy) (Guarded policy) db (before ++ after)) :
    FinalRowsStay policy (run (queueStep policy) db before)
      (run (queueStep policy) db (before ++ after)) := by
  obtain ⟨hbefore, hafter⟩ := along_append.mp hguarded
  rw [run_append]
  have hwithin := (queueRun_evolves hbefore).within hstart
  exact (queueRun_evolves hafter).finalRowsStay hwithin

end Machine

/-! ## Calls that do not meet the condition -/

section Sample

local instance queuePlatform : Platform := zeroPlatform

def sampleInput (n : Nat) (now : Timestamp) (call : QueueCall) : QueueInput where
  call
  now
  deadNow := now
  stamps k := ⟨toString (3 * n + k), now⟩

def deliveredOnce : List QueueInput :=
  [sampleInput 0 0 (.enqueueWorkerJob "e"), sampleInput 1 0 .leaseNextWorkerJob,
    sampleInput 2 0 (.succeedWorkerJob "e")]

def givenUpAfterwards : List QueueInput := [sampleInput 3 0 (.markWorkerDead "e" "late")]

/-- A job whose deliveries die is leased again each time its lock runs out. -/
def leasedFourTimes : List QueueInput :=
  [sampleInput 0 0 (.enqueueWorkerJob "e"), sampleInput 1 0 .leaseNextWorkerJob,
    sampleInput 2 (minutes 5) .leaseNextWorkerJob, sampleInput 3 (minutes 10) .leaseNextWorkerJob,
    sampleInput 4 (minutes 15) .leaseNextWorkerJob,
    sampleInput 5 (minutes 15) (.failWorkerJob "e" "delivery_failed")]

def sampleApproved : ApprovedInvocation where
  intent :=
    { invocationId := "i"
      runId := "r"
      operation := "stdout.send_text"
      arguments := .obj []
      idempotencyKey := none }
  decisionId := "d"

def dispatchedOnce : List QueueInput :=
  [sampleInput 0 0 (.queueOutboxDispatch sampleApproved none),
    sampleInput 1 0 .leaseNextOutboxDispatch,
    sampleInput 2 0 (.succeedOutboxDispatch ⟨"i", .succeeded, none, .null, 0⟩ "r" none)]

def sentBackAfterwards : List QueueInput :=
  [sampleInput 3 0 (.markOutboxRetryableFailed "i" "r" none "late")]

/-- A job that succeeded is given up, a dispatch that succeeded goes back into the queue,
and a job fails with more attempts than the policy has. -/
theorem terminal_queue_rows_stay_unguarded :
    ¬ FinalRowsStay {} (run (queueStep {}) {} deliveredOnce)
        (run (queueStep {}) {} (deliveredOnce ++ givenUpAfterwards)) ∧
      ¬ FinalRowsStay {} (run (queueStep {}) {} dispatchedOnce)
        (run (queueStep {}) {} (dispatchedOnce ++ sentBackAfterwards)) ∧
      ¬ FinalRowsStay {} (run (queueStep {}) {} leasedFourTimes)
        (run (queueStep {}) {} leasedFourTimes) := by
  refine ⟨?_, ?_, ?_⟩ <;> decide

/-- The same delivery, reported as succeeded once more. -/
theorem terminal_queue_rows_stay_delivered :
    FinalRowsStay {} (run (queueStep {}) {} deliveredOnce)
      (run (queueStep {}) {} (deliveredOnce ++ [sampleInput 3 0 (.succeedWorkerJob "e")])) :=
  terminal_queue_rows_stay {} {} deliveredOnce [sampleInput 3 0 (.succeedWorkerJob "e")]
    (by constructor <;> decide) (by decide)

end Sample

end AgentCore.Journal
