import AgentCore.Server.IngressLog
import AgentCore.Server.Terminal

/-! The workers: calls of `process_next_worker_job` that lease, deliver and settle jobs, with
the dispatchers and the recovery at a restart beside them. Every store call is one action. -/

namespace AgentCore.Server.Workers

open Foundation Domain Journal Gateway AgentCore.Runtime Table
open Server.IngressLog (undeliveredIds)

/-! ## What the other store calls leave alone -/

variable {db db' c : Db} {kind : JournalEventKind} {payload : Json} {d : Delivery}
  {eventId : EventId} {result : Except String Db} {error : String} {job : WorkerJobRow}

def runKeys (db : Db) : List (RunId × EventId) :=
  db.runs.rows.map fun run => (run.id, run.triggerEventId)

def startRecords (db : Db) : List JournalRow :=
  db.journal.rows.filter fun r => decide (r.kind = JournalEventKind.runStarted.storageName)

structure BesideRuns (db db' : Db) : Prop where
  keys : runKeys db' = runKeys db
  running : ∀ run ∈ db'.runs.rows, run.status = .running → runStatus run.id db = some .running
  starts : startRecords db' = startRecords db

structure Beside (db db' : Db) : Prop extends BesideRuns db db' where
  jobs : db'.workerJobs = db.workerJobs

instance (db db' : Db) : Decidable (Beside db db') :=
  decidable_of_iff (runKeys db' = runKeys db ∧
      (∀ run ∈ db'.runs.rows, run.status = .running → runStatus run.id db = some .running) ∧
      startRecords db' = startRecords db ∧ db'.workerJobs.rows = db.workerJobs.rows)
    ⟨fun h => ⟨⟨h.1, h.2.1, h.2.2.1⟩, eq_of_rows h.2.2.2⟩,
      fun h => ⟨h.keys, h.running, h.starts, congrArg rows h.jobs⟩⟩

/-! ## A worker -/

inductive ErrorCategory
  | timeout
  | connectorExecuteFailed
  | targetSessionMismatch
  | runtimeFailed

def ErrorCategory.asStr : ErrorCategory → String
  | timeout => "timeout"
  | connectorExecuteFailed => "connector_execute_failed"
  | targetSessionMismatch => "target_session_mismatch"
  | runtimeFailed => "runtime_failed"

/-- Where a call of `process_next_worker_job` stands: before its lease, before it reads the
message, in the delivery, before the terminal update of the job, and before the fact that
follows a failed one. The delivery of a continuation is `Runtime.Continuation`'s. -/
inductive Worker
  | leasing (config : KernelConfig)
  | reading (config : KernelConfig) (eventId : EventId)
  | delivering (eventId : EventId) (d : Delivery)
  | continuing (eventId : EventId)
  | succeeding (eventId : EventId)
  | failing (eventId : EventId) (category : ErrorCategory)
  | recording (eventId : EventId) (category : ErrorCategory)
  | ended

def StartsNothing : LoopEvent → Prop
  | .record kind _ _ => kind.1 ≠ .runStarted
  | _ => True

structure WorkerInput where
  delivery : { x : DeliveryInput // StartsNothing x.event }
  category : ErrorCategory
  continued : Bool

namespace Worker

variable [Platform]

def lease (config : KernelConfig) (x : DeliveryInput) (db : Db) : Worker × Db :=
  match leaseNextWorkerJob x.now x.stamp db with
  | .ok (some (.deliverEvent, eventId), db) => (reading config eventId, db)
  | .ok (some (.scheduleContinuation, eventId), db) => (continuing eventId, db)
  | .ok (none, db) => (ended, db)
  | .error _ => (ended, db)

/-- The message is delivered by the default runtime. -/
def read (config : KernelConfig) (eventId : EventId) (category : ErrorCategory) (db : Db) :
    Worker :=
  match ingressEventByEventId eventId db with
  | none => failing eventId category
  | some event =>
    match recoverValidatedEvent config event with
    | .ok validated => delivering eventId (.opening ⟨.v0, config, validated⟩)
    | .error _ => failing eventId category

def afterDelivery (eventId : EventId) (category : ErrorCategory) : Delivery → Worker
  | .ended true => succeeding eventId
  | .ended false => failing eventId category
  | d => delivering eventId d

def recordFailure (eventId : EventId) (category : ErrorCategory) (stamp : Stamp) (db : Db) : Db :=
  commit db (db.append stamp .runFailed none none (some eventId)
    (.mkObj [("status", .str "Failed"), ("reason", .str "worker_delivery_failed"),
      ("error_category", .str category.asStr)]))

def next (x : WorkerInput) (w : Worker) (db : Db) : Worker × Db :=
  let input := x.delivery.1
  match w with
  | leasing config => lease config input db
  | reading config eventId => (read config eventId x.category db, db)
  | delivering eventId d =>
    (afterDelivery eventId x.category (d.act input db).1, (d.act input db).2)
  | continuing eventId =>
    (if x.continued then succeeding eventId else failing eventId x.category, db)
  | succeeding eventId => (ended, commit db (succeedWorkerJob eventId input.now input.stamp db))
  | failing eventId category =>
    (recording eventId category,
      commit db (failWorkerJob eventId category.asStr input.now input.stamp db))
  | recording eventId category => (ended, recordFailure eventId category input.stamp db)
  | ended => (ended, db)

/-- What an error of a store call leads to; the updates of a job that failed are not looked
at. -/
def refuse (x : WorkerInput) : Worker → Worker
  | reading _ eventId => failing eventId x.category
  | failing eventId category => recording eventId category
  | _ => ended

def act (x : WorkerInput) (w : Worker) (db : Db) : Worker × Db :=
  match w, x.delivery.1.refusal with
  | delivering eventId d, _ => (delivering eventId d).next x db
  | w, some _ => (w.refuse x, db)
  | w, none => w.next x db

end Worker

/-! ## The system -/

/-- The database, the jobs leased so far, and the messages whose delivery has entered the
model and tool loop, with one entry for each lease and each attempt. -/
structure Desk where
  db : Db := {}
  leased : List EventId := []
  entered : List EventId := []

def loopOf : Delivery → Option EventId
  | .thinking c _ => some c.event.eventId
  | .invoking c _ => some c.event.eventId
  | .looping c => some c.event.eventId
  | _ => none

def Worker.inLoop : Worker → Option EventId
  | .delivering _ d => loopOf d
  | _ => none

def leases : Worker → Worker → List EventId
  | .leasing _, .reading _ eventId => [eventId]
  | .leasing _, .continuing eventId => [eventId]
  | _, _ => []

def enters (w w' : Worker) : List EventId :=
  match w.inLoop, w'.inLoop with
  | none, some eventId => [eventId]
  | _, _ => []

inductive Thread
  | worker (w : Worker)
  | dispatcher (d : Dispatcher)

inductive ThreadInput
  | work (x : WorkerInput)
  | dispatch (x : DispatchInput)

inductive Start
  | work (config : KernelConfig)
  | dispatch

/-- The store calls of everything else: the acceptance of a message, those of
`recover_unknown_invocations` and of `recover_undelivered_ingress`, and calls that do not
touch runs, jobs and starts. -/
inductive Outside
  | accept (event : ValidatedEvent) (payload : Json) (now : Timestamp) (stamps : Nat → Stamp)
  | recoverUnknown (invocation : UnknownInvocation) (now : Timestamp) (stamp : Stamp)
  | repair (stale : InvocationId × TerminalFact) (now : Timestamp)
  | enqueue (eventId : EventId) (now : Timestamp) (stamp : Stamp)
  | elsewhere (db : Db)

section System

variable [Platform]

def Thread.act (x : ThreadInput) (t : Thread) (desk : Desk) : Thread × Desk :=
  match t, x with
  | worker w, .work x =>
    let after := w.act x desk.db
    (worker after.1,
      { db := after.2
        leased := desk.leased ++ leases w after.1
        entered := desk.entered ++ enters w after.1 })
  | dispatcher d, .dispatch x =>
    let after := dispatchOnce x d desk.db
    (dispatcher after.1, { desk with db := after.2 })
  | t, _ => (t, desk)

def Thread.halt : Thread → Thread
  | worker _ => worker .ended
  | dispatcher _ => dispatcher .idle

def Outside.apply (db : Db) : Outside → Db
  | accept event payload now stamps =>
    commit db ((acceptIngressWithWorkerJob event payload now stamps db).map Prod.snd)
  | recoverUnknown invocation now stamp =>
    if invocation ∈ unknownInvocations db then
      commit db (recoverInvocation invocation now stamp db)
    else db
  | repair stale now =>
    if stale ∈ staleDispatchingWithTerminalJournal now db then repairStale stale now db else db
  | enqueue eventId now stamp =>
    if eventId ∈ undeliveredIds db then
      commit db ((enqueueWorkerJob eventId now stamp db).map Prod.snd)
    else db
  | elsewhere db' => if Beside db db' then db' else db

def workerMachine : Machine Desk Thread ThreadInput Start Outside where
  start
    | .work config => .worker (.leasing config)
    | .dispatch => .dispatcher .idle
  act := Thread.act
  halt := Thread.halt
  other o desk := { desk with db := o.apply desk.db }

abbrev Office := Pool Desk Thread

abbrev OfficeAct := Pool.Act ThreadInput Start Outside

end System

/-! ## What the store calls leave alone -/

lemma runStatus_of_mem {run : Run} (h : run ∈ db.runs.rows) :
    runStatus run.id db = some run.status := by
  rw [runStatus, find?_of_mem (t := db.runs) h]
  rfl

lemma BesideRuns.status (h : BesideRuns db db') (hrun : runStatus runId db' = some .running) :
    runStatus runId db = some .running := by
  obtain ⟨run, hmem, rfl, hstatus⟩ := exists_run_of_runStatus hrun
  exact h.running run hmem hstatus

namespace Beside

lemma trans (h : Beside a b) (h' : Beside b c) : Beside a c where
  keys := h'.keys.trans h.keys
  running run hrun hstatus := h.status (h'.running run hrun hstatus)
  jobs := h'.jobs.trans h.jobs
  starts := h'.starts.trans h.starts

lemma of_tables (hruns : db'.runs = db.runs) (hjobs : db'.workerJobs = db.workerJobs)
    (hjournal : db'.journal = db.journal) :
    Beside db db' where
  keys := by rw [runKeys, runKeys, hruns]
  running run hrun hstatus := by
    rw [hruns] at hrun
    rw [runStatus_of_mem hrun, hstatus]
  jobs := hjobs
  starts := by rw [startRecords, startRecords, hjournal]

lemma refl (db : Db) : Beside db db := of_tables rfl rfl rfl

lemma setRunStatus (runId : RunId) {status : RunStatus} (hstatus : status ≠ .running)
    (now : Timestamp) (db : Db) : Beside db (setRunStatus runId status now db) where
  keys := by
    simp only [runKeys, Journal.setRunStatus, update, List.map_map]
    refine List.map_congr_left fun run _ => ?_
    simp only [Function.comp]
    split
    · rfl
    · rfl
  running run hrun hrunning := by
    have hnew := runStatus_of_mem hrun
    rw [hrunning, runStatus_setRunStatus] at hnew
    split at hnew
    · obtain ⟨old, -, heq⟩ := Option.map_eq_some_iff.mp hnew
      exact absurd heq hstatus
    · exact hnew
  jobs := rfl
  starts := rfl

lemma commit (h : ∀ db', result = .ok db' → Beside db db') :
    Beside db (commit db result) := commit_cases (refl db) h

end Beside

lemma beside_outbox (db : Db) (outbox : Table OutboxRow.invocationId) :
    Beside db { db with outbox } := .of_tables rfl rfl rfl

lemma beside_settleOutboxRow {f : OutboxRow → OutboxRow}
    {hf : ∀ r, (f r).invocationId = r.invocationId}
    (h : settleOutboxRow invocationId f hf db = .ok db') : Beside db db' := by
  obtain ⟨-, -, -, -, rfl⟩ := settleOutboxRow_eq_ok h
  exact beside_outbox db _

section Calls

variable [Platform] {now : Timestamp} {stamp : Stamp} {stamps : Nat → Stamp}

lemma startRecords_append {runId : Option RunId}
    (h : db.append stamp kind runId sessionId correlationId payload = .ok db') :
    startRecords db' = startRecords db ++ if kind = .runStarted then
        [newRow db.journal stamp kind.storageName runId sessionId correlationId payload.toText]
      else [] := by
  obtain ⟨journal, rfl, hrows, -⟩ := Db.append_eq_ok h
  rw [startRecords, hrows, List.filter_append]
  refine congrArg (startRecords db ++ ·) ?_
  by_cases hkind : kind = .runStarted
  · simp [hkind, newRow]
  · have hne : kind.storageName ≠ JournalEventKind.runStarted.storageName :=
      fun heq => hkind (storageName_injective heq)
    simp [hkind, hne, newRow]

lemma beside_append {runId : Option RunId} (h : db.append stamp kind runId sessionId correlationId payload = .ok db')
    (hkind : kind ≠ .runStarted) : Beside db db' := by
  have hstarts := startRecords_append h
  rw [if_neg hkind, List.append_nil] at hstarts
  obtain ⟨journal, rfl, -, -⟩ := Db.append_eq_ok h
  exact { Beside.refl db with starts := hstarts }

lemma beside_queueOutboxDispatch {approved : ApprovedInvocation} {dispatchId : String}
    (h : queueOutboxDispatch approved sessionId now stamp db = .ok (dispatchId, db')) :
    Beside db db' := by
  rcases queueOutboxDispatch_eq_ok h with rfl | ⟨payload, happ⟩
  · exact beside_outbox db _
  · exact (beside_outbox db _).trans (beside_append happ (by decide))

lemma beside_leaseNextOutboxDispatch {leased : Option LeasedOutboxDispatch}
    (h : leaseNextOutboxDispatch now stamp db = .ok (leased, db')) : Beside db db' := by
  rcases leaseNextOutboxDispatch_eq_ok h with ⟨-, rfl⟩ | ⟨row, -, -, -, payload, happ⟩
  · exact .refl _
  · exact (beside_outbox db _).trans (beside_append happ (by decide))

lemma ofSettlement_beside : OfSettlement Beside where
  refl := .refl
  trans := .trans
  append hkind h := beside_append h hkind
  status runId _ now db hstatus := .setRunStatus runId hstatus now db
  settle h _ := beside_settleOutboxRow h

lemma beside_writeOutcome {leased : LeasedOutboxDispatch} {outcome : AdapterOutcome}
    (h : writeOutcome leased outcome now stamps db = .ok db') : Beside db db' := by
  cases outcome with
  | error error => exact ofSettlement_beside.unknown h
  | ok receipt =>
    simp only [writeOutcome] at h
    split at h
    · exact ofSettlement_beside.succeed h
    · exact ofSettlement_beside.fail h
    · exact ofSettlement_beside.unknown h

lemma beside_dispatchOnce (x : DispatchInput) (d : Dispatcher) (db : Db) :
    Beside db (dispatchOnce x d db).2 := by
  unfold dispatchOnce
  split
  · exact .refl db
  cases d with
  | idle =>
    simp only
    split
    · next hlease => exact beside_leaseNextOutboxDispatch hlease
    · next hlease => exact beside_leaseNextOutboxDispatch hlease
    · exact .refl db
  | leased leased => exact .refl db
  | executed leased outcome => exact .commit fun _ hwrite => beside_writeOutcome hwrite

lemma beside_recoverInvocation {invocation : UnknownInvocation}
    (h : recoverInvocation invocation now stamp db = .ok db') : Beside db db' := by
  obtain ⟨db₁, happ, h⟩ := bind_eq_ok.mp h
  have hbefore : ∀ outbox, Beside db { db₁ with outbox := outbox } :=
    fun outbox => (beside_append happ (by decide)).trans (beside_outbox db₁ outbox)
  split at h
  · next runId _ =>
    rw [← return_eq_ok.mp h]
    exact (hbefore _).trans (.setRunStatus runId (by decide) now _)
  · rw [← return_eq_ok.mp h]
    exact hbefore _

end Calls

/-! ## What a delivery does -/

def driven : Delivery → Option RunContext
  | .starting c => some c
  | .thinking c _ => some c
  | .invoking c _ => some c
  | .looping c => some c
  | .replying c _ => some c
  | .failing c _ _ => some c
  | _ => none

def startingOf : Delivery → Option EventId
  | .starting c => some c.event.eventId
  | _ => none

def noticeOf : Reply → Bool
  | .proposing _ notice => notice
  | .approving _ notice => notice
  | .queueing _ notice => notice
  | _ => false

def Default : Delivery → Prop
  | .opening c => c.runtime = .v0
  | .creatingSession c _ => c.runtime = .v0
  | .readying c _ => c.runtime = .v0
  | .pinning c _ => c.runtime = .v0
  | .inserting c => c.runtime = .v0 ∧ c.run.triggerEventId = c.event.eventId
  | .replying c reply => c.runtime = .v0 ∧ noticeOf reply = false
  | .starting c => c.runtime = .v0
  | .thinking c _ => c.runtime = .v0
  | .invoking c _ => c.runtime = .v0
  | .failing c _ _ => c.runtime = .v0
  | .reporting c _ _ => c.runtime = .v0
  | .completing c => c.runtime = .v0
  | .ended _ => True
  | _ => False

inductive Progress [Platform] (x : DeliveryInput) (db : Db) : Delivery → Delivery → Db → Prop
  | outside {d d' : Delivery} {db' : Db} (hd : driven d = none) (hd' : driven d' = none)
      (h : Beside db db') : Progress x db d d' db'
  | inserted {c : RunContext} {db' : Db} (htrigger : c.run.triggerEventId = c.event.eventId)
      (h : insertRun c.run db = .ok db') : Progress x db (.inserting c) (.starting c) db'
  | started {c : RunContext} {payload : Json} {db' : Db}
      (h : c.append x .runStarted (some c.event.eventId) payload db = .ok db') :
      Progress x db (.starting c) (.thinking c 0) db'
  /-- The start is not recorded, and the run keeps its status. -/
  | dropped {c : RunContext}
      (h : x.refusal ≠ none ∨ x.stamp.eventId ∈ db.journal.rows.map JournalRow.eventId) :
      Progress x db (.starting c) (.ended false) db
  | worked {c : RunContext} {d d' : Delivery} {db' : Db} (hd : driven d = some c)
      (hd' : driven d' = some c) (hstart : startingOf d = none) (hstart' : startingOf d' = none)
      (hloop : loopOf d' = none ∨ loopOf d' = loopOf d) (h : Beside db db') :
      Progress x db d d' db'
  | settled {c : RunContext} {d d' : Delivery} {status : RunStatus} (hd : driven d = some c)
      (hd' : driven d' = none) (hstart : startingOf d = none) (hstatus : status ≠ .running) :
      Progress x db d d' (setRunStatus c.run.id status x.now db)
  /-- The failure is not written, and the run keeps its status. -/
  | stuck {c : RunContext} {category reason : String} (h : x.refusal ≠ none) :
      Progress x db (.failing c category reason) (.ended false) db

section Deliveries

variable [Platform] {x : DeliveryInput} {c : RunContext}

lemma beside_append_of (h : c.append x kind correlationId payload db = .ok db')
    (hkind : kind ≠ .runStarted) :
    Beside db db' := beside_append h hkind

lemma progress_reply {r : Reply} (hc : c.runtime = .v0) (hr : noticeOf r = false) (db : Db) :
    Progress x db (.replying c r) (Delivery.reply c x r db).1 (Delivery.reply c x r db).2 ∧
      Default (Delivery.reply c x r db).1 := by
  have hfailed : ∀ {db'} reason, Beside db db' →
      Progress x db (.replying c r) (.afterReply c (.failed reason)) db' ∧
        Default (.afterReply c (.failed reason)) := by
    intro db' reason h
    simp only [Delivery.afterReply, hc]
    exact ⟨.worked rfl rfl rfl rfl (.inl rfl) h, hc⟩
  have hnext : ∀ {db'} r', noticeOf r' = false → Beside db db' →
      Progress x db (.replying c r) (.afterReply c (.next r')) db' ∧
        Default (.afterReply c (.next r')) :=
    fun r' hr' h => ⟨.worked rfl rfl rfl rfl (.inl rfl) h, hc, hr'⟩
  have hdone : ∀ status, status ≠ .running →
      Progress x db (.replying c r) (.afterReply c .done)
          (setRunStatus c.run.id status x.now db) ∧ Default (.afterReply c .done) := by
    intro status hstatus
    simp only [Delivery.afterReply, hc]
    exact ⟨.settled rfl rfl rfl hstatus, hc⟩
  unfold Delivery.reply
  cases r with
  | proposing intent notice =>
    simp only [Reply.act, propose]
    split
    · exact hfailed _ (.refl db)
    · next happ =>
      have hbeside := beside_append_of happ (by decide)
      split
      · exact hnext _ hr hbeside
      · exact hfailed _ hbeside
  | approving approved notice =>
    simp only [Reply.act, recordApproved]
    split
    · next happ =>
      refine hnext _ ?_ (beside_append_of happ (by decide))
      unfold enqueueOrPause
      split
      · rfl
      · exact hr
    · exact hfailed _ (.refl db)
  | requesting approved =>
    simp only [Reply.act, requestApproval]
    split
    · next happ => exact hnext _ rfl (beside_append_of happ (by decide))
    · exact hfailed _ (.refl db)
  | pausing | dispatching => exact hdone _ (by decide)
  | queueing approved notice =>
    obtain rfl : notice = false := hr
    simp only [Reply.act, queueReply]
    split
    · next hqueue => exact hnext _ rfl (beside_queueOutboxDispatch hqueue)
    · exact hfailed _ (.refl db)

lemma progress_invoke (hc : c.runtime = .v0) (hx : StartsNothing x.event) (db : Db) :
    Progress x db (.invoking c calls) (Delivery.invoke c x calls db).1
        (Delivery.invoke c x calls db).2 ∧ Default (Delivery.invoke c x calls db).1 := by
  unfold Delivery.invoke
  split
  · next kind correlationId payload hevent =>
    split
    · next happ =>
      rw [hevent] at hx
      exact ⟨.worked rfl rfl rfl rfl (.inr rfl) (beside_append_of happ hx), hc⟩
    · exact ⟨.worked rfl rfl rfl rfl (.inl rfl) (.refl db), hc⟩
  · exact ⟨.worked rfl rfl rfl rfl (.inr rfl) (.refl db), hc⟩
  · exact ⟨.worked rfl rfl rfl rfl (.inl rfl) (.refl db), hc⟩
  · exact ⟨.worked rfl rfl rfl rfl (.inr rfl) (.refl db), hc⟩

lemma progress_think (hc : c.runtime = .v0) (db : Db) :
    Progress x db (.thinking c calls) (Delivery.think c x calls) db ∧
      Default (Delivery.think c x calls) := by
  unfold Delivery.think
  split
  · exact ⟨.worked rfl rfl rfl rfl (.inl rfl) (.refl db), hc, rfl⟩
  · split
    · exact ⟨.worked rfl rfl rfl rfl (.inl rfl) (.refl db), hc⟩
    · exact ⟨.worked rfl rfl rfl rfl (.inr rfl) (.refl db), hc⟩
  · exact ⟨.worked rfl rfl rfl rfl (.inl rfl) (.refl db), hc⟩
  · exact ⟨.worked rfl rfl rfl rfl (.inr rfl) (.refl db), hc⟩

lemma progress_start (hc : c.runtime = .v0) (db : Db) :
    Progress x db (.starting c) (Delivery.start c x db).1 (Delivery.start c x db).2 ∧
      Default (Delivery.start c x db).1 := by
  unfold Delivery.start
  split
  · next happ =>
    rw [hc]
    exact ⟨.started happ, hc⟩
  · next reason hfailed =>
    refine ⟨.dropped (.inr ?_), trivial⟩
    by_contra hfresh
    obtain ⟨db', happ⟩ := db.append_of_fresh .runStarted (some c.run.id) (some c.session.id)
      (some c.event.eventId) _ hfresh
    rw [RunContext.append, happ] at hfailed
    cases hfailed

lemma progress_pin {c : DeliveryContext} (session : Session) (hc : c.runtime = .v0) (db : Db) :
    Progress x db (.pinning c session) (Delivery.pin c x session) db ∧
      Default (Delivery.pin c x session) := by
  unfold Delivery.pin
  split
  · exact ⟨.outside rfl rfl (.refl db), trivial⟩
  · split
    · exact ⟨.outside rfl rfl (.refl db), trivial⟩
    · simp only [hc]
      exact ⟨.outside rfl rfl (.refl db), rfl, rfl⟩

lemma progress_next (hd : Default d) (hx : StartsNothing x.event) (db : Db) :
    Progress x db d (d.next x db).1 (d.next x db).2 ∧ Default (d.next x db).1 := by
  have hout : ∀ {d d' : Delivery}, driven d = none → driven d' = none → Progress x db d d' db :=
    fun hd hd' => .outside hd hd' (.refl db)
  cases d with
  | opening c =>
    simp only [Delivery.next, Delivery.openSession]
    split
    · exact ⟨hout rfl rfl, hd⟩
    · exact ⟨hout rfl rfl, hd⟩
  | creatingSession c session =>
    simp only [Delivery.next, Delivery.createSession]
    split
    · next hinsert =>
      obtain ⟨-, sessions, -, rfl⟩ := insertSession_eq_ok hinsert
      exact ⟨.outside rfl rfl (.of_tables rfl rfl rfl), hd⟩
    · exact ⟨hout rfl rfl, trivial⟩
  | readying c session =>
    simp only [Delivery.next, Delivery.recordReady]
    split
    · next happ => exact ⟨.outside rfl rfl (beside_append happ (by decide)), hd⟩
    · exact ⟨hout rfl rfl, trivial⟩
  | pinning c session => exact progress_pin session hd db
  | inserting c =>
    simp only [Delivery.next, Delivery.insert]
    split
    · next hinsert => exact ⟨.inserted hd.2 hinsert, hd.1⟩
    · exact ⟨hout rfl rfl, trivial⟩
  | starting c => exact progress_start hd db
  | thinking c calls => exact progress_think hd db
  | invoking c calls => exact progress_invoke hd hx db
  | replying c r => exact progress_reply hd.1 hd.2 db
  | failing c category reason => exact ⟨.settled rfl rfl rfl (by decide), hd⟩
  | reporting c category reason =>
    have hc : c.runtime = .v0 := hd
    simp only [Delivery.next, Delivery.report, hc]
    exact ⟨.outside rfl rfl (.commit fun _ happ => beside_append_of happ (by decide)), trivial⟩
  | completing c => exact ⟨.outside rfl rfl (.setRunStatus _ (by decide) _ db), trivial⟩
  | ended ok => exact ⟨hout rfl rfl, trivial⟩
  | budgeting c | looping c | answered c text | judging c text | presenting c text => exact hd.elim

lemma progress_refuse (hd : Default d) {reason : String} (hx : x.refusal = some reason)
    (db : Db) : Progress x db d (d.refuse reason) db ∧ Default (d.refuse reason) := by
  have hrefused : x.refusal ≠ none := by
    rw [hx]
    simp
  have hout : ∀ {d d' : Delivery}, driven d = none → driven d' = none → Progress x db d d' db :=
    fun hd hd' => .outside hd hd' (.refl db)
  cases d with
  | starting c => exact ⟨.dropped (.inl hrefused), trivial⟩
  | thinking c calls | invoking c calls =>
    exact ⟨.worked rfl rfl rfl rfl (.inl rfl) (.refl db), hd⟩
  | replying c r =>
    have hc : c.runtime = .v0 := hd.1
    simp only [Delivery.refuse, Delivery.afterReply, hc]
    exact ⟨.worked rfl rfl rfl rfl (.inl rfl) (.refl db), hc⟩
  | failing c category reason => exact ⟨.stuck hrefused, trivial⟩
  | looping c | judging c text => exact hd.elim
  | _ => exact ⟨hout rfl rfl, trivial⟩

lemma progress_act (hd : Default d) (hx : StartsNothing x.event) (db : Db) :
    Progress x db d (d.act x db).1 (d.act x db).2 ∧ Default (d.act x db).1 := by
  unfold Delivery.act
  split
  · next hrefusal => exact progress_refuse hd hrefusal db
  · exact progress_next hd hx db

end Deliveries

/-! ## Jobs -/

def jobStatus (eventId : EventId) (db : Db) : Option WorkerJobStatus :=
  (db.workerJobs.find? (workerJobId eventId)).map WorkerJobRow.status

def Named (db : Db) : Prop :=
  ∀ job ∈ db.workerJobs, job.jobId = workerJobId job.sourceEventId

structure KeepsJobs (db db' : Db) : Prop where
  named : Named db → Named db'
  succeeded : ∀ eventId, jobStatus eventId db = some .succeeded →
    jobStatus eventId db' = some .succeeded

namespace KeepsJobs

lemma of_jobs (h : db'.workerJobs = db.workerJobs) : KeepsJobs db db' where
  named hnamed job hjob := hnamed job (h ▸ hjob)
  succeeded eventId hstatus := by rwa [jobStatus, h]

lemma trans (h : KeepsJobs a b) (h' : KeepsJobs b c) : KeepsJobs a c :=
  ⟨fun hnamed => h'.named (h.named hnamed),
    fun eventId hstatus => h'.succeeded eventId (h.succeeded eventId hstatus)⟩

variable {p : WorkerJobRow → Bool} {f : WorkerJobRow → WorkerJobRow}

lemma update {hf : ∀ r, (f r).jobId = r.jobId} (h : db'.workerJobs = db.workerJobs.update p f hf)
    (hp : ∀ r, p r = true → r.status ≠ .succeeded)
    (hsource : ∀ r, (f r).sourceEventId = r.sourceEventId) : KeepsJobs db db' where
  named hnamed job hjob := by
    rw [h] at hjob
    obtain ⟨old, hold, rfl⟩ := mem_update.mp hjob
    split
    · rw [hf, hsource]
      exact hnamed old hold
    · exact hnamed old hold
  succeeded eventId hstatus := by
    obtain ⟨job, hjob, hsucceeded⟩ := Option.map_eq_some_iff.mp hstatus
    have hpass : p job = false := by
      cases hpj : p job with
      | false => rfl
      | true => exact absurd hsucceeded (hp job hpj)
    rw [jobStatus, h, find?_update, hjob]
    simp [hpass, hsucceeded]

lemma insertOrIgnore (h : db'.workerJobs = (db.workerJobs.insertOrIgnore job).1)
    (hjob : job.jobId = workerJobId job.sourceEventId) : KeepsJobs db db' where
  named hnamed r hr := by
    rw [h] at hr
    rcases mem_of_mem_insertOrIgnore hr with hold | rfl
    · exact hnamed r hold
    · exact hjob
  succeeded eventId hstatus := by
    obtain ⟨old, hold, hsucceeded⟩ := Option.map_eq_some_iff.mp hstatus
    rw [jobStatus, h, find?_insertOrIgnore, hold]
    simp [hsucceeded]

end KeepsJobs

structure JobsOnly (db db' : Db) : Prop extends BesideRuns db db', KeepsJobs db db'

lemma Beside.jobsOnly (h : Beside db db') : JobsOnly db db' :=
  ⟨h.toBesideRuns, .of_jobs h.jobs⟩

lemma JobsOnly.trans (h : JobsOnly a b) (h' : JobsOnly b c) : JobsOnly a c where
  keys := h'.keys.trans h.keys
  running run hrun hstatus := h.status (h'.running run hrun hstatus)
  starts := h'.starts.trans h.starts
  named := (h.toKeepsJobs.trans h'.toKeepsJobs).named
  succeeded := (h.toKeepsJobs.trans h'.toKeepsJobs).succeeded

lemma JobsOnly.refl (db : Db) : JobsOnly db db := (Beside.refl db).jobsOnly

lemma JobsOnly.commit (h : ∀ db', result = .ok db' → JobsOnly db db') :
    JobsOnly db (commit db result) :=
  commit_cases (.refl db) h

lemma JobsOnly.of_jobs (db : Db) {jobs : Table WorkerJobRow.jobId}
    (h : KeepsJobs db { db with workerJobs := jobs }) : JobsOnly db { db with workerJobs := jobs } :=
  ⟨⟨rfl, (Beside.refl db).running, rfl⟩, h⟩

lemma JobsOnly.update (db : Db)
    {hf : ∀ r, (f r).jobId = r.jobId} (hp : ∀ r, p r = true → r.status ≠ .succeeded)
    (hsource : ∀ r, (f r).sourceEventId = r.sourceEventId) :
    JobsOnly db { db with workerJobs := db.workerJobs.update p f hf } :=
  .of_jobs db (@KeepsJobs.update db _ p f hf rfl hp hsource)

lemma ne_succeeded_of_jobReady (h : jobReady now job = true) : job.status ≠ .succeeded := by
  intro hstatus
  simp [jobReady, hstatus] at h

section JobCalls

variable [Platform] {now : Timestamp} {stamp : Stamp} {stamps : Nat → Stamp}

lemma jobsOnly_lease {leased : Option (JobType × EventId)}
    (h : leaseNextWorkerJob now stamp db = .ok (leased, db')) : JobsOnly db db' := by
  rcases leaseNextWorkerJob_eq_ok h with ⟨-, rfl⟩ | ⟨job, -, -, -, -, payload, happ⟩
  · exact .refl _
  · refine .trans ?_ (beside_append happ (by decide)).jobsOnly
    refine .update db (fun r hr => ?_) fun _ => rfl
    exact ne_succeeded_of_jobReady (Bool.and_eq_true_iff.mp hr).2

lemma jobStatus_of_lease {jobType : JobType}
    (h : leaseNextWorkerJob now stamp db = .ok (some (jobType, eventId), db')) (hnamed : Named db) :
    jobStatus eventId db ≠ some .succeeded := by
  rcases leaseNextWorkerJob_eq_ok h with ⟨hnone, -⟩ | ⟨job, hjob, -, hready, hleased, -⟩
  · cases hnone
  · cases hleased
    rw [jobStatus, ← hnamed job hjob, find?_of_mem hjob]
    exact fun heq => ne_succeeded_of_jobReady hready (Option.some.inj heq)

lemma jobsOnly_settle (hkind : kind ≠ .runStarted)
    (h : settleWorkerJob eventId status kind category extra now stamp db = .ok db') :
    JobsOnly db db' := by
  simp only [settleWorkerJob] at h
  split at h
  · refine .trans ?_ (beside_append h hkind).jobsOnly
    exact .update db (fun r hr => (of_decide_eq_true hr).2) fun _ => rfl
  · cases h
    exact .refl _

lemma jobsOnly_insertDeliverJob (h : insertDeliverJob eventId now stamp db = .ok db') :
    JobsOnly db db' := by
  have hjobs : JobsOnly db { db with
      workerJobs := (db.workerJobs.insertOrIgnore (newJob .deliverEvent eventId now)).1 } :=
    .of_jobs db (.insertOrIgnore rfl rfl)
  simp only [insertDeliverJob] at h
  split at h
  · exact hjobs.trans (beside_append h (by decide)).jobsOnly
  · rw [← Except.ok.inj h]
    exact hjobs

lemma jobsOnly_accept (event : ValidatedEvent) (payload : Json) (now : Timestamp)
    (stamps : Nat → Stamp) (db : Db) :
    JobsOnly db (commit db ((acceptIngressWithWorkerJob event payload now stamps db).map Prod.snd)) := by
  refine .commit fun db' h => ?_
  obtain ⟨jobId, haccept⟩ := map_snd_eq_ok h
  obtain ⟨db₁, happ, h⟩ := bind_eq_ok.mp haccept
  obtain ⟨db₂, hjob, ⟨⟩⟩ := bind_eq_ok.mp h
  exact (beside_append happ (by decide)).jobsOnly.trans (jobsOnly_insertDeliverJob hjob)

lemma jobsOnly_enqueue (eventId : EventId) (now : Timestamp) (stamp : Stamp) (db : Db) :
    JobsOnly db (commit db ((enqueueWorkerJob eventId now stamp db).map Prod.snd)) := by
  refine .commit fun db' h => ?_
  obtain ⟨jobId, henqueue⟩ := map_snd_eq_ok h
  obtain ⟨db₁, hjob, ⟨⟩⟩ := bind_eq_ok.mp henqueue
  exact jobsOnly_insertDeliverJob hjob

lemma jobsOnly_apply (o : Outside) (db : Db) : JobsOnly db (o.apply db) := by
  cases o with
  | accept event payload now stamps => exact jobsOnly_accept event payload now stamps db
  | recoverUnknown invocation now stamp =>
    simp only [Outside.apply]
    split
    · exact (Beside.commit fun _ h => beside_recoverInvocation h).jobsOnly
    · exact .refl db
  | repair stale now =>
    simp only [Outside.apply]
    split
    · exact (beside_outbox db _).jobsOnly
    · exact .refl db
  | enqueue eventId now stamp =>
    simp only [Outside.apply]
    split
    · exact jobsOnly_enqueue eventId now stamp db
    · exact .refl db
  | elsewhere db' =>
    simp only [Outside.apply]
    split
    · next h => exact h.jobsOnly
    · exact .refl db

end JobCalls

end AgentCore.Server.Workers
