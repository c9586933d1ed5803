import AgentCore.Journal.RunStatus
import AgentCore.Runtime.Dispatcher
import AgentCore.Server.Delivery

/-! Deliveries, dispatchers and decisions side by side. A run that is completed or failed
keeps its status as long as nobody has another status left to write when it gets it. -/

namespace AgentCore.Server

open Foundation Domain Journal Gateway AgentCore.Runtime List Pool

/-! ## The statuses a call may still write -/

variable {d : Delivery} {w : RunId × RunStatus} {db : Db} {runId : RunId}

def RunContext.closing (c : RunContext) : List RunStatus :=
  match c.runtime with
  | .v0 => [.completed, .failed]
  | .legacy => []

def Reply.writes (c : RunContext) : Reply → List RunStatus
  | proposing _ notice =>
    if notice then c.closing else .awaitingApproval :: .waitingDispatch :: c.closing
  | approving _ notice =>
    if notice then c.closing else .awaitingApproval :: .waitingDispatch :: c.closing
  | requesting _ => .awaitingApproval :: c.closing
  | pausing => .awaitingApproval :: c.closing
  | queueing _ notice => if notice then c.closing else .waitingDispatch :: c.closing
  | dispatching => .waitingDispatch :: c.closing

def allWrites : List RunStatus := [.awaitingApproval, .waitingDispatch, .completed, .failed]

def Delivery.writes : Delivery → List (RunId × RunStatus)
  | starting c => allWrites.map (c.run.id, ·)
  | thinking c _ => allWrites.map (c.run.id, ·)
  | invoking c _ => allWrites.map (c.run.id, ·)
  | looping c => allWrites.map (c.run.id, ·)
  | answered c _ => allWrites.map (c.run.id, ·)
  | judging c _ => allWrites.map (c.run.id, ·)
  | presenting c _ => allWrites.map (c.run.id, ·)
  | replying c reply => (reply.writes c).map (c.run.id, ·)
  | failing c _ _ => [(c.run.id, .failed)]
  | completing c => [(c.run.id, .completed)]
  | _ => []

def decisionWrites : Decision → List (RunId × RunStatus)
  | .approving runId => [(runId, .waitingDispatch)]
  | .granting approved _ => [(approved.intent.runId, .waitingDispatch)]
  | .queueing approved _ => [(approved.intent.runId, .waitingDispatch)]
  | .resuming runId => [(runId, .waitingDispatch)]
  | .denying runId => [(runId, .failed)]
  | .refusing runId _ _ => [(runId, .failed)]
  | .failing runId => [(runId, .failed)]
  | .expiring _ _ stale => stale.map fun s => (s.runId, .failed)
  | .expired _ _ runId rest => (runId, .failed) :: rest.map fun s => (s.runId, .failed)
  | _ => []

/-! ## Deliveries -/

lemma Reply.writes_subset (c : RunContext) (r : Reply) : r.writes c ⊆ allWrites := by
  have hclosing : c.closing ⊆ allWrites := by
    unfold RunContext.closing
    split <;> decide
  have hawaiting : .awaitingApproval ∈ allWrites := by decide
  have hwaiting : .waitingDispatch ∈ allWrites := by decide
  cases r with
  | proposing intent notice | approving approved notice =>
    cases notice
    · exact cons_subset.mpr ⟨hawaiting, cons_subset.mpr ⟨hwaiting, hclosing⟩⟩
    · exact hclosing
  | requesting approved | pausing => exact cons_subset.mpr ⟨hawaiting, hclosing⟩
  | queueing approved notice =>
    cases notice
    · exact cons_subset.mpr ⟨hwaiting, hclosing⟩
    · exact hclosing
  | dispatching => exact cons_subset.mpr ⟨hwaiting, hclosing⟩

lemma Reply.closing_subset (c : RunContext) (r : Reply) : c.closing ⊆ r.writes c := by
  cases r with
  | proposing intent notice | approving approved notice | queueing approved notice =>
    cases notice <;> simp [writes]
  | _ => simp [writes]

lemma closing_afterReply (c : RunContext) (h : ∀ r, result ≠ .next r) :
    (Delivery.afterReply c result).writes ⊆ c.closing.map (c.run.id, ·) := by
  cases result with
  | next r => exact absurd rfl (h r)
  | done | failed reason => cases hruntime : c.runtime <;>
      simp [Delivery.afterReply, RunContext.closing, hruntime, Delivery.writes]

lemma writes_enqueueOrPause (c : RunContext) (approved : ApprovedInvocation) (notice : Bool) :
    (enqueueOrPause c approved notice).writes c ⊆ (Reply.approving approved notice).writes c := by
  unfold enqueueOrPause
  cases notice with
  | true => simp [Reply.writes]
  | false =>
    split
    · simp [Reply.writes]
    · simp [Reply.writes]

section Deliveries

variable [Platform] {c : RunContext} {x : DeliveryInput} {db' : Db} {r : Reply}

lemma RunContext.runs_append (h : c.append x kind correlationId payload db = .ok db') :
    db'.runs = db.runs := Journal.runs_append h

inductive Reply.Step (c : RunContext) (x : DeliveryInput) (db : Db) : Reply → ReplyResult → Db → Prop
  | failed {r reason db'} (hruns : db'.runs = db.runs) : Step c x db r (.failed reason) db'
  | proposed {intent notice approved db'} (hruns : db'.runs = db.runs) :
      Step c x db (.proposing intent notice) (.next (.approving approved notice)) db'
  | approved {approved notice db'} (hruns : db'.runs = db.runs) :
      Step c x db (.approving approved notice) (.next (enqueueOrPause c approved notice)) db'
  | requested {approved db'} (hruns : db'.runs = db.runs) :
      Step c x db (.requesting approved) (.next .pausing) db'
  | paused : Step c x db .pausing .done (setRunStatus c.run.id .awaitingApproval x.now db)
  | queued {approved db'} (hruns : db'.runs = db.runs) :
      Step c x db (.queueing approved false) (.next .dispatching) db'
  | noticed {approved db'} (hruns : db'.runs = db.runs) :
      Step c x db (.queueing approved true) .done db'
  | dispatched : Step c x db .dispatching .done (setRunStatus c.run.id .waitingDispatch x.now db)

lemma Reply.act_step (c : RunContext) (x : DeliveryInput) (r : Reply) (db : Db) :
    Reply.Step c x db r (r.act c x db).1 (r.act c x db).2 := by
  cases r with
  | proposing intent notice =>
    simp only [Reply.act, propose]
    split
    · exact .failed rfl
    · next db' happ =>
      have hruns := RunContext.runs_append happ
      split
      · exact .proposed hruns
      · exact .failed hruns
  | approving approved notice =>
    simp only [Reply.act, recordApproved]
    split
    · next happ => exact .approved (RunContext.runs_append happ)
    · exact .failed rfl
  | requesting approved =>
    simp only [Reply.act, requestApproval]
    split
    · next happ => exact .requested (RunContext.runs_append happ)
    · exact .failed rfl
  | pausing => exact .paused
  | queueing approved notice =>
    simp only [Reply.act, queueReply]
    split
    · next hqueue =>
      have hruns := runs_queueOutboxDispatch hqueue
      cases notice
      · exact .queued hruns
      · exact .noticed hruns
    · exact .failed rfl
  | dispatching => exact .dispatched

omit [Platform] in
lemma Reply.Step.writes (h : Reply.Step c x db r result db') :
    (Delivery.afterReply c result).writes ⊆ (Delivery.replying c r).writes := by
  have hclosed : (∀ r', result ≠ .next r') →
      (Delivery.afterReply c result).writes ⊆ (Delivery.replying c r).writes :=
    fun hne => List.Subset.trans (closing_afterReply c hne) (map_subset _ (r.closing_subset c))
  cases h with
  | failed hruns | paused | noticed hruns | dispatched => exact hclosed fun _ => by simp
  | proposed hruns | requested hruns | queued hruns =>
    exact map_subset _ (by simp [Reply.writes])
  | approved hruns => exact map_subset _ (writes_enqueueOrPause c _ _)

omit [Platform] in
lemma Reply.Step.status (h : Reply.Step c x db r result db') :
    WritesStatus db db' (Delivery.replying c r).writes := by
  cases h with
  | paused | dispatched => exact WritesStatus.set (by simp [Delivery.writes, Reply.writes]) x.now db
  | _ => exact .of_runs ‹_› _

namespace Delivery

lemma next_status (x : DeliveryInput) (d : Delivery) (db : Db) :
    WritesStatus db (d.next x db).2 d.writes := by
  have hsame : ∀ written, WritesStatus db db written := WritesStatus.of_runs rfl
  cases d with
  | creatingSession c session =>
    simp only [next, createSession]
    split
    · next hsession =>
      obtain ⟨sessions, rfl⟩ := insertSession_eq_ok hsession
      exact .of_runs rfl _
    · exact hsame _
  | readying c session =>
    simp only [next, recordReady]
    split
    · next happ => exact .of_runs (Journal.runs_append happ) _
    · exact hsame _
  | budgeting c =>
    simp only [next, budget]
    split
    · split
      · next happ => exact WritesStatus.of_runs (RunContext.runs_append happ) _
      · exact hsame _
    · exact hsame _
  | inserting c =>
    simp only [next, insert]
    split
    · next hinsert => exact .insertRun hinsert _
    · exact hsame _
  | starting c =>
    simp only [next, start]
    split
    · next happ => exact WritesStatus.of_runs (RunContext.runs_append happ) _
    · exact hsame _
  | invoking c calls =>
    simp only [next, invoke]
    split
    · split
      · next happ => exact WritesStatus.of_runs (RunContext.runs_append happ) _
      · exact hsame _
    all_goals exact hsame _
  | looping c =>
    simp only [next, loop]
    split
    · split
      · next happ => exact WritesStatus.of_runs (RunContext.runs_append happ) _
      · exact hsame _
    · exact WritesStatus.set (by simp [writes, allWrites]) x.now db
    all_goals exact hsame _
  | replying c r => exact (r.act_step c x db).status
  | failing c category reason | completing c =>
    exact .set (mem_singleton_self _) x.now db
  | reporting c category reason =>
    simp only [next, report]
    split
    · unfold commit
      split
      · next happ => exact WritesStatus.of_runs (RunContext.runs_append happ) _
      · exact hsame _
    · split
      · next happ => exact WritesStatus.of_runs (RunContext.runs_append happ) _
      · exact hsame _
  | _ => exact hsame _

lemma act_status (x : DeliveryInput) (d : Delivery) (db : Db) :
    WritesStatus db (d.act x db).2 d.writes := by
  unfold act
  split
  · exact .of_runs rfl _
  · exact d.next_status x db

def context : Delivery → Option RunContext
  | starting c => some c
  | thinking c _ => some c
  | invoking c _ => some c
  | looping c => some c
  | answered c _ => some c
  | judging c _ => some c
  | presenting c _ => some c
  | replying c _ => some c
  | failing c _ _ => some c
  | reporting c _ _ => some c
  | completing c => some c
  | _ => none

omit [Platform] in
lemma writes_subset (h : ∀ c' ∈ d.context, c' = c) : d.writes ⊆ allWrites.map (c.run.id, ·) := by
  have hone : ∀ s ∈ allWrites, [(c.run.id, s)] ⊆ allWrites.map (c.run.id, ·) := by
    intro s hs
    exact cons_subset.mpr ⟨mem_map_of_mem hs, nil_subset _⟩
  cases d with
  | replying c' r =>
    obtain rfl : c' = c := h c' rfl
    exact map_subset _ (r.writes_subset c')
  | failing c' category reason =>
    obtain rfl : c' = c := h c' rfl
    exact hone .failed (by decide)
  | completing c' =>
    obtain rfl : c' = c := h c' rfl
    exact hone .completed (by decide)
  | opening c' | creatingSession c' session | readying c' session | pinning c' session
  | budgeting c' | inserting c' | reporting c' category reason | ended ok => exact nil_subset _
  | _ =>
    obtain rfl := h _ rfl
    exact List.Subset.refl _

omit [Platform] in
lemma context_afterReply (h : c' ∈ (afterReply c result).context) : c' = c := by
  cases result <;> cases hruntime : c.runtime <;> simp_all [afterReply, context]

lemma context_next (hd : c ∈ d.context) (h : c' ∈ (d.next x db).1.context) : c' = c := by
  cases d with
  | starting c₀ =>
    obtain rfl : c₀ = c := Option.some.inj hd
    simp only [next, start] at h
    split at h
    · cases hruntime : c₀.runtime <;> simp_all [context]
    · cases h
  | thinking c₀ calls =>
    cases hd
    simp only [next, think] at h
    split at h
    · simp_all [context]
    · split at h <;> simp_all [context]
    all_goals simp_all [context]
  | invoking c₀ calls =>
    cases hd
    simp only [next, invoke] at h
    split at h
    · split at h <;> simp_all [context]
    all_goals simp_all [context]
  | looping c₀ =>
    cases hd
    simp only [next, loop] at h
    split at h
    · split at h <;> simp_all [context]
    all_goals simp_all [context]
  | answered c₀ text =>
    cases hd
    simp only [next] at h
    split at h <;> simp_all [context]
  | judging c₀ text =>
    cases hd
    simp only [next, judge] at h
    split at h <;> simp_all [context]
  | presenting c₀ text | failing c₀ category reason =>
    cases hd
    exact (Option.some.inj h).symm
  | replying c₀ r =>
    cases hd
    exact context_afterReply h
  | reporting c₀ category reason =>
    cases hd
    simp only [next, report] at h
    split at h
    · cases h
    · split at h <;> simp_all [context]
  | completing c₀ => cases h
  | _ => cases hd

lemma next_writes (h : w ∈ (d.next x db).1.writes) : w ∈ d.writes ∨ runStatus w.1 db = none := by
  have hfull : ∀ c, c ∈ d.context → w ∈ allWrites.map (c.run.id, ·) :=
    fun c hc => writes_subset (fun _ hc' => context_next hc hc') h
  cases d with
  | opening c =>
    simp only [next, openSession] at h
    split at h <;> cases h
  | creatingSession c session =>
    simp only [next, createSession] at h
    split at h <;> cases h
  | readying c session =>
    simp only [next, recordReady] at h
    split at h <;> cases h
  | pinning c session =>
    simp only [next, pin] at h
    split at h
    · cases h
    · split at h
      · cases h
      · split at h <;> cases h
  | budgeting c =>
    simp only [next, budget] at h
    split at h
    · split at h <;> cases h
    · cases h
  | inserting c =>
    simp only [next, insert] at h
    split at h
    · next hinsert =>
      obtain ⟨s, -, rfl⟩ := mem_map.mp h
      exact .inr (runStatus_of_insertRun hinsert)
    · cases h
  | replying c r => exact .inl ((r.act_step c x db).writes h)
  | failing c category reason => cases h
  | reporting c category reason =>
    simp only [next, report] at h
    split at h
    · cases h
    · next hlegacy =>
      split at h
      · simp [writes, Reply.writes, RunContext.closing, hlegacy] at h
      · cases h
  | completing c => cases h
  | ended ok => cases h
  | _ => exact .inl (hfull _ rfl)

lemma act_writes (h : w ∈ (d.act x db).1.writes) : w ∈ d.writes ∨ runStatus w.1 db = none := by
  unfold act at h
  split at h
  · next reason _ =>
    left
    have hfailed : .failed ∈ allWrites := by decide
    cases d with
    | thinking c calls | invoking c calls =>
      obtain rfl : w = (c.run.id, .failed) := mem_singleton.mp h
      exact mem_map_of_mem hfailed
    | judging c text => exact h
    | replying c r =>
      have hclosed : w ∈ (afterReply c (.failed reason)).writes := h
      exact map_subset _ (r.closing_subset c) (closing_afterReply c (by simp) hclosed)
    | _ => cases h
  · exact next_writes h

end Delivery

end Deliveries

/-! ## Decisions -/

section Decisions

variable [Platform] {x : DecisionInput}

lemma decision_status (x : DecisionInput) (d : Decision) (db : Db) :
    WritesStatus db (d.act x db).2 (decisionWrites d) := by
  have hsame : ∀ written, WritesStatus db db written := WritesStatus.of_runs rfl
  unfold Decision.act
  split
  · exact hsame _
  cases d with
  | granting approved sessionId =>
    simp only [Decision.next, Decision.grant]
    split
    · next happ => exact .of_runs (runs_append happ) _
    · exact hsame _
  | queueing approved sessionId =>
    simp only [Decision.next, Decision.queue]
    split
    · next hqueue => exact .of_runs (runs_queueOutboxDispatch hqueue) _
    · exact hsame _
  | resuming runId | failing runId => exact .set (mem_singleton_self _) _ db
  | refusing runId operation sessionId =>
    simp only [Decision.next, Decision.refuse]
    split
    · next happ => exact .of_runs (runs_append happ) _
    · exact hsame _
  | expiring ttlSecs now stale =>
    cases stale with
    | nil => exact hsame _
    | cons approval rest =>
      simp only [Decision.next, Decision.expire]
      split
      · next happ => exact .of_runs (runs_append happ) _
      · exact hsame _
  | expired ttlSecs now runId rest => exact .set mem_cons_self _ db
  | _ => exact hsame _

lemma decision_writes {d : Decision} (h : w ∈ decisionWrites (d.act x db).1) :
    w ∈ decisionWrites d ∨ runStatus w.1 db = some .awaitingApproval := by
  unfold Decision.act at h
  split at h
  · cases h
  cases d with
  | approve runId | deny runId =>
    simp only [Decision.next] at h
    split at h
    · next hawaiting =>
      obtain rfl := mem_singleton.mp h
      exact .inr hawaiting
    · cases h
  | approving runId =>
    simp only [Decision.next, Decision.loadRequest] at h
    split at h
    · cases h
    split at h
    · next happroved =>
      have hid := runId_of_approvedOfRequest happroved
      simp only [decisionWrites, hid] at h
      exact .inl h
    · cases h
  | granting approved sessionId =>
    simp only [Decision.next, Decision.grant] at h
    split at h
    · exact .inl h
    · cases h
  | queueing approved sessionId =>
    simp only [Decision.next, Decision.queue] at h
    split at h
    · exact .inl h
    · cases h
  | denying runId => exact .inl h
  | refusing runId operation sessionId =>
    simp only [Decision.next, Decision.refuse] at h
    split at h
    · exact .inl h
    · cases h
  | sweep ttlSecs =>
    simp only [Decision.next] at h
    split at h
    · cases h
    · obtain ⟨stale, hstale, rfl⟩ := mem_map.mp h
      obtain ⟨r, -, hr⟩ := mem_filterMap.mp hstale
      exact .inr (isStale_eq_some hr).2.2.1
  | expiring ttlSecs now stale =>
    cases stale with
    | nil => cases h
    | cons approval rest =>
      simp only [Decision.next, Decision.expire] at h
      split at h
      · exact .inl h
      · cases h
  | expired ttlSecs now runId rest => exact .inl (mem_cons_of_mem _ h)
  | _ => cases h

end Decisions

/-! ## Dispatchers -/

structure DispatchInput where
  now : Timestamp
  stamps : Nat → Stamp
  outcome : AdapterOutcome
  refused : Bool

section Dispatchers

variable [Platform]

/-- `dispatch_once` as its lease, its adapter call and its terminal write. -/
def dispatchOnce (x : DispatchInput) (d : Dispatcher) (db : Db) : Dispatcher × Db :=
  if x.refused then (.idle, db)
  else match d with
    | .idle =>
      match leaseNextOutboxDispatch x.now (x.stamps 0) db with
      | .ok (some leased, db) => (.leased leased, db)
      | .ok (none, db) => (.idle, db)
      | .error _ => (.idle, db)
    | .leased leased => (.executed leased x.outcome, db)
    | .executed leased outcome =>
      (.idle, commit db (writeOutcome leased outcome x.now x.stamps db))

def dispatchWrites (d : Dispatcher) (db : Db) : List (RunId × RunStatus) :=
  match d with
  | .executed leased (.ok receipt) =>
    match receipt.status with
    | .succeeded =>
      if runStatus leased.runId db = some .failed then [] else [(leased.runId, .completed)]
    | .failed => [(leased.runId, .failed)]
    | .unknown => []
  | _ => []

lemma writeOutcome_status (h : writeOutcome leased outcome now stamps db = .ok db') :
    WritesStatus db db' (dispatchWrites (.executed leased outcome) db) := by
  cases outcome with
  | error error => exact .of_runs (runs_unknownOutboxDispatch h) _
  | ok receipt =>
    simp only [writeOutcome] at h
    simp only [dispatchWrites]
    cases hreceipt : receipt.status with
    | succeeded =>
      rw [hreceipt] at h
      exact writes_succeedOutboxDispatch h
    | failed =>
      rw [hreceipt] at h
      exact writes_failOutboxDispatch h
    | unknown =>
      rw [hreceipt] at h
      exact .of_runs (runs_unknownOutboxDispatch h) _

lemma dispatch_status (x : DispatchInput) (d : Dispatcher) (db : Db) :
    WritesStatus db (dispatchOnce x d db).2 (dispatchWrites d db) := by
  have hsame : ∀ written, WritesStatus db db written := WritesStatus.of_runs rfl
  unfold dispatchOnce
  split
  · exact hsame _
  cases d with
  | idle =>
    simp only
    split
    · next hlease => exact .of_runs (runs_leaseNextOutboxDispatch hlease) _
    · next hlease => exact .of_runs (runs_leaseNextOutboxDispatch hlease) _
    · exact hsame _
  | leased leased => exact hsame _
  | executed leased outcome =>
    cases hwrite : writeOutcome leased outcome x.now x.stamps db with
    | error e =>
      simp only [hwrite, commit_error]
      exact hsame _
    | ok db' =>
      simp only [hwrite, commit_ok]
      exact writeOutcome_status hwrite

end Dispatchers

/-! ## The threads together -/

inductive Actor
  | delivery (d : Delivery)
  | dispatcher (d : Dispatcher)
  | decision (d : Decision)

inductive ActorInput
  | delivery (x : DeliveryInput)
  | dispatch (x : DispatchInput)
  | decision (x : DecisionInput)

inductive Call
  | deliverEvent (config : KernelConfig) (event : ValidatedEvent)
  | dispatch
  | decide (call : Gateway.DecisionCall)

structure OtherFact where
  stamp : Stamp
  kind : JournalEventKind
  runId : Option RunId
  sessionId : Option SessionId
  correlationId : Option String
  payload : Json

def Call.start : Call → Actor
  | deliverEvent config event => .delivery (Server.deliverEvent config event)
  | dispatch => .dispatcher .idle
  | decide call => .decision call.start

def Actor.halt : Actor → Actor
  | delivery _ => delivery (.ended false)
  | dispatcher _ => dispatcher .idle
  | decision _ => decision .ended

def Actor.writes : Actor → List (RunId × RunStatus)
  | delivery d => d.writes
  | dispatcher _ => []
  | decision d => decisionWrites d

lemma exists_run_of_runStatus (h : runStatus runId db = some status) :
    ∃ run ∈ db.runs.rows, run.id = runId ∧ run.status = status := by
  obtain ⟨run, hrun, hstatus⟩ := Option.map_eq_some_iff.mp h
  obtain ⟨hmem, hid⟩ := Table.find?_eq_some.mp hrun
  exact ⟨run, hmem, hid, hstatus⟩

section Threads

variable [Platform] {status : RunStatus} {a : KernelAct} {p : Kernel}

def Actor.act (x : ActorInput) (t : Actor) (db : Db) : Actor × Db :=
  match t, x with
  | delivery d, .delivery x => (delivery (d.act x db).1, (d.act x db).2)
  | dispatcher d, .dispatch x => (dispatcher (dispatchOnce x d db).1, (dispatchOnce x d db).2)
  | decision d, .decision x => (decision (d.act x db).1, (d.act x db).2)
  | t, _ => (t, db)

def kernelMachine : Machine Db Actor ActorInput Call OtherFact where
  start := Call.start
  act := Actor.act
  halt := Actor.halt
  other o db := commit db (db.append o.stamp o.kind o.runId o.sessionId o.correlationId o.payload)

abbrev Kernel := Pool Db Actor

abbrev KernelAct := Pool.Act ActorInput Call OtherFact

def Terminal (status : RunStatus) : Prop := status = .completed ∨ status = .failed

instance : DecidablePred Terminal := fun _ => inferInstanceAs (Decidable (_ ∨ _))

/-- When a step completes or fails a run, no thread has another status left to write for it. -/
def NothingLeft (p : Kernel) (a : KernelAct) : Prop :=
  ∀ run ∈ (p.step kernelMachine a).shared.runs.rows, Terminal run.status →
    runStatus run.id p.shared ≠ some run.status →
    ∀ t ∈ (p.step kernelMachine a).threads, ∀ w ∈ t.writes, w.1 = run.id → w.2 = run.status

instance (p : Kernel) (a : KernelAct) : Decidable (NothingLeft p a) :=
  inferInstanceAs (Decidable (∀ run ∈ (p.step kernelMachine a).shared.runs.rows, _))

def lateFailure (db : Db) : Actor → Bool
  | .dispatcher (.executed leased (.ok receipt)) =>
    decide (receipt.status = .failed ∧ runStatus leased.runId db = some .completed)
  | _ => false

/-- No adapter reports a definite failure for a run that is completed. -/
def NoLateFailure (p : Kernel) : KernelAct → Prop
  | .advance i _ => ∀ t ∈ p.threads[i]?, lateFailure p.shared t = false
  | _ => True

instance (p : Kernel) : DecidablePred (NoLateFailure p)
  | .advance i _ => inferInstanceAs (Decidable (∀ t ∈ p.threads[i]?, lateFailure p.shared t = false))
  | .spawn _ => isTrue trivial
  | .crash => isTrue trivial
  | .other _ => isTrue trivial

def Orderly (p : Kernel) (a : KernelAct) : Prop := NothingLeft p a ∧ NoLateFailure p a

instance (p : Kernel) (a : KernelAct) : Decidable (Orderly p a) :=
  inferInstanceAs (Decidable (_ ∧ _))

def Settled (t : Actor) (db : Db) : Prop :=
  ∀ w ∈ t.writes, ∀ status, runStatus w.1 db = some status → Terminal status → w.2 = status

lemma Actor.act_writes {t : Actor} (h : w ∈ (t.act x db).1.writes) :
    w ∈ t.writes ∨ ∀ status, runStatus w.1 db = some status → ¬Terminal status := by
  unfold Actor.act at h
  split at h
  · refine (Delivery.act_writes h).imp_right fun hnone status hstatus => ?_
    rw [hnone] at hstatus
    cases hstatus
  · cases h
  · refine (decision_writes h).imp_right fun hawaiting status hstatus => ?_
    cases hawaiting.symm.trans hstatus
    decide
  · exact .inl h

lemma settled_step (hp : ∀ t ∈ p.threads, Settled t p.shared) (ha : NothingLeft p a) :
    ∀ t ∈ (p.step kernelMachine a).threads, Settled t (p.step kernelMachine a).shared := by
  intro u hu w hw status hstatus hterminal
  by_cases hbefore : runStatus w.1 p.shared = some status
  · rcases mem_threads_step hu with hold | ⟨call, rfl⟩ | ⟨t, rfl⟩ | ⟨i, x, t, -, ht, rfl⟩
    · exact hp u hold w hw status hbefore hterminal
    · rcases call with ⟨config, event⟩ | _ | call
      · cases hw
      · cases hw
      · cases call <;> cases hw
    · cases t <;> cases hw
    · rcases Actor.act_writes hw with hold | hopen
      · exact hp t (mem_of_getElem? ht) w hold status hbefore hterminal
      · exact absurd hterminal (hopen status hbefore)
  · -- the step made the run terminal
    obtain ⟨run, hrun, hid, rfl⟩ := exists_run_of_runStatus hstatus
    rw [← hid] at hbefore
    exact ha run hrun hterminal hbefore u hu w hw hid.symm

def Actor.writesNow (t : Actor) (db : Db) : List (RunId × RunStatus) :=
  match t with
  | dispatcher d => dispatchWrites d db
  | t => t.writes

lemma Actor.act_status (x : ActorInput) (t : Actor) (db : Db) :
    WritesStatus db (t.act x db).2 (t.writesNow db) := by
  unfold Actor.act
  split
  · exact Delivery.act_status _ _ db
  · exact dispatch_status _ _ db
  · exact decision_status _ _ db
  · exact WritesStatus.of_runs rfl _

omit [Platform] in
lemma terminal_of_dispatchWrites {d : Dispatcher}
    (hlate : lateFailure db (.dispatcher d) = false) (hstatus : runStatus runId db = some status)
    (hterminal : Terminal status) (h : (runId, new) ∈ dispatchWrites d db) : new = status := by
  unfold dispatchWrites at h
  split at h
  · next leased receipt =>
    split at h
    · split at h
      · cases h
      · next hfailed =>
        cases mem_singleton.mp h
        rcases hterminal with rfl | rfl
        · rfl
        · exact absurd hstatus hfailed
    · next hreceipt =>
      cases mem_singleton.mp h
      rcases hterminal with rfl | rfl
      · simp [lateFailure, hreceipt, hstatus] at hlate
      · rfl
    · cases h
  · cases h

lemma terminal_step (hp : ∀ t ∈ p.threads, Settled t p.shared)
    (ha : NoLateFailure p a) (hterminal : Terminal status)
    (hstatus : runStatus runId p.shared = some status) :
    runStatus runId (p.step kernelMachine a).shared = some status := by
  cases a with
  | advance i x =>
    cases hthread : p.threads[i]? with
    | none => rwa [step_advance_none hthread]
    | some t =>
      rw [step_advance hthread]
      rcases Actor.act_status x t p.shared runId with hsame | ⟨new, hnew, hset⟩ | hnone
      · exact hsame.trans hstatus
      · have heq : new = status := by
          cases t with
          | dispatcher d =>
            exact terminal_of_dispatchWrites (ha _ hthread) hstatus hterminal hnew
          | delivery d | decision d =>
            exact hp _ (mem_of_getElem? hthread) _ hnew status hstatus hterminal
        exact hset.trans (congrArg some heq)
      · rw [hnone] at hstatus
        cases hstatus
  | other o =>
    have hruns : (p.step kernelMachine (.other o)).shared.runs = p.shared.runs := by
      simp only [step, kernelMachine, commit]
      split
      · next happ => exact runs_append happ
      · rfl
    rw [runStatus_of_runs hruns, hstatus]
  | _ => exact hstatus

lemma settled_run (h : Along (step kernelMachine) Orderly ⟨db, []⟩ as) :
    ∀ t ∈ (run (step kernelMachine) ⟨db, []⟩ as).threads,
      Settled t (run (step kernelMachine) ⟨db, []⟩ as).shared :=
  h.invariant (I := fun p : Kernel => ∀ t ∈ p.threads, Settled t p.shared)
    (fun _ _ hp ha => settled_step hp ha.1) (fun _ ht => absurd ht not_mem_nil)

theorem terminal_status_absorbing_of_orderly {db : Db} {as bs : List KernelAct}
    (h : Along (step kernelMachine) Orderly ⟨db, []⟩ (as ++ bs)) {runId : RunId}
    {status : RunStatus} (hterminal : Terminal status)
    (hstatus : runStatus runId (run (step kernelMachine) ⟨db, []⟩ as).shared = some status) :
    runStatus runId (run (step kernelMachine) ⟨db, []⟩ (as ++ bs)).shared = some status := by
  obtain ⟨has, hbs⟩ := along_append.mp h
  rw [run_append]
  have hkeep : ∀ (p : Kernel) a,
      ((∀ t ∈ p.threads, Settled t p.shared) ∧ runStatus runId p.shared = some status) →
      Orderly p a → (∀ t ∈ (p.step kernelMachine a).threads,
        Settled t (p.step kernelMachine a).shared) ∧
        runStatus runId (p.step kernelMachine a).shared = some status :=
    fun p a hp ha => ⟨settled_step hp.1 ha.1, terminal_step hp.1 ha.2 hterminal hp.2⟩
  exact (hbs.invariant hkeep ⟨settled_run has, hstatus⟩).2

end Threads

/-! ## One message -/

def sampleDispatch (n : Nat) (status : ReceiptStatus) : ActorInput :=
  .dispatch {
    now := n
    stamps := fun k => ⟨"o" ++ toString n ++ "." ++ toString k, n⟩
    outcome := .ok ⟨"reply:run", status, none, .null, n⟩
    refused := false }

def sampleDelivery (k : Nat) : List KernelAct :=
  [.spawn (.deliverEvent {} (sampleMessage "hi")), .spawn .dispatch] ++
    (range k).map fun n => .advance 0 (.delivery (sampleInput n))

def dispatched (status : ReceiptStatus) : List KernelAct :=
  [20, 21, 22].map fun n => .advance 1 (sampleDispatch n status)

/-- The dispatcher's success comes before the delivery's own statuses, and a definite failure
comes after them. -/
theorem terminal_status_lost_dispatched :
    letI := samplePlatform
    (runStatus "run" (run (step kernelMachine) ⟨{}, []⟩
        (sampleDelivery 10 ++ dispatched .succeeded)).shared = some .completed ∧
      runStatus "run" (run (step kernelMachine) ⟨{}, []⟩
        (sampleDelivery 10 ++ dispatched .succeeded ++ [.advance 0 (.delivery (sampleInput 30))])).shared =
          some .waitingDispatch) ∧
    (runStatus "run" (run (step kernelMachine) ⟨{}, []⟩ (sampleDelivery 12)).shared =
        some .completed ∧
      runStatus "run" (run (step kernelMachine) ⟨{}, []⟩
        (sampleDelivery 12 ++ dispatched .failed)).shared = some .failed) := by
  decide +kernel

lemma orderly_sampleDelivery :
    letI := samplePlatform
    Along (step kernelMachine) Orderly ⟨{}, []⟩
      (sampleDelivery 12 ++ dispatched .succeeded) := by
  decide +kernel

lemma completed_sampleDelivery :
    letI := samplePlatform
    runStatus "run" (run (step kernelMachine) ⟨{}, []⟩ (sampleDelivery 12)).shared =
      some .completed := by
  decide +kernel

theorem terminal_status_kept_sampleDelivery :
    letI := samplePlatform
    Along (step kernelMachine) Orderly ⟨{}, []⟩
        (sampleDelivery 12 ++ dispatched .succeeded) ∧
      runStatus "run" (run (step kernelMachine) ⟨{}, []⟩ (sampleDelivery 12)).shared =
        some .completed ∧
      runStatus "run" (run (step kernelMachine) ⟨{}, []⟩
        (sampleDelivery 12 ++ dispatched .succeeded)).shared = some .completed :=
  ⟨orderly_sampleDelivery, completed_sampleDelivery,
    @terminal_status_absorbing_of_orderly samplePlatform _ _ _ orderly_sampleDelivery _ _
      (.inl rfl) completed_sampleDelivery⟩

end AgentCore.Server
