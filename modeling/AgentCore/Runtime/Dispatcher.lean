import AgentCore.Foundation.Run
import AgentCore.Journal.Unknown

/-! The outbox as a system: writers that queue dispatches, dispatchers that lease, call the
adapter and write the outcome as three separate steps, crashes between any two steps, and
the recovery that runs at each restart before a dispatcher starts. -/

namespace AgentCore.Runtime

open Foundation Domain Journal

abbrev AdapterOutcome := Except (Option AdapterError) Receipt

section

variable [Platform]

/-- The last part of `dispatch_once`: the terminal write an outcome asks for. A success is
written under the receipt's own invocation id. -/
def writeOutcome (leased : LeasedOutboxDispatch) (outcome : AdapterOutcome) (now : Timestamp)
    (stamps : Nat → Stamp) (db : Db) : Except String Db :=
  match outcome with
  | .ok receipt =>
    match receipt.status with
    | .succeeded => succeedOutboxDispatch receipt leased.runId leased.sessionId now stamps db
    | .failed =>
      failOutboxDispatch leased.invocationId leased.runId leased.sessionId "definite_failure" now
        stamps db
    | .unknown =>
      unknownOutboxDispatch leased.invocationId leased.runId leased.sessionId
        ("unknown_receipt_status:" ++ receipt.status.debug) now stamps db
  | .error error =>
    unknownOutboxDispatch leased.invocationId leased.runId leased.sessionId
      (DispatchErrorCategory.fromError error).asStr now stamps db

inductive Dispatcher
  | idle
  | leased (d : LeasedOutboxDispatch)
  | executed (d : LeasedOutboxDispatch) (outcome : AdapterOutcome)

/-- Where the kernel stands: stopped, in one of the two loops of
`recover_unknown_invocations`, returned from it, or with its dispatchers running. -/
inductive Phase
  | down
  | recovering (todo : List UnknownInvocation)
  | repairing (todo : List (InvocationId × TerminalFact))
  | recovered
  | serving
deriving DecidableEq

structure World where
  db : Db
  dispatchers : Nat → Dispatcher
  phase : Phase
  /-- The invocation ids the adapter was called with. -/
  calls : List InvocationId

def World.init : World := ⟨{}, fun _ => .idle, .down, []⟩

inductive Label
  | queue (approved : ApprovedInvocation) (sessionId : Option SessionId) (now : Timestamp)
      (stamp : Stamp)
  | lease (i : Nat) (now : Timestamp) (stamp : Stamp)
  | execute (i : Nat) (outcome : AdapterOutcome)
  | finish (i : Nat) (now : Timestamp) (stamps : Nat → Stamp)
  /-- A store call of the dispatcher failed and its pass ends. -/
  | abandon (i : Nat)
  | crash
  | restart
  | recoverNext (now : Timestamp) (stamp : Stamp)
  | scanStale (now : Timestamp)
  | repairNext (now : Timestamp)
  | recoverReturn
  | start
  /-- Any other component appends an event. -/
  | foreignEvent (stamp : Stamp) (kind : JournalEventKind) (runId : Option RunId)
      (sessionId : Option SessionId) (correlationId : Option String) (payload : Json)
  /-- Any other component writes the runs table. -/
  | foreignRuns (runs : Table Run.id)

namespace World

def setDispatcher (w : World) (i : Nat) (s : Dispatcher) : World :=
  { w with dispatchers := Function.update w.dispatchers i s }

def lease (w : World) (i : Nat) (now : Timestamp) (stamp : Stamp) : World :=
  if w.phase = .serving then
    match w.dispatchers i with
    | .idle =>
      match leaseNextOutboxDispatch now stamp w.db with
      | .ok (some d, db) => { w with db }.setDispatcher i (.leased d)
      | .ok (none, db) => { w with db }
      | .error _ => w
    | _ => w
  else w

def execute (w : World) (i : Nat) (outcome : AdapterOutcome) : World :=
  match w.dispatchers i with
  | .leased d =>
    { w with calls := w.calls ++ [d.invocationId] }.setDispatcher i (.executed d outcome)
  | _ => w

def finish (w : World) (i : Nat) (now : Timestamp) (stamps : Nat → Stamp) : World :=
  match w.dispatchers i with
  | .executed d outcome =>
    { w with db := commit w.db (writeOutcome d outcome now stamps w.db) }.setDispatcher i .idle
  | _ => w

def recoverNext (w : World) (now : Timestamp) (stamp : Stamp) : World :=
  match w.phase with
  | .recovering (invocation :: todo) =>
    match recoverInvocation invocation now stamp w.db with
    | .ok db => { w with db, phase := .recovering todo }
    -- an error aborts the start of the process
    | .error _ => { w with phase := .down }
  | _ => w

def step (w : World) : Label → World
  | .queue approved sessionId now stamp =>
    { w with
      db := commit w.db ((queueOutboxDispatch approved sessionId now stamp w.db).map Prod.snd) }
  | .lease i now stamp => w.lease i now stamp
  | .execute i outcome => w.execute i outcome
  | .finish i now stamps => w.finish i now stamps
  | .abandon i => w.setDispatcher i .idle
  | .crash => { w with dispatchers := fun _ => .idle, phase := .down }
  | .restart =>
    if w.phase = .down then { w with phase := .recovering (unknownInvocations w.db) } else w
  | .recoverNext now stamp => w.recoverNext now stamp
  | .scanStale now =>
    if w.phase = .recovering [] then
      { w with phase := .repairing (staleDispatchingWithTerminalJournal now w.db) }
    else w
  | .repairNext now =>
    match w.phase with
    | .repairing (stale :: todo) =>
      { w with db := repairStale stale now w.db, phase := .repairing todo }
    | _ => w
  | .recoverReturn => if w.phase = .repairing [] then { w with phase := .recovered } else w
  | .start => if w.phase = .recovered then { w with phase := .serving } else w
  | .foreignEvent stamp kind runId sessionId correlationId payload =>
    { w with db := commit w.db (w.db.append stamp kind runId sessionId correlationId payload) }
  | .foreignRuns runs => { w with db := { w.db with runs } }

end World

/-! ## What the steps do to the outbox -/

lemma writeOutcome_spec (h : writeOutcome leased outcome now stamps db = .ok db') :
    ∃ x st r, db.outboxStatus x = some .dispatching ∧ Moves db db' x st [r] ∧
      ((st = .succeeded ∧ r.kind = "ReceiptReceived" ∧
          ∃ receipt : Receipt, receipt.status = .succeeded ∧
            r.payloadJson = (successPayload receipt).toText) ∨
        (st = .failed ∧ r.kind = "ReceiptReceived" ∧
          ∃ error, r.payloadJson = (failurePayload error).toText) ∨
        (st = .unknown ∧ r.kind = "OutboxDispatchUnknown")) := by
  unfold writeOutcome at h
  split at h
  · rename_i receipt
    split at h
    · rename_i hst
      obtain ⟨hdisp, r, hkind, hpayload, hmoves⟩ := succeedOutboxDispatch_spec h
      exact ⟨_, _, r, hdisp, hmoves, .inl ⟨rfl, hkind, receipt, hst, hpayload⟩⟩
    · obtain ⟨hdisp, r, hkind, hpayload, hmoves⟩ := failOutboxDispatch_spec h
      exact ⟨_, _, r, hdisp, hmoves, .inr (.inl ⟨rfl, hkind, _, hpayload⟩)⟩
    · obtain ⟨hdisp, r, hkind, hmoves⟩ := unknownOutboxDispatch_spec h
      exact ⟨_, _, r, hdisp, hmoves, .inr (.inr ⟨rfl, hkind⟩)⟩
  · obtain ⟨hdisp, r, hkind, hmoves⟩ := unknownOutboxDispatch_spec h
    exact ⟨_, _, r, hdisp, hmoves, .inr (.inr ⟨rfl, hkind⟩)⟩

inductive Effect (w : World) : Label → World → Prop
  | stays {l : Label} : Effect w l w
  | queued {approved sessionId now stamp db}
      (hnone : w.db.outboxStatus approved.intent.invocationId = none)
      (hmoves : Moves w.db db approved.intent.invocationId .pending []) :
      Effect w (.queue approved sessionId now stamp) { w with db }
  | leased {i now stamp d db r} (hp : w.phase = .serving) (hidle : w.dispatchers i = .idle)
      (hst : w.db.outboxStatus d.invocationId = some .pending ∨
        w.db.outboxStatus d.invocationId = some .retryableFailed)
      (hkind : r.kind = "DispatchStarted")
      (hmoves : Moves w.db db d.invocationId .dispatching [r])
      (hlease : leaseNextOutboxDispatch now stamp w.db = .ok (some d, db)) :
      Effect w (.lease i now stamp) ({ w with db }.setDispatcher i (.leased d))
  | executed {i outcome d} (hd : w.dispatchers i = .leased d) :
      Effect w (.execute i outcome)
        ({ w with calls := w.calls ++ [d.invocationId] }.setDispatcher i (.executed d outcome))
  | finished {i now stamps d outcome db} (hd : w.dispatchers i = .executed d outcome)
      (hdb : db = w.db ∨ writeOutcome d outcome now stamps w.db = .ok db) :
      Effect w (.finish i now stamps) ({ w with db }.setDispatcher i .idle)
  | abandoned {i} : Effect w (.abandon i) (w.setDispatcher i .idle)
  | crashed : Effect w .crash { w with dispatchers := fun _ => .idle, phase := .down }
  | restarted (hp : w.phase = .down) :
      Effect w .restart { w with phase := .recovering (unknownInvocations w.db) }
  | aborted {now stamp invocation todo} (hp : w.phase = .recovering (invocation :: todo)) :
      Effect w (.recoverNext now stamp) { w with phase := .down }
  | recovered {now stamp invocation todo db} (hp : w.phase = .recovering (invocation :: todo))
      (hdb : recoverInvocation invocation now stamp w.db = .ok db) :
      Effect w (.recoverNext now stamp) { w with db, phase := .recovering todo }
  | scanned {now} (hp : w.phase = .recovering []) :
      Effect w (.scanStale now)
        { w with phase := .repairing (staleDispatchingWithTerminalJournal now w.db) }
  | repaired {now stale todo} (hp : w.phase = .repairing (stale :: todo)) :
      Effect w (.repairNext now)
        { w with db := repairStale stale now w.db, phase := .repairing todo }
  | returned (hp : w.phase = .repairing []) : Effect w .recoverReturn { w with phase := .recovered }
  | started (hp : w.phase = .recovered) : Effect w .start { w with phase := .serving }
  | appended {stamp kind runId sessionId correlationId payload db}
      (hdb : w.db.append stamp kind runId sessionId correlationId payload = .ok db) :
      Effect w (.foreignEvent stamp kind runId sessionId correlationId payload) { w with db }
  | wroteRuns {runs} : Effect w (.foreignRuns runs) { w with db := { w.db with runs } }

lemma effect_step (w : World) (l : Label) : Effect w l (w.step l) := by
  cases l with
  | queue approved sessionId now stamp =>
    simp only [World.step]
    cases h : queueOutboxDispatch approved sessionId now stamp w.db with
    | error e => exact .stays
    | ok p =>
      rcases queueOutboxDispatch_spec h with ⟨-, hsame⟩ | ⟨hnone, hmoves⟩
      · simp only [Except.map, commit_ok, hsame]
        exact .stays
      · exact .queued hnone hmoves
  | lease i now stamp =>
    simp only [World.step, World.lease]
    split_ifs with hp
    · split
      · next hidle =>
        split
        · next d db h =>
          obtain ⟨hst, r, hkind, -, hmoves⟩ := leaseNextOutboxDispatch_some h
          exact .leased hp hidle hst hkind hmoves h
        · next db h =>
          rw [leaseNextOutboxDispatch_none h]
          exact .stays
        · exact .stays
      · exact .stays
    · exact .stays
  | execute i outcome =>
    simp only [World.step, World.execute]
    split
    · next hd => exact .executed hd
    · exact .stays
  | finish i now stamps =>
    simp only [World.step, World.finish]
    split
    · next d outcome hd =>
      refine .finished hd ?_
      cases h : writeOutcome d outcome now stamps w.db with
      | error e => exact .inl rfl
      | ok db => exact .inr rfl
    · exact .stays
  | abandon i => exact .abandoned
  | crash => exact .crashed
  | restart | scanStale now | recoverReturn | start =>
    simp only [World.step]
    split_ifs with hp
    · constructor
      exact hp
    · exact .stays
  | recoverNext now stamp =>
    simp only [World.step, World.recoverNext]
    split
    · next invocation todo hp =>
      cases h : recoverInvocation invocation now stamp w.db with
      | error e => exact .aborted hp
      | ok db => exact .recovered hp h
    · exact .stays
  | repairNext now =>
    simp only [World.step]
    split
    · next hp => exact .repaired hp
    · exact .stays
  | foreignEvent stamp kind runId sessionId correlationId payload =>
    simp only [World.step]
    cases h : w.db.append stamp kind runId sessionId correlationId payload with
    | error e => exact .stays
    | ok db => exact .appended h
  | foreignRuns runs => exact .wroteRuns

end

end AgentCore.Runtime
