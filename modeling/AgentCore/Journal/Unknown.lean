import Mathlib.Data.List.Infix
import AgentCore.Journal.OutboxSpec

/-! Recovery of dispatches whose outcome was lost: the candidates, the terminal fact
written for each, and the repair of rows the journal has already settled. Every write is
a transaction of its own. -/

namespace AgentCore.Journal

open Foundation Domain

structure UnknownInvocation where
  invocationId : InvocationId
  runId : Option RunId
  sessionId : Option SessionId
  firstDispatchAt : Timestamp
deriving DecidableEq

def hasEvent (rows : List JournalRow) (kind : String) (correlationId : Option String) : Bool :=
  rows.any fun r => decide (r.kind = kind ∧ r.correlationId = correlationId)

def unresolved (rows : List JournalRow) (r : JournalRow) : Bool :=
  decide (r.kind = "DispatchStarted") && r.correlationId.isSome &&
    !hasEvent rows "ReceiptReceived" r.correlationId &&
    !hasEvent rows "OutboxDispatchUnknown" r.correlationId

def dispatchKey (r : JournalRow) : InvocationId × Option RunId × Option SessionId :=
  (r.correlationId.getD "", r.runId, r.sessionId)

/-- One candidate for each invocation, run and session, in order of the first start. -/
def unknownInvocations (db : Db) : List UnknownInvocation :=
  let started := db.journal.rows.filter (unresolved db.journal.rows)
  (distinct [] (started.map dispatchKey)).map fun k =>
    { invocationId := k.1
      runId := k.2.1
      sessionId := k.2.2
      firstDispatchAt :=
        (((started.filter fun r => dispatchKey r = k).map JournalRow.createdAt).min?).getD 0 }

section

variable [Platform]

def recoveryPayload (invocation : UnknownInvocation) : Json :=
  .mkObj [("invocation_id", .str invocation.invocationId),
    ("error", .str "dispatch_started_without_receipt"), ("recovered", .bool true),
    ("status", .str OutboxDispatchStatus.unknown.asStr)]

/-- The recovery of one candidate. The row is settled whatever its status. -/
def recoverInvocation (invocation : UnknownInvocation) (now : Timestamp) (stamp : Stamp)
    (db : Db) : Except String Db := do
  let db ← db.append stamp .outboxDispatchUnknown invocation.runId invocation.sessionId
    (some invocation.invocationId) (recoveryPayload invocation)
  let db := { db with
    outbox := db.outbox.update (fun r => decide (r.invocationId = invocation.invocationId))
      (fun r => { r with status := .unknown, lockedBy := none, lockedUntil := none,
                         updatedAt := now }) (fun _ => rfl) }
  match invocation.runId with
  | some runId => return setRunStatus runId .unknown now db
  | none => return db

/-! ## Rows the journal has settled -/

inductive TerminalFact
  | succeeded
  | failed
  | unknown
deriving DecidableEq

def TerminalFact.target : TerminalFact → OutboxDispatchStatus
  | succeeded => .succeeded
  | failed => .failed
  | unknown => .unknown

/-- A receipt whose status cannot be read is never taken for a success. -/
def classifyTerminalFact (terminalKind : Option String) (receiptPayload : Option String) :
    TerminalFact :=
  if terminalKind = some "OutboxDispatchUnknown" then .unknown
  else if terminalKind = some "ReceiptReceived" then
    let status := ((receiptPayload.bind fromStr).bind fun payload =>
      (payload.get "status").bind Json.asStr).getD ""
    if status = "Succeeded" then .succeeded
    else if status = "Failed" then .failed
    else .unknown
  else .unknown

def isTerminalKind (kind : String) : Bool :=
  kind = "OutboxDispatchUnknown" || kind = "ReceiptReceived"

def terminalRows (db : Db) (invocationId : InvocationId) : List JournalRow :=
  db.journal.rows.filter fun r =>
    decide (r.correlationId = some invocationId) && isTerminalKind r.kind

def staleDispatchingWithTerminalJournal (now : Timestamp) (db : Db) :
    List (InvocationId × TerminalFact) :=
  let stale := db.outbox.rows.filter fun r =>
    decide (r.status = .dispatching) && r.lockedUntil.all (fun t => decide (t ≤ now)) &&
      !(terminalRows db r.invocationId).isEmpty
  stale.map fun r =>
    let terminal := terminalRows db r.invocationId
    let receipt := (terminal.filter fun e => decide (e.kind = "ReceiptReceived")).getLast?
    (r.invocationId, classifyTerminalFact (terminal.getLast?.map JournalRow.kind)
      (receipt.map JournalRow.payloadJson))

def repairStale (stale : InvocationId × TerminalFact) (now : Timestamp) (db : Db) : Db :=
  { db with
    outbox := db.outbox.update (dispatchingGuard stale.1)
      (fun r => { r with status := stale.2.target, lockedBy := none, lockedUntil := none,
                         updatedAt := now }) (fun _ => rfl) }

/-! ## What recovery does to the outbox -/

lemma recoverInvocation_spec (h : recoverInvocation invocation now stamp db = .ok db') :
    (∀ id, db'.outboxStatus id =
        if id = invocation.invocationId then (db.outboxStatus id).map fun _ => .unknown
        else db.outboxStatus id) ∧
      ∃ r : JournalRow, r.kind = "OutboxDispatchUnknown" ∧ ∀ id, db'.outboxFacts id =
        db.outboxFacts id ++ if id = invocation.invocationId then [r] else [] := by
  obtain ⟨db₁, happ, h⟩ := bind_eq_ok.mp h
  have hfacts := append_facts happ
  obtain ⟨journal, rfl, -⟩ := Db.append_eq_ok happ
  have hdb' : db'.outbox = db.outbox.update
      (fun r => decide (r.invocationId = invocation.invocationId))
      (fun r => { r with status := .unknown, lockedBy := none, lockedUntil := none,
                         updatedAt := now }) (fun _ => rfl) ∧ db'.journal = journal := by
    split at h <;> (rw [← return_eq_ok.mp h]; exact ⟨rfl, rfl⟩)
  refine ⟨fun id => ?_, newRow db.journal stamp JournalEventKind.outboxDispatchUnknown.storageName
    invocation.runId invocation.sessionId (some invocation.invocationId)
    (recoveryPayload invocation).toText, rfl, fun id => ?_⟩
  · rw [Db.outboxStatus, hdb'.1, Table.find?_update]
    cases hfind : db.outbox.find? id with
    | none => simp [Db.outboxStatus, hfind]
    | some r =>
      have hkey := Table.find?_key hfind
      have hst : db.outboxStatus id = some r.status := by rw [Db.outboxStatus, hfind]; rfl
      rw [hst]
      by_cases hid : id = invocation.invocationId <;> simp [hkey, hid]
  · have hrows := hfacts id
    simp only [Db.outboxFacts] at hrows ⊢
    rw [hdb'.2, hrows]
    by_cases hid : id = invocation.invocationId
    · simp [isOutboxFact, newRow, hid, isFactKind, JournalEventKind.storageName]
    · simp [isOutboxFact, newRow, Ne.symm hid, hid]

end

lemma repairStale_spec (stale : InvocationId × TerminalFact) (now : Timestamp) (db : Db)
    (id : InvocationId) : (repairStale stale now db).outboxStatus id =
      if id = stale.1 ∧ db.outboxStatus id = some .dispatching then some stale.2.target
      else db.outboxStatus id := by
  rw [Db.outboxStatus, repairStale, Table.find?_update]
  cases hfind : db.outbox.find? id with
  | none => simp [Db.outboxStatus, hfind]
  | some r =>
    have hkey := Table.find?_key hfind
    have hst : db.outboxStatus id = some r.status := by rw [Db.outboxStatus, hfind]; rfl
    by_cases h : id = stale.1 ∧ r.status = .dispatching
    · rw [if_pos ⟨h.1, hst.trans (congrArg some h.2)⟩]
      simp [hkey, dispatchingGuard, h]
    · rw [if_neg (fun h' => h ⟨h'.1, Option.some.inj (hst.symm.trans h'.2)⟩), hst]
      simp [hkey, dispatchingGuard, h]

/-! ## The health query that compares the outbox with the journal -/

def sqlLike (needle text : String) : Bool :=
  decide (needle.toList.map Char.toLower <:+: text.toList.map Char.toLower)

def hasReceiptLike (db : Db) (invocationId : InvocationId) (needle : String) : Bool :=
  db.journal.rows.any fun r =>
    decide (r.correlationId = some invocationId ∧ r.kind = "ReceiptReceived") &&
      sqlLike needle r.payloadJson

/-- A row with a terminal fact but not in the status the fact implies. -/
def drifted (db : Db) (od : OutboxRow) : Bool :=
  (hasEvent db.journal.rows "ReceiptReceived" (some od.invocationId) ||
      hasEvent db.journal.rows "OutboxDispatchUnknown" (some od.invocationId)) &&
    !((decide (od.status = .succeeded) &&
          hasReceiptLike db od.invocationId "\"status\":\"Succeeded\"") ||
      (decide (od.status = .failed) &&
          hasReceiptLike db od.invocationId "\"status\":\"Failed\"") ||
      (decide (od.status = .unknown) &&
          hasEvent db.journal.rows "OutboxDispatchUnknown" (some od.invocationId)))

def outboxProjectionDriftCount (db : Db) : Nat := db.outbox.count (drifted db)

end AgentCore.Journal
