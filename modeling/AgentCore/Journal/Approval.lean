import AgentCore.Journal.Runs

/-! Approval facts: the request a paused run left, the requests that wait too long, and the
decisions recorded for a run. -/

namespace AgentCore.Journal

open Foundation Domain List

section Facts

variable [Platform] {kinds : List JournalEventKind} {db : Db} {r : JournalRow} {now : Timestamp}
  {ttlSecs : Nat}

def runFacts (kinds : List JournalEventKind) (runId : RunId) (db : Db) : List JournalRow :=
  db.journal.rows.filter fun r =>
    decide (r.runId = some runId ∧ r.kind ∈ kinds.map JournalEventKind.storageName)

omit [Platform] in
lemma mem_runFacts : r ∈ runFacts kinds runId db ↔ r ∈ db.journal.rows ∧ r.runId = some runId ∧
      r.kind ∈ kinds.map JournalEventKind.storageName := by
  rw [runFacts, mem_filter, decide_eq_true_eq]

omit [Platform] in
lemma runFacts_mono (h : kinds ⊆ kinds') (runId : RunId)
    (db : Db) : runFacts kinds runId db ⊆ runFacts kinds' runId db := by
  intro r hr
  obtain ⟨hrow, hrun, hkind⟩ := mem_runFacts.mp hr
  exact mem_runFacts.mpr ⟨hrow, hrun, map_subset _ h hkind⟩

section Append

variable {kind : JournalEventKind} {runId : Option RunId} {payload : Json}

lemma runFacts_append_self
    (h : db.append stamp kind (some x) sessionId correlationId payload = .ok db')
    (hkind : kind ∈ kinds) :
    ∃ r, r.kind = kind.storageName ∧ runFacts kinds x db' = runFacts kinds x db ++ [r] := by
  obtain ⟨journal, rfl, hrows, -⟩ := Db.append_eq_ok h
  have hrun := newRow_runId db.journal stamp kind.storageName (some x) sessionId correlationId
    payload.toText
  have hname := newRow_kind db.journal stamp kind.storageName (some x) sessionId correlationId
    payload.toText
  generalize newRow _ _ _ _ _ _ _ = r at hrows hrun hname
  have hr : r.runId = some x ∧ r.kind ∈ kinds.map JournalEventKind.storageName :=
    ⟨hrun, hname ▸ mem_map_of_mem hkind⟩
  refine ⟨r, hname, ?_⟩
  rw [runFacts, hrows, filter_append, filter_singleton, decide_eq_true hr]
  rfl

lemma runFacts_append_other
    (h : db.append stamp kind runId sessionId correlationId payload = .ok db')
    (hx : ¬(runId = some x ∧ kind ∈ kinds)) : runFacts kinds x db' = runFacts kinds x db := by
  obtain ⟨journal, rfl, hrows, -⟩ := Db.append_eq_ok h
  have hrow : ¬(runId = some x ∧ kind.storageName ∈ kinds.map JournalEventKind.storageName) := by
    rintro ⟨hrun, hmem⟩
    obtain ⟨k, hk, heq⟩ := mem_map.mp hmem
    exact hx ⟨hrun, storageName_injective heq ▸ hk⟩
  rw [runFacts, hrows, filter_append, filter_singleton, newRow_runId, newRow_kind,
    decide_eq_false hrow, cond_false, append_nil]
  rfl

end Append

def approvalRequestForRun (runId : RunId) (db : Db) : Option Json :=
  ((events db).filter fun event =>
    decide (event.kind = .approvalRequested ∧ event.runId = some runId)).getLast?.map
      JournalEvent.payload

def decisionKinds : List JournalEventKind := [.approvalGranted, .approvalDenied, .approvalExpired]

def decisions (runId : RunId) (db : Db) : List JournalRow := runFacts decisionKinds runId db

structure StaleApproval where
  runId : RunId
  operation : String
  requestedAt : Timestamp
deriving DecidableEq

/-- The stored payload is read as a text that holds the payload, so the operation of an
object reads as empty. -/
def staleOperation (payloadJson : String) : String :=
  (((fromStr payloadJson).bind Json.asStr).bind fromStr |>.bind fun payload =>
    (payload.get "operation").bind Json.asStr).getD ""

def isStale (now : Timestamp) (ttlSecs : Nat) (db : Db) (r : JournalRow) : Option StaleApproval :=
  match r.runId with
  | none => none
  | some runId =>
    if r.kind = JournalEventKind.approvalRequested.storageName ∧
        runStatus runId db = some .awaitingApproval ∧ r.createdAt + ttlSecs * 10 ^ 9 < now ∧
        decisions runId db = [] then
      some ⟨runId, staleOperation r.payloadJson, r.createdAt⟩
    else none

def staleApprovalsSince (now : Timestamp) (ttlSecs : Nat) (db : Db) : List StaleApproval :=
  db.journal.rows.filterMap (isStale now ttlSecs db)

lemma isStale_eq_some (h : isStale now ttlSecs db r = some stale) :
    r.runId = some stale.runId ∧ r.kind = JournalEventKind.approvalRequested.storageName ∧
      runStatus stale.runId db = some .awaitingApproval ∧ decisions stale.runId db = [] := by
  unfold isStale at h
  split at h
  · cases h
  · next runId hrun =>
    split at h
    · next hcond =>
      cases h
      exact ⟨hrun, hcond.1, hcond.2.1, hcond.2.2.2⟩
    · cases h

lemma nodup_stale (h : ∀ runId, (runFacts [.approvalRequested] runId db).length ≤ 1) :
    ((staleApprovalsSince now ttlSecs db).map StaleApproval.runId).Nodup := by
  refine nodup_iff_count_le_one.mpr fun runId => le_trans ?_ (h runId)
  rw [count_eq_countP, countP_map, staleApprovalsSince, countP_filterMap, runFacts,
    ← countP_eq_length_filter]
  refine countP_mono_left fun r _ hr => ?_
  cases hstale : isStale now ttlSecs db r with
  | none => simp [hstale] at hr
  | some stale =>
    obtain ⟨hrun, hkind, -⟩ := isStale_eq_some hstale
    have hid : stale.runId = runId := by simpa [hstale] using hr
    simp [hrun, hid, hkind]

end Facts

end AgentCore.Journal
