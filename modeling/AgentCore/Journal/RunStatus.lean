import AgentCore.Journal.Runs
import AgentCore.Journal.Unknown

/-! What the store calls do to the statuses of the runs. -/

namespace AgentCore.Journal

open Foundation Domain

variable {db db' : Db} {run : Run}

def WritesStatus (db db' : Db) (written : List (RunId × RunStatus)) : Prop :=
  ∀ runId, runStatus runId db' = runStatus runId db ∨
    (∃ status, (runId, status) ∈ written ∧ runStatus runId db' = some status) ∨
    runStatus runId db = none

lemma runStatus_of_runs (h : db'.runs = db.runs) (runId : RunId) :
    runStatus runId db' = runStatus runId db := by
  rw [runStatus, runStatus, h]

lemma WritesStatus.of_runs (h : db'.runs = db.runs) (written : List (RunId × RunStatus)) :
    WritesStatus db db' written :=
  fun runId => .inl (runStatus_of_runs h runId)

lemma runStatus_setRunStatus (runId other : RunId) (status : RunStatus) (now : Timestamp)
    (db : Db) : runStatus other (setRunStatus runId status now db) =
      if other = runId then (runStatus other db).map fun _ => status else runStatus other db := by
  simp only [runStatus, setRunStatus, Table.find?_update]
  cases hrun : db.runs.find? other with
  | none => simp
  | some run =>
    have hid : run.id = other := Table.find?_key hrun
    by_cases heq : other = runId
    · simp [hid, heq]
    · simp [hid, heq]

lemma WritesStatus.of_ite {c : RunId → Prop} [DecidablePred c] (h : ∀ other, runStatus other db' =
      if c other then (runStatus other db).map fun _ => status else runStatus other db)
    (hmem : ∀ other, c other → (other, status) ∈ written) : WritesStatus db db' written := by
  intro other
  rw [h other]
  by_cases hc : c other
  · rw [if_pos hc]
    cases runStatus other db with
    | none => exact .inl rfl
    | some old => exact .inr (.inl ⟨status, hmem other hc, rfl⟩)
  · rw [if_neg hc]
    exact .inl rfl

lemma WritesStatus.set (h : (runId, status) ∈ written) (now : Timestamp) (db : Db) :
    WritesStatus db (setRunStatus runId status now db) written :=
  .of_ite (fun other => runStatus_setRunStatus runId other status now db) fun _ heq => heq ▸ h

lemma runStatus_insertRun (h : insertRun run db = .ok db') (runId : RunId) : runStatus runId db' =
      if run.id = runId then some run.status else runStatus runId db := by
  obtain ⟨-, runs, hinsert, rfl⟩ := insertRun_eq_ok h
  simp only [runStatus, Table.find?_insert hinsert runId]
  split <;> rfl

lemma runStatus_of_insertRun (h : insertRun run db = .ok db') : runStatus run.id db = none := by
  rw [runStatus, (insertRun_eq_ok h).1]
  rfl

lemma WritesStatus.insertRun (h : insertRun run db = .ok db')
    (written : List (RunId × RunStatus)) : WritesStatus db db' written := by
  intro runId
  by_cases heq : run.id = runId
  · exact .inr (.inr (heq ▸ runStatus_of_insertRun h))
  · exact .inl (by rw [runStatus_insertRun h, if_neg heq])

lemma runs_settleOutboxRow
    (h : settleOutboxRow invocationId f hf db = .ok db') : db'.runs = db.runs := by
  obtain ⟨-, -, -, -, rfl⟩ := settleOutboxRow_eq_ok h
  rfl

section Calls

variable [Platform] {runId : RunId}

lemma runs_append {run : Option RunId}
    (h : db.append stamp kind run sessionId correlationId payload = .ok db') :
    db'.runs = db.runs := by
  obtain ⟨journal, rfl, -⟩ := Db.append_eq_ok h
  rfl

lemma runs_queueOutboxDispatch
    (h : queueOutboxDispatch approved sessionId now stamp db = .ok (dispatchId, db')) :
    db'.runs = db.runs := by
  rcases queueOutboxDispatch_eq_ok h with rfl | ⟨payload, happ⟩
  · rfl
  · rw [runs_append happ]

lemma runs_leaseNextOutboxDispatch
    (h : leaseNextOutboxDispatch now stamp db = .ok (leased, db')) : db'.runs = db.runs := by
  rcases leaseNextOutboxDispatch_eq_ok h with ⟨-, rfl⟩ | ⟨row, -, -, -, payload, happ⟩
  · rfl
  · rw [runs_append happ]

lemma runs_recordDeliveredReply
    (h : recordDeliveredReply receipt runId sessionId stamp db = .ok db') : db'.runs = db.runs := by
  rcases recordDeliveredReply_eq_ok h with rfl | ⟨payload, happ⟩
  · rfl
  · exact runs_append happ

lemma runStatus_succeedOutboxDispatch
    (h : succeedOutboxDispatch receipt runId sessionId now stamps db = .ok db') (other : RunId) :
    runStatus other db' = if other = runId ∧ runStatus runId db ≠ some .failed then
        (runStatus other db).map fun _ => .completed else runStatus other db := by
  obtain ⟨db₁, hsettle, h⟩ := bind_eq_ok.mp h
  obtain ⟨db₂, happ, h⟩ := bind_eq_ok.mp h
  obtain ⟨db₃, hreply, h⟩ := bind_eq_ok.mp h
  have hruns : db₃.runs = db.runs := by
    rw [runs_recordDeliveredReply hreply, runs_append happ, runs_settleOutboxRow hsettle]
  have hstatus : (db₃.runs.find? runId).map Run.status = runStatus runId db := by
    rw [hruns]
    rfl
  rw [hstatus] at h
  split at h
  · next hfailed =>
    rw [← return_eq_ok.mp h, runStatus_of_runs hruns, if_neg fun hne => hne.2 hfailed]
  · next hfailed =>
    rw [runStatus_of_runs (runs_append h), runStatus_setRunStatus, runStatus_of_runs hruns]
    by_cases heq : other = runId
    · rw [if_pos heq, if_pos ⟨heq, hfailed⟩]
    · rw [if_neg heq, if_neg fun hne => heq hne.1]

lemma writes_succeedOutboxDispatch
    (h : succeedOutboxDispatch receipt runId sessionId now stamps db = .ok db') :
    WritesStatus db db' (if runStatus runId db = some .failed then [] else [(runId, .completed)]) := by
  refine .of_ite (runStatus_succeedOutboxDispatch h) fun other ⟨heq, hopen⟩ => ?_
  rw [heq, if_neg hopen]
  exact List.mem_singleton_self _

lemma runStatus_failOutboxDispatch
    (h : failOutboxDispatch invocationId runId sessionId error now stamps db = .ok db')
    (other : RunId) : runStatus other db' =
      if other = runId then (runStatus other db).map fun _ => .failed else runStatus other db := by
  obtain ⟨db₁, hsettle, h⟩ := bind_eq_ok.mp h
  obtain ⟨db₂, happ, h⟩ := bind_eq_ok.mp h
  have hruns : db₂.runs = db.runs := by rw [runs_append happ, runs_settleOutboxRow hsettle]
  rw [runStatus_of_runs (runs_append h), runStatus_setRunStatus, runStatus_of_runs hruns]

lemma writes_failOutboxDispatch
    (h : failOutboxDispatch invocationId runId sessionId error now stamps db = .ok db') :
    WritesStatus db db' [(runId, .failed)] :=
  .of_ite (runStatus_failOutboxDispatch h) fun _ heq => heq ▸ List.mem_singleton_self _

lemma runs_unknownOutboxDispatch
    (h : unknownOutboxDispatch invocationId runId sessionId error now stamps db = .ok db') :
    db'.runs = db.runs := by
  obtain ⟨db₁, hsettle, happ⟩ := bind_eq_ok.mp h
  rw [runs_append happ, runs_settleOutboxRow hsettle]

lemma runStatus_recoverInvocation
    (h : recoverInvocation invocation now stamp db = .ok db') (other : RunId) :
    runStatus other db' =
      if invocation.runId = some other then (runStatus other db).map fun _ => .unknown
      else runStatus other db := by
  obtain ⟨db₁, happ, h⟩ := bind_eq_ok.mp h
  have hruns := runs_append happ
  split at h
  · next runId hrun =>
    rw [← return_eq_ok.mp h, runStatus_setRunStatus]
    have hsame : ∀ outbox, runStatus other { db₁ with outbox := outbox } = runStatus other db := by
      intro outbox
      rw [runStatus, runStatus, hruns]
    rw [hsame, hrun]
    by_cases heq : other = runId
    · rw [if_pos heq, if_pos (congrArg some heq.symm)]
    · rw [if_neg heq, if_neg fun hsome => heq (Option.some.inj hsome).symm]
  · next hrun =>
    rw [← return_eq_ok.mp h, hrun, if_neg (by simp)]
    exact runStatus_of_runs hruns other

end Calls

end AgentCore.Journal
