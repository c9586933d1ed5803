import AgentCore.Journal.Worker

/-! The ingress facts of a database: which reservations are accepted, and the calls that
leave that alone. -/

namespace AgentCore.Journal

open Foundation Domain

variable [Platform] {kind : JournalEventKind} {db db' : Db} {eventId : EventId}

def isAcceptance (eventId : EventId) (r : JournalRow) : Bool :=
  decide ((rowToEvent r).kind = .ingressAccepted ∧ ingressEventId (rowToEvent r) = some eventId)

def acceptances (db : Db) (eventId : EventId) : List JournalRow :=
  db.journal.rows.filter (isAcceptance eventId)

def hasJob (db : Db) (eventId : EventId) : Bool :=
  (db.workerJobs.find? (workerJobId eventId)).isSome

lemma isAcceptance_of_kind (h : r.kind = kind.storageName)
    (hkind : kind ≠ .ingressAccepted) (eventId : EventId) : isAcceptance eventId r = false := by
  rw [isAcceptance, kind_rowToEvent h]
  simp [hkind]

lemma filter_acceptance_eq_nil {rows : List JournalRow}
    (h : ∀ r ∈ rows, isAcceptance eventId r = false) : rows.filter (isAcceptance eventId) = [] := by
  rw [List.filter_eq_nil_iff]
  intro r hr
  simp [h r hr]

structure KeepsIngress (db db' : Db) : Prop where
  dedup : db'.ingressDedup = db.ingressDedup
  accepted : ∀ eventId, acceptances db' eventId = acceptances db eventId
  jobs : ∀ eventId, hasJob db eventId = true → hasJob db' eventId = true

lemma KeepsIngress.refl (db : Db) : KeepsIngress db db := ⟨rfl, fun _ => rfl, fun _ h => h⟩

lemma KeepsIngress.trans (h : KeepsIngress a b) (h' : KeepsIngress b c) : KeepsIngress a c :=
  ⟨h'.dedup.trans h.dedup, fun id => (h'.accepted id).trans (h.accepted id),
    fun id hjob => h'.jobs id (h.jobs id hjob)⟩

lemma keepsIngress_append (h : db.append stamp kind runId sessionId correlationId payload = .ok db')
    (hkind : kind ≠ .ingressAccepted) : KeepsIngress db db' := by
  obtain ⟨journal, rfl, hrows, -⟩ := Db.append_eq_ok h
  refine ⟨rfl, fun eventId => ?_, fun _ hjob => hjob⟩
  have hnil : ([newRow db.journal stamp kind.storageName runId sessionId correlationId
      payload.toText] : List JournalRow).filter (isAcceptance eventId) = [] := by
    apply filter_acceptance_eq_nil
    intro r hr
    obtain rfl := List.mem_singleton.mp hr
    exact isAcceptance_of_kind rfl hkind eventId
  simp only [acceptances, hrows, List.filter_append, hnil, List.append_nil]

omit [Platform] in
lemma hasJob_insertOrIgnore
    (hjobs : db'.workerJobs = (db.workerJobs.insertOrIgnore job).1) (h : hasJob db eventId = true) :
    hasJob db' eventId = true := by
  obtain ⟨row, hrow⟩ := Option.isSome_iff_exists.mp h
  rw [hasJob, hjobs, Table.find?_insertOrIgnore, if_neg (by simp [hrow])]
  exact h

lemma keepsIngress_insertDeliverJob (h : insertDeliverJob sourceEventId now stamp db = .ok db') :
    KeepsIngress db db' ∧ hasJob db' sourceEventId = true := by
  obtain ⟨journal, tail, rfl, hrows, htail⟩ := insertDeliverJob_eq_ok h
  refine ⟨⟨rfl, fun eventId => ?_, fun eventId => hasJob_insertOrIgnore rfl⟩, ?_⟩
  · have hnil : tail.filter (isAcceptance eventId) = [] :=
      filter_acceptance_eq_nil fun r hr => isAcceptance_of_kind (htail r hr) (by decide) eventId
    simp only [acceptances, hrows, List.filter_append, hnil, List.append_nil]
  · have hfind := Table.find?_insertOrIgnore db.workerJobs (newJob .deliverEvent sourceEventId now)
      (workerJobId sourceEventId)
    simp only [hasJob, hfind]
    split
    · rfl
    · next hcond =>
      have hsome : db.workerJobs.find? (workerJobId sourceEventId) ≠ none :=
        fun hnone => hcond ⟨rfl, hnone⟩
      exact Option.isSome_iff_ne_none.mpr hsome

lemma keepsIngress_update (db : Db) (p : WorkerJobRow → Bool) (f : WorkerJobRow → WorkerJobRow)
    (hf : ∀ r, (f r).jobId = r.jobId) :
    KeepsIngress db { db with workerJobs := db.workerJobs.update p f hf } := by
  refine ⟨rfl, fun _ => rfl, fun eventId h => ?_⟩
  obtain ⟨row, hrow⟩ := Option.isSome_iff_exists.mp h
  simp only [hasJob, Table.find?_update, hrow]
  rfl

lemma keepsIngress_lease
    (h : leaseNextWorkerJob now stamp db = .ok (leased, db')) : KeepsIngress db db' := by
  unfold leaseNextWorkerJob at h
  split at h
  · cases h
    exact .refl db
  · simp only at h
    split at h
    · cases h
      exact .refl db
    · obtain ⟨db1, happ, ⟨⟩⟩ := bind_eq_ok.mp h
      exact (keepsIngress_update db _ _ _).trans (keepsIngress_append happ (by decide))

lemma keepsIngress_settle
    (h : settleWorkerJob sourceEventId status kind errorCategory extra now stamp db = .ok db')
    (hkind : kind ≠ .ingressAccepted) : KeepsIngress db db' := by
  simp only [settleWorkerJob] at h
  split at h
  · exact (keepsIngress_update db _ _ _).trans (keepsIngress_append h hkind)
  · cases h
    exact .refl db

end AgentCore.Journal
