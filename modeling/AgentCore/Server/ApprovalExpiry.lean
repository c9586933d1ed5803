import AgentCore.Gateway.Exclusive

/-! The sweep over requests for approval that waited too long. It goes through the requests that
its query selects, not through the runs, and it reads a stored payload as the text of a text. -/

namespace AgentCore.Server

open Foundation Domain Journal Gateway List

section Sweep

variable [Platform]

def expiredPayload (ttlSecs : Nat) (now : Timestamp) (approval : StaleApproval) : Json :=
  .mkObj [("operation", .str approval.operation),
    ("requested_at", .str (Platform.rfc3339 approval.requestedAt)),
    ("expired_at", .str (Platform.rfc3339 now)), ("ttl_secs", .num (.int ttlSecs))]

/-- The row of the query, if it has the request. A limit that does not fit `i64` is negative
there, and the requests of some time to come are selected too. -/
def isSelected (now : Timestamp) (ttlSecs : Nat) (db : Db) (r : JournalRow) : Option StaleApproval :=
  if ttlSecs < 2 ^ 63 then isStale now ttlSecs db r
  else isStale (now + (2 ^ 64 - ttlSecs) * 10 ^ 9) 0 db r

/-- The event and the status of each request are commits of their own; `stamps` has the clocks
of the two. -/
def expireEach (ttlSecs : Nat) (now : Timestamp) (stamps : Nat → Stamp × Timestamp) :
    List StaleApproval → Db → Except String Db
  | [], db => .ok db
  | approval :: rest, db => do
    let db ← db.append (stamps rest.length).1 .approvalExpired (some approval.runId) none none
      (expiredPayload ttlSecs now approval)
    expireEach ttlSecs now stamps rest
      (setRunStatus approval.runId .failed (stamps rest.length).2 db)

def expireStaleApprovals (ttlSecs : Nat) (clock now : Timestamp) (stamps : Nat → Stamp × Timestamp)
    (db : Db) : Except String (Nat × Db) :=
  if ttlSecs = 0 then .ok (0, db)
  else do
    let stale := db.journal.rows.filterMap (isSelected clock ttlSecs db)
    let db ← expireEach ttlSecs now stamps stale db
    return (stale.length, db)

/-! ## What the sweep is for -/

def operationOf (payloadJson : String) : String :=
  ((fromStr payloadJson).bind fun payload => (payload.get "operation").bind Json.asStr).getD ""

def latestRequest (runId : RunId) (db : Db) : Option JournalRow :=
  (runFacts [.approvalRequested] runId db).getLast?

def IsOld (now : Timestamp) (ttlSecs : Nat) (r : JournalRow) : Prop :=
  r.createdAt + ttlSecs * 10 ^ 9 < now

def Expires (now : Timestamp) (ttlSecs : Nat) (db : Db) (runId : RunId) : Prop :=
  runStatus runId db = some .awaitingApproval ∧ decisions runId db = [] ∧
    ∃ r, latestRequest runId db = some r ∧ IsOld now ttlSecs r

/-- The sweep took `db` to `db'`: each run that has to expire got its one fact, which names the
operation it asked for, and nothing else changed. -/
structure ExpiresExactly (now : Timestamp) (ttlSecs : Nat) (db : Db) (count : Nat) (db' : Db) :
    Prop where
  expired : ∀ runId r, Expires now ttlSecs db runId → latestRequest runId db = some r →
    runStatus runId db' = some .failed ∧
      ∃ row, runFacts [.approvalExpired] runId db' = [row] ∧
        operationOf row.payloadJson = operationOf r.payloadJson
  kept : ∀ runId, ¬ Expires now ttlSecs db runId → runById runId db' = runById runId db
  appended : ∃ rows, db'.journal.rows = db.journal.rows ++ rows ∧
    ∀ row ∈ rows, row.kind = JournalEventKind.approvalExpired.storageName ∧
      ∃ runId, row.runId = some runId ∧ Expires now ttlSecs db runId
  tables : ∃ journal runs, db' = { db with journal, runs }
  counted : ∃ runIds : List RunId, runIds.Nodup ∧ (∀ runId, runId ∈ runIds ↔
    Expires now ttlSecs db runId) ∧ count = runIds.length

def namedOperation (payloadJson : String) : Option String :=
  match fromStr payloadJson with
  | some (.obj fields) => (fields.lookup "operation").bind Json.asStr
  | _ => none

/-- The requests are as a paused run leaves them: objects that name an operation. -/
def RequestsNamed (db : Db) : Prop :=
  ∀ r ∈ db.journal.rows, r.kind = JournalEventKind.approvalRequested.storageName →
    (namedOperation r.payloadJson).any (· ≠ "") = true

instance (db : Db) : Decidable (RequestsNamed db) :=
  inferInstanceAs (Decidable (∀ r ∈ db.journal.rows, _ → _))

def NothingStale (now : Timestamp) (ttlSecs : Nat) (db : Db) : Prop :=
  ∀ r ∈ db.journal.rows, isSelected now ttlSecs db r = none

instance (now : Timestamp) (ttlSecs : Nat) (db : Db) : Decidable (NothingStale now ttlSecs db) :=
  inferInstanceAs (Decidable (∀ r ∈ db.journal.rows, isSelected now ttlSecs db r = none))

variable {ttlSecs count : Nat} {clock now : Timestamp} {stamps : Nat → Stamp × Timestamp}
  {stale : List StaleApproval} {rows : List JournalRow} {db db' : Db} {runId : RunId}
  {approval : StaleApproval} {r : JournalRow}

lemma expireEach_eq_ok (h : expireEach ttlSecs now stamps stale db = .ok db') :
    ∃ rows, db'.journal.rows = db.journal.rows ++ rows ∧
      rows.map (fun row => (row.runId, row.payloadJson)) =
        stale.map fun a => (some a.runId, (expiredPayload ttlSecs now a).toText) := by
  induction stale generalizing db with
  | nil =>
    cases h
    exact ⟨[], by simp, rfl⟩
  | cons approval rest ih =>
    obtain ⟨db₁, happend, h⟩ := bind_eq_ok.mp h
    obtain ⟨journal, rfl, hrows, -⟩ := Db.append_eq_ok happend
    obtain ⟨rows, hrest, hfacts⟩ := ih h
    refine ⟨newRow db.journal (stamps rest.length).1 JournalEventKind.approvalExpired.storageName
      (some approval.runId) none none (expiredPayload ttlSecs now approval).toText :: rows, ?_, ?_⟩
    · rw [hrest]
      change journal.rows ++ rows = _
      rw [hrows, append_assoc]
      rfl
    · rw [map_cons, hfacts]
      rfl

lemma operationOf_expiredPayload (httl : ttlSecs < 2 ^ 64) (approval : StaleApproval) :
    operationOf (expiredPayload ttlSecs now approval).toText = approval.operation := by
  have hwf : (expiredPayload ttlSecs now approval).wf Platform.readFloat = true := by
    apply Json.wf_mkObj
    simp [Json.wf, Json.wfNumber, Json.intInRange]
    omega
  have hnesting : (expiredPayload ttlSecs now approval).nesting ≤ 1 := by
    apply Json.nesting_mkObj (n := 0)
    simp [Json.nesting]
  have hget : (expiredPayload ttlSecs now approval).get "operation" = some (.str approval.operation) :=
    Json.get_mkObj_of_mem (by simp) mem_cons_self
  rw [operationOf, fromStr_toText hwf (hnesting.trans (by decide)), Option.bind_some, hget]
  rfl

lemma RequestsNamed.read (h : RequestsNamed db) (hr : r ∈ db.journal.rows)
    (hkind : r.kind = JournalEventKind.approvalRequested.storageName) :
    operationOf r.payloadJson ≠ "" ∧ staleOperation r.payloadJson = "" := by
  obtain ⟨operation, hnamed, hne⟩ := (Option.any_eq_true ..).mp (h r hr hkind)
  unfold namedOperation at hnamed
  split at hnamed
  next fields hread =>
    simp only [operationOf, staleOperation, hread, Option.bind_some, Json.get, hnamed]
    exact ⟨of_decide_eq_true hne, rfl⟩
  next => cases hnamed

lemma isSelected_operation (hnamed : RequestsNamed db) (hr : r ∈ db.journal.rows)
    (h : isSelected now ttlSecs db r = some approval) : approval.operation = "" := by
  have hstale : ∃ clock secs, isStale clock secs db r = some approval := by
    unfold isSelected at h
    split at h
    · exact ⟨_, _, h⟩
    · exact ⟨_, _, h⟩
  obtain ⟨clock, secs, h⟩ := hstale
  have hempty := (hnamed.read hr (isStale_eq_some h).2.1).2
  unfold isStale at h
  split at h
  · cases h
  split at h
  · cases h
    exact hempty
  · cases h

lemma isSelected_isSome (hr : r ∈ runFacts [.approvalRequested] runId db)
    (hstatus : runStatus runId db = some .awaitingApproval) (hdecisions : decisions runId db = [])
    (hold : r.createdAt + ttlSecs * 10 ^ 9 < now) : (isSelected now ttlSecs db r).isSome := by
  obtain ⟨-, hrun, hkind⟩ := mem_runFacts.mp hr
  have hkind : r.kind = JournalEventKind.approvalRequested.storageName := by simpa using hkind
  have hlater : r.createdAt + 0 * 10 ^ 9 < now + (2 ^ 64 - ttlSecs) * 10 ^ 9 := by
    have hzero : r.createdAt + 0 * 10 ^ 9 ≤ r.createdAt + ttlSecs * 10 ^ 9 :=
      Nat.add_le_add_left (Nat.mul_le_mul_right _ (Nat.zero_le _)) _
    exact (hzero.trans_lt hold).trans_le (Nat.le_add_right _ _)
  unfold isSelected
  split
  · simp only [isStale, hrun]
    rw [if_pos ⟨hkind, hstatus, hold, hdecisions⟩]
    rfl
  · simp only [isStale, hrun]
    rw [if_pos ⟨hkind, hstatus, hlater, hdecisions⟩]
    rfl

lemma not_expires (h : NothingStale now ttlSecs db) : ¬ Expires now ttlSecs db runId := by
  rintro ⟨hstatus, hdecisions, r, hlatest, hold⟩
  have hr := mem_of_getLast? hlatest
  have hsome := isSelected_isSome hr hstatus hdecisions hold
  rw [h r (mem_runFacts.mp hr).1] at hsome
  cases hsome

lemma nothingStale_of_exact (httl : 0 < ttlSecs ∧ ttlSecs < 2 ^ 64) (hnamed : RequestsNamed db)
    (h : expireStaleApprovals ttlSecs clock now stamps db = .ok (count, db'))
    (hexact : ExpiresExactly clock ttlSecs db count db') : NothingStale clock ttlSecs db := by
  rw [expireStaleApprovals, if_neg (by omega)] at h
  obtain ⟨db₁, heach, ⟨⟩⟩ := bind_eq_ok.mp h
  intro r hr
  by_contra hne
  obtain ⟨approval, hselected⟩ := Option.ne_none_iff_exists'.mp hne
  obtain ⟨rows, hrows, hfacts⟩ := expireEach_eq_ok heach
  obtain ⟨rows', hrows', hexpires⟩ := hexact.appended
  obtain rfl : rows = rows' := append_cancel_left (hrows.symm.trans hrows')
  -- the request has left an event, so its run had to expire
  have hfact := mem_map_of_mem (f := fun a => (some a.runId, (expiredPayload ttlSecs now a).toText))
    (mem_filterMap.mpr ⟨r, hr, hselected⟩)
  rw [← hfacts] at hfact
  obtain ⟨row, hrow, -⟩ := mem_map.mp hfact
  obtain ⟨-, runId, -, hrun⟩ := hexpires row hrow
  obtain ⟨-, hdecisions, r', hlatest, -⟩ := id hrun
  -- the one event of the run is new, and names the operation of a selected request
  obtain ⟨-, fact, hfact, hoperation⟩ := hexact.expired runId r' hrun hlatest
  obtain ⟨hmem, hfactRun, hkind⟩ := mem_runFacts.mp (hfact ▸ mem_singleton_self fact)
  have hnew : fact ∈ rows := by
    rw [hrows] at hmem
    refine (mem_append.mp hmem).resolve_left fun hold => ?_
    have hdecision : fact ∈ decisions runId db :=
      mem_runFacts.mpr ⟨hold, hfactRun, by simpa [decisionKinds] using .inr (.inr (by simpa using hkind))⟩
    exact absurd (hdecisions ▸ hdecision) not_mem_nil
  have hpayload := mem_map_of_mem (f := fun row => (row.runId, row.payloadJson)) hnew
  rw [hfacts] at hpayload
  obtain ⟨approval', happroval', heq⟩ := mem_map.mp hpayload
  obtain ⟨r'', hr'', hselected'⟩ := mem_filterMap.mp happroval'
  have hempty : operationOf fact.payloadJson = "" := by
    rw [← (Prod.mk.inj heq).2, operationOf_expiredPayload httl.2]
    exact isSelected_operation hnamed hr'' hselected'
  obtain ⟨hr', -, hrequest⟩ := mem_runFacts.mp (mem_of_getLast? hlatest)
  exact (hnamed.read hr' (by simpa using hrequest)).1 (hoperation.symm.trans hempty)

/-- The operation of a request reads as empty, so the sweep does what it is for exactly where it
has nothing to do. -/
theorem expires_exactly_iff (httl : 0 < ttlSecs ∧ ttlSecs < 2 ^ 64) (hnamed : RequestsNamed db)
    (h : expireStaleApprovals ttlSecs clock now stamps db = .ok (count, db')) :
    ExpiresExactly clock ttlSecs db count db' ↔ NothingStale clock ttlSecs db := by
  refine ⟨nothingStale_of_exact httl hnamed h, fun hnothing => ?_⟩
  rw [expireStaleApprovals, if_neg (by omega)] at h
  obtain ⟨db₁, heach, ⟨⟩⟩ := bind_eq_ok.mp h
  have hnone : db.journal.rows.filterMap (isSelected clock ttlSecs db) = [] :=
    filterMap_eq_nil_iff.mpr hnothing
  rw [hnone] at heach ⊢
  cases heach
  exact ⟨fun _ _ hexpires => absurd hexpires (not_expires hnothing), fun _ _ => rfl,
    ⟨[], by simp⟩, ⟨_, _, rfl⟩, [], nodup_nil,
    fun _ => ⟨fun h => absurd h not_mem_nil, fun h => absurd h (not_expires hnothing)⟩, rfl⟩

end Sweep

/-- A request of the time 0 is read at the time 0, and no event is due. -/
theorem expires_exactly_fresh : letI := zeroPlatform
    ExpiresExactly 0 1 pausedDb 0 pausedDb := by
  let _ := zeroPlatform
  have hok : expireStaleApprovals 1 0 0 (fun _ => (⟨"event_1", 0⟩, 0)) pausedDb = .ok (0, pausedDb) := rfl
  exact (expires_exactly_iff (by decide) (by decide +kernel) hok).mpr (by decide +kernel)

/-- Two seconds later it expires, and the event names no operation. -/
theorem expires_nameless_stale : letI := zeroPlatform
    ∃ count db', expireStaleApprovals 1 (2 * 10 ^ 9) (2 * 10 ^ 9) (fun _ => (⟨"event_1", 0⟩, 0))
        pausedDb = .ok (count, db') ∧ ¬ ExpiresExactly (2 * 10 ^ 9) 1 pausedDb count db' := by
  let _ := zeroPlatform
  cases h : expireStaleApprovals 1 (2 * 10 ^ 9) (2 * 10 ^ 9) (fun _ => (⟨"event_1", 0⟩, 0))
      pausedDb with
  | error e =>
    have hok : (expireStaleApprovals 1 (2 * 10 ^ 9) (2 * 10 ^ 9) (fun _ => (⟨"event_1", 0⟩, 0))
      pausedDb).isOk := by decide +kernel
    rw [h] at hok
    cases hok
  | ok swept =>
    refine ⟨swept.1, swept.2, rfl, fun hexact => ?_⟩
    have hnothing := nothingStale_of_exact (by decide) (by decide +kernel) h hexact
    exact absurd hnothing (by decide +kernel)

end AgentCore.Server
