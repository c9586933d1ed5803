import AgentCore.Runtime.ContinuationSound

/-! A trigger run is continued at most once, whatever the requests, leases, re-leases and
crashes. -/

namespace AgentCore.Runtime.Continuation

open Foundation Domain Journal Option Table Pool

lemma checkRequest_eq_ok
    (h : checkRequest request (runById request.triggerRunId db) = .ok trigger) :
    trigger.id = request.triggerRunId := by
  unfold checkRequest at h
  split at h
  · cases h
  split at h
  · cases h
  · next found hfound =>
    split at h
    · cases h
    · cases h
      exact find?_key hfound

lemma payload_texts (requestId : String) (sessionId : SessionId) (triggerRunId : RunId)
    (requestingPrincipal idempotencyKey : String) (nextRunId : RunId) :
    Texts (continuationPayload requestId sessionId triggerRunId requestingPrincipal
      idempotencyKey nextRunId) where
  keys := by
    show ["request_id", "trigger_run_id", "session_id", "requesting_principal",
      "idempotency_key", "next_run_id"].Nodup
    decide
  texts := by simp [continuationPayload]

variable [Platform]

/-! ## Threads -/

variable {phase : Phase} {db db' : Db} {triggerRunId nextRunId : RunId} {x : Input} {trigger : Run}
  {mine : Option RunId} {r : JournalRow}

/-- The run whose start or model calls are this thread's alone. -/
def Phase.drives : Phase → Option RunId
  | inserted run => some run.id
  | running runId _ => some runId
  | ended called => called
  | _ => none

def Phase.CalledModel (runId : RunId) : Phase → Prop
  | running r called => called = true ∧ r = runId
  | ended called => called = some runId
  | _ => False

omit [Platform] in
lemma Phase.CalledModel.drives (h : phase.CalledModel runId) : phase.drives = some runId := by
  cases phase with
  | running r called => exact congrArg some h.2
  | ended called => exact h
  | _ => exact h.elim

def Allocated (db : Db) (triggerRunId nextRunId : RunId) : Prop :=
  ∃ row, db.continuations.find? triggerRunId = some row ∧ row.nextRunId = nextRunId

def Phase.Local (db : Db) : Phase → Prop
  | checked r trigger => trigger.id = r.triggerRunId
  | accepting r trigger _ => trigger.id = r.triggerRunId
  | duplicate triggerRunId => db.continuations.find? triggerRunId ≠ none
  | answered triggerRunId nextRunId => ∃ n, nextRunId = some n ∧ Allocated db triggerRunId n
  | allocated triggerRunId nextRunId => Allocated db triggerRunId nextRunId
  | loaded trigger nextRunId => Allocated db trigger.id nextRunId
  | scheduling trigger _ nextRunId => Allocated db trigger.id nextRunId
  | creating trigger _ nextRunId => Allocated db trigger.id nextRunId
  | inserting run => run.parentRunId = none
  | inserted run => db.runs.find? run.id ≠ none ∧ startRows run.id db = []
  | running runId _ => db.runs.find? runId ≠ none
  | ended called => ∀ runId ∈ called, db.runs.find? runId ≠ none
  | _ => True

structure Effect (db db' : Db) (mine : Option RunId) : Prop where
  sound : Sound db'
  runs : ∀ x, db.runs.find? x ≠ none → db'.runs.find? x ≠ none
  ledger : ∀ t row, db.continuations.find? t = some row → db'.continuations.find? t = some row
  starts : ∀ x, db.runs.find? x ≠ none → mine ≠ some x → startRows x db' = startRows x db

lemma Quiet.effect (h : Quiet db db') (hs : Sound db) (mine : Option RunId) :
    Effect db db' mine where
  sound := h.sound hs
  runs x := (h.find?_ne_none x).mpr
  ledger t row hrow := by rw [h.ledger, hrow]
  starts x _ _ := h.starts x

lemma Effect.allocated (h : Effect db db' mine)
    (ha : Allocated db triggerRunId nextRunId) : Allocated db' triggerRunId nextRunId := by
  obtain ⟨row, hrow, hnext⟩ := ha
  exact ⟨row, h.ledger _ row hrow, hnext⟩

lemma Phase.Local.of_effect (h : phase.Local db) (he : Effect db db' mine)
    (hmine : ∀ x, phase.drives = some x → mine ≠ some x) : phase.Local db' := by
  cases phase with
  | duplicate triggerRunId =>
    obtain ⟨row, hrow⟩ := ne_none_iff_exists'.mp h
    have hrow' := he.ledger triggerRunId row hrow
    simp [Phase.Local, hrow']
  | answered triggerRunId nextRunId =>
    obtain ⟨n, hn, ha⟩ := h
    exact ⟨n, hn, he.allocated ha⟩
  | allocated triggerRunId nextRunId | loaded trigger nextRunId
  | scheduling trigger session nextRunId | creating trigger session nextRunId =>
    exact he.allocated h
  | inserted run =>
    obtain ⟨hrun, hstarts⟩ := h
    refine ⟨he.runs _ hrun, ?_⟩
    rw [he.starts run.id hrun (hmine run.id rfl), hstarts]
  | running runId called => exact he.runs _ h
  | ended called => exact fun runId hcalled => he.runs _ (h runId hcalled)
  | _ => exact h

structure Advance (db : Db) (phase : Phase) (after : Phase × Db) : Prop where
  effect : Effect db after.2 phase.drives
  here : after.1.Local after.2
  drives : ∀ x, after.1.drives = some x → phase.drives = some x ∨ db.runs.find? x = none

lemma Advance.quiet (hs : Sound db) (h : Quiet db db')
    (hlocal : phase'.Local db') (hdrives : phase'.drives = none) : Advance db phase (phase', db') :=
  ⟨h.effect hs _, hlocal, fun x hx => by rw [hdrives] at hx; cases hx⟩

lemma Advance.over (hs : Sound db) (h : Quiet db db') : Advance db phase (.ended none, db') :=
  .quiet hs h (fun _ hx => by cases hx) rfl

lemma advance_halt (hs : Sound db) (h : phase.Local db) : Advance db phase (phase.halt, db) := by
  have hquiet := Quiet.refl db
  cases phase with
  | answered triggerRunId nextRunId => exact .quiet hs hquiet h rfl
  | running runId called =>
    cases called with
    | false => exact .over hs hquiet
    | true =>
      refine ⟨hquiet.effect hs _, fun x hx => ?_, fun x hx => .inl hx⟩
      cases hx
      exact h
  | ended called => exact ⟨hquiet.effect hs _, h, fun x hx => .inl hx⟩
  | _ => exact .over hs hquiet

/-! ## The actions that write -/

structure Asks (r : JournalRow) (triggerRunId : RunId) : Prop where
  kind : r.kind = JournalEventKind.sessionContinuationRequested.storageName
  trigger : ((rowToEvent r).payload.get "trigger_run_id").bind Json.asStr = some triggerRunId

lemma Asks.startRows (h : Asks r triggerRunId)
    (hrows : db'.journal.rows = db.journal.rows ++ [r]) (x : RunId) :
    startRows x db' = startRows x db := by
  have hne : ¬(r.runId = some x ∧ r.kind = JournalEventKind.runStarted.storageName) := by
    rintro ⟨-, hstart⟩
    rw [h.kind] at hstart
    exact absurd (storageName_injective hstart) (by decide)
  simp only [Journal.startRows, hrows, List.filter_append, List.filter_cons, List.filter_nil,
    decide_eq_true_eq, if_neg hne, List.append_nil]

lemma Asks.requestRows (h : Asks r triggerRunId)
    (hrows : db'.journal.rows = db.journal.rows ++ [r]) (t : RunId) :
    requestRows t db' = requestRows t db ++ if triggerRunId = t then [r] else [] := by
  simp only [Continuation.requestRows, hrows, List.filter_append, List.filter_cons,
    List.filter_nil, h.kind, h.trigger, true_and, decide_eq_true_eq, some.injEq]

lemma accept_effect (hs : Sound db)
    (h : acceptSessionContinuation requestId sessionId triggerRunId requestingPrincipal idempotencyKey nextRunId now stamp db = .ok (some (eventId, n), db')) :
    Effect db db' none ∧ Allocated db' triggerRunId n := by
  rcases acceptSessionContinuation_eq_ok h with ⟨hanswer, -⟩ | ⟨hanswer, hnone, journal,
    continuations, jobs, hdb, hrows, -, hinsert, hjobs⟩
  · cases hanswer
  obtain ⟨rfl, rfl⟩ := Prod.mk.inj (some.inj hanswer)
  have hasks : Asks (newRow db.journal stamp
      JournalEventKind.sessionContinuationRequested.storageName none (some sessionId)
      (some requestId) (Json.mkObj (continuationPayload requestId sessionId triggerRunId
        requestingPrincipal idempotencyKey n)).toText) triggerRunId := by
    have htexts := payload_texts requestId sessionId triggerRunId requestingPrincipal
      idempotencyKey n
    refine ⟨newRow_kind .., ?_⟩
    rw [htexts.payload_rowToEvent (newRow_payloadJson ..),
      htexts.get "trigger_run_id" triggerRunId (by simp [continuationPayload])]
    rfl
  generalize hr : newRow _ _ _ _ _ _ _ = r at hrows hasks
  have hevent : r.eventId = stamp.eventId := by rw [← hr, newRow_eventId]
  have hjournal : db'.journal.rows = db.journal.rows ++ [r] := by rw [hdb, hrows]
  have hfind : ∀ t, db'.continuations.find? t = if triggerRunId = t then
      some ⟨idempotencyKey, sessionId, triggerRunId, stamp.eventId, n, now⟩ else
        db.continuations.find? t := by
    intro t
    rw [hdb]
    exact find?_insert hinsert t
  have hledger : ∀ t row, db.continuations.find? t = some row →
      db'.continuations.find? t = some row := by
    intro t row hrow
    rw [hfind, if_neg, hrow]
    rintro rfl
    rw [hnone] at hrow
    cases hrow
  -- the ledger had no row for the trigger run, so the journal had no request for it
  have hfresh : requestRows triggerRunId db = [] := by
    by_contra hne
    obtain ⟨r', hr'⟩ := List.exists_mem_of_ne_nil _ hne
    obtain ⟨row, hrow, -⟩ := hs.ledger triggerRunId r' hr'
    rw [hnone] at hrow
    cases hrow
  have hruns : db'.runs = db.runs := by rw [hdb]
  refine ⟨⟨⟨fun x => ?_, fun x hne => ?_, fun t => ?_, fun t r' hr' => ?_,
    fun x run t hrun ht => ?_, fun job hjob => ?_⟩, fun x hx => ?_, hledger,
    fun x _ _ => hasks.startRows hjournal x⟩, ?_⟩
  · rw [hasks.startRows hjournal]
    exact hs.starts x
  · rw [hasks.startRows hjournal] at hne
    rw [hruns]
    exact hs.started x hne
  · rw [hasks.requestRows hjournal]
    by_cases ht : triggerRunId = t
    · rw [if_pos ht, ← ht, hfresh]
      exact le_rfl
    · rw [if_neg ht, List.append_nil]
      exact hs.requests t
  · rw [hasks.requestRows hjournal] at hr'
    by_cases ht : triggerRunId = t
    · rw [if_pos ht, ← ht, hfresh, List.nil_append, List.mem_singleton] at hr'
      rw [hfind, if_pos ht]
      exact ⟨_, rfl, by rw [hr', hevent]⟩
    · rw [if_neg ht, List.append_nil] at hr'
      obtain ⟨row, hrow, hid⟩ := hs.ledger t r' hr'
      exact ⟨row, hledger t row hrow, hid⟩
  · rw [hruns] at hrun
    obtain ⟨row, hrow, hnext⟩ := hs.children x run t hrun ht
    exact ⟨row, hledger t row hrow, hnext⟩
  · rw [hdb, mem_rows, (insert_eq_some.mp hjobs).2, List.mem_append,
      List.mem_singleton] at hjob
    rcases hjob with hold | rfl
    · exact hs.jobs job hold
    · rfl
  · rwa [hruns]
  · exact ⟨_, by rw [hfind, if_pos rfl], rfl⟩

lemma insertRun_effect {run : Run} (hs : Sound db)
    (hparent : ∀ t, run.parentRunId = some t → Allocated db t run.id)
    (h : insertRun run db = .ok db') :
    Effect db db' none ∧ db.runs.find? run.id = none ∧ db'.runs.find? run.id ≠ none ∧
      startRows run.id db' = [] := by
  obtain ⟨hnone, runs, hinsert, rfl⟩ := insertRun_eq_ok h
  have hfind : ∀ x, runs.find? x = if run.id = x then some run else db.runs.find? x :=
    find?_insert hinsert
  have hmono : ∀ x, db.runs.find? x ≠ none → runs.find? x ≠ none := by
    intro x hx
    rw [hfind]
    split
    · exact some_ne_none run
    · exact hx
  have hself : runs.find? run.id ≠ none := by
    rw [hfind, if_pos rfl]
    exact some_ne_none run
  have hstarts : startRows run.id db = [] := by
    by_contra hne
    exact hs.started run.id hne hnone
  refine ⟨⟨⟨hs.starts, fun x hne => hmono x (hs.started x hne), hs.requests, hs.ledger,
    fun x child t hchild ht => ?_, hs.jobs⟩, hmono, fun _ _ hrow => hrow, fun _ _ _ => rfl⟩,
    hnone, hself, hstarts⟩
  have hchild' : runs.find? x = some child := hchild
  rw [hfind] at hchild'
  split at hchild'
  · next hx =>
    cases hchild'
    exact hx ▸ hparent t ht
  · exact hs.children x child t hchild' ht

lemma start_effect {x : RunId} (hs : Sound db)
    (hrun : db.runs.find? x ≠ none) (hstarts : startRows x db = [])
    (h : db.append stamp .runStarted (some x) sessionId correlationId payload = .ok db') :
    Effect db db' (some x) ∧ db'.runs.find? x ≠ none := by
  have hother : ∀ y, some x ≠ some y → startRows y db' = startRows y db :=
    fun y hy => startRows_append h fun hxy => hy hxy.2
  have hrequests := requestRows_append h (by decide)
  obtain ⟨journal, rfl, hrows, -⟩ := Db.append_eq_ok h
  refine ⟨⟨⟨fun y => ?_, fun y hne => ?_, fun t => ?_, fun t r hr => ?_, hs.children, hs.jobs⟩,
    fun _ hy => hy, fun _ _ hrow => hrow, fun y _ hy => hother y hy⟩, hrun⟩
  · by_cases hy : some x = some y
    · cases hy
      have hold : db.journal.rows.filter (fun r => decide (r.runId = some x ∧
          r.kind = JournalEventKind.runStarted.storageName)) = [] := hstarts
      rw [startRows, hrows, List.filter_append, hold, List.nil_append]
      exact (List.length_filter_le _ _).trans le_rfl
    · rw [hother y hy]
      exact hs.starts y
  · by_cases hy : some x = some y
    · exact some.inj hy ▸ hrun
    · rw [hother y hy] at hne
      exact hs.started y hne
  · rw [hrequests]
    exact hs.requests t
  · rw [hrequests] at hr
    exact hs.ledger t r hr

lemma create_advance (hs : Sound db) (h : Allocated db trigger.id nextRunId) :
    Advance db (.creating trigger session nextRunId) (Phase.create x trigger session nextRunId db)
    := by
  unfold Phase.create
  split
  · next db' hstart =>
    obtain ⟨db1, hinsert, happ⟩ := bind_eq_ok.mp hstart
    have hparent : ∀ t, (createRunFrozen session trigger x.eventId nextRunId x.now).parentRunId =
        some t → Allocated db t nextRunId := by
      intro t ht
      cases ht
      exact h
    obtain ⟨heffect, hnone, hrun, hstarts⟩ := insertRun_effect hs hparent hinsert
    obtain ⟨heffect', hrun'⟩ := start_effect heffect.sound hrun hstarts happ
    refine ⟨⟨heffect'.sound, fun y hy => heffect'.runs y (heffect.runs y hy),
      fun t row hrow => heffect'.ledger t row (heffect.ledger t row hrow), fun y hy _ => ?_⟩,
      hrun', fun y hy => .inr ?_⟩
    · have hne : some nextRunId ≠ some y := by
        rintro heq
        cases heq
        exact hy hnone
      rw [heffect'.starts y (heffect.runs y hy) hne, heffect.starts y hy (by simp)]
    · cases hy
      exact hnone
  · exact .over hs (.refl db)

lemma insertOrdinary_advance {run : Run} (hs : Sound db) (h : run.parentRunId = none) :
    Advance db (.inserting run) (Phase.insertOrdinary run db) := by
  unfold Phase.insertOrdinary
  split
  · next db' hinsert =>
    have hparent : ∀ t, run.parentRunId = some t → Allocated db t run.id := by
      intro t ht
      rw [h] at ht
      cases ht
    obtain ⟨heffect, hnone, hrun, hstarts⟩ := insertRun_effect hs hparent hinsert
    refine ⟨heffect, ⟨hrun, hstarts⟩, fun y hy => .inr ?_⟩
    cases hy
    exact hnone
  · exact .over hs (.refl db)

lemma startOrdinary_advance {run : Run} (hs : Sound db) (h : (Phase.inserted run).Local db) :
    Advance db (.inserted run) (Phase.startOrdinary x run db) := by
  unfold Phase.startOrdinary
  split
  · next db' happ =>
    obtain ⟨heffect, hrun⟩ := start_effect hs h.1 h.2 happ
    exact ⟨heffect, hrun, fun y hy => .inl hy⟩
  · exact .over hs (.refl db)

lemma accept_advance (hs : Sound db) (h : trigger.id = request.triggerRunId) :
    Advance db (.accepting request trigger session) (Phase.accept x request trigger session db) := by
  unfold Phase.accept
  split
  · exact .over hs (.refl db)
  · next eventId nextRunId db' haccept =>
    obtain ⟨heffect, hallocated⟩ := accept_effect hs haccept
    refine ⟨heffect, ⟨nextRunId, rfl, h ▸ hallocated⟩, fun y hy => ?_⟩
    cases hy
  · next db' haccept =>
    rcases acceptSessionContinuation_eq_ok haccept with ⟨-, rfl, hsome⟩ | ⟨hanswer, -⟩
    · exact .quiet hs (.refl _) (h ▸ hsome) rfl
    · cases hanswer

/-! ## Every action -/

section

omit [Platform]

lemma allocated_of_ledger
    (h : continuationByTriggerRun triggerRunId db = some (eventId, nextRunId)) :
    Allocated db triggerRunId nextRunId := by
  obtain ⟨row, hrow, heq⟩ := map_eq_some_iff.mp h
  exact ⟨row, hrow, (Prod.mk.inj heq).2⟩

lemma schedule_local (session : Session) (h : Allocated db trigger.id nextRunId) :
    (Phase.schedule trigger session nextRunId db).Local db ∧
      (Phase.schedule trigger session nextRunId db).drives = none := by
  have hover : (Phase.ended none).Local db ∧ (Phase.ended none).drives = none :=
    ⟨fun _ hx => (by cases hx), rfl⟩
  unfold Phase.schedule
  split
  · exact hover
  split
  · exact hover
  split
  · exact ⟨h, rfl⟩
  split
  · exact hover
  · exact ⟨trivial, rfl⟩

lemma inspect_local (run : Run) (session : Session) (db : Db) :
    (Phase.inspect run session db).Local db ∧ (Phase.inspect run session db).drives = none := by
  unfold Phase.inspect
  split
  · exact ⟨fun _ hx => (by cases hx), rfl⟩
  · split <;> exact ⟨trivial, rfl⟩

end

lemma report_quiet (x : Input) (run : Run) (session : Session) (category reason : String)
    (db : Db) : Quiet db (Phase.report x run session category reason db) := by
  unfold Phase.report
  generalize hres : db.append _ _ _ _ _ _ = res
  cases res with
  | error e => exact .refl db
  | ok db' => exact quiet_append hres (by decide) (by decide)

lemma lease_advance (x : Input) (hs : Sound db) : Advance db .idle (Phase.lease x db) := by
  unfold Phase.lease
  split
  · next eventId db' hlease => exact .quiet hs (quiet_lease hlease) trivial rfl
  · next job db' _ hlease => exact .quiet hs (quiet_lease hlease) trivial rfl
  · exact .quiet hs (.refl db) trivial rfl

lemma next_advance (x : Input) (hs : Sound db) (h : phase.Local db) :
    Advance db phase (phase.next x db) := by
  have hquiet := Quiet.refl db
  cases phase with
  | request r =>
    simp only [Phase.next]
    split
    · next trigger hcheck => exact .quiet hs hquiet (checkRequest_eq_ok hcheck) rfl
    · exact .over hs hquiet
  | checked r trigger | loaded trigger nextRunId =>
    simp only [Phase.next]
    split
    · exact .quiet hs hquiet h rfl
    · exact .over hs hquiet
  | accepting r trigger session => exact accept_advance hs h
  | duplicate triggerRunId =>
    obtain ⟨row, hrow⟩ := ne_none_iff_exists'.mp h
    have hread : continuationByTriggerRun triggerRunId db = some (row.eventId, row.nextRunId) := by
      rw [continuationByTriggerRun, hrow]
      rfl
    refine .quiet hs hquiet ⟨row.nextRunId, ?_, row, hrow, rfl⟩ rfl
    rw [hread]
    rfl
  | answered triggerRunId nextRunId => exact .quiet hs hquiet h rfl
  | idle => exact lease_advance x hs
  | leased eventId =>
    simp only [Phase.next]
    split
    · split
      · exact .over hs hquiet
      · exact .quiet hs hquiet trivial rfl
    · exact .over hs hquiet
  | requested triggerRunId =>
    simp only [Phase.next]
    split
    · next eventId nextRunId hledger =>
      split
      · exact .over hs hquiet
      · exact .quiet hs hquiet (allocated_of_ledger hledger) rfl
    · exact .over hs hquiet
  | allocated triggerRunId nextRunId =>
    simp only [Phase.next]
    split
    · next trigger hrun =>
      have hid : trigger.id = triggerRunId := find?_key hrun
      refine .quiet hs hquiet ?_ rfl
      show Allocated db trigger.id nextRunId
      rw [hid]
      exact h
    · exact .over hs hquiet
  | scheduling trigger session nextRunId =>
    obtain ⟨hlocal, hdrives⟩ := schedule_local session h
    exact .quiet hs hquiet hlocal hdrives
  | existing run session =>
    obtain ⟨hlocal, hdrives⟩ := inspect_local run session db
    exact .quiet hs hquiet hlocal hdrives
  | stranded run session category reason =>
    exact .quiet hs (quiet_setRunStatus run.id .failed x.now db) trivial rfl
  | reporting run session category reason =>
    exact .over hs (report_quiet x run session category reason db)
  | creating trigger session nextRunId => exact create_advance hs h
  | inserting run => exact insertOrdinary_advance hs h
  | inserted run => exact startOrdinary_advance hs h
  | running runId called =>
    simp only [Phase.next]
    split
    · exact ⟨hquiet.effect hs _, h, fun y hy => .inl hy⟩
    · exact advance_halt hs h
  | ended called => exact ⟨hquiet.effect hs _, h, fun y hy => .inl hy⟩

lemma act_advance (x : Input) (hs : Sound db) (h : phase.Local db) :
    Advance db phase (phase.act x db) := by
  unfold Phase.act
  split
  · exact advance_halt hs h
  · exact next_advance x hs h

lemma other_quiet (o : Other) (db : Db) : Quiet db (o.apply db) := by
  have hcommit : ∀ {res : Except String Db}, (∀ db', res = .ok db' → Quiet db db') →
      Quiet db (commit db res) := by
    intro res hres
    cases res with
    | error e => exact .refl db
    | ok db' => exact hres db' rfl
  cases o with
  | status runId value now => exact quiet_setRunStatus runId value now db
  | session row =>
    refine hcommit fun db' h => ?_
    obtain ⟨sessions, rfl⟩ := insertSession_eq_ok h
    exact ⟨fun _ => rfl, fun _ => rfl, rfl, fun _ => rfl, fun hj => hj⟩
  | record kind stamp runId sessionId correlationId payload =>
    exact hcommit fun db' h => quiet_append h kind.2.1 kind.2.2
  | enqueue eventId now stamp =>
    refine hcommit fun db' h => ?_
    obtain ⟨jobId, h⟩ := map_snd_eq_ok h
    obtain ⟨db1, hjob, ⟨⟩⟩ := bind_eq_ok.mp h
    exact quiet_insertDeliverJob hjob
  | succeed eventId now stamp | fail eventId category now stamp =>
    exact hcommit fun db' h => quiet_settle h (by decide) (by decide)

/-! ## Every run -/

def Apart (a b : Phase) : Prop := ∀ x, a.drives = some x → b.drives ≠ some x

lemma Advance.apart (h : Advance db a after)
    (hab : Apart a b) (hb : b.Local db) : Apart after.1 b ∧ Apart b after.1 := by
  have hfirst : Apart after.1 b := by
    intro x hx hbx
    rcases h.drives x hx with ha | hnone
    · exact hab x ha hbx
    · cases b with
      | inserted run =>
        cases hbx
        exact hb.1 hnone
      | running runId called =>
        cases hbx
        exact hb hnone
      | ended called => exact hb x hbx hnone
      | _ => cases hbx
  exact ⟨hfirst, fun x hbx hx => hfirst x hx hbx⟩

omit [Platform] in
lemma halt_drives {x : RunId} (h : phase.halt.drives = some x) : phase.drives = some x := by
  cases phase with
  | running runId called =>
    cases called with
    | false => cases h
    | true => exact h
  | ended called => exact h
  | _ => cases h

abbrev Invariant := Pool.Holds Sound (fun phase db => Phase.Local db phase) Apart

lemma invariant_step (p : Pool Db Phase) (a : Pool.Act Input Start Other) (h : Invariant p) :
    Invariant (step machine p a) := by
  cases a with
  | spawn k =>
    have hdrives : (machine.start k).drives = none := by cases k <;> rfl
    refine h.spawn ?_ fun u _ => ⟨fun x hx => ?_, fun x _ hx => ?_⟩
    · cases k with
      | delivery run => rfl
      | _ => exact trivial
    · rw [hdrives] at hx
      cases hx
    · rw [hdrives] at hx
      cases hx
  | advance i x =>
    cases hphase : p.threads[i]? with
    | none =>
      rw [step_advance_none hphase]
      exact h
    | some phase =>
      rw [step_advance hphase]
      have hlocal := h.each phase (List.mem_of_getElem? hphase)
      have hadvance := act_advance x h.shared hlocal
      refine h.set hadvance.effect.sound hadvance.here fun j u hj hu => ?_
      have hu' := h.each u (List.mem_of_getElem? hu)
      have hapart := h.pairs i j phase u (fun hij => hj hij.symm) hphase hu
      obtain ⟨hleft, hright⟩ := hadvance.apart hapart hu'
      exact ⟨hu'.of_effect hadvance.effect fun y hy hmine => hapart y hmine hy, hleft, hright⟩
  | crash =>
    refine h.crash (fun phase hphase => (advance_halt h.shared hphase).here) fun a b hab x hx hb => ?_
    exact hab x (halt_drives hx) (halt_drives hb)
  | other o =>
    have hquiet := other_quiet o p.shared
    exact h.other (hquiet.sound h.shared) fun phase hphase =>
      (h.each phase hphase).of_effect (hquiet.effect h.shared none) fun _ _ hx => by cases hx

lemma invariant_run (as : List (Pool.Act Input Start Other)) :
    Invariant (run (step machine) ⟨{}, []⟩ as) :=
  run_invariant invariant_step as (holds_init sound_empty)

lemma Sound.continuationJobs_le_one (h : Sound db) (t : RunId) :
    (continuationJobs t db).length ≤ 1 := by
  have hone := h.requests t
  match hrows : requestRows t db with
  | [] =>
    have hnil : continuationJobs t db = [] := by
      rw [continuationJobs, List.filter_eq_nil_iff]
      simp [hrows]
    rw [hnil]
    exact Nat.zero_le 1
  | [r] =>
    refine length_filter_le_one (k := workerJobId r.eventId) fun job hjob hp => ?_
    rw [hrows, decide_eq_true_eq] at hp
    rw [h.jobs job hjob, List.mem_singleton.mp hp.2]
  | r :: r' :: rest =>
    rw [hrows] at hone
    simp at hone

lemma Sound.nextRuns_le_one (h : Sound db) (t : RunId) : (nextRuns t db).length ≤ 1 := by
  by_cases hnone : db.continuations.find? t = none
  · have hnil : nextRuns t db = [] := by
      rw [nextRuns, List.filter_eq_nil_iff]
      intro run hrun hparent
      obtain ⟨row, hrow, -⟩ := h.children run.id run t (find?_of_mem hrun)
        (of_decide_eq_true hparent)
      rw [hnone] at hrow
      cases hrow
    rw [hnil]
    exact Nat.zero_le 1
  · obtain ⟨row, hrow⟩ := ne_none_iff_exists'.mp hnone
    refine length_filter_le_one (k := row.nextRunId) fun run hrun hparent => ?_
    obtain ⟨row', hrow', hnext⟩ := h.children run.id run t (find?_of_mem hrun)
      (of_decide_eq_true hparent)
    rw [hrow] at hrow'
    rw [some.inj hrow', hnext]

/-- For every trigger run, after any run of requests, workers, deliveries and crashes: one
ledger row, one request, one job and one next run with one start; every answer is the next
run the ledger holds; and one delivery attempt at most has called the model for it. -/
theorem continuation_exactly_once (as : List (Pool.Act Input Start Other)) (t : RunId) :
    let p := run (step machine) ⟨{}, []⟩ as
    (p.shared.continuations.rows.filter fun row => row.triggerRunId = t).length ≤ 1 ∧
      (requestRows t p.shared).length ≤ 1 ∧
      (continuationJobs t p.shared).length ≤ 1 ∧
      (nextRuns t p.shared).length ≤ 1 ∧
      (∀ nextRun ∈ nextRuns t p.shared, (startRows nextRun.id p.shared).length ≤ 1 ∧
        (continuationByTriggerRun t p.shared).map Prod.snd = some nextRun.id) ∧
      (∀ answer, .answered t answer ∈ p.threads →
        answer ≠ none ∧ (continuationByTriggerRun t p.shared).map Prod.snd = answer) ∧
      ∀ n, (continuationByTriggerRun t p.shared).map Prod.snd = some n →
        ∀ (i j : Nat) a b, p.threads[i]? = some a → p.threads[j]? = some b →
          a.CalledModel n → b.CalledModel n → i = j := by
  intro p
  have h : Invariant p := invariant_run as
  have hledger : ∀ {n : RunId}, Allocated p.shared t n →
      (continuationByTriggerRun t p.shared).map Prod.snd = some n := by
    rintro n ⟨row, hrow, rfl⟩
    rw [continuationByTriggerRun, hrow]
    rfl
  refine ⟨?_, h.shared.requests t, h.shared.continuationJobs_le_one t, h.shared.nextRuns_le_one t,
    fun nextRun hnext => ⟨h.shared.starts nextRun.id, ?_⟩, fun answer hanswer => ?_,
    fun n _ i j a b ha hb hcalled hcalled' => ?_⟩
  · exact length_filter_le_one (k := t) fun row _ hrow => of_decide_eq_true hrow
  · obtain ⟨hrun, hparent⟩ := List.mem_filter.mp hnext
    exact hledger (h.shared.children nextRun.id nextRun t (find?_of_mem hrun)
      (of_decide_eq_true hparent))
  · obtain ⟨n, rfl, hallocated⟩ := h.each _ hanswer
    exact ⟨some_ne_none n, hledger hallocated⟩
  · by_contra hne
    exact h.pairs i j a b hne ha hb n hcalled.drives hcalled'.drives

end AgentCore.Runtime.Continuation
