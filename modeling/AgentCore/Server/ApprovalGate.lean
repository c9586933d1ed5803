import AgentCore.Journal.RunStatus
import AgentCore.Server.Delivery

/-! The write-approval gate from end to end: a delivery that pauses, and the approval that
is to resume it. -/

namespace AgentCore.Server

open Foundation Domain Journal Gateway List Option

section Gate

variable [Platform] {stamp : Stamp} {status : RunStatus} {d : Delivery}

def deliverStep (s : Delivery × Db) (x : DeliveryInput) : Delivery × Db := s.1.act x s.2

def decideStep (s : Decision × Db) (x : DecisionInput) : Decision × Db := s.1.act x s.2

structure Smooth (xs : List DecisionInput) (db : Db) : Prop where
  accepted : ∀ x ∈ xs, x.refused = false
  fresh : ∀ x ∈ xs, x.stamp.eventId ∉ db.journal.rows.map JournalRow.eventId
  distinct : (xs.map fun x => x.stamp.eventId).Nodup

structure SameInvocation (request : Json) (row : OutboxRow) : Prop where
  invocationId : fieldStr request "invocation_id" = some row.invocationId
  operation : fieldStr request "operation" = some row.operation
  arguments : (request.get "arguments").map Json.toText = some row.argumentsJson
  idempotencyKey : fieldStr request "idempotency_key" = some row.idempotencyKey

/-- The approval is recorded once, exactly the invocation asked for is queued, and the run
waits for its dispatch. -/
structure Resumed (runId : RunId) (db db' : Db) : Prop where
  granted : (runFacts [.approvalGranted] runId db').length = 1
  queued : ∃ request row, approvalRequestForRun runId db = some request ∧
    db'.outbox.rows = db.outbox.rows ++ [row] ∧ row.runId = runId ∧ SameInvocation request row
  status : runStatus runId db' = some .waitingDispatch

def GateWorks (runId : RunId) (db : Db) : Prop :=
  runStatus runId db = some .awaitingApproval ∧
    ∀ xs : List DecisionInput, xs.length = 5 → Smooth xs db →
      (run decideStep (.approve runId, db) xs).1 = .ended ∧
        Resumed runId db (run decideStep (.approve runId, db) xs).2

/-! ## The approval of a run that asked -/

structure Asked (c : RunContext) (approved : ApprovedInvocation) (db : Db) : Prop where
  request : approvalRequestForRun c.run.id db = some (.mkObj (requestFields c approved))
  undecided : decisions c.run.id db = []
  unqueued : db.outbox.find? approved.intent.invocationId = none
  key : approved.intent.idempotencyKey ≠ none

def asApproved (c : RunContext) (approved : ApprovedInvocation) : ApprovedInvocation :=
  { approved with intent := { approved.intent with runId := c.run.id } }

section Request

omit [Platform]

variable (c : RunContext) (approved : ApprovedInvocation)

lemma get_requestFields (key : String) (value : Json)
    (h : (key, value) ∈ requestFields c approved) :
    (Json.mkObj (requestFields c approved)).get key = some value := by
  refine Json.get_mkObj_of_mem ?_ h
  show ["operation", "decision_id", "invocation_id", "run_id", "session_id", "arguments",
    "idempotency_key"].Nodup
  decide

lemma fieldStr_requestFields (key s : String) (h : (key, .str s) ∈ requestFields c approved) :
    fieldStr (.mkObj (requestFields c approved)) key = some s := by
  rw [fieldStr, get_requestFields c approved key (.str s) h]
  rfl

lemma get_arguments : (Json.mkObj (requestFields c approved)).get "arguments" =
    some approved.intent.arguments :=
  get_requestFields c approved _ _ (by simp [requestFields])

lemma fieldStr_invocationId : fieldStr (.mkObj (requestFields c approved)) "invocation_id" =
    some approved.intent.invocationId :=
  fieldStr_requestFields c approved _ _ (by simp [requestFields])

lemma fieldStr_operation : fieldStr (.mkObj (requestFields c approved)) "operation" =
    some approved.intent.operation :=
  fieldStr_requestFields c approved _ _ (by simp [requestFields])

lemma fieldStr_idempotencyKey : fieldStr (.mkObj (requestFields c approved)) "idempotency_key" =
      approved.intent.idempotencyKey := by
  rw [fieldStr, get_requestFields c approved _ (Json.ofOption approved.intent.idempotencyKey)
    (by simp [requestFields]), bind_some, Json.asStr_ofOption]

lemma approvedOfRequest_requestFields :
    approvedOfRequest c.run.id (Json.mkObj (requestFields c approved)) =
      .ok (asApproved c approved) := by
  have hdecision := fieldStr_requestFields c approved "decision_id" approved.decisionId
    (by simp [requestFields])
  simp only [approvedOfRequest, fieldStr_invocationId, fieldStr_operation, hdecision,
    get_arguments, fieldStr_idempotencyKey, elim_some, getD_some, asApproved]
  rfl

end Request

variable {c : RunContext} {approved : ApprovedInvocation} {db db' : Db} {runId : RunId}

lemma Asked.loadRequest (h : Asked c approved db) :
    Decision.loadRequest c.run.id db = .granting (asApproved c approved) (some c.session.id) := by
  have hsession := fieldStr_requestFields c approved "session_id" c.session.id
    (by simp [requestFields])
  rw [Decision.loadRequest, h.request]
  simp only [approvedOfRequest_requestFields, hsession]

lemma fresh_append {stamp' : Stamp}
    (h : db.append stamp kind runId sessionId correlationId payload = .ok db')
    (hne : stamp.eventId ≠ stamp'.eventId)
    (hfresh : stamp'.eventId ∉ db.journal.rows.map JournalRow.eventId) :
    stamp'.eventId ∉ db'.journal.rows.map JournalRow.eventId := by
  obtain ⟨journal, rfl, hrows, -⟩ := Db.append_eq_ok h
  rw [hrows, map_append, mem_append, not_or]
  exact ⟨hfresh, by simpa using hne.symm⟩

lemma queueOutboxDispatch_of_fresh (sessionId : Option SessionId) (now : Timestamp)
    (hrow : db.outbox.find? approved.intent.invocationId = none)
    (hfresh : stamp.eventId ∉ db.journal.rows.map JournalRow.eventId) :
    ∃ dispatchId db', queueOutboxDispatch approved sessionId now stamp db = .ok (dispatchId, db') ∧
      db'.outbox.rows = db.outbox.rows ++ [outboxRowOf approved sessionId now] ∧
      db'.runs = db.runs ∧
      ∀ runId, runFacts [.approvalGranted] runId db' = runFacts [.approvalGranted] runId db := by
  obtain ⟨hchanged, hrows⟩ :=
    Table.insertOrIgnore_changed (r := outboxRowOf approved sessionId now) hrow
  obtain ⟨db₁, happ⟩ := Db.append_of_fresh
    { db with outbox := (db.outbox.insertOrIgnore (outboxRowOf approved sessionId now)).1 }
    .outboxQueued (some approved.intent.runId) sessionId (some approved.intent.invocationId)
    (.mkObj [("dispatch_id", .str (outboxRowOf approved sessionId now).dispatchId),
      ("invocation_id", .str approved.intent.invocationId),
      ("decision_id", .str approved.decisionId), ("operation", .str approved.intent.operation),
      ("idempotency_key", .str (outboxRowOf approved sessionId now).idempotencyKey),
      ("status", .str OutboxDispatchStatus.pending.asStr)]) hfresh
  refine ⟨(outboxRowOf approved sessionId now).dispatchId, db₁, ?_, ?_, ?_, fun runId => ?_⟩
  · simp only [queueOutboxDispatch]
    rw [if_pos hchanged]
    exact bind_eq_ok.mpr ⟨db₁, happ, rfl⟩
  · obtain ⟨journal, rfl, -⟩ := Db.append_eq_ok happ
    exact hrows
  · have hruns := runs_append happ
    exact hruns
  · have hkind : .outboxQueued ∉ [JournalEventKind.approvalGranted] := by decide
    have hfacts := runFacts_append_other happ (x := runId) fun hx => hkind hx.2
    exact hfacts

lemma act_of_accepted (h : x.refused = false) (d : Decision) (db : Db) :
    d.act x db = d.next x db := by
  rw [Decision.act, h]
  rfl

lemma Asked.gateWorks (h : Asked c approved db)
    (hstatus : runStatus c.run.id db = some .awaitingApproval) : GateWorks c.run.id db := by
  refine ⟨hstatus, fun xs hlength hxs => ?_⟩
  obtain ⟨x₀, x₁, x₂, x₃, x₄, rfl⟩ : ∃ x₀ x₁ x₂ x₃ x₄, xs = [x₀, x₁, x₂, x₃, x₄] := by
    match xs, hlength with
    | [x₀, x₁, x₂, x₃, x₄], _ => exact ⟨x₀, x₁, x₂, x₃, x₄, rfl⟩
  obtain ⟨key, hkey⟩ := ne_none_iff_exists'.mp h.key
  have haccepted : ∀ x ∈ [x₀, x₁, x₂, x₃, x₄], ∀ d db, Decision.act x d db = d.next x db :=
    fun x hx d db => act_of_accepted (hxs.accepted x hx) d db
  have hne : x₂.stamp.eventId ≠ x₃.stamp.eventId := by
    have hdistinct := hxs.distinct
    simp only [map_cons, map_nil, nodup_cons, mem_cons] at hdistinct
    exact fun heq => hdistinct.2.2.1 (.inl heq)
  -- the grant is recorded
  obtain ⟨db₂, hgrant⟩ := Db.append_of_fresh db .approvalGranted (some c.run.id)
    (some c.session.id) (some approved.intent.invocationId)
    (.mkObj [("operation", .str approved.intent.operation)]) (hxs.fresh x₂ (by simp))
  obtain ⟨g, -, hgranted⟩ := runFacts_append_self hgrant
    (mem_singleton_self JournalEventKind.approvalGranted)
  have hundecided : runFacts [.approvalGranted] c.run.id db = [] := by
    refine eq_nil_of_subset_nil (h.undecided ▸ ?_)
    exact runFacts_mono (by decide) c.run.id db
  have houtbox : db₂.outbox = db.outbox := by
    obtain ⟨journal, rfl, -⟩ := Db.append_eq_ok hgrant
    rfl
  -- the dispatch is queued
  have hunqueued : db₂.outbox.find? (asApproved c approved).intent.invocationId = none := by
    rw [houtbox]
    exact h.unqueued
  obtain ⟨dispatchId, db₃, hqueue, hrows, hruns, hfacts⟩ := queueOutboxDispatch_of_fresh
    (some c.session.id) (x₃.clock 0) hunqueued
    (fresh_append hgrant hne (hxs.fresh x₃ (by simp)))
  have hrun : run decideStep (.approve c.run.id, db) [x₀, x₁, x₂, x₃, x₄] =
      (.ended, setRunStatus c.run.id .waitingDispatch (x₄.clock 0) db₃) := by
    simp only [run_cons, run_nil, decideStep, haccepted x₀ (by simp), haccepted x₁ (by simp),
      haccepted x₂ (by simp), haccepted x₃ (by simp), haccepted x₄ (by simp), Decision.next,
      hstatus, if_true, h.loadRequest]
    have hgrant' : Decision.grant x₂ (asApproved c approved) (some c.session.id) db =
        (.queueing (asApproved c approved) (some c.session.id), db₂) := by
      simp only [Decision.grant, asApproved, hgrant]
    have hqueue' : Decision.queue x₃ (asApproved c approved) (some c.session.id) db₂ =
        (.resuming c.run.id, db₃) := by
      simp only [Decision.queue, hqueue]
      rfl
    simp only [hgrant', hqueue']
  have hinvocation : SameInvocation (.mkObj (requestFields c approved))
      (outboxRowOf (asApproved c approved) (some c.session.id) (x₃.clock 0)) := by
    refine ⟨fieldStr_invocationId c approved, fieldStr_operation c approved, ?_, ?_⟩
    · rw [get_arguments]
      rfl
    · rw [fieldStr_idempotencyKey, hkey]
      simp [outboxRowOf, asApproved, hkey]
  rw [hrun]
  refine ⟨rfl, ?_, ⟨_, outboxRowOf (asApproved c approved) (some c.session.id) (x₃.clock 0),
    h.request, ?_, rfl, hinvocation⟩, ?_⟩
  · have hgrants : runFacts [.approvalGranted] c.run.id db₃ = [g] := by
      rw [hfacts, hgranted, hundecided, nil_append]
    exact congrArg length hgrants
  · exact hrows.trans (by rw [houtbox])
  · rw [runStatus_setRunStatus, if_pos rfl, runStatus_of_runs hruns,
      runStatus_of_runs (runs_append hgrant), hstatus]
    rfl

/-! ## A run before it asks -/

structure Quiet (runId : RunId) (db : Db) : Prop where
  asked : runFacts [.approvalRequested] runId db = []
  undecided : decisions runId db = []
  unqueued : db.outbox.find? ("reply:" ++ runId) = none
  notAwaiting : runStatus runId db ≠ some .awaitingApproval

structure Past (runId : RunId) (db : Db) : Prop where
  asked : runFacts [.approvalRequested] runId db = []
  notAwaiting : runStatus runId db ≠ some .awaitingApproval

section Frames

omit [Platform] in
lemma Quiet.past (h : Quiet runId db) : Past runId db := ⟨h.asked, h.notAwaiting⟩

lemma Quiet.append {run : Option RunId} (hq : Quiet runId db) (hkind : kind ∉ approvalKinds)
    (h : db.append stamp kind run sessionId correlationId payload = .ok db') : Quiet runId db' := by
  have hkinds : kind ≠ .approvalRequested ∧ kind ∉ decisionKinds := by
    simpa [approvalKinds] using hkind
  have hfacts : ∀ kinds : List JournalEventKind, kind ∉ kinds →
      runFacts kinds runId db' = runFacts kinds runId db :=
    fun kinds hk => runFacts_append_other h fun hx => hk hx.2
  refine ⟨?_, ?_, ?_, ?_⟩
  · rw [hfacts _ (by simpa using hkinds.1)]
    exact hq.asked
  · rw [decisions, hfacts _ hkinds.2]
    exact hq.undecided
  · obtain ⟨journal, rfl, -⟩ := Db.append_eq_ok h
    exact hq.unqueued
  · rw [runStatus_of_runs (runs_append h)]
    exact hq.notAwaiting

section

omit [Platform]

lemma Quiet.insertRun {run : Run} (hq : Quiet runId db) (hrunning : run.status = .running)
    (h : insertRun run db = .ok db') : Quiet runId db' := by
  have hstatus : runStatus runId db' ≠ some .awaitingApproval := by
    rw [runStatus_insertRun h]
    split
    · rw [hrunning]
      simp
    · exact hq.notAwaiting
  obtain ⟨-, runs, -, rfl⟩ := insertRun_eq_ok h
  exact ⟨hq.asked, hq.undecided, hq.unqueued, hstatus⟩

lemma notAwaiting_setRunStatus (hne : status ≠ .awaitingApproval) (other : RunId)
    (now : Timestamp) (h : runId = other ∨ runStatus runId db ≠ some .awaitingApproval) :
    runStatus runId (setRunStatus other status now db) ≠ some .awaitingApproval := by
  rw [runStatus_setRunStatus]
  split
  · cases runStatus runId db with
    | none => simp
    | some old => simpa using hne
  · next hother => exact h.resolve_left hother

lemma Quiet.setRunStatus (hq : Quiet runId db) (hne : status ≠ .awaitingApproval)
    (other : RunId) (now : Timestamp) : Quiet runId (setRunStatus other status now db) :=
  ⟨hq.asked, hq.undecided, hq.unqueued,
    notAwaiting_setRunStatus hne other now (.inr hq.notAwaiting)⟩

lemma Past.setRunStatus (hp : Past runId db) (hne : status ≠ .awaitingApproval) (other : RunId)
    (now : Timestamp) : Past runId (setRunStatus other status now db) :=
  ⟨hp.asked, notAwaiting_setRunStatus hne other now (.inr hp.notAwaiting)⟩

end

lemma Past.queue (hp : Past runId db)
    (h : queueOutboxDispatch approved sessionId now stamp db = .ok (dispatchId, db')) :
    Past runId db' := by
  refine ⟨?_, ?_⟩
  · rcases queueOutboxDispatch_eq_ok h with rfl | ⟨payload, happ⟩
    · exact hp.asked
    · have hkind : .outboxQueued ∉ [JournalEventKind.approvalRequested] := by decide
      rw [runFacts_append_other happ fun hx => hkind hx.2]
      exact hp.asked
  · rw [runStatus_of_runs (runs_queueOutboxDispatch h)]
    exact hp.notAwaiting

end Frames

/-! ## Reply intents -/

structure ReplyOf (c : RunContext) (intent : InvocationIntent) : Prop where
  invocationId : intent.invocationId = "reply:" ++ c.run.id
  key : intent.idempotencyKey ≠ none
  wf : intent.arguments.wf Platform.readFloat = true
  nesting : intent.arguments.nesting ≤ 2

lemma replyOf_intent (c : RunContext) (text : String) : ReplyOf c (c.intent text) := by
  unfold RunContext.intent
  split
  · next messageId chatId _ =>
    unfold replyIntent
    split
    · obtain ⟨hw, hn⟩ := Json.readable_mkObj_texts Platform.readFloat
        [("session_id", .str c.session.id), ("message_id", .str (messageId.getD "")),
          ("chat_id", .str (chatId.getD "")), ("text", .str text)] (by simp)
      exact ⟨rfl, by simp, hw, hn.trans (by decide)⟩
    · obtain ⟨hw, hn⟩ := Json.readable_mkObj_texts Platform.readFloat
        [("session_id", .str c.session.id), ("text", .str text)] (by simp)
      exact ⟨rfl, by simp, hw, hn.trans (by decide)⟩

lemma replyOf_failureIntent (c : RunContext) (text : String) : ReplyOf c (failureIntent c text) :=
  let h := replyOf_intent c text
  ⟨h.invocationId, by simp [failureIntent], h.wf, h.nesting⟩

lemma ReplyOf.presentation (h : ReplyOf c intent) (proposalId : Option String) :
    ReplyOf c (applyPendingProposalPresentation proposalId intent) := by
  unfold applyPendingProposalPresentation
  split
  · split
    · next id fields hfields =>
      have hw := h.wf
      have hn := h.nesting
      rw [hfields] at hw hn
      obtain ⟨hvw, hvn⟩ := Json.readable_mkObj_texts Platform.readFloat
        [("kind", .str PENDING_PROPOSAL_KIND), ("proposal_id", .str id)] (by simp)
      refine ⟨h.invocationId, h.key, Json.wf_insertField _ (Json.wf_removeField _ hw) hvw,
        Json.nesting_obj_le.mpr fun f hf => ?_⟩
      rcases Json.mem_insertField hf with rfl | hf
      · exact hvn
      · exact Json.nesting_obj_le.mp hn f (mem_of_mem_filter hf)
    · exact h
  · exact h

lemma readable_requestFields (h : ReplyOf c approved.intent) :
    (Json.mkObj (requestFields c approved)).wf Platform.readFloat = true ∧
      (Json.mkObj (requestFields c approved)).nesting ≤ 127 := by
  have hkey : (Json.ofOption approved.intent.idempotencyKey).wf Platform.readFloat = true ∧
      (Json.ofOption approved.intent.idempotencyKey).nesting ≤ 2 := by
    cases approved.intent.idempotencyKey <;> simp [Json.ofOption, Json.wf, Json.nesting]
  have hfields : ∀ f ∈ requestFields c approved,
      f.2.wf Platform.readFloat = true ∧ f.2.nesting ≤ 2 := by
    simp [requestFields, Json.wf, Json.nesting, hkey, h.wf, h.nesting]
  exact ⟨Json.wf_mkObj fun f hf => (hfields f hf).1,
    (Json.nesting_mkObj fun f hf => (hfields f hf).2).trans (by decide)⟩

lemma asked_of_request (hq : Quiet c.run.id db) (hr : ReplyOf c approved.intent)
    (h : c.append x .approvalRequested (some approved.intent.invocationId)
      (.mkObj (requestFields c approved)) db = .ok db') : Asked c approved db' := by
  obtain ⟨hw, hn⟩ := readable_requestFields hr
  have hundecided : decisions c.run.id db' = decisions c.run.id db :=
    runFacts_append_other h fun hx => absurd hx.2 (by decide)
  obtain ⟨journal, rfl, hrows, -⟩ := Db.append_eq_ok h
  refine ⟨?_, hundecided.trans hq.undecided, ?_, hr.key⟩
  · have hkind := newRow_kind db.journal x.stamp JournalEventKind.approvalRequested.storageName
      (some c.run.id) (some c.session.id) (some approved.intent.invocationId)
      (Json.mkObj (requestFields c approved)).toText
    have hrun := newRow_runId db.journal x.stamp JournalEventKind.approvalRequested.storageName
      (some c.run.id) (some c.session.id) (some approved.intent.invocationId)
      (Json.mkObj (requestFields c approved)).toText
    have hpayload := newRow_payloadJson db.journal x.stamp
      JournalEventKind.approvalRequested.storageName
      (some c.run.id) (some c.session.id) (some approved.intent.invocationId)
      (Json.mkObj (requestFields c approved)).toText
    generalize newRow _ _ _ _ _ _ _ = r at hrows hkind hrun hpayload
    have hevent : (rowToEvent r).kind = .approvalRequested ∧
        (rowToEvent r).runId = some c.run.id := ⟨kind_rowToEvent hkind, hrun⟩
    rw [approvalRequestForRun, events, hrows, map_append, filter_append, map_singleton,
      filter_singleton, decide_eq_true hevent, cond_true, getLast?_concat,
      map_some, payload_rowToEvent hpayload hw hn]
  · rw [hr.invocationId]
    exact hq.unqueued

/-! ## A delivery on its way to the gate -/

def Asks (runId : RunId) (db : Db) : Prop :=
  ∃ c approved, c.run.id = runId ∧ Asked c approved db

def Waits (runId : RunId) (db : Db) : Prop :=
  Asks runId db ∧ runStatus runId db = some .awaitingApproval

def Delivery.atLastWrite : RuntimeKind → Delivery → Bool
  | .legacy, replying _ .pausing => true
  | .v0, completing _ => true
  | _, _ => false

omit [Platform] in
@[simp] lemma Delivery.atLastWrite_ended (runtime : RuntimeKind) (ok : Bool) :
    (ended ok).atLastWrite runtime = false := by
  cases runtime <;> rfl

def LastWriteTaken (runtime : RuntimeKind) (s : Delivery × Db) (x : DeliveryInput) : Prop :=
  s.1.atLastWrite runtime = true → x.refusal = none

def Reply.Gate (runId : RunId) (c : RunContext) (db : Db) : Reply → Prop
  | proposing intent _ => Quiet runId db ∧ ReplyOf c intent
  | approving approved _ => Quiet runId db ∧ ReplyOf c approved.intent
  | requesting approved => Quiet runId db ∧ ReplyOf c approved.intent
  | pausing => runStatus runId db ≠ some .awaitingApproval ∧
      (Past runId db ∧ c.run.id ≠ runId ∨ Asks runId db ∧ c.run.id = runId)
  | queueing _ _ => Past runId db
  | dispatching => Past runId db

def RunContext.Present (c : RunContext) (db : Db) : Prop := runStatus c.run.id db ≠ none

/-- What is known of the run at each point of a delivery, and after it, by whether the
deciding write was taken. -/
def Delivery.Gate (runtime : RuntimeKind) (runId : RunId) (taken : Prop) (db : Db) :
    Delivery → Prop
  | opening c => c.runtime = runtime ∧ Quiet runId db
  | creatingSession c _ => c.runtime = runtime ∧ Quiet runId db
  | readying c _ => c.runtime = runtime ∧ Quiet runId db
  | pinning c _ => c.runtime = runtime ∧ Quiet runId db
  | budgeting c => c.runtime = runtime ∧ c.run.status = .running ∧ Quiet runId db
  | inserting c => c.runtime = runtime ∧ c.run.status = .running ∧ Quiet runId db
  | starting c => c.runtime = runtime ∧ c.Present db ∧ Quiet runId db
  | thinking c _ => c.runtime = runtime ∧ c.Present db ∧ Quiet runId db
  | invoking c _ => c.runtime = runtime ∧ c.Present db ∧ Quiet runId db
  | looping c => c.runtime = runtime ∧ c.Present db ∧ Quiet runId db
  | answered c _ => c.runtime = runtime ∧ c.Present db ∧ Quiet runId db
  | judging c _ => c.runtime = runtime ∧ c.Present db ∧ Quiet runId db
  | presenting c _ => c.runtime = runtime ∧ c.Present db ∧ Quiet runId db
  | replying c reply => c.runtime = runtime ∧ c.Present db ∧ reply.Gate runId c db
  | failing c _ _ => c.runtime = runtime ∧ c.Present db ∧
      (runtime = .legacy → Quiet runId db) ∧ runStatus runId db ≠ some .awaitingApproval
  | reporting c _ _ => c.runtime = runtime ∧ c.Present db ∧
      (runtime = .legacy → Quiet runId db) ∧ runStatus runId db ≠ some .awaitingApproval
  | completing c => c.runtime = runtime ∧
      (Past runId db ∨ runtime = .v0 ∧ c.run.id = runId ∧ Waits runId db)
  | ended _ => Past runId db ∨ Waits runId db ∧ (taken ↔ runtime = .legacy) ∨
      runStatus runId db ≠ some .awaitingApproval ∧ (taken ↔ runtime = .v0)

section Steps

variable {runtime : RuntimeKind} {x : DeliveryInput} {taken : Prop} {r : Reply}

omit [Platform] in
lemma RunContext.Present.of_runs (h : c.Present db) (hruns : db'.runs = db.runs) :
    c.Present db' := by
  rw [RunContext.Present, runStatus_of_runs hruns]
  exact h

omit [Platform] in
lemma RunContext.Present.setRunStatus (h : c.Present db) (other : RunId) (status : RunStatus)
    (now : Timestamp) : c.Present (setRunStatus other status now db) := by
  rw [RunContext.Present, runStatus_setRunStatus]
  split
  · simpa [RunContext.Present] using h
  · exact h

lemma Delivery.Gate.congr (h : d.Gate runtime runId taken db)
    (heq : taken ↔ taken') : d.Gate runtime runId taken' db := by
  rw [← propext heq]
  exact h

lemma gate_failed (hruntime : c.runtime = runtime) (hpresent : c.Present db) (reason : String)
    (h : Past runId db ∨ runStatus runId db ≠ some .awaitingApproval ∧ (taken ↔ runtime = .v0)) :
    (Delivery.afterReply c (.failed reason)).Gate runtime runId taken db := by
  cases hkind : c.runtime with
  | v0 =>
    simp only [Delivery.afterReply, hkind]
    refine ⟨hruntime, hpresent, fun hlegacy => ?_, h.elim Past.notAwaiting And.left⟩
    rw [← hruntime, hkind] at hlegacy
    cases hlegacy
  | legacy =>
    simp only [Delivery.afterReply, hkind]
    exact h.imp_right .inr

lemma gate_failure {why : Delivery} (hwhy : why.atLastWrite runtime = false)
    (hquiet : runtime = .legacy → Quiet runId db)
    (hstatus : runStatus runId db ≠ some .awaitingApproval) :
    (Delivery.ended false).Gate runtime runId (why.atLastWrite runtime = false) db := by
  cases runtime with
  | v0 => exact .inr (.inr ⟨hstatus, iff_of_true hwhy rfl⟩)
  | legacy => exact .inl (hquiet rfl).past

lemma gate_done (htaken : taken) (hruntime : c.runtime = runtime)
    (h : Past runId db ∨ c.run.id = runId ∧ Waits runId db) :
    (Delivery.afterReply c .done).Gate runtime runId taken db := by
  cases hkind : c.runtime with
  | v0 =>
    simp only [Delivery.afterReply, hkind]
    exact ⟨hruntime, h.imp_right fun hwaits => ⟨hruntime.symm.trans hkind, hwaits⟩⟩
  | legacy =>
    simp only [Delivery.afterReply, hkind]
    exact h.imp_right fun hwaits =>
      .inl ⟨hwaits.2, iff_of_true htaken (hruntime.symm.trans hkind)⟩

lemma waits_setRunStatus (hpresent : c.Present db) (h : Asks c.run.id db) (now : Timestamp) :
    Waits c.run.id (setRunStatus c.run.id .awaitingApproval now db) := by
  obtain ⟨c', approved, hid, hasked⟩ := h
  obtain ⟨old, hold⟩ := ne_none_iff_exists'.mp hpresent
  refine ⟨⟨c', approved, hid, hasked.request, hasked.undecided, hasked.unqueued, hasked.key⟩, ?_⟩
  rw [runStatus_setRunStatus, if_pos rfl, hold]
  rfl

lemma Reply.gate_act (htaken : taken) (hruntime : c.runtime = runtime)
    (hpresent : c.Present db) (h : r.Gate runId c db) :
    (Delivery.afterReply c (r.act c x db).1).Gate runtime runId taken (r.act c x db).2 := by
  cases r with
  | proposing intent notice =>
    obtain ⟨hq, hreply⟩ := h
    simp only [Reply.act, propose]
    split
    · exact gate_failed hruntime hpresent _ (.inl hq.past)
    · next db' happ =>
      have hq' : Quiet runId db' := hq.append (by decide) happ
      have hpresent' := hpresent.of_runs (runs_append happ)
      split
      · next approved happroved =>
        obtain rfl := approveInvocation_eq_ok happroved
        exact ⟨hruntime, hpresent', hq', hreply⟩
      · exact gate_failed hruntime hpresent' _ (.inl hq'.past)
  | approving approved notice =>
    obtain ⟨hq, hreply⟩ := h
    simp only [Reply.act, recordApproved]
    split
    · next db' happ =>
      have hq' : Quiet runId db' := hq.append (by decide) happ
      have hpresent' := hpresent.of_runs (runs_append happ)
      unfold enqueueOrPause
      split
      · exact ⟨hruntime, hpresent', hq', hreply⟩
      · exact ⟨hruntime, hpresent', hq'.past⟩
    · exact gate_failed hruntime hpresent _ (.inl hq.past)
  | requesting approved =>
    obtain ⟨hq, hreply⟩ := h
    simp only [Reply.act, requestApproval]
    split
    · next db' happ =>
      have hruns := runs_append happ
      have hstatus : runStatus runId db' ≠ some .awaitingApproval := by
        rw [runStatus_of_runs hruns]
        exact hq.notAwaiting
      refine ⟨hruntime, hpresent.of_runs hruns, hstatus, ?_⟩
      by_cases hown : c.run.id = runId
      · subst hown
        exact .inr ⟨⟨c, approved, rfl, asked_of_request hq hreply happ⟩, rfl⟩
      · refine .inl ⟨⟨?_, hstatus⟩, hown⟩
        rw [runFacts_append_other happ fun hx => hown (some.inj hx.1)]
        exact hq.asked
    · exact gate_failed hruntime hpresent _ (.inl hq.past)
  | pausing =>
    obtain ⟨hstatus, ⟨hpast, hne⟩ | ⟨hasks, rfl⟩⟩ := h
    · refine gate_done htaken hruntime (.inl ⟨hpast.asked, ?_⟩)
      rw [Reply.act, runStatus_setRunStatus, if_neg hne.symm]
      exact hstatus
    · exact gate_done htaken hruntime (.inr ⟨rfl, waits_setRunStatus hpresent hasks x.now⟩)
  | queueing approved notice =>
    have hpast : Past runId db := h
    simp only [Reply.act, queueReply]
    split
    · next dispatchId db' hqueue =>
      have hpast' := hpast.queue hqueue
      cases notice with
      | true => exact gate_done htaken hruntime (.inl hpast')
      | false => exact ⟨hruntime, hpresent.of_runs (runs_queueOutboxDispatch hqueue), hpast'⟩
    · exact gate_failed hruntime hpresent _ (.inl hpast)
  | dispatching =>
    have hpast : Past runId db := h
    exact gate_done htaken hruntime (.inl (hpast.setRunStatus (by decide) _ _))

lemma RunContext.append_gate (hkind : kind ∉ approvalKinds) (hpresent : c.Present db)
    (hq : Quiet runId db) (h : c.append x kind correlationId payload db = .ok db') :
    c.Present db' ∧ Quiet runId db' :=
  ⟨hpresent.of_runs (runs_append h), hq.append hkind h⟩

lemma Delivery.gate_next (htaken : taken) (h : d.Gate runtime runId taken db) :
    (d.next x db).1.Gate runtime runId taken (d.next x db).2 := by
  cases d with
  | opening c =>
    simp only [next, openSession]
    split <;> exact h
  | creatingSession c session =>
    obtain ⟨hruntime, hq⟩ := h
    simp only [next, createSession]
    split
    · next hsession =>
      obtain ⟨sessions, rfl⟩ := insertSession_eq_ok hsession
      exact ⟨hruntime, hq.asked, hq.undecided, hq.unqueued, hq.notAwaiting⟩
    · exact .inl hq.past
  | readying c session =>
    obtain ⟨hruntime, hq⟩ := h
    simp only [next, recordReady]
    split
    · next happ => exact ⟨hruntime, hq.append (by decide) happ⟩
    · exact .inl hq.past
  | pinning c session =>
    obtain ⟨hruntime, hq⟩ := h
    simp only [next, pin]
    split
    · exact .inl hq.past
    split
    · exact .inl hq.past
    split <;> exact ⟨hruntime, rfl, hq⟩
  | budgeting c =>
    obtain ⟨hruntime, hrunning, hq⟩ := h
    simp only [next, budget]
    split
    · next kind _ _ _ =>
      split
      · next happ => exact ⟨hruntime, hrunning, hq.append kind.2 happ⟩
      · exact .inl hq.past
    · exact ⟨hruntime, hrunning, hq⟩
  | inserting c =>
    obtain ⟨hruntime, hrunning, hq⟩ := h
    simp only [next, insert]
    split
    · next db' hinsert =>
      refine ⟨hruntime, ?_, hq.insertRun hrunning hinsert⟩
      rw [RunContext.Present, runStatus_insertRun hinsert, if_pos rfl]
      exact some_ne_none _
    · exact .inl hq.past
  | starting c =>
    obtain ⟨hruntime, hpresent, hq⟩ := h
    simp only [next, start]
    split
    · next happ =>
      have hafter := RunContext.append_gate (by decide) hpresent hq happ
      split <;> exact ⟨hruntime, hafter⟩
    · exact .inl hq.past
  | thinking c calls =>
    obtain ⟨hruntime, hpresent, hq⟩ := h
    have hfailing : ∀ category reason, (failing c category reason).Gate runtime runId taken db :=
      fun _ _ => ⟨hruntime, hpresent, fun _ => hq, hq.notAwaiting⟩
    simp only [next, think]
    split
    · exact ⟨hruntime, hpresent, hq, replyOf_intent c _⟩
    · split
      · exact hfailing _ _
      · exact ⟨hruntime, hpresent, hq⟩
    · exact hfailing _ _
    · exact ⟨hruntime, hpresent, hq⟩
  | invoking c calls =>
    obtain ⟨hruntime, hpresent, hq⟩ := h
    have hfailing : ∀ category reason, (failing c category reason).Gate runtime runId taken db :=
      fun _ _ => ⟨hruntime, hpresent, fun _ => hq, hq.notAwaiting⟩
    simp only [next, invoke]
    split
    · next kind _ _ _ =>
      split
      · next happ => exact ⟨hruntime, RunContext.append_gate kind.2 hpresent hq happ⟩
      · exact hfailing _ _
    · exact ⟨hruntime, hpresent, hq⟩
    · exact hfailing _ _
    · exact ⟨hruntime, hpresent, hq⟩
  | looping c =>
    obtain ⟨hruntime, hpresent, hq⟩ := h
    simp only [next, loop]
    split
    · next kind _ _ _ =>
      split
      · next happ => exact ⟨hruntime, RunContext.append_gate kind.2 hpresent hq happ⟩
      · exact .inl hq.past
    · exact ⟨hruntime, hpresent.setRunStatus _ _ _, hq.setRunStatus (by decide) _ _⟩
    · exact ⟨hruntime, hpresent, hq⟩
    · exact ⟨hruntime, hpresent, fun _ => hq, hq.notAwaiting⟩
    · exact ⟨hruntime, hpresent, hq⟩
  | answered c text =>
    obtain ⟨hruntime, hpresent, hq⟩ := h
    simp only [next]
    split
    · exact ⟨hruntime, .inl hq.past⟩
    · exact ⟨hruntime, hpresent, hq⟩
  | judging c text =>
    obtain ⟨hruntime, hpresent, hq⟩ := h
    simp only [next, judge]
    split
    · exact ⟨hruntime, hpresent, hq, replyOf_failureIntent c _⟩
    · exact ⟨hruntime, hpresent, hq⟩
  | presenting c text =>
    obtain ⟨hruntime, hpresent, hq⟩ := h
    exact ⟨hruntime, hpresent, hq, (replyOf_intent c _).presentation x.proposalId⟩
  | replying c r =>
    obtain ⟨hruntime, hpresent, hr⟩ := h
    exact Reply.gate_act htaken hruntime hpresent hr
  | failing c category reason =>
    obtain ⟨hruntime, hpresent, hquiet, hstatus⟩ := h
    exact ⟨hruntime, hpresent.setRunStatus _ _ _,
      fun hlegacy => (hquiet hlegacy).setRunStatus (by decide) _ _,
      notAwaiting_setRunStatus (by decide) _ _ (.inr hstatus)⟩
  | reporting c category reason =>
    obtain ⟨hruntime, hpresent, hquiet, hstatus⟩ := h
    simp only [next, report]
    split
    · next hkind =>
      refine .inr (.inr ⟨?_, iff_of_true htaken (hruntime.symm.trans hkind)⟩)
      unfold commit
      split
      · next happ =>
        rw [runStatus_of_runs (runs_append happ)]
        exact hstatus
      · exact hstatus
    · next hkind =>
      have hq := hquiet (hruntime.symm.trans hkind)
      split
      · next happ =>
        obtain ⟨hpresent', hq'⟩ := RunContext.append_gate (by decide) hpresent hq happ
        exact ⟨hruntime, hpresent', hq', replyOf_failureIntent c _⟩
      · exact .inl hq.past
  | completing c =>
    obtain ⟨hruntime, hpast | ⟨hv0, hown, -⟩⟩ := h
    · exact .inl (hpast.setRunStatus (by decide) _ _)
    · exact .inr (.inr ⟨notAwaiting_setRunStatus (by decide) _ _ (.inl hown.symm),
        iff_of_true htaken hv0⟩)
  | ended ok => exact h

lemma Reply.gate_refuse (reason : String) (hruntime : c.runtime = runtime)
    (hpresent : c.Present db) (h : r.Gate runId c db) :
    (Delivery.afterReply c (.failed reason)).Gate runtime runId
      ((Delivery.replying c r).atLastWrite runtime = false) db := by
  refine gate_failed hruntime hpresent reason ?_
  cases r with
  | proposing intent notice | approving approved notice | requesting approved =>
    exact .inl h.1.past
  | pausing => exact .inr ⟨h.1, by cases runtime <;> simp [Delivery.atLastWrite]⟩
  | queueing approved notice | dispatching => exact .inl h

lemma Delivery.gate_refuse (reason : String) (htaken : taken) (h : d.Gate runtime runId taken db) :
    (d.refuse reason).Gate runtime runId (d.atLastWrite runtime = false) db := by
  cases d with
  | opening c | creatingSession c session | readying c session | pinning c session =>
    exact .inl h.2.past
  | budgeting c | inserting c | starting c | looping c | answered c text | presenting c text =>
    exact .inl h.2.2.past
  | thinking c calls | invoking c calls =>
    obtain ⟨hruntime, hpresent, hq⟩ := h
    exact ⟨hruntime, hpresent, fun _ => hq, hq.notAwaiting⟩
  | judging c text => exact h
  | replying c r => exact Reply.gate_refuse reason h.1 h.2.1 h.2.2
  | failing c category why | reporting c category why =>
    obtain ⟨-, -, hquiet, hstatus⟩ := h
    exact gate_failure (by cases runtime <;> rfl) hquiet hstatus
  | completing c =>
    -- the only error after which a run that asked still waits
    obtain ⟨hruntime, hpast | ⟨rfl, hown, hwaits⟩⟩ := h
    · exact .inl hpast
    · exact .inr (.inl ⟨hwaits, by simp [atLastWrite]⟩)
  | ended ok => exact h.congr (iff_of_true htaken (atLastWrite_ended runtime ok))

lemma Delivery.ended_of_refused (reason : String) (h : d.Gate runtime runId taken db)
    (hlast : d.atLastWrite runtime = true) : d.refuse reason = .ended false := by
  unfold atLastWrite at hlast
  split at hlast
  · have hruntime := h.1
    simp only [refuse, afterReply, hruntime]
  · rfl
  · cases hlast

lemma Delivery.gate_act (htaken : taken ∨ ∃ ok, d = .ended ok) (h : d.Gate runtime runId taken db) :
    (taken ∧ LastWriteTaken runtime (d, db) x ∨ ∃ ok, (d.act x db).1 = .ended ok) ∧
      (d.act x db).1.Gate runtime runId (taken ∧ LastWriteTaken runtime (d, db) x)
        (d.act x db).2 := by
  rcases htaken with htaken | ⟨ok, rfl⟩
  · cases hrefusal : x.refusal with
    | none =>
      have hwrite : LastWriteTaken runtime (d, db) x := fun _ => hrefusal
      simp only [act, hrefusal]
      exact ⟨.inl ⟨htaken, hwrite⟩, (gate_next htaken h).congr (and_iff_left hwrite).symm⟩
    | some reason =>
      have hwrite : LastWriteTaken runtime (d, db) x ↔ d.atLastWrite runtime = false := by
        simp [LastWriteTaken, hrefusal]
      simp only [act, hrefusal]
      refine ⟨?_, (gate_refuse reason htaken h).congr
        (hwrite.symm.trans (and_iff_right htaken).symm)⟩
      cases hlast : d.atLastWrite runtime with
      | false => exact .inl ⟨htaken, hwrite.mpr hlast⟩
      | true => exact .inr ⟨false, ended_of_refused reason h hlast⟩
  · have hwrite : LastWriteTaken runtime (ended ok, db) x := fun hlast => by simp at hlast
    have hact : (ended ok).act x db = (ended ok, db) := by
      unfold act
      split <;> rfl
    rw [hact]
    exact ⟨.inr ⟨ok, rfl⟩, h.congr (and_iff_left hwrite).symm⟩

lemma gate_run (config : KernelConfig) (event : ValidatedEvent) (xs : List DeliveryInput)
    (hnew : Quiet runId db) : (Along deliverStep (LastWriteTaken (routeEvent config event))
        (deliverEvent config event, db) xs ∨
      ∃ ok, (run deliverStep (deliverEvent config event, db) xs).1 = .ended ok) ∧
    (run deliverStep (deliverEvent config event, db) xs).1.Gate (routeEvent config event) runId
      (Along deliverStep (LastWriteTaken (routeEvent config event))
        (deliverEvent config event, db) xs)
      (run deliverStep (deliverEvent config event, db) xs).2 := by
  generalize hroute : routeEvent config event = runtime
  induction xs using reverseRecOn with
  | nil =>
    refine ⟨.inl trivial, ?_⟩
    simp only [run_nil, deliverEvent, Delivery.Gate]
    exact ⟨hroute, hnew⟩
  | append_singleton xs x ih =>
    have hstep := Delivery.gate_act (x := x) ih.1 ih.2
    simp only [run_snoc, along_append, Along, and_true]
    exact hstep

end Steps

lemma Waits.gateWorks (h : Waits runId db) : GateWorks runId db := by
  obtain ⟨⟨c, approved, rfl, hasked⟩, hstatus⟩ := h
  exact hasked.gateWorks hstatus

lemma Delivery.gateWorks_iff (hasked : runFacts [.approvalRequested] runId db ≠ [])
    (h : (ended ok).Gate runtime runId taken db) :
    GateWorks runId db ↔ (taken ↔ runtime = .legacy) := by
  rcases h with hpast | ⟨hwaits, htaken⟩ | ⟨hstatus, htaken⟩
  · exact absurd hpast.asked hasked
  · exact iff_of_true hwaits.gateWorks htaken
  · refine iff_of_false (fun hworks => hstatus hworks.1) fun hlegacy => ?_
    have hkinds := htaken.symm.trans hlegacy
    cases runtime <;> simp at hkinds

/-- Once a run has asked, the gate works on the legacy runtime when the store takes the
pause, and on the default runtime when the store refuses the completion. -/
theorem approval_gate_iff {config : KernelConfig} (hlegacy : config.forceLegacyRuntime = false)
    {event : ValidatedEvent} {xs : List DeliveryInput} {runId : RunId} {ok : Bool}
    (hnew : Quiet runId db)
    (hreturn : (run deliverStep (deliverEvent config event, db) xs).1 = .ended ok)
    (hasked : runFacts [.approvalRequested] runId
      (run deliverStep (deliverEvent config event, db) xs).2 ≠ []) :
    GateWorks runId (run deliverStep (deliverEvent config event, db) xs).2 ↔
      calculatorMatches event = true ∧
          Along deliverStep (LastWriteTaken .legacy) (deliverEvent config event, db) xs ∨
        calculatorMatches event = false ∧
          ¬ Along deliverStep (LastWriteTaken .v0) (deliverEvent config event, db) xs := by
  have hgate := (gate_run config event xs hnew).2
  rw [hreturn] at hgate
  rw [Delivery.gateWorks_iff hasked hgate]
  cases hcalculator : calculatorMatches event with
  | true => simp [routeEvent, hcalculator]
  | false => simp [routeEvent, hcalculator, hlegacy]

end Gate

/-! ## Two messages -/

def gatedConfig : KernelConfig := { requireWriteApproval := true }

def gatedDelivery [Platform] (text : String) (k : Nat) : Delivery × Db :=
  run deliverStep (deliverEvent gatedConfig (sampleMessage text), {})
    ((range k).map sampleInput)

/-- A message on the default runtime asks, is completed all the same, and its approval does
nothing. -/
theorem approval_gate_fails_gatedDelivery :
    letI := samplePlatform
    let (d, db) := gatedDelivery "hi" 12
    let (decision, approvedDb) :=
      run decideStep (.approve "run", db) ((range 5).map decisionInput)
    d = .ended true ∧ runFacts [.approvalRequested] "run" db ≠ [] ∧
      runStatus "run" db = some .completed ∧
      decision = .ended ∧ runFacts [.approvalGranted] "run" approvedDb = [] ∧
      approvedDb.outbox.rows = [] ∧ runStatus "run" approvedDb = some .completed := by
  decide +kernel

lemma quiet_empty (runId : RunId) : Quiet runId {} := ⟨rfl, rfl, rfl, by simp [runStatus]⟩

lemma returned_gatedDelivery :
    letI := samplePlatform
    (gatedDelivery CALCULATOR_SMOKE_SENTENCE 15).1 = .ended true := by
  decide +kernel

lemma asked_gatedDelivery :
    letI := samplePlatform
    runFacts [.approvalRequested] "run" (gatedDelivery CALCULATOR_SMOKE_SENTENCE 15).2 ≠ [] := by
  decide +kernel

lemma lastWriteTaken_sampleInput [Platform] (runtime : RuntimeKind) (s : Delivery × Db)
    (k : Nat) : Along deliverStep (LastWriteTaken runtime) s ((range k).map sampleInput) := by
  refine along_of_prefix fun before x after heq _ _ => ?_
  have hx : x ∈ (range k).map sampleInput := by
    rw [heq]
    simp
  obtain ⟨n, -, rfl⟩ := mem_map.mp hx
  rfl

/-- The calculator's sentence waits for its approval. -/
theorem approval_gate_works_gatedDelivery :
    letI := samplePlatform
    gatedConfig.forceLegacyRuntime = false ∧ Quiet "run" {} ∧
      (gatedDelivery CALCULATOR_SMOKE_SENTENCE 15).1 = .ended true ∧
      runFacts [.approvalRequested] "run" (gatedDelivery CALCULATOR_SMOKE_SENTENCE 15).2 ≠ [] ∧
      GateWorks "run" (gatedDelivery CALCULATOR_SMOKE_SENTENCE 15).2 :=
  ⟨rfl, quiet_empty "run", returned_gatedDelivery, asked_gatedDelivery,
    (@approval_gate_iff samplePlatform _ _ rfl _ _ _ _ (quiet_empty "run")
      returned_gatedDelivery asked_gatedDelivery).mpr
        (.inl ⟨by decide +kernel, @lastWriteTaken_sampleInput samplePlatform _ _ _⟩)⟩

end AgentCore.Server
