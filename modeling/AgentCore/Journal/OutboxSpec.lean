import AgentCore.Journal.Outbox

/-! What each outbox call does, said once: the status it finds, the status it leaves and
the fact it adds for its own invocation, and that every other invocation keeps its own. -/

namespace AgentCore.Journal

open Foundation Domain Table

variable {db db' : Db} {st : OutboxDispatchStatus} {x : InvocationId} {new : List JournalRow}
  {run : Option RunId} {payload : Json}
  {r : OutboxRow} {id : InvocationId} {corr : Option String} {receipt : Receipt}
  {error : String}

def isFactKind (kind : String) : Bool :=
  kind = "DispatchStarted" || kind = "ReceiptReceived" || kind = "OutboxDispatchUnknown"

def isOutboxFact (id : InvocationId) (r : JournalRow) : Bool :=
  decide (r.correlationId = some id) && isFactKind r.kind

namespace Db

def outboxStatus (db : Db) (id : InvocationId) : Option OutboxDispatchStatus :=
  (db.outbox.find? id).map OutboxRow.status

def outboxFacts (db : Db) (id : InvocationId) : List JournalRow :=
  db.journal.rows.filter (isOutboxFact id)

lemma outboxStatus_of_mem (h : r ∈ db.outbox) : db.outboxStatus r.invocationId = some r.status := by
  rw [outboxStatus, find?_of_mem h]
  rfl

end Db

structure SameOutbox (db db' : Db) : Prop where
  outbox : db'.outbox = db.outbox
  facts : ∀ id, db'.outboxFacts id = db.outboxFacts id

structure Moves (db db' : Db) (x : InvocationId) (st : OutboxDispatchStatus)
    (new : List JournalRow) : Prop where
  status_self : db'.outboxStatus x = some st
  facts_self : db'.outboxFacts x = db.outboxFacts x ++ new
  status_other : ∀ id, id ≠ x → db'.outboxStatus id = db.outboxStatus id
  facts_other : ∀ id, id ≠ x → db'.outboxFacts id = db.outboxFacts id

namespace SameOutbox

lemma refl (db : Db) : SameOutbox db db := ⟨rfl, fun _ => rfl⟩

lemma trans (h : SameOutbox db db') (h' : SameOutbox db' db'') : SameOutbox db db'' :=
  ⟨h'.outbox.trans h.outbox, fun id => (h'.facts id).trans (h.facts id)⟩

lemma status (h : SameOutbox db db') (id : InvocationId) :
    db'.outboxStatus id = db.outboxStatus id := by
  rw [Db.outboxStatus, Db.outboxStatus, h.outbox]

lemma setRunStatus (runId : RunId) (status : RunStatus) (now : Timestamp) (db : Db) :
    SameOutbox db (setRunStatus runId status now db) := ⟨rfl, fun _ => rfl⟩

end SameOutbox

lemma Moves.same (h : Moves db db' x st new) (h' : SameOutbox db' db'') :
    Moves db db'' x st new where
  status_self := (h'.status x).trans h.status_self
  facts_self := (h'.facts x).trans h.facts_self
  status_other id hid := (h'.status id).trans (h.status_other id hid)
  facts_other id hid := (h'.facts id).trans (h.facts_other id hid)

def Gone (db : Db) (id : InvocationId) : Prop :=
  ∃ st, db.outboxStatus id = some st ∧ st ≠ .pending

lemma Moves.gone (h : Moves db db' x st new) (hst : st ≠ .pending) (hg : Gone db id) :
    Gone db' id := by
  by_cases hid : id = x
  · subst hid
    exact ⟨st, h.status_self, hst⟩
  · rw [Gone, h.status_other id hid]
    exact hg

lemma Moves.noRetry (h : Moves db db' x st new) (hst : st ≠ .retryableFailed)
    (hr : ∀ id, db.outboxStatus id ≠ some .retryableFailed) (id : InvocationId) :
    db'.outboxStatus id ≠ some .retryableFailed := by
  by_cases hid : id = x
  · subst hid
    rw [h.status_self]
    simpa using hst
  · rw [h.status_other id hid]
    exact hr id

/-! ## Row updates -/

section Rows

variable {invocationId : InvocationId} {f : OutboxRow → OutboxRow}
  {hf : ∀ r, (f r).invocationId = r.invocationId}

lemma find?_update_self (hr : r ∈ db.outbox) (hp : p r = true) (hst : ∀ r, (f r).status = st) :
    ((db.outbox.update p f hf).find? r.invocationId).map OutboxRow.status = some st := by
  rw [find?_update, find?_of_mem hr]
  simp [hp, hst]

lemma find?_update_other (hp : ∀ r, p r = true → r.invocationId = invocationId) (id : InvocationId)
    (hid : id ≠ invocationId) : (db.outbox.update p f hf).find? id = db.outbox.find? id := by
  rw [find?_update]
  cases h : db.outbox.find? id with
  | none => rfl
  | some r =>
    have hr : ¬p r = true := fun hpr => hid (by rw [← find?_key h, hp r hpr])
    simp [hr]

lemma settleOutboxRow_eq_ok (h : settleOutboxRow invocationId f hf db = .ok db') :
    ∃ r ∈ db.outbox, r.invocationId = invocationId ∧ r.status = .dispatching ∧
      db' = { db with outbox := db.outbox.update (dispatchingGuard invocationId) f hf } := by
  unfold settleOutboxRow at h
  split_ifs at h with hcount
  have hrow : ∃ r ∈ db.outbox, dispatchingGuard invocationId r = true := by
    by_contra hnone
    push Not at hnone
    exact hcount (count_eq_zero.mpr (fun r hr => by simpa using hnone r hr))
  obtain ⟨r, hr, hguard⟩ := hrow
  obtain ⟨hid, hst⟩ := of_decide_eq_true hguard
  exact ⟨r, hr, hid, hst, (Except.ok.inj h).symm⟩

end Rows

section Specs

variable [Platform] {now : Timestamp} {stamp : Stamp} {kind : JournalEventKind} {runId : RunId}
  {sessionId : Option SessionId} {invocationId : InvocationId}

/-! ## Appends -/

lemma append_facts (h : db.append stamp kind run sessionId corr payload = .ok db')
    (id : InvocationId) : db'.outboxFacts id = db.outboxFacts id ++
      [newRow db.journal stamp kind.storageName run sessionId corr payload.toText].filter
        (isOutboxFact id) := by
  obtain ⟨journal, rfl, hrows, -⟩ := Db.append_eq_ok h
  simp only [Db.outboxFacts, hrows, List.filter_append]

lemma append_same (h : db.append stamp kind run sessionId corr payload = .ok db')
    (hk : isFactKind kind.storageName = false) : SameOutbox db db' := by
  refine ⟨?_, fun id => ?_⟩
  · obtain ⟨journal, rfl, -⟩ := Db.append_eq_ok h
    rfl
  · rw [append_facts h id]
    simp [isOutboxFact, newRow, hk]

lemma moves_append (hself : (outbox.find? invocationId).map OutboxRow.status = some st)
    (hother : ∀ id, id ≠ invocationId → outbox.find? id = db.outbox.find? id)
    (h : ({ db with outbox } : Db).append stamp kind run sessionId (some invocationId) payload = .ok db') :
    Moves db db' invocationId st
      ([newRow db.journal stamp kind.storageName run sessionId (some invocationId)
        payload.toText].filter (fun r => isFactKind r.kind)) := by
  have hfacts := append_facts h
  obtain ⟨journal, rfl, -⟩ := Db.append_eq_ok h
  refine ⟨hself, ?_, ?_, ?_⟩
  · rw [hfacts]
    simp [isOutboxFact, newRow, Db.outboxFacts, List.filter_cons]
  · intro id hid
    simp only [Db.outboxStatus, hother id hid]
  · intro id hid
    rw [hfacts]
    simp [isOutboxFact, newRow, Db.outboxFacts, Ne.symm hid]

lemma settle_append (st : OutboxDispatchStatus) (hst : ∀ r, (f r).status = st)
    (hsettle : settleOutboxRow invocationId f hf db = .ok db₁)
    (happ : db₁.append stamp kind (some runId) sessionId (some invocationId) payload = .ok db') :
    db.outboxStatus invocationId = some .dispatching ∧ Moves db db' invocationId st
        ([newRow db.journal stamp kind.storageName (some runId) sessionId (some invocationId)
          payload.toText].filter (fun r => isFactKind r.kind)) := by
  obtain ⟨r, hr, hid, hdisp, rfl⟩ := settleOutboxRow_eq_ok hsettle
  subst hid
  refine ⟨by rw [Db.outboxStatus_of_mem hr, hdisp], moves_append ?_ ?_ happ⟩
  · exact find?_update_self hr (by simp [dispatchingGuard, hdisp]) hst
  · exact find?_update_other (fun r h => (of_decide_eq_true h).1)

/-! ## The calls -/

lemma queueOutboxDispatch_eq_ok
    (h : queueOutboxDispatch approved sessionId now stamp db = .ok (dispatchId, db')) :
    let db₁ : Db := { db with
      outbox := (db.outbox.insertOrIgnore (outboxRowOf approved sessionId now)).1 }
    db' = db₁ ∨ ∃ payload, db₁.append stamp .outboxQueued (some approved.intent.runId) sessionId
      (some approved.intent.invocationId) payload = .ok db' := by
  simp only [queueOutboxDispatch] at h
  split at h
  · obtain ⟨db₁, happ, ⟨⟩⟩ := bind_eq_ok.mp h
    exact .inr ⟨_, happ⟩
  · exact .inl (Prod.mk.inj (return_eq_ok.mp h)).2.symm

lemma mem_of_mem_queueOutboxDispatch
    (h : queueOutboxDispatch approved sessionId now stamp db = .ok (dispatchId, db'))
    (hrow : row ∈ db'.outbox) : row ∈ db.outbox ∨ row = outboxRowOf approved sessionId now := by
  rcases queueOutboxDispatch_eq_ok h with rfl | ⟨payload, happ⟩
  · exact mem_of_mem_insertOrIgnore hrow
  · obtain ⟨journal, rfl, -⟩ := Db.append_eq_ok happ
    exact mem_of_mem_insertOrIgnore hrow

lemma queueOutboxDispatch_spec
    (h : queueOutboxDispatch approved sessionId now stamp db = .ok (dispatchId, db')) :
    (db.outboxStatus approved.intent.invocationId ≠ none ∧ db' = db) ∨
      (db.outboxStatus approved.intent.invocationId = none ∧
        Moves db db' approved.intent.invocationId .pending []) := by
  by_cases hrow : db.outbox.find? approved.intent.invocationId = none
  · right
    obtain ⟨hchanged, -⟩ :=
      insertOrIgnore_changed (r := outboxRowOf approved sessionId now) hrow
    simp only [queueOutboxDispatch] at h
    rw [if_pos hchanged] at h
    obtain ⟨db₁, happ, ⟨⟩⟩ := bind_eq_ok.mp h
    refine ⟨by simpa [Db.outboxStatus] using hrow, moves_append ?_ ?_ happ⟩
    · rw [find?_insertOrIgnore, if_pos ⟨rfl, hrow⟩]
      rfl
    · intro id hid
      rw [find?_insertOrIgnore, if_neg (fun h => hid h.1.symm)]
  · left
    have hignored := insertOrIgnore_ignored (r := outboxRowOf approved sessionId now) hrow
    simp only [queueOutboxDispatch, hignored] at h
    cases h
    exact ⟨by simpa [Db.outboxStatus] using hrow, rfl⟩

lemma leaseNextOutboxDispatch_eq_ok
    (h : leaseNextOutboxDispatch now stamp db = .ok (leased, db')) :
    (leased = none ∧ db' = db) ∨ ∃ row ∈ db.outbox, leasable now row = true ∧
        (∃ d, leased = some d ∧ d.invocationId = row.invocationId ∧ d.runId = row.runId) ∧
        ∃ payload, ({ db with
              outbox := db.outbox.update (leaseGuard now row.invocationId) (lockForDispatch now)
                fun _ => rfl } : Db).append
            stamp .dispatchStarted (some row.runId) row.sessionId (some row.invocationId)
            payload = .ok db' := by
  unfold leaseNextOutboxDispatch at h
  split at h
  · cases h
    exact .inl ⟨rfl, rfl⟩
  · next row hrow =>
    split at h
    · cases h
    · split_ifs at h
      · cases h
        exact .inl ⟨rfl, rfl⟩
      · obtain ⟨db₁, happ, ⟨⟩⟩ := bind_eq_ok.mp h
        obtain ⟨hmem, hlease⟩ := selectFirst_eq_some hrow
        exact .inr ⟨row, hmem, hlease, ⟨_, rfl, rfl, rfl⟩, _, happ⟩

lemma leaseNextOutboxDispatch_none (h : leaseNextOutboxDispatch now stamp db = .ok (none, db')) :
    db' = db := by
  rcases leaseNextOutboxDispatch_eq_ok h with ⟨-, rfl⟩ | ⟨row, -, -, ⟨d, hd, -⟩, -⟩
  · rfl
  · cases hd

lemma leaseNextOutboxDispatch_some (h : leaseNextOutboxDispatch now stamp db = .ok (some d, db')) :
    (db.outboxStatus d.invocationId = some .pending ∨
        db.outboxStatus d.invocationId = some .retryableFailed) ∧
      ∃ r : JournalRow, r.kind = "DispatchStarted" ∧ r.runId = some d.runId ∧
        Moves db db' d.invocationId .dispatching [r] := by
  rcases leaseNextOutboxDispatch_eq_ok h with ⟨hd, -⟩ | ⟨row, hmem, hlease, ⟨d', hd, hid, hrun⟩, payload, happ⟩
  · cases hd
  · cases hd
    obtain ⟨hst, -⟩ := of_decide_eq_true hlease
    rw [hid, hrun]
    refine ⟨?_, _, rfl, rfl, moves_append ?_ ?_ happ⟩
    · rw [Db.outboxStatus_of_mem hmem]
      exact hst.imp (fun h => by rw [h]) (fun h => by rw [h.1])
    · exact find?_update_self hmem (by simpa [leaseGuard] using hst) (fun _ => rfl)
    · exact find?_update_other (fun r h => (of_decide_eq_true h).1)

lemma leaseNextOutboxDispatch_row (h : leaseNextOutboxDispatch now stamp db = .ok (some d, db')) :
    ∃ row ∈ db.outbox, d.invocationId = row.invocationId ∧ d.runId = row.runId ∧
      db'.outbox = db.outbox.update (leaseGuard now row.invocationId) (lockForDispatch now)
        (fun _ => rfl) := by
  rcases leaseNextOutboxDispatch_eq_ok h with ⟨hd, -⟩ | ⟨row, hmem, -, ⟨d', hd, hid, hrun⟩, payload, happ⟩
  · cases hd
  · cases hd
    obtain ⟨journal, rfl, -⟩ := Db.append_eq_ok happ
    exact ⟨row, hmem, hid, hrun, rfl⟩

def successPayload (receipt : Receipt) : Json :=
  .mkObj [("status", .str receipt.status.debug),
    ("external_ref", Json.ofOption receipt.externalRef), ("output_kind", .str "text")]

def failurePayload (error : String) : Json :=
  .mkObj [("status", .str "Failed"), ("error", .str error), ("output_kind", .str "error")]

lemma recordDeliveredReply_eq_ok
    (h : recordDeliveredReply receipt runId sessionId stamp db = .ok db') :
    db' = db ∨ ∃ payload, db.append stamp .assistantReplyDelivered (some runId) sessionId
      (some receipt.invocationId) payload = .ok db' := by
  unfold recordDeliveredReply at h
  split at h
  · unfold maybeRecordAssistantReply at h
    split at h
    · exact .inl (Except.ok.inj h).symm
    · split at h
      · next db₁ happ =>
        cases h
        exact .inr ⟨_, happ⟩
      · split_ifs at h
        exact .inl (Except.ok.inj h).symm
  · exact .inl (Except.ok.inj h).symm

lemma succeedOutboxDispatch_spec
    (h : succeedOutboxDispatch receipt runId sessionId now stamps db = .ok db') :
    db.outboxStatus receipt.invocationId = some .dispatching ∧
      ∃ r : JournalRow, r.kind = "ReceiptReceived" ∧
        r.payloadJson = (successPayload receipt).toText ∧
        Moves db db' receipt.invocationId .succeeded [r] := by
  obtain ⟨db₁, hsettle, h⟩ := bind_eq_ok.mp h
  obtain ⟨db₂, happ, h⟩ := bind_eq_ok.mp h
  obtain ⟨db₃, hreply, h⟩ := bind_eq_ok.mp h
  obtain ⟨hdisp, hmoves⟩ := settle_append .succeeded (fun _ => rfl) hsettle happ
  have hsame₃ : SameOutbox db₂ db₃ := by
    rcases recordDeliveredReply_eq_ok hreply with rfl | ⟨payload, hrecorded⟩
    · exact .refl db₃
    · exact append_same hrecorded (by decide)
  have hsame : SameOutbox db₃ db' := by
    split_ifs at h
    · rw [← return_eq_ok.mp h]
      exact .refl db₃
    · exact (SameOutbox.setRunStatus runId .completed now db₃).trans (append_same h (by decide))
  exact ⟨hdisp, _, rfl, rfl, hmoves.same (hsame₃.trans hsame)⟩

lemma failOutboxDispatch_spec
    (h : failOutboxDispatch invocationId runId sessionId error now stamps db = .ok db') :
    db.outboxStatus invocationId = some .dispatching ∧
      ∃ r : JournalRow, r.kind = "ReceiptReceived" ∧
        r.payloadJson = (failurePayload error).toText ∧ Moves db db' invocationId .failed [r] := by
  obtain ⟨db₁, hsettle, h⟩ := bind_eq_ok.mp h
  obtain ⟨db₂, happ, h⟩ := bind_eq_ok.mp h
  obtain ⟨hdisp, hmoves⟩ := settle_append .failed (fun _ => rfl) hsettle happ
  have hsame : SameOutbox db₂ db' :=
    (SameOutbox.setRunStatus runId .failed now db₂).trans (append_same h (by decide))
  exact ⟨hdisp, _, rfl, rfl, hmoves.same hsame⟩

lemma unknownOutboxDispatch_spec
    (h : unknownOutboxDispatch invocationId runId sessionId error now stamps db = .ok db') :
    db.outboxStatus invocationId = some .dispatching ∧
      ∃ r : JournalRow, r.kind = "OutboxDispatchUnknown" ∧
        Moves db db' invocationId .unknown [r] := by
  obtain ⟨db₁, hsettle, happ⟩ := bind_eq_ok.mp h
  obtain ⟨hdisp, hmoves⟩ := settle_append .unknown (fun _ => rfl) hsettle happ
  exact ⟨hdisp, _, rfl, hmoves⟩

structure OfSettlement (R : Db → Db → Prop) : Prop where
  refl : ∀ db, R db db
  trans : ∀ {a b c}, R a b → R b c → R a c
  settle : ∀ {db db' id f hf}, settleOutboxRow id f hf db = .ok db' →
    (∀ r, (f r).runId = r.runId ∧ (f r).attempts = r.attempts) → R db db'
  append : ∀ {db db' : Db} {stamp kind run sessionId corr payload}, kind ≠ .runStarted →
    db.append stamp kind run sessionId corr payload = .ok db' → R db db'
  status : ∀ runId {status} now db, status ≠ .running → R db (setRunStatus runId status now db)

namespace OfSettlement

variable {R : Db → Db → Prop} (hR : OfSettlement R)
include hR

lemma settled {f hf payload} (hsettle : settleOutboxRow invocationId f hf db = .ok db₁)
    (hf' : ∀ r, (f r).runId = r.runId ∧ (f r).attempts = r.attempts) (hkind : kind ≠ .runStarted)
    (happ : db₁.append stamp kind (some runId) sessionId (some invocationId) payload = .ok db₂) :
    R db db₂ := hR.trans (hR.settle hsettle hf') (hR.append hkind happ)

lemma succeed (h : succeedOutboxDispatch receipt runId sessionId now stamps db = .ok db') :
    R db db' := by
  obtain ⟨db₁, hsettle, h⟩ := bind_eq_ok.mp h
  obtain ⟨db₂, happ, h⟩ := bind_eq_ok.mp h
  obtain ⟨db₃, hreply, h⟩ := bind_eq_ok.mp h
  have hrecorded : R db₂ db₃ := by
    rcases recordDeliveredReply_eq_ok hreply with rfl | ⟨payload, hrecorded⟩
    · exact hR.refl db₃
    · exact hR.append (by decide) hrecorded
  refine hR.trans (hR.settled hsettle (fun _ => ⟨rfl, rfl⟩) (by decide) happ)
    (hR.trans hrecorded ?_)
  split_ifs at h
  · rw [← return_eq_ok.mp h]
    exact hR.refl db₃
  · exact hR.trans (hR.status runId now db₃ (by decide)) (hR.append (by decide) h)

lemma fail (h : failOutboxDispatch invocationId runId sessionId error now stamps db = .ok db') :
    R db db' := by
  obtain ⟨db₁, hsettle, h⟩ := bind_eq_ok.mp h
  obtain ⟨db₂, happ, h⟩ := bind_eq_ok.mp h
  exact hR.trans (hR.settled hsettle (fun _ => ⟨rfl, rfl⟩) (by decide) happ)
    (hR.trans (hR.status runId now db₂ (by decide)) (hR.append (by decide) h))

lemma unknown
    (h : unknownOutboxDispatch invocationId runId sessionId error now stamps db = .ok db') :
    R db db' := by
  obtain ⟨db₁, hsettle, happ⟩ := bind_eq_ok.mp h
  exact hR.settled hsettle (fun _ => ⟨rfl, rfl⟩) (by decide) happ

end OfSettlement

end Specs

end AgentCore.Journal
