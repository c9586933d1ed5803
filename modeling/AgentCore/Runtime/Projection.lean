import AgentCore.Runtime.Dispatcher

/-! The outbox table is a projection of the journal: at every point of every run the status
of a row is the one its facts imply. -/

namespace AgentCore.Runtime

open Foundation Domain Journal List

variable {db : Db} {id : InvocationId}

inductive Agrees : Option OutboxDispatchStatus → List JournalRow → Prop
  | absent : Agrees none []
  | pending : Agrees (some .pending) []
  | dispatching {s : JournalRow} (hs : s.kind = "DispatchStarted") :
      Agrees (some .dispatching) [s]
  | succeeded {s r : JournalRow} (hs : s.kind = "DispatchStarted")
      (hr : r.kind = "ReceiptReceived")
      (hlike : sqlLike "\"status\":\"Succeeded\"" r.payloadJson = true) :
      Agrees (some .succeeded) [s, r]
  | failed {s r : JournalRow} (hs : s.kind = "DispatchStarted") (hr : r.kind = "ReceiptReceived")
      (hlike : sqlLike "\"status\":\"Failed\"" r.payloadJson = true) :
      Agrees (some .failed) [s, r]
  | unknown {s r : JournalRow} (hs : s.kind = "DispatchStarted")
      (hr : r.kind = "OutboxDispatchUnknown") : Agrees (some .unknown) [s, r]

namespace Agrees

lemma pending_facts (h : Agrees (some .pending) facts) : facts = [] := by
  cases h
  rfl

lemma dispatching_facts (h : Agrees (some .dispatching) facts) :
    ∃ s : JournalRow, s.kind = "DispatchStarted" ∧ facts = [s] := by
  cases h with
  | dispatching hs => exact ⟨_, hs, rfl⟩

lemma eq_dispatching (h : Agrees st facts) (hstarted : ∃ r ∈ facts, r.kind = "DispatchStarted")
    (hopen : ∀ r ∈ facts, r.kind ≠ "ReceiptReceived" ∧ r.kind ≠ "OutboxDispatchUnknown") :
    st = some .dispatching := by
  cases h with
  | absent | pending => simp at hstarted
  | dispatching => rfl
  | succeeded hs hr | failed hs hr => exact absurd hr (hopen _ (by simp)).1
  | unknown hs hr => exact absurd hr (hopen _ (by simp)).2

lemma started_le_one (h : Agrees st facts) :
    (facts.filter fun r => decide (r.kind = "DispatchStarted")).length ≤ 1 := by
  cases h with
  | absent => simp
  | pending => simp
  | dispatching hs => simp [hs]
  | succeeded hs hr | failed hs hr | unknown hs hr => simp [hs, hr]

lemma terminal_le_one (h : Agrees st facts) :
    (facts.filter fun r => isTerminalKind r.kind).length ≤ 1 := by
  cases h with
  | absent => simp
  | pending => simp
  | dispatching hs => simp [hs, isTerminalKind]
  | succeeded hs hr | failed hs hr | unknown hs hr => simp [hs, hr, isTerminalKind]

end Agrees

/-! ## Payload texts -/

lemma sqlLike_of_get {payload : Json} (status : String)
    (hget : payload.get "status" = some (.str status))
    (hneedle : needle.toList = Json.printField ("status", .str status)) :
    sqlLike needle payload.toText = true := by
  have hsub : needle.toList <:+: payload.toText.toList := by
    rw [hneedle, Json.toText, String.toList_ofList]
    exact Json.printField_infix_of_get hget
  exact decide_eq_true (hsub.map Char.toLower)

lemma sqlLike_successPayload {receipt : Receipt} (h : receipt.status = .succeeded) :
    sqlLike "\"status\":\"Succeeded\"" (successPayload receipt).toText = true := by
  refine sqlLike_of_get "Succeeded" ?_ (by decide)
  rw [successPayload, Json.get_mkObj, h]
  rfl

lemma sqlLike_failurePayload (error : String) :
    sqlLike "\"status\":\"Failed\"" (failurePayload error).toText = true := by
  refine sqlLike_of_get "Failed" ?_ (by decide)
  rw [failurePayload, Json.get_mkObj]
  rfl

/-! ## The queries, over the facts of one invocation -/

lemma hasEvent_eq_facts {kind : String} (hk : isFactKind kind = true) (id : InvocationId) :
    hasEvent db.journal.rows kind (some id) =
      (db.outboxFacts id).any fun r => decide (r.kind = kind) := by
  rw [Bool.eq_iff_iff]
  simp only [hasEvent, Db.outboxFacts, isOutboxFact, any_eq_true, mem_filter,
    decide_eq_true_eq, Bool.and_eq_true]
  constructor
  · rintro ⟨r, hr, rfl, hcorr⟩
    exact ⟨r, ⟨hr, hcorr, hk⟩, rfl⟩
  · rintro ⟨r, ⟨hr, hcorr, -⟩, hkind⟩
    exact ⟨r, hr, hkind, hcorr⟩

lemma hasReceiptLike_eq_facts (db : Db) (id : InvocationId) (needle : String) :
    hasReceiptLike db id needle = (db.outboxFacts id).any fun r =>
      decide (r.kind = "ReceiptReceived") && sqlLike needle r.payloadJson := by
  rw [Bool.eq_iff_iff]
  simp only [hasReceiptLike, Db.outboxFacts, isOutboxFact, any_eq_true, mem_filter,
    decide_eq_true_eq, Bool.and_eq_true]
  constructor
  · rintro ⟨r, hr, ⟨hcorr, hkind⟩, hlike⟩
    exact ⟨r, ⟨hr, hcorr, by rw [hkind]; decide⟩, hkind, hlike⟩
  · rintro ⟨r, ⟨hr, hcorr, -⟩, hkind, hlike⟩
    exact ⟨r, hr, ⟨hcorr, hkind⟩, hlike⟩

lemma terminalRows_eq_facts (db : Db) (id : InvocationId) :
    terminalRows db id = (db.outboxFacts id).filter fun r => isTerminalKind r.kind := by
  rw [terminalRows, Db.outboxFacts, filter_filter]
  refine filter_congr fun r _ => ?_
  by_cases hcorr : r.correlationId = some id
  · by_cases h1 : r.kind = "ReceiptReceived"
    · simp [isOutboxFact, isTerminalKind, isFactKind, hcorr, h1]
    · by_cases h2 : r.kind = "OutboxDispatchUnknown"
      · simp [isOutboxFact, isTerminalKind, isFactKind, hcorr, h2]
      · simp [isTerminalKind, h1, h2]
  · simp [isOutboxFact, hcorr]

lemma not_drifted_of_agrees {r : OutboxRow} (hr : r ∈ db.outbox)
    (h : Agrees (db.outboxStatus r.invocationId) (db.outboxFacts r.invocationId)) :
    drifted db r = false := by
  rw [Db.outboxStatus_of_mem hr] at h
  simp only [drifted, hasEvent_eq_facts (show isFactKind "ReceiptReceived" = true by decide),
    hasEvent_eq_facts (show isFactKind "OutboxDispatchUnknown" = true by decide),
    hasReceiptLike_eq_facts]
  generalize hst : some r.status = st at h
  generalize db.outboxFacts r.invocationId = facts at h
  cases h with
  | absent => cases hst
  | pending => simp
  | dispatching hs => simp [hs]
  | succeeded hs hr hlike =>
    have : r.status = .succeeded := by simpa using hst
    simp [hs, hr, hlike, this]
  | failed hs hr hlike =>
    have : r.status = .failed := by simpa using hst
    simp [hs, hr, hlike, this]
  | unknown hs hr =>
    have : r.status = .unknown := by simpa using hst
    simp [hs, hr, this]

/-! ## Recovery candidates -/

lemma mem_unresolved {rows : List JournalRow} {r : JournalRow} :
    unresolved rows r = true ↔ r.kind = "DispatchStarted" ∧ r.correlationId.isSome = true ∧
      hasEvent rows "ReceiptReceived" r.correlationId = false ∧
      hasEvent rows "OutboxDispatchUnknown" r.correlationId = false := by
  simp [unresolved, and_assoc]

def candidates (db : Db) : List InvocationId :=
  (unknownInvocations db).map UnknownInvocation.invocationId

lemma candidates_sublist (db : Db) : (candidates db).Sublist
      ((db.journal.rows.filter (unresolved db.journal.rows)).map
        (fun r => r.correlationId.getD "")) := by
  have hids : candidates db = (distinct []
      ((db.journal.rows.filter (unresolved db.journal.rows)).map dispatchKey)).map Prod.fst := by
    simp [candidates, unknownInvocations, Function.comp_def]
  have hsub := (distinct_sublist []
    ((db.journal.rows.filter (unresolved db.journal.rows)).map dispatchKey)).map Prod.fst
  rw [hids]
  simpa [Function.comp_def, dispatchKey] using hsub

lemma open_of_candidate (h : id ∈ candidates db) :
    (∃ r ∈ db.outboxFacts id, r.kind = "DispatchStarted") ∧ ∀ r ∈ db.outboxFacts id,
        r.kind ≠ "ReceiptReceived" ∧ r.kind ≠ "OutboxDispatchUnknown" := by
  obtain ⟨r, hr, hid⟩ := mem_map.mp ((candidates_sublist db).subset h)
  obtain ⟨hrow, hunres⟩ := mem_filter.mp hr
  obtain ⟨hkind, hsome, hreceipt, hunknown⟩ := mem_unresolved.mp hunres
  obtain ⟨c, hc⟩ := Option.isSome_iff_exists.mp hsome
  have hcorr : r.correlationId = some id := by
    rw [hc] at hid
    rw [hc, ← hid]
    rfl
  rw [hcorr, hasEvent_eq_facts (by decide)] at hreceipt hunknown
  refine ⟨⟨r, ?_, hkind⟩, ?_⟩
  · simp [Db.outboxFacts, isOutboxFact, hrow, hcorr, hkind, isFactKind]
  · intro s hs
    exact ⟨by simpa using any_eq_false.mp hreceipt s hs,
      by simpa using any_eq_false.mp hunknown s hs⟩

lemma candidate_of_dispatching (h : Agrees (some .dispatching) (db.outboxFacts id)) :
    id ∈ candidates db := by
  obtain ⟨s, hkind, hfacts⟩ := h.dispatching_facts
  have hs : s ∈ db.outboxFacts id := by simp [hfacts]
  obtain ⟨hrow, hfact⟩ := mem_filter.mp hs
  have hcorr : s.correlationId = some id := by
    simp only [isOutboxFact, Bool.and_eq_true, decide_eq_true_eq] at hfact
    exact hfact.1
  have hunres : unresolved db.journal.rows s = true := by
    refine mem_unresolved.mpr ⟨hkind, by simp [hcorr], ?_, ?_⟩ <;>
      rw [hcorr, hasEvent_eq_facts (by decide), hfacts] <;> simp [hkind]
  have hkey : dispatchKey s ∈ distinct []
      ((db.journal.rows.filter (unresolved db.journal.rows)).map dispatchKey) :=
    mem_distinct (mem_map_of_mem (mem_filter.mpr ⟨hrow, hunres⟩)) (by simp)
  have hfst : (dispatchKey s).1 = id := by simp [dispatchKey, hcorr]
  simp only [candidates, unknownInvocations, map_map]
  exact mem_map.mpr ⟨dispatchKey s, hkey, hfst⟩

lemma count_candidates_le_one {st : Option OutboxDispatchStatus}
    (h : Agrees st (db.outboxFacts id)) : (candidates db).count id ≤ 1 := by
  calc (candidates db).count id ≤ ((db.journal.rows.filter (unresolved db.journal.rows)).map
          (fun r => r.correlationId.getD "")).count id := (candidates_sublist db).count_le _
    _ = ((db.journal.rows.filter (unresolved db.journal.rows)).filter
          (fun r => decide (r.correlationId.getD "" = id))).length := by
        rw [count, countP_map, countP_eq_length_filter]
        rfl
    _ ≤ ((db.outboxFacts id).filter fun r => decide (r.kind = "DispatchStarted")).length := by
        refine List.Sublist.length_le ?_
        rw [filter_filter, Db.outboxFacts, filter_filter]
        refine monotone_filter_right _ fun r hr => ?_
        simp only [Bool.and_eq_true, decide_eq_true_eq] at hr ⊢
        obtain ⟨hkind, hsome, -⟩ := mem_unresolved.mp hr.2
        obtain ⟨c, hc⟩ := Option.isSome_iff_exists.mp hsome
        have hcid : c = id := by simpa [hc] using hr.1
        exact ⟨hkind, by simp [isOutboxFact, hc, hcid, hkind, isFactKind]⟩
    _ ≤ 1 := h.started_le_one

/-! ## The invariant -/

/-- The outbox and the inline tool calls use different invocation ids: only the outbox
queues ids outside `inline`, and other components record dispatch facts only for ids in it. -/
def Label.Respects (inline : InvocationId → Prop) : Label → Prop
  | .queue approved _ _ _ => ¬inline approved.intent.invocationId
  | .foreignEvent _ kind _ _ correlationId _ =>
    isFactKind kind.storageName = true → ∀ id ∈ correlationId, inline id
  | _ => True

def PhaseOk (inline : InvocationId → Prop) (db : Db) : Phase → Prop
  | .recovering todo =>
    (∀ id, db.outboxStatus id = some .dispatching →
        id ∈ todo.map UnknownInvocation.invocationId) ∧
      ∀ id, ¬inline id → id ∈ todo.map UnknownInvocation.invocationId →
        db.outboxStatus id = some .dispatching ∧
          (todo.map UnknownInvocation.invocationId).count id ≤ 1
  | .repairing _ => ∀ id, db.outboxStatus id ≠ some .dispatching
  | .recovered => ∀ id, db.outboxStatus id ≠ some .dispatching
  | _ => True

structure Projected (inline : InvocationId → Prop) (w : World) : Prop where
  agrees : ∀ id, ¬inline id → Agrees (w.db.outboxStatus id) (w.db.outboxFacts id)
  own : ∀ id, inline id → w.db.outboxStatus id = none
  phase : PhaseOk inline w.db w.phase
  idle : w.phase ≠ .serving → ∀ i, w.dispatchers i = .idle

section Steps

variable [Platform] {inline : InvocationId → Prop} {w : World}

omit [Platform] in
lemma projected_init : Projected inline World.init where
  agrees _ _ := .absent
  own _ _ := rfl
  phase := trivial
  idle _ _ := rfl

namespace Projected

section

omit [Platform]

lemma not_inline (h : Projected inline w) (hst : w.db.outboxStatus id = some st) : ¬inline id := by
  intro hid
  rw [h.own id hid] at hst
  cases hst

lemma facts_of_status (h : Projected inline w) (hst : w.db.outboxStatus id = some st) :
    Agrees (some st) (w.db.outboxFacts id) := by
  have := h.agrees id (h.not_inline hst)
  rwa [hst] at this

lemma agrees_of_moves (h : Projected inline w)
    (hmoves : Moves w.db db x st new) (hx : Agrees (some st) (w.db.outboxFacts x ++ new))
    (hid : ¬inline id) : Agrees (db.outboxStatus id) (db.outboxFacts id) := by
  by_cases hidx : id = x
  · subst hidx
    rw [hmoves.status_self, hmoves.facts_self]
    exact hx
  · rw [hmoves.status_other id hidx, hmoves.facts_other id hidx]
    exact h.agrees id hid

lemma own_of_moves (h : Projected inline w)
    (hmoves : Moves w.db db x st new) (hx : ¬inline x) (id : InvocationId) (hid : inline id) :
    db.outboxStatus id = none := by
  rw [hmoves.status_other id (fun he => hx (he ▸ hid))]
  exact h.own id hid

lemma phase_of_queue (h : Projected inline w) (hnone : w.db.outboxStatus x = none)
    (hmoves : Moves w.db db x .pending []) : PhaseOk inline db w.phase := by
  have hstatus : ∀ id, db.outboxStatus id = some .dispatching ↔
      w.db.outboxStatus id = some .dispatching := by
    intro id
    by_cases hid : id = x
    · subst hid
      simp [hmoves.status_self, hnone]
    · rw [hmoves.status_other id hid]
  have hphase := h.phase
  cases hp : w.phase with
  | recovering todo =>
    rw [hp] at hphase
    exact ⟨fun id hid => hphase.1 id ((hstatus id).mp hid), fun id hid hmem =>
      ⟨(hstatus id).mpr (hphase.2 id hid hmem).1, (hphase.2 id hid hmem).2⟩⟩
  | repairing todo | recovered =>
    rw [hp] at hphase
    exact fun id hid => hphase id ((hstatus id).mp hid)
  | down => trivial
  | serving => trivial

lemma of_phase (h : Projected inline w) {phase : Phase} (hp : PhaseOk inline w.db phase)
    (hidle : phase ≠ .serving → ∀ i, w.dispatchers i = .idle) : Projected inline { w with phase } :=
  ⟨h.agrees, h.own, hp, hidle⟩

lemma of_dispatchers (h : Projected inline w) (i : Nat) {s : Dispatcher}
    (hs : w.phase ≠ .serving → s = .idle) : Projected inline (w.setDispatcher i s) where
  agrees := h.agrees
  own := h.own
  phase := h.phase
  idle hp j := by
    by_cases hji : j = i
    · simp [World.setDispatcher, hji, hs hp]
    · simpa [World.setDispatcher, hji] using h.idle hp j

end

lemma recover (h : Projected inline w) {invocation : UnknownInvocation}
    {todo : List UnknownInvocation} {stamp : Stamp}
    (hp : w.phase = .recovering (invocation :: todo))
    (hdb : recoverInvocation invocation now stamp w.db = .ok db) :
    Projected inline { w with db, phase := .recovering todo } := by
  obtain ⟨hstatus, r, hkind, hfacts⟩ := recoverInvocation_spec hdb
  have hphase := h.phase
  rw [hp] at hphase
  obtain ⟨hall, hown⟩ := hphase
  have hself : ¬inline invocation.invocationId →
      w.db.outboxStatus invocation.invocationId = some .dispatching ∧
        invocation.invocationId ∉ todo.map UnknownInvocation.invocationId := by
    intro hinl
    obtain ⟨hdisp, hcount⟩ := hown _ hinl (by simp)
    refine ⟨hdisp, fun hmem => ?_⟩
    have hpos := count_pos_iff.mpr hmem
    rw [map_cons, count_cons_self] at hcount
    omega
  refine ⟨fun id hid => ?_, fun id hid => ?_, ⟨fun id hid => ?_, fun id hid hmem => ?_⟩,
    fun _ => h.idle (by simp [hp])⟩
  · rw [hstatus id, hfacts id]
    by_cases hx : id = invocation.invocationId
    · subst hx
      obtain ⟨hdisp, -⟩ := hself hid
      obtain ⟨s, hs, hfs⟩ := (h.facts_of_status hdisp).dispatching_facts
      rw [if_pos rfl, if_pos rfl, hdisp, hfs]
      exact Agrees.unknown hs hkind
    · rw [if_neg hx, if_neg hx, append_nil]
      exact h.agrees id hid
  · rw [hstatus id, h.own id hid]
    split_ifs <;> rfl
  · rw [hstatus id] at hid
    split_ifs at hid with hx
    · cases hst : w.db.outboxStatus id <;> simp [hst] at hid
    · exact (mem_cons.mp (hall id hid)).resolve_left hx
  · have hx : id ≠ invocation.invocationId := by
      rintro rfl
      exact (hself hid).2 hmem
    obtain ⟨hdisp, hcount⟩ := hown id hid (mem_cons_of_mem _ hmem)
    refine ⟨by rw [hstatus id, if_neg hx, hdisp], ?_⟩
    rw [map_cons, count_cons_of_ne (Ne.symm hx)] at hcount
    exact hcount

lemma write (h : Projected inline w) {d : LeasedOutboxDispatch} {outcome : AdapterOutcome}
    {stamps : Nat → Stamp}
    (hwrite : writeOutcome d outcome now stamps w.db = .ok db) (hp : w.phase = .serving) :
    Projected inline { w with db } := by
  obtain ⟨x, st, r, hdisp, hmoves, hcase⟩ := writeOutcome_spec hwrite
  obtain ⟨s, hs, hfacts⟩ := (h.facts_of_status hdisp).dispatching_facts
  have hx : Agrees (some st) (w.db.outboxFacts x ++ [r]) := by
    rw [hfacts]
    rcases hcase with ⟨rfl, hr, receipt, hst, hpayload⟩ | ⟨rfl, hr, error, hpayload⟩ | ⟨rfl, hr⟩
    · exact .succeeded hs hr (hpayload ▸ sqlLike_successPayload hst)
    · exact .failed hs hr (hpayload ▸ sqlLike_failurePayload error)
    · exact .unknown hs hr
  exact ⟨fun id => h.agrees_of_moves hmoves hx, h.own_of_moves hmoves (h.not_inline hdisp),
    by rw [hp]; trivial, h.idle⟩

lemma step (h : Projected inline w) (l : Label) (hl : l.Respects inline) :
    Projected inline (w.step l) := by
  have heffect := effect_step w l
  generalize w.step l = w' at heffect ⊢
  cases heffect with
  | stays => exact h
  | @queued approved _ _ _ _ hnone hmoves =>
    have hx : Agrees (some .pending) (w.db.outboxFacts approved.intent.invocationId ++ []) := by
      have hagrees := h.agrees _ hl
      rw [hnone] at hagrees
      generalize w.db.outboxFacts approved.intent.invocationId = facts at hagrees ⊢
      cases hagrees
      exact .pending
    exact ⟨fun id => h.agrees_of_moves hmoves hx, h.own_of_moves hmoves hl,
      h.phase_of_queue hnone hmoves, h.idle⟩
  | @leased i _ _ d db r hp _ hst hkind hmoves =>
    have hpending : w.db.outboxStatus d.invocationId = some .pending := by
      rcases hst with hst | hst
      · exact hst
      · have hagrees := h.facts_of_status hst
        cases hagrees
    have hx : Agrees (some .dispatching) (w.db.outboxFacts d.invocationId ++ [r]) := by
      rw [(h.facts_of_status hpending).pending_facts]
      exact .dispatching hkind
    have hinv : Projected inline { w with db := db } :=
      ⟨fun id => h.agrees_of_moves hmoves hx, h.own_of_moves hmoves (h.not_inline hpending),
        by rw [hp]; trivial, h.idle⟩
    exact hinv.of_dispatchers i (fun hne => absurd hp hne)
  | @executed i _ d hd =>
    have hinv : Projected inline { w with calls := w.calls ++ [d.invocationId] } :=
      ⟨h.agrees, h.own, h.phase, h.idle⟩
    refine hinv.of_dispatchers i (fun hp => ?_)
    cases hd.symm.trans (h.idle hp i)
  | @finished i _ _ _ _ db hd hdb =>
    have hinv : Projected inline { w with db := db } := by
      rcases hdb with rfl | hwrite
      · exact h
      · refine h.write hwrite (by_contra fun hp => ?_)
        cases hd.symm.trans (h.idle hp i)
    exact hinv.of_dispatchers i (fun _ => rfl)
  | abandoned => exact h.of_dispatchers _ (fun _ => rfl)
  | crashed => exact ⟨h.agrees, h.own, trivial, fun _ _ => rfl⟩
  | restarted hp =>
    refine h.of_phase ⟨fun id hid => ?_, fun id hid hmem => ?_⟩ (fun _ => h.idle (by simp [hp]))
    · exact candidate_of_dispatching (h.facts_of_status hid)
    · obtain ⟨hstarted, hopen⟩ := open_of_candidate hmem
      exact ⟨(h.agrees id hid).eq_dispatching hstarted hopen,
        count_candidates_le_one (h.agrees id hid)⟩
  | aborted hp => exact h.of_phase trivial (fun _ => h.idle (by simp [hp]))
  | recovered hp hdb => exact h.recover hp hdb
  | scanned hp =>
    refine h.of_phase (fun id hid => ?_) (fun _ => h.idle (by simp [hp]))
    have hphase := h.phase
    rw [hp] at hphase
    cases hphase.1 id hid
  | @repaired now stale _ hp =>
    have hphase := h.phase
    rw [hp] at hphase
    -- no row is dispatching any more, so the repair finds nothing to change
    have hstatus : ∀ id, (repairStale stale now w.db).outboxStatus id = w.db.outboxStatus id := by
      intro id
      rw [repairStale_spec, if_neg (fun hd => hphase id hd.2)]
    refine ⟨fun id hid => ?_, fun id hid => ?_, fun id => ?_, fun _ => h.idle (by simp [hp])⟩
    · rw [hstatus id]
      exact h.agrees id hid
    · rw [hstatus id]
      exact h.own id hid
    · rw [hstatus id]
      exact hphase id
  | returned hp =>
    have hphase := h.phase
    rw [hp] at hphase
    exact h.of_phase hphase (fun _ => h.idle (by simp [hp]))
  | started hp => exact h.of_phase trivial (fun hne => absurd rfl hne)
  | @appended stamp kind runId sessionId correlationId payload db hdb =>
    have hfacts : ∀ id, ¬inline id → db.outboxFacts id = w.db.outboxFacts id := by
      intro id hid
      rw [append_facts hdb id]
      have hnot : isOutboxFact id (newRow w.db.journal stamp kind.storageName runId sessionId
          correlationId payload.toText) = false := by
        by_contra hfact
        simp only [isOutboxFact, newRow, Bool.not_eq_false, Bool.and_eq_true] at hfact
        exact hid (hl hfact.2 id (of_decide_eq_true hfact.1))
      simp [hnot]
    obtain ⟨journal, rfl, -⟩ := Db.append_eq_ok hdb
    exact ⟨fun id hid => hfacts id hid ▸ h.agrees id hid, h.own, h.phase, h.idle⟩
  | wroteRuns => exact ⟨h.agrees, h.own, h.phase, h.idle⟩

end Projected

/-- At every point of every run, for ids the inline tool calls do not use: an invocation has
at most one terminal fact, the drift query counts nothing, a row is dispatching exactly when
its start has no terminal fact, and after recovery no row is. -/
theorem outbox_projection_agrees (inline : InvocationId → Prop) (ls : List Label)
    (hls : ∀ l ∈ ls, l.Respects inline) :
    let w := run World.step World.init ls
    (∀ id, ¬inline id → (terminalRows w.db id).length ≤ 1) ∧
      outboxProjectionDriftCount w.db = 0 ∧
      (∀ r ∈ w.db.outbox, r.status = .dispatching ↔
        hasEvent w.db.journal.rows "DispatchStarted" (some r.invocationId) = true ∧
          terminalRows w.db r.invocationId = []) ∧
      (w.phase = .recovered → ∀ r ∈ w.db.outbox, r.status ≠ .dispatching) := by
  intro w
  have halong : Along World.step (fun _ l => l.Respects inline) World.init ls := along_of_forall hls
  have h : Projected inline w := halong.invariant (fun w l hw hl => hw.step l hl) projected_init
  have hrow : ∀ r ∈ w.db.outbox, Agrees (some r.status) (w.db.outboxFacts r.invocationId) :=
    fun r hr => h.facts_of_status (Db.outboxStatus_of_mem hr)
  refine ⟨fun id hid => ?_, ?_, fun r hr => ?_, fun hp r hr hdisp => ?_⟩
  · rw [terminalRows_eq_facts]
    exact (h.agrees id hid).terminal_le_one
  · refine Table.count_eq_zero.mpr fun r hr => not_drifted_of_agrees hr ?_
    rw [Db.outboxStatus_of_mem hr]
    exact hrow r hr
  · rw [hasEvent_eq_facts (by decide), terminalRows_eq_facts]
    have hagrees := hrow r hr
    constructor
    · intro hst
      rw [hst] at hagrees
      obtain ⟨s, hs, hfacts⟩ := hagrees.dispatching_facts
      simp [hfacts, hs, isTerminalKind]
    · rintro ⟨hstarted, hopen⟩
      refine Option.some.inj (hagrees.eq_dispatching ?_ ?_)
      · simpa using hstarted
      · intro e he
        have hterm := filter_eq_nil_iff.mp hopen e he
        simp only [isTerminalKind, Bool.or_eq_true, decide_eq_true_eq, not_or] at hterm
        exact ⟨hterm.2, hterm.1⟩
  · have hphase := h.phase
    rw [hp] at hphase
    exact hphase r.invocationId (by rw [Db.outboxStatus_of_mem hr, hdisp])

end Steps

/-- A reply is queued, leased and called; the process dies before the outcome is written
and the next start settles the row, while an inline tool call is in flight. -/
def crashedDelivery : List Label :=
  let approved : ApprovedInvocation :=
    ⟨⟨"reply:run_1", "run_1", "stdout.send_text", .mkObj [("text", .str "42")], none⟩,
      "decision_1"⟩
  [ .restart, .scanStale 0, .recoverReturn, .start,
    .queue approved none 1 ⟨"event_1", 1⟩,
    .foreignEvent ⟨"event_2", 2⟩ .dispatchStarted (some "run_2") none (some "tool_1") .null,
    .lease 0 3 ⟨"event_3", 3⟩,
    .execute 0 (.ok ⟨"reply:run_1", .succeeded, none, .null, 4⟩),
    .crash,
    .restart, .recoverNext 5 ⟨"event_4", 5⟩, .recoverNext 6 ⟨"event_5", 6⟩, .scanStale 7,
    .recoverReturn ]

lemma crashedDelivery_respects : ∀ l ∈ crashedDelivery, l.Respects (· = "tool_1") := by
  simp [crashedDelivery, Label.Respects]

theorem outbox_projection_agrees_crashedDelivery :
    letI := referencePlatform
    (run World.step World.init crashedDelivery).db.outboxStatus "reply:run_1" = some .unknown ∧
      (run World.step World.init crashedDelivery).calls = ["reply:run_1"] ∧
      outboxProjectionDriftCount (run World.step World.init crashedDelivery).db = 0 :=
  letI := referencePlatform
  ⟨by decide +kernel, by decide +kernel,
    (outbox_projection_agrees (· = "tool_1") crashedDelivery crashedDelivery_respects).2.1⟩

end AgentCore.Runtime
