import AgentCore.Journal.OutboxSpec
import AgentCore.Gateway.Decision

/-! Decisions on a paused run exclude each other as long as a call that takes up the run is
the only one at it and finds no decision recorded. -/

namespace AgentCore.Gateway

open Foundation Domain Journal Pool

variable {db : Db} {sessionId : Option SessionId} {approved : ApprovedInvocation} {runId : RunId}
  {row : OutboxRow} {d : Decision} {kind : JournalEventKind} {payload : Json}

/-- The runs that the call found awaiting approval and whose decision it has yet to record. -/
def Decision.pending : Decision → List RunId
  | approving runId => [runId]
  | granting approved _ => [approved.intent.runId]
  | denying runId => [runId]
  | refusing runId _ _ => [runId]
  | expiring _ _ stale => stale.map StaleApproval.runId
  | expired _ _ _ rest => rest.map StaleApproval.runId
  | _ => []

structure Undisputed (db : Db) : Prop where
  decided : ∀ runId, (decisions runId db).length ≤ 1
  asked : ∀ runId, (runFacts [.approvalRequested] runId db).length ≤ 1

structure Decision.Local (d : Decision) (db : Db) : Prop where
  undecided : ∀ runId ∈ d.pending, decisions runId db = []
  once : d.pending.Nodup
  granted : ∀ approved sessionId, d = queueing approved sessionId →
    ∃ row : JournalRow, row.kind = JournalEventKind.approvalGranted.storageName ∧
      decisions approved.intent.runId db = [row]

lemma Decision.Local.of_decisions {db' : Db} (hd : d.Local db)
    (h : ∀ runId, decisions runId db' = decisions runId db) : d.Local db' := by
  refine ⟨fun runId hrun => ?_, hd.once, fun approved sessionId heq => ?_⟩
  · rw [h]
    exact hd.undecided runId hrun
  · rw [h]
    exact hd.granted approved sessionId heq

structure SameDecisions (db db' : Db) : Prop where
  decisions : ∀ runId, decisions runId db' = decisions runId db
  asked : ∀ runId, runFacts [.approvalRequested] runId db' = runFacts [.approvalRequested] runId db

namespace SameDecisions

variable {db' : Db}

lemma refl (db : Db) : SameDecisions db db := ⟨fun _ => rfl, fun _ => rfl⟩

lemma of_journal (h : db'.journal = db.journal) : SameDecisions db db' := by
  have hfacts : ∀ kinds runId, runFacts kinds runId db' = runFacts kinds runId db := by
    intro kinds runId
    rw [runFacts, runFacts, h]
  exact ⟨fun runId => hfacts _ runId, fun runId => hfacts _ runId⟩

lemma undisputed (h : SameDecisions db db') (hs : Undisputed db) : Undisputed db' := by
  refine ⟨fun runId => ?_, fun runId => ?_⟩
  · rw [h.decisions]
    exact hs.decided runId
  · rw [h.asked]
    exact hs.asked runId

lemma append [Platform] {runId : Option RunId}
    (h : db.append stamp kind runId sessionId correlationId payload = .ok db')
    (hdecision : kind ∉ decisionKinds) (hasked : kind ≠ .approvalRequested) :
    SameDecisions db db' := by
  refine ⟨fun x => runFacts_append_other h fun hx => hdecision hx.2,
    fun x => runFacts_append_other h fun hx => hasked ?_⟩
  simpa using hx.2

lemma queue [Platform] {dispatchId : String}
    (h : queueOutboxDispatch approved sessionId now stamp db = .ok (dispatchId, db')) :
    SameDecisions db db' := by
  rcases queueOutboxDispatch_eq_ok h with rfl | ⟨payload, happ⟩
  · exact of_journal rfl
  · have hsame := append happ (by decide) (by decide)
    exact ⟨fun runId => hsame.decisions runId, fun runId => hsame.asked runId⟩

end SameDecisions

section Step

variable [Platform]

structure Decision.Advance (db : Db) (d : Decision) (after : Decision × Db) : Prop where
  undisputed : Undisputed after.2
  here : after.1.Local after.2
  frame : ∀ runId, runId ∉ d.pending → decisions runId after.2 = decisions runId db

namespace Decision

variable {db' : Db} {x : DecisionInput}

section

omit [Platform]

lemma Advance.same (hs : Undisputed db) (h : SameDecisions db db') (hd : d'.Local db) :
    Advance db d (d', db') :=
  ⟨h.undisputed hs, hd.of_decisions h.decisions, fun runId _ => h.decisions runId⟩

lemma local_of_pending_eq_nil (hnil : d.pending = [])
    (hd : ∀ approved sessionId, d ≠ queueing approved sessionId) : d.Local db := by
  refine ⟨fun runId hrun => ?_, by rw [hnil]; exact List.nodup_nil,
    fun approved sessionId heq => absurd heq (hd approved sessionId)⟩
  rw [hnil] at hrun
  cases hrun

lemma Advance.over (hs : Undisputed db) (h : SameDecisions db db') : Advance db d (ended, db') :=
  .same hs h (local_of_pending_eq_nil rfl fun _ _ => by simp)

end

lemma Advance.record (hs : Undisputed db) (hd : d.Local db) (hrun : runId ∈ d.pending)
    (hkind : kind ∈ decisionKinds)
    (h : db.append stamp kind (some runId) sessionId correlationId payload = .ok db')
    (hrest : ∀ r ∈ d'.pending, r ∈ d.pending ∧ r ≠ runId) (honce : d'.pending.Nodup)
    (hqueueing : ∀ approved s, d' = queueing approved s → kind = .approvalGranted ∧ approved.intent.runId = runId) :
    Advance db d (d', db') := by
  obtain ⟨row, hname, hself⟩ := runFacts_append_self h hkind
  have hself' : decisions runId db' = [row] := by
    have hnil : runFacts decisionKinds runId db = [] := hd.undecided runId hrun
    rw [decisions, hself, hnil, List.nil_append]
  have hother : ∀ r, r ≠ runId → decisions r db' = decisions r db :=
    fun r hr => runFacts_append_other h fun heq => hr (Option.some.inj heq.1).symm
  have hasked : kind ∉ ([.approvalRequested] : List JournalEventKind) := by
    intro hmem
    rw [List.mem_singleton.mp hmem] at hkind
    exact absurd hkind (by decide)
  refine ⟨⟨fun r => ?_, fun r => ?_⟩, ⟨fun r hr => ?_, honce, fun approved s heq => ?_⟩,
    fun r hr => hother r ?_⟩
  · by_cases hr : r = runId
    · rw [hr, hself']
      exact le_rfl
    · rw [hother r hr]
      exact hs.decided r
  · rw [runFacts_append_other h fun hx => hasked hx.2]
    exact hs.asked r
  · obtain ⟨hmem, hne⟩ := hrest r hr
    rw [hother r hne]
    exact hd.undecided r hmem
  · obtain ⟨hgranted, hid⟩ := hqueueing approved s heq
    exact ⟨row, by rw [hname, hgranted], by rw [hid, hself']⟩
  · rintro rfl
    exact hr hrun

lemma pending_loadRequest (runId : RunId) (db : Db) :
    (loadRequest runId db).pending ⊆ [runId] ∧ (loadRequest runId db).pending.Nodup ∧
      ∀ approved sessionId, loadRequest runId db ≠ queueing approved sessionId := by
  unfold loadRequest
  split
  · simp [pending]
  split
  · next approved happroved =>
    have hid := runId_of_approvedOfRequest happroved
    simp [pending, hid]
  · simp [pending]

lemma grant_advance (hs : Undisputed db) (hd : (granting approved sessionId).Local db) :
    Advance db (granting approved sessionId) (grant x approved sessionId db) := by
  unfold grant
  split
  · next db' happ =>
    refine .record hs hd (List.mem_singleton_self _) (by decide) happ
      (fun r hr => by cases hr) List.nodup_nil fun approved' s heq => ?_
    obtain ⟨rfl, -⟩ := queueing.inj heq
    exact ⟨rfl, rfl⟩
  · exact .over hs (.refl db)

lemma refuse_advance {operation : String} (hs : Undisputed db)
    (hd : (refusing runId operation sessionId).Local db) :
    Advance db (refusing runId operation sessionId) (refuse x runId operation sessionId db) := by
  unfold refuse
  split
  · next db' happ =>
    exact .record hs hd (List.mem_singleton_self _) (by decide) happ
      (fun r hr => by cases hr) List.nodup_nil fun _ _ heq => by cases heq
  · exact .over hs (.refl db)

lemma expire_advance {ttlSecs : Nat} {stale : List StaleApproval} (hs : Undisputed db)
    (hd : (expiring ttlSecs now stale).Local db) :
    Advance db (expiring ttlSecs now stale) (expire x ttlSecs now stale db) := by
  cases stale with
  | nil => exact Advance.over hs (SameDecisions.refl db)
  | cons approval rest =>
    have honce : approval.runId ∉ rest.map StaleApproval.runId ∧
        (rest.map StaleApproval.runId).Nodup := List.nodup_cons.mp hd.once
    simp only [expire]
    split
    · next db' happ =>
      refine .record hs hd List.mem_cons_self (by decide) happ (fun r hr => ?_) honce.2
        fun _ _ heq => by cases heq
      refine ⟨List.mem_cons_of_mem _ hr, ?_⟩
      rintro rfl
      exact honce.1 hr
    · exact .over hs (.refl db)

lemma queue_advance (hs : Undisputed db) : Advance db d (queue x approved sessionId db) := by
  unfold queue
  split
  · next dispatchId db' hqueue =>
    exact .same hs (.queue hqueue)
      (local_of_pending_eq_nil rfl fun _ _ => by simp)
  · exact .over hs (.refl db)

lemma next_advance (hs : Undisputed db) (hd : d.Local db)
    (hundecided : ∀ r ∈ (d.next x db).1.pending, r ∈ d.pending ∨ decisions r db = []) :
    Advance db d (d.next x db) := by
  have hpending : ∀ r ∈ (d.next x db).1.pending, decisions r db = [] :=
    fun r hr => (hundecided r hr).elim (hd.undecided r) id
  have hstatus : ∀ runId status now, SameDecisions db (setRunStatus runId status now db) :=
    fun _ _ _ => .of_journal rfl
  have hsame := SameDecisions.refl db
  cases d with
  | approve runId | deny runId =>
    refine .same hs hsame ⟨hpending, ?_, fun _ _ heq => ?_⟩
    · split <;> simp [pending]
    · split at heq <;> cases heq
  | approving runId =>
    obtain ⟨-, honce, hne⟩ := pending_loadRequest runId db
    exact .same hs hsame
      ⟨hpending, honce, fun approved sessionId heq => absurd heq (hne approved sessionId)⟩
  | granting approved sessionId => exact grant_advance hs hd
  | queueing approved sessionId => exact queue_advance hs
  | resuming runId | failing runId => exact .over hs (hstatus _ _ _)
  | denying runId =>
    exact .same hs hsame ⟨hpending, List.nodup_singleton runId, fun _ _ heq => by cases heq⟩
  | refusing runId operation sessionId => exact refuse_advance hs hd
  | sweep ttlSecs =>
    refine .same hs hsame ⟨hpending, ?_, fun _ _ heq => ?_⟩
    · split
      · exact List.nodup_nil
      · exact nodup_stale hs.asked
    · split at heq <;> cases heq
  | expiring ttlSecs now stale => exact expire_advance hs hd
  | expired ttlSecs now runId rest =>
    exact .same hs (hstatus _ _ _) ⟨hd.undecided, hd.once, fun _ _ heq => by cases heq⟩
  | ended => exact .over hs hsame

lemma act_advance (hs : Undisputed db) (hd : d.Local db)
    (hundecided : ∀ r ∈ (d.act x db).1.pending, r ∈ d.pending ∨ decisions r db = []) :
    Advance db d (d.act x db) := by
  unfold act at hundecided ⊢
  split
  · exact .over hs (.refl db)
  · next hrefused =>
    rw [if_neg hrefused] at hundecided
    exact next_advance hs hd hundecided

omit [Platform] in
lemma Local.of_advance {u : Decision} (hu : u.Local db)
    (hd : d.Local db) (h : Advance db d after) (hdisjoint : ∀ r ∈ u.pending, r ∉ d.pending) :
    u.Local after.2 := by
  refine ⟨fun r hr => ?_, hu.once, fun approved sessionId heq => ?_⟩
  · rw [h.frame r (hdisjoint r hr)]
    exact hu.undecided r hr
  · obtain ⟨row, hkind, hrow⟩ := hu.granted approved sessionId heq
    refine ⟨row, hkind, ?_⟩
    rw [h.frame, hrow]
    intro hmem
    rw [hd.undecided _ hmem] at hrow
    cases hrow

end Decision

end Step

/-! ## Whole runs -/

section Runs

variable [Platform]

abbrev DecisionPool := Pool Db Decision

variable {p : DecisionPool}

abbrev DecisionAct := Pool.Act DecisionInput DecisionCall Beside

variable {as : List DecisionAct}

def Free (p : DecisionPool) (i : Nat) (runId : RunId) : Prop :=
  decisions runId p.shared = [] ∧
    ∀ j < p.threads.length, j ≠ i → ∀ u ∈ p.threads[j]?, runId ∉ u.pending

instance (p : DecisionPool) (i : Nat) (runId : RunId) : Decidable (Free p i runId) :=
  inferInstanceAs (Decidable (_ ∧ _))

def Unrivalled (p : DecisionPool) : DecisionAct → Prop
  | .advance i x => ∀ d ∈ p.threads[i]?, ∀ runId ∈ (d.act x p.shared).1.pending,
      runId ∈ d.pending ∨ Free p i runId
  | _ => True

instance (p : DecisionPool) : DecidablePred (Unrivalled p)
  | .advance i x => inferInstanceAs (Decidable (∀ d ∈ p.threads[i]?,
      ∀ runId ∈ (d.act x p.shared).1.pending, runId ∈ d.pending ∨ Free p i runId))
  | .spawn _ => isTrue trivial
  | .crash => isTrue trivial
  | .other _ => isTrue trivial

def Apart (d u : Decision) : Prop := ∀ runId ∈ d.pending, runId ∉ u.pending

abbrev Decided (p : DecisionPool) : Prop := p.Holds Undisputed Decision.Local Apart

lemma Undisputed.beside {o : Beside} (hs : Undisputed db) :
    Undisputed (o.apply db) ∧ ∀ runId, decisions runId (o.apply db) = decisions runId db := by
  have hkeep : ∀ {db'}, SameDecisions db db' →
      Undisputed db' ∧ ∀ runId, decisions runId db' = decisions runId db :=
    fun h => ⟨h.undisputed hs, h.decisions⟩
  cases o with
  | status runId value now => exact hkeep (.of_journal rfl)
  | record kind stamp runId sessionId correlationId payload =>
    simp only [Beside.apply]
    split
    · exact hkeep (.refl db)
    next hrefused =>
    split
    · next db' happ =>
      simp only [Beside.refused, Bool.or_eq_true, decide_eq_true_eq, Bool.and_eq_true,
        not_or, not_and] at hrefused
      obtain ⟨hkind, hfirst⟩ := hrefused
      by_cases hasked : kind = .approvalRequested
      · -- the run had not asked before
        have hdecisions : ∀ r, decisions r db' = decisions r db :=
          fun r => runFacts_append_other happ fun hx => hkind hx.2
        refine ⟨⟨fun r => ?_, fun r => ?_⟩, hdecisions⟩
        · rw [hdecisions]
          exact hs.decided r
        · by_cases hr : runId = some r
          · subst hr
            have hnil : runFacts [.approvalRequested] r db = [] := by simpa using hfirst hasked
            have hmem : kind ∈ [.approvalRequested] := by simp [hasked]
            obtain ⟨row, -, hself⟩ := runFacts_append_self happ hmem
            rw [hself, hnil]
            exact le_rfl
          · rw [runFacts_append_other happ fun hx => hr hx.1]
            exact hs.asked r
      · exact hkeep (.append happ hkind hasked)
    · exact hkeep (.refl db)

lemma Decided.step (h : Decided p) (ha : Unrivalled p a) : Decided (p.step decisionMachine a) := by
  cases a with
  | spawn call =>
    have hnil : call.start.pending = [] := by cases call <;> rfl
    refine Pool.Holds.spawn h (Decision.local_of_pending_eq_nil hnil fun _ _ => ?_)
      fun u _ => ⟨fun r hr => ?_, fun r _ hr => ?_⟩
    · cases call <;> simp [decisionMachine, DecisionCall.start]
    · exact absurd (hnil ▸ hr) List.not_mem_nil
    · exact absurd (hnil ▸ hr) List.not_mem_nil
  | advance i x =>
    cases hthread : p.threads[i]? with
    | none => rwa [step_advance_none hthread]
    | some d =>
      rw [step_advance hthread]
      have hd := h.each d (List.mem_of_getElem? hthread)
      have htaken := ha d hthread
      have hadv : Decision.Advance p.shared d (d.act x p.shared) :=
        Decision.act_advance h.shared hd fun r hr => (htaken r hr).imp_right And.left
      refine Pool.Holds.set h hadv.undisputed hadv.here fun j u hj hu => ?_
      have hapart : Apart (d.act x p.shared).1 u := by
        intro r hr
        rcases htaken r hr with hold | hfree
        · exact h.pairs i j d u hj.symm hthread hu r hold
        · exact hfree.2 j (List.getElem?_eq_some_iff.mp hu).1 hj u hu
      exact ⟨(h.each u (List.mem_of_getElem? hu)).of_advance hd hadv
        (h.pairs j i u d hj hu hthread), hapart, fun r hr hr' => hapart r hr' hr⟩
  | crash =>
    refine Pool.Holds.crash h (fun d _ => Decision.local_of_pending_eq_nil rfl fun _ _ => ?_)
      fun d u _ r hr => ?_
    · simp [decisionMachine]
    · cases hr
  | other o =>
    obtain ⟨hs, hdecisions⟩ := h.shared.beside
    exact Pool.Holds.other h hs fun d hd => (h.each d hd).of_decisions hdecisions

lemma decided_run (hdb : Undisputed db) (h : Along (step decisionMachine) Unrivalled ⟨db, []⟩ as) :
    Decided (run (step decisionMachine) ⟨db, []⟩ as) :=
  h.invariant (fun _ _ hp ha => hp.step ha) (holds_init hdb)

lemma Decided.keeps (h : Decided p) (ha : Unrivalled p a) (hne : decisions runId p.shared ≠ []) :
    decisions runId (p.step decisionMachine a).shared = decisions runId p.shared := by
  cases a with
  | advance i x =>
    cases hthread : p.threads[i]? with
    | none => rw [step_advance_none hthread]
    | some d =>
      rw [step_advance hthread]
      have hd := h.each d (List.mem_of_getElem? hthread)
      have hadv : Decision.Advance p.shared d (d.act x p.shared) :=
        Decision.act_advance h.shared hd fun r hr => (ha d hthread r hr).imp_right And.left
      exact hadv.frame runId fun hmem => hne (hd.undecided runId hmem)
  | other o => exact h.shared.beside.2 runId
  | _ => rfl

lemma Decision.outbox_act {x : DecisionInput} (h : row ∈ (d.act x db).2.outbox) :
    row ∈ db.outbox ∨ ∃ sessionId approved, d = queueing approved sessionId ∧
      row.runId = approved.intent.runId := by
  unfold act at h
  split at h
  · exact .inl h
  cases d with
  | granting approved sessionId =>
    left
    simp only [next, grant] at h
    split at h
    · next happ =>
      obtain ⟨journal, rfl, -⟩ := Db.append_eq_ok happ
      exact h
    · exact h
  | refusing runId operation sessionId =>
    left
    simp only [next, refuse] at h
    split at h
    · next happ =>
      obtain ⟨journal, rfl, -⟩ := Db.append_eq_ok happ
      exact h
    · exact h
  | expiring ttlSecs now stale =>
    left
    cases stale with
    | nil => exact h
    | cons approval rest =>
      simp only [next, expire] at h
      split at h
      · next happ =>
        obtain ⟨journal, rfl, -⟩ := Db.append_eq_ok happ
        exact h
      · exact h
  | queueing approved sessionId =>
    simp only [next, queue] at h
    split at h
    · next dispatchId db' hqueue =>
      rcases mem_of_mem_queueOutboxDispatch hqueue h with hold | rfl
      · exact .inl hold
      · exact .inr ⟨sessionId, approved, rfl, rfl⟩
    · exact .inl h
  | _ => exact .inl h

def Granted (runId : RunId) (db : Db) : Prop :=
  ∃ g : JournalRow, g.kind = JournalEventKind.approvalGranted.storageName ∧
    decisions runId db = [g]

lemma Decided.queued_step (h : Decided p) (hrow : row ∈ (p.step decisionMachine a).shared.outbox) :
    row ∈ p.shared.outbox ∨ Granted row.runId p.shared := by
  cases a with
  | advance i x =>
    cases hthread : p.threads[i]? with
    | none =>
      rw [Pool.step_advance_none hthread] at hrow
      exact .inl hrow
    | some d =>
      rw [Pool.step_advance hthread] at hrow
      rcases Decision.outbox_act hrow with hold | ⟨sessionId, approved, hd, hid⟩
      · exact .inl hold
      · rw [hid]
        exact .inr ((h.each d (List.mem_of_getElem? hthread)).granted approved sessionId hd)
  | other o =>
    left
    cases o with
    | status runId value now => exact hrow
    | record kind stamp runId sessionId correlationId payload =>
      simp only [Pool.step, decisionMachine, Beside.apply] at hrow
      split at hrow
      · exact hrow
      split at hrow
      · next happ =>
        obtain ⟨journal, hdb, -⟩ := Db.append_eq_ok happ
        rw [hdb] at hrow
        exact hrow
      · exact hrow
  | _ => exact .inl hrow

lemma queued_run (hdb : Undisputed db) (h : Along (step decisionMachine) Unrivalled ⟨db, []⟩ as)
    (hrow : row ∈ (run (step decisionMachine) ⟨db, []⟩ as).shared.outbox) (hnew : row ∉ db.outbox) :
    Granted row.runId (run (step decisionMachine) ⟨db, []⟩ as).shared := by
  have hinv : ∀ p a, (Decided p ∧ ∀ row ∈ p.shared.outbox, row ∈ db.outbox ∨
      Granted row.runId p.shared) → Unrivalled p a →
      Decided (p.step decisionMachine a) ∧ ∀ row ∈ (p.step decisionMachine a).shared.outbox,
        row ∈ db.outbox ∨ Granted row.runId (p.step decisionMachine a).shared := by
    intro p a ⟨hp, hqueued⟩ ha
    refine ⟨hp.step ha, fun row hrow => ?_⟩
    have hgranted : row ∈ db.outbox ∨ Granted row.runId p.shared :=
      (hp.queued_step hrow).elim (hqueued row) .inr
    refine hgranted.imp_right fun ⟨g, hkind, hg⟩ => ⟨g, hkind, ?_⟩
    rw [hp.keeps ha (by rw [hg]; exact List.cons_ne_nil g []), hg]
  exact ((h.invariant hinv ⟨holds_init hdb, fun row hrow => .inl hrow⟩).2 row
    hrow).resolve_left hnew

structure ExclusiveDecisions (before db : Db) : Prop where
  oneSided : ∀ runId, runFacts [.approvalGranted] runId db = [] ∨
    runFacts [.approvalDenied, .approvalExpired] runId db = []
  atMostOne : ∀ runId, (decisions runId db).length ≤ 1
  queued : ∀ row ∈ db.outbox, row ∉ before.outbox →
    runFacts [.approvalDenied, .approvalExpired] row.runId db = []

omit [Platform] in
lemma Granted.not_refused (h : Granted runId db) :
    runFacts [.approvalDenied, .approvalExpired] runId db = [] := by
  obtain ⟨g, hkind, hg⟩ := h
  refine List.eq_nil_iff_forall_not_mem.mpr fun r hr => ?_
  have hmem : r ∈ decisions runId db := runFacts_mono (by decide) runId db hr
  have hrg : r = g := by simpa [hg] using hmem
  obtain ⟨-, -, hr⟩ := mem_runFacts.mp hr
  rw [hrg, hkind] at hr
  exact absurd hr (by decide)

omit [Platform] in
lemma Undisputed.granted_of_mem {g : JournalRow} (h : Undisputed db)
    (hg : g ∈ runFacts [.approvalGranted] runId db) : Granted runId db := by
  have hmem : g ∈ decisions runId db := runFacts_mono (by decide) runId db hg
  obtain ⟨-, -, hkind⟩ := mem_runFacts.mp hg
  refine ⟨g, by simpa using hkind, ?_⟩
  have hone : (decisions runId db).length = 1 :=
    le_antisymm (h.decided runId) (List.length_pos_of_mem hmem)
  obtain ⟨g', hg'⟩ := List.length_eq_one_iff.mp hone
  rw [hg'] at hmem ⊢
  rw [List.mem_singleton.mp hmem]

theorem decisions_exclusive_of_unrivalled {db : Db} (hdb : Undisputed db) {as : List DecisionAct}
    (h : Along (step decisionMachine) Unrivalled ⟨db, []⟩ as) :
    ExclusiveDecisions db (run (step decisionMachine) ⟨db, []⟩ as).shared := by
  have hs : Undisputed (run (step decisionMachine) ⟨db, []⟩ as).shared :=
    (decided_run hdb h).shared
  refine ⟨fun runId => ?_, hs.decided, fun row hrow hnew => (queued_run hdb h hrow hnew).not_refused⟩
  by_cases hnil : runFacts [.approvalGranted] runId
      (run (step decisionMachine) ⟨db, []⟩ as).shared = []
  · exact .inl hnil
  · obtain ⟨g, hg⟩ := List.exists_mem_of_ne_nil _ hnil
    exact .inr (hs.granted_of_mem hg).not_refused

/-! ## A paused run -/

def pausedRun : Run where
  id := "run"
  sessionId := "session"
  agentId := "main"
  triggerEventId := "event"
  principal := ⟨"cli:local", .localUser, .cli, [], none⟩
  parentRunId := none
  delegatedBy := none
  status := .awaitingApproval
  createdAt := 0
  updatedAt := 0
  registrySnapshotId := "snapshot"

def pausedDb : Db :=
  let payload := .mkObj [("operation", .str "stdout.send_text"),
    ("invocation_id", .str "reply:run")]
  match insertRun pausedRun {} >>= fun db => db.append ⟨"event_0", 0⟩ .approvalRequested
      (some "run") (some "session") (some "reply:run") payload with
  | .ok db => db
  | .error _ => {}

def advances (i n k : Nat) : List DecisionAct :=
  (List.range k).map fun m => .advance i (decisionInput (n + m))

/-- A denial goes through between an approval's check and its record. -/
def racedDecision : List DecisionAct :=
  [.spawn (.approveRun "run"), .spawn (.denyRun "run")] ++ advances 0 1 1 ++ advances 1 2 4 ++
    advances 0 6 4

/-- A crash comes right after an approval's record, and the run is denied after it. -/
def crashedDecision : List DecisionAct :=
  [.spawn (.approveRun "run")] ++ advances 0 1 3 ++ [.crash, .spawn (.denyRun "run")] ++
    advances 1 4 4

def approvedDecision : List DecisionAct :=
  [.spawn (.approveRun "run")] ++ advances 0 1 5 ++ [.spawn (.denyRun "run")] ++ advances 1 6 2

omit [Platform] in
lemma ExclusiveDecisions.not_both {before : Db} (h : ExclusiveDecisions before db)
    (hgranted : runFacts [.approvalGranted] runId db ≠ []) :
    runFacts [.approvalDenied, .approvalExpired] runId db = [] :=
  (h.oneSided runId).resolve_left hgranted

end Runs

lemma undisputed_pausedDb :
    letI := samplePlatform
    Undisputed pausedDb := by
  let _ := samplePlatform
  have hone : pausedDb.journal.rows.length = 1 := by decide +kernel
  refine ⟨fun runId => ?_, fun runId => ?_⟩
  · exact (List.length_filter_le _ _).trans hone.le
  · exact (List.length_filter_le _ _).trans hone.le

lemma facts_racedDecision :
    letI := samplePlatform
    runFacts [.approvalGranted] "run"
        (run (step decisionMachine) ⟨pausedDb, []⟩ racedDecision).shared ≠ [] ∧
      runFacts [.approvalDenied, .approvalExpired] "run"
        (run (step decisionMachine) ⟨pausedDb, []⟩ racedDecision).shared ≠ [] ∧
      (run (step decisionMachine) ⟨pausedDb, []⟩ racedDecision).shared.outbox.rows.map
        OutboxRow.runId = ["run"] := by
  decide +kernel

lemma facts_crashedDecision :
    letI := samplePlatform
    runFacts [.approvalGranted] "run"
        (run (step decisionMachine) ⟨pausedDb, []⟩ crashedDecision).shared ≠ [] ∧
      runFacts [.approvalDenied, .approvalExpired] "run"
        (run (step decisionMachine) ⟨pausedDb, []⟩ crashedDecision).shared ≠ [] := by
  decide +kernel

theorem decisions_both_racedDecision :
    letI := samplePlatform
    Undisputed pausedDb ∧
      ¬ExclusiveDecisions pausedDb
        (run (step decisionMachine) ⟨pausedDb, []⟩ racedDecision).shared ∧
      (run (step decisionMachine) ⟨pausedDb, []⟩ racedDecision).shared.outbox.rows.map
        OutboxRow.runId = ["run"] ∧
      ¬ExclusiveDecisions pausedDb
        (run (step decisionMachine) ⟨pausedDb, []⟩ crashedDecision).shared := by
  obtain ⟨hgranted, hdenied, hqueued⟩ := facts_racedDecision
  obtain ⟨hgranted', hdenied'⟩ := facts_crashedDecision
  exact ⟨undisputed_pausedDb, fun h => hdenied (h.not_both hgranted), hqueued,
    fun h => hdenied' (h.not_both hgranted')⟩

lemma unrivalled_approvedDecision :
    letI := samplePlatform
    Along (step decisionMachine) Unrivalled ⟨pausedDb, []⟩ approvedDecision := by
  decide +kernel

theorem decisions_exclusive_approvedDecision :
    letI := samplePlatform
    Undisputed pausedDb ∧
      Along (step decisionMachine) Unrivalled ⟨pausedDb, []⟩ approvedDecision ∧
      ExclusiveDecisions pausedDb
        (run (step decisionMachine) ⟨pausedDb, []⟩ approvedDecision).shared := by
  exact ⟨undisputed_pausedDb, unrivalled_approvedDecision,
    @decisions_exclusive_of_unrivalled samplePlatform _ undisputed_pausedDb _
      unrivalled_approvedDecision⟩

end AgentCore.Gateway
