import AgentCore.Foundation.Run
import AgentCore.Journal.IngressSpec
import AgentCore.Gateway.RoundTrip

/-! The ingress path of a server over crashes and restarts. The accept loop validates one
envelope at a time; a validation commits its reservation and then the acceptance with its
worker job. -/

namespace AgentCore.Server.IngressLog

open Foundation Domain Journal Gateway List

section Recovery

variable [Platform]

def enqueueAll (now : Nat → Timestamp) (stamps : Nat → Stamp) :
    List EventId → Db → Except String Nat × Db
  | [], db => (.ok 0, db)
  | eventId :: rest, db =>
    match enqueueWorkerJob eventId (now rest.length) (stamps rest.length) db with
    | .error e => (.error e, db)
    | .ok (_, db) =>
      let (recovered, db) := enqueueAll now stamps rest db
      (recovered.map (· + 1), db)

def undeliveredIds (db : Db) : List EventId :=
  (undeliveredIngressEvents db).filterMap ingressEventId

def recoverUndeliveredIngress (now : Nat → Timestamp) (stamps : Nat → Stamp) (db : Db) :
    Except String Nat × Db :=
  enqueueAll now stamps (undeliveredIds db) db

lemma keepsIngress_enqueueAll (now : Nat → Timestamp) (stamps : Nat → Stamp)
    (ids : List EventId) (db : Db) : KeepsIngress db (enqueueAll now stamps ids db).2 := by
  induction ids generalizing db with
  | nil => exact .refl db
  | cons eventId rest ih =>
    rw [enqueueAll]
    split
    · exact .refl db
    · next jobId db1 henqueue =>
      obtain ⟨db2, hjob, h⟩ := bind_eq_ok.mp henqueue
      obtain ⟨-, rfl⟩ := Prod.mk.inj (return_eq_ok.mp h)
      exact (keepsIngress_insertDeliverJob hjob).1.trans (ih db2)

end Recovery

/-! ## The server -/

variable {now : Timestamp} {admission : Admission} {eventId : EventId} {stamps : Nat → Stamp}
  {db : Db}

structure Reservation where
  admission : Admission
  eventId : EventId

structure AcceptLoop where
  db : Db := {}
  pending : Option Reservation := none

variable {s : AcceptLoop}

inductive Label
  /-- A validation begins: the checks and the reservation. -/
  | ingress (envelope : IngressEnvelope) (uuid : Uuid) (now : Timestamp)
  /-- The validation makes its second commit. -/
  | accept (now : Timestamp) (stamps : Nat → Stamp)
  /-- The process dies, or the store refuses the next call of the validation. -/
  | cut
  /-- Startup recovery, ended after `upTo` events if it does not get through. -/
  | recover (now : Nat → Timestamp) (stamps : Nat → Stamp) (upTo : Nat)
  /-- The worker loop and what deliveries journal. -/
  | lease (now : Timestamp) (stamp : Stamp)
  | succeed (sourceEventId : EventId) (now : Timestamp) (stamp : Stamp)
  | fail (sourceEventId : EventId) (category : String) (now : Timestamp) (stamp : Stamp)
  | record (kind : { k : JournalEventKind // k ≠ .ingressAccepted }) (stamp : Stamp)
      (runId : Option RunId) (sessionId : Option SessionId) (correlationId : Option String)
      (payload : Json)

section Machine

variable [Platform] (config : KernelConfig)

def AcceptLoop.begin (s : AcceptLoop) (envelope : IngressEnvelope) (uuid : Uuid) (now : Timestamp) :
    AcceptLoop :=
  match s.pending, checkIngress config envelope with
  | none, .ok admission =>
    match reserveIngress admission.source admission.dedupeId (newEventId uuid) now s.db with
    | (true, db) => ⟨db, some ⟨admission, newEventId uuid⟩⟩
    | (false, db) => ⟨db, none⟩
  | _, _ => s

def AcceptLoop.finish (s : AcceptLoop) (now : Timestamp) (stamps : Nat → Stamp) : AcceptLoop :=
  match s.pending with
  | some p => ⟨(acceptAdmission p.admission p.eventId now stamps s.db).2, none⟩
  | none => s

def AcceptLoop.step (s : AcceptLoop) : Label → AcceptLoop
  | .ingress envelope uuid now => s.begin config envelope uuid now
  | .accept now stamps => s.finish now stamps
  | .cut => { s with pending := none }
  | .recover now stamps upTo =>
    { s with db := (enqueueAll now stamps ((undeliveredIds s.db).take upTo) s.db).2 }
  | .lease now stamp =>
    { s with db := commit s.db ((leaseNextWorkerJob now stamp s.db).map Prod.snd) }
  | .succeed sourceEventId now stamp =>
    { s with db := commit s.db (succeedWorkerJob sourceEventId now stamp s.db) }
  | .fail sourceEventId category now stamp =>
    { s with db := commit s.db (failWorkerJob sourceEventId category now stamp s.db) }
  | .record kind stamp runId sessionId correlationId payload =>
    { s with db := commit s.db (s.db.append stamp kind runId sessionId correlationId payload) }

def FreshId (s : AcceptLoop) : Label → Prop
  | .ingress _ uuid _ => ∀ row ∈ s.db.ingressDedup, row.eventId ≠ newEventId uuid
  | _ => True

/-- No validation ends between its two commits. -/
def Uncut (s : AcceptLoop) : Label → Prop
  | .accept now stamps =>
    ∀ p ∈ s.pending, ∃ event, (acceptAdmission p.admission p.eventId now stamps s.db).1 = .ok event
  | .cut => s.pending = none
  | _ => True

/-! ## What holds between two labels -/

structure Kept (s : AcceptLoop) : Prop where
  rows : ∀ row ∈ s.db.ingressDedup, (∀ p ∈ s.pending, p.eventId ≠ row.eventId) →
    (acceptances s.db row.eventId).length = 1 ∧ hasJob s.db row.eventId = true
  pending : ∀ p ∈ s.pending, acceptances s.db p.eventId = [] ∧
    (∃ row ∈ s.db.ingressDedup, row.eventId = p.eventId) ∧
    ∃ envelope, checkIngress config envelope = .ok p.admission
  reserved : ∀ eventId, acceptances s.db eventId ≠ [] →
    ∃ row ∈ s.db.ingressDedup, row.eventId = eventId

variable {config} {envelope : IngressEnvelope}

lemma Kept.of_keepsIngress (h : Kept config s) (hkeeps : KeepsIngress s.db db') :
    Kept config { s with db := db' } := by
  constructor
  · intro row hrow hpending
    rw [hkeeps.dedup] at hrow
    obtain ⟨hone, hjob⟩ := h.rows row hrow hpending
    exact ⟨by rw [hkeeps.accepted, hone], hkeeps.jobs _ hjob⟩
  · intro p hp
    rw [hkeeps.accepted, hkeeps.dedup]
    exact h.pending p hp
  · intro eventId hne
    rw [hkeeps.accepted] at hne
    rw [hkeeps.dedup]
    exact h.reserved eventId hne

lemma Kept.of_commit {x : Except String Db} (h : Kept config s)
    (hkeeps : ∀ db', x = .ok db' → KeepsIngress s.db db') :
    Kept config { s with db := commit s.db x } := by
  cases x with
  | error e => exact h
  | ok db' => exact h.of_keepsIngress (hkeeps db' rfl)

lemma Kept.begin (h : Kept config s)
    (hfresh : ∀ row ∈ s.db.ingressDedup, row.eventId ≠ newEventId uuid) :
    Kept config (s.begin config envelope uuid now) := by
  unfold AcceptLoop.begin
  split
  · next admission hnone hingress =>
    split
    · next db' hreserve =>
      obtain ⟨-, rows, rfl, hrows⟩ := reserveIngress_fresh hreserve
      have hmem : ∀ row, row ∈ rows ↔ row ∈ s.db.ingressDedup ∨
          row = ⟨admission.source, admission.dedupeId, newEventId uuid, now⟩ := by
        intro row
        rw [Table.mem_rows, Table.mem_rows, hrows, mem_append, mem_singleton]
      constructor
      · intro row hrow hpending
        rcases (hmem row).mp hrow with hold | rfl
        · exact h.rows row hold (by simp [hnone])
        · exact absurd rfl (hpending _ rfl)
      · intro p hp
        cases hp
        refine ⟨?_, ⟨_, (hmem _).mpr (.inr rfl), rfl⟩, envelope, hingress⟩
        by_contra hne
        obtain ⟨row, hrow, heq⟩ := h.reserved _ hne
        exact hfresh row hrow heq
      · intro eventId hne
        obtain ⟨row, hrow, heq⟩ := h.reserved eventId hne
        exact ⟨row, (hmem row).mpr (.inl hrow), heq⟩
    · next db' hreserve =>
      obtain ⟨rfl, -⟩ := reserveIngress_refused hreserve
      exact hnone ▸ h
  · exact h

lemma acceptAdmission_ok (h : (acceptAdmission admission eventId now stamps db).1 = .ok event) :
    ∃ jobId, acceptIngressWithWorkerJob (admission.event eventId) (admission.payload eventId) now
      stamps db = .ok (jobId, (acceptAdmission admission eventId now stamps db).2) := by
  unfold acceptAdmission at h ⊢
  split at h
  · next jobId db' haccept => exact ⟨jobId, by rw [haccept]⟩
  · cases h

lemma acceptAdmission_error
    (h : ¬∃ event, (acceptAdmission admission eventId now stamps db).1 = .ok event) :
    (acceptAdmission admission eventId now stamps db).2 = db := by
  unfold acceptAdmission at h ⊢
  split at h
  · exact absurd ⟨_, rfl⟩ h
  · rfl

lemma acceptances_accept (hingress : checkIngress config envelope = .ok admission)
    (h : acceptIngressWithWorkerJob (admission.event eventId) (admission.payload eventId) now stamps db = .ok (jobId, db')) :
    db'.ingressDedup = db.ingressDedup ∧ hasJob db' eventId = true ∧
      (∀ other, hasJob db other = true → hasJob db' other = true) ∧
      ∀ other, (acceptances db' other).length =
        (acceptances db other).length + if other = eventId then 1 else 0 := by
  obtain ⟨db1, happ, h⟩ := bind_eq_ok.mp h
  obtain ⟨db2, hjob, ⟨⟩⟩ := bind_eq_ok.mp h
  obtain ⟨journal, rfl, hrows, -⟩ := Db.append_eq_ok happ
  obtain ⟨hkeeps, hhas⟩ := keepsIngress_insertDeliverJob hjob
  generalize hr : newRow _ _ _ _ _ _ _ = r at hrows
  have hkind : r.kind = JournalEventKind.ingressAccepted.storageName := by rw [← hr]; rfl
  have hstores : Stores r (admission.event eventId) (admission.payload eventId) := by
    rw [← hr]
    exact ⟨rfl, rfl⟩
  obtain ⟨hid, hread⟩ := eventId_of_stores hingress hstores
  rw [hid] at hhas
  refine ⟨hkeeps.dedup, hhas, fun other hother => hkeeps.jobs other hother, fun other => ?_⟩
  have hrow : isAcceptance other r = decide (other = eventId) := by
    rw [isAcceptance, kind_rowToEvent hkind, hread]
    simp [eq_comm]
  rw [hkeeps.accepted]
  simp only [acceptances, hrows, filter_append, length_append, filter_cons, hrow,
    filter_nil]
  by_cases heq : other = eventId <;> simp [heq]

lemma Kept.finish (h : Kept config s) (huncut : Uncut s (.accept now stamps)) :
    Kept config (s.finish now stamps) := by
  unfold AcceptLoop.finish
  split
  · next p hp =>
    obtain ⟨event, hevent⟩ := huncut p hp
    obtain ⟨hnil, ⟨row, hrow, hrowId⟩, envelope, hingress⟩ := h.pending p hp
    obtain ⟨jobId, haccept⟩ := acceptAdmission_ok hevent
    obtain ⟨hdedup, hjob, hjobs, hcount⟩ := acceptances_accept hingress haccept
    constructor
    · intro row' hrow' _
      rw [hdedup] at hrow'
      rw [hcount]
      by_cases heq : row'.eventId = p.eventId
      · rw [heq, hnil]
        exact ⟨by simp, hjob⟩
      · have hother : ∀ q ∈ s.pending, q.eventId ≠ row'.eventId := by
          intro q hq
          cases hp.symm.trans hq
          exact fun h => heq h.symm
        obtain ⟨hone, hjob'⟩ := h.rows row' hrow' hother
        exact ⟨by rw [hone, if_neg heq], hjobs _ hjob'⟩
    · intro q hq
      cases hq
    · intro eventId hne
      rw [hdedup]
      by_cases heq : eventId = p.eventId
      · exact ⟨row, hrow, hrowId.trans heq.symm⟩
      · refine h.reserved eventId fun hempty => hne ?_
        have hlen := hcount eventId
        rw [hempty, if_neg heq] at hlen
        exact length_eq_zero_iff.mp hlen
  · exact h

lemma Kept.step (h : Kept config s) (hfresh : FreshId s l) (huncut : Uncut s l) :
    Kept config (s.step config l) := by
  cases l with
  | ingress envelope uuid now => exact h.begin hfresh
  | accept now stamps => exact h.finish huncut
  | cut =>
    have hnone : s.pending = none := huncut
    rw [AcceptLoop.step, ← hnone]
    exact h
  | recover now stamps upTo => exact h.of_keepsIngress (keepsIngress_enqueueAll _ _ _ _)
  | lease now stamp =>
    refine h.of_commit fun db' hdb => ?_
    obtain ⟨leased, hlease⟩ := map_snd_eq_ok hdb
    exact keepsIngress_lease hlease
  | succeed sourceEventId now stamp | fail sourceEventId category now stamp =>
    exact h.of_commit fun db' hdb => keepsIngress_settle hdb (by decide)
  | record kind stamp runId sessionId correlationId payload =>
    exact h.of_commit fun db' hdb => keepsIngress_append hdb kind.2

lemma kept_init : Kept config {} := by
  refine ⟨fun row hrow => ?_, fun p hp => ?_, fun eventId hne => ?_⟩
  · cases hrow
  · cases hp
  · exact absurd rfl hne

lemma kept_run (hfresh : Along (AcceptLoop.step config) FreshId {} ls)
    (huncut : Along (AcceptLoop.step config) Uncut {} ls) :
    Kept config (run (AcceptLoop.step config) {} ls) :=
  (along_and hfresh huncut).invariant (fun _ _ h hcond => h.step hcond.1 hcond.2) kept_init

lemma cut_of_not_uncut (config : KernelConfig) (h : ¬Uncut s l) :
    ∃ p, s.pending = some p ∧ s.step config l = ⟨s.db, none⟩ := by
  cases l with
  | accept now stamps =>
    simp only [Uncut, not_forall] at h
    obtain ⟨p, hp, hfail⟩ := h
    refine ⟨p, hp, ?_⟩
    have hsome : s.pending = some p := hp
    simp only [AcceptLoop.step, AcceptLoop.finish, hsome, acceptAdmission_error hfail]
  | cut =>
    obtain ⟨p, hp⟩ := Option.ne_none_iff_exists'.mp h
    exact ⟨p, hp, rfl⟩
  | _ => exact absurd trivial h

/-- Every reservation is accepted once, and its job is there or the next recovery that gets
through makes it. -/
def NoneLost (db : Db) : Prop :=
  ∀ row ∈ db.ingressDedup, (acceptances db row.eventId).length = 1 ∧
    (hasJob db row.eventId = true ∨
      ∀ now stamps n, (recoverUndeliveredIngress now stamps db).1 = .ok n →
        hasJob (recoverUndeliveredIngress now stamps db).2 row.eventId = true)

variable (config) in
def RefusesAccepted (db : Db) : Prop :=
  ∀ envelope admission eventId now, checkIngress config envelope = .ok admission →
    (reserveIngress admission.source admission.dedupeId eventId now db).1 = false →
      ∃ row ∈ db.ingressDedup, row.key = (admission.source, admission.dedupeId) ∧
        (acceptances db row.eventId).length = 1

lemma Kept.noneLost (h : Kept config s) (hnone : s.pending = none) :
    NoneLost s.db ∧ RefusesAccepted config s.db := by
  have hrows : ∀ row ∈ s.db.ingressDedup,
      (acceptances s.db row.eventId).length = 1 ∧ hasJob s.db row.eventId = true :=
    fun row hrow => h.rows row hrow (by simp [hnone])
  refine ⟨fun row hrow => ⟨(hrows row hrow).1, .inl (hrows row hrow).2⟩, ?_⟩
  intro envelope admission eventId now _ hrefused
  obtain ⟨-, hsome⟩ := reserveIngress_refused (Prod.ext hrefused rfl)
  obtain ⟨row, hrow⟩ := Option.ne_none_iff_exists'.mp hsome
  obtain ⟨hmem, hkey⟩ := Table.find?_eq_some.mp hrow
  exact ⟨row, hmem, hkey, (hrows row hmem).1⟩

/-- No accepted message is lost between two validations of a run exactly when the run cuts
no validation between its two commits. -/
theorem ingress_none_lost_iff (config : KernelConfig) (ls : List Label)
    (hfresh : Along (AcceptLoop.step config) FreshId {} ls) :
    (∀ ls₁ ls₂, ls = ls₁ ++ ls₂ → (run (AcceptLoop.step config) {} ls₁).pending = none →
      NoneLost (run (AcceptLoop.step config) {} ls₁).db ∧
        RefusesAccepted config (run (AcceptLoop.step config) {} ls₁).db) ↔
      Along (AcceptLoop.step config) Uncut {} ls := by
  constructor
  · intro h
    apply along_of_prefix
    intro bs l cs heq huncut
    rw [heq] at hfresh
    have hkept := kept_run (along_append.mp hfresh).1 huncut
    by_contra hcut
    obtain ⟨p, hp, hstep⟩ := cut_of_not_uncut config hcut
    obtain ⟨hnil, ⟨row, hrow, hrowId⟩, -⟩ := hkept.pending p hp
    have hlost := h (bs ++ [l]) cs (by simp [heq]) (by rw [run_snoc, hstep])
    rw [run_snoc, hstep] at hlost
    have hone := (hlost.1 row hrow).1
    rw [hrowId, hnil] at hone
    cases hone
  · intro huncut ls₁ ls₂ heq hnone
    rw [heq] at hfresh huncut
    exact (kept_run (along_append.mp hfresh).1 (along_append.mp huncut).1).noneLost hnone

end Machine

/-! ## A crash after the reservation -/

def cliMessage : IngressEnvelope where
  protocolVersion := "v1"
  source := .cli
  externalEventId := "cli_1"
  receivedAt := 0
  payload := .mkObj [("text", .str "hello")]
  authContext := ⟨true⟩

/-- The process dies between the two commits, starts again and recovers. -/
def crashedIngress : List Label :=
  [.ingress cliMessage sampleUuid 0, .cut, .recover (fun _ => 1) sampleStamps 10]

/-- The message is gone, and its redelivery is refused as a duplicate. -/
theorem ingress_lost_crashedIngress :
    letI := referencePlatform
    (run (AcceptLoop.step {}) {} crashedIngress).pending = none ∧
      ¬NoneLost (run (AcceptLoop.step {}) {} crashedIngress).db ∧
      ¬RefusesAccepted {} (run (AcceptLoop.step {}) {} crashedIngress).db := by
  let _ := referencePlatform
  have hrows : (run (AcceptLoop.step {}) {} crashedIngress).db.ingressDedup.rows =
      [⟨"cli", "cli_1", newEventId sampleUuid, 0⟩] := by decide
  have hjournal : (run (AcceptLoop.step {}) {} crashedIngress).db.journal.rows = [] := by decide
  have hnil : ∀ eventId,
      acceptances (run (AcceptLoop.step {}) {} crashedIngress).db eventId = [] := by
    intro eventId
    rw [acceptances, hjournal, filter_nil]
  refine ⟨rfl, fun hkept => ?_, fun hrefuses => ?_⟩
  · have hone := (hkept ⟨"cli", "cli_1", newEventId sampleUuid, 0⟩
      (by rw [Table.mem_rows, hrows]; exact mem_singleton_self _)).1
    rw [hnil] at hone
    cases hone
  · obtain ⟨admission, hingress, hsource, hid⟩ : ∃ admission,
        checkIngress {} cliMessage = .ok admission ∧ admission.source = "cli" ∧
          admission.dedupeId = "cli_1" := ⟨_, rfl, rfl, rfl⟩
    obtain ⟨row, -, -, hone⟩ := hrefuses cliMessage admission "event_2" 1 hingress
      (by rw [hsource, hid]; decide)
    rw [hnil] at hone
    cases hone

def acceptedIngress : List Label := [.ingress cliMessage sampleUuid 0, .accept 0 sampleStamps]

theorem ingress_none_lost_acceptedIngress :
    letI := referencePlatform
    Along (AcceptLoop.step {}) FreshId {} acceptedIngress ∧
      Along (AcceptLoop.step {}) Uncut {} acceptedIngress ∧
      NoneLost (run (AcceptLoop.step {}) {} acceptedIngress).db := by
  let _ := referencePlatform
  have hfresh : Along (.step {}) FreshId {} acceptedIngress :=
    ⟨fun row hrow => absurd hrow not_mem_nil, trivial, trivial⟩
  have huncut : Along (.step {}) Uncut {} acceptedIngress := by
    refine ⟨trivial, fun p hp => ?_, trivial⟩
    cases hp
    exact ⟨_, rfl⟩
  have hall := (ingress_none_lost_iff {} acceptedIngress hfresh).mpr huncut
  exact ⟨hfresh, huncut, (hall acceptedIngress [] (append_nil _).symm rfl).1⟩

end AgentCore.Server.IngressLog
