import AgentCore.Journal.TrustedActivation

/-! External operation grants made and taken back outside an activation. The row and its
journal event are two commits, and a call may stop between them. -/

namespace AgentCore.Journal

open Foundation List SqlTable
open Domain hiding OperationSpec RegistrySnapshot

variable {db : GovernanceDb} {stamp : Stamp}

structure CreateGrantParams where
  operation : String
  granteePrincipalId : PrincipalId
  (channel conversationKind scope risk : String)
  capabilityId : Option String
  snapshotId : String
  createdByPrincipalId : Option PrincipalId
  decisionReference : Option String

def CreateGrantParams.row (params : CreateGrantParams) (grantId : String) (now : Timestamp) :
    GrantRow where
  grantId
  operation := params.operation
  granteePrincipalId := params.granteePrincipalId
  channel := params.channel
  conversationKind := params.conversationKind
  scope := params.scope
  risk := params.risk
  capabilityId := params.capabilityId
  snapshotId := params.snapshotId
  active := true
  createdAt := now
  createdByPrincipalId := params.createdByPrincipalId
  decisionReference := params.decisionReference

inductive Interruption
  | crash
  | appendFails (error : String)

section Calls

variable [Platform]

def appendGrantFact (interruption : Option Interruption) (stamp : Stamp)
    (kind : JournalEventKind) (grantId : String) (payload : Json) (db : GovernanceDb) :
    Option (Except String Unit) × GovernanceDb :=
  match interruption with
  | some .crash => (none, db)
  | some (.appendFails e) => (some (.error e), db)
  | none =>
    match appendEventTx stamp kind none none (some grantId) payload db.journal with
    | .ok (_, journal) => (some (.ok ()), { db with journal })
    | .error e => (some (.error e), db)

def grantedPayload (params : CreateGrantParams) (grantId : String) : Json :=
  .mkObj [("grant_id", .str grantId), ("operation", .str params.operation),
    ("grantee_principal_id", .str params.granteePrincipalId), ("channel", .str params.channel),
    ("conversation_kind", .str params.conversationKind), ("scope", .str params.scope),
    ("risk", .str params.risk), ("snapshot_id", .str params.snapshotId)]

def createExternalOperationGrant (params : CreateGrantParams) (grantId : String)
    (now : Timestamp) (stamp : Stamp) (interruption : Option Interruption) (db : GovernanceDb) :
    Option (Except String String) × GovernanceDb :=
  match createExternalOperationGrantTx (params.row grantId now) db.grants with
  | .error e => (some (.error e), db)
  | .ok ((persisted, false), _) => (some (.ok persisted), db)
  | .ok ((persisted, true), grants) =>
    let (answer, db) := appendGrantFact interruption stamp .externalOperationGranted persisted
      (grantedPayload params persisted) { db with grants }
    (answer.map fun a => a.map fun _ => persisted, db)

def activeGrant (grantId : String) (g : GrantRow) : Bool :=
  decide (g.grantId = grantId ∧ g.active = true)

def revokedPayload (grantId : String) (now : Timestamp) : Json :=
  .mkObj [("grant_id", .str grantId), ("revoked_at", .str (Platform.rfc3339 now))]

def revokeExternalOperationGrant (grantId : String) (now : Timestamp) (stamp : Stamp)
    (interruption : Option Interruption) (db : GovernanceDb) :
    Option (Except String Unit) × GovernanceDb :=
  match db.grants.update (activeGrant grantId) fun g => { g with active := false } with
  | none => (some (.error "constraint failed"), db)
  | some grants =>
    if 0 < db.grants.count (activeGrant grantId) then
      appendGrantFact interruption stamp .externalOperationRevoked grantId
        (revokedPayload grantId now) { db with grants }
    else (some (.ok ()), { db with grants })

/-! ## Runs of calls -/

inductive GrantCall
  | create (params : CreateGrantParams) (grantId : String)
  | revoke (grantId : String)

structure GrantInput where
  call : GrantCall
  now : Timestamp
  stamp : Stamp
  interruption : Option Interruption

variable {x : GrantInput} {row : GrantRow}

def grantStep (db : GovernanceDb) (x : GrantInput) : GovernanceDb :=
  match x.call with
  | .create params grantId =>
    (createExternalOperationGrant params grantId x.now x.stamp x.interruption db).2
  | .revoke grantId => (revokeExternalOperationGrant grantId x.now x.stamp x.interruption db).2

/-! ## Rows and events -/

def isGrantFact (kind : JournalEventKind) (grantId : String) (r : JournalRow) : Bool :=
  decide (r.kind = kind.storageName ∧ r.correlationId = some grantId)

def grantFacts (kind : JournalEventKind) (grantId : String) (db : GovernanceDb) : Nat :=
  db.journal.rows.countP (isGrantFact kind grantId)

/-- Every row has its events, each once, and every event has its row. -/
structure GrantsAudited (db : GovernanceDb) : Prop where
  granted : ∀ g ∈ db.grants, grantFacts .externalOperationGranted g.grantId db = 1
  revoked : ∀ g ∈ db.grants, g.active = false →
    grantFacts .externalOperationRevoked g.grantId db = 1
  row_of_granted : ∀ r ∈ db.journal.rows,
    r.kind = JournalEventKind.externalOperationGranted.storageName →
      ∃ g ∈ db.grants, r.correlationId = some g.grantId
  row_of_revoked : ∀ r ∈ db.journal.rows,
    r.kind = JournalEventKind.externalOperationRevoked.storageName →
      ∃ g ∈ db.grants, r.correlationId = some g.grantId ∧ g.active = false

/-- The call changes a row: a grant that conflicts with none is made, an active one is
taken back. -/
def GrantInput.Writes (db : GovernanceDb) (x : GrantInput) : Prop :=
  match x.call with
  | .create params grantId => grantSchema.check (params.row grantId x.now) = true ∧
      ∀ g ∈ db.grants, grantSchema.Apart g (params.row grantId x.now)
  | .revoke grantId => ∃ g ∈ db.grants, g.grantId = grantId ∧ g.active = true

/-- Nothing comes between the commits of a call that changes a row, and its event id is new. -/
def GrantInput.Uninterrupted (db : GovernanceDb) (x : GrantInput) : Prop :=
  x.Writes db → x.interruption = none ∧ x.stamp.eventId ∉ db.journal.rows.map JournalRow.eventId

/-! ## What one call does -/

lemma appendGrantFact_appended {stamp : Stamp} {db : GovernanceDb}
    (hfresh : stamp.eventId ∉ db.journal.rows.map JournalRow.eventId) (kind : JournalEventKind)
    (grantId : String) (payload : Json) : ∃ journal : JournalTable,
      (appendGrantFact none stamp kind grantId payload db).2 = { db with journal } ∧
      journal.rows = db.journal.rows ++
        [newRow db.journal stamp kind.storageName none none (some grantId) payload.toText] := by
  obtain ⟨e, journal, happ⟩ : ∃ e journal,
      appendEventTx stamp kind none none (some grantId) payload db.journal = .ok (e, journal) :=
    appendEventTx_of_fresh hfresh
  refine ⟨journal, ?_, (appendEventTx_eq_ok happ).1⟩
  simp only [appendGrantFact, happ]

lemma appendGrantFact_stopped {interruption : Option Interruption} {stamp : Stamp}
    {db : GovernanceDb} (kind : JournalEventKind) (grantId : String) (payload : Json)
    (h : ¬(interruption = none ∧ stamp.eventId ∉ db.journal.rows.map JournalRow.eventId)) :
    (appendGrantFact interruption stamp kind grantId payload db).2 = db := by
  cases interruption with
  | some cause => cases cause <;> rfl
  | none =>
    rw [appendGrantFact]
    match happ : appendEventTx stamp kind none none (some grantId) payload db.journal with
    | .ok (e, journal) => exact absurd ⟨rfl, (appendEventTx_eq_ok happ).2⟩ h
    | .error e => rfl

omit [Platform] in
lemma revoke_update (grants : SqlTable grantSchema) (grantId : String) :
    ∃ grants', grants.update (activeGrant grantId) (fun g => { g with active := false }) =
      some grants' := by
  have hkeeps : grantSchema.Keeps
      (grants.rows.map fun g => if activeGrant grantId g then { g with active := false } else g) := by
    refine grants.keeps.map (fun g hcheck => ?_) (fun u hu g => ?_)
    · split <;> exact hcheck
    · split
      · simp only [grantSchema, mem_cons, not_mem_nil, or_false] at hu
        rcases hu with rfl | rfl
        · exact .inl rfl
        · exact .inr rfl
      · exact .inl rfl
  exact ⟨⟨_, hkeeps⟩, update_eq_some.mpr rfl⟩

namespace GrantInput

def kind (x : GrantInput) : JournalEventKind :=
  match x.call with
  | .create _ _ => .externalOperationGranted
  | .revoke _ => .externalOperationRevoked

def grantId (x : GrantInput) : String :=
  match x.call with
  | .create _ grantId => grantId
  | .revoke grantId => grantId

def rowsAfter (db : GovernanceDb) (x : GrantInput) : List GrantRow :=
  match x.call with
  | .create params grantId => db.grants.rows ++ [params.row grantId x.now]
  | .revoke grantId =>
    db.grants.rows.map fun g => if activeGrant grantId g then { g with active := false } else g

end GrantInput

lemma grantStep_idle (h : ¬ x.Writes db) : grantStep db x = db := by
  obtain ⟨call, now, stamp, interruption⟩ := x
  cases call with
  | create params grantId =>
    have hnone : db.grants.insert (params.row grantId now) = none := by
      refine Option.eq_none_iff_forall_ne_some.mpr fun grants hinsert => ?_
      exact h (insert_iff.mp ⟨grants, hinsert⟩)
    simp only [grantStep, createExternalOperationGrant, createExternalOperationGrantTx, hnone]
    split <;> rename_i heq <;> split at heq <;> simp_all
  | revoke grantId =>
    have hnone : ∀ g ∈ db.grants.rows, activeGrant grantId g = false := by
      intro g hg
      refine Bool.eq_false_iff.mpr fun hactive => ?_
      exact h ⟨g, hg, of_decide_eq_true hactive⟩
    obtain ⟨grants, hupdate⟩ := revoke_update db.grants grantId
    have hcount : db.grants.count (activeGrant grantId) = 0 :=
      countP_eq_zero.mpr fun g hg => by simp [hnone g hg]
    have hsame : grants = db.grants := by
      refine ext ((update_eq_some.mp hupdate).trans ?_)
      rw [map_congr_left (g := id) (fun g hg => by simp [hnone g hg]), map_id]
    simp only [grantStep, revokeExternalOperationGrant, hupdate, hcount, hsame, Nat.lt_irrefl,
      if_false]

lemma grantStep_writes (h : x.Writes db) :
    ∃ grants : SqlTable grantSchema, ∃ payload, grants.rows = x.rowsAfter db ∧ grantStep db x =
        (appendGrantFact x.interruption x.stamp x.kind x.grantId payload { db with grants }).2 := by
  obtain ⟨call, now, stamp, interruption⟩ := x
  cases call with
  | create params grantId =>
    obtain ⟨grants, hinsert⟩ := insert_iff.mpr h
    refine ⟨grants, grantedPayload params grantId, insert_eq_some.mp hinsert, ?_⟩
    simp only [grantStep, createExternalOperationGrant, createExternalOperationGrantTx, hinsert]
    rfl
  | revoke grantId =>
    obtain ⟨grants, hupdate⟩ := revoke_update db.grants grantId
    obtain ⟨g, hg, hactive⟩ := h
    have hcount : 0 < db.grants.count (activeGrant grantId) :=
      countP_pos_iff.mpr ⟨g, hg, decide_eq_true hactive⟩
    refine ⟨grants, revokedPayload grantId now, update_eq_some.mp hupdate, ?_⟩
    simp only [grantStep, revokeExternalOperationGrant, hupdate, hcount, if_true]
    rfl

/-! ## Rows and events agree -/

section

omit [Platform]

lemma grant_eq_of_id {g g' : GrantRow} (hg : g ∈ db.grants) (hg' : g' ∈ db.grants)
    (h : g.grantId = g'.grantId) : g = g' :=
  eq_of_clash (c := grantSchema) (mem_cons_self ..) hg hg'
    ⟨Option.some_ne_none _, congrArg some h⟩

lemma GrantsAudited.grantFacts_granted (h : GrantsAudited db) {grantId : String}
    (hnone : ∀ g ∈ db.grants, g.grantId ≠ grantId) :
    grantFacts .externalOperationGranted grantId db = 0 := by
  refine countP_eq_zero.mpr fun r hr hfact => ?_
  obtain ⟨hkind, hcorr⟩ := of_decide_eq_true hfact
  obtain ⟨g, hg, hid⟩ := h.row_of_granted r hr hkind
  exact hnone g hg (Option.some.inj (hid.symm.trans hcorr))

lemma GrantsAudited.grantFacts_revoked (h : GrantsAudited db) {g : GrantRow}
    (hg : g ∈ db.grants) (hactive : g.active = true) :
    grantFacts .externalOperationRevoked g.grantId db = 0 := by
  refine countP_eq_zero.mpr fun r hr hfact => ?_
  obtain ⟨hkind, hcorr⟩ := of_decide_eq_true hfact
  obtain ⟨g', hg', hid, hended⟩ := h.row_of_revoked r hr hkind
  have heq : g' = g := grant_eq_of_id hg' hg (Option.some.inj (hid.symm.trans hcorr))
  rw [heq, hactive] at hended
  cases hended

end

lemma grantFacts_appended {kind : JournalEventKind}
    (hrows : db'.journal.rows = db.journal.rows ++ [newRow db.journal stamp kind.storageName none none (some grantId) payloadJson])
    (kind' : JournalEventKind) (id : String) : grantFacts kind' id db' = grantFacts kind' id db +
      if kind.storageName = kind'.storageName ∧ grantId = id then 1 else 0 := by
  rw [grantFacts, hrows, countP_append, countP_singleton]
  simp [isGrantFact, newRow, grantFacts]

omit [Platform] in
lemma granted_ne_revoked : JournalEventKind.externalOperationGranted.storageName ≠
    JournalEventKind.externalOperationRevoked.storageName := by decide

lemma GrantsAudited.create (h : GrantsAudited db) (hactive : row.active = true)
    (hnone : ∀ g ∈ db.grants, g.grantId ≠ row.grantId)
    (hgrants : db'.grants.rows = db.grants.rows ++ [row])
    (hrows : db'.journal.rows = db.journal.rows ++ [newRow db.journal stamp JournalEventKind.externalOperationGranted.storageName none none (some row.grantId) payloadJson]) :
    GrantsAudited db' := by
  have hmem : ∀ {g}, g ∈ db'.grants ↔ g ∈ db.grants ∨ g = row := by
    intro g
    rw [mem_rows, hgrants, mem_append, mem_singleton]
    rfl
  have hfacts := grantFacts_appended hrows
  constructor
  case granted =>
    intro g hg
    rw [hfacts]
    rcases hmem.mp hg with hg | rfl
    · rw [h.granted g hg, if_neg fun heq => hnone g hg heq.2.symm]
    · rw [h.grantFacts_granted hnone, if_pos ⟨rfl, rfl⟩]
  case revoked =>
    intro g hg hended
    rw [hfacts, if_neg fun heq => granted_ne_revoked heq.1]
    rcases hmem.mp hg with hg | rfl
    · exact h.revoked g hg hended
    · rw [hactive] at hended
      cases hended
  case row_of_granted =>
    intro r hr hkind
    rw [hrows, mem_append, mem_singleton] at hr
    rcases hr with hr | rfl
    · obtain ⟨g, hg, hid⟩ := h.row_of_granted r hr hkind
      exact ⟨g, hmem.mpr (.inl hg), hid⟩
    · exact ⟨row, hmem.mpr (.inr rfl), rfl⟩
  case row_of_revoked =>
    intro r hr hkind
    rw [hrows, mem_append, mem_singleton] at hr
    rcases hr with hr | rfl
    · obtain ⟨g, hg, hid⟩ := h.row_of_revoked r hr hkind
      exact ⟨g, hmem.mpr (.inl hg), hid⟩
    · exact absurd hkind granted_ne_revoked

lemma GrantsAudited.revoke (h : GrantsAudited db) {grant : GrantRow}
    (hgrant : grant ∈ db.grants) (hactive : grant.active = true)
    (hgrants : db'.grants.rows = db.grants.rows.map fun g => if activeGrant grant.grantId g then { g with active := false } else g)
    (hrows : db'.journal.rows = db.journal.rows ++ [newRow db.journal stamp JournalEventKind.externalOperationRevoked.storageName none none (some grant.grantId) payloadJson]) :
    GrantsAudited db' := by
  have hfacts := grantFacts_appended hrows
  -- the only row that changes is the grant's own
  have hmem : ∀ {g}, g ∈ db'.grants ↔
      g = { grant with active := false } ∨ (g ∈ db.grants ∧ g.grantId ≠ grant.grantId) := by
    intro g
    rw [mem_rows, hgrants, mem_map]
    constructor
    · rintro ⟨g', hg', rfl⟩
      by_cases hid : g'.grantId = grant.grantId
      · obtain rfl := grant_eq_of_id hg' hgrant hid
        exact .inl (if_pos (decide_eq_true ⟨rfl, hactive⟩))
      · rw [if_neg (by simp [activeGrant, hid])]
        exact .inr ⟨hg', hid⟩
    · rintro (rfl | ⟨hg, hid⟩)
      · exact ⟨grant, hgrant, if_pos (decide_eq_true ⟨rfl, hactive⟩)⟩
      · exact ⟨g, hg, if_neg (by simp [activeGrant, hid])⟩
  constructor
  case granted =>
    intro g hg
    rw [hfacts, if_neg fun heq => granted_ne_revoked heq.1.symm]
    rcases hmem.mp hg with rfl | ⟨hg, -⟩
    · exact h.granted grant hgrant
    · exact h.granted g hg
  case revoked =>
    intro g hg hended
    rw [hfacts]
    rcases hmem.mp hg with rfl | ⟨hg, hid⟩
    · rw [if_pos ⟨rfl, rfl⟩, h.grantFacts_revoked hgrant hactive]
    · rw [if_neg fun heq => hid heq.2.symm, h.revoked g hg hended]
  case row_of_granted =>
    intro r hr hkind
    rw [hrows, mem_append, mem_singleton] at hr
    rcases hr with hr | rfl
    · obtain ⟨g, hg, hcorr⟩ := h.row_of_granted r hr hkind
      by_cases hid : g.grantId = grant.grantId
      · exact ⟨_, hmem.mpr (.inl rfl), hcorr.trans (congrArg some hid)⟩
      · exact ⟨g, hmem.mpr (.inr ⟨hg, hid⟩), hcorr⟩
    · exact absurd hkind.symm granted_ne_revoked
  case row_of_revoked =>
    intro r hr hkind
    rw [hrows, mem_append, mem_singleton] at hr
    rcases hr with hr | rfl
    · obtain ⟨g, hg, hcorr, hended⟩ := h.row_of_revoked r hr hkind
      have hid : g.grantId ≠ grant.grantId := by
        intro hid
        rw [grant_eq_of_id hg hgrant hid, hactive] at hended
        cases hended
      exact ⟨g, hmem.mpr (.inr ⟨hg, hid⟩), hcorr, hended⟩
    · exact ⟨_, hmem.mpr (.inl rfl), rfl, rfl⟩

omit [Platform] in
lemma grantId_unused (h : ∀ g ∈ db.grants, grantSchema.Apart g row) :
    ∀ g ∈ db.grants, g.grantId ≠ row.grantId := by
  intro g hg hid
  exact h g hg _ (mem_cons_self ..) ⟨Option.some_ne_none _, congrArg some hid⟩

lemma grantStep_audited (h : GrantsAudited db) :
    GrantsAudited (grantStep db x) ↔ x.Uninterrupted db := by
  by_cases hwrites : x.Writes db
  swap
  · rw [grantStep_idle hwrites]
    exact ⟨fun _ hw => absurd hw hwrites, fun _ => h⟩
  obtain ⟨grants, payload, hgrants, hstep⟩ := grantStep_writes hwrites
  by_cases hdone : x.interruption = none ∧ x.stamp.eventId ∉ db.journal.rows.map JournalRow.eventId
  · refine ⟨fun _ _ => hdone, fun _ => ?_⟩
    obtain ⟨journal, hdb', hrows⟩ := @appendGrantFact_appended _ x.stamp { db with grants }
      hdone.2 x.kind x.grantId payload
    rw [hstep, hdone.1, hdb']
    obtain ⟨call, now, stamp, interruption⟩ := x
    cases call with
    | create params grantId =>
      exact h.create rfl (grantId_unused hwrites.2) hgrants hrows
    | revoke grantId =>
      obtain ⟨g, hg, rfl, hactive⟩ := hwrites
      exact h.revoke hg hactive hgrants hrows
  · refine ⟨fun haudited => ?_, fun huninterrupted => absurd (huninterrupted hwrites) hdone⟩
    have hstopped := @appendGrantFact_stopped _ x.interruption x.stamp { db with grants := grants }
      x.kind x.grantId payload hdone
    rw [hstep, hstopped] at haudited
    obtain ⟨call, now, stamp, interruption⟩ := x
    cases call with
    | create params grantId =>
      -- the new row has no event
      have hrow : params.row grantId now ∈ grants := by
        rw [mem_rows, hgrants]
        exact mem_append_right _ (mem_singleton_self _)
      have hone := haudited.granted _ hrow
      have hzero := h.grantFacts_granted (grantId_unused hwrites.2)
      exact absurd (hone.symm.trans hzero) (by decide)
    | revoke grantId =>
      obtain ⟨g, hg, rfl, hactive⟩ := hwrites
      have hrow : { g with active := false } ∈ grants := by
        rw [mem_rows, hgrants]
        exact mem_map.mpr ⟨g, hg, if_pos (decide_eq_true ⟨rfl, hactive⟩)⟩
      have hone := haudited.revoked _ hrow rfl
      have hzero := h.grantFacts_revoked hg hactive
      exact absurd (hone.symm.trans hzero) (by decide)

/-- Rows and events agree in every state of a run exactly when no call of it stops between
the commit of its row and that of its event. -/
theorem grant_rows_match_journal (db : GovernanceDb) (h : GrantsAudited db) (xs : List GrantInput) :
    (∀ before after, xs = before ++ after → GrantsAudited (run grantStep db before)) ↔
      Along grantStep (fun db x => x.Uninterrupted db) db xs :=
  forall_prefix_iff_along (fun _ _ haudited => grantStep_audited haudited) h

end Calls

instance (db : GovernanceDb) : (x : GrantInput) → Decidable (x.Writes db)
  | ⟨.create params grantId, now, _, _⟩ => inferInstanceAs (Decidable
      (grantSchema.check (params.row grantId now) = true ∧
        ∀ g ∈ db.grants, grantSchema.Apart g (params.row grantId now)))
  | ⟨.revoke grantId, _, _, _⟩ => inferInstanceAs (Decidable
      (∃ g ∈ db.grants, g.grantId = grantId ∧ g.active = true))

instance (db : GovernanceDb) (x : GrantInput) : Decidable (x.Uninterrupted db) :=
  inferInstanceAs (Decidable (_ → _))

/-! ## A crash and a retry -/

section Sample

local instance grantPlatform : Platform := zeroPlatform

def sampleGrant : CreateGrantParams where
  operation := "external.echo"
  granteePrincipalId := "u"
  channel := "Cli"
  conversationKind := "cli"
  scope := "principal_channel"
  risk := "ReadOnly"
  capabilityId := none
  snapshotId := "s"
  createdByPrincipalId := none
  decisionReference := none

def crashedThenRetried : List GrantInput :=
  [⟨.create sampleGrant "grt_1", 0, ⟨"e1", 0⟩, some .crash⟩,
    ⟨.create sampleGrant "grt_2", 1, ⟨"e2", 1⟩, none⟩]

/-- The retry finds the row of the call that crashed, so its event is never written. -/
theorem grant_rows_match_journal_crashed :
    ¬ GrantsAudited (run grantStep {} crashedThenRetried) := by
  intro h
  have hrow : sampleGrant.row "grt_1" 0 ∈ (run grantStep {} crashedThenRetried).grants.rows := by
    decide
  exact absurd (h.granted _ hrow) (by decide)

def grantedThenRevoked : List GrantInput :=
  [⟨.create sampleGrant "grt_1", 0, ⟨"e1", 0⟩, none⟩, ⟨.revoke "grt_1", 1, ⟨"e2", 1⟩, none⟩,
    ⟨.create sampleGrant "grt_2", 2, ⟨"e3", 2⟩, none⟩]

lemma grantsAudited_empty : GrantsAudited {} where
  granted := by decide
  revoked := by decide
  row_of_granted := by decide
  row_of_revoked := by decide

theorem grant_rows_match_journal_revoked :
    GrantsAudited (run grantStep {} grantedThenRevoked) :=
  (grant_rows_match_journal {} grantsAudited_empty grantedThenRevoked).mpr (by decide)
    grantedThenRevoked [] (append_nil _).symm

end Sample

end AgentCore.Journal
