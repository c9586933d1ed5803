import AgentCore.Journal.Migrations
import Mathlib.Tactic.FinCases

/-! Crashes during a migration. The states that a migration commits are the states in which a
crash can leave the database. Here those from which the next start can go on are told apart,
and the upgrades whose scripts only add are shown to go on from them. -/

namespace AgentCore.Journal.Migrations

open Foundation Foundation.Sql Domain List

/-! ## Versions of the schema -/

variable {object column : String} {t' : Table TableName}
  {columns pending : List (TableName × String)} {script : Script}
  {s : Statement TableName} {known : TableName → Prop} {rest : List (TableName × String)}

/-- The version a table comes with. The tables of a rebuild belong to no version, and those of
the queues are made at every start. -/
def since : TableName → Nat
  | .sessions | .runs | .journalEvents | .ingressDedup => 1
  | .registrySnapshots | .registrySnapshotOperations => 2
  | .harnessManifests | .registryState => 3
  | .capabilityChangeProposals => 4
  | .externalOperationGrants => 6
  | .harnessChangeRequests => 7
  | .hcrClaims | .hcrRunBindings => 8
  | .hcrGateAttempts | .hcrGateEvidence | .hcrSettlements => 9
  | .hcrReceiptIdentities => 10
  | .capabilityProposalHcrLinks | .codingTaskSubmissions => 11
  | .capabilityChangeApprovals => 12
  | .componentRegistrySnapshots | .componentRegistryEntries | .componentRegistryState
  | .componentDeploymentIntents | .componentDeploymentReceipts
  | .componentControlIntents | .componentControlReceipts => 13
  | .capabilityProposalReceiptLinks | .capabilityGovernanceApprovals => 17
  | .registrySnapshotHookBindings => 19
  | .sessionContinuations => 20
  | .harnessManifestsV5 | .hcrSettlementsV15 | .codingTaskSubmissionsV20
  | .workerJobs | .outboxDispatches => 22

/-- The columns that an upgrade adds without asking whether they are there, with the version
it starts from. -/
def additions : List (Nat × TableName × String) :=
  [(1, .runs, "registry_snapshot_id"),
    (7, .runs, "mode"),
    (10, .hcrReceiptIdentities, "candidate_id"),
    (10, .hcrReceiptIdentities, "invocation_id"),
    (13, .hcrReceiptIdentities, "receipt_digest"),
    (13, .hcrReceiptIdentities, "opaque_payload_digest"),
    (14, .hcrReceiptIdentities, "delivery_manifest_ref"),
    (14, .hcrReceiptIdentities, "delivery_manifest_digest")]

def pendingFrom (version : Nat) : List (TableName × String) :=
  (additions.filter fun a => decide (version ≤ a.1)).map .snd

def Absent (columns : List (TableName × String)) (db : Db) : Prop :=
  ∀ p ∈ columns, ∀ t, db.table p.1 = some t → p.2 ∉ t.columns

/-- No crash fell between a statement that cannot be repeated and the stamp of its version: no
column of a pending upgrade is there yet, and the copy of the manifests has not begun. -/
structure Whole (db : Db) : Prop where
  columns : Absent (pendingFrom db.version) db
  manifests : ∀ t, db.table .harnessManifestsV5 = some t →
    t.rows = [] ∧ (db.table .harnessManifests).isSome

def triggerKey : Key := ⟨["trigger_event_id"], fun _ => true⟩

def DistinctTriggers (t : Table TableName) : Prop :=
  t.rows.Pairwise fun r s => triggerKey.collide r s = false

def HasTexts (r : Row) : Prop :=
  r "kind" = .text "IngressAccepted" →
    ∃ eventId payload createdAt, r "event_id" = .text eventId ∧
      r "payload_json" = .text payload ∧ r "created_at" = .text createdAt

/-- What is known of a table while the upgrade from a version runs: the constraints that its
rows keep, and that the tables of a pending upgrade which get a unique index are empty. -/
def Sound (version : Nat) : TableName → Table TableName → Prop
  | .runs, t => DistinctTriggers t
  | .journalEvents, t => ∀ r ∈ t.rows, HasTexts r
  | .ingressDedup, t => t.references = []
  | .harnessManifests, t => t.columns = manifestColumns ∧ Lawful harnessManifestsV5 t.rows
  | .harnessManifestsV5, t => t = ⟨harnessManifestsV5, []⟩
  | .externalOperationGrants, t => version ≤ 5 → t.rows = []
  | .harnessChangeRequests, t => version ≤ 6 → t.rows = []
  | .hcrSettlements, t => settlementColumns ⊆ t.columns ∧ Lawful hcrSettlementsV16 t.rows
  | .codingTaskSubmissions, t => version ≤ 20 → Lawful codingTaskSubmissions t.rows
  | .capabilityChangeApprovals, t => t.references = capabilityChangeApprovals.references
  | .capabilityGovernanceApprovals, t =>
    t.references = capabilityGovernanceApprovals.references
  | _, _ => True

/-- The names that a rebuild takes again are those of its own table. -/
def objectFits (version : Nat) (object : String) (n : TableName) : Prop :=
  (object ∈ ["idx_hcr_settlements_hcr", "trg_settlement_hcr_exists",
      "trg_settlement_claim_exists", "trg_settlement_run_exists"] → n = .hcrSettlements) ∧
    (version ≤ 20 → object ≠ "idx_coding_task_submissions_message_sequence")

def ApprovalsRefer (db : Db) : Prop :=
  ∀ t, db.table .capabilityChangeApprovals = some t → ∀ r ∈ t.rows,
    db.refersTo r ("proposal_id", .capabilityChangeProposals, "proposal_id") = true

/-! ## Rows -/

/-- A row carries another one: it has its values in the columns, or those of the attempt that
stands for a submission of the old table. -/
def Carries (n : TableName) (columns : List String) (r r' : Row) : Prop :=
  (∀ c ∈ columns, r' c = r c) ∨
    n = .codingTaskSubmissions ∧ ∀ c ∈ columns, r' c = legacyAttempt r c

def KeepsRows (origin db : Db) : Prop :=
  ∀ n t, origin.table n = some t → ∃ t', db.table n = some t' ∧ t.columns ⊆ t'.columns ∧
    ∀ r ∈ t.rows, ∃ r' ∈ t'.rows, Carries n t.columns r r'

/-- A database of a version, with any rows that its own constraints allow. One without a
version may have the first tables. -/
structure StartsAt (version : Nat) (db : Db) : Prop where
  stamped : db.version = version
  old : version ≤ 20
  present : ∀ n, since n ≤ version → (db.table n).isSome
  absent : ∀ n, version < since n → since n ≠ 1 → n ≠ .workerJobs → n ≠ .outboxDispatches →
    db.table n = none
  columns : Absent (pendingFrom version) db
  settlements : version ≤ 15 → ∀ t, db.table .hcrSettlements = some t →
    t.columns = settlementColumns
  submissions : ∀ t, db.table .codingTaskSubmissions = some t → t.columns = submissionColumns
  constraints : ∀ n t, n ≠ .runs → db.table n = some t → Sound version n t
  approvals : ApprovalsRefer db
  objects : ∀ o ∈ db.objects, objectFits version o.1 o.2

/-! ## Openings and crashes -/

section Openings

variable [Platform]

/-- The states that openings of the database can leave: a crash keeps what was committed
before it, and the next opening starts from there. -/
inductive Crashes (origin : Db) : Db → Prop
  | start : Crashes origin origin
  | crash {db db' : Db} (draws : Draws) : Crashes origin db → db' ∈ (migrate draws db).trace →
      Crashes origin db'

inductive WholeCrashes (origin : Db) : Db → Prop
  | start : WholeCrashes origin origin
  | crash {db db' : Db} (draws : Draws) : WholeCrashes origin db →
      db' ∈ (migrate draws db).trace → Whole db' → WholeCrashes origin db'

def Opens (origin : Db) (draws : Draws) (db : Db) : Prop :=
  (migrate draws db).result = .ok () ∧
    (migrate draws db).state.version = CURRENT_SCHEMA_VERSION ∧
    (∀ n, since n ≤ CURRENT_SCHEMA_VERSION → ((migrate draws db).state.table n).isSome) ∧
    KeepsRows origin (migrate draws db).state

end Openings

/-! ## What stands between two statements -/

/-- A table goes on as another one: no column and no row of it is lost. -/
def Widens (t t' : Table TableName) : Prop :=
  t.columns ⊆ t'.columns ∧ ∀ r ∈ t.rows, ∃ r' ∈ t'.rows, ∀ c ∈ t.columns, r' c = r c

structure Stands (k : Nat) (origin db : Db) : Prop where
  present : ∀ n, since n ≤ k → (db.table n).isSome
  settlementsFree : db.table .hcrSettlementsV15 = none
  submissionsFree : db.table .codingTaskSubmissionsV20 = none
  sound : ∀ n t, db.table n = some t → Sound k n t
  approvals : ApprovalsRefer db
  objects : ∀ o ∈ db.objects, objectFits k o.1 o.2
  keeps : KeepsRows origin db

section Frames

variable {k : Nat} {origin db : Db} {n : TableName} {t : Table TableName}

lemma Carries.trans {columns columns' : List String}
    (h : Carries n columns r r') (hsub : columns ⊆ columns') (h' : ∀ c ∈ columns', r'' c = r' c) :
    Carries n columns r r'' := by
  rcases h with h | ⟨hn, h⟩
  · exact .inl fun c hc => (h' c (hsub hc)).trans (h c hc)
  · exact .inr ⟨hn, fun c hc => (h' c (hsub hc)).trans (h c hc)⟩

lemma KeepsRows.put (h : KeepsRows origin db) (hwidens : ∀ t, db.table n = some t → Widens t t') :
    KeepsRows origin (db.put n (some t')) := by
  intro m t₀ ht₀
  obtain ⟨t, ht, hcolumns, hrows⟩ := h m t₀ ht₀
  by_cases hm : m = n
  · subst hm
    obtain ⟨hsub, hkept⟩ := hwidens t ht
    refine ⟨t', db.put_self _, List.Subset.trans hcolumns hsub, fun r hr => ?_⟩
    obtain ⟨r', hr', hcarries⟩ := hrows r hr
    obtain ⟨r'', hr'', hsame⟩ := hkept r' hr'
    exact ⟨r'', hr'', hcarries.trans hcolumns hsame⟩
  · exact ⟨t, by rw [db.put_of_ne _ hm, ht], hcolumns, hrows⟩

lemma ApprovalsRefer.put (h : ApprovalsRefer db) (happrovals : n ≠ .capabilityChangeApprovals)
    (hproposals : n ≠ .capabilityChangeProposals) : ApprovalsRefer (db.put n (some t')) := by
  intro t ht r hr
  rw [db.put_of_ne _ happrovals.symm] at ht
  have hrefers := h t ht r hr
  rw [Database.refersTo_iff] at hrefers ⊢
  rwa [db.put_of_ne _ hproposals.symm]

lemma ApprovalsRefer.put_new (h : ApprovalsRefer db) (hnone : db.table n = none) (d : Def) :
    ApprovalsRefer (db.put n (some ⟨d, []⟩)) := by
  intro t ht r hr
  by_cases happrovals : n = .capabilityChangeApprovals
  · subst happrovals
    rw [db.put_self] at ht
    cases ht
    cases hr
  · rw [db.put_of_ne _ (Ne.symm happrovals)] at ht
    have hrefers := h t ht r hr
    rw [Database.refersTo_iff] at hrefers ⊢
    refine hrefers.imp id fun ⟨u, hu, hrow⟩ => ⟨u, ?_, hrow⟩
    have hne : .capabilityChangeProposals ≠ n := by
      rintro rfl
      rw [hnone] at hu
      cases hu
    rw [db.put_of_ne _ hne, hu]

lemma Stands.put (h : Stands k origin db) (hsettlements : n ≠ .hcrSettlementsV15)
    (hsubmissions : n ≠ .codingTaskSubmissionsV20) (hsound : Sound k n t')
    (hwidens : ∀ t, db.table n = some t → Widens t t')
    (happrovals : ApprovalsRefer (db.put n (some t'))) : Stands k origin (db.put n (some t')) where
  present m hm := by
    by_cases hmn : m = n
    · subst hmn
      rw [db.put_self]
      rfl
    · rw [db.put_of_ne _ hmn]
      exact h.present m hm
  settlementsFree := by rw [db.put_of_ne _ hsettlements.symm, h.settlementsFree]
  submissionsFree := by rw [db.put_of_ne _ hsubmissions.symm, h.submissionsFree]
  sound m t ht := by
    by_cases hmn : m = n
    · subst hmn
      rw [db.put_self] at ht
      cases ht
      exact hsound
    · rw [db.put_of_ne _ hmn] at ht
      exact h.sound m t ht
  approvals := happrovals
  objects := h.objects
  keeps := h.keeps.put hwidens

lemma Stands.addObject (h : Stands k origin db) (hfits : objectFits k object n) :
    Stands k origin (db.addObject object n) where
  present := h.present
  settlementsFree := h.settlementsFree
  submissionsFree := h.submissionsFree
  sound := h.sound
  approvals := h.approvals
  objects o ho := by
    rcases mem_append.mp ho with ho | ho
    · exact h.objects o ho
    · rw [mem_singleton.mp ho]
      exact hfits
  keeps := h.keeps

lemma widens_refl (t : Table TableName) : Widens t t :=
  ⟨List.Subset.refl _, fun r hr => ⟨r, hr, fun _ _ => rfl⟩⟩

lemma widens_widen (value : Value) (h : column ∉ t.columns) : Widens t (t.widen column value) := by
  refine ⟨subset_append_left _ _, fun r hr => ?_⟩
  refine ⟨Function.update r column value, mem_map_of_mem hr, fun c hc => ?_⟩
  have hne : c ≠ column := fun heq => h (heq ▸ hc)
  exact Function.update_of_ne hne value r

lemma widens_append (more : List Row) : Widens t { t with rows := t.rows ++ more } :=
  ⟨List.Subset.refl _, fun r hr => ⟨r, mem_append_left _ hr, fun _ _ => rfl⟩⟩

lemma Sound.anti (h : Sound k' n t) (hk' : k' ≤ 5) : Sound k n t := by
  cases n <;> simp only [Sound] at h ⊢ <;> first
    | exact h
    | exact fun _ => h (by omega)

lemma Sound.mono (h : Sound k n t) (hk : k ≤ k') : Sound k' n t := by
  cases n <;> simp only [Sound] at h ⊢ <;> first
    | exact h
    | exact fun hle => h (Nat.le_trans hk hle)

lemma Stands.mono (h : Stands k origin db) (hk : k ≤ k')
    (hpresent : ∀ n, since n ≤ k' → (db.table n).isSome) : Stands k' origin db where
  present := hpresent
  settlementsFree := h.settlementsFree
  submissionsFree := h.submissionsFree
  sound n t ht := (h.sound n t ht).mono hk
  approvals := h.approvals
  objects o ho := ⟨(h.objects o ho).1, fun hle => (h.objects o ho).2 (Nat.le_trans hk hle)⟩
  keeps := h.keeps

lemma Stands.anti (h : Stands k' origin db) (hk : k ≤ k') (hk' : k' ≤ 5) :
    Stands k origin db where
  present n hn := h.present n (Nat.le_trans hn hk)
  settlementsFree := h.settlementsFree
  submissionsFree := h.submissionsFree
  sound n t ht := (h.sound n t ht).anti hk'
  approvals := h.approvals
  objects o ho := ⟨(h.objects o ho).1, fun _ => (h.objects o ho).2 (by omega)⟩
  keeps := h.keeps

end Frames

/-! ## Scripts that can be repeated -/

def Marked (db : Db) : Prop :=
  ∃ t, db.table .runs = some t ∧ "registry_snapshot_id" ∈ t.columns

/-- The upgrade from `k` is running on a database with the stamp `stamp`; the two differ in the
migration of a new database, which stamps nothing before its end. -/
structure Phase (k stamp : Nat) (marked : Bool) (origin db : Db) : Prop where
  version : db.version = stamp
  marked : marked = true → Marked db
  stands : Stands k origin db

structure Left (k stamp : Nat) (marked : Bool) (origin db : Db) : Prop where
  version : db.version = stamp
  marked : marked = true → Marked db
  stands : Whole db → Stands k origin db

def Widenable (n : TableName) (column : String) : Prop :=
  n = .runs ∧ column ≠ "trigger_event_id" ∨ n = .hcrReceiptIdentities ∨ n = .outboxDispatches

/-- Each statement of the script can run when the ones before it have, in a state where the
columns of `pending` are absent; then those of `rest` still are. -/
def Ready (k : Nat) : List TableName → List (TableName × String) → Script →
    List (TableName × String) → Prop
  | _, pending, [], rest => pending = rest
  | known, pending, .createTable true n d :: script, rest =>
    (n ≠ .hcrSettlementsV15 ∧ n ≠ .codingTaskSubmissionsV20) ∧ Sound k n ⟨d, []⟩ ∧
      (∀ p ∈ pending, p.1 = n → p.2 ∉ d.columns) ∧ Ready k (n :: known) pending script rest
  | known, pending, .createIndex true index n none :: script, rest =>
    (since n ≤ k ∨ n ∈ known) ∧ objectFits k index n ∧ Ready k known pending script rest
  | known, pending, .createIndex true index n (some _) :: script, rest =>
    (since n ≤ k ∨ n ∈ known) ∧ objectFits k index n ∧
      (n = .externalOperationGrants ∧ k ≤ 5 ∨ n = .harnessChangeRequests ∧ k ≤ 6) ∧
      Ready k known pending script rest
  | known, pending, .createTrigger true trigger n :: script, rest =>
    (since n ≤ k ∨ n ∈ known) ∧ objectFits k trigger n ∧ Ready k known pending script rest
  | known, (n', c') :: pending, .addColumn n c _ :: script, rest =>
    (n' = n ∧ c' = c) ∧ (since n ≤ k ∨ n ∈ known) ∧ (n, c) ∉ pending ∧ Widenable n c ∧
      Ready k known pending script rest
  | _, _, _, _ => False

def makes : Script → List TableName
  | [] => []
  | .createTable _ n _ :: script => n :: makes script
  | _ :: script => makes script

section Scripts

variable {k stamp : Nat} {marked : Bool} {origin db db' : Db} {n : TableName}
  {t : Table TableName}

lemma Phase.left (h : Phase k stamp marked origin db) : Left k stamp marked origin db :=
  ⟨h.version, h.marked, fun _ => h.stands⟩

lemma Marked.put (h : Marked db) (hwidens : ∀ t, db.table n = some t → Widens t t') :
    Marked (db.put n (some t')) := by
  obtain ⟨t, ht, hcolumn⟩ := h
  by_cases hn : n = .runs
  · subst hn
    exact ⟨t', db.put_self _, (hwidens t ht).1 hcolumn⟩
  · exact ⟨t, by rw [db.put_of_ne _ (Ne.symm hn), ht], hcolumn⟩

lemma Phase.put (h : Phase k stamp marked origin db) (hsettlements : n ≠ .hcrSettlementsV15)
    (hsubmissions : n ≠ .codingTaskSubmissionsV20) (hsound : Sound k n t')
    (hwidens : ∀ t, db.table n = some t → Widens t t')
    (happrovals : ApprovalsRefer (db.put n (some t'))) :
    Phase k stamp marked origin (db.put n (some t')) where
  version := h.version
  marked hm := (h.marked hm).put hwidens
  stands := h.stands.put hsettlements hsubmissions hsound hwidens happrovals

lemma Phase.addObject (h : Phase k stamp marked origin db) (hfits : objectFits k object n) :
    Phase k stamp marked origin (db.addObject object n) where
  version := h.version
  marked := h.marked
  stands := h.stands.addObject hfits

lemma Phase.stamped (h : Phase k stamp marked origin db) (version : Nat) :
    Phase k version marked origin { db with version } where
  version := rfl
  marked := h.marked
  stands := ⟨h.stands.present, h.stands.settlementsFree, h.stands.submissionsFree,
    h.stands.sound, h.stands.approvals, h.stands.objects, h.stands.keeps⟩

structure Shapes (columns : List (TableName × String)) (db db' : Db) : Prop where
  present : ∀ n, (db.table n).isSome → (db'.table n).isSome
  absent : Absent columns db → Absent columns db'

lemma shapes_put
    (h : ∀ p ∈ columns, p.1 = n → (∀ t, db.table n = some t → p.2 ∉ t.columns) → p.2 ∉ t'.columns) :
    Shapes columns db (db.put n (some t')) where
  present m hm := by
    by_cases hmn : m = n
    · subst hmn
      rw [db.put_self]
      rfl
    · rwa [db.put_of_ne _ hmn]
  absent habsent p hp t ht := by
    by_cases hpn : p.1 = n
    · have hold := fun t ht => habsent p hp t (hpn ▸ ht)
      rw [hpn, db.put_self] at ht
      cases ht
      exact h p hp hpn hold
    · rw [db.put_of_ne _ hpn] at ht
      exact habsent p hp t ht

lemma shapes_refl (columns : List (TableName × String)) : Shapes columns db db :=
  ⟨fun _ h => h, fun h => h⟩

lemma phase_ensureTable (d : Def) (columns : List (TableName × String))
    (h : Phase k stamp marked origin db) (hsettlements : n ≠ .hcrSettlementsV15)
    (hsubmissions : n ≠ .codingTaskSubmissionsV20) (hsound : Sound k n ⟨d, []⟩)
    (hcolumns : ∀ p ∈ columns, p.1 = n → p.2 ∉ d.columns) :
    ∃ db', exec true db (.createTable true n d) = .ok db' ∧ Phase k stamp marked origin db' ∧
      Shapes columns db db' ∧ (db'.table n).isSome := by
  refine ⟨_, exec_ensureTable d, ?_⟩
  split
  next hsome => exact ⟨h, shapes_refl columns, hsome⟩
  next hnone =>
    have hnone : db.table n = none := Option.not_isSome_iff_eq_none.mp hnone
    have hnew : ∀ t, db.table n = some t → Widens t ⟨d, []⟩ := by
      intro t ht
      rw [hnone] at ht
      cases ht
    refine ⟨h.put hsettlements hsubmissions hsound hnew (h.stands.approvals.put_new hnone d),
      shapes_put fun p hp hpn _ => hcolumns p hp hpn, ?_⟩
    rw [db.put_self]
    rfl

lemma phase_ensureObject (columns : List (TableName × String))
    (h : Phase k stamp marked origin db) (hfits : objectFits k object n) :
    Phase k stamp marked origin (if db.named object then db else db.addObject object n) ∧
      Shapes columns db (if db.named object then db else db.addObject object n) := by
  split
  · exact ⟨h, shapes_refl columns⟩
  · exact ⟨h.addObject hfits, ⟨fun _ h => h, fun h => h⟩⟩

lemma phase_ensureUnique (key : Key) (columns : List (TableName × String))
    (h : Phase k stamp marked origin db) (hfits : objectFits k index n)
    (ht : db.table n = some t) (hsettlements : n ≠ .hcrSettlementsV15)
    (hsubmissions : n ≠ .codingTaskSubmissionsV20) (happrovals : n ≠ .capabilityChangeApprovals)
    (hproposals : n ≠ .capabilityChangeProposals)
    (hsound : Sound k n { t with keys := t.keys ++ [key] })
    (hdistinct : t.rows.Pairwise fun r s => key.collide r s = false) :
    ∃ db', exec true db (.createIndex true index n (some key)) = .ok db' ∧
      Phase k stamp marked origin db' ∧ Shapes columns db db' := by
  refine ⟨_, exec_ensureUnique index ht hdistinct, ?_⟩
  split
  · exact ⟨h, shapes_refl columns⟩
  · have hwidens : ∀ u, db.table n = some u → Widens u { t with keys := t.keys ++ [key] } := by
      intro u hu
      rw [ht] at hu
      cases hu
      exact widens_refl t
    refine ⟨(h.put hsettlements hsubmissions hsound hwidens
      (h.stands.approvals.put happrovals hproposals)).addObject hfits, ?_⟩
    have hshape : Shapes columns db (db.put n (some { t with keys := t.keys ++ [key] })) :=
      shapes_put fun p hp _ hold => hold t ht
    exact ⟨hshape.present, hshape.absent⟩

lemma sound_widen (value : Value) (h : Sound k n t) (hn : Widenable n column) :
    Sound k n (t.widen column value) := by
  rcases hn with ⟨rfl, hcolumn⟩ | rfl | rfl
  · have hsame : ∀ r : Row, Function.update r column value "trigger_event_id" =
        r "trigger_event_id" := fun r => Function.update_of_ne hcolumn.symm value r
    simp only [Sound, DistinctTriggers, Table.widen, pairwise_map] at h ⊢
    refine h.imp fun {r s} hrs => ?_
    simpa [Key.collide, triggerKey, hsame] using hrs
  · trivial
  · trivial

lemma phase_addColumn (value : Value) (h : Phase k stamp marked origin db)
    (ht : db.table n = some t) (hcolumn : column ∉ t.columns) (hn : Widenable n column)
    (hcolumns : (n, column) ∉ columns) : ∃ db', exec true db (.addColumn n column value) = .ok db' ∧
      Phase k stamp marked origin db' ∧ Shapes columns db db' ∧
      ∃ t', db'.table n = some t' ∧ column ∈ t'.columns := by
  have hwidens : ∀ u, db.table n = some u → Widens u (t.widen column value) := by
    intro u hu
    rw [ht] at hu
    cases hu
    exact widens_widen value hcolumn
  have hne : n ≠ .hcrSettlementsV15 ∧ n ≠ .codingTaskSubmissionsV20 ∧
      n ≠ .capabilityChangeApprovals ∧ n ≠ .capabilityChangeProposals := by
    rcases hn with ⟨rfl, -⟩ | rfl | rfl <;> simp
  refine ⟨_, exec_addColumn ht hcolumn, ?_, ?_, _, db.put_self _, ?_⟩
  · exact h.put hne.1 hne.2.1 (sound_widen value (h.stands.sound n t ht) hn) hwidens
      (h.stands.approvals.put hne.2.2.1 hne.2.2.2)
  · refine shapes_put fun p hp hpn hold => ?_
    have hneq : p.2 ≠ column := by
      rintro rfl
      exact hcolumns (hpn ▸ hp)
    simpa [Table.widen, hneq] using hold t ht
  · simp [Table.widen]

lemma triple_commit (h : ∀ db, P db → ∃ db', tx db = .ok db' ∧ R db' ∧ C db') :
    Traced.Triple P (commit tx) (fun _ => R) C := by
  apply Traced.triple_commits
  intro db hdb
  obtain ⟨db', htx, hR, hC⟩ := h db hdb
  refine ⟨(), db', by rw [htx]; rfl, hR, fun b hb => ?_⟩
  rw [mem_singleton.mp hb]
  exact hC

lemma triple_batch_cons (hexec : exec true db s = .ok db') (hC : C db')
    (hrest : Traced.Triple (· = db') (executeBatch script) R C) :
    Traced.Triple (· = db) (executeBatch (s :: script)) R C := by
  have hfirst : Traced.Triple (· = db) (runStatement s) (fun _ => (· = db')) C :=
    triple_commit fun _ heq => ⟨db', heq ▸ hexec, rfl, hC⟩
  exact hfirst.bind fun _ => hrest

structure Before (k stamp : Nat) (marked : Bool) (origin : Db) (known : TableName → Prop)
    (pending : List (TableName × String)) (db : Db) : Prop where
  phase : Phase k stamp marked origin db
  known : ∀ n, known n → (db.table n).isSome
  absent : Absent pending db

lemma Before.found (h : Before k stamp marked origin known pending db)
    (hn : since n ≤ k ∨ known n) : ∃ t, db.table n = some t :=
  Option.isSome_iff_exists.mp (hn.elim (h.phase.stands.present n) (h.known n))

lemma Before.next (h : Before k stamp marked origin known pending db)
    (hphase : Phase k stamp marked origin db') (hshapes : Shapes columns db db')
    (hcolumns : columns ⊆ pending) : Before k stamp marked origin known columns db' where
  phase := hphase
  known n hn := hshapes.present n (h.known n hn)
  absent := hshapes.absent fun p hp => h.absent p (hcolumns hp)

lemma ready_step {known : List TableName} (h : Ready k known pending (s :: script) rest)
    (hbefore : Before k stamp marked origin (· ∈ known) pending db) :
    ∃ db' pending', exec true db s = .ok db' ∧
      Before k stamp marked origin (· ∈ makes [s] ++ known) pending' db' ∧
      Ready k (makes [s] ++ known) pending' script rest := by
  cases s with
  | createTable ifNotExists n d =>
    cases ifNotExists with
    | false => simp [Ready] at h
    | true =>
      obtain ⟨⟨hsettlements, hsubmissions⟩, hsound, hcolumns, hready⟩ := h
      obtain ⟨db', hexec, hphase, hshapes, hmade⟩ :=
        phase_ensureTable d pending hbefore.phase hsettlements hsubmissions hsound hcolumns
      have hnext := hbefore.next hphase hshapes (List.Subset.refl _)
      refine ⟨db', pending, hexec, ⟨hnext.phase, fun m hm => ?_, hnext.absent⟩, hready⟩
      rcases mem_cons.mp hm with rfl | hm
      · exact hmade
      · exact hnext.known m hm
  | createIndex ifNotExists index n unique =>
    cases ifNotExists with
    | false => simp [Ready] at h
    | true =>
      cases unique with
      | none =>
        obtain ⟨hfound, hfits, hready⟩ := h
        obtain ⟨t, ht⟩ := hbefore.found hfound
        obtain ⟨hphase, hshapes⟩ := phase_ensureObject pending hbefore.phase hfits
        exact ⟨_, pending, exec_ensureIndex index ht,
          hbefore.next hphase hshapes (List.Subset.refl _), hready⟩
      | some key =>
        obtain ⟨hfound, hfits, hempty, hready⟩ := h
        obtain ⟨t, ht⟩ := hbefore.found hfound
        have hsound := hbefore.phase.stands.sound n t ht
        -- the two tables with a unique index of their own are empty until their version
        have hrows : t.rows = [] := by
          rcases hempty with ⟨rfl, hk⟩ | ⟨rfl, hk⟩ <;> exact hsound hk
        have hne : n ≠ .hcrSettlementsV15 ∧ n ≠ .codingTaskSubmissionsV20 ∧
            n ≠ .capabilityChangeApprovals ∧ n ≠ .capabilityChangeProposals := by
          rcases hempty with ⟨rfl, -⟩ | ⟨rfl, -⟩ <;> simp
        have hsound' : Sound k n { t with keys := t.keys ++ [key] } := by
          rcases hempty with ⟨rfl, -⟩ | ⟨rfl, -⟩ <;> exact hsound
        obtain ⟨db', hexec, hphase, hshapes⟩ := phase_ensureUnique key pending
          hbefore.phase hfits ht hne.1 hne.2.1 hne.2.2.1 hne.2.2.2 hsound' (by simp [hrows])
        exact ⟨db', pending, hexec, hbefore.next hphase hshapes (List.Subset.refl _), hready⟩
  | createTrigger ifNotExists trigger n =>
    cases ifNotExists with
    | false => simp [Ready] at h
    | true =>
      obtain ⟨hfound, hfits, hready⟩ := h
      obtain ⟨t, ht⟩ := hbefore.found hfound
      obtain ⟨hphase, hshapes⟩ := phase_ensureObject pending hbefore.phase hfits
      exact ⟨_, pending, exec_ensureTrigger trigger ht,
        hbefore.next hphase hshapes (List.Subset.refl _), hready⟩
  | addColumn n column value =>
    cases pending with
    | nil => simp [Ready] at h
    | cons p pending =>
      obtain ⟨⟨rfl, rfl⟩, hfound, hcolumns, hn, hready⟩ := h
      obtain ⟨t, ht⟩ := hbefore.found hfound
      have hcolumn := hbefore.absent p (mem_cons_self ..) t ht
      obtain ⟨db', hexec, hphase, hshapes, -⟩ :=
        phase_addColumn value hbefore.phase ht hcolumn hn hcolumns
      exact ⟨db', pending, hexec, hbefore.next hphase hshapes (subset_cons_self _ _), hready⟩
  | insert | dropTable | renameTable | setVersion => simp [Ready] at h

lemma makes_cons (s : Statement TableName) (script : Script) :
    makes (s :: script) = makes [s] ++ makes script := by
  cases s <;> rfl

lemma triple_ready {known : List TableName} (h : Ready k known pending script rest) :
    Traced.Triple (Before k stamp marked origin (· ∈ known) pending) (executeBatch script)
      (fun _ => Before k stamp marked origin (fun n => n ∈ known ∨ n ∈ makes script) rest)
      (Left k stamp marked origin) := by
  induction script generalizing known pending with
  | nil =>
    obtain rfl : pending = rest := h
    refine Traced.triple_done fun db hdb => ⟨hdb.phase, fun n hn => ?_, hdb.absent⟩
    exact hdb.known n (hn.resolve_right not_mem_nil)
  | cons s script ih =>
    intro db hdb
    obtain ⟨db', pending', hexec, hbefore, hready⟩ := ready_step h hdb
    have hrun := triple_batch_cons hexec hbefore.phase.left ((ih hready).at hbefore)
    refine hrun.conseq (fun _ h => h) ?_ (fun _ h => h) db rfl
    rintro - db'' hafter
    refine ⟨hafter.phase, fun n hn => hafter.known n ?_, hafter.absent⟩
    rw [makes_cons] at hn
    simp only [mem_append] at hn ⊢
    tauto

end Scripts

/-! ## The upgrades one by one -/

structure Stage (k stamp : Nat) (marked : Bool) (origin db : Db) : Prop where
  phase : Phase k stamp marked origin db
  absent : Absent (pendingFrom k) db

def Upgrades (k stamp : Nat) (marked : Bool) (origin : Db) (m : Migration) : Prop :=
  Traced.Triple (Stage k stamp marked origin) m (fun _ => Stage (k + 1) stamp marked origin)
    (Left k stamp marked origin)

section Stages

variable {k stamp : Nat} {marked : Bool} {origin db db' : Db}

lemma Phase.succ (h : Phase k stamp marked origin db)
    (hmade : ∀ n, since n = k + 1 → (db.table n).isSome) :
    Phase (k + 1) stamp marked origin db where
  version := h.version
  marked := h.marked
  stands := h.stands.mono (Nat.le_succ k) fun n hn => by
    rcases Nat.lt_or_eq_of_le hn with hlt | heq
    · exact h.stands.present n (Nat.le_of_lt_succ hlt)
    · exact hmade n heq

lemma Absent.succ (h : Absent (pendingFrom k) db) : Absent (pendingFrom (k + 1)) db := by
  intro p hp
  obtain ⟨a, ha, rfl⟩ := mem_map.mp hp
  obtain ⟨hmem, hle⟩ := mem_filter.mp ha
  have hle : k + 1 ≤ a.1 := by simpa using hle
  exact h a.2 (mem_map_of_mem (mem_filter.mpr ⟨hmem, by simpa using by omega⟩))

lemma pendingFrom_table (h : p ∈ pendingFrom k) : p.1 = .runs ∨ p.1 = .hcrReceiptIdentities := by
  obtain ⟨a, ha, rfl⟩ := mem_map.mp h
  have hall : ∀ a ∈ additions, a.2.1 = .runs ∨ a.2.1 = .hcrReceiptIdentities := by decide
  exact hall a (mem_filter.mp ha).1

lemma upgrades_of_ready (h : Ready k [] (pendingFrom k) script (pendingFrom (k + 1)))
    (hmade : ∀ n, since n = k + 1 → n ∈ makes script) :
    Upgrades k stamp marked origin (executeBatch script) := by
  refine (triple_ready h).conseq (fun db hdb => ?_) (fun _ db hdb => ?_) fun _ h => h
  · exact ⟨hdb.phase, fun _ hn => absurd hn not_mem_nil, hdb.absent⟩
  · exact ⟨hdb.phase.succ fun n hn => hdb.known n (.inr (hmade n hn)), hdb.absent⟩

def addingScripts : List (Nat × Script) :=
  [(0, m0001Init),
    (1, m0002RegistrySnapshots),
    (2, m0003ExternalHarnessHotload),
    (3, m0004CapabilityChangeProposals),
    (5, m0006ExternalOperationGrants),
    (6, m0007HarnessChangeRequests),
    (7, m0008HcrClaims),
    (8, m0009HcrEvidence),
    (9, m0010HcrReceiptIdentity),
    (10, m0011CapabilityProposalHcrLinks),
    (12, m0013ComponentRegistry),
    (13, m0014ExternalReceiptEnvelopeDigests),
    (14, m0015DeliveryManifestColumns),
    (18, m0019RegistryHookBindings),
    (19, m0020SessionContinuations)]

attribute [local simp] Ready Widenable ensureTable ensureIndex ensureTrigger Sound objectFits
  pendingFrom additions since m0001Init m0002RegistrySnapshots m0003ExternalHarnessHotload
  m0004CapabilityChangeProposals m0006ExternalOperationGrants m0007HarnessChangeRequests
  m0008HcrClaims m0009HcrEvidence m0010HcrReceiptIdentity m0011CapabilityProposalHcrLinks
  m0013ComponentRegistry m0014ExternalReceiptEnvelopeDigests m0015DeliveryManifestColumns
  m0019RegistryHookBindings m0020SessionContinuations runs DistinctTriggers ingressDedup
  harnessManifests hcrSettlements hcrReceiptIdentities

lemma upgrades_adding (h : (k, script) ∈ addingScripts) :
    Upgrades k stamp marked origin (executeBatch script) := by
  have hall : ∀ p ∈ addingScripts, Upgrades p.1 stamp marked origin (executeBatch p.2) := by
    intro p hp
    fin_cases hp
    all_goals
      apply upgrades_of_ready
      · simp
      · intro n
        cases n <;> decide
  exact hall _ h

end Stages

end AgentCore.Journal.Migrations
