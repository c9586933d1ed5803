import Mathlib.Tactic.IntervalCases
import AgentCore.Journal.MigrationRebuild

/-! Every start after a crash at a repeatable place reaches the current version with every row
kept, and one that does not. -/

namespace AgentCore.Journal.Migrations

open Foundation Foundation.Sql Domain List Option Database Traced

/-! ## Backfills -/

section Backfills

variable {k stamp v : Nat} {marked : Bool} {origin db : Db} {t : Table TableName}

def proposalReference : String × TableName × String :=
  ("proposal_id", .capabilityChangeProposals, "proposal_id")

lemma phase_insertIgnore (select : Db → Except SqlError (List Row))
    (columns : List (TableName × String)) (h : Phase k stamp marked origin db)
    (ht : db.table n = some t) (hselect : select db = .ok rs)
    (hn : n = .ingressDedup ∨ n = .capabilityGovernanceApprovals ∨
      n = .capabilityChangeApprovals ∧ ∀ r ∈ rs, db.refersTo r proposalReference = true)
    (hrefs : ∀ r ∈ rs, ∀ ref ∈ t.references, ref.2.1 ≠ n ∧ db.refersTo r ref = true) :
    ∃ db', exec true db (.insert true n select) = .ok db' ∧ Phase k stamp marked origin db' ∧
      Shapes columns db db' := by
  obtain ⟨more, hmore, hfold⟩ := foldlM_insertRow_ignore true rs ht hrefs
  refine ⟨_, (exec_insert ht hselect).trans hfold, ?_, ?_⟩
  · have hsound : Sound k n { t with rows := t.rows ++ more } := by
      have hold := h.stands.sound n t ht
      rcases hn with rfl | rfl | ⟨rfl, -⟩ <;> exact hold
    have hwidens : ∀ u, db.table n = some u → Widens u { t with rows := t.rows ++ more } := by
      intro u hu
      rw [ht] at hu
      cases hu
      exact widens_append more
    have happrovals : ApprovalsRefer (db.put n (some { t with rows := t.rows ++ more })) := by
      rcases hn with rfl | rfl | ⟨rfl, hrefer⟩
      · exact h.stands.approvals.put (by decide) (by decide)
      · exact h.stands.approvals.put (by decide) (by decide)
      · intro u hu r hr
        rw [db.put_self] at hu
        cases hu
        have hrefers : db.refersTo r proposalReference = true := by
          rcases mem_append.mp hr with hr | hr
          · exact h.stands.approvals t ht r hr
          · exact hrefer r (hmore hr)
        rw [refersTo_iff] at hrefers ⊢
        rwa [db.put_of_ne _ (by decide)]
    have hne : n ≠ .hcrSettlementsV15 ∧ n ≠ .codingTaskSubmissionsV20 := by
      rcases hn with rfl | rfl | ⟨rfl, -⟩ <;> decide
    exact h.put hne.1 hne.2 hsound hwidens happrovals
  · exact shapes_put fun p hp _ hold => hold t ht

lemma mem_selectPendingApprovals (h : selectPendingApprovals draws db = .ok rs) :
    ∀ r ∈ rs, ∀ ref ∈ capabilityChangeApprovals.references,
      ref.2.1 ≠ .capabilityChangeApprovals ∧ db.refersTo r ref = true := by
  unfold selectPendingApprovals at h
  cases hproposals : db.table .capabilityChangeProposals with
  | none => simp [find, hproposals, bind, Except.bind] at h
  | some proposals =>
    cases hlinks : db.table .capabilityProposalHcrLinks with
    | none => simp [find, hproposals, hlinks, bind, Except.bind] at h
    | some links =>
      rw [find_of_some hproposals, find_of_some hlinks] at h
      cases h
      intro r hr ref href
      obtain ⟨p, hp, hr⟩ := mem_flatMap.mp hr
      obtain ⟨l, hl, rfl⟩ := mem_map.mp hr
      obtain ⟨hl, hjoin⟩ := mem_filter.mp hl
      obtain ⟨-, hsame, -⟩ := of_decide_eq_true hjoin
      -- the row names the proposal of the join, which has a row in both tables
      simp only [capabilityChangeApprovals, mem_cons, not_mem_nil, or_false] at href
      rcases href with rfl | rfl
      · exact ⟨by decide, refersTo_iff.mpr (.inr ⟨proposals, hproposals, p, hp, rfl⟩)⟩
      · exact ⟨by decide, refersTo_iff.mpr (.inr ⟨links, hlinks, l, hl, hsame⟩)⟩

lemma selectPendingApprovals_ok (draws : Draws) (h : Stands k origin db) (hk : 11 ≤ k) :
    ∃ rs, selectPendingApprovals draws db = .ok rs := by
  obtain ⟨proposals, hproposals⟩ := isSome_iff_exists.mp
    (h.present .capabilityChangeProposals (Nat.le_trans (by decide) hk))
  obtain ⟨links, hlinks⟩ := isSome_iff_exists.mp
    (h.present .capabilityProposalHcrLinks (Nat.le_trans (by decide) hk))
  rw [selectPendingApprovals, find_of_some hproposals, find_of_some hlinks]
  exact ⟨_, rfl⟩

lemma executeBatch_append (first second : Script) :
    executeBatch (first ++ second) = executeBatch first >>= fun _ => executeBatch second := by
  induction first with
  | nil => rfl
  | cons s first ih =>
    rw [cons_append, executeBatch, executeBatch, ih, Traced.bind_assoc]

lemma upgrades_of_backfill (first : Script)
    (hfirst : Ready k [] (pendingFrom k) first (pendingFrom k))
    (hlast : Ready k (makes first) (pendingFrom k) last (pendingFrom (k + 1)))
    (hmade : ∀ m, since m = k + 1 → m ∈ makes first)
    (hinsert : ∀ db, Phase k stamp marked origin db → (∀ m ∈ makes first, (db.table m).isSome) →
      ∃ db', exec true db (.insert true n select) = .ok db' ∧ Phase k stamp marked origin db' ∧
        Shapes (pendingFrom k) db db') :
    Upgrades k stamp marked origin (executeBatch (first ++ .insert true n select :: last)) := by
  rw [Upgrades, executeBatch_append]
  have hmiddle : Traced.Triple (Before k stamp marked origin (· ∈ makes first) (pendingFrom k))
      (runStatement (.insert true n select))
      (fun _ => Before k stamp marked origin (· ∈ makes first) (pendingFrom k))
      (Left k stamp marked origin) := by
    apply triple_commit
    intro db hdb
    obtain ⟨db', hexec, hphase, hshapes⟩ := hinsert db hdb.phase hdb.known
    exact ⟨db', hexec, hdb.next hphase hshapes (List.Subset.refl _), hphase.left⟩
  refine Traced.Triple.bind ((triple_ready hfirst).conseq ?_ ?_ fun _ h => h) fun _ =>
    hmiddle.bind fun _ => (triple_ready hlast).conseq (fun _ h => h) ?_ fun _ h => h
  · exact fun db hdb => ⟨hdb.phase, fun _ hn => absurd hn not_mem_nil, hdb.absent⟩
  · exact fun _ db hdb => ⟨hdb.phase, fun m hm => hdb.known m (.inr hm), hdb.absent⟩
  · intro _ db hdb
    exact ⟨hdb.phase.succ fun m hm => hdb.known m (.inl (hmade m hm)), hdb.absent⟩

attribute [local simp] Ready ensureTable ensureIndex ensureTrigger Sound objectFits pendingFrom
  additions since makes

lemma upgrades_m0012 (draws : Draws) :
    Upgrades 11 stamp marked origin (executeBatch (m0012CapabilityChangeApprovals draws)) := by
  apply upgrades_of_backfill [ensureTable .capabilityChangeApprovals capabilityChangeApprovals,
    ensureIndex "idx_capability_approvals_owner_status" .capabilityChangeApprovals]
  · simp
  · simp
  · intro m
    cases m <;> simp
  · intro db hphase hknown
    obtain ⟨t, ht⟩ := isSome_iff_exists.mp (hknown .capabilityChangeApprovals (by simp))
    obtain ⟨rs, hselect⟩ := selectPendingApprovals_ok draws hphase.stands (le_refl 11)
    have hrefs := mem_selectPendingApprovals hselect
    have hreferences : t.references = capabilityChangeApprovals.references :=
      hphase.stands.sound _ t ht
    refine phase_insertIgnore _ (pendingFrom 11) hphase ht hselect
      (.inr (.inr ⟨rfl, fun r hr => (hrefs r hr proposalReference (by decide)).2⟩)) ?_
    rw [hreferences]
    exact hrefs

lemma upgrades_m0017 :
    Upgrades 16 stamp marked origin (executeBatch m0017GenericAcceptanceReceipts) := by
  apply upgrades_of_backfill
    [ensureTable .capabilityProposalReceiptLinks capabilityProposalReceiptLinks,
      ensureTable .capabilityGovernanceApprovals capabilityGovernanceApprovals]
  · simp
  · simp
  · intro m
    cases m <;> simp
  · intro db hphase hknown
    obtain ⟨t, ht⟩ := isSome_iff_exists.mp (hknown .capabilityGovernanceApprovals (by simp))
    obtain ⟨approvals, happrovals⟩ := isSome_iff_exists.mp
      (hphase.stands.present .capabilityChangeApprovals (by decide))
    have hselect : selectApprovals db = .ok (approvals.rows.map (project approvalColumns)) := by
      rw [selectApprovals, find_of_some happrovals]
      rfl
    refine phase_insertIgnore _ (pendingFrom 16) hphase ht hselect (.inr (.inl rfl)) ?_
    intro r hr ref href
    obtain ⟨r', hr', rfl⟩ := mem_map.mp hr
    have hreferences : t.references = capabilityGovernanceApprovals.references :=
      hphase.stands.sound _ t ht
    rw [hreferences] at href
    obtain rfl := mem_singleton.mp href
    refine ⟨by decide, ?_⟩
    have hrefers := hphase.stands.approvals approvals happrovals r' hr'
    rw [refersTo_iff] at hrefers ⊢
    exact hrefers

end Backfills

/-! ## What asks before it adds -/

section Guarded

variable {k stamp v : Nat} {marked : Bool} {origin db : Db} {t : Table TableName}

lemma triple_ensureColumn (hn : Widenable n column)
    (hpending : (n, column) ∉ pending) (hfound : since n ≤ k ∨ known n) :
    Traced.Triple (Before k stamp marked origin known pending) (ensureColumn n column value)
      (fun _ => Before k stamp marked origin known pending) (Left k stamp marked origin) := by
  have hread : Traced.Triple (Before k stamp marked origin known pending) (hasColumn n column)
      (fun found db => Before k stamp marked origin known pending db ∧
        found = (db.table n).any fun t => decide (column ∈ t.columns))
      (Left k stamp marked origin) :=
    triple_reads fun db hdb => ⟨_, rfl, hdb, rfl⟩
  refine hread.bind fun found => ?_
  cases found with
  | true => exact triple_done fun db hdb => hdb.1
  | false =>
    refine triple_commit fun db ⟨hdb, hmissing⟩ => ?_
    obtain ⟨t, ht⟩ := hdb.found hfound
    have hcolumn : column ∉ t.columns := by simpa [ht] using hmissing.symm
    obtain ⟨db', hexec, hphase, hshapes, -⟩ :=
      phase_addColumn value hdb.phase ht hcolumn hn hpending
    exact ⟨db', hexec, hdb.next hphase hshapes (List.Subset.refl _), hphase.left⟩

lemma Stage.before (h : Stage k stamp marked origin db) :
    Before k stamp marked origin (fun _ => False) (pendingFrom k) db :=
  ⟨h.phase, fun _ hn => hn.elim, h.absent⟩

lemma upgrades_budget : Upgrades 17 stamp marked origin ensureBudgetColumns := by
  have hcolumn : ∀ column value, column ≠ "trigger_event_id" →
      Traced.Triple (Before 17 stamp marked origin (fun _ => False) []) (ensureColumn .runs column value)
        (fun _ => Before 17 stamp marked origin (fun _ => False) []) (Left 17 stamp marked origin) :=
    fun column value hne =>
      triple_ensureColumn (.inl ⟨rfl, hne⟩) not_mem_nil (.inl (by decide))
  have hall := (hcolumn "budget_hook_id" .null (by decide)).bind fun _ =>
    (hcolumn "budget_max_tool_rounds" .null (by decide)).bind fun _ =>
      (hcolumn "budget_max_wall_time_ms" .null (by decide)).bind fun _ =>
        hcolumn "budget_exhaustion_action" .null (by decide)
  refine hall.conseq (fun db hdb => hdb.before) (fun _ db hdb => ?_) fun _ h => h
  exact ⟨hdb.phase.succ (by intro n; cases n <;> simp [since]), hdb.absent⟩

lemma upgrades_hookBindings : Upgrades 18 stamp marked origin ensureRegistryHookBindingsTable := by
  have hread : Traced.Triple (Stage 18 stamp marked origin)
      (reads fun db => .ok (db.table .registrySnapshotHookBindings).isSome :
        Traced MigrateError Db Db Bool)
      (fun found db => Stage 18 stamp marked origin db ∧
        found = (db.table .registrySnapshotHookBindings).isSome) (Left 18 stamp marked origin) :=
    triple_reads fun db hdb => ⟨_, rfl, hdb, rfl⟩
  refine hread.bind fun found => ?_
  cases found with
  | true =>
    refine triple_done fun db ⟨hdb, hfound⟩ => ⟨hdb.phase.succ ?_, hdb.absent.succ⟩
    intro n hn
    have hself : n = .registrySnapshotHookBindings := by
      cases n <;> first | rfl | exact absurd hn (by decide)
    rw [hself, ← hfound]
  | false => exact (upgrades_adding (by simp [addingScripts])).conseq (fun db hdb => hdb.1) (fun _ _ h => h) fun _ h => h

/-! ## Every start -/

lemma ready_queueTables : Ready k [] (pendingFrom k) queueTables.tail (pendingFrom k) := by
  have hne : ∀ p ∈ pendingFrom k, ∀ d : Def, p.1 = .workerJobs ∨ p.1 = .outboxDispatches →
      p.2 ∉ d.columns := by
    intro p hp d hn
    rcases pendingFrom_table hp with hp | hp <;> rw [hp] at hn <;> simp at hn
  have hjobs := fun a b hp ha => hne (a, b) hp workerJobs (.inl ha)
  have houtbox := fun a b hp ha => hne (a, b) hp outboxDispatches (.inr ha)
  simpa [queueTables, Ready, ensureTable, ensureIndex, Sound, objectFits] using ⟨hjobs, houtbox⟩

lemma triple_queueMigrate (hk : 1 ≤ k) : Traced.Triple (Stage k stamp marked origin) queueMigrate
      (fun _ => Stage k stamp marked origin) (Left k stamp marked origin) := by
  have houtbox : ∀ column, (.outboxDispatches, column) ∉ pendingFrom k := by
    intro column hmem
    rcases pendingFrom_table hmem with h | h <;> cases h
  have hcolumn : ∀ column value, Traced.Triple
      (Before k stamp marked origin (· = .outboxDispatches) (pendingFrom k))
      (ensureColumn .outboxDispatches column value)
      (fun _ => Before k stamp marked origin (· = .outboxDispatches) (pendingFrom k))
      (Left k stamp marked origin) := fun column value =>
    triple_ensureColumn (.inr (.inr rfl)) (houtbox column) (.inr rfl)
  have htables : Traced.Triple (Stage k stamp marked origin) (executeBatch queueTables)
      (fun _ => Before k stamp marked origin (· = .outboxDispatches) (pendingFrom k))
      (Left k stamp marked origin) := by
    intro db hdb
    obtain ⟨t, ht⟩ := hdb.before.found (n := .runs) (.inl hk)
    have hfits : objectFits k "idx_runs_trigger_event" .runs := by simp [objectFits]
    have hdistinct : DistinctTriggers t := hdb.phase.stands.sound _ t ht
    obtain ⟨db', hexec, hphase, hshapes⟩ := phase_ensureUnique triggerKey (pendingFrom k)
      hdb.phase hfits ht (by decide) (by decide) (by decide) (by decide) hdistinct hdistinct
    have hbefore : Before k stamp marked origin (· ∈ []) (pendingFrom k) db' :=
      ⟨hphase, fun _ hn => absurd hn not_mem_nil, hshapes.absent hdb.absent⟩
    have hrun := triple_batch_cons hexec hphase.left ((triple_ready ready_queueTables).at hbefore)
    refine hrun.conseq (fun _ h => h) (fun _ db hafter => ?_) (fun _ h => h) db rfl
    refine ⟨hafter.phase, fun n hn => hafter.known n (.inr ?_), hafter.absent⟩
    rw [hn]
    simp [makes, queueTables, ensureTable, ensureIndex]
  refine htables.bind fun _ => (hcolumn _ _).bind fun _ => (hcolumn _ _).conseq (fun _ h => h) ?_
    fun _ h => h
  exact fun _ db hdb => ⟨hdb.phase, hdb.absent⟩

lemma triple_backfillRows (hk : 1 ≤ k) (rows : List (Option Row)) :
    Traced.Triple (Stage k stamp marked origin) (backfillRows rows)
      (fun _ => Stage k stamp marked origin) (Left k stamp marked origin) := by
  induction rows with
  | nil => exact triple_done fun _ h => h
  | cons entry rows ih =>
    cases entry with
    | none => exact ih
    | some r =>
      refine Traced.Triple.bind (triple_commit fun db hdb => ?_) fun _ => ih
      obtain ⟨t, ht⟩ := hdb.before.found (n := .ingressDedup) (.inl hk)
      have hreferences : t.references = [] := hdb.phase.stands.sound _ t ht
      obtain ⟨db', hexec, hphase, hshapes⟩ := phase_insertIgnore (fun _ => .ok [r])
        (pendingFrom k) hdb.phase ht rfl (.inl rfl) (by simp [hreferences])
      exact ⟨db', hexec, ⟨hphase, hshapes.absent hdb.absent⟩, hphase.left⟩

variable [Platform]

lemma selectIngress_ok (h : Stands k origin db) (hk : 1 ≤ k) :
    ∃ rows, selectIngress db = .ok rows := by
  obtain ⟨t, ht⟩ := isSome_iff_exists.mp (h.present .journalEvents hk)
  have htexts : ∀ r ∈ t.rows, HasTexts r := h.sound _ t ht
  rw [selectIngress, find_of_some ht]
  have key : ∀ rows : List Row, (∀ r ∈ rows, HasTexts r ∧ r "kind" = .text "IngressAccepted") →
      ∃ entries, (rows.mapM fun r => do
        return dedupEntry (← textOf (r "event_id")) (← textOf (r "payload_json"))
          (← textOf (r "created_at")) : Except SqlError (List (Option Row))) = .ok entries := by
    intro rows hrows
    induction rows with
    | nil => exact ⟨[], rfl⟩
    | cons r rows ih =>
      obtain ⟨hr, hkind⟩ := hrows r mem_cons_self
      obtain ⟨eventId, payload, createdAt, hid, hpayload, hcreated⟩ := hr hkind
      obtain ⟨entries, hentries⟩ := ih fun r hr => hrows r (mem_cons_of_mem _ hr)
      refine ⟨dedupEntry eventId payload createdAt :: entries, ?_⟩
      rw [mapM_cons, hentries, hid, hpayload, hcreated]
      rfl
  apply key
  intro r hr
  obtain ⟨hmem, hkind⟩ := mem_filter.mp hr
  exact ⟨htexts r hmem, of_decide_eq_true hkind⟩

lemma triple_backfillFeishuMessageDedup (hk : 1 ≤ k) :
    Traced.Triple (Stage k stamp marked origin) backfillFeishuMessageDedup
      (fun _ => Stage k stamp marked origin) (Left k stamp marked origin) := by
  refine Traced.Triple.bind (R := fun _ => Stage k stamp marked origin)
    (triple_reads fun db hdb => ?_) fun rows => triple_backfillRows hk rows
  obtain ⟨rows, hrows⟩ := selectIngress_ok hdb.phase.stands hk
  exact ⟨rows, by rw [hrows]; rfl, hdb⟩

end Guarded

/-! ## Whole migrations -/

section Migrations

variable {k stamp v : Nat} {marked : Bool} {origin db : Db} (draws : Draws)

def Recoverable (v : Nat) (origin db : Db) : Prop :=
  Whole db → v ≤ db.version ∧ db.version ≤ 21 ∧ Stands db.version origin db

lemma Left.recoverable (h : Left k k marked origin db) (hv : v ≤ k) (hk : k ≤ 21) :
    Recoverable v origin db := by
  intro hwhole
  rw [h.version]
  exact ⟨hv, hk, h.stands hwhole⟩

lemma Left.recoverable_early (h : Left k stamp marked origin db) (hv : v ≤ stamp)
    (hstamp : stamp ≤ k) (hk : k ≤ 5) : Recoverable v origin db := by
  intro hwhole
  rw [h.version]
  exact ⟨hv, by omega, (h.stands hwhole).anti hstamp hk⟩

lemma Left.recoverable_marked (h : Left k 0 true origin db) : Recoverable v origin db := by
  intro hwhole
  obtain ⟨t, ht, hcolumn⟩ := h.marked rfl
  have habsent := hwhole.columns (.runs, "registry_snapshot_id")
  rw [h.version] at habsent
  exact absurd hcolumn (habsent (by decide) t ht)

lemma upgradeBody_upgrades (hv : StartsAt v origin) (hvk : v ≤ k) (hk : 2 ≤ k) (hk' : k ≤ 19) :
    ∃ body, upgradeBody draws k = some body ∧ Upgrades k stamp marked origin body := by
  interval_cases k
  all_goals first
    | exact ⟨_, rfl, upgrades_m0005 hv⟩
    | exact ⟨_, rfl, upgrades_m0012 draws⟩
    | exact ⟨_, rfl, upgrades_m0016 hv hvk⟩
    | exact ⟨_, rfl, upgrades_m0017⟩
    | exact ⟨_, rfl, upgrades_budget⟩
    | exact ⟨_, rfl, upgrades_hookBindings⟩
    | exact ⟨_, rfl, upgrades_adding (by simp [addingScripts])⟩

lemma triple_migrateV20ToV21 (hv : StartsAt v origin) :
    Traced.Triple (Stage 20 stamp marked origin) migrateV20ToV21
      (fun _ => Stage 21 21 marked origin) (Left 21 21 marked origin) := by
  apply triple_commit
  intro db hdb
  obtain ⟨db', hrun, hphase⟩ := phase_submissions hv hdb.phase
  exact ⟨db', hrun, ⟨hphase, fun p hp => absurd hp (by simp [pendingFrom, additions])⟩, hphase.left⟩

lemma triple_stamp : Traced.Triple (Stage (k + 1) stamp marked origin)
    (runStatement (.setVersion (k + 1))) (fun _ => Stage (k + 1) (k + 1) marked origin)
    (Left (k + 1) (k + 1) marked origin) := by
  apply triple_commit
  intro db hdb
  have hphase := hdb.phase.stamped (k + 1)
  exact ⟨_, rfl, ⟨hphase, hdb.absent⟩, hphase.left⟩

lemma upgrade_upgrades (hv : StartsAt v origin) (hvk : v ≤ k) (hk : 2 ≤ k) (hk' : k ≤ 20) :
    ∃ arm, upgrade draws k = some arm ∧ Traced.Triple (Stage k k false origin) arm
      (fun _ => Stage (k + 1) (k + 1) false origin) (Recoverable v origin) := by
  by_cases hlast : k = 20
  · subst hlast
    exact ⟨migrateV20ToV21, rfl, (triple_migrateV20ToV21 hv).conseq (fun _ h => h)
      (fun _ _ h => h) fun _ h => h.recoverable (by omega) (le_refl 21)⟩
  · obtain ⟨body, hbody, hupgrades⟩ := upgradeBody_upgrades draws hv hvk hk (by omega)
    refine ⟨_, by rw [upgrade, if_neg hlast, hbody]; rfl, ?_⟩
    have hfirst := hupgrades.conseq (fun _ h => h) (fun _ _ h => h)
      fun db h => Left.recoverable h hvk (by omega)
    refine hfirst.bind fun _ => triple_stamp.conseq (fun _ h => h) (fun _ _ h => h) ?_
    exact fun db h => h.recoverable (by omega) (by omega)

lemma triple_upgradeLoop (hv : StartsAt v origin) (rounds : Nat) (hvk : v ≤ k) (hk : 2 ≤ k)
    (hk' : k ≤ 21) (hrounds : 21 - k ≤ rounds) :
    Traced.Triple (Stage k k false origin) (upgradeLoop draws rounds)
      (fun _ => Stage 21 21 false origin) (Recoverable v origin) := by
  induction rounds generalizing k with
  | zero =>
    obtain rfl : k = 21 := by omega
    exact triple_done fun _ h => h
  | succ rounds ih =>
    have hread : Traced.Triple (Stage k k false origin) userVersion
        (fun current db => Stage k k false origin db ∧ current = k) (Recoverable v origin) :=
      triple_reads fun db hdb => ⟨_, rfl, hdb, hdb.phase.version⟩
    refine hread.bind fun current db hdb => ?_
    obtain ⟨hstage, rfl⟩ := hdb
    by_cases hdone : current = 21
    · subst hdone
      exact ⟨(), rfl, hstage, fun _ hb => absurd hb not_mem_nil⟩
    · obtain ⟨arm, harm, htriple⟩ := upgrade_upgrades draws hv hvk hk (by omega)
      have hpending : ¬ CURRENT_SCHEMA_VERSION ≤ current := by
        rw [CURRENT_SCHEMA_VERSION]
        omega
      have hrun := htriple.bind fun _ => ih (by omega) (by omega) (by omega) (by omega)
      simp only [hpending, if_false, harm]
      exact hrun db hstage

lemma triple_m0002_marked :
    Traced.Triple (Stage 1 stamp false origin) (executeBatch m0002RegistrySnapshots)
      (fun _ => Stage 2 stamp true origin) (Left 1 stamp false origin) := by
  intro db hdb
  obtain ⟨db₁, hsnapshots, hphase₁, hshapes₁, hmade₁⟩ :=
    phase_ensureTable registrySnapshots (pendingFrom 1) hdb.phase (n := .registrySnapshots)
      (by decide) (by decide) trivial (by decide)
  obtain ⟨db₂, hoperations, hphase₂, hshapes₂, hmade₂⟩ :=
    phase_ensureTable registrySnapshotOperations (pendingFrom 1) hphase₁
      (n := .registrySnapshotOperations) (by decide) (by decide) trivial (by decide)
  have habsent₂ := hshapes₂.absent (hshapes₁.absent hdb.absent)
  obtain ⟨t, ht⟩ := isSome_iff_exists.mp (hphase₂.stands.present .runs (by decide))
  have hcolumn := habsent₂ (.runs, "registry_snapshot_id") (by decide) t ht
  have hfree : (.runs, "registry_snapshot_id") ∉ pendingFrom 2 := by decide
  obtain ⟨db₃, hadd, hphase₃, hshapes₃, t', ht', hmark⟩ :=
    phase_addColumn .null hphase₂ ht hcolumn (.inl ⟨rfl, by decide⟩) hfree
  have hmade : ∀ n, since n = 1 + 1 → (db₃.table n).isSome := by
    intro n hn
    cases n <;> first
      | exact absurd hn (by decide)
      | exact hshapes₃.present _ (hshapes₂.present _ hmade₁)
      | exact hshapes₃.present _ hmade₂
  have hstage : Stage 2 stamp true origin db₃ :=
    ⟨⟨hphase₃.version, fun _ => ⟨t', ht', hmark⟩, (hphase₃.succ hmade).stands⟩,
      hshapes₃.absent habsent₂.succ⟩
  exact triple_batch_cons hsnapshots hphase₁.left (triple_batch_cons hoperations hphase₂.left
    (triple_batch_cons hadd hphase₃.left (triple_done fun _ heq => heq ▸ hstage))) db rfl

lemma whole_of_startsAt (hv : StartsAt v origin) : Whole origin where
  columns := by
    rw [hv.stamped]
    exact hv.columns
  manifests t ht := by
    rw [hv.absent .harnessManifestsV5 (Nat.lt_of_le_of_lt hv.old (by decide)) (by decide)
      (by decide) (by decide)] at ht
    cases ht

lemma stands_of_startsAt (hv : StartsAt v origin)
    (htriggers : ∀ t, origin.table .runs = some t → DistinctTriggers t) :
    Stands v origin origin where
  present := hv.present
  settlementsFree :=
    hv.absent _ (Nat.lt_of_le_of_lt hv.old (by decide)) (by decide) (by decide) (by decide)
  submissionsFree :=
    hv.absent _ (Nat.lt_of_le_of_lt hv.old (by decide)) (by decide) (by decide) (by decide)
  sound n t ht := by
    by_cases hn : n = .runs
    · subst hn
      exact htriggers t ht
    · exact hv.constraints n t hn ht
  approvals := hv.approvals
  objects := hv.objects
  keeps _ t ht := ⟨t, ht, List.Subset.refl _, fun r hr => ⟨r, hr, .inl fun _ _ => rfl⟩⟩

variable [Platform]

lemma triple_migrateFresh (hv : StartsAt 0 origin) :
    Traced.Triple (Stage 0 0 false origin) (migrateFresh draws)
      (fun _ => Stage 21 21 true origin) (Recoverable 0 origin) := by
  have hbase : ∀ db, Left 0 0 false origin db → Recoverable 0 origin db :=
    fun db h => h.recoverable (le_refl 0) (by decide)
  have hearly : ∀ db, Left 1 0 false origin db → Recoverable 0 origin db :=
    fun db h => h.recoverable_early (le_refl 0) (by decide) (by decide)
  -- from the first added column on no crash leaves a whole database
  have hlate : ∀ {k m}, Upgrades k 0 true origin m → Traced.Triple (Stage k 0 true origin) m
      (fun _ => Stage (k + 1) 0 true origin) (Recoverable 0 origin) := fun h =>
    h.conseq (fun _ h => h) (fun _ _ h => h) fun _ h => h.recoverable_marked
  unfold migrateFresh
  have hbody : ∀ {k body}, upgradeBody draws k = some body → 2 ≤ k → k ≤ 19 →
      Upgrades k 0 true origin body := fun hbody hk hk' => by
    obtain ⟨_, heq, hupgrades⟩ := upgradeBody_upgrades draws hv (Nat.zero_le _) hk hk'
    exact some.inj (heq.symm.trans hbody) ▸ hupgrades
  refine ((upgrades_adding (by simp [addingScripts])).conseq (fun _ h => h) (fun _ _ h => h) hbase).bind fun _ => ?_
  refine (triple_m0002_marked.conseq (fun _ h => h) (fun _ _ h => h) hearly).bind fun _ => ?_
  iterate 17 refine (hlate (hbody rfl (by decide) (by decide))).bind fun _ => ?_
  refine ((triple_queueMigrate (by decide)).conseq (fun _ h => h) (fun _ _ h => h)
    fun _ h => h.recoverable_marked).bind fun _ => ?_
  refine ((triple_backfillFeishuMessageDedup (by decide)).conseq (fun _ h => h) (fun _ _ h => h)
    fun _ h => h.recoverable_marked).bind fun _ => ?_
  refine (hlate (hbody rfl (by decide) (by decide))).bind fun _ => ?_
  exact (triple_migrateV20ToV21 hv).conseq (fun _ h => h) (fun _ _ h => h)
    fun _ h => h.recoverable (by decide) (le_refl 21)

lemma triple_finish (hv : v ≤ 21) :
    Traced.Triple (Stage 21 21 false origin) (do queueMigrate; backfillFeishuMessageDedup)
      (fun _ => Stage 21 21 false origin) (Recoverable v origin) := by
  have hleft : ∀ db, Left 21 21 false origin db → Recoverable v origin db :=
    fun db h => h.recoverable hv (le_refl 21)
  refine ((triple_queueMigrate (by decide)).conseq (fun _ h => h) (fun _ _ h => h) hleft).bind
    fun _ => ?_
  exact (triple_backfillFeishuMessageDedup (by decide)).conseq (fun _ h => h) (fun _ _ h => h) hleft

lemma triple_migrateV1 (hle : v ≤ 1)
    (hrest : Traced.Triple (Stage 2 2 false origin) rest R (Recoverable v origin)) :
    Traced.Triple (Stage 1 1 false origin)
      (do executeBatch m0002RegistrySnapshots; queueMigrate; backfillFeishuMessageDedup
          runStatement (.setVersion 2); rest) R (Recoverable v origin) := by
  have hearly : ∀ {k}, 1 ≤ k → k ≤ 5 → ∀ db, Left k 1 false origin db → Recoverable v origin db :=
    fun hk hk' db h => h.recoverable_early hle hk hk'
  refine ((upgrades_adding (by simp [addingScripts])).conseq (fun _ h => h) (fun _ _ h => h)
    (hearly (le_refl 1) (by decide))).bind fun _ => ?_
  refine ((triple_queueMigrate (by decide)).conseq (fun _ h => h) (fun _ _ h => h)
    (hearly (by decide) (by decide))).bind fun _ => ?_
  refine ((triple_backfillFeishuMessageDedup (by decide)).conseq (fun _ h => h) (fun _ _ h => h)
    (hearly (by decide) (by decide))).bind fun _ => ?_
  exact (triple_stamp.conseq (fun _ h => h) (fun _ _ h => h)
    fun _ h => h.recoverable (by omega) (by decide)).bind fun _ => hrest

lemma triple_migrate (hv : StartsAt v origin) (hvle : v ≤ db.version) (hle : db.version ≤ 21)
    (hwhole : Whole db) (hstands : Stands db.version origin db) :
    Traced.Triple (· = db) (migrate draws) (fun _ s => ∃ marked, Stage 21 21 marked origin s)
      (Recoverable v origin) := by
  have hstage : Stage db.version db.version false origin db :=
    ⟨⟨rfl, nofun, hstands⟩, hwhole.columns⟩
  have hread : Traced.Triple (· = db) userVersion
      (fun applied s => s = db ∧ applied = db.version) (Recoverable v origin) :=
    triple_reads fun s hs => ⟨_, rfl, hs, by rw [hs]⟩
  refine hread.bind fun applied s hs => ?_
  obtain ⟨rfl, happlied⟩ := hs
  have hsupported : ¬ CURRENT_SCHEMA_VERSION < applied := by
    rw [CURRENT_SCHEMA_VERSION]
    omega
  have hfinish : Traced.Triple (Stage 21 21 false origin)
      (do queueMigrate; backfillFeishuMessageDedup)
      (fun _ s => ∃ marked, Stage 21 21 marked origin s) (Recoverable v origin) :=
    (triple_finish (Nat.le_trans hvle hle)).conseq (fun _ h => h) (fun _ _ h => ⟨false, h⟩)
      fun _ h => h
  rw [← happlied] at hstage hvle hle
  simp only [hsupported, if_false]
  by_cases hzero : applied = 0
  · subst hzero
    obtain rfl : v = 0 := by omega
    -- the migration of a new database stamps the current version itself
    have hloop : Traced.Triple (Stage 21 21 true origin)
        (upgradeLoop draws CURRENT_SCHEMA_VERSION) (fun _ => Stage 21 21 true origin)
        (Recoverable 0 origin) := by
      intro s' hs'
      have hread : (userVersion s').result = .ok 21 := congrArg Except.ok hs'.phase.version
      have hrun : upgradeLoop draws CURRENT_SCHEMA_VERSION s' = ⟨[], s', .ok ()⟩ :=
        bind_of_ok _ hread
      rw [hrun]
      exact ⟨(), rfl, hs', fun _ hb => absurd hb not_mem_nil⟩
    have hdone : Traced.Triple (Stage 21 21 true origin) (pure () : Migration)
        (fun _ s => ∃ marked, Stage 21 21 marked origin s) (Recoverable 0 origin) :=
      triple_done fun s' hs' => ⟨true, hs'⟩
    exact ((triple_migrateFresh draws hv).bind fun _ => hloop.bind fun _ => hdone) s hstage
  · have hone : 1 ≤ applied := by omega
    by_cases hfirst : applied = 1
    · subst hfirst
      have hloop := triple_upgradeLoop draws hv CURRENT_SCHEMA_VERSION (k := 2)
        (by omega) (by decide) (by decide) (by decide)
      exact triple_migrateV1 hvle (hloop.bind fun _ => hfinish) s hstage
    · have hloop := triple_upgradeLoop draws hv CURRENT_SCHEMA_VERSION (k := applied)
        hvle (by omega) hle (by rw [CURRENT_SCHEMA_VERSION]; omega)
      simp only [hzero, hfirst, hone, if_false, if_true]
      exact (hloop.bind fun _ => hfinish) s hstage

lemma recoverable_of_wholeCrashes (hv : StartsAt v origin)
    (htriggers : ∀ t, origin.table .runs = some t → DistinctTriggers t)
    (h : WholeCrashes origin db) :
    Whole db ∧ v ≤ db.version ∧ db.version ≤ 21 ∧ Stands db.version origin db := by
  induction h with
  | start =>
    refine ⟨whole_of_startsAt hv, ?_⟩
    rw [hv.stamped]
    exact ⟨le_refl v, Nat.le_trans hv.old (by decide), stands_of_startsAt hv htriggers⟩
  | crash draws _ hmem hwhole ih =>
    obtain ⟨hwhole', hvle, hle, hstands⟩ := ih
    obtain ⟨_, -, -, hacts⟩ := triple_migrate draws hv hvle hle hwhole' hstands _ rfl
    exact ⟨hwhole, hacts _ hmem hwhole⟩

/-- After any number of crashes, each at a whole place, the database opens at the current
version with every row of the start. -/
theorem migrate_opens_of_wholeCrashes (v : Nat) (origin db : Db) (hv : StartsAt v origin)
    (htriggers : ∀ t, origin.table .runs = some t → DistinctTriggers t)
    (h : WholeCrashes origin db) (draws : Draws) : Opens origin draws db := by
  obtain ⟨hwhole, hvle, hle, hstands⟩ := recoverable_of_wholeCrashes hv htriggers h
  obtain ⟨_, hresult, ⟨_, hstage⟩, -⟩ := triple_migrate draws hv hvle hle hwhole hstands db rfl
  exact ⟨hresult, hstage.phase.version, hstage.phase.stands.present, hstage.phase.stands.keeps⟩

end Migrations

def newFile : Db where
  version := 0
  table := fun _ => none
  objects := []

def zeroDraws : Draws where
  approvalId := fun _ => "0"
  nonce := fun _ => "0"

lemma startsAt_newFile : StartsAt 0 newFile where
  stamped := rfl
  old := Nat.zero_le _
  present := by intro n h; cases n <;> exact absurd h (by decide)
  absent := fun _ _ _ _ _ => rfl
  columns := fun _ _ _ ht => nomatch ht
  settlements := fun _ _ ht => nomatch ht
  submissions := fun _ ht => nomatch ht
  constraints := fun _ _ _ ht => nomatch ht
  approvals := fun _ ht => nomatch ht
  objects := fun _ ho => nomatch ho

/-- The first start of a new database, cut off right after a column was added to the table of
runs: the database never opens again. -/
theorem migrate_crash_newFile :
    letI := zeroPlatform
    StartsAt 0 newFile ∧ (∀ t, newFile.table .runs = some t → DistinctTriggers t) ∧
      ∃ db, Crashes newFile db ∧ ∀ draws, ¬ Opens newFile draws db := by
  let _ := zeroPlatform
  have hmem : ∃ db, db ∈ (migrate zeroDraws newFile).trace ∧
      ∀ draws, (migrate draws db).result = .error (.sql .duplicateColumn) :=
    ⟨_, mem_of_getElem? (i := 11) rfl, fun _ => rfl⟩
  obtain ⟨db, hdb, hstuck⟩ := hmem
  refine ⟨startsAt_newFile, (fun _ ht => nomatch ht), db, .crash zeroDraws .start hdb, ?_⟩
  rintro draws ⟨hok, -⟩
  rw [hstuck] at hok
  cases hok

/-- Cut off after its first table, a new database opens at the next start. -/
theorem migrate_opens_newFile :
    letI := zeroPlatform
    WholeCrashes newFile (newFile.put .sessions (some ⟨sessions, []⟩)) ∧
      Opens newFile zeroDraws (newFile.put .sessions (some ⟨sessions, []⟩)) := by
  let _ := zeroPlatform
  have hwhole : Whole (newFile.put .sessions (some ⟨sessions, []⟩)) := by
    refine ⟨fun p hp t ht => ?_, fun t ht => ?_⟩
    · rcases pendingFrom_table hp with hp | hp <;> rw [hp, put_of_ne _ (by decide)] at ht <;>
        cases ht
    · rw [put_of_ne _ (by decide)] at ht
      cases ht
  have hcrash : WholeCrashes newFile (newFile.put .sessions (some ⟨sessions, []⟩)) :=
    .crash zeroDraws .start (mem_of_getElem? (i := 0) rfl) hwhole
  exact ⟨hcrash, migrate_opens_of_wholeCrashes 0 newFile _ startsAt_newFile
    (fun _ ht => nomatch ht) hcrash zeroDraws⟩

end AgentCore.Journal.Migrations
