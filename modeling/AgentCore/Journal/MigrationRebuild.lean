import AgentCore.Journal.MigrationPhase

/-! The upgrades that replace a table: the manifests statement by statement, the settlements and
the submissions each in one transaction. -/

namespace AgentCore.Journal.Migrations

open Foundation Foundation.Sql Domain List Database

/-! ## Rebuilt tables -/

section Rebuilds

variable {k stamp v : Nat} {marked : Bool} {origin db db' : Db} {n tmp : TableName}
  {t t' : Table TableName} {rows : List Row}

inductive RebuildPair : TableName → TableName → Prop
  | manifests : RebuildPair .harnessManifests .harnessManifestsV5
  | settlements : RebuildPair .hcrSettlements .hcrSettlementsV15
  | submissions : RebuildPair .codingTaskSubmissions .codingTaskSubmissionsV20

lemma KeepsRows.rebuilt (h : KeepsRows origin db) (hr : Rebuilt n tmp t' db db')
    (hpair : RebuildPair n tmp) (hv : StartsAt v origin) (ht : db.table n = some t)
    (hn : ∀ t₀, origin.table n = some t₀ → t₀.columns ⊆ t.columns →
      t₀.columns ⊆ t'.columns ∧ ∀ r r', Carries n t₀.columns r r' → r' ∈ t.rows →
        ∃ r'' ∈ t'.rows, Carries n t₀.columns r r'') : KeepsRows origin db' := by
  have htmp : origin.table tmp = none := by
    have hold := hv.old
    cases hpair <;> exact hv.absent _ (by simp only [since]; omega) (by decide) (by decide) (by decide)
  intro m t₀ ht₀
  obtain ⟨u, hu, hcolumns, hrows⟩ := h m t₀ ht₀
  by_cases hmn : m = n
  · subst hmn
    cases hu.symm.trans ht
    obtain ⟨hcolumns', hcarry⟩ := hn t₀ ht₀ hcolumns
    refine ⟨t', hr.self, hcolumns', fun r hrow => ?_⟩
    obtain ⟨r', hr', hcarries⟩ := hrows r hrow
    exact hcarry r r' hcarries hr'
  · have hmtmp : m ≠ tmp := by
      rintro rfl
      rw [htmp] at ht₀
      cases ht₀
    exact ⟨u, by rw [hr.other m hmn hmtmp, hu], hcolumns, hrows⟩

lemma rebuilt_free (hr : Rebuilt n tmp t' db db') (hne : m ≠ n) (h : db.table m = none) :
    db'.table m = none := by
  by_cases htmp : m = tmp
  · exact htmp ▸ hr.gone
  · rw [hr.other m hne htmp, h]

lemma Phase.rebuilt (h : Phase k stamp marked origin db) (hk : k ≤ 21)
    (hr : Rebuilt n tmp t' db db') (hpair : RebuildPair n tmp) (hsound : Sound k n t')
    (hkeeps : KeepsRows origin db') : Phase k stamp marked origin db' where
  version := hr.version.trans h.version
  marked hm := by
    obtain ⟨t, ht, hcolumn⟩ := h.marked hm
    exact ⟨t, by rw [hr.other _ (by cases hpair <;> decide) (by cases hpair <;> decide), ht], hcolumn⟩
  stands :=
    { present := by
        intro m hm
        by_cases hmn : m = n
        · rw [hmn, hr.self]
          rfl
        · have hmtmp : m ≠ tmp := by
            rintro rfl
            cases hpair <;> simp only [since] at hm <;> omega
          rw [hr.other m hmn hmtmp]
          exact h.stands.present m hm
      settlementsFree := rebuilt_free hr (by cases hpair <;> decide) h.stands.settlementsFree
      submissionsFree := rebuilt_free hr (by cases hpair <;> decide) h.stands.submissionsFree
      sound := by
        intro m u hu
        by_cases hmn : m = n
        · subst hmn
          rw [hr.self] at hu
          cases hu
          exact hsound
        · have hmtmp : m ≠ tmp := by
            rintro rfl
            rw [hr.gone] at hu
            cases hu
          rw [hr.other m hmn hmtmp] at hu
          exact h.stands.sound m u hu
      approvals := by
        have hsame : ∀ m, m = .capabilityChangeApprovals ∨ m = .capabilityChangeProposals →
            db'.table m = db.table m := by
          intro m hm
          refine hr.other m ?_ ?_ <;> rcases hm with rfl | rfl <;> cases hpair <;> decide
        intro u hu r hrow
        rw [hsame _ (.inl rfl)] at hu
        have hrefers := h.stands.approvals u hu r hrow
        rw [refersTo_iff] at hrefers ⊢
        rwa [hsame _ (.inr rfl)]
      objects := by
        intro o ho
        rcases hr.objects o ho with ⟨hmem, -⟩ | ⟨hmem, hown⟩
        · exact h.stands.objects o hmem
        · -- an object of the temporary table is none of the names that a rebuild takes
          obtain ⟨hfits, hcoding⟩ := h.stands.objects _ hmem
          refine ⟨fun hname => ?_, hcoding⟩
          cases hpair <;> cases hfits hname
      keeps := hkeeps }

lemma project_of_mem (h : c ∈ columns) (r : Row) : project columns r c = r c := if_pos h

lemma lawful_project_manifests (h : Lawful harnessManifestsV5 rows) :
    Lawful harnessManifestsV5 (rows.map (project manifestColumns)) := by
  apply h.map
  · intro r hr
    simpa [harnessManifestsV5, notNull, project, manifestColumns] using hr
  · intro r s hrs
    simpa [harnessManifestsV5, Key.collide, project, manifestColumns] using hrs

lemma lawful_project_settlements (h : Lawful hcrSettlementsV16 rows) :
    Lawful hcrSettlementsV16 (rows.map (project settlementColumns)) := by
  apply h.map
  · intro r hr
    simpa [hcrSettlementsV16, settlementNotNull, oneOf, notNull, project, settlementColumns]
      using hr
  · intro r s hrs
    simpa [hcrSettlementsV16, settlementKeys, Key.collide, project, settlementColumns] using hrs

lemma legacyAttempt_of_mem (r : Row) (hc : c ∈ submissionColumns) (hstatus : c ≠ "status")
    (herror : c ≠ "error_code") : legacyAttempt r c = r c := by
  simp only [submissionColumns, mem_cons, not_mem_nil, or_false] at hc
  rcases hc with rfl | rfl | rfl | rfl | rfl | rfl | rfl | rfl | rfl | rfl <;>
    simp_all [legacyAttempt, submissionColumns]

lemma lengthOf_legacyAttempt (r : Row) (hc : c ∈ submissionColumns) (hstatus : c ≠ "status")
    (herror : c ≠ "error_code") : lengthOf (legacyAttempt r) c = lengthOf r c := by
  rw [lengthOf, lengthOf, legacyAttempt_of_mem r hc hstatus herror]

lemma legacyAttempt_status (r : Row) : legacyAttempt r "status" =
    if r "status" = .text "running" then .text "running"
    else if r "status" = .text "succeeded" then .text "succeeded" else .text "outcome_unknown" := by
  simp [legacyAttempt]

lemma oneOf_legacyAttempt (r : Row) : oneOf (legacyAttempt r) "status"
      ["running", "succeeded", "definitively_rejected", "outcome_unknown"] = true := by
  rw [oneOf, legacyAttempt_status]
  split
  · rfl
  · split <;> rfl

lemma isText_iff : isText r columns = true ↔ ∀ c ∈ columns, ∀ n, r c ≠ .integer n := by
  simp only [isText, all_eq_true]
  refine forall₂_congr fun c _ => ?_
  cases r c <;> simp

lemma isText_legacyAttempt (h : isText r submissionColumns = true) :
    isText (legacyAttempt r) submissionColumns = true := by
  rw [isText_iff] at h ⊢
  intro c hc n hinteger
  have hsame := h c hc n
  by_cases hstatus : c = "status"
  · have hone := oneOf_legacyAttempt r
    simp [oneOf, ← hstatus, hinteger] at hone
  · by_cases herror : c = "error_code"
    · subst herror
      have hcode : legacyAttempt r "error_code" = r "error_code" ∨
          legacyAttempt r "error_code" = .text "LEGACY_OUTCOME_UNKNOWN" := by
        simp only [legacyAttempt]
        simp only [String.reduceEq, if_false, if_true]
        split
        · split
          · exact .inr rfl
          · exact .inl rfl
        · exact .inl rfl
      rcases hcode with hcode | hcode <;> rw [hcode] at hinteger
      · exact hsame hinteger
      · cases hinteger
    · rw [legacyAttempt_of_mem r hc hstatus herror] at hinteger
      exact hsame hinteger

lemma submissionCheck_legacyAttempt (h : submissionCheck r = true) :
    submissionCheck (legacyAttempt r) = true := by
  have hstatus : legacyAttempt r "status" ≠ .null := by
    intro hnull
    have hone := oneOf_legacyAttempt r
    simp [oneOf, hnull] at hone
  simp only [submissionCheck, notNull, nonEmpty, all_cons, all_nil, Bool.and_true,
    Bool.and_eq_true, decide_eq_true_eq] at h ⊢
  simp (disch := decide) only [legacyAttempt_of_mem, lengthOf_legacyAttempt]
  have htext := isText_legacyAttempt h.1.1.1
  tauto

lemma invocationId_text (h : submissionCheck r = true) :
    ∃ s, r "invocation_id" = .text s ∧ 0 < s.length := by
  simp only [submissionCheck, notNull, nonEmpty, all_cons, all_nil, Bool.and_true,
    Bool.and_eq_true, decide_eq_true_eq] at h
  have htext := isText_iff.mp h.1.1.1 "invocation_id" (by decide)
  have hlength : 0 < lengthOf r "invocation_id" := by tauto
  cases hvalue : r "invocation_id" with
  | null => simp [lengthOf, hvalue] at hlength
  | integer n => exact absurd hvalue (htext n)
  | text s => exact ⟨s, rfl, by simpa [lengthOf, hvalue] using hlength⟩

lemma codingCheck_legacyAttempt (h : codingTaskSubmissions.check r = true) :
    codingTaskSubmissionsV21.check (legacyAttempt r) = true := by
  have hcheck : submissionCheck r = true := by
    simp only [codingTaskSubmissions, Bool.and_eq_true] at h
    exact h.1
  obtain ⟨s, hid, hlength⟩ := invocationId_text hcheck
  have hattempt : legacyAttempt r "attempt_id" = .text s := by simp [legacyAttempt, hid]
  have hkey : legacyAttempt r "submission_call_key" = .text ("legacy:" ++ s) := by
    simp [legacyAttempt, hid]
  have hsequence : legacyAttempt r "attempt_sequence" = .integer 1 := by simp [legacyAttempt]
  simp [codingTaskSubmissionsV21, submissionCheck_legacyAttempt hcheck, notNull, nonEmpty, isText,
    lengthOf, hattempt, hkey, hsequence, oneOf_legacyAttempt r]
  omega

lemma lawful_legacyAttempts (h : Lawful codingTaskSubmissions rows) :
    Lawful codingTaskSubmissionsV21 (rows.map legacyAttempt) where
  check r hr := by
    obtain ⟨r', hr', rfl⟩ := mem_map.mp hr
    exact codingCheck_legacyAttempt (h.check r' hr')
  distinct := by
    rw [pairwise_map]
    refine h.distinct.imp_of_mem fun {r r'} hr hr' hdistinct => ?_
    have hcheck : ∀ {r}, r ∈ rows → submissionCheck r = true := by
      intro r hr
      have hboth := h.check r hr
      simp only [codingTaskSubmissions, Bool.and_eq_true] at hboth
      exact hboth.1
    obtain ⟨s, hid, -⟩ := invocationId_text (hcheck hr)
    obtain ⟨s', hid', -⟩ := invocationId_text (hcheck hr')
    simp only [codingTaskSubmissions, mem_cons, not_mem_nil, or_false,
      forall_eq_or_imp, forall_eq, Key.collide, Bool.true_and, all_cons, all_nil,
      Bool.and_true, hid, hid', Value.text.injEq, ne_eq, reduceCtorEq, not_false_eq_true,
      decide_true, decide_eq_false_iff_not] at hdistinct
    simp only [codingTaskSubmissionsV21, mem_cons, not_mem_nil, or_false,
      forall_eq_or_imp, forall_eq, Key.collide]
    simp [legacyAttempt, submissionColumns, hid, hid', hdistinct]
    intro hsame
    simpa [hsame] using hdistinct.1

/-! ## The manifests -/

lemma phase_manifests (hv : StartsAt v origin) (h : Phase 4 stamp marked origin db)
    (ht : db.table .harnessManifests = some t) (hr : Rebuilt .harnessManifests .harnessManifestsV5
      ⟨harnessManifestsV5, t.rows.map (project manifestColumns)⟩ db db') :
    Phase 4 stamp marked origin db' := by
  obtain ⟨hcolumns, hlawful⟩ : t.columns = manifestColumns ∧ Lawful harnessManifestsV5 t.rows :=
    h.stands.sound _ t ht
  refine h.rebuilt (by decide) hr .manifests ⟨rfl, lawful_project_manifests hlawful⟩ ?_
  apply h.stands.keeps.rebuilt hr .manifests hv ht
  intro t₀ _ hsub
  rw [hcolumns] at hsub
  refine ⟨hsub, fun r r' hcarries hr' => ?_⟩
  exact ⟨project manifestColumns r', mem_map_of_mem hr',
    hcarries.trans hsub fun c hc => project_of_mem hc r'⟩

lemma Absent.rebuilt (h : Absent (pendingFrom k) db) (hr : Rebuilt n tmp t' db db')
    (hpair : RebuildPair n tmp) : Absent (pendingFrom k) db' := by
  intro p hp u hu
  have hother : db'.table p.1 = db.table p.1 := by
    rcases pendingFrom_table hp with hp | hp <;> rw [hp] <;>
      exact hr.other _ (by cases hpair <;> decide) (by cases hpair <;> decide)
  rw [hother] at hu
  exact h p hp u hu

lemma selectManifests_eq (ht : db.table .harnessManifests = some t) :
    selectManifests db = .ok (t.rows.map (project manifestColumns)) := by
  rw [selectManifests, find_of_some ht]
  rfl

lemma upgrades_m0005 (hv : StartsAt v origin) :
    Upgrades 4 stamp marked origin (executeBatch m0005RemoveManifestOperationNameUnique) := by
  intro db hdb
  -- the new table is there and empty, whether or not an earlier attempt made it
  obtain ⟨db₁, hcreate, hphase₁, hshapes, hsome⟩ :=
    phase_ensureTable harnessManifestsV5 (pendingFrom 4) hdb.phase (n := .harnessManifestsV5)
      (by decide) (by decide) rfl (by decide)
  obtain ⟨u, hu⟩ := Option.isSome_iff_exists.mp hsome
  obtain rfl : u = ⟨harnessManifestsV5, []⟩ := hphase₁.stands.sound _ u hu
  obtain ⟨t, ht⟩ := Option.isSome_iff_exists.mp
    (hphase₁.stands.present .harnessManifests (by decide))
  have hlawful : Lawful harnessManifestsV5 (t.rows.map (project manifestColumns)) :=
    lawful_project_manifests (hphase₁.stands.sound _ t ht).2
  generalize hcopies : t.rows.map (project manifestColumns) = copies at hlawful
  let db₂ := db₁.put .harnessManifestsV5 (some ⟨harnessManifestsV5, copies⟩)
  have hcopy : exec true db₁ (.insert false .harnessManifestsV5 selectManifests) = .ok db₂ := by
    rw [exec_insert hu (selectManifests_eq ht), hcopies,
      foldlM_insertRow copies hu (by simpa using hlawful) (.inr rfl)]
    rfl
  have hleft₂ : Left 4 stamp marked origin db₂ := by
    have hput : copies = [] → Phase 4 stamp marked origin db₂ := by
      rintro rfl
      refine hphase₁.put (by decide) (by decide) rfl (fun w hw => ?_)
        (hphase₁.stands.approvals.put (by decide) (by decide))
      rw [hu] at hw
      cases hw
      exact widens_refl _
    refine ⟨hphase₁.version, fun hm => ?_, fun hwhole => ?_⟩
    · refine (hphase₁.marked hm).put fun w hw => ?_
      rw [hu] at hw
      cases hw
      exact ⟨List.Subset.refl _, fun r hr => absurd hr not_mem_nil⟩
    · exact (hput (hwhole.manifests _ (put_self _)).1).stands
  obtain ⟨db₃, db₄, hdrop, hrename, hversion₃, hgone₃, htmp₃, hother₃, hrebuilt⟩ :=
    exec_swap true ⟨harnessManifestsV5, copies⟩
      (by decide : .harnessManifests ≠ .harnessManifestsV5) ht
  have hleft₃ : Left 4 stamp marked origin db₃ := by
    refine ⟨hversion₃.trans hphase₁.version, fun hm => ?_, fun hwhole => ?_⟩
    · obtain ⟨w, hw, hcolumn⟩ := hphase₁.marked hm
      exact ⟨w, by rw [hother₃ _ (by decide) (by decide), hw], hcolumn⟩
    · -- the table of manifests is missing, and its copy is there under the other name
      have hmissing := (hwhole.manifests _ htmp₃).2
      rw [hgone₃] at hmissing
      cases hmissing
  have hphase₄ : Phase 4 stamp marked origin db₄ :=
    phase_manifests hv hphase₁ ht (hcopies ▸ hrebuilt)
  have hfits : objectFits 4 "idx_harness_manifests_operation_name" .harnessManifests := by
    simp [objectFits]
  obtain ⟨hphase₅, hshapes₅⟩ := phase_ensureObject (pendingFrom 4) hphase₄ hfits
  have hstage := hphase₅.succ (by intro n; cases n <;> simp [since])
  have habsent := (hshapes₅.absent ((hshapes.absent hdb.absent).rebuilt hrebuilt .manifests)).succ
  have hlast : Traced.Triple (· = db₄) (executeBatch [ensureIndex
      "idx_harness_manifests_operation_name" .harnessManifests])
      (fun _ => Stage 5 stamp marked origin) (Left 4 stamp marked origin) :=
    triple_batch_cons (exec_ensureIndex _ hrebuilt.self) hphase₅.left
      (Traced.triple_done fun _ heq => heq ▸ ⟨hstage, habsent⟩)
  exact triple_batch_cons hcreate hphase₁.left (triple_batch_cons hcopy hleft₂
    (triple_batch_cons hdrop hleft₃ (triple_batch_cons hrename hphase₄.left hlast))) db rfl

/-! ## The settlements and the submissions -/

lemma runScript_append (fk : Bool) (first second : Script) (h : runScript fk db first = .ok db') :
    runScript fk db (first ++ second) = runScript fk db' second := by
  rw [runScript, foldlM_append]
  change (runScript fk db first >>= _) = _
  rw [h]
  rfl

lemma runScript_nil : runScript fk db [] = .ok db := rfl

lemma runScript_cons (h : exec fk db s = .ok db') (hrest : runScript fk db' script = .ok db'') :
    runScript fk db (s :: script) = .ok db'' := by
  rw [runScript, foldlM_cons, h]
  exact hrest

lemma selectSettlements_eq (db : Db) (u : Table TableName)
    (hu : db.table .hcrSettlementsV15 = some u) :
    selectSettlements db = .ok (u.rows.map (project settlementColumns)) := by
  rw [selectSettlements, find_of_some hu]
  rfl

lemma selectSubmissions_eq (db : Db) (u : Table TableName)
    (hu : db.table .codingTaskSubmissionsV20 = some u) :
    selectSubmissions db = .ok (u.rows.map legacyAttempt) := by
  rw [selectSubmissions, find_of_some hu]
  rfl

lemma exec_newIndex (fk : Bool) (h : Phase k stamp marked origin db)
    (ht : db.table n = some t) (hfree : ∀ o ∈ db.objects, o.1 ≠ index)
    (hfits : objectFits k index n) :
    exec fk db (.createIndex false index n none) = .ok (db.addObject index n) ∧
      exec fk db (.createTrigger false index n) = .ok (db.addObject index n) ∧
      Phase k stamp marked origin (db.addObject index n) :=
  ⟨exec_createIndex ht hfree, exec_createTrigger ht hfree, h.addObject hfits⟩

lemma free_addObject (h : ∀ o ∈ db.objects, o.1 ≠ object)
    (hne : object' ≠ object) : ∀ o ∈ (db.addObject object' n).objects, o.1 ≠ object := by
  intro o ho
  rcases mem_append.mp ho with ho | ho
  · exact h o ho
  · rw [mem_singleton.mp ho]
    exact hne

lemma phase_settlements (hv : StartsAt v origin) (hle : v ≤ 15)
    (h : Phase 15 stamp marked origin db) (habsent : Absent (pendingFrom 15) db) :
    ∃ db', runScript false db m0016HcrFailureReconciliation = .ok db' ∧
      Phase 15 stamp marked origin db' ∧ Absent (pendingFrom 15) db' := by
  obtain ⟨t, ht⟩ := Option.isSome_iff_exists.mp (h.stands.present .hcrSettlements (by decide))
  obtain ⟨-, hlawful⟩ := h.stands.sound _ t ht
  have hcopy := lawful_project_settlements hlawful
  have hsub : settlementColumns ⊆ hcrSettlementsV16.columns := by decide
  obtain ⟨db₁, hrun, hr, hnone⟩ := exec_rebuild false
    (by decide : .hcrSettlements ≠ .hcrSettlementsV15) ht h.stands.settlementsFree
    selectSettlements_eq hcopy (.inl rfl)
  have hphase₁ : Phase 15 stamp marked origin db₁ := by
    refine h.rebuilt (by decide) hr .settlements ⟨hsub, hcopy⟩ ?_
    apply h.stands.keeps.rebuilt hr .settlements hv ht
    intro t₀ ht₀ _
    rw [hv.settlements hle t₀ ht₀]
    refine ⟨hsub, fun r r' hcarries hr' => ?_⟩
    exact ⟨project settlementColumns r', mem_map_of_mem hr',
      hcarries.trans (List.Subset.refl _) fun c hc => project_of_mem hc r'⟩
  -- the old index and triggers went with the old table
  have hfree : ∀ object ∈ ["idx_hcr_settlements_hcr", "trg_settlement_hcr_exists",
      "trg_settlement_claim_exists", "trg_settlement_run_exists"],
      ∀ o ∈ db₁.objects, o.1 ≠ object := by
    rintro object hobject o ho rfl
    exact hnone o ho ((hphase₁.stands.objects o ho).1 hobject)
  have hfits : ∀ object ∈ ["idx_hcr_settlements_hcr", "trg_settlement_hcr_exists",
      "trg_settlement_claim_exists", "trg_settlement_run_exists"],
      objectFits 15 object .hcrSettlements := by
    intro object hobject
    refine ⟨fun _ => rfl, fun _ => ?_⟩
    rintro rfl
    exact absurd hobject (by decide)
  obtain ⟨hindex, -, hphase₂⟩ := exec_newIndex false hphase₁ hr.self
    (hfree _ (by decide)) (hfits "idx_hcr_settlements_hcr" (by decide))
  obtain ⟨-, hhcr, hphase₃⟩ := exec_newIndex false hphase₂ hr.self
    (free_addObject (hfree _ (by decide)) (by decide))
    (hfits "trg_settlement_hcr_exists" (by decide))
  obtain ⟨-, hclaim, hphase₄⟩ := exec_newIndex false hphase₃ hr.self
    (free_addObject (free_addObject (hfree _ (by decide)) (by decide)) (by decide))
    (hfits "trg_settlement_claim_exists" (by decide))
  obtain ⟨-, hrun', hphase₅⟩ := exec_newIndex false hphase₄ hr.self
    (free_addObject (free_addObject (free_addObject (hfree _ (by decide)) (by decide))
      (by decide)) (by decide))
    (hfits "trg_settlement_run_exists" (by decide))
  have habsent₁ : Absent (pendingFrom 15) db₁ := habsent.rebuilt hr .settlements
  refine ⟨_, ?_, hphase₅, habsent₁⟩
  have hobjects := runScript_cons hindex (runScript_cons hhcr (runScript_cons hclaim
    (runScript_cons hrun' runScript_nil)))
  exact (runScript_append false _ _ hrun).trans hobjects

lemma upgrades_m0016 (hv : StartsAt v origin) (hle : v ≤ 15) :
    Upgrades 15 stamp marked origin (transaction false m0016HcrFailureReconciliation) := by
  apply triple_commit
  intro db hdb
  obtain ⟨db', hrun, hphase, habsent⟩ := phase_settlements hv hle hdb.phase hdb.absent
  have hstage := hphase.succ (by intro n; cases n <;> simp [since])
  exact ⟨db', hrun, ⟨hstage, habsent.succ⟩, hphase.left⟩

lemma legacyAttempt_congr (h : ∀ c ∈ submissionColumns, r c = s c)
    (hc : c ∈ submissionColumns) : legacyAttempt r c = legacyAttempt s c := by
  simp only [legacyAttempt, h "invocation_id" (by decide), h "status" (by decide),
    h "error_code" (by decide), h c hc]

lemma legacyAttempt_idem (r : Row) (hc : c ∈ submissionColumns) :
    legacyAttempt (legacyAttempt r) c = legacyAttempt r c := by
  by_cases hs : c = "status"
  · subst hs
    rw [legacyAttempt_status (legacyAttempt r), legacyAttempt_status r]
    split_ifs <;> simp_all
  · by_cases he : c = "error_code"
    · subst he
      have hfailed : legacyAttempt r "status" ≠ .text "failed" := by
        rw [legacyAttempt_status]
        split_ifs <;> simp
      conv_lhs => rw [legacyAttempt]
      simp [hfailed]
    · exact legacyAttempt_of_mem _ hc hs he

lemma Carries.legacyAttempt (h : Carries .codingTaskSubmissions submissionColumns r r') :
    Carries .codingTaskSubmissions submissionColumns r (legacyAttempt r') := by
  refine .inr ⟨rfl, fun c hc => ?_⟩
  rcases h with h | ⟨-, h⟩
  · exact legacyAttempt_congr h hc
  · exact (legacyAttempt_congr h hc).trans (legacyAttempt_idem r hc)

lemma phase_submissions (hv : StartsAt v origin) (h : Phase 20 stamp marked origin db) :
    ∃ db', runScript true db (m0021CodingSubmissionAttempts ++ [.setVersion 21]) = .ok db' ∧
      Phase 21 21 marked origin db' := by
  obtain ⟨t, ht⟩ := Option.isSome_iff_exists.mp
    (h.stands.present .codingTaskSubmissions (by decide))
  have hlawful : Lawful codingTaskSubmissions t.rows := h.stands.sound _ t ht (by decide)
  have hcopy := lawful_legacyAttempts hlawful
  have hsub : submissionColumns ⊆ codingTaskSubmissionsV21.columns := by decide
  obtain ⟨db₁, hrun, hr, hnone⟩ := exec_rebuild true
    (by decide : .codingTaskSubmissions ≠ .codingTaskSubmissionsV20) ht
    h.stands.submissionsFree selectSubmissions_eq hcopy (.inr rfl)
  have hkeeps : KeepsRows origin db₁ := by
    apply h.stands.keeps.rebuilt hr .submissions hv ht
    intro t₀ ht₀ _
    rw [hv.submissions t₀ ht₀]
    refine ⟨hsub, fun r r' hcarries hr' => ?_⟩
    exact ⟨legacyAttempt r', mem_map_of_mem hr', hcarries.legacyAttempt⟩
  have h21 : Phase 21 stamp marked origin db := h.succ (by intro n; cases n <;> simp [since])
  have hphase₁ : Phase 21 stamp marked origin db₁ :=
    h21.rebuilt (by decide) hr .submissions (fun hle => absurd hle (by decide)) hkeeps
  have hfree : ∀ o ∈ db₁.objects, o.1 ≠ "idx_coding_task_submissions_message_sequence" := by
    intro o ho
    rcases hr.objects o ho with ⟨hmem, -⟩ | ⟨hmem, -⟩
    · exact (h.stands.objects o hmem).2 (by decide)
    · exact (h.stands.objects _ hmem).2 (by decide)
  obtain ⟨hindex, -, hphase₂⟩ := exec_newIndex true hphase₁ hr.self hfree
    ⟨fun hmem => absurd hmem (by decide), fun hle => absurd hle (by decide)⟩
  have hstamp : exec true (db₁.addObject "idx_coding_task_submissions_message_sequence"
      .codingTaskSubmissions) (.setVersion 21) = .ok _ := rfl
  refine ⟨_, ?_, hphase₂.stamped 21⟩
  exact (runScript_append true _ _ hrun).trans
    (runScript_cons hindex (runScript_cons hstamp runScript_nil))

end Rebuilds

end AgentCore.Journal.Migrations
