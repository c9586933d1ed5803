import AgentCore.Journal.Verify

/-! Model invocation facts over whole runs: one started fact and one terminal fact for each
invocation id, in that order and for one run and session. -/

namespace AgentCore.Journal

open Foundation Domain List

variable {kinds : List String} {invocationId : String} {t : JournalTable} {r : JournalRow}

def TERMINAL : List String := [COMPLETED, FAILED]

def invocationFacts (kinds : List String) (invocationId : String) (t : JournalTable) :
    List JournalRow :=
  t.rows.filter fun r => decide (r.correlationId = some invocationId) && kinds.contains r.kind

lemma mem_invocationFacts : r ∈ invocationFacts kinds invocationId t ↔
      r ∈ t.rows ∧ r.correlationId = some invocationId ∧ r.kind ∈ kinds := by
  simp [invocationFacts]

lemma invocationFacts_concat (h : t'.rows = t.rows ++ [r]) (invocationId : String) :
    invocationFacts kinds invocationId t' = invocationFacts kinds invocationId t ++
        if r.correlationId = some invocationId ∧ r.kind ∈ kinds then [r] else [] := by
  rw [invocationFacts, h, filter_append, filter_singleton]
  congr 1
  by_cases hr : r.correlationId = some invocationId ∧ r.kind ∈ kinds
  · rw [if_pos hr]
    simp [hr.1, hr.2]
  · have hfalse : (decide (r.correlationId = some invocationId) && kinds.contains r.kind) = false := by
      simpa using hr
    rw [if_neg hr, hfalse]
    rfl

lemma invocationFacts_other (h : t'.rows = t.rows ++ [r]) (hkind : r.kind ∉ kinds) (id : String) :
    invocationFacts kinds id t' = invocationFacts kinds id t := by
  rw [invocationFacts_concat h, if_neg fun hr => hkind hr.2, append_nil]

lemma length_invocationFacts_concat (h : t'.rows = t.rows ++ [r])
    (hown : r.correlationId = some own) (hnone : invocationFacts kinds own t = [])
    (hlen : ∀ id, (invocationFacts kinds id t).length ≤ 1) (id : String) :
    (invocationFacts kinds id t').length ≤ 1 := by
  rw [invocationFacts_concat h]
  by_cases hid : own = id
  · subst hid
    rw [hnone, nil_append]
    split <;> simp
  · rw [if_neg fun hr => hid (Option.some.inj (hown.symm.trans hr.1)), append_nil]
    exact hlen id

lemma invocationFacts_subset (h : t'.rows = t.rows ++ [r]) (id : String) :
    invocationFacts kinds id t ⊆ invocationFacts kinds id t' := by
  rw [invocationFacts_concat h]
  exact subset_append_left _ _

lemma factKinds_of_storageName
    (h : kind.storageName ∈ STARTED :: TERMINAL) : isModelInvocationKind kind = true := by
  have hmem : kind.storageName ∈ [.modelInvocationStarted,
      .modelInvocationCompleted, .modelInvocationFailed].map JournalEventKind.storageName := h
  obtain ⟨k, hk, heq⟩ := mem_map.mp hmem
  obtain rfl := storageName_injective heq
  simpa [isModelInvocationKind, or_assoc] using hk

lemma ensureSameIdentity_eq_ok (h : ensureSameIdentity e runId sessionId = .ok u) :
    e.runId = some runId ∧ e.sessionId = some sessionId := by
  unfold ensureSameIdentity at h
  split at h
  · assumption
  · cases h

lemma isModelInvocationKind_of_check
    (h : checkModelInvocation kind runId invocationId payload = .ok u) :
    kind = .modelInvocationStarted ∨ kind = .modelInvocationCompleted ∨
      kind = .modelInvocationFailed := by
  unfold checkModelInvocation at h
  cases hkind : isModelInvocationKind kind with
  | true => simpa [isModelInvocationKind, or_assoc] using hkind
  | false =>
    rw [hkind] at h
    cases h

section Facts

variable [Platform]

lemma queryExisting_eq (t : JournalTable) (invocationId : String) (kinds : List String) :
    queryExisting t invocationId kinds =
      (invocationFacts kinds invocationId t).head?.map rowToEvent := by
  rw [queryExisting, invocationFacts, head?_filter]

lemma queryExisting_eq_none :
    queryExisting t invocationId kinds = none ↔ invocationFacts kinds invocationId t = [] := by
  rw [queryExisting_eq, Option.map_eq_none_iff, head?_eq_none_iff]

lemma queryExisting_eq_some (h : queryExisting t invocationId kinds = some e) :
    ∃ r ∈ invocationFacts kinds invocationId t, e = rowToEvent r := by
  rw [queryExisting_eq] at h
  obtain ⟨r, hr, rfl⟩ := Option.map_eq_some_iff.mp h
  exact ⟨r, mem_of_mem_head? hr, rfl⟩

structure ModelInvocationCall where
  stamp : Stamp
  kind : JournalEventKind
  runId : RunId
  sessionId : SessionId
  invocationId : String
  payload : Json

variable {c : ModelInvocationCall} {kind : JournalEventKind} {runId : RunId}

def ModelInvocationCall.exec (c : ModelInvocationCall) (t : JournalTable) :
    Except String (JournalEvent × JournalTable) :=
  recordModelInvocationEvent c.stamp c.kind c.runId c.sessionId c.invocationId c.payload t

inductive FactAct
  | record (c : ModelInvocationCall)
  | other (stamp : Stamp) (kind : { kind : JournalEventKind // isModelInvocationKind kind = false })
      (runId : Option RunId) (sessionId : Option SessionId) (correlationId : Option String)
      (payload : Json)

def factStep (t : JournalTable) : FactAct → JournalTable
  | .record c => commit t ((c.exec t).map Prod.snd)
  | .other stamp kind runId sessionId correlationId payload =>
    commit t ((appendEventTx stamp kind runId sessionId correlationId payload t).map Prod.snd)

/-! ## What one call does -/

/-- The invocation's earlier facts allow the new one: a first started fact before any
terminal one, or a first terminal fact after a started one of its run and session. -/
def FirstFact (c : ModelInvocationCall) (t : JournalTable) : Prop :=
  (c.kind = .modelInvocationStarted ∧ invocationFacts [STARTED] c.invocationId t = [] ∧
      invocationFacts TERMINAL c.invocationId t = []) ∨
    ((c.kind = .modelInvocationCompleted ∨ c.kind = .modelInvocationFailed) ∧
      invocationFacts TERMINAL c.invocationId t = [] ∧
      ∃ s ∈ invocationFacts [STARTED] c.invocationId t,
        s.runId = some c.runId ∧ s.sessionId = some c.sessionId)

lemma firstFact_of_checkStarted
    (hkind : c.kind = .modelInvocationStarted ∨ c.kind = .modelInvocationCompleted ∨ c.kind = .modelInvocationFailed)
    (hnone : queryExisting t c.invocationId (repeatedKinds c.kind) = none)
    (h : checkStarted t c.kind c.runId c.sessionId c.invocationId = .ok u) : FirstFact c t := by
  rw [queryExisting_eq_none] at hnone
  unfold checkStarted at h
  by_cases hstarted : c.kind = .modelInvocationStarted
  · rw [if_neg (not_not.mpr hstarted)] at h
    rw [repeatedKinds, if_pos hstarted] at hnone
    refine .inl ⟨hstarted, hnone, ?_⟩
    split at h
    · cases h
    · next hterminal =>
      exact queryExisting_eq_none.mp (Option.not_isSome_iff_eq_none.mp hterminal)
  · rw [if_pos hstarted] at h
    rw [repeatedKinds, if_neg hstarted] at hnone
    refine .inr ⟨hkind.resolve_left hstarted, hnone, ?_⟩
    split at h
    · cases h
    · next started hfound =>
      obtain ⟨s, hs, rfl⟩ := queryExisting_eq_some hfound
      exact ⟨s, hs, ensureSameIdentity_eq_ok h⟩

lemma ModelInvocationCall.exec_cases (h : c.exec t = .ok (e, t')) :
    t' = t ∨ (FirstFact c t ∧ t'.rows = t.rows ++
      [newRow t c.stamp c.kind.storageName (some c.runId) (some c.sessionId)
        (some c.invocationId) c.payload.toText]) := by
  obtain ⟨_, hcheck, h⟩ := bind_eq_ok.mp h
  split at h
  · obtain ⟨_, -, h⟩ := bind_eq_ok.mp h
    split_ifs at h
    · exact absurd h throw_ne_ok
    · exact .inl (Prod.mk.inj (return_eq_ok.mp h)).2.symm
  · next hnone =>
    obtain ⟨_, hstarted, h⟩ := bind_eq_ok.mp h
    obtain ⟨⟨r, u⟩, hrow, ⟨⟩⟩ := bind_eq_ok.mp h
    obtain ⟨-, rfl, hrows⟩ := appendRow_eq_ok.mp hrow
    exact .inr ⟨firstFact_of_checkStarted (isModelInvocationKind_of_check hcheck) hnone hstarted,
      hrows⟩

lemma ModelInvocationCall.exec_of_found
    (hcheck : checkModelInvocation c.kind c.runId c.invocationId c.payload = .ok ())
    (hfound : (invocationFacts (repeatedKinds c.kind) c.invocationId t).head? = some r)
    (hkind : r.kind = c.kind.storageName) : c.exec t =
      if r.runId = some c.runId ∧ r.sessionId = some c.sessionId then .ok (rowToEvent r, t)
      else .error "MODEL_INVOCATION_IDENTITY_CONFLICT" := by
  have hquery : queryExisting t c.invocationId (repeatedKinds c.kind) = some (rowToEvent r) := by
    rw [queryExisting_eq, hfound]
    rfl
  have hsame : (rowToEvent r).kind = c.kind := kind_rowToEvent hkind
  rw [exec, recordModelInvocationEvent, hcheck, hquery]
  by_cases hid : r.runId = some c.runId ∧ r.sessionId = some c.sessionId
  · have hensure : ensureSameIdentity (rowToEvent r) c.runId c.sessionId = .ok () := if_pos hid
    rw [if_pos hid]
    simp only [bind, Except.bind, hensure, hsame, ne_eq, not_true_eq_false, if_false]
    rfl
  · have hensure : ensureSameIdentity (rowToEvent r) c.runId c.sessionId =
        .error "MODEL_INVOCATION_IDENTITY_CONFLICT" := if_neg hid
    rw [if_neg hid]
    simp only [bind, Except.bind, hensure]

/-! ## Whole runs -/

structure ModelInvocationFacts (t : JournalTable) : Prop where
  startedOnce : ∀ id, (invocationFacts [STARTED] id t).length ≤ 1
  terminalOnce : ∀ id, (invocationFacts TERMINAL id t).length ≤ 1
  terminalAfterStarted : ∀ id, ∀ r ∈ invocationFacts TERMINAL id t,
    ∃ s ∈ invocationFacts [STARTED] id t,
      s.sequence < r.sequence ∧ s.runId = r.runId ∧ s.sessionId = r.sessionId

section

omit [Platform]

lemma ModelInvocationFacts.of_facts (ht : ModelInvocationFacts t)
    (h : ∀ kinds ⊆ STARTED :: TERMINAL, ∀ id, invocationFacts kinds id t' = invocationFacts kinds id t) :
    ModelInvocationFacts t' := by
  have hstarted := h [STARTED] (by simp)
  have hterminal := h TERMINAL (by simp)
  refine ⟨fun id => ?_, fun id => ?_, fun id r hr => ?_⟩
  · rw [hstarted]
    exact ht.startedOnce id
  · rw [hterminal]
    exact ht.terminalOnce id
  · rw [hterminal] at hr
    rw [hstarted]
    exact ht.terminalAfterStarted id r hr

lemma ModelInvocationFacts.started (ht : ModelInvocationFacts t)
    (hrows : t'.rows = t.rows ++ [r]) (hown : r.correlationId = some c.invocationId)
    (hkind : r.kind = STARTED) (hnone : invocationFacts [STARTED] c.invocationId t = []) :
    ModelInvocationFacts t' := by
  have hterminal : ∀ id, invocationFacts TERMINAL id t' = invocationFacts TERMINAL id t :=
    invocationFacts_other hrows (by rw [hkind]; decide)
  refine ⟨length_invocationFacts_concat hrows hown hnone ht.startedOnce, fun id => ?_,
    fun id r' hr' => ?_⟩
  · rw [hterminal]
    exact ht.terminalOnce id
  · rw [hterminal] at hr'
    obtain ⟨s, hs, horder⟩ := ht.terminalAfterStarted id r' hr'
    exact ⟨s, invocationFacts_subset hrows id hs, horder⟩

lemma ModelInvocationFacts.terminal (ht : ModelInvocationFacts t)
    (hrows : t'.rows = t.rows ++ [r]) (hown : r.correlationId = some c.invocationId)
    (hkind : r.kind ∈ TERMINAL) (hnone : invocationFacts TERMINAL c.invocationId t = [])
    (hbefore : ∃ s ∈ invocationFacts [STARTED] c.invocationId t, s.sequence < r.sequence ∧ s.runId = r.runId ∧ s.sessionId = r.sessionId) :
    ModelInvocationFacts t' := by
  have hstarted : ∀ id, invocationFacts [STARTED] id t' = invocationFacts [STARTED] id t := by
    refine invocationFacts_other hrows fun hmem => ?_
    rw [mem_singleton.mp hmem] at hkind
    exact absurd hkind (by decide)
  refine ⟨fun id => ?_, length_invocationFacts_concat hrows hown hnone ht.terminalOnce,
    fun id r' hr' => ?_⟩
  · rw [hstarted]
    exact ht.startedOnce id
  · rw [hstarted]
    rw [invocationFacts_concat hrows, mem_append] at hr'
    rcases hr' with hold | hnew
    · exact ht.terminalAfterStarted id r' hold
    · split at hnew
      · next hid =>
        obtain rfl := mem_singleton.mp hnew
        cases hown.symm.trans hid.1
        exact hbefore
      · cases hnew

end

lemma ModelInvocationFacts.firstFact (ht : ModelInvocationFacts t) (hfirst : FirstFact c t)
    (hrows : t'.rows = t.rows ++ [newRow t c.stamp c.kind.storageName (some c.runId) (some c.sessionId) (some c.invocationId) c.payload.toText]) :
    ModelInvocationFacts t' := by
  rcases hfirst with ⟨hkind, hnone, -⟩ | ⟨hkind, hnone, s, hs, hrun, hsession⟩
  · exact ht.started hrows rfl (congrArg JournalEventKind.storageName hkind) hnone
  · refine ht.terminal hrows rfl ?_ hnone ⟨s, hs, ?_, hrun, hsession⟩
    · rw [newRow_kind]
      rcases hkind with hkind | hkind <;> rw [hkind] <;> decide
    · exact JournalTable.lt_nextSequence (mem_invocationFacts.mp hs).1

lemma ModelInvocationFacts.step (ht : ModelInvocationFacts t) (a : FactAct) :
    ModelInvocationFacts (factStep t a) := by
  cases a with
  | record c =>
    simp only [factStep]
    cases hexec : c.exec t with
    | error e => exact ht
    | ok p =>
      rcases ModelInvocationCall.exec_cases hexec with hsame | ⟨hfirst, hrows⟩
      · exact (show p.2 = t from hsame) ▸ ht
      · exact ht.firstFact hfirst hrows
  | other stamp kind runId sessionId correlationId payload =>
    simp only [factStep]
    cases happ : appendEventTx stamp kind runId sessionId correlationId payload t with
    | error e => exact ht
    | ok p =>
      have hrows := (appendEventTx_eq_ok happ).1
      refine ht.of_facts fun kinds hkinds id => invocationFacts_other hrows (fun hmem => ?_) id
      have hfact := factKinds_of_storageName (hkinds hmem)
      rw [kind.2] at hfact
      cases hfact

lemma rows_prefix_factStep (t : JournalTable) (a : FactAct) : t.rows <+: (factStep t a).rows := by
  cases a with
  | record c =>
    simp only [factStep]
    cases hexec : c.exec t with
    | error e => exact prefix_refl _
    | ok p =>
      rcases ModelInvocationCall.exec_cases hexec with hsame | ⟨-, hrows⟩
      · exact (show p.2 = t from hsame) ▸ prefix_refl _
      · exact ⟨_, hrows.symm⟩
  | other stamp kind runId sessionId correlationId payload =>
    simp only [factStep]
    cases happ : appendEventTx stamp kind runId sessionId correlationId payload t with
    | error e => exact prefix_refl _
    | ok p => exact ⟨_, (appendEventTx_eq_ok happ).1.symm⟩

omit [Platform] in
lemma ModelInvocationFacts.head?_repeatedKinds (ht : ModelInvocationFacts t)
    (hkind : isModelInvocationKind c.kind = true)
    (hr : r ∈ invocationFacts [c.kind.storageName] c.invocationId t) :
    (invocationFacts (repeatedKinds c.kind) c.invocationId t).head? = some r := by
  obtain ⟨hrow, hown, hname⟩ := mem_invocationFacts.mp hr
  have hlen : (invocationFacts (repeatedKinds c.kind) c.invocationId t).length ≤ 1 := by
    unfold repeatedKinds
    split
    · exact ht.startedOnce _
    · exact ht.terminalOnce _
  have hmem : r ∈ invocationFacts (repeatedKinds c.kind) c.invocationId t := by
    refine mem_invocationFacts.mpr ⟨hrow, hown, ?_⟩
    rw [mem_singleton.mp hname]
    simp only [isModelInvocationKind, Bool.or_eq_true, decide_eq_true_eq, or_assoc] at hkind
    rcases hkind with hkind | hkind | hkind <;> rw [hkind] <;> decide
  match hfacts : invocationFacts (repeatedKinds c.kind) c.invocationId t with
  | [] => simp [hfacts] at hmem
  | [s] =>
    rw [hfacts] at hmem
    rw [mem_singleton.mp hmem]
    rfl
  | s :: s' :: rest => simp [hfacts] at hlen

/-- In every run from a journal without model invocation facts: the law holds, a call that
finds a fact of its own kind is answered with it when run and session agree and is refused
when they do not, and no action changes or removes a row. -/
theorem model_invocation_facts_run {t₀ : JournalTable}
    (hnew : ∀ r ∈ t₀.rows, r.kind ∉ STARTED :: TERMINAL) (as : List FactAct) :
    ModelInvocationFacts (run factStep t₀ as) ∧
      (∀ (c : ModelInvocationCall) (r : JournalRow),
        checkModelInvocation c.kind c.runId c.invocationId c.payload = .ok () →
        r ∈ invocationFacts [c.kind.storageName] c.invocationId (run factStep t₀ as) →
        c.exec (run factStep t₀ as) =
          if r.runId = some c.runId ∧ r.sessionId = some c.sessionId then
            .ok (rowToEvent r, run factStep t₀ as)
          else .error "MODEL_INVOCATION_IDENTITY_CONFLICT") ∧
      ∀ a, (run factStep t₀ as).rows <+: (factStep (run factStep t₀ as) a).rows := by
  have hempty : ∀ kinds ⊆ STARTED :: TERMINAL, ∀ id, invocationFacts kinds id t₀ = [] := by
    intro kinds hkinds id
    refine eq_nil_iff_forall_not_mem.mpr fun r hr => ?_
    obtain ⟨hrow, -, hkind⟩ := mem_invocationFacts.mp hr
    exact hnew r hrow (hkinds hkind)
  have hstart : ModelInvocationFacts t₀ := by
    have hstarted := hempty [STARTED] (by simp)
    have hterminal := hempty TERMINAL (by simp)
    exact ⟨fun id => by simp [hstarted], fun id => by simp [hterminal],
      fun id r hr => by simp [hterminal] at hr⟩
  have hfacts : ModelInvocationFacts (run factStep t₀ as) :=
    run_invariant (fun t a ht => ht.step a) as hstart
  refine ⟨hfacts, fun c r hcheck hr => ?_, rows_prefix_factStep _⟩
  have hkind : isModelInvocationKind c.kind = true := by
    rcases isModelInvocationKind_of_check hcheck with h | h | h <;> rw [h] <;> rfl
  have hname := mem_singleton.mp (mem_invocationFacts.mp hr).2.2
  exact ModelInvocationCall.exec_of_found hcheck (hfacts.head?_repeatedKinds hkind hr) hname

end Facts

/-! ## One invocation -/

def sampleStarted (runId : RunId) : ModelInvocationCall where
  stamp := ⟨"event_" ++ runId, 0⟩
  kind := .modelInvocationStarted
  runId
  sessionId := "session"
  invocationId := "model"
  payload := .mkObj [("schema_version", .str STARTED), ("invocation_id", .str "model"),
    ("run_id", .str runId)]

/-- A second started fact of the same invocation for another run is refused. -/
theorem model_invocation_identity_conflict :
    letI := samplePlatform
    let t := factStep .empty (.record (sampleStarted "run_1"))
    (invocationFacts [STARTED] "model" t).length = 1 ∧
      (checkModelInvocation .modelInvocationStarted "run_2" "model"
        (sampleStarted "run_2").payload).toOption = some () ∧
      ((sampleStarted "run_2").exec t).toOption.isNone = true := by
  decide

/-- The same fact recorded twice is stored once. -/
theorem model_invocation_facts_sampleStarted :
    letI := samplePlatform
    (∀ r ∈ JournalTable.empty.rows, r.kind ∉ STARTED :: TERMINAL) ∧
      ModelInvocationFacts (run factStep .empty
        [.record (sampleStarted "run_1"), .record (sampleStarted "run_1")]) :=
  letI := samplePlatform
  ⟨fun _ hr => absurd hr not_mem_nil,
    (model_invocation_facts_run (fun _ hr => absurd hr not_mem_nil) _).1⟩

end AgentCore.Journal
