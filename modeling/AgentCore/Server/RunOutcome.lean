import AgentCore.Server.Site

/-! When the status of a run is the one its dispatch ended in. -/

namespace AgentCore.Server

open Foundation Domain Journal Gateway AgentCore.Runtime List Option

/-! ## The invariant of the site -/

variable {s : Site} {w : World} {db : Db} {runId : RunId} {c : RunContext}

def Site.Delivering (s : Site) (runId : RunId) : Prop :=
  ∃ d ∈ s.deliveries, ∃ c ∈ d.context, c.run.id = runId

def DispatcherOk : Dispatcher → Prop
  | .idle => True
  | .leased d => d.invocationId = replyId d.runId
  | .executed d outcome => d.invocationId = replyId d.runId ∧
      ∃ receipt : Receipt, outcome = .ok receipt ∧ receipt.status ≠ .unknown ∧
        receipt.invocationId = d.invocationId

def PhaseTodo (db : Db) : Phase → Prop
  | .recovering todo => ∀ u ∈ todo, db.outboxStatus u.invocationId ≠ none ∧
      ∃ runId, u.invocationId = replyId runId ∧ u.runId = some runId
  | .repairing todo => todo = []
  | _ => True

structure Sound (s : Site) : Prop where
  positions : ∀ d ∈ s.deliveries, Position d
  apart : ∀ (i j : Nat) d e c c', i ≠ j → s.deliveries[i]? = some d → s.deliveries[j]? = some e →
    c ∈ d.context → c' ∈ e.context → c.run.id ≠ c'.run.id
  cells : ∀ d ∈ s.deliveries, ∀ c ∈ d.context,
    d.stage.Cell (rowStatus c.run.id s.db) (runStatus c.run.id s.db)
  rest : ∀ runId, ¬s.Delivering runId → Agree (rowStatus runId s.db) (runStatus runId s.db)
  traced : Traced s.db
  dispatchers : ∀ i, DispatcherOk (s.dispatchers i)
  phase : PhaseTodo s.db s.phase
  stopped : s.phase ≠ .serving → s.deliveries = [] ∧ ∀ i, s.dispatchers i = .idle

lemma sound_init : Sound .init where
  positions _ hd := absurd hd not_mem_nil
  apart _ _ _ _ _ _ _ hi := by simp [Site.init] at hi
  cells _ hd := absurd hd not_mem_nil
  rest runId _ st hst := by
    have hnone : rowStatus runId Site.init.db = none := rfl
    rw [hnone] at hst
    cases hst
  traced := ⟨fun _ hr => absurd hr not_mem_nil, fun _ _ he => absurd he not_mem_nil,
    fun _ _ he => absurd he not_mem_nil⟩
  dispatchers _ := trivial
  phase := trivial
  stopped _ := ⟨rfl, fun _ => rfl⟩

lemma Sound.world (h : Sound s)
    (hkeeps : ∀ runId, Keeps (rowStatus runId s.db) (runStatus runId s.db) (rowStatus runId w.db) (runStatus runId w.db))
    (htraced : Traced w.db) (hdispatchers : ∀ i, DispatcherOk (w.dispatchers i))
    (hphase : PhaseTodo w.db w.phase)
    (hstopped : w.phase ≠ .serving → s.deliveries = [] ∧ ∀ i, w.dispatchers i = .idle) :
    Sound { s with toWorld := w } where
  positions := h.positions
  apart := h.apart
  cells d hd c hc := (h.cells d hd c hc).keeps (hkeeps c.run.id)
  rest runId hrun := (hkeeps runId).agree (h.rest runId hrun)
  traced := htraced
  dispatchers := hdispatchers
  phase := hphase
  stopped := hstopped

lemma Sound.same_db (h : Sound s) (hdb : w.db = s.db)
    (hdispatchers : ∀ i, DispatcherOk (w.dispatchers i)) (hphase : PhaseTodo s.db w.phase)
    (hstopped : w.phase ≠ .serving → s.deliveries = [] ∧ ∀ i, w.dispatchers i = .idle) :
    Sound { s with toWorld := w } := by
  refine h.world (fun runId => ?_) (hdb ▸ h.traced) hdispatchers (hdb ▸ hphase) hstopped
  rw [hdb]
  exact .refl _ _

lemma dispatcherOk_set (h : ∀ i, DispatcherOk (w.dispatchers i))
    (hd : DispatcherOk d) (j : Nat) : DispatcherOk ((w.setDispatcher i d).dispatchers j) := by
  simp only [World.setDispatcher]
  by_cases hj : j = i
  · subst hj
    rwa [Function.update_self]
  · rw [Function.update_of_ne hj]
    exact h j

lemma Sound.moved (h : Sound s) (hst : rowStatus runId s.db = some st)
    (hmoves : Moves s.db db (replyId runId) st' [r]) (hdb : w.db = db) (hids : SameIds s.db db)
    (hself : Keeps (some st) (runStatus runId s.db) (some st') (runStatus runId db))
    (hother : ∀ other, other ≠ runId → runStatus other db = runStatus other s.db)
    (hstarted : r.kind = "DispatchStarted" → r.runId = some runId)
    (hend : outcomeStatus st = none ∧ isTerminalKind r.kind = false ∨ outcomeStatus st' ≠ none)
    (hdispatchers : ∀ i, DispatcherOk (w.dispatchers i)) (hphase : PhaseTodo db w.phase)
    (hstopped : w.phase ≠ .serving → s.deliveries = [] ∧ ∀ i, w.dispatchers i = .idle) :
    Sound { s with toWorld := w } := by
  subst hdb
  refine h.world (fun other => ?_) (h.traced.moves hmoves (hids.rows h.traced.rows) ?_ ?_ ?_)
    hdispatchers hphase hstopped
  · by_cases heq : other = runId
    · subst heq
      rw [hst, show rowStatus other w.db = some st' from hmoves.status_self]
      exact hself
    · rw [hother other heq, rowStatus, rowStatus,
        hmoves.status_other _ fun hid => heq (replyId_injective hid)]
      exact .refl _ _
  · intro e he hkind
    rw [mem_singleton.mp he] at hkind ⊢
    exact hstarted hkind
  · intro e he hterminal
    rw [mem_singleton.mp he] at hterminal
    exact hend.resolve_left fun hopen => absurd hterminal (by simp [hopen.2])
  · intro st₁ hst₁ hne
    rw [hst] at hst₁
    cases hst₁
    exact hend.resolve_left fun hopen => hne hopen.1

/-! ## The steps of the kernel -/

def definite (outcome : AdapterOutcome) : Dispatcher → Bool
  | .leased d =>
    match outcome with
    | .ok receipt => decide (receipt.status ≠ .unknown ∧ receipt.invocationId = d.invocationId)
    | .error _ => false
  | _ => true

lemma Sound.serving_of_busy (h : Sound s) (hd : s.dispatchers i ≠ .idle) : s.phase = .serving := by
  by_contra hne
  exact hd ((h.stopped hne).2 i)

lemma started_of_candidate (h : u ∈ unknownInvocations db) :
    ∃ e ∈ db.outboxFacts u.invocationId, e.kind = "DispatchStarted" ∧ e.runId = u.runId := by
  obtain ⟨k, hk, rfl⟩ := mem_map.mp h
  obtain ⟨e, he, rfl⟩ := mem_map.mp ((distinct_sublist _ _).subset hk)
  obtain ⟨hrow, hunresolved⟩ := mem_filter.mp he
  obtain ⟨hkind, hsome, -⟩ := mem_unresolved.mp hunresolved
  obtain ⟨id, hid⟩ := isSome_iff_exists.mp hsome
  refine ⟨e, mem_outboxFacts.mpr ⟨hrow, ?_, by rw [hkind]; decide⟩, hkind, rfl⟩
  simp only [dispatchKey, hid, getD_some]

section Kernel

variable [Platform]

lemma Sound.leased (h : Sound s) (hserving : s.phase = .serving)
    (hlease : leaseNextOutboxDispatch now stamp s.db = .ok (some d, db)) :
    Sound { s with toWorld := { s.toWorld with db }.setDispatcher i (.leased d) } := by
  obtain ⟨hwaiting, r, hkind, hr, hmoves⟩ := leaseNextOutboxDispatch_some hlease
  obtain ⟨row, hrow, hid, hrun, houtbox⟩ := leaseNextOutboxDispatch_row hlease
  have hreply : d.invocationId = replyId d.runId := by
    rw [hid, hrun]
    exact h.traced.rows row hrow
  obtain ⟨st, hst, hopen⟩ : ∃ st, rowStatus d.runId s.db = some st ∧ outcomeStatus st = none := by
    rw [rowStatus, ← hreply]
    rcases hwaiting with hwaiting | hwaiting
    · exact ⟨_, hwaiting, rfl⟩
    · exact ⟨_, hwaiting, rfl⟩
  rw [hreply] at hmoves
  have hruns := runStatus_of_runs (runs_leaseNextOutboxDispatch hlease)
  refine h.moved hst hmoves rfl (sameIds_update _ houtbox fun _ => rfl)
    (by rw [hruns]; exact keeps_lease hopen) (fun other _ => hruns other) (fun _ => hr)
    (.inl ⟨hopen, by rw [hkind]; decide⟩) (dispatcherOk_set h.dispatchers hreply) ?_
    fun hne => absurd hserving hne
  show PhaseTodo db s.phase
  rw [hserving]
  trivial

lemma Sound.finished (h : Sound s) (hd : s.dispatchers i = .executed d outcome)
    (hwrite : writeOutcome d outcome now stamps s.db = .ok db) :
    Sound { s with toWorld := { s.toWorld with db }.setDispatcher i .idle } := by
  have hok := h.dispatchers i
  rw [hd] at hok
  obtain ⟨hreply, receipt, rfl, hdefinite, hreceipt⟩ := hok
  have hserving : s.phase = .serving := h.serving_of_busy (by rw [hd]; simp)
  have hidle := dispatcherOk_set (w := s.toWorld) (i := i) (d := .idle) h.dispatchers trivial
  have hphase : PhaseTodo db s.phase := by
    rw [hserving]
    trivial
  simp only [writeOutcome] at hwrite
  split at hwrite
  · obtain ⟨hdispatching, r, hkind, -, hmoves⟩ := succeedOutboxDispatch_spec hwrite
    rw [hreceipt, hreply] at hdispatching hmoves
    have hstatus := runStatus_succeedOutboxDispatch hwrite
    have hself : runStatus d.runId db = if runStatus d.runId s.db ≠ some .failed then
        (runStatus d.runId s.db).map fun _ => .completed else runStatus d.runId s.db := by
      rw [hstatus]
      simp only [true_and]
    exact h.moved hdispatching hmoves rfl (ofSettlement_sameIds.succeed hwrite) (hself ▸ keeps_succeed)
      (fun other hne => (hstatus other).trans (if_neg fun hand => hne hand.1))
      (fun hstarted => absurd (hkind.symm.trans hstarted) (by decide)) (.inr (by decide)) hidle
      hphase fun hne => absurd hserving hne
  · obtain ⟨hdispatching, r, hkind, -, hmoves⟩ := failOutboxDispatch_spec hwrite
    rw [hreply] at hdispatching hmoves
    have hstatus := runStatus_failOutboxDispatch hwrite
    exact h.moved hdispatching hmoves rfl (ofSettlement_sameIds.fail hwrite)
      (by rw [hstatus, if_pos rfl]; exact keeps_outcome rfl)
      (fun other hne => (hstatus other).trans (if_neg hne))
      (fun hstarted => absurd (hkind.symm.trans hstarted) (by decide)) (.inr (by decide)) hidle
      hphase fun hne => absurd hserving hne
  · next hunknown => exact absurd hunknown hdefinite

lemma Sound.recovered (h : Sound s) (hphase : s.phase = .recovering (u :: todo))
    (hrecover : recoverInvocation u now stamp s.db = .ok db) :
    Sound { s with toWorld := { s.toWorld with db, phase := .recovering todo } } := by
  have htodo := h.phase
  rw [hphase] at htodo
  obtain ⟨hexists, runId, hid, hrun⟩ := htodo u mem_cons_self
  obtain ⟨st, hst⟩ := ne_none_iff_exists'.mp hexists
  obtain ⟨hstatus, r, hkind, hfacts⟩ := recoverInvocation_spec hrecover
  rw [hid] at hst hstatus hfacts
  have hmoves : Moves s.db db (replyId runId) .unknown [r] := by
    refine ⟨?_, ?_, fun id hne => ?_, fun id hne => ?_⟩
    · rw [hstatus, if_pos rfl, hst]
      rfl
    · rw [hfacts, if_pos rfl]
    · rw [hstatus, if_neg hne]
    · rw [hfacts, if_neg hne, append_nil]
  have hruns := runStatus_recoverInvocation hrecover
  rw [hrun] at hruns
  refine h.moved hst hmoves rfl (sameIds_recover hrecover)
    (by rw [hruns, if_pos rfl]; exact keeps_outcome rfl)
    (fun other hne => (hruns other).trans (if_neg fun heq => hne (some.inj heq).symm))
    (fun hstarted => absurd (hkind.symm.trans hstarted) (by decide)) (.inr nofun)
    h.dispatchers (fun v hv => ?_) fun _ => h.stopped (by rw [hphase]; simp)
  obtain ⟨hrow, hown⟩ := htodo v (mem_cons_of_mem _ hv)
  refine ⟨?_, hown⟩
  show db.outboxStatus v.invocationId ≠ none
  rw [hstatus]
  split_ifs
  · simpa using hrow
  · exact hrow

lemma Traced.stale_eq_nil (h : Traced db) (now : Timestamp) :
    staleDispatchingWithTerminalJournal now db = [] := by
  unfold staleDispatchingWithTerminalJournal
  refine map_eq_nil_iff.mpr (filter_eq_nil_iff.mpr fun r hr hstale => ?_)
  simp only [Bool.and_eq_true, decide_eq_true_eq, Bool.not_eq_true', isEmpty_eq_false_iff]
    at hstale
  obtain ⟨⟨hdispatching, -⟩, hne⟩ := hstale
  obtain ⟨e, he⟩ := exists_mem_of_ne_nil _ hne
  rw [terminalRows_eq_facts, h.rows r hr] at he
  obtain ⟨hfact, hterminal⟩ := mem_filter.mp he
  obtain ⟨st, hst, hsettled⟩ := h.settled r.runId e hfact hterminal
  have hrow : rowStatus r.runId db = some r.status := by
    rw [rowStatus, ← h.rows r hr, Db.outboxStatus_of_mem hr]
  rw [hrow, hdispatching] at hst
  cases hst
  exact hsettled rfl

lemma Sound.kernel (h : Sound s) (hl : internalLabel l = true)
    (hdefinite : ∀ i outcome, l = .execute i outcome → definite outcome (s.dispatchers i) = true) :
    Sound { s with toWorld := s.toWorld.step l } := by
  have heffect := effect_step s.toWorld l
  generalize s.toWorld.step l = w' at heffect ⊢
  cases heffect with
  | stays => exact h
  | leased hserving _ _ _ _ hlease => exact h.leased hserving hlease
  | @executed i outcome d hd =>
    have hok := h.dispatchers i
    specialize hdefinite i outcome rfl
    rw [hd] at hok hdefinite
    refine h.same_db rfl (dispatcherOk_set h.dispatchers ⟨hok, ?_⟩) h.phase
      fun hne => absurd (h.serving_of_busy (by rw [hd]; simp)) hne
    cases outcome with
    | ok receipt => exact ⟨receipt, rfl, by simpa [definite] using hdefinite⟩
    | error e => cases hdefinite
  | finished hd hdb =>
    rcases hdb with rfl | hwrite
    · exact h.same_db rfl (dispatcherOk_set h.dispatchers trivial) h.phase
        fun hne => absurd (h.serving_of_busy (by rw [hd]; simp)) hne
    · exact h.finished hd hwrite
  | @abandoned i =>
    refine h.same_db rfl (dispatcherOk_set h.dispatchers trivial) h.phase fun hne => ?_
    refine ⟨(h.stopped hne).1, fun j => ?_⟩
    simp only [World.setDispatcher]
    by_cases hj : j = i
    · rw [hj, Function.update_self]
    · rw [Function.update_of_ne hj]
      exact (h.stopped hne).2 j
  | restarted hdown =>
    refine h.same_db rfl h.dispatchers (fun u hu => ?_) fun _ => h.stopped (by rw [hdown]; decide)
    obtain ⟨e, he, hkind, hrun⟩ := started_of_candidate hu
    obtain ⟨hrow, runId, hid, hown⟩ := h.traced.started _ e he hkind
    exact ⟨hrow, runId, hid, hrun.symm.trans hown⟩
  | aborted hphase | returned hphase =>
    exact h.same_db rfl h.dispatchers trivial fun _ => h.stopped (by rw [hphase]; simp)
  | recovered hphase hrecover => exact h.recovered hphase hrecover
  | @scanned now hphase =>
    exact h.same_db rfl h.dispatchers (h.traced.stale_eq_nil now)
      fun _ => h.stopped (by rw [hphase]; simp)
  | repaired hphase =>
    have htodo := h.phase
    rw [hphase] at htodo
    cases htodo
  | started => exact h.same_db rfl h.dispatchers trivial fun hne => absurd rfl hne
  | _ => cases hl

end Kernel

/-! ## The steps of the workers -/

section Workers

variable {i : Nat} {d : Delivery}

lemma mem_set_deliveries (h : e ∈ s.deliveries.set i d') :
    e = d' ∨ ∃ j, j ≠ i ∧ s.deliveries[j]? = some e := by
  obtain ⟨j, hj⟩ := mem_iff_getElem?.mp h
  rw [getElem?_set] at hj
  split at hj
  · split at hj
    · exact .inl (some.inj hj).symm
    · cases hj
  · next hne => exact .inr ⟨j, fun heq => hne heq.symm, hj⟩

lemma Sound.set (h : Sound s) (hget : s.deliveries[i]? = some d) (hpos : Position d')
    (htraced : Traced db')
    (hnew : ∀ c' ∈ d'.context, ∀ j e c, j ≠ i → s.deliveries[j]? = some e → c ∈ e.context →
      c.run.id ≠ c'.run.id)
    (hcell : ∀ c' ∈ d'.context, d'.stage.Cell (rowStatus c'.run.id db') (runStatus c'.run.id db'))
    (hothers : ∀ j e c, j ≠ i → s.deliveries[j]? = some e → c ∈ e.context →
      Keeps (rowStatus c.run.id s.db) (runStatus c.run.id s.db) (rowStatus c.run.id db')
        (runStatus c.run.id db')) (hrest : ∀ runId, (∀ c' ∈ d'.context, c'.run.id ≠ runId) →
      (∀ j e c, j ≠ i → s.deliveries[j]? = some e → c ∈ e.context → c.run.id ≠ runId) →
      Agree (rowStatus runId db') (runStatus runId db')) :
    Sound { s with db := db', deliveries := s.deliveries.set i d' } := by
  have hserving : s.phase = .serving := by
    by_contra hne
    rw [(h.stopped hne).1] at hget
    simp at hget
  have hi : i < s.deliveries.length := (List.getElem?_eq_some_iff.mp hget).1
  refine ⟨fun e he => ?_, fun j k e f c c' hne hj hk hc hc' => ?_, fun e he c hc => ?_,
    fun runId hrun => ?_, htraced, h.dispatchers, ?_, fun hne => absurd hserving hne⟩
  · rcases mem_set_deliveries he with rfl | ⟨j, -, hj⟩
    · exact hpos
    · exact h.positions e (mem_of_getElem? hj)
  · simp only [getElem?_set] at hj hk
    by_cases hji : i = j
    · rw [if_pos hji, if_pos (hji ▸ hi)] at hj
      cases hj
      rw [if_neg (hji ▸ hne)] at hk
      exact (hnew c hc k f c' (hji ▸ hne.symm) hk hc').symm
    · rw [if_neg hji] at hj
      by_cases hki : i = k
      · rw [if_pos hki, if_pos (hki ▸ hi)] at hk
        cases hk
        exact hnew c' hc' j e c (fun heq => hji heq.symm) hj hc
      · rw [if_neg hki] at hk
        exact h.apart j k e f c c' hne hj hk hc hc'
  · rcases mem_set_deliveries he with rfl | ⟨j, hne, hj⟩
    · exact hcell c hc
    · exact (h.cells e (mem_of_getElem? hj) c hc).keeps (hothers j e c hne hj hc)
  · refine hrest runId (fun c' hc' heq => hrun ⟨d', mem_set hi d', c', hc', heq⟩)
      fun j e c hne hj hc heq => hrun ⟨e, ?_, c, hc, heq⟩
    refine mem_of_getElem? (i := j) ?_
    rw [getElem?_set, if_neg fun heq => hne heq.symm]
    exact hj
  · show PhaseTodo db' s.phase
    rw [hserving]
    trivial

lemma not_delivering (hget : s.deliveries[i]? = some d) (hd : ∀ c ∈ d.context, c.run.id ≠ runId)
    (hothers : ∀ j e c, j ≠ i → s.deliveries[j]? = some e → c ∈ e.context → c.run.id ≠ runId) :
    ¬s.Delivering runId := by
  rintro ⟨e, he, c, hc, hrun⟩
  obtain ⟨j, hj⟩ := mem_iff_getElem?.mp he
  by_cases hji : j = i
  · rw [hji, hget] at hj
    cases hj
    exact hd c hc hrun
  · exact hothers j e c hji hj hc hrun

lemma Sound.own (h : Sound s) (hget : s.deliveries[i]? = some d) (hd : d.context = some c)
    (hd' : d'.context = some c ∨ d'.context = none) (hpos : Position d') (htraced : Traced db')
    (hframe : ∀ other, other ≠ c.run.id → rowStatus other db' = rowStatus other s.db ∧ runStatus other db' = runStatus other s.db)
    (hcell : d'.context = some c → d'.stage.Cell (rowStatus c.run.id db') (runStatus c.run.id db'))
    (hleft : d'.context = none → Agree (rowStatus c.run.id db') (runStatus c.run.id db')) :
    Sound { s with db := db', deliveries := s.deliveries.set i d' } := by
  have happart : ∀ j e c', j ≠ i → s.deliveries[j]? = some e → c' ∈ e.context →
      c'.run.id ≠ c.run.id :=
    fun j e c' hne hj hc' => h.apart j i e d c' c hne hj hget hc' hd
  have hsame : ∀ c' ∈ d'.context, c' = c := by
    intro c' hc'
    rcases hd' with hsome | hnone
    · exact some.inj (hc'.symm.trans hsome)
    · rw [hnone] at hc'
      cases hc'
  refine h.set hget hpos htraced ?_ ?_ ?_ ?_
  · intro c' hc' j e c₁ hne hj hc₁
    rw [hsame c' hc']
    exact happart j e c₁ hne hj hc₁
  · intro c' hc'
    obtain rfl := hsame c' hc'
    exact hcell hc'
  · intro j e c₁ hne hj hc₁
    obtain ⟨hrow, hrun⟩ := hframe c₁.run.id (happart j e c₁ hne hj hc₁)
    rw [hrow, hrun]
    exact .refl _ _
  · intro runId hnew hothers
    by_cases heq : runId = c.run.id
    · subst heq
      refine hleft (hd'.resolve_left fun hsome => ?_)
      exact hnew c hsome rfl
    · obtain ⟨hrow, hrun⟩ := hframe runId heq
      rw [hrow, hrun]
      refine h.rest runId (not_delivering hget (fun c₁ hc₁ => ?_) hothers)
      rw [hd] at hc₁
      rw [← some.inj hc₁]
      exact fun hrun => heq hrun.symm

lemma Sound.outside (h : Sound s) (hget : s.deliveries[i]? = some d) (hd : d.context = none)
    (hd' : d'.context = none) (hpos : Position d') (hinline : InlineOnly s.db db') :
    Sound { s with db := db', deliveries := s.deliveries.set i d' } := by
  have hrow : ∀ runId, rowStatus runId db' = rowStatus runId s.db :=
    fun runId => outboxStatus_of_outbox hinline.outbox (replyId runId)
  have hrun := runStatus_of_runs hinline.runs
  refine h.set hget hpos (h.traced.inlineOnly hinline) ?_ ?_ ?_ ?_
  · intro c' hc'
    rw [hd'] at hc'
    cases hc'
  · intro c' hc'
    rw [hd'] at hc'
    cases hc'
  · intro j e c hne hj hc
    rw [hrow, hrun]
    exact .refl _ _
  · intro runId _ hothers
    rw [hrow, hrun]
    refine h.rest runId (not_delivering hget (fun c hc => ?_) hothers)
    rw [hd] at hc
    cases hc

lemma Sound.run_ne_none (h : Sound s) (hrow : rowStatus runId s.db ≠ none) :
    runStatus runId s.db ≠ none := by
  by_cases hdelivering : s.Delivering runId
  · obtain ⟨e, he, c, hc, rfl⟩ := hdelivering
    exact (h.cells e he c hc).run_ne_none
  · exact (h.rest runId hdelivering).run_ne_none hrow

lemma Sound.created (h : Sound s) (hget : s.deliveries[i]? = some (.inserting c))
    (hpos : Position (.starting c)) (hrunning : c.run.status = .running)
    (hinsert : insertRun c.run s.db = .ok db') :
    Sound { s with db := db', deliveries := s.deliveries.set i (.starting c) } := by
  have hstatus := runStatus_insertRun hinsert
  have hnone : runStatus c.run.id s.db = none := runStatus_of_insertRun hinsert
  obtain ⟨houtbox, hjournal⟩ : db'.outbox = s.db.outbox ∧ db'.journal = s.db.journal := by
    obtain ⟨-, runs, -, rfl⟩ := insertRun_eq_ok hinsert
    exact ⟨rfl, rfl⟩
  have hrow : ∀ runId, rowStatus runId db' = rowStatus runId s.db :=
    fun runId => outboxStatus_of_outbox houtbox (replyId runId)
  have happart : ∀ j e c', j ≠ i → s.deliveries[j]? = some e → c' ∈ e.context →
      c'.run.id ≠ c.run.id := by
    intro j e c' hne hj hc' heq
    exact (h.cells e (mem_of_getElem? hj) c' hc').run_ne_none (heq ▸ hnone)
  have hother : ∀ runId, runId ≠ c.run.id → runStatus runId db' = runStatus runId s.db :=
    fun runId hne => (hstatus runId).trans (if_neg fun heq => hne heq.symm)
  refine h.set hget hpos (h.traced.of_eq houtbox hjournal) ?_ ?_ ?_ ?_
  · intro c' hc'
    rw [← some.inj hc']
    exact happart
  · intro c' hc'
    rw [← some.inj hc', hrow, hstatus, if_pos rfl, hrunning]
    exact ⟨by_contra fun hne => h.run_ne_none hne hnone, rfl⟩
  · intro j e c₁ hne hj hc₁
    rw [hrow, hother _ (happart j e c₁ hne hj hc₁)]
    exact .refl _ _
  · intro runId hnew hothers
    rw [hrow, hother runId fun heq => hnew c rfl heq.symm]
    exact h.rest runId (not_delivering hget (fun _ hc₁ => nomatch hc₁) hothers)

def Finishable (s : Site) (d : Delivery) : Prop :=
  ∀ c, d = .completing c → rowStatus c.run.id s.db ≠ some .failed ∧
    rowStatus c.run.id s.db ≠ some .unknown

lemma Sound.advance [Platform] (h : Sound s) (hget : s.deliveries[i]? = some d)
    (hx : x.event.Inline) (hfinish : Finishable s d) :
    Sound { s with
      db := (d.next x s.db).2
      deliveries := s.deliveries.set i (d.next x s.db).1 } := by
  have hmem : d ∈ s.deliveries := mem_of_getElem? hget
  obtain ⟨hadvance, hpos⟩ := (h.positions d hmem).advance hx s.db
  generalize (d.next x s.db).1 = d' at hadvance hpos
  generalize (d.next x s.db).2 = db' at hadvance
  have hsame : ∀ db', InlineOnly s.db db' → ∀ runId, rowStatus runId db' = rowStatus runId s.db ∧
      runStatus runId db' = runStatus runId s.db :=
    fun db' hinline runId => ⟨outboxStatus_of_outbox hinline.outbox (replyId runId),
      runStatus_of_runs hinline.runs runId⟩
  have hset : ∀ (c : RunContext) status, ∀ other, other ≠ c.run.id →
      rowStatus other (setRunStatus c.run.id status x.now s.db) = rowStatus other s.db ∧
      runStatus other (setRunStatus c.run.id status x.now s.db) = runStatus other s.db :=
    fun c status other hne => ⟨rfl, by rw [runStatus_setRunStatus, if_neg hne]⟩
  cases hadvance with
  | outside hd hd' hinline => exact h.outside hget hd hd' hpos hinline
  | created hrun hinsert => exact h.created hget hpos hrun hinsert
  | @worked c _ _ _ hd hd' hinline =>
    have hcell := h.cells d hmem c hd.context
    obtain ⟨hrow, hrun⟩ := hsame _ hinline c.run.id
    refine h.own hget hd.context (.inl hd'.context) hpos (h.traced.inlineOnly hinline)
      (fun other _ => hsame _ hinline other) (fun _ => ?_) fun hnone => ?_
    · rw [hrow, hrun, hd'.stage]
      rwa [hd.stage] at hcell
    · rw [hd'.context] at hnone
      cases hnone
  | @gaveUp c _ _ category reason hd hinline =>
    have hcell := h.cells d hmem c hd.context
    rw [hd.stage] at hcell
    obtain ⟨hrow, hrun⟩ := hsame _ hinline c.run.id
    refine h.own hget hd.context (.inl rfl) hpos (h.traced.inlineOnly hinline)
      (fun other _ => hsame _ hinline other) (fun _ => ?_) nofun
    rw [hrow, hrun]
    exact ⟨hcell.1, by rw [hcell.2]; simp⟩
  | @dropped c _ _ _ hd hd' hinline =>
    have hcell := h.cells d hmem c hd.context
    rw [hd.stage] at hcell
    obtain ⟨hrow, hrun⟩ := hsame _ hinline c.run.id
    refine h.own hget hd.context (.inr hd') hpos (h.traced.inlineOnly hinline)
      (fun other _ => hsame _ hinline other) (fun hsome => ?_) fun _ => ?_
    · rw [hd'] at hsome
      cases hsome
    · rw [hrow, hrun]
      exact agree_of_absent hcell.1 _
  | @queued c approved dispatchId _ hown hqueue =>
    have hcell := h.cells _ hmem c rfl
    have hrow : rowStatus c.run.id s.db = none := hcell.1
    have hrun := runStatus_of_runs (runs_queueOutboxDispatch hqueue)
    obtain ⟨-, hmoves⟩ := (queueOutboxDispatch_spec hqueue).resolve_left
      fun hold => hold.1 (by rw [hown.invocationId]; exact hrow)
    rw [hown.invocationId] at hmoves
    have hstatus : rowStatus c.run.id db' = some .pending := hmoves.status_self
    have hrows : ∀ r ∈ db'.outbox, r.invocationId = replyId r.runId := by
      intro r hr
      rcases mem_of_mem_queueOutboxDispatch hqueue hr with hold | rfl
      · exact h.traced.rows r hold
      · exact hown.invocationId.trans (congrArg replyId hown.runId.symm)
    refine h.own hget rfl (.inl rfl) hpos
      (h.traced.moves hmoves hrows nofun nofun ?_) (fun other hne => ⟨?_, hrun other⟩)
      (fun _ => ⟨by rw [hstatus]; simp, fun st hst => ?_⟩) nofun
    · intro st hst
      rw [hrow] at hst
      cases hst
    · exact hmoves.status_other _ fun heq => hne (replyId_injective heq)
    · rw [hstatus] at hst
      cases hst
      exact ⟨.running, (hrun c.run.id).trans hcell.2, nofun⟩
  | @waited c =>
    obtain ⟨hrow, hagree⟩ := h.cells _ hmem c rfl
    obtain ⟨st, hst⟩ := ne_none_iff_exists'.mp hrow
    obtain ⟨status, hstatus, -⟩ := hagree st hst
    refine h.own hget rfl (.inl rfl) hpos (h.traced.of_eq rfl rfl) (hset c _) (fun _ => ?_) nofun
    refine ⟨st, hst, .waitingDispatch, ?_, fun _ => by decide⟩
    rw [runStatus_setRunStatus, if_pos rfl, show runStatus c.run.id s.db = some status from hstatus]
    rfl
  | @completed c =>
    obtain ⟨st, hst, status, hstatus, -⟩ := h.cells _ hmem c rfl
    refine h.own hget rfl (.inr rfl) hpos (h.traced.of_eq rfl rfl) (hset c _) nofun
      fun _ st' hst' => ⟨.completed, ?_, ?_⟩
    · rw [runStatus_setRunStatus, if_pos rfl,
        show runStatus c.run.id s.db = some status from hstatus]
      rfl
    · obtain ⟨hfailed, hunknown⟩ := hfinish c rfl
      have hrow : rowStatus c.run.id s.db = some st' := hst'
      rw [hrow] at hfailed hunknown
      cases st' with
      | succeeded => rfl
      | failed => exact absurd rfl hfailed
      | unknown => exact absurd rfl hunknown
      | _ => exact nofun
  | @failed c category reason =>
    obtain ⟨hrow, hrun⟩ := h.cells _ hmem c rfl
    obtain ⟨status, hstatus⟩ := ne_none_iff_exists'.mp hrun
    refine h.own hget rfl (.inl rfl) hpos (h.traced.of_eq rfl rfl) (hset c _)
      (fun _ => ⟨hrow, ?_⟩) nofun
    rw [runStatus_setRunStatus, if_pos rfl, hstatus]
    simp
  | @reported c category reason _ hinline =>
    have hcell := h.cells _ hmem c rfl
    obtain ⟨hrow, hrun⟩ := hsame _ hinline c.run.id
    refine h.own hget rfl (.inr rfl) hpos (h.traced.inlineOnly hinline)
      (fun other _ => hsame _ hinline other) nofun fun _ => ?_
    rw [hrow, hrun]
    exact agree_of_absent hcell.1 _

end Workers

/-! ## Whole runs -/

def settledRow (s : Site) (runId : RunId) : Bool :=
  ((rowStatus runId s.db).bind outcomeStatus).isSome

/-- The worker's completion does not find its reply failed or lost, the adapter's answers are
definite, and no crash finds a worker before its completion with its reply settled. -/
def careful (s : Site) : SiteAct → Bool
  | .deliver _ _ => true
  | .advance i _ =>
    match s.deliveries[i]? with
    | some (.completing c) => decide (rowStatus c.run.id s.db ≠ some .failed ∧
        rowStatus c.run.id s.db ≠ some .unknown)
    | _ => true
  | .kernel ⟨.execute i outcome, _⟩ => definite outcome (s.dispatchers i)
  | .kernel _ => true
  | .crash => s.deliveries.all fun
    | .completing c => !settledRow s c.run.id
    | _ => true

lemma Sound.deliver (h : Sound s) (hserving : s.phase = .serving)
    (hconfig : config.requireWriteApproval = false) (event : ValidatedEvent) :
    Sound { s with deliveries := s.deliveries ++ [.opening ⟨.v0, config, event⟩] } := by
  have hold : ∀ {j : Nat} {e : Delivery} {c : RunContext},
      (s.deliveries ++ [.opening ⟨.v0, config, event⟩])[j]? = some e → c ∈ e.context →
      s.deliveries[j]? = some e := by
    intro j e c hj hc
    rcases Nat.lt_or_ge j s.deliveries.length with hlt | hge
    · rwa [getElem?_append_left hlt] at hj
    · rw [getElem?_append_right hge] at hj
      obtain rfl := mem_singleton.mp (mem_of_getElem? hj)
      cases hc
  refine ⟨fun e he => ?_, fun j k e f c c' hne hj hk hc hc' => ?_, fun e he c hc => ?_,
    fun runId hrun => h.rest runId fun hdelivering => hrun ?_, h.traced, h.dispatchers, h.phase,
    fun hne => absurd hserving hne⟩
  · rcases mem_append.mp he with he | he
    · exact h.positions e he
    · rw [mem_singleton.mp he]
      exact .opening ⟨rfl, hconfig⟩
  · exact h.apart j k e f c c' hne (hold hj hc) (hold hk hc') hc hc'
  · obtain ⟨j, hj⟩ := mem_iff_getElem?.mp he
    exact h.cells e (mem_of_getElem? (hold hj hc)) c hc
  · obtain ⟨e, he, hc⟩ := hdelivering
    exact ⟨e, mem_append_left _ he, hc⟩

section Runs

variable [Platform]

lemma Sound.crash (h : Sound s) (hcareful : careful s .crash = true) :
    Sound ⟨s.toWorld.step .crash, []⟩ := by
  refine ⟨fun _ hd => absurd hd not_mem_nil, fun i j d e c c' _ hi => by simp at hi,
    fun _ hd => absurd hd not_mem_nil, fun runId _ => ?_, h.traced, fun _ => trivial,
    trivial, fun _ => ⟨rfl, fun _ => rfl⟩⟩
  show Agree (rowStatus runId s.db) (runStatus runId s.db)
  by_cases hdelivering : s.Delivering runId
  · obtain ⟨d, hd, c, hc, rfl⟩ := hdelivering
    have hcell := h.cells d hd c hc
    have hsafe := all_eq_true.mp hcareful d hd
    cases hstage : d.stage with
    | working | failing =>
      rw [hstage] at hcell
      exact agree_of_absent hcell.1 _
    | queued =>
      rw [hstage] at hcell
      exact hcell.2
    | completing =>
      rw [hstage] at hcell
      obtain ⟨st, hst, status, hstatus, hopen⟩ := hcell
      have hd : d = .completing c := by
        cases d with
        | completing c' => rw [some.inj hc]
        | replying c' reply => cases reply <;> cases hstage
        | _ => cases hstage
      subst hd
      have hnone : outcomeStatus st = none := by
        have hrow : rowStatus c.run.id s.db = some st := hst
        simpa [settledRow, hrow] using hsafe
      intro st' hst'
      cases hst.symm.trans hst'
      refine ⟨status, hstatus, ?_⟩
      rw [hnone]
      exact hopen hnone
  · exact h.rest runId hdelivering

lemma Sound.step (h : Sound s) (ha : careful s a = true) : Sound (s.step a) := by
  cases a with
  | deliver config event =>
    simp only [Site.step]
    split_ifs with hserving
    · exact h.deliver hserving config.2 event
    · exact h
  | advance i x =>
    simp only [Site.step]
    split
    · exact h
    · next d hget =>
      refine h.advance hget x.2 fun c hc => ?_
      subst hc
      simpa [careful, hget] using ha
  | kernel l =>
    refine h.kernel l.2 fun i outcome hl => ?_
    obtain ⟨l, hinternal⟩ := l
    subst hl
    exact ha
  | crash => exact h.crash ha

/-- In every run of the site whose steps are all careful: a run with one outbox row that is
settled and no delivery at work has the status of its row. -/
theorem run_status_agrees_of_careful {as : List SiteAct}
    (h : Along Site.step (fun s a => careful s a = true) .init as) {runId : RunId}
    {row : OutboxRow} {status : RunStatus}
    (hrow : (run Site.step .init as).db.outbox.rows.filter (fun r => r.runId = runId) = [row])
    (hsettled : outcomeStatus row.status = some status)
    (hidle : ¬(run Site.step .init as).Delivering runId) :
    runStatus runId (run Site.step .init as).db = some status := by
  have hsound : Sound (run Site.step .init as) :=
    h.invariant (fun _ _ hs ha => hs.step ha) sound_init
  generalize run Site.step .init as = s at *
  obtain ⟨hmem, hid⟩ := mem_filter.mp (hrow ▸ mem_singleton_self row)
  have hid : row.runId = runId := of_decide_eq_true hid
  have hstatus : rowStatus runId s.db = some row.status := by
    rw [rowStatus, ← hid, ← hsound.traced.rows row hmem, Db.outboxStatus_of_mem hmem]
  obtain ⟨found, hfound, hmatch⟩ := hsound.rest runId hidle row.status hstatus
  rw [hsettled] at hmatch
  rw [show runStatus runId s.db = some found from hfound, hmatch]

end Runs

/-! ## One message -/

def siteStart : List SiteAct :=
  [.kernel ⟨.restart, rfl⟩, .kernel ⟨.scanStale 0, rfl⟩, .kernel ⟨.recoverReturn, rfl⟩,
    .kernel ⟨.start, rfl⟩, .deliver ⟨{}, rfl⟩ (sampleMessage "hi")]

def siteWork (first last : Nat) : List SiteAct :=
  ((range last).drop first).map fun n => .advance 0 ⟨sampleInput n, trivial⟩

def siteDispatch (status : ReceiptStatus) : List SiteAct :=
  [.kernel ⟨.lease 0 20 ⟨"lease", 20⟩, rfl⟩,
    .kernel ⟨.execute 0 (.ok ⟨"reply:run", status, none, .null, 21⟩), rfl⟩,
    .kernel ⟨.finish 0 22 (fun k => ⟨"o" ++ toString k, 22⟩), rfl⟩]

/-- A lost reply leaves the run completed, and so does a reply that failed before the worker
was done. -/
theorem run_status_disagrees_siteDispatch :
    letI := samplePlatform
    let lost := run Site.step .init (siteStart ++ siteWork 0 12 ++ siteDispatch .unknown)
    let early := run Site.step .init
      (siteStart ++ siteWork 0 10 ++ siteDispatch .failed ++ siteWork 10 12)
    (lost.deliveries = [.ended true] ∧
        lost.db.outbox.rows.map (fun r => (r.runId, r.status)) = [("run", .unknown)] ∧
        runStatus "run" lost.db = some .completed) ∧
      early.deliveries = [.ended true] ∧
        early.db.outbox.rows.map (fun r => (r.runId, r.status)) = [("run", .failed)] ∧
        runStatus "run" early.db = some .completed := by
  decide +kernel

def siteCrash : List SiteAct :=
  siteStart ++ siteWork 0 12 ++ (siteDispatch .succeeded).take 2 ++
    [.crash, .kernel ⟨.restart, rfl⟩, .kernel ⟨.recoverNext 30 ⟨"recovery", 30⟩, rfl⟩]

lemma careful_siteCrash :
    letI := samplePlatform
    Along Site.step (fun s a => careful s a = true) .init siteCrash := by
  decide +kernel

lemma rows_siteCrash :
    letI := samplePlatform
    (run Site.step .init siteCrash).deliveries = [] ∧
      ((run Site.step .init siteCrash).db.outbox.rows.filter (fun r => r.runId = "run")).map
        OutboxRow.status = [.unknown] := by
  decide +kernel

/-- Recovery settles the row and the run alike. -/
theorem run_status_agrees_siteCrash :
    letI := samplePlatform
    Along Site.step (fun s a => careful s a = true) .init siteCrash ∧
      runStatus "run" (run Site.step .init siteCrash).db = some .unknown := by
  let := samplePlatform
  obtain ⟨hdeliveries, hrows⟩ := rows_siteCrash
  obtain ⟨row, hrow⟩ := length_eq_one_iff.mp
    ((length_map OutboxRow.status).symm.trans (congrArg length hrows))
  have hstatus : row.status = .unknown := by
    rw [hrow] at hrows
    exact head_eq_of_cons_eq hrows
  refine ⟨careful_siteCrash,
    run_status_agrees_of_careful careful_siteCrash hrow (by rw [hstatus]; rfl) ?_⟩
  rintro ⟨d, hd, -⟩
  rw [hdeliveries] at hd
  cases hd

end AgentCore.Server
