import AgentCore.Server.Workers

/-! One run and one entry into the model loop for each message, whatever the workers, the
expired locks and the crashes. The insertion of the run decides between two deliveries of one
message: only the delivery that inserted it records the start and goes on to the model. -/

namespace AgentCore.Server.Workers

open Foundation Domain Journal Gateway AgentCore.Runtime List Pool

variable {db : Db} {d : Delivery} {w : Worker} {t : Thread} {eventId : EventId} {u : Thread}

def triggers (db : Db) : List EventId := (runKeys db).map Prod.snd

def startsOf (eventId : EventId) (db : Db) : List JournalRow :=
  (startRecords db).filter fun r => decide (r.correlationId = some eventId)

def Thread.starting : Thread → Option EventId
  | worker (.delivering _ d) => startingOf d
  | _ => none

def Thread.Default : Thread → Prop
  | worker (.delivering _ d) => Workers.Default d
  | _ => True

/-! ## What one action of a thread does -/

inductive Effect (desk desk' : Desk) (t t' : Thread) : Prop
  | quiet (hkeys : runKeys desk'.db = runKeys desk.db)
      (hstarts : startRecords desk'.db = startRecords desk.db)
      (hentered : desk'.entered = desk.entered)
      (hstarting : t'.starting = none ∨ t'.starting = t.starting)
  | inserted (eventId : EventId) (hfresh : eventId ∉ triggers desk.db)
      (htriggers : triggers desk'.db = triggers desk.db ++ [eventId])
      (hstarts : startRecords desk'.db = startRecords desk.db)
      (hentered : desk'.entered = desk.entered) (hstarting : t'.starting = some eventId)
  | started (eventId : EventId) (r : JournalRow) (hr : r.correlationId = some eventId)
      (hkeys : runKeys desk'.db = runKeys desk.db)
      (hstarts : startRecords desk'.db = startRecords desk.db ++ [r])
      (hentered : desk'.entered = desk.entered ++ [eventId])
      (hbefore : t.starting = some eventId) (hafter : t'.starting = none)

lemma triggers_insertRun {run : Run} (h : insertRun run db = .ok db') :
    run.triggerEventId ∉ triggers db ∧ triggers db' = triggers db ++ [run.triggerEventId] ∧
      startRecords db' = startRecords db := by
  have hfresh : (db.runs.rows.any fun r => r.triggerEventId = run.triggerEventId) = false := by
    cases hany : db.runs.rows.any fun r => r.triggerEventId = run.triggerEventId with
    | false => rfl
    | true =>
      rw [insertRun, if_pos hany] at h
      cases h
  obtain ⟨-, runs, hinsert, rfl⟩ := insertRun_eq_ok h
  have hrows := (Table.insert_eq_some.mp hinsert).2
  refine ⟨?_, by simp [triggers, runKeys, hrows], rfl⟩
  simpa [triggers, runKeys] using hfresh

lemma loopOf_of_driven (h : driven d = none) : loopOf d = none := by
  cases d <;> first | rfl | cases h

lemma startingOf_of_driven (h : driven d = none) : startingOf d = none := by
  cases d <;> first | rfl | cases h

lemma inLoop_afterDelivery (eventId : EventId) (category : ErrorCategory) (d : Delivery) :
    (Worker.afterDelivery eventId category d).inLoop = loopOf d := by
  cases d with
  | ended ok => cases ok <;> rfl
  | _ => rfl

lemma starting_afterDelivery (eventId : EventId) (category : ErrorCategory) (d : Delivery) :
    (Thread.worker (Worker.afterDelivery eventId category d)).starting = startingOf d := by
  cases d with
  | ended ok => cases ok <;> rfl
  | _ => rfl

lemma default_afterDelivery (eventId : EventId) (category : ErrorCategory) (h : Default d) :
    (Thread.worker (Worker.afterDelivery eventId category d)).Default := by
  cases d with
  | ended ok => cases ok <;> trivial
  | _ => exact h

lemma enters_eq_nil (h : w'.inLoop = none ∨ w'.inLoop = w.inLoop) : enters w w' = [] := by
  unfold enters
  split
  · next heq hnone => rcases h with h | h <;> simp_all
  · rfl

lemma quiet_refuse (x : WorkerInput) (hw : ∀ eventId d, w ≠ .delivering eventId d) :
    (w.refuse x).inLoop = none ∧ (Thread.worker (w.refuse x)).starting = none ∧
      (Thread.worker (w.refuse x)).Default := by
  cases w with
  | delivering eventId d => exact absurd rfl (hw eventId d)
  | _ => exact ⟨rfl, rfl, trivial⟩

section Actions

variable [Platform]

lemma effect_delivery (h : Progress x db d d' db')
    (eventId : EventId) (category : ErrorCategory) (leased entered : List EventId)
    (leased' : List EventId) :
    Effect ⟨db, leased, entered⟩ ⟨db', leased', entered ++ enters (.delivering eventId d)
        (Worker.afterDelivery eventId category d')⟩
      (.worker (.delivering eventId d)) (.worker (Worker.afterDelivery eventId category d')) := by
  have hnone : loopOf d' = none ∨ loopOf d' = loopOf d →
      entered ++ enters (.delivering eventId d) (Worker.afterDelivery eventId category d') =
        entered := by
    intro hloop
    rw [enters_eq_nil, append_nil]
    rwa [inLoop_afterDelivery]
  have hstart : startingOf d' = none →
      (Thread.worker (Worker.afterDelivery eventId category d')).starting = none := by
    rw [starting_afterDelivery]
    exact id
  cases h with
  | outside hd hd' h =>
    exact .quiet h.keys h.starts (hnone (.inl (loopOf_of_driven hd')))
      (.inl (hstart (startingOf_of_driven hd')))
  | @inserted c _ htrigger h =>
    obtain ⟨hfresh, htriggers, hstarts⟩ := triggers_insertRun h
    rw [htrigger] at hfresh htriggers
    exact .inserted c.event.eventId hfresh htriggers hstarts (hnone (.inl rfl)) rfl
  | @started c payload _ h =>
    have hstarts := startRecords_append h
    rw [if_pos rfl] at hstarts
    obtain ⟨journal, rfl, -, -⟩ := Db.append_eq_ok h
    exact .started c.event.eventId _ rfl rfl hstarts rfl rfl rfl
  | dropped h | stuck h => exact .quiet rfl rfl (hnone (.inl rfl)) (.inl rfl)
  | worked hd hd' hstart' hstart'' hloop h =>
    exact .quiet h.keys h.starts (hnone hloop) (.inl (hstart hstart''))
  | @settled c _ _ status hd hd' hstart' hstatus =>
    have hbeside := Beside.setRunStatus c.run.id hstatus x.now db
    exact .quiet hbeside.keys hbeside.starts (hnone (.inl (loopOf_of_driven hd')))
      (.inl (hstart (startingOf_of_driven hd')))

lemma jobsOnly_worker (x : WorkerInput) (hw : ∀ eventId d, w ≠ .delivering eventId d) (db : Db) :
    JobsOnly db (w.next x db).2 ∧ (w.next x db).1.inLoop = none ∧
      (Thread.worker (w.next x db).1).starting = none ∧ (Thread.worker (w.next x db).1).Default := by
  cases w with
  | leasing config =>
    simp only [Worker.next, Worker.lease]
    split
    · next hlease => exact ⟨jobsOnly_lease hlease, rfl, rfl, trivial⟩
    · next hlease => exact ⟨jobsOnly_lease hlease, rfl, rfl, trivial⟩
    · next hlease => exact ⟨jobsOnly_lease hlease, rfl, rfl, trivial⟩
    · exact ⟨.refl db, rfl, rfl, trivial⟩
  | reading config eventId =>
    refine ⟨.refl db, ?_⟩
    simp only [Worker.next, Worker.read]
    split
    · exact ⟨rfl, rfl, trivial⟩
    · split
      · exact ⟨rfl, rfl, rfl⟩
      · exact ⟨rfl, rfl, trivial⟩
  | delivering eventId d => exact absurd rfl (hw eventId d)
  | continuing eventId =>
    refine ⟨.refl db, ?_⟩
    simp only [Worker.next]
    split
    · exact ⟨rfl, rfl, trivial⟩
    · exact ⟨rfl, rfl, trivial⟩
  | succeeding eventId | failing eventId category =>
    exact ⟨.commit fun _ h => jobsOnly_settle (by decide) h, rfl, rfl, trivial⟩
  | recording eventId category =>
    exact ⟨.commit fun _ h => (beside_append h (by decide)).jobsOnly, rfl, rfl, trivial⟩
  | ended => exact ⟨.refl db, rfl, rfl, trivial⟩

lemma effect_worker (x : WorkerInput) (hw : (Thread.worker w).Default) (desk : Desk) :
    Effect desk ((Thread.worker w).act (.work x) desk).2 (.worker w)
        ((Thread.worker w).act (.work x) desk).1 ∧
      ((Thread.worker w).act (.work x) desk).1.Default := by
  by_cases hdelivering : ∃ eventId d, w = .delivering eventId d
  · obtain ⟨eventId, d, rfl⟩ := hdelivering
    obtain ⟨hprogress, hdefault⟩ := progress_act hw x.delivery.2 desk.db
    exact ⟨effect_delivery hprogress eventId x.category desk.leased desk.entered _,
      default_afterDelivery eventId x.category hdefault⟩
  · have hw' : ∀ eventId d, w ≠ .delivering eventId d :=
      fun eventId d heq => hdelivering ⟨eventId, d, heq⟩
    have hout : ∀ {w' : Worker} {db' : Db} {leased : List EventId},
        JobsOnly desk.db db' → w'.inLoop = none → (Thread.worker w').starting = none →
        Effect desk ⟨db', leased, desk.entered ++ enters w w'⟩ (.worker w) (.worker w') := by
      intro w' db' leased hjobs hloop hstarting
      refine .quiet hjobs.keys hjobs.starts ?_ (.inl hstarting)
      simp only [enters_eq_nil (.inl hloop), append_nil]
    simp only [Thread.act, Worker.act]
    split
    · exact absurd rfl (hw' _ _)
    · obtain ⟨hloop, hstarting, hdefault⟩ := quiet_refuse x hw'
      exact ⟨hout (.refl _) hloop hstarting, hdefault⟩
    · obtain ⟨hjobs, hloop, hstarting, hdefault⟩ := jobsOnly_worker x hw' desk.db
      exact ⟨hout hjobs hloop hstarting, hdefault⟩

lemma thread_effect (x : ThreadInput) (ht : t.Default) (desk : Desk) :
    Effect desk (t.act x desk).2 t (t.act x desk).1 ∧ (t.act x desk).1.Default := by
  cases t with
  | worker w =>
    cases x with
    | work x => exact effect_worker x ht desk
    | dispatch x => exact ⟨.quiet rfl rfl rfl (.inr rfl), ht⟩
  | dispatcher d =>
    cases x with
    | work x => exact ⟨.quiet rfl rfl rfl (.inr rfl), ht⟩
    | dispatch x =>
      have hbeside := beside_dispatchOnce x d desk.db
      exact ⟨.quiet hbeside.keys hbeside.starts rfl (.inl rfl), trivial⟩

end Actions

/-! ## The invariant -/

structure Once (desk : Desk) : Prop where
  distinct : (triggers desk.db).Nodup
  starts : ∀ eventId, (startsOf eventId desk.db).length ≤ 1
  entries : ∀ eventId, desk.entered.count eventId ≤ 1
  present : ∀ eventId, startsOf eventId desk.db ≠ [] ∨ eventId ∈ desk.entered →
    eventId ∈ triggers desk.db

def Waits (t : Thread) (desk : Desk) : Prop :=
  ∀ eventId, t.starting = some eventId →
    eventId ∈ triggers desk.db ∧ startsOf eventId desk.db = [] ∧ eventId ∉ desk.entered

def Apart (t u : Thread) : Prop := ∀ eventId, ¬(t.starting = some eventId ∧ u.starting = some eventId)

lemma Apart.symm (h : Apart t u) : Apart u t :=
  fun eventId hboth => h eventId ⟨hboth.2, hboth.1⟩

lemma apart_of_none (h : t.starting = none) (u : Thread) : Apart t u := by
  rintro eventId ⟨ht, -⟩
  rw [h] at ht
  cases ht

lemma waits_of_none (h : t.starting = none) (desk : Desk) : Waits t desk := by
  intro eventId ht
  rw [h] at ht
  cases ht

lemma once_empty : Once {} where
  distinct := nodup_nil
  starts _ := Nat.zero_le 1
  entries _ := Nat.zero_le 1
  present _ h := by
    rcases h with h | h
    · exact absurd rfl h
    · cases h

section Effects

variable {desk desk' : Desk} {t' : Thread} {r : JournalRow}

lemma triggers_congr (h : runKeys db' = runKeys db) : triggers db' = triggers db := by
  rw [triggers, triggers, h]

lemma startsOf_congr (h : startRecords db' = startRecords db) (eventId : EventId) :
    startsOf eventId db' = startsOf eventId db := by
  rw [startsOf, startsOf, h]

lemma Once.congr (h : Once desk) (hkeys : runKeys desk'.db = runKeys desk.db)
    (hstarts : startRecords desk'.db = startRecords desk.db)
    (hentered : desk'.entered = desk.entered) : Once desk' := by
  have htriggers := triggers_congr hkeys
  have hof := startsOf_congr hstarts
  refine ⟨htriggers ▸ h.distinct, fun eventId => hof eventId ▸ h.starts eventId,
    fun eventId => hentered ▸ h.entries eventId, fun eventId hsome => ?_⟩
  rw [hof, hentered] at hsome
  exact htriggers ▸ h.present eventId hsome

lemma Waits.congr (h : Waits u desk) (hkeys : runKeys desk'.db = runKeys desk.db)
    (hstarts : startRecords desk'.db = startRecords desk.db)
    (hentered : desk'.entered = desk.entered) : Waits u desk' := by
  intro eventId hu
  obtain ⟨hmem, hnone, hnot⟩ := h eventId hu
  rw [triggers, hkeys, startsOf, hstarts, hentered]
  exact ⟨hmem, hnone, hnot⟩

lemma startsOf_snoc (hr : r.correlationId = some eventId)
    (h : startRecords desk'.db = startRecords desk.db ++ [r]) (other : EventId) :
    startsOf other desk'.db = startsOf other desk.db ++ if other = eventId then [r] else [] := by
  rw [startsOf, h, filter_append]
  refine congrArg (startsOf other desk.db ++ ·) ?_
  by_cases heq : other = eventId
  · simp [hr, heq]
  · have hne : ¬eventId = other := fun h => heq h.symm
    simp [hr, heq, hne]

lemma Once.inserted (h : Once desk) (hfresh : eventId ∉ triggers desk.db)
    (htriggers : triggers desk'.db = triggers desk.db ++ [eventId])
    (hstarts : startRecords desk'.db = startRecords desk.db)
    (hentered : desk'.entered = desk.entered) :
    Once desk' ∧ startsOf eventId desk'.db = [] ∧ eventId ∉ desk'.entered := by
  have hof := startsOf_congr hstarts
  refine ⟨⟨?_, fun e => hof e ▸ h.starts e, fun e => hentered ▸ h.entries e, fun e hsome => ?_⟩,
    ?_, ?_⟩
  · rw [htriggers]
    exact nodup_append.mpr ⟨h.distinct, nodup_singleton eventId, fun e he e' he' heq =>
      hfresh (mem_singleton.mp he' ▸ heq ▸ he)⟩
  · rw [hof, hentered] at hsome
    rw [htriggers]
    exact mem_append_left _ (h.present e hsome)
  · rw [hof]
    by_contra hsome
    exact hfresh (h.present eventId (.inl hsome))
  · rw [hentered]
    exact fun hmem => hfresh (h.present eventId (.inr hmem))

lemma Once.started (h : Once desk) (hr : r.correlationId = some eventId)
    (hkeys : runKeys desk'.db = runKeys desk.db)
    (hstarts : startRecords desk'.db = startRecords desk.db ++ [r])
    (hentered : desk'.entered = desk.entered ++ [eventId])
    (hwaits : eventId ∈ triggers desk.db ∧ startsOf eventId desk.db = [] ∧ eventId ∉ desk.entered) :
    Once desk' := by
  obtain ⟨hmem, hnone, hnot⟩ := hwaits
  have htriggers := triggers_congr hkeys
  have hof := startsOf_snoc hr hstarts
  refine ⟨htriggers ▸ h.distinct, fun e => ?_, fun e => ?_, fun e hsome => ?_⟩
  · rw [hof]
    by_cases heq : e = eventId
    · simp [heq, hnone]
    · simpa [heq] using h.starts e
  · rw [hentered, count_append]
    by_cases heq : e = eventId
    · simp [heq, count_eq_zero.mpr hnot]
    · simpa [heq, count_singleton, Ne.symm heq] using h.entries e
  · rw [htriggers]
    by_cases heq : e = eventId
    · exact heq ▸ hmem
    · rw [hof, if_neg heq, append_nil, hentered, mem_append, mem_singleton] at hsome
      exact h.present e (hsome.imp_right fun hmem => hmem.resolve_right heq)

lemma Effect.keeps (h : Effect desk desk' t t') (hG : Once desk) (ht : Waits t desk) :
    Once desk' ∧ Waits t' desk' ∧ ∀ u, Waits u desk → Apart t u → Waits u desk' ∧ Apart t' u := by
  cases h with
  | quiet hkeys hstarts hentered hstarting =>
    refine ⟨hG.congr hkeys hstarts hentered, ?_, fun u hu hapart => ⟨hu.congr hkeys hstarts hentered, ?_⟩⟩
    · rcases hstarting with hnone | hsame
      · exact waits_of_none hnone desk'
      · have ht' : Waits t' desk := fun e he => ht e (hsame ▸ he)
        exact ht'.congr hkeys hstarts hentered
    · rcases hstarting with hnone | hsame
      · exact apart_of_none hnone u
      · exact fun e hboth => hapart e ⟨hsame ▸ hboth.1, hboth.2⟩
  | inserted eventId hfresh htriggers hstarts hentered hstarting =>
    obtain ⟨hG', hnone, hnot⟩ := hG.inserted hfresh htriggers hstarts hentered
    refine ⟨hG', fun e he => ?_, fun u hu hapart => ⟨fun e he => ?_, fun e hboth => ?_⟩⟩
    · cases hstarting.symm.trans he
      rw [htriggers]
      exact ⟨mem_append_right _ (mem_singleton_self _), hnone, hnot⟩
    · obtain ⟨hmem, hstartsOf, hentries⟩ := hu e he
      rw [htriggers, startsOf, hstarts, hentered]
      exact ⟨mem_append_left _ hmem, hstartsOf, hentries⟩
    · -- the other thread's run is there already
      cases hstarting.symm.trans hboth.1
      exact hfresh (hu _ hboth.2).1
  | started eventId r hr hkeys hstarts hentered hbefore hafter =>
    refine ⟨hG.started hr hkeys hstarts hentered (ht eventId hbefore), waits_of_none hafter desk',
      fun u hu hapart => ⟨fun e he => ?_, apart_of_none hafter u⟩⟩
    obtain ⟨hmem, hstartsOf, hentries⟩ := hu e he
    have hne : e ≠ eventId := fun heq => hapart eventId ⟨hbefore, heq ▸ he⟩
    rw [triggers, hkeys, startsOf_snoc hr hstarts, if_neg hne, append_nil, hentered,
      mem_append, mem_singleton]
    exact ⟨hmem, hstartsOf, fun hor => hor.elim hentries hne⟩

end Effects

/-! ## Jobs -/

lemma leases_eq_nil (h : ∀ config, w ≠ .leasing config) : leases w w' = [] := by
  unfold leases
  split
  · exact absurd rfl (h _)
  · exact absurd rfl (h _)
  · rfl

section Leases

variable [Platform]

lemma Progress.jobs (h : Progress x db d d' db') : db'.workerJobs = db.workerJobs := by
  cases h with
  | outside hd hd' h | worked hd hd' hstart hstart' hloop h => exact h.jobs
  | inserted htrigger h =>
    obtain ⟨-, runs, -, rfl⟩ := insertRun_eq_ok h
    rfl
  | started h =>
    obtain ⟨journal, rfl, -, -⟩ := Db.append_eq_ok h
    rfl
  | dropped h => rfl
  | settled hd hd' hstart hstatus => rfl
  | stuck h => rfl

lemma keepsJobs_worker (x : WorkerInput) (hw : (Thread.worker w).Default) (db : Db) :
    KeepsJobs db (w.act x db).2 := by
  by_cases hdelivering : ∃ eventId d, w = .delivering eventId d
  · obtain ⟨eventId, d, rfl⟩ := hdelivering
    exact .of_jobs (progress_act hw x.delivery.2 db).1.jobs
  · have hw' : ∀ eventId d, w ≠ .delivering eventId d :=
      fun eventId d heq => hdelivering ⟨eventId, d, heq⟩
    unfold Worker.act
    split
    · exact absurd rfl (hw' _ _)
    · exact .of_jobs rfl
    · exact (jobsOnly_worker x hw' db).1.toKeepsJobs

lemma not_mem_leases (x : WorkerInput) (w : Worker) (hnamed : Named db)
    (h : jobStatus eventId db = some .succeeded) : eventId ∉ leases w (w.act x db).1 := by
  by_cases hleasing : ∃ config, w = .leasing config
  · obtain ⟨config, rfl⟩ := hleasing
    simp only [Worker.act]
    split
    · next heq => cases heq
    · exact not_mem_nil
    · simp only [Worker.next, Worker.lease]
      split
      · next leased _ hlease =>
        intro hmem
        obtain rfl := mem_singleton.mp hmem
        exact jobStatus_of_lease hlease hnamed h
      · next leased _ hlease =>
        intro hmem
        obtain rfl := mem_singleton.mp hmem
        exact jobStatus_of_lease hlease hnamed h
      · exact not_mem_nil
      · exact not_mem_nil
  · rw [leases_eq_nil fun config heq => hleasing ⟨config, heq⟩]
    exact not_mem_nil

lemma keepsJobs_act (x : ThreadInput) (ht : t.Default) (desk : Desk) :
    KeepsJobs desk.db (t.act x desk).2.db := by
  cases t with
  | worker w =>
    cases x with
    | work x => exact keepsJobs_worker x ht desk.db
    | dispatch x => exact .of_jobs rfl
  | dispatcher d =>
    cases x with
    | work x => exact .of_jobs rfl
    | dispatch x => exact .of_jobs (beside_dispatchOnce x d desk.db).jobs

lemma leased_act (x : ThreadInput) (t : Thread) (hnamed : Named desk.db)
    (h : jobStatus eventId desk.db = some .succeeded) :
    (t.act x desk).2.leased.count eventId = desk.leased.count eventId := by
  cases t with
  | worker w =>
    cases x with
    | work x =>
      simp only [Thread.act, count_append]
      rw [count_eq_zero.mpr (not_mem_leases x w hnamed h), Nat.add_zero]
    | dispatch x => rfl
  | dispatcher d => cases x <;> rfl

end Leases

/-! ## Every run -/

lemma runs_le_one (h : (triggers db).Nodup) (eventId : EventId) :
    (db.runs.rows.filter fun run => decide (run.triggerEventId = eventId)).length ≤ 1 := by
  have hmap : triggers db = db.runs.rows.map Run.triggerEventId := by
    simp [triggers, runKeys, Function.comp_def]
  have hcount := nodup_iff_count_le_one.mp h eventId
  rw [hmap, count_eq_countP, countP_map, countP_eq_length_filter] at hcount
  refine le_of_eq_of_le (congrArg length (filter_congr fun run _ => ?_)) hcount
  exact (beq_eq_decide run.triggerEventId eventId).symm

section Runs

variable [Platform]

abbrev Invariant (p : Office) : Prop :=
  p.Holds (fun desk => Named desk.db ∧ Once desk) (fun t desk => t.Default ∧ Waits t desk) Apart

lemma invariant_step (p : Office) (a : OfficeAct) (h : Invariant p) :
    Invariant (p.step workerMachine a) := by
  cases a with
  | spawn k =>
    refine h.spawn ?_ fun u _ => ?_
    · cases k <;> exact ⟨trivial, waits_of_none rfl _⟩
    · cases k <;> exact ⟨apart_of_none rfl u, (apart_of_none rfl u).symm⟩
  | advance i x =>
    cases ht : p.threads[i]? with
    | none => rwa [step_advance_none ht]
    | some t =>
      rw [step_advance ht]
      obtain ⟨hdefault, hwaits⟩ := h.each t (mem_of_getElem? ht)
      obtain ⟨heffect, hdefault'⟩ := thread_effect x hdefault p.shared
      obtain ⟨honce, hwaits', hothers⟩ := heffect.keeps h.shared.2 hwaits
      refine h.set ⟨(keepsJobs_act x hdefault p.shared).named h.shared.1, honce⟩
        ⟨hdefault', hwaits'⟩ fun j u hne hu => ?_
      obtain ⟨hudefault, huwaits⟩ := h.each u (mem_of_getElem? hu)
      obtain ⟨huwaits', hapart⟩ := hothers u huwaits (h.pairs i j t u hne.symm ht hu)
      exact ⟨⟨hudefault, huwaits'⟩, hapart, hapart.symm⟩
  | crash =>
    refine h.crash (fun t _ => ?_) fun t u _ => ?_
    · cases t <;> exact ⟨trivial, waits_of_none rfl _⟩
    · cases t <;> exact apart_of_none rfl _
  | other o =>
    have hjobs := jobsOnly_apply o p.shared.db
    refine h.other ⟨hjobs.named h.shared.1, h.shared.2.congr hjobs.keys hjobs.starts rfl⟩
      fun t ht => ?_
    obtain ⟨hdefault, hwaits⟩ := h.each t ht
    exact ⟨hdefault, hwaits.congr hjobs.keys hjobs.starts rfl⟩

lemma invariant_run (as : List OfficeAct) : Invariant (run (step workerMachine) ⟨{}, []⟩ as) :=
  run_invariant invariant_step as
    (holds_init ⟨fun _ hjob => absurd hjob not_mem_nil, once_empty⟩)

lemma succeeded_step (hp : Invariant p) (a : OfficeAct)
    (h : jobStatus eventId p.shared.db = some .succeeded) :
    jobStatus eventId (p.step workerMachine a).shared.db = some .succeeded ∧
      (p.step workerMachine a).shared.leased.count eventId = p.shared.leased.count eventId := by
  cases a with
  | spawn k | crash => exact ⟨h, rfl⟩
  | advance i x =>
    cases ht : p.threads[i]? with
    | none =>
      rw [step_advance_none ht]
      exact ⟨h, rfl⟩
    | some t =>
      rw [step_advance ht]
      have hdefault := (hp.each t (mem_of_getElem? ht)).1
      exact ⟨(keepsJobs_act x hdefault p.shared).succeeded eventId h, leased_act x t hp.shared.1 h⟩
  | other o => exact ⟨(jobsOnly_apply o p.shared.db).succeeded eventId h, rfl⟩

theorem ingress_delivered_once (as : List OfficeAct) (eventId : EventId) :
    let p := run (step workerMachine) ⟨{}, []⟩ as
    (p.shared.db.runs.rows.filter fun run => decide (run.triggerEventId = eventId)).length ≤ 1 ∧
      (startsOf eventId p.shared.db).length ≤ 1 ∧
      p.shared.entered.count eventId ≤ 1 ∧
      (jobStatus eventId p.shared.db = some .succeeded → ∀ bs : List OfficeAct,
        (run (step workerMachine) p bs).shared.leased.count eventId =
          p.shared.leased.count eventId) := by
  intro p
  have hp : Invariant p := invariant_run as
  refine ⟨runs_le_one hp.shared.2.distinct eventId, hp.shared.2.starts eventId,
    hp.shared.2.entries eventId, fun h bs => ?_⟩
  have hkeep : Invariant (run (step workerMachine) p bs) ∧
      jobStatus eventId (run (step workerMachine) p bs).shared.db = some .succeeded ∧
      (run (step workerMachine) p bs).shared.leased.count eventId =
        p.shared.leased.count eventId := by
    refine run_invariant (I := fun q : Office => Invariant q ∧
      jobStatus eventId q.shared.db = some .succeeded ∧
      q.shared.leased.count eventId = p.shared.leased.count eventId) ?_ bs ⟨hp, h, rfl⟩
    rintro q a ⟨hq, hsucceeded, hcount⟩
    obtain ⟨hsucceeded', hcount'⟩ := succeeded_step hq a hsucceeded
    exact ⟨invariant_step q a hq, hsucceeded', hcount'.trans hcount⟩
  exact hkeep.2.2

end Runs

/-! ## Two leases of one message -/

def sampleIngress : Json :=
  .mkObj [("source", .str "cli"), ("event_id", .str "event"), ("text", .str "hi")]

def acceptSample : OfficeAct :=
  .other (.accept (sampleMessage "hi") sampleIngress 0 fun k => ⟨"a" ++ toString k, 0⟩)

def workOn (i first count : Nat) : List OfficeAct :=
  (range count).map fun k =>
    .advance i (.work ⟨⟨sampleInput (first + k), trivial⟩, .runtimeFailed, true⟩)

/-- A worker is in the model loop when its lock runs out; a second one delivers the message
again and fails at the run that is there, and the first one ends its delivery. -/
def expiredLock : List OfficeAct :=
  [acceptSample, .spawn (.work {}), .spawn (.work {})] ++ workOn 0 1 8 ++
    workOn 1 (minutes 5 + 1) 9 ++ workOn 0 9 7

lemma succeeded_expiredLock :
    letI := zeroPlatform
    jobStatus "event" (run (step workerMachine) ⟨{}, []⟩ expiredLock).shared.db =
        some .succeeded ∧
      (run (step workerMachine) ⟨{}, []⟩ expiredLock).shared.leased = ["event", "event"] ∧
      (run (step workerMachine) ⟨{}, []⟩ expiredLock).shared.entered = ["event"] := by
  decide +kernel

theorem ingress_delivered_once_expiredLock :
    letI := zeroPlatform
    jobStatus "event" (run (step workerMachine) ⟨{}, []⟩ expiredLock).shared.db =
        some .succeeded ∧
      ∀ bs : List OfficeAct,
        (run (step workerMachine) (run (step workerMachine) ⟨{}, []⟩ expiredLock) bs).shared.leased.count
          "event" = 2 := by
  obtain ⟨hsucceeded, hleased, -⟩ := succeeded_expiredLock
  obtain ⟨-, -, -, honce⟩ := @ingress_delivered_once zeroPlatform expiredLock "event"
  refine ⟨hsucceeded, fun bs => ?_⟩
  rw [honce hsucceeded bs, hleased]
  rfl

end AgentCore.Server.Workers
