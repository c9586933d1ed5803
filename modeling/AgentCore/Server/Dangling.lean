import AgentCore.Server.OneDelivery

/-! When a run is left running. A delivery inserts its run as running and is the only one that
gives it another status before the reply is queued; a second delivery of the same job ends at
the run's unique trigger event, so what the first one leaves is never taken up. -/

namespace AgentCore.Server.Workers

open Foundation Domain Journal Gateway AgentCore.Runtime List Option Pool

/-! ## The property -/

def Thread.delivering : Thread → Bool
  | worker (.delivering _ _) => true
  | _ => false

def Thread.drives : Thread → Option RunId
  | worker (.delivering _ d) => (driven d).map fun c => c.run.id
  | _ => none

def terminalJob (status : WorkerJobStatus) : Bool :=
  decide (status = .succeeded ∨ status = .failed ∨ status = .dead)

/-- Nothing is left to do for any message. -/
def AtRest (p : Office) : Prop :=
  (∀ t ∈ p.threads, t.delivering = false) ∧
    (∀ job ∈ p.shared.db.workerJobs.rows, terminalJob job.status = true) ∧
    ∀ row ∈ p.shared.db.outbox.rows, row.status ≠ .pending ∧ row.status ≠ .dispatching

instance (p : Office) : Decidable (AtRest p) := inferInstanceAs (Decidable (_ ∧ _ ∧ _))

def NoneRunning (db : Db) : Prop := ∀ run ∈ db.runs.rows, run.status ≠ .running

instance (db : Db) : Decidable (NoneRunning db) :=
  inferInstanceAs (Decidable (∀ run ∈ db.runs.rows, run.status ≠ .running))

/-! ## The condition -/

/-- The store takes the start of the run just inserted, and the failure of a run. -/
def Unhindered (db : Db) : ThreadInput → Thread → Prop
  | .work x, .worker (.delivering _ (.starting _)) =>
    x.delivery.1.refusal = none ∧
      x.delivery.1.stamp.eventId ∉ db.journal.rows.map JournalRow.eventId
  | .work x, .worker (.delivering _ (.failing _ _ _)) => x.delivery.1.refusal = none
  | _, _ => True

instance (db : Db) (x : ThreadInput) (t : Thread) : Decidable (Unhindered db x t) := by
  unfold Unhindered
  split <;> infer_instance

/-- No crash finds a delivery with its run still running, and the store takes what it must. -/
def Careful (p : Office) : OfficeAct → Prop
  | .crash => ∀ t ∈ p.threads, ∀ runId ∈ t.drives, runStatus runId p.shared.db ≠ some .running
  | .advance i x => ∀ t ∈ p.threads[i]?, Unhindered p.shared.db x t
  | _ => True

instance (p : Office) : DecidablePred (Careful p)
  | .crash => inferInstanceAs (Decidable (∀ t ∈ p.threads, ∀ runId ∈ t.drives, _))
  | .advance i x => inferInstanceAs (Decidable (∀ t ∈ p.threads[i]?, Unhindered p.shared.db x t))
  | .spawn _ => isTrue trivial
  | .other _ => isTrue trivial

/-! ## Every running run has its delivery -/

lemma drives_afterDelivery (eventId : EventId) (category : ErrorCategory) (d : Delivery) :
    (Thread.worker (Worker.afterDelivery eventId category d)).drives =
      (driven d).map fun c => c.run.id := by
  cases d with
  | ended ok => cases ok <;> rfl
  | _ => rfl

section Steps

variable [Platform] {runId : RunId}

lemma running_of_progress (h : Progress x db d d' db') (hstarting : ∀ c, d = .starting c →
      x.refusal = none ∧ x.stamp.eventId ∉ db.journal.rows.map JournalRow.eventId)
    (hfailing : ∀ c category reason, d = .failing c category reason → x.refusal = none)
    (hrun : runStatus runId db' = some .running) :
    (driven d').map (fun c => c.run.id) = some runId ∨
      runStatus runId db = some .running ∧ (driven d).map (fun c => c.run.id) ≠ some runId := by
  cases h with
  | outside hd hd' h =>
    rw [hd]
    exact .inr ⟨h.status hrun, nofun⟩
  | @inserted c _ htrigger h =>
    rw [runStatus_insertRun h] at hrun
    split at hrun
    · next heq => exact .inl (congrArg some heq)
    · exact .inr ⟨hrun, nofun⟩
  | @started c payload _ h =>
    rw [runStatus_of_runs (runs_append h)] at hrun
    by_cases heq : c.run.id = runId
    · exact .inl (congrArg some heq)
    · exact .inr ⟨hrun, fun hsome => heq (some.inj hsome)⟩
  | @dropped c h =>
    obtain ⟨hrefusal, hfresh⟩ := hstarting c rfl
    rcases h with h | h
    · exact absurd hrefusal h
    · exact absurd h hfresh
  | @worked c _ _ _ hd hd' hstart hstart' hloop h =>
    rw [hd, hd']
    by_cases heq : c.run.id = runId
    · exact .inl (congrArg some heq)
    · exact .inr ⟨h.status hrun, fun hsome => heq (some.inj hsome)⟩
  | @settled c _ _ status hd hd' hstart hstatus =>
    rw [runStatus_setRunStatus] at hrun
    split at hrun
    · obtain ⟨old, -, heq⟩ := map_eq_some_iff.mp hrun
      exact absurd heq hstatus
    · next hne =>
      rw [hd]
      exact .inr ⟨hrun, fun hsome => hne (some.inj hsome).symm⟩
  | @stuck c category reason h => exact absurd (hfailing c category reason rfl) h

lemma running_of_act (x : ThreadInput) (ht : t.Default) (hx : Unhindered desk.db x t)
    (hrun : runStatus runId (t.act x desk).2.db = some .running) :
    (t.act x desk).1.drives = some runId ∨
      runStatus runId desk.db = some .running ∧ t.drives ≠ some runId := by
  cases t with
  | dispatcher d =>
    cases x with
    | work x => exact .inr ⟨hrun, nofun⟩
    | dispatch x => exact .inr ⟨(beside_dispatchOnce x d desk.db).status hrun, nofun⟩
  | worker w =>
    cases x with
    | dispatch x =>
      by_cases hdrives : (Thread.worker w).drives = some runId
      · exact .inl hdrives
      · exact .inr ⟨hrun, hdrives⟩
    | work x =>
      by_cases hdelivering : ∃ eventId d, w = .delivering eventId d
      · obtain ⟨eventId, d, rfl⟩ := hdelivering
        have hprogress := (progress_act ht x.delivery.2 desk.db).1
        have hresult := running_of_progress hprogress (fun c heq => by subst heq; exact hx)
          (fun c category reason heq => by subst heq; exact hx) hrun
        rwa [← drives_afterDelivery eventId x.category] at hresult
      · have hw : ∀ eventId d, w ≠ .delivering eventId d :=
          fun eventId d heq => hdelivering ⟨eventId, d, heq⟩
        have hnone : (Thread.worker w).drives = none := by
          cases w with
          | delivering eventId d => exact absurd rfl (hw eventId d)
          | _ => rfl
        refine .inr ⟨?_, fun hsome => by rw [hnone] at hsome; cases hsome⟩
        simp only [Thread.act, Worker.act] at hrun
        split at hrun
        · exact absurd rfl (hw _ _)
        · exact hrun
        · exact (jobsOnly_worker x hw desk.db).1.status hrun

end Steps

/-- Every running run has a thread that will give it another status. -/
def Attended (p : Office) : Prop :=
  ∀ runId, runStatus runId p.shared.db = some .running → ∃ t ∈ p.threads, t.drives = some runId

lemma mem_set_of_ne {threads : List Thread}
    (ht : threads[i]? = some t) (hu : u ∈ threads) (hne : u ≠ t) : u ∈ threads.set i t' := by
  obtain ⟨j, hj⟩ := mem_iff_getElem?.mp hu
  have hij : i ≠ j := by
    rintro rfl
    exact hne (some.inj (hj.symm.trans ht))
  exact mem_iff_getElem?.mpr ⟨j, by rw [getElem?_set_ne hij, hj]⟩

section Runs

variable [Platform]

lemma attended_step {p : Office} (hp : Invariant p) (h : Attended p)
    (ha : Careful p a) : Attended (p.step workerMachine a) := by
  intro runId hrun
  cases a with
  | spawn k =>
    obtain ⟨t, ht, hdrives⟩ := h runId hrun
    exact ⟨t, mem_append_left _ ht, hdrives⟩
  | advance i x =>
    cases ht : p.threads[i]? with
    | none =>
      rw [step_advance_none ht] at hrun ⊢
      exact h runId hrun
    | some t =>
      rw [step_advance ht] at hrun ⊢
      have hmem := mem_of_getElem? ht
      rcases running_of_act x (hp.each t hmem).1 (ha t ht) hrun with hmine | ⟨hbefore, hnot⟩
      · have hi := (List.getElem?_eq_some_iff.mp ht).1
        exact ⟨_, mem_set hi _, hmine⟩
      · obtain ⟨u, hu, hdrives⟩ := h runId hbefore
        exact ⟨u, mem_set_of_ne ht hu fun heq => hnot (heq ▸ hdrives), hdrives⟩
  | crash =>
    obtain ⟨t, ht, hdrives⟩ := h runId hrun
    exact absurd hrun (ha t ht runId hdrives)
  | other o => exact h runId ((jobsOnly_apply o p.shared.db).status hrun)

theorem no_dangling_run_of_careful {as : List OfficeAct}
    (h : Along (step workerMachine) Careful ⟨{}, []⟩ as)
    (hrest : AtRest (run (step workerMachine) ⟨{}, []⟩ as)) :
    NoneRunning (run (step workerMachine) ⟨{}, []⟩ as).shared.db := by
  have hattended : Invariant (run (step workerMachine) ⟨{}, []⟩ as) ∧
      Attended (run (step workerMachine) ⟨{}, []⟩ as) := by
    refine h.invariant (I := fun p : Office => Invariant p ∧ Attended p) ?_
      ⟨invariant_run [], fun runId hrun => by cases hrun⟩
    exact fun p a hp ha => ⟨invariant_step p a hp.1, attended_step hp.1 hp.2 ha⟩
  intro run hmem hrunning
  obtain ⟨t, ht, hdrives⟩ := hattended.2 run.id ((runStatus_of_mem hmem).trans (congrArg some hrunning))
  have hidle := hrest.1 t ht
  cases t with
  | worker w =>
    cases w with
    | delivering eventId d => cases hidle
    | _ => cases hdrives
  | dispatcher d => cases hdrives

end Runs

/-! ## A crash inside a delivery -/

/-- The process dies between the insertion of the run and the record of its start. After the
restart the job's lock runs out, and its second delivery fails at the run that is there. -/
def crashedRun : List OfficeAct :=
  [acceptSample, .spawn (.work {})] ++ workOn 0 1 7 ++ [.crash, .spawn (.work {})] ++
    workOn 1 (minutes 5 + 1) 10

theorem dangling_crashedRun :
    letI := zeroPlatform
    AtRest (run (step workerMachine) ⟨{}, []⟩ crashedRun) ∧
      ¬NoneRunning (run (step workerMachine) ⟨{}, []⟩ crashedRun).shared.db := by
  decide +kernel

def dispatchedRun : List OfficeAct :=
  [acceptSample, .spawn (.work {}), .spawn .dispatch] ++ workOn 0 1 15 ++
    ([20, 21, 22].map fun n => .advance 1 (.dispatch {
      now := n
      stamps := fun k => ⟨"o" ++ toString n ++ "." ++ toString k, n⟩
      outcome := .ok ⟨"reply:run", .succeeded, none, .null, n⟩
      refused := false })) ++ [.crash]

lemma careful_dispatchedRun :
    letI := zeroPlatform
    Along (step workerMachine) Careful ⟨{}, []⟩ dispatchedRun ∧
      AtRest (run (step workerMachine) ⟨{}, []⟩ dispatchedRun) ∧
      (run (step workerMachine) ⟨{}, []⟩ dispatchedRun).shared.db.runs.rows ≠ [] := by
  decide +kernel

theorem no_dangling_run_dispatchedRun :
    letI := zeroPlatform
    Along (step workerMachine) Careful ⟨{}, []⟩ dispatchedRun ∧
      NoneRunning (run (step workerMachine) ⟨{}, []⟩ dispatchedRun).shared.db := by
  obtain ⟨hcareful, hrest, -⟩ := careful_dispatchedRun
  exact ⟨hcareful, @no_dangling_run_of_careful zeroPlatform _ hcareful hrest⟩

end AgentCore.Server.Workers
