import AgentCore.Foundation.Lease
import AgentCore.Runtime.Dispatcher

/-! The outbox system moves every invocation along the moves of leased work, so the adapter
is called at most once for it. -/

namespace AgentCore.Runtime

open Foundation Domain Journal Lease

variable {i : Nat} {db : Db} {d : LeasedOutboxDispatch} {id : InvocationId}

def Held (w : World) (id : InvocationId) : Prop :=
  ∃ i d, w.dispatchers i = .leased d ∧ d.invocationId = id

open Classical in
noncomputable def cell (w : World) (id : InvocationId) : Cell where
  stage :=
    if w.db.outboxStatus id = none then .absent
    else if w.db.outboxStatus id = some .pending then .ready
    else if Held w id then .held
    else .spent
  calls := w.calls.count id

section Cell

variable {w : World}

lemma cell_absent (h : w.db.outboxStatus id = none) : cell w id = ⟨.absent, w.calls.count id⟩ := by
  simp [cell, h]

lemma cell_ready (h : w.db.outboxStatus id = some .pending) :
    cell w id = ⟨.ready, w.calls.count id⟩ := by simp [cell, h]

lemma cell_held (hg : Gone w.db id) (h : Held w id) : cell w id = ⟨.held, w.calls.count id⟩ := by
  obtain ⟨st, hst, hne⟩ := hg
  simp [cell, hst, hne, h]

lemma cell_spent (hg : Gone w.db id) (h : ¬Held w id) : cell w id = ⟨.spent, w.calls.count id⟩ := by
  obtain ⟨st, hst, hne⟩ := hg
  simp [cell, hst, hne, h]

lemma cell_past_iff : (cell w id).Past ↔ Gone w.db id := by
  constructor
  · intro h
    cases hst : w.db.outboxStatus id with
    | none => simp [cell, Cell.Past, hst] at h
    | some st =>
      refine ⟨st, hst, fun hp => ?_⟩
      subst hp
      simp [cell, Cell.Past, hst] at h
  · intro h
    by_cases hheld : Held w id
    · exact .inl (by rw [cell_held h hheld])
    · exact .inr (by rw [cell_spent h hheld])

lemma move_of_same (hst : w'.db.outboxStatus id = w.db.outboxStatus id)
    (hheld : Held w' id ↔ Held w id) (hcalls : w'.calls = w.calls) :
    Move (cell w id) (cell w' id) := by
  have heq : cell w' id = cell w id := by
    by_cases h : Held w id
    · simp [cell, hst, hcalls, h, hheld.mpr h]
    · simp [cell, hst, hcalls, h, mt hheld.mp h]
  rw [heq]
  exact .stay _

lemma move_of_gone (hg : Gone w.db id) (hg' : Gone w'.db id) (hheld : Held w' id ↔ Held w id)
    (hcalls : w'.calls = w.calls) : Move (cell w id) (cell w' id) := by
  by_cases h : Held w id
  · rw [cell_held hg h, cell_held hg' (hheld.mpr h), hcalls]
    exact .stay _
  · rw [cell_spent hg h, cell_spent hg' (fun h' => h (hheld.mp h')), hcalls]
    exact .stay _

lemma held_setDispatcher : Held (w.setDispatcher i s) id ↔
      (∃ d, s = .leased d ∧ d.invocationId = id) ∨
        ∃ j d, j ≠ i ∧ w.dispatchers j = .leased d ∧ d.invocationId = id := by
  constructor
  · rintro ⟨j, d, hj, hid⟩
    by_cases hji : j = i
    · subst hji
      exact .inl ⟨d, by simpa [World.setDispatcher] using hj, hid⟩
    · exact .inr ⟨j, d, hji, by simpa [World.setDispatcher, hji] using hj, hid⟩
  · rintro (⟨d, rfl, hid⟩ | ⟨j, d, hji, hj, hid⟩)
    · exact ⟨i, d, by simp [World.setDispatcher], hid⟩
    · exact ⟨j, d, by simpa [World.setDispatcher, hji] using hj, hid⟩

lemma held_setDispatcher_other
    (h : ∀ d, s = .leased d ∨ w.dispatchers i = .leased d → d.invocationId ≠ id) :
    Held (w.setDispatcher i s) id ↔ Held w id := by
  rw [held_setDispatcher]
  constructor
  · rintro (⟨d, hd, hid⟩ | ⟨j, d, -, hj⟩)
    · exact absurd hid (h d (.inl hd))
    · exact ⟨j, d, hj⟩
  · rintro ⟨j, d, hj, hid⟩
    exact .inr ⟨j, d, fun hji => h d (.inr (hji ▸ hj)) hid, hj, hid⟩

end Cell

/-- Holders are distinct and hold rows past `pending`; they exist only while the kernel
serves; nothing waits for a retry. -/
structure Inv (w : World) : Prop where
  holder_unique : ∀ i j d e, w.dispatchers i = .leased d → w.dispatchers j = .leased e →
    d.invocationId = e.invocationId → i = j
  holder_gone : ∀ id, Held w id → Gone w.db id
  idle : w.phase ≠ .serving → ∀ i, w.dispatchers i = .idle
  noRetry : ∀ id, w.db.outboxStatus id ≠ some .retryableFailed

lemma inv_init : Inv World.init where
  holder_unique := by
    intro i j d e h
    cases h
  holder_gone := by
    rintro id ⟨i, d, h, -⟩
    cases h
  idle _ _ := rfl
  noRetry id := by simp [World.init, Db.outboxStatus]

namespace Inv

variable {w : World}

lemma not_held (h : Inv w) (hp : w.phase ≠ .serving) (id : InvocationId) : ¬Held w id := by
  rintro ⟨i, d, hi, -⟩
  rw [h.idle hp i] at hi
  cases hi

lemma of_db (h : Inv w) (hgone : ∀ id, Gone w.db id → Gone db id)
    (hretry : ∀ id, db.outboxStatus id ≠ some .retryableFailed)
    (hphase : phase ≠ .serving → ∀ i, w.dispatchers i = .idle) :
    Inv { w with db, phase } where
  holder_unique := h.holder_unique
  holder_gone id hid := hgone id (h.holder_gone id hid)
  idle := hphase
  noRetry := hretry

lemma release (h : Inv w) (i : Nat) (hs : ∀ d, s ≠ .leased d)
    (hidle : w.phase ≠ .serving → s = .idle) : Inv (w.setDispatcher i s) where
  holder_unique := by
    intro j k d e hj hk hid
    have hji : j ≠ i := by
      rintro rfl
      exact hs d (by simpa [World.setDispatcher] using hj)
    have hki : k ≠ i := by
      rintro rfl
      exact hs e (by simpa [World.setDispatcher] using hk)
    exact h.holder_unique j k d e (by simpa [World.setDispatcher, hji] using hj)
      (by simpa [World.setDispatcher, hki] using hk) hid
  holder_gone := by
    intro id hid
    rcases held_setDispatcher.mp hid with ⟨d, hd, -⟩ | ⟨j, d, -, hj⟩
    · exact absurd hd (hs d)
    · exact h.holder_gone id ⟨j, d, hj⟩
  idle hp j := by
    by_cases hji : j = i
    · simp [World.setDispatcher, hji, hidle hp]
    · simpa [World.setDispatcher, hji] using h.idle hp j
  noRetry := h.noRetry

lemma acquire (h : Inv w) (hp : w.phase = .serving)
    (hst : w.db.outboxStatus d.invocationId = some .pending ∨ w.db.outboxStatus d.invocationId = some .retryableFailed)
    (hmoves : Moves w.db db d.invocationId .dispatching [r]) :
    Inv ({ w with db }.setDispatcher i (.leased d)) := by
  have hpending : w.db.outboxStatus d.invocationId = some .pending :=
    hst.resolve_right (h.noRetry d.invocationId)
  have hfree : ¬Held w d.invocationId := by
    intro hheld
    obtain ⟨st, hst', hne⟩ := h.holder_gone _ hheld
    exact hne (Option.some.inj (hst'.symm.trans hpending))
  refine ⟨?_, ?_, ?_, hmoves.noRetry (by decide) h.noRetry⟩
  · intro j k e f hj hk hid
    by_cases hji : j = i <;> by_cases hki : k = i
    · rw [hji, hki]
    · -- the other holder would hold the row that was waiting
      subst hji
      simp only [World.setDispatcher, Function.update_self, Dispatcher.leased.injEq] at hj
      subst hj
      exact absurd ⟨k, f, by simpa [World.setDispatcher, hki] using hk, hid.symm⟩ hfree
    · subst hki
      simp only [World.setDispatcher, Function.update_self, Dispatcher.leased.injEq] at hk
      subst hk
      exact absurd ⟨j, e, by simpa [World.setDispatcher, hji] using hj, hid⟩ hfree
    · exact h.holder_unique j k e f (by simpa [World.setDispatcher, hji] using hj)
        (by simpa [World.setDispatcher, hki] using hk) hid
  · intro id hid
    rcases held_setDispatcher.mp hid with ⟨e, he, rfl⟩ | ⟨j, e, -, hj⟩
    · obtain rfl : d = e := by simpa using he
      exact ⟨.dispatching, hmoves.status_self, by decide⟩
    · exact hmoves.gone (by decide) (h.holder_gone id ⟨j, e, hj⟩)
  · intro hne
    exact absurd hp hne

lemma move_of_release (h : Inv w) (hdb : w'.db = w.db)
    (hcalls : w'.calls = w.calls) (hheld : Held w' id → Held w id) :
    Move (cell w id) (cell w' id) := by
  by_cases hw : Held w id
  · by_cases hw' : Held w' id
    · exact move_of_same (by rw [hdb]) (iff_of_true hw' hw) hcalls
    · have hg := h.holder_gone id hw
      rw [cell_held hg hw, cell_spent (hdb ▸ hg) hw', hcalls]
      exact .drop _
  · exact move_of_same (by rw [hdb]) (iff_of_false (mt hheld hw) hw) hcalls

lemma move_of_call (h : Inv w) (hd : w.dispatchers i = .leased d) :
    Move (cell w id) (cell ({ w with calls := w.calls ++ [d.invocationId] }.setDispatcher i
      (.executed d outcome)) id) := by
  by_cases hid : id = d.invocationId
  · subst hid
    have hheld : Held w d.invocationId := ⟨i, d, hd, rfl⟩
    have hg := h.holder_gone _ hheld
    rw [cell_held hg hheld, cell_spent (w := World.setDispatcher { w with calls := _ } i _) hg]
    · simp only [World.setDispatcher, List.count_append, List.count_singleton_self]
      exact .use _
    · rw [held_setDispatcher]
      rintro (⟨e, he, -⟩ | ⟨j, e, hji, hj, hide⟩)
      · cases he
      · exact hji (h.holder_unique j i e d hj hd hide)
  · have hcell : cell ({ w with calls := w.calls ++ [d.invocationId] }.setDispatcher i
        (.executed d outcome)) id = cell (w.setDispatcher i (.executed d outcome)) id := by
      have hcount : (w.calls ++ [d.invocationId]).count id = w.calls.count id := by
        simp [List.count_append, Ne.symm hid]
      simp only [cell, World.setDispatcher, hcount]
      rfl
    rw [hcell]
    refine move_of_same rfl (held_setDispatcher_other ?_) rfl
    rintro e (he | he)
    · cases he
    · cases hd.symm.trans he
      exact Ne.symm hid

end Inv

lemma repairStale_gone (stale : InvocationId × TerminalFact) (now : Timestamp) (hg : Gone db id) :
    Gone (repairStale stale now db) id := by
  obtain ⟨st, hst, hne⟩ := hg
  have hstatus := repairStale_spec stale now db id
  split_ifs at hstatus
  · exact ⟨_, hstatus, by cases stale.2 <;> decide⟩
  · exact ⟨st, hstatus.trans hst, hne⟩

section Steps

variable [Platform] {w : World}

lemma recoverInvocation_gone
    (h : recoverInvocation invocation now stamp db = .ok db') (hg : Gone db id) : Gone db' id := by
  obtain ⟨st, hst, hne⟩ := hg
  have hstatus := (recoverInvocation_spec h).1 id
  rw [hst] at hstatus
  split_ifs at hstatus
  · exact ⟨.unknown, hstatus, by decide⟩
  · exact ⟨st, hstatus, hne⟩

lemma writeOutcome_gone
    (h : writeOutcome d outcome now stamps db = .ok db') : Gone db' id ↔ Gone db id := by
  obtain ⟨x, st, r, hdisp, hmoves, hcase⟩ := writeOutcome_spec h
  have hst : st ≠ .pending := by rcases hcase with ⟨rfl, -⟩ | ⟨rfl, -⟩ | ⟨rfl, -⟩ <;> decide
  by_cases hid : id = x
  · subst hid
    exact iff_of_true ⟨st, hmoves.status_self, hst⟩ ⟨.dispatching, hdisp, by decide⟩
  · rw [Gone, Gone, hmoves.status_other id hid]

lemma writeOutcome_status (h : writeOutcome d outcome now stamps db = .ok db') (hg : ¬Gone db id) :
    db'.outboxStatus id = db.outboxStatus id := by
  obtain ⟨x, st, r, hdisp, hmoves, -⟩ := writeOutcome_spec h
  refine hmoves.status_other id ?_
  rintro rfl
  exact hg ⟨.dispatching, hdisp, by decide⟩

lemma Inv.step (h : Inv w) (l : Label) : Inv (w.step l) := by
  have heffect := effect_step w l
  generalize w.step l = w' at heffect ⊢
  cases heffect with
  | stays => exact h
  | queued hnone hmoves =>
    refine h.of_db (fun id hg => ?_) (hmoves.noRetry (by decide) h.noRetry) h.idle
    rw [Gone, hmoves.status_other id]
    · exact hg
    · rintro rfl
      obtain ⟨st, hst, -⟩ := hg
      cases hnone.symm.trans hst
  | leased hp _ hst _ hmoves => exact h.acquire hp hst hmoves
  | @executed i outcome d hd =>
    have hcalls : Inv { w with calls := w.calls ++ [d.invocationId] } :=
      ⟨h.holder_unique, h.holder_gone, h.idle, h.noRetry⟩
    refine hcalls.release i (fun _ => by simp) fun hp => ?_
    cases hd.symm.trans (h.idle hp i)
  | @finished i _ _ _ _ db _ hdb =>
    have hinv : Inv { w with db := db } := by
      rcases hdb with rfl | hwrite
      · exact h
      · refine h.of_db (fun id => (writeOutcome_gone hwrite).mpr) ?_ h.idle
        obtain ⟨x, st, r, -, hmoves, hcase⟩ := writeOutcome_spec hwrite
        refine hmoves.noRetry ?_ h.noRetry
        rcases hcase with ⟨rfl, -⟩ | ⟨rfl, -⟩ | ⟨rfl, -⟩ <;> decide
    exact hinv.release i (fun _ => by simp) (fun _ => rfl)
  | @abandoned i => exact h.release i (fun _ => by simp) (fun _ => rfl)
  | crashed =>
    refine ⟨fun i j d e hd _ _ => (by cases hd), ?_, fun _ _ => rfl, h.noRetry⟩
    rintro id ⟨i, d, hd, -⟩
    cases hd
  | restarted hp | aborted hp | scanned hp | returned hp =>
    exact h.of_db (fun _ => id) h.noRetry (fun _ => h.idle (by simp [hp]))
  | recovered hp hdb =>
    refine h.of_db (fun id => recoverInvocation_gone hdb) (fun id => ?_)
      (fun _ => h.idle (by simp [hp]))
    rw [(recoverInvocation_spec hdb).1 id]
    split_ifs
    · simp
    · exact h.noRetry id
  | @repaired now stale _ hp =>
    refine h.of_db (fun id => repairStale_gone stale now) (fun id => ?_)
      (fun _ => h.idle (by simp [hp]))
    rw [repairStale_spec]
    split_ifs
    · cases stale.2 <;> decide
    · exact h.noRetry id
  | started hp => exact h.of_db (fun _ => id) h.noRetry (fun hne => absurd rfl hne)
  | appended hdb =>
    obtain ⟨journal, rfl, -⟩ := Db.append_eq_ok hdb
    exact h.of_db (fun _ => id) h.noRetry h.idle
  | wroteRuns => exact h.of_db (fun _ => id) h.noRetry h.idle

lemma Inv.move (h : Inv w) (l : Label) (id : InvocationId) :
    Move (cell w id) (cell (w.step l) id) := by
  have heffect := effect_step w l
  generalize w.step l = w' at heffect ⊢
  cases heffect with
  | stays | restarted | aborted | scanned | returned | started => exact .stay _
  | @queued approved _ _ _ _ hnone hmoves =>
    by_cases hid : id = approved.intent.invocationId
    · subst hid
      rw [cell_absent hnone, cell_ready hmoves.status_self]
      exact .offer _
    · exact move_of_same (hmoves.status_other id hid) Iff.rfl rfl
  | @leased i _ _ d _ _ hp hidle hst _ hmoves =>
    by_cases hid : id = d.invocationId
    · subst hid
      rw [cell_ready (hst.resolve_right (h.noRetry d.invocationId)),
        cell_held ⟨.dispatching, hmoves.status_self, by decide⟩
          (held_setDispatcher.mpr (.inl ⟨d, rfl, rfl⟩))]
      exact .take _
    · refine move_of_same (hmoves.status_other id hid) (held_setDispatcher_other ?_) rfl
      rintro e (he | he)
      · cases he
        exact Ne.symm hid
      · cases hidle.symm.trans he
  | executed hd => exact h.move_of_call hd
  | @finished i _ _ d outcome db hd hdb =>
    have hheld : Held ({ w with db := db }.setDispatcher i .idle) id ↔ Held w id :=
      held_setDispatcher_other (w := { w with db }) (by simp [hd])
    rcases hdb with rfl | hwrite
    · exact move_of_same rfl hheld rfl
    · by_cases hg : Gone w.db id
      · exact move_of_gone hg ((writeOutcome_gone hwrite).mpr hg) hheld rfl
      · exact move_of_same (writeOutcome_status hwrite hg) hheld rfl
  | abandoned =>
    refine h.move_of_release rfl rfl fun hheld => ?_
    rcases held_setDispatcher.mp hheld with ⟨d, hd, -⟩ | ⟨j, d, -, hj⟩
    · cases hd
    · exact ⟨j, d, hj⟩
  | crashed =>
    refine h.move_of_release rfl rfl ?_
    rintro ⟨i, d, hd, -⟩
    cases hd
  | @recovered _ _ invocation todo db hp hdb =>
    have hstatus := (recoverInvocation_spec hdb).1 id
    by_cases hg : Gone w.db id
    · exact move_of_gone hg (recoverInvocation_gone hdb hg) Iff.rfl rfl
    · split_ifs at hstatus
      · cases hst : w.db.outboxStatus id with
        | none => exact move_of_same (by rw [hstatus, hst]; rfl) Iff.rfl rfl
        | some st =>
          obtain rfl : st = .pending := by
            by_contra hne
            exact hg ⟨st, hst, hne⟩
          rw [hst] at hstatus
          rw [cell_ready hst, cell_spent (w := { w with db, phase := .recovering todo })
            ⟨.unknown, hstatus, by decide⟩ (h.not_held (by simp [hp]) id)]
          exact .retire _
      · exact move_of_same hstatus Iff.rfl rfl
  | @repaired now stale _ _ =>
    have hstatus := repairStale_spec stale now w.db id
    by_cases hg : Gone w.db id
    · exact move_of_gone hg (repairStale_gone stale now hg) Iff.rfl rfl
    · rw [if_neg (fun hd => hg ⟨.dispatching, hd.2, by decide⟩)] at hstatus
      exact move_of_same hstatus Iff.rfl rfl
  | appended hdb =>
    obtain ⟨journal, rfl, -⟩ := Db.append_eq_ok hdb
    exact move_of_same rfl Iff.rfl rfl
  | wroteRuns => exact move_of_same rfl Iff.rfl rfl

/-- In every interleaving of writers, dispatchers, crashes and recoveries the adapter is
called at most once for an invocation, and a row that has left `pending` is never
`pending` or `retryable_failed` again. -/
theorem outbox_at_most_once (ls : List Label) :
    (∀ id, (run World.step World.init ls).calls.count id ≤ 1) ∧
      ∀ ls' id st, (run World.step World.init ls).db.outboxStatus id = some st → st ≠ .pending →
        ∃ st', (run World.step World.init (ls ++ ls')).db.outboxStatus id = some st' ∧
          st' ≠ .pending ∧ st' ≠ .retryableFailed := by
  have hinv : ∀ ls, Inv (run .step .init ls) := fun ls =>
    run_invariant (fun w l hw => hw.step l) ls inv_init
  have hsound : ∀ id, (cell .init id).Sound := by
    intro id
    simp [cell, World.init, Db.outboxStatus, Cell.Sound]
  refine ⟨calls_le_one (fun w l hw => hw.step l) (fun w l id hw => hw.move l id) inv_init hsound ls,
    ?_⟩
  intro ls' id st hst hne
  have hpast : (cell (run .step (run .step .init ls) ls') id).Past :=
    past_run (fun w l hw => hw.step l) (fun w l id hw => hw.move l id) (hinv ls)
      (cell_past_iff.mpr ⟨st, hst, hne⟩) ls'
  rw [← run_append] at hpast
  obtain ⟨st', hst', hne'⟩ := cell_past_iff.mp hpast
  refine ⟨st', hst', hne', ?_⟩
  rintro rfl
  exact (hinv (ls ++ ls')).noRetry id hst'

end Steps

end AgentCore.Runtime
