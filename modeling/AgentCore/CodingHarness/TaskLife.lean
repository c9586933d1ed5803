import AgentCore.CodingHarness.Tasks

/-!
# Every coding task ends

The only panics of a task come from `truncate_str`, which cuts three bytes off a text without looking
where its characters begin. Where no text is cut inside a character, every task whose thread has
ended is at a terminal status, for every interleaving of the threads with the calls.
-/

namespace AgentCore.CodingHarness

open Foundation Domain Server Option List

/-! ## Clean cuts -/

variable {t : Task} {status : TaskStatus} {w : TaskWorld} {id : Nat} {max : Nat}

/-- The text fits the limit, or all but the last three bytes of its first `max` characters are whole
characters. -/
def CutsCleanly (s : String) (max : Nat) : Prop :=
  s.utf8ByteSize ≤ max ∨ ∃ k, String.utf8Len ((s.toList.take max).take k) =
    String.utf8Len (s.toList.take max) - 3

lemma truncateStr_isSome_iff (s : String) (max : Nat) :
    (truncateStr s max).isSome = true ↔ CutsCleanly s max := by
  unfold truncateStr CutsCleanly
  by_cases hfits : s.utf8ByteSize ≤ max
  · rw [if_pos hfits]
    exact iff_of_true rfl (.inl hfits)
  · rw [if_neg hfits, isSome_map, charsOfBytes_isSome_iff (Nat.sub_le _ _)]
    exact (or_iff_right hfits).symm

lemma truncateStr_of_clean (h : CutsCleanly s max) : ∃ cut, truncateStr s max = some cut :=
  isSome_iff_exists.mp ((truncateStr_isSome_iff s max).mpr h)

def AllClean (cuts : List (String × Nat)) : Prop := ∀ cut ∈ cuts, CutsCleanly cut.1 cut.2

lemma allClean_append :
    AllClean (cuts ++ more) ↔ AllClean cuts ∧ AllClean more := forall_mem_append

/-! ## What a task cuts -/

def fieldCut (text : Option String) (max : Nat) : List (String × Nat) :=
  text.toList.map fun s => (s, max)

def typedCuts (event : Json) (kind : String) : List (String × Nat) :=
  if kind ∈ ["completion", "result", "done"] then fieldCut (strField event "content") 200
  else if kind ∈ ["file_change", "edit", "write"] then []
  else if kind = "diff" then fieldCut (strField event "diff") 500
  else if kind ∈ ["test", "test_result"] then fieldCut (strField event "output") 200
  else if kind ∈ ["bash", "tool_use"] then fieldCut (bashCommand event) 200
  else []

lemma cutField_of_clean (h : AllClean (fieldCut text max))
    (p : Parsed) (set : String → Parsed) : ∃ p', cutField text max p set = some p' := by
  cases text with
  | none => exact ⟨p, rfl⟩
  | some s =>
    obtain ⟨cut, hcut⟩ := truncateStr_of_clean (h (s, max) mem_cons_self)
    exact ⟨set cut, by rw [cutField, hcut]; rfl⟩

lemma parseTyped_of_clean (h : AllClean (typedCuts event kind))
    (p : Parsed) : ∃ p', parseTyped event kind p = some p' := by
  unfold typedCuts at h
  unfold parseTyped
  -- The two functions ask about the type in the same order.
  split_ifs at h ⊢
  · exact cutField_of_clean h p _
  · exact ⟨_, rfl⟩
  · exact cutField_of_clean h p _
  · exact cutField_of_clean h _ _
  · exact cutField_of_clean h p _
  · exact ⟨p, rfl⟩

lemma parseEvent_of_clean
    (h : AllClean ((strField event "type").elim [] (typedCuts event))) (p : Parsed) :
    ∃ p', parseEvent event p = some p' := by
  have htyped : ∃ p', (strField event "type").elim (some p)
      (fun kind => parseTyped event kind p) = some p' := by
    cases hkind : strField event "type" with
    | none => exact ⟨p, rfl⟩
    | some kind =>
      rw [hkind] at h
      exact parseTyped_of_clean h p
  obtain ⟨p', hp'⟩ := htyped
  unfold parseEvent
  rw [hp']
  dsimp only [bind_eq_bind, bind_some]
  split
  · exact ⟨_, rfl⟩
  · exact ⟨p', rfl⟩

section Cuts

variable [Platform] {event : Json}

def lineCuts (line : String) : List (String × Nat) :=
  if trim line = "" then []
  else
    match fromStr (trim line) with
    | some event => (strField event "type").elim [] (typedCuts event)
    | none => []

def Task.cuts (t : Task) (outcome : BackendOutcome) : List (String × Nat) :=
  match t.backend, outcome with
  | .fake, _ => [(t.objective, 80)]
  | .opencode, .exited exitCode stdout stderr _ =>
    if exitCode = 0 then
      [(t.objective, 80), (stdout, 100000), (stderr, 100000)] ++ (lines stdout).flatMap lineCuts
    else [((lines stderr).getLastD stderr, 300)]
  | .opencode, _ => []

lemma parseLine_of_clean (h : AllClean (lineCuts line)) (p : Parsed) :
    ∃ p', parseLine p line = some p' := by
  unfold lineCuts at h
  unfold parseLine
  split
  · exact ⟨p, rfl⟩
  · rename_i hline
    rw [if_neg hline] at h
    cases hevent : fromStr (trim line) with
    | none => exact ⟨p, rfl⟩
    | some event =>
      rw [hevent] at h
      exact parseEvent_of_clean h p

lemma parseLines_of_clean {lines : List String} (h : AllClean (lines.flatMap lineCuts))
    (p : Parsed) : ∃ p', lines.foldlM parseLine p = some p' := by
  induction lines generalizing p with
  | nil => exact ⟨p, rfl⟩
  | cons line lines ih =>
    rw [flatMap_cons, allClean_append] at h
    obtain ⟨first, hfirst⟩ := parseLine_of_clean h.1 p
    obtain ⟨last, hlast⟩ := ih h.2 first
    refine ⟨last, ?_⟩
    rw [foldlM_cons, hfirst]
    exact hlast

lemma parseOutput_of_clean {stdout objective : String} (ho : CutsCleanly objective 80)
    (hl : AllClean ((lines stdout).flatMap lineCuts)) :
    ∃ p, parseOutput stdout objective = some p := by
  obtain ⟨cut, hcut⟩ := truncateStr_of_clean ho
  obtain ⟨p, hp⟩ := parseLines_of_clean hl { summary := "opencode: completed '" ++ cut ++ "'" }
  unfold parseOutput
  rw [hcut]
  dsimp only [bind_eq_bind, bind_some]
  rw [hp]
  exact ⟨_, rfl⟩

def Storable : Except String TaskOutput → Prop
  | .ok out => CutsCleanly out.stdout 100000 ∧ CutsCleanly out.stderr 100000
  | .error _ => True

lemma Task.run_of_clean (h : AllClean (t.cuts outcome)) :
    ∃ result, t.run outcome = some result ∧ Storable result := by
  unfold Task.cuts at h
  unfold Task.run
  cases hbackend : t.backend with
  | fake =>
    rw [hbackend] at h
    obtain ⟨cut, hcut⟩ := truncateStr_of_clean (h _ mem_cons_self)
    have hstdout : CutsCleanly "fake: task completed\n" 100000 := .inl (by decide)
    have hstderr : CutsCleanly "" 100000 := .inl (by decide)
    dsimp only
    rw [runFake, hcut]
    exact ⟨_, rfl, hstdout, hstderr⟩
  | opencode =>
    rw [hbackend] at h
    cases outcome with
    | failed reason | cancelled => exact ⟨_, rfl, trivial⟩
    | exited exitCode stdout stderr timedOut =>
      dsimp only at h ⊢
      unfold runOpencode
      by_cases hzero : exitCode = 0
      · rw [if_pos hzero, allClean_append] at h
        obtain ⟨htexts, hlines⟩ := h
        obtain ⟨p, hp⟩ := parseOutput_of_clean (htexts (t.objective, 80) (by simp)) hlines
        dsimp only
        rw [if_pos hzero, hp]
        exact ⟨_, rfl, htexts (stdout, 100000) (by simp), htexts (stderr, 100000) (by simp)⟩
      · rw [if_neg hzero] at h
        obtain ⟨cut, hcut⟩ := truncateStr_of_clean (h _ mem_cons_self)
        dsimp only
        rw [if_neg hzero, hcut]
        exact ⟨_, rfl, trivial⟩

end Cuts

/-! ## The life of a task -/

/-- The statuses a task can have at a phase. A thread that ended early did so because its task was
cancelled, or because it saw the token. -/
def Phase.Allows (status : TaskStatus) (flag : Bool) : Phase → Prop
  | .inserted => status = .queued ∨ status = .cancelled
  | .registered => status = .queued ∨ status = .cancelled
  | .checking => status = .queued ∨ status = .cancelled
  | .starting => status = .queued ∨ status = .cancelled
  | .executing => status = .running ∨ status = .cancelled
  | .finishing result => (status = .running ∨ status = .cancelled) ∧ Storable result
  | .ended => status.terminal = true ∨ flag = true

structure Task.Good (t : Task) : Prop where
  allows : t.phase.Allows t.status t.flag
  flagged : t.flag = true → t.status.terminal = true ∨ 0 < t.cancelling

lemma Phase.allows_cancelled (phase : Phase) (h : phase.Allows status flag) :
    phase.Allows .cancelled flag := by
  cases phase with
  | finishing result => exact ⟨.inr rfl, h.2⟩
  | ended => exact .inl rfl
  | inserted | registered | checking | starting | executing => exact .inr rfl

lemma Phase.allows_flag (phase : Phase) (h : phase.Allows status flag)
    (hflag : flag = true → flag' = true) : phase.Allows status flag' := by
  cases phase with
  | ended => exact h.imp_right hflag
  | finishing result => exact h
  | inserted => exact h
  | registered => exact h
  | checking => exact h
  | starting => exact h
  | executing => exact h

lemma Task.Good.cancelToken (h : t.Good) : t.cancelToken.Good where
  allows := t.phase.allows_flag h.allows fun hflag => by rw [Task.cancelToken, hflag]; rfl
  flagged _ := .inr (Nat.succ_pos _)

lemma Task.Good.cancelStore (h : t.Good) : t.cancelStore.Good := by
  unfold Task.cancelStore
  by_cases hopen : t.status = .queued ∨ t.status = .running
  · rw [if_pos hopen]
    exact ⟨t.phase.allows_cancelled h.allows, fun _ => .inl rfl⟩
  · rw [if_neg hopen]
    have hterminal : t.status.terminal = true := by
      cases hstatus : t.status with
      | queued => exact absurd (.inl hstatus) hopen
      | running => exact absurd (.inr hstatus) hopen
      | succeeded => rfl
      | failed reason => rfl
      | cancelled => rfl
    exact ⟨h.allows, fun _ => .inl hterminal⟩

lemma Task.Good.finish (h : t.Good) (hphase : t.phase = .finishing result) :
    (t.finish result).1.Good ∧ (t.finish result).2 = false := by
  have hallows := h.allows
  rw [hphase] at hallows
  obtain ⟨hstatus, hstorable⟩ := hallows
  unfold Task.finish
  rcases hstatus with hrunning | hcancelled
  · rw [hrunning]
    cases result with
    | error e => exact ⟨⟨.inl rfl, fun _ => .inl rfl⟩, rfl⟩
    | ok out =>
      obtain ⟨stdout, hstdout⟩ := truncateStr_of_clean hstorable.1
      obtain ⟨stderr, hstderr⟩ := truncateStr_of_clean hstorable.2
      dsimp only
      rw [hstdout, hstderr]
      exact ⟨⟨.inl rfl, fun _ => .inl rfl⟩, rfl⟩
  · rw [hcancelled]
    exact ⟨⟨.inl rfl, fun _ => .inl rfl⟩, rfl⟩

/-! ## The store -/

structure TaskWorld.Good (w : TaskWorld) : Prop where
  sane : w.poisoned = false
  calls : w.callPanicked = false
  numbered : ∀ id t, w.tasks id = some t → id < w.seq
  tasks : ∀ id t, w.tasks id = some t → t.Good

lemma TaskWorld.good_start : ({} : TaskWorld).Good where
  sane := rfl
  calls := rfl
  numbered _ _ h := nomatch h
  tasks _ _ h := nomatch h

lemma TaskWorld.Good.put (h : w.Good) (hid : id < w.seq) (ht : t.Good) : (w.put id t).Good := by
  have hlookup : ∀ id' t', (w.put id t).tasks id' = some t' →
      (id' = id ∧ t' = t) ∨ w.tasks id' = some t' := by
    intro id' t' h'
    by_cases hid' : id' = id
    · subst hid'
      simp only [TaskWorld.put, Function.update_self, some.injEq] at h'
      exact .inl ⟨rfl, h'.symm⟩
    · simp only [TaskWorld.put, Function.update_of_ne hid'] at h'
      exact .inr h'
  refine ⟨h.sane, h.calls, fun id' t' h' => ?_, fun id' t' h' => ?_⟩
  · rcases hlookup id' t' h' with ⟨rfl, -⟩ | hold
    · exact hid
    · exact h.numbered id' t' hold
  · rcases hlookup id' t' h' with ⟨-, rfl⟩ | hold
    · exact ht
    · exact h.tasks id' t' hold

lemma TaskWorld.Good.used (h : w.Good) : ({ w with seq := w.seq + 1 }).Good :=
  ⟨h.sane, h.calls, fun id t ht => Nat.lt_succ_of_lt (h.numbered id t ht), h.tasks⟩

section Steps

variable [Platform]

def ThreadStep.Clean (t : Task) : ThreadStep → Prop
  | .execute outcome => AllClean (t.cuts outcome)
  | _ => True

lemma Task.Good.advance (h : t.Good) (hclean : step.Clean t) :
    (t.advance false step).1.Good ∧ (t.advance false step).2 = false := by
  have hallows := h.allows
  have hflagged := h.flagged
  cases step with
  | register | spawn =>
    unfold Task.advance
    cases hphase : t.phase <;> first | exact ⟨h, rfl⟩ | skip
    rw [hphase] at hallows
    exact ⟨⟨hallows, hflagged⟩, rfl⟩
  | check =>
    unfold Task.advance
    cases hphase : t.phase <;> first | exact ⟨h, rfl⟩ | skip
    rw [hphase] at hallows
    refine ⟨⟨?_, hflagged⟩, rfl⟩
    dsimp only
    split
    · rename_i hseen
      exact .inr hseen.2
    · exact hallows
  | start =>
    unfold Task.advance
    cases hphase : t.phase <;> first | exact ⟨h, rfl⟩ | skip
    rw [hphase] at hallows
    dsimp only
    split
    · rename_i hgone
      have hcancelled : t.status = .cancelled := hallows.resolve_left (hgone.resolve_left nofun)
      have hterminal : t.status.terminal = true := by rw [hcancelled]; rfl
      exact ⟨⟨.inl hterminal, hflagged⟩, rfl⟩
    · rename_i hqueued
      have hstatus : t.status = .queued := by
        by_contra hne
        exact hqueued (.inr hne)
      refine ⟨⟨.inl rfl, fun hflag => .inr ?_⟩, rfl⟩
      have hpending := hflagged hflag
      rw [hstatus] at hpending
      exact hpending.resolve_left nofun
  | execute outcome =>
    unfold Task.advance
    cases hphase : t.phase <;> first | exact ⟨h, rfl⟩ | skip
    rw [hphase] at hallows
    dsimp only
    split
    · exact ⟨h, rfl⟩
    · obtain ⟨result, hresult, hstorable⟩ := Task.run_of_clean hclean
      rw [hresult]
      exact ⟨⟨⟨hallows, hstorable⟩, hflagged⟩, rfl⟩
  | finish =>
    unfold Task.advance
    cases hphase : t.phase <;> first | exact ⟨h, rfl⟩ | skip
    exact h.finish hphase

def TaskEvent.Clean (w : TaskWorld) : TaskEvent → Prop
  | .thread id step => ∀ t, w.tasks id = some t → step.Clean t
  | _ => True

/-! ## Runs -/

section Equations

lemma TaskWorld.step_thread (h : w.tasks id = some t) (step : ThreadStep) :
    w.step (.thread id step) = { w.put id (t.advance w.poisoned step).1 with
      poisoned := w.poisoned || (t.advance w.poisoned step).2 } := by
  simp only [TaskWorld.step, h]

lemma TaskWorld.step_cancelToken (h : w.tasks id = some t) :
    w.step (.cancelToken id) = w.put id t.cancelToken := by
  simp only [TaskWorld.step, h]

lemma TaskWorld.step_cancelStore (h : w.tasks id = some t) : w.step (.cancelStore id) =
      if t.cancelling = 0 then w
      else if w.poisoned then
        { w.put id { t with cancelling := t.cancelling - 1 } with callPanicked := true }
      else w.put id t.cancelStore := by
  simp only [TaskWorld.step, h]

lemma TaskWorld.step_absent (h : w.tasks id = none) (step : ThreadStep) :
    w.step (.thread id step) = w ∧ w.step (.cancelToken id) = w ∧
      w.step (.cancelStore id) = if w.poisoned then { w with callPanicked := true } else w := by
  simp only [TaskWorld.step, h, and_self]

end Equations

omit [Platform] in
lemma TaskWorld.Good.submit (h : w.Good) (objective : String) (acceptance : Json)
    (backend : String) : (w.submit objective acceptance backend).Good := by
  unfold TaskWorld.submit
  cases Backend.ofText backend with
  | none => exact h.used
  | some b =>
    have hopen : ¬ w.poisoned = true := by rw [h.sane]; decide
    dsimp only
    rw [if_neg hopen]
    exact h.used.put (Nat.lt_succ_self w.seq) ⟨.inl rfl, nofun⟩

lemma TaskWorld.Good.step (h : w.Good) (hclean : event.Clean w) : (w.step event).Good := by
  have hopen : ¬ w.poisoned = true := by rw [h.sane]; decide
  cases event with
  | submit objective acceptance backend => exact h.submit objective acceptance backend
  | thread id step =>
    cases ht : w.tasks id with
    | none =>
      rw [(TaskWorld.step_absent ht step).1]
      exact h
    | some t =>
      have hnext := (h.tasks id t ht).advance (hclean t ht)
      have hput := h.put (h.numbered id t ht) hnext.1
      rw [TaskWorld.step_thread ht, h.sane, hnext.2]
      exact ⟨rfl, hput.calls, hput.numbered, hput.tasks⟩
  | cancelToken id =>
    cases ht : w.tasks id with
    | none =>
      rw [(TaskWorld.step_absent ht .spawn).2.1]
      exact h
    | some t =>
      rw [TaskWorld.step_cancelToken ht]
      exact h.put (h.numbered id t ht) (h.tasks id t ht).cancelToken
  | cancelStore id =>
    cases ht : w.tasks id with
    | none =>
      rw [(TaskWorld.step_absent ht .spawn).2.2, if_neg hopen]
      exact h
    | some t =>
      rw [TaskWorld.step_cancelStore ht, if_neg hopen]
      split
      · exact h
      · exact h.put (h.numbered id t ht) (h.tasks id t ht).cancelStore
  | getStatus id =>
    have hanswers : ¬ (w.getStatus id).isNone = true := by
      unfold TaskWorld.getStatus
      rw [if_neg hopen]
      cases w.tasks id <;> exact nofun
    unfold TaskWorld.step
    dsimp only
    rw [if_neg hanswers]
    exact h

/-! ### A terminal status stays -/

lemma Task.status_advance (h : t.status.terminal = true) (poisoned : Bool) (step : ThreadStep) :
    (t.advance poisoned step).1.status = t.status := by
  have hrunning : t.status ≠ .running := by
    intro heq
    rw [heq] at h
    cases h
  have hqueued : t.status ≠ .queued := by
    intro heq
    rw [heq] at h
    cases h
  unfold Task.advance
  cases step with
  | start =>
    cases t.phase <;> first | rfl | skip
    dsimp only
    rw [if_pos (.inr hqueued)]
  | finish =>
    cases t.phase with
    | finishing result =>
      dsimp only
      split
      · rfl
      · unfold Task.finish
        split
        · rename_i heq
          exact absurd heq hrunning
        · rfl
    | inserted => rfl
    | registered => rfl
    | checking => rfl
    | starting => rfl
    | executing => rfl
    | ended => rfl
  | execute outcome =>
    cases t.phase <;> first | rfl | skip
    dsimp only
    split
    · rfl
    · split <;> rfl
  | register | spawn | check => cases t.phase <;> rfl

def TaskWorld.Keeps (id : Nat) (status : TaskStatus) (w : TaskWorld) : Prop :=
  ∃ t, w.tasks id = some t ∧ t.status = status

omit [Platform] in
lemma TaskWorld.Keeps.put (h : w.Keeps id status)
    (ht : id' = id → t.status = status) : (w.put id' t).Keeps id status := by
  by_cases hid : id' = id
  · subst hid
    exact ⟨t, Function.update_self _ _ _, ht rfl⟩
  · obtain ⟨t', ht', hstatus⟩ := h
    refine ⟨t', ?_, hstatus⟩
    rw [TaskWorld.put]
    dsimp only
    rw [Function.update_of_ne (Ne.symm hid)]
    exact ht'

lemma TaskWorld.keeps_step (hw : w.Good) (hterminal : status.terminal = true)
    (h : w.Keeps id status) (event : TaskEvent) : (w.step event).Keeps id status := by
  obtain ⟨t, ht, rfl⟩ := h
  have hkeeps : w.Keeps id t.status := ⟨t, ht, rfl⟩
  -- An update of the task at `id'`, which is `t` if `id'` is `id`.
  have hput : ∀ (id' : Nat) (u u' : Task), w.tasks id' = some u →
      (u.status.terminal = true → u'.status = u.status) → (w.put id' u').Keeps id t.status := by
    intro id' u u' hu hsame
    refine hkeeps.put fun hid => ?_
    subst hid
    cases hu.symm.trans ht
    exact hsame hterminal
  cases event with
  | submit objective acceptance backend =>
    have hfresh : w.seq ≠ id := Nat.ne_of_gt (hw.numbered id t ht)
    change (w.submit objective acceptance backend).Keeps id t.status
    unfold TaskWorld.submit
    cases Backend.ofText backend with
    | none => exact hkeeps
    | some b =>
      dsimp only
      split
      · exact hkeeps
      · exact hkeeps.put fun heq => absurd heq hfresh
  | thread id' step =>
    cases hu : w.tasks id' with
    | none =>
      rw [(TaskWorld.step_absent hu step).1]
      exact hkeeps
    | some u =>
      rw [TaskWorld.step_thread hu]
      exact hput id' u _ hu fun hu' => Task.status_advance hu' w.poisoned step
  | cancelToken id' =>
    cases hu : w.tasks id' with
    | none =>
      rw [(TaskWorld.step_absent hu .spawn).2.1]
      exact hkeeps
    | some u =>
      rw [TaskWorld.step_cancelToken hu]
      exact hput id' u _ hu fun _ => rfl
  | cancelStore id' =>
    cases hu : w.tasks id' with
    | none =>
      rw [(TaskWorld.step_absent hu .spawn).2.2]
      split <;> exact hkeeps
    | some u =>
      rw [TaskWorld.step_cancelStore hu]
      split
      · exact hkeeps
      · split
        · exact hput id' u { u with cancelling := u.cancelling - 1 } hu fun _ => rfl
        · refine hput id' u u.cancelStore hu fun hu' => if_neg ?_
          rintro (heq | heq) <;> rw [heq] at hu' <;> cases hu'
  | getStatus id' =>
    unfold TaskWorld.step
    dsimp only
    split <;> exact hkeeps

/-- In every run that cuts no text inside a character: no call has panicked, every task whose thread
has ended and that no call is cancelling is at a terminal status, and a terminal status is final. -/
theorem tasks_end {events : List TaskEvent}
    (h : Along TaskWorld.step (fun w event => event.Clean w) {} events) :
    (run TaskWorld.step {} events).callPanicked = false ∧
    (∀ id t, (run TaskWorld.step {} events).tasks id = some t → t.phase = .ended →
      t.cancelling = 0 → t.status.terminal = true) ∧
    ∀ before after id t, events = before ++ after →
      (run TaskWorld.step {} before).tasks id = some t → t.status.terminal = true →
      ∃ t', (run TaskWorld.step {} events).tasks id = some t' ∧ t'.status = t.status := by
  have hgood : (run TaskWorld.step {} events).Good :=
    h.invariant (fun _ _ hw hclean => hw.step hclean) TaskWorld.good_start
  refine ⟨hgood.calls, fun id t ht hended hidle => ?_, ?_⟩
  · have htask := hgood.tasks id t ht
    have hallows := htask.allows
    rw [hended] at hallows
    rcases hallows with hterminal | hflag
    · exact hterminal
    · rcases htask.flagged hflag with hterminal | hpending
      · exact hterminal
      · rw [hidle] at hpending
        exact absurd hpending (Nat.lt_irrefl 0)
  · rintro before after id t rfl ht hterminal
    obtain ⟨hbefore, hafter⟩ := along_append.mp h
    have hstart : (run TaskWorld.step {} before).Good :=
      hbefore.invariant (fun _ _ hw hclean => hw.step hclean) TaskWorld.good_start
    rw [run_append]
    have hkeeps := hafter.invariant (I := fun w => w.Good ∧ w.Keeps id t.status)
      (fun _ event hw hclean => ⟨hw.1.step hclean, TaskWorld.keeps_step hw.1 hterminal hw.2 event⟩)
      ⟨hstart, t, ht, rfl⟩
    exact hkeeps.2

end Steps

/-! ### An objective of two-byte characters -/

def fakeRun (objective : String) : List TaskEvent :=
  [.submit objective .null "fake", .thread 0 .register, .thread 0 .spawn, .thread 0 .check,
    .thread 0 .start, .thread 0 (.execute (.failed "")), .thread 0 .finish]

/-- 41 characters of two bytes are longer than 80 bytes, and the cut after 79 of their 82 bytes is
inside the last but one: the thread has ended and the task is running for ever. -/
theorem fakeRun_stuck :
    letI := zeroPlatform
    ((run TaskWorld.step {} (fakeRun (String.ofList (replicate 41 'é')))).tasks 0).map
        (fun t => (t.status, t.cancelling, match t.phase with | .ended => true | _ => false)) =
      some (.running, 0, true) := by
  decide +kernel

theorem tasks_end_fakeRun :
    letI := zeroPlatform
    (run TaskWorld.step {} (fakeRun "hi")).callPanicked = false ∧
      ∀ t, (run TaskWorld.step {} (fakeRun "hi")).tasks 0 = some t → t.phase = .ended →
        t.cancelling = 0 → t.status.terminal = true := by
  let _ := zeroPlatform
  have hclean : AllClean [("hi", 80)] := by
    intro cut hcut
    rw [mem_singleton.mp hcut]
    exact .inl (by decide)
  have hrun : Along .step (fun w event => event.Clean w) {} (fakeRun "hi") := by
    refine ⟨trivial, fun _ _ => trivial, fun _ _ => trivial, fun _ _ => trivial,
      fun _ _ => trivial, fun t ht => ?_, fun _ _ => trivial, trivial⟩
    cases ht
    exact hclean
  have h := tasks_end hrun
  exact ⟨h.1, h.2.1 0⟩

end AgentCore.CodingHarness
