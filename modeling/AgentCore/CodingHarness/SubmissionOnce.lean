import AgentCore.CodingHarness.SubmissionStore

/-! A development submission runs at most once, whatever crashes, as long as no look at a file
that is there fails. -/

namespace AgentCore.CodingHarness

open Foundation Domain List

variable {d : KeyDir} {o : Owner} {facts : List Fact} {fp : String} {v : Json}

/-! ## What holds in a directory -/

def Backed (facts : List Fact) (v : Json) : Prop := .returned v ∈ facts ∨ v = outcomeUnknown

def KeyDir.At (d : KeyDir) (fp : String) : Pc → Prop
  | .resultExists | .compareResult => True
  | .readResult => d.request.file = some fp
  | .requestExists | .compareRequest => d.result.file = none
  | .write .claim .create => d.request.file = none
  | .write .claim .fill => claims d.facts = [] ∧ d.request.file = none ∧ d.request.temp = some none
  | .write .claim .rename =>
    claims d.facts = [] ∧ d.request.file = none ∧ d.request.temp = some (some fp)
  | .write .claim .syncDir =>
    d.request.file = some fp ∧ d.result.file = none ∧ .entered ∉ d.facts
  | .handler => d.request.file = some fp ∧ d.result.file = none
  | .write (.respond r) .create =>
    d.request.file = some fp ∧ Backed d.facts r.value ∧ d.result.file = none
  | .write (.respond r) .fill =>
    d.request.file = some fp ∧ Backed d.facts r.value ∧ d.result.file = none ∧
      d.result.temp = some none
  | .write (.respond r) .rename =>
    d.request.file = some fp ∧ Backed d.facts r.value ∧ d.result.file = none ∧
      d.result.temp = some (some r.value)
  | .write (.respond r) .syncDir =>
    d.request.file = some fp ∧ d.result.file = some r.value

structure KeyDir.Unclaimed (d : KeyDir) : Prop where
  claims : claims d.facts = []
  request : d.request.file = none
  result : d.result = {}
  entered : .entered ∉ d.facts

/-- A claim is never lost, the handler is entered under a claim whose name is synced, and a
completed answer has the value that the directory holds. -/
structure KeyDir.Sound (d : KeyDir) : Prop where
  requestFresh : d.request.Fresh
  resultFresh : d.result.Fresh
  claim : d.Unclaimed ∨ ∃ fp, claims d.facts = [fp] ∧ d.request.Holds fp
  once : d.facts.count .entered ≤ 1
  entered : .entered ∈ d.facts → d.request.file.isSome ∧ d.request.replaced = none
  value : ∀ v, d.result.Holds v → Backed d.facts v
  completed : ∀ fp v, .answered fp (.completed v) ∈ d.facts →
    d.result.Holds v ∧ claims d.facts = [fp]
  owner : ∀ o, d.lock = some o → d.At o.fingerprint o.pc

lemma Backed.append (h : Backed facts v) (more : List Fact) : Backed (facts ++ more) v :=
  h.imp (mem_append_left _) id

@[simp] lemma claims_append (facts more : List Fact) :
    claims (facts ++ more) = claims facts ++ claims more := filterMap_append ..

namespace KeyDir

lemma Sound.runsOnce (h : d.Sound) : RunsOnce d.facts where
  once := h.once
  same _ _ _ _ hv hv' := (h.completed _ _ hv).1.unique (h.completed _ _ hv').1
  value fp v hv := h.value v (h.completed fp v hv).1
  first fp v hv := by rw [(h.completed fp v hv).2]; rfl

lemma Sound.claims_eq (h : d.Sound) (hfile : d.request.file = some fp) : claims d.facts = [fp] := by
  rcases h.claim with hun | ⟨fp', hclaims, hholds⟩
  · cases hun.request.symm.trans hfile
  · rw [hclaims, hholds.of_file hfile]

lemma Sound.unclaimed (h : d.Sound) (hclaims : claims d.facts = []) : d.Unclaimed := by
  rcases h.claim with hun | ⟨fp, hfp, -⟩
  · exact hun
  · cases hclaims.symm.trans hfp

lemma Sound.uncompleted (h : d.Sound) (hnone : ∀ v, ¬ d.result.Holds v) :
    .answered fp (.completed v) ∉ d.facts := fun hv => hnone v (h.completed fp v hv).1

/-! ## Steps that leave the files alone -/

variable {pc : Pc}

lemma Sound.goto (h : d.Sound) (hat : d.At o.fingerprint pc) : (d.goto o pc).Sound where
  requestFresh := h.requestFresh
  resultFresh := h.resultFresh
  claim := h.claim.imp (fun hun => ⟨hun.claims, hun.request, hun.result, hun.entered⟩) id
  once := h.once
  entered := h.entered
  value := h.value
  completed := h.completed
  owner _ ho := by cases ho; exact hat

lemma Sound.unlock (h : d.Sound) : Sound { d with lock := none } where
  requestFresh := h.requestFresh
  resultFresh := h.resultFresh
  claim := h.claim.imp (fun hun => ⟨hun.claims, hun.request, hun.result, hun.entered⟩) id
  once := h.once
  entered := h.entered
  value := h.value
  completed := h.completed
  owner _ ho := nomatch ho

lemma At.record (h : d.At fp pc) (hclaim : claims [fact] = [])
    (hentered : fact ≠ .entered) : (d.record fact).At fp pc := by
  have hclaims : claims (d.facts ++ [fact]) = claims d.facts := by simp [hclaim]
  have hmem : .entered ∉ d.facts → .entered ∉ d.facts ++ [fact] := by
    simp [hentered.symm]
  cases pc with
  | write purpose stage =>
    cases purpose <;> cases stage <;>
      simp only [At, KeyDir.record, hclaims] at h ⊢ <;> first
      | exact h
      | exact ⟨h.1, h.2.1, hmem h.2.2⟩
      | exact ⟨h.1, h.2.1.append _, h.2.2⟩
  | _ => exact h

lemma Sound.record (h : d.Sound) (hclaim : claims [fact] = []) (hentered : fact ≠ .entered)
    (hcompleted : ∀ fp v, fact = .answered fp (.completed v) →
      d.result.Holds v ∧ claims d.facts = [fp]) : (d.record fact).Sound := by
  have hclaims : claims (d.facts ++ [fact]) = claims d.facts := by simp [hclaim]
  have hmem : .entered ∈ d.facts ++ [fact] → .entered ∈ d.facts := by
    simp [hentered.symm]
  have hcount : (d.facts ++ [fact]).count .entered = d.facts.count .entered := by
    rw [count_append, count_singleton, if_neg (by simpa using hentered), Nat.add_zero]
  refine ⟨h.requestFresh, h.resultFresh, ?_, ?_, fun he => h.entered (hmem he),
    fun v hv => (h.value v hv).append _, fun fp v hv => ?_, fun o ho => ?_⟩
  · refine h.claim.imp (fun hun => ?_) fun ⟨fp, hfp⟩ => ⟨fp, hclaims.trans hfp.1, hfp.2⟩
    exact ⟨hclaims.trans hun.claims, hun.request, hun.result, fun he => hun.entered (hmem he)⟩
  · exact hcount.le.trans h.once
  · change _ ∧ claims (d.facts ++ [fact]) = [fp]
    rw [hclaims]
    rcases mem_append.mp hv with hv | hv
    · exact h.completed fp v hv
    · exact hcompleted fp v (mem_singleton.mp hv).symm
  · exact .record (h.owner o ho) hclaim hentered

lemma Sound.answer (h : d.Sound) {answer : SubmissionExecution}
    (hcompleted : ∀ v, answer = .completed v → d.result.Holds v ∧ claims d.facts = [fp]) :
    (d.answer fp answer).Sound := by
  refine h.unlock.record rfl nofun fun fp' v heq => ?_
  obtain ⟨rfl, rfl⟩ := Fact.answered.inj heq
  exact hcompleted v rfl

lemma Sound.unknown (h : d.Sound) : (d.answer fp .outcomeUnknown).Sound := h.answer nofun

/-! ## The marker -/

lemma Sound.setTemp (h : d.Sound) (hclaims : claims d.facts = []) (hfile : d.request.file = none)
    (hat : At { d with request := { d.request with temp := some temp } } o.fingerprint pc) :
    ({ d with request := { d.request with temp := some temp } }.goto o pc).Sound := by
  have hun := h.unclaimed hclaims
  have hnew : Sound { d with request := { d.request with temp := some temp }, lock := none } :=
    { requestFresh := fun old hold => absurd (h.requestFresh old hold).2.1 (by simp [hfile])
      resultFresh := h.resultFresh
      claim := .inl ⟨hun.claims, hun.request, hun.result, hun.entered⟩
      once := h.once
      entered := h.entered
      value := h.value
      completed := h.completed
      owner := nofun }
  exact hnew.goto hat

lemma Sound.claimCreate (h : d.Sound) (hat : d.At o.fingerprint (.write .claim .create)) :
    (d.write o .claim .create).Sound := by
  simp only [KeyDir.write]
  split
  · exact h.unknown
  next hfree =>
    have hclaims : claims d.facts = [] := by
      rcases h.claim with hun | ⟨fp, -, hfile | ⟨-, htemp⟩⟩
      · exact hun.claims
      · cases hat.symm.trans hfile
      · exact absurd (by rw [htemp]; rfl) hfree
    exact h.setTemp hclaims hat ⟨hclaims, hat, rfl⟩

lemma Sound.claimFill (h : d.Sound) (hat : d.At o.fingerprint (.write .claim .fill)) :
    (d.write o .claim .fill).Sound := h.setTemp hat.1 hat.2.1 ⟨hat.1, hat.2.1, rfl⟩

lemma Sound.claimRename (h : d.Sound) (hat : d.At o.fingerprint (.write .claim .rename)) :
    (d.write o .claim .rename).Sound := by
  obtain ⟨hclaims, hfile, htemp⟩ := hat
  have hun := h.unclaimed hclaims
  have hrename : d.request.rename = ⟨none, some o.fingerprint, some none⟩ := by
    rw [AtomicFile.rename, htemp, hfile]
  have hnone : ∀ v, ¬ d.result.Holds v := by
    intro v
    rw [hun.result]
    exact nofun
  have hentered : Fact.entered ∉ d.facts ++ [.claimed o.fingerprint] := by simp [hun.entered]
  simp only [KeyDir.write, hrename]
  refine ⟨fun old hold => ?_, h.resultFresh, .inr ⟨o.fingerprint, ?_, .inl rfl⟩, ?_,
    fun he => absurd he hentered, fun v hv => absurd hv (hnone v), fun fp v hv => ?_,
    fun o' ho' => ?_⟩
  · cases hold
    exact ⟨rfl, rfl, rfl⟩
  · exact (claims_append _ _).trans (by rw [hclaims]; rfl)
  · exact (count_eq_zero.mpr hentered).le.trans (Nat.zero_le 1)
  · rcases mem_append.mp hv with hv | hv
    · exact absurd hv (h.uncompleted hnone)
    · cases mem_singleton.mp hv
  · cases ho'
    have hfree : d.result.file = none := by rw [hun.result]
    exact ⟨rfl, hfree, hentered⟩

lemma Sound.claimSync (h : d.Sound) (hat : d.At o.fingerprint (.write .claim .syncDir)) :
    (d.write o .claim .syncDir).Sound := by
  obtain ⟨hfile, hresult, hentered⟩ := hat
  have hclaims := h.claims_eq hfile
  have hclaims' : claims (d.facts ++ [Fact.entered]) = [o.fingerprint] := by
    rw [claims_append, hclaims]
    rfl
  refine ⟨nofun, nofun, .inr ⟨o.fingerprint, hclaims', .inl hfile⟩, ?_, fun _ => ?_,
    fun v hv => (h.value v hv).append _, fun fp v hv => ?_, fun o' ho' => ?_⟩
  · change (d.facts ++ [Fact.entered]).count Fact.entered ≤ 1
    rw [count_append, count_eq_zero.mpr hentered]
    exact Nat.le_refl 1
  · exact ⟨by rw [Option.isSome_iff_exists]; exact ⟨_, hfile⟩, rfl⟩
  · rcases mem_append.mp hv with hv | hv
    · obtain ⟨hholds, hfp⟩ := h.completed fp v hv
      exact ⟨hholds, hclaims'.trans (hclaims.symm.trans hfp)⟩
    · cases mem_singleton.mp hv
  · cases ho'
    exact ⟨hfile, hresult⟩

/-! ## The response -/

lemma Sound.setResult {result : AtomicFile Json} (h : d.Sound)
    (hfile : d.request.file = some o.fingerprint) (hfresh : result.Fresh)
    (hvalue : ∀ v, result.Holds v → Backed d.facts v)
    (hkeeps : ∀ v, d.result.Holds v → result.Holds v)
    (hat : At { d with result } o.fingerprint pc) : ({ d with result }.goto o pc).Sound := by
  refine ⟨h.requestFresh, hfresh, .inr ⟨o.fingerprint, h.claims_eq hfile, .inl hfile⟩, h.once,
    h.entered, hvalue, fun fp v hv => ?_, fun o' ho' => ?_⟩
  · exact (h.completed fp v hv).imp_left (hkeeps v)
  · cases ho'
    exact hat

lemma Sound.not_replaced (h : d.Sound) (hnone : d.result.file = none) (temp) :
    AtomicFile.Fresh { d.result with temp } := fun old hold =>
  absurd (h.resultFresh old hold).2.1 (by simp [hnone])

variable {r : Response}

lemma Sound.respondCreate (h : d.Sound) (hat : d.At o.fingerprint (.write (.respond r) .create)) :
    (d.write o (.respond r) .create).Sound := by
  obtain ⟨hfile, hbacked, hnone⟩ := hat
  simp only [KeyDir.write]
  split
  · exact h.unknown
  next htemp =>
    refine h.setResult hfile (h.not_replaced hnone _) ?_ ?_ ⟨hfile, hbacked, hnone, rfl⟩
    · rintro v (hv | ⟨-, hv⟩)
      · cases hnone.symm.trans hv
      · cases hv
    · rintro v (hv | ⟨-, hv⟩)
      · cases hnone.symm.trans hv
      · exact absurd (by rw [hv]; rfl) htemp

lemma Sound.respondFill (h : d.Sound) (hat : d.At o.fingerprint (.write (.respond r) .fill)) :
    (d.write o (.respond r) .fill).Sound := by
  obtain ⟨hfile, hbacked, hnone, htemp⟩ := hat
  refine h.setResult hfile (h.not_replaced hnone _) ?_ ?_ ⟨hfile, hbacked, hnone, rfl⟩
  · rintro v (hv | ⟨-, hv⟩)
    · cases hnone.symm.trans hv
    · cases hv
      exact hbacked
  · rintro v (hv | ⟨-, hv⟩)
    · cases hnone.symm.trans hv
    · cases htemp.symm.trans hv

lemma Sound.respondRename (h : d.Sound) (hat : d.At o.fingerprint (.write (.respond r) .rename)) :
    (d.write o (.respond r) .rename).Sound := by
  obtain ⟨hfile, hbacked, hnone, htemp⟩ := hat
  have hrename : d.result.rename = ⟨none, some r.value, some none⟩ := by
    rw [AtomicFile.rename, htemp, hnone]
  simp only [KeyDir.write, hrename]
  refine h.setResult hfile ?_ ?_ ?_ ⟨hfile, rfl⟩
  · intro old hold
    cases hold
    exact ⟨rfl, rfl, rfl⟩
  · rintro v (hv | ⟨hv, -⟩)
    · cases hv
      exact hbacked
    · cases hv
  · intro v hv
    exact .inl (by rw [hv.unique (.inr ⟨hnone, htemp⟩)])

lemma Sound.respondSync (h : d.Sound) (hat : d.At o.fingerprint (.write (.respond r) .syncDir)) :
    (d.write o (.respond r) .syncDir).Sound := by
  obtain ⟨hfile, hresult⟩ := hat
  have hclaims := h.claims_eq hfile
  have hsynced : Sound { d.syncDir with lock := none } :=
    { requestFresh := nofun
      resultFresh := nofun
      claim := .inr ⟨o.fingerprint, hclaims, .inl hfile⟩
      once := h.once
      entered := fun he => ⟨(h.entered he).1, rfl⟩
      value := h.value
      completed := h.completed
      owner := nofun }
  refine hsynced.answer fun v hv => ?_
  cases r with
  | complete value =>
    cases hv
    exact ⟨.inl hresult, hclaims⟩
  | abandoned => exact absurd hv nofun

/-! ## All steps -/

lemma Sound.proceed (h : d.Sound) (hat : d.At o.fingerprint o.pc) : (d.proceed o).Sound := by
  obtain ⟨fp, pc⟩ := o
  cases pc with
  | resultExists =>
    simp only [KeyDir.proceed]
    split
    · exact h.goto trivial
    next hnone => exact h.goto (Option.not_isSome_iff_eq_none.mp hnone)
  | compareResult =>
    simp only [KeyDir.proceed]
    split
    next hfile => exact h.goto hfile
    next => exact h.unknown
  | readResult =>
    simp only [KeyDir.proceed]
    split
    next v hv =>
      refine h.answer fun v' heq => ?_
      cases heq
      exact ⟨.inl hv, h.claims_eq hat⟩
    next => exact h.unknown
  | requestExists =>
    simp only [KeyDir.proceed]
    split
    · exact h.goto hat
    next hnone => exact h.goto (Option.not_isSome_iff_eq_none.mp hnone)
  | compareRequest =>
    simp only [KeyDir.proceed]
    split
    next hfile => exact h.goto ⟨hfile, .inr rfl, hat⟩
    next => exact h.unknown
  | write purpose stage =>
    cases purpose with
    | claim =>
      cases stage with
      | create => exact h.claimCreate hat
      | fill => exact h.claimFill hat
      | rename => exact h.claimRename hat
      | syncDir => exact h.claimSync hat
    | respond r =>
      cases stage with
      | create => exact h.respondCreate hat
      | fill => exact h.respondFill hat
      | rename => exact h.respondRename hat
      | syncDir => exact h.respondSync hat
  | handler => exact h

lemma Sound.fail (h : d.Sound) (hresult : o.pc = .resultExists → d.result.file = none)
    (hrequest : o.pc = .requestExists → d.request.file = none) : (d.fail o).Sound := by
  obtain ⟨fp, pc⟩ := o
  cases pc with
  | resultExists => exact h.goto (hresult rfl)
  | requestExists => exact h.goto (hrequest rfl)
  | handler => exact h
  | _ => exact h.unknown

lemma Sound.returns (h : d.Sound) (hat : d.At o.fingerprint o.pc) (v : Json) :
    (d.returns o v).Sound := by
  obtain ⟨fp, pc⟩ := o
  cases pc with
  | handler =>
    have hmem : .returned v ∈ d.facts ++ [.returned v] := by simp
    have hrecorded : (d.record (.returned v)).Sound := h.record rfl nofun nofun
    exact hrecorded.goto (o := ⟨fp, .handler⟩) ⟨hat.1, .inl hmem, hat.2⟩
  | _ => exact h

lemma Sound.crash (h : d.Sound) (request result : Loss) : (d.crash request result).Sound where
  requestFresh := AtomicFile.fresh_crash request d.request
  resultFresh := AtomicFile.fresh_crash result d.result
  claim := by
    refine h.claim.imp (fun hun => ?_) fun ⟨fp, hfp, hholds⟩ =>
      ⟨fp, hfp, (AtomicFile.holds_crash h.requestFresh request).mpr hholds⟩
    have hreplaced : d.request.replaced = none :=
      Option.eq_none_iff_forall_ne_some.mpr fun old hold =>
        absurd (h.requestFresh old hold).2.1 (by simp [hun.request])
    refine ⟨hun.claims, ?_, ?_, hun.entered⟩
    · exact (AtomicFile.file_crash hreplaced request).trans hun.request
    · rw [KeyDir.crash, hun.result]
      rfl
  once := h.once
  entered he := by
    obtain ⟨hfile, hreplaced⟩ := h.entered he
    refine ⟨?_, AtomicFile.replaced_crash request d.request⟩
    rw [KeyDir.crash, AtomicFile.file_crash hreplaced]
    exact hfile
  value v hv := h.value v ((AtomicFile.holds_crash h.resultFresh result).mp hv)
  completed fp v hv := by
    obtain ⟨hholds, hclaims⟩ := h.completed fp v hv
    exact ⟨(AtomicFile.holds_crash h.resultFresh result).mpr hholds, hclaims⟩
  owner := nofun

end KeyDir

/-! ## Every run -/

lemma KeyDir.Sound.own (h : d.Sound)
    (hact : ∀ o, d.lock = some o → (act d o).Sound) : (d.own act).Sound := by
  unfold KeyDir.own
  split
  · exact h
  next o ho => exact hact o ho

section

variable [Platform]

lemma KeyDir.Sound.call (h : d.Sound) (request : Json) : (d.call request).Sound := by
  unfold KeyDir.call
  split
  · exact h.goto (o := ⟨fingerprint request, .resultExists⟩) trivial
  · exact h.record rfl nofun nofun

lemma submissions_sound_step (s : SubmissionStore) (e : StoreEvent) (h : ∀ key, (s key).Sound)
    (hsees : SeesFiles s e) (key : String) : (s.step e key).Sound := by
  -- an event of one key leaves the others, and a power loss is one for each key
  have hupdate : ∀ key' (d' : KeyDir), d'.Sound → (Function.update s key' d' key).Sound := by
    intro key' d' hd'
    by_cases hkey : key = key'
    · subst hkey
      rwa [Function.update_self]
    · rw [Function.update_of_ne hkey]
      exact h key
  cases e with
  | call key' request => exact hupdate key' _ ((h key').call request)
  | refuse key' request => exact hupdate key' _ ((h key').record rfl nofun nofun)
  | proceed key' =>
    apply hupdate
    exact (h key').own fun o ho => (h key').proceed ((h key').owner o ho)
  | fail key' =>
    apply hupdate
    refine (h key').own fun o ho => ?_
    simp only [SeesFiles, ho] at hsees
    obtain ⟨fp, pc⟩ := o
    refine (h key').fail ?_ ?_
    · rintro rfl
      exact hsees
    · rintro rfl
      exact hsees
  | returns key' value =>
    apply hupdate
    exact (h key').own fun o ho => (h key').returns ((h key').owner o ho) value
  | leave key' => exact hupdate key' _ (h key').unlock
  | powerLoss request result => exact (h key).crash (request key) (result key)

/-- In every run in which no look at a file that is there fails, each key is handled once. -/
theorem submissions_run_once (events : List StoreEvent)
    (h : Along SubmissionStore.step SeesFiles (fun _ => {}) events) (key : String) :
    RunsOnce (run SubmissionStore.step (fun _ => {}) events key).facts := by
  have hempty : KeyDir.Sound {} :=
    { requestFresh := nofun
      resultFresh := nofun
      claim := .inl ⟨rfl, rfl, rfl, not_mem_nil⟩
      once := Nat.zero_le 1
      entered := nofun
      value := fun v hv => by rcases hv with hv | ⟨-, hv⟩ <;> exact absurd hv nofun
      completed := nofun
      owner := nofun }
  have hsound := h.invariant (I := fun s : SubmissionStore => ∀ key, (s key).Sound)
    (fun s e hs hsees => submissions_sound_step s e hs hsees) fun _ => hempty
  exact (hsound key).runsOnce

end

/-- A claim, an entry into the handler, and the end of the process. -/
def interruptedAttempt : List StoreEvent :=
  .call "key" .null :: replicate 6 (.proceed "key") ++ [.leave "key"]

/-- The next call; its look at the marker fails. -/
def blindAttempt : List StoreEvent :=
  [.call "key" .null, .proceed "key", .fail "key"] ++ replicate 4 (.proceed "key")

theorem submissions_run_once_interrupted :
    letI := zeroPlatform
    RunsOnce (run SubmissionStore.step (fun _ => {}) interruptedAttempt "key").facts :=
  let _ := zeroPlatform
  submissions_run_once interruptedAttempt (by simp [interruptedAttempt, Along, SeesFiles]) "key"

theorem blind_attempt_enters_twice :
    letI := zeroPlatform
    (run SubmissionStore.step (fun _ => {}) (interruptedAttempt ++ blindAttempt) "key").facts.count
      .entered = 2 := by
  decide +kernel

end AgentCore.CodingHarness
