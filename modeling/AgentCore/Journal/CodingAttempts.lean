import AgentCore.Journal.CodingSubmissions

/-! The law of submission attempts over whole runs: a message's attempts are numbered from
one, only the last can be anything but rejected, and each finished attempt has one terminal
event. -/

namespace AgentCore.Journal

open Foundation Domain List SqlTable

/-! ## The order of a message's attempts -/

variable {rows : List CodingTaskSubmissionRow} {row : CodingTaskSubmissionRow} {s s' : CodingDb}
  {before : Nat} {q : ClaimRequest} {now : Timestamp} {e : JournalRow} {o : SubmissionOutcome}

structure Ordered (rows : List CodingTaskSubmissionRow) : Prop where
  sequences : rows.map (·.attemptSequence) = range' 1 rows.length
  rejected : ∀ r ∈ rows.dropLast, r.status = .definitivelyRejected

lemma Ordered.argmax (h : Ordered rows) : rows.argmax (·.attemptSequence) = rows.getLast? := by
  rcases eq_nil_or_concat' rows with rfl | ⟨init, last, rfl⟩
  · rfl
  · have hlt : ((init ++ [last]).map (·.attemptSequence)).Pairwise (· < ·) := by
      rw [h.sequences]
      exact pairwise_lt_range'
    rw [argmax_concat, getLast?_concat]
    cases hmax : init.argmax (·.attemptSequence) with
    | none => rfl
    | some c =>
      have hc : c.attemptSequence < last.attemptSequence := by
        rw [map_append, pairwise_append] at hlt
        exact hlt.2.2 _ (mem_map_of_mem (argmax_mem hmax)) _ (by simp)
      exact if_pos hc

lemma Ordered.sequence_eq {sequence : Nat} (h : Ordered rows)
    (hnext : nextAttemptSequence (rows.argmax (·.attemptSequence)) = .ok sequence) :
    sequence = rows.length + 1 ∧ ∀ r ∈ rows, r.status = .definitivelyRejected := by
  rw [h.argmax] at hnext
  rcases eq_nil_or_concat' rows with rfl | ⟨init, last, rfl⟩
  · exact ⟨(Except.ok.inj hnext).symm, by simp⟩
  · rw [getLast?_concat] at hnext
    have hlast : last.attemptSequence = init.length + 1 := by
      have hseq := congrArg getLast? h.sequences
      rw [map_append, map_singleton, getLast?_concat, length_append,
        length_singleton, range'_concat, getLast?_concat] at hseq
      have := Option.some.inj hseq
      omega
    simp only [nextAttemptSequence] at hnext
    split at hnext
    · cases hnext
    · cases hnext
    · cases hnext
    · next hstatus =>
      refine ⟨?_, fun r hr => ?_⟩
      · rw [← Except.ok.inj hnext, hlast, length_append, length_singleton]
      · rcases mem_append.mp hr with hinit | hr
        · exact h.rejected r (by rwa [dropLast_concat])
        · rw [mem_singleton.mp hr]
          exact hstatus

lemma Ordered.concat (h : Ordered rows) (hsequence : row.attemptSequence = rows.length + 1)
    (hrejected : ∀ r ∈ rows, r.status = .definitivelyRejected) : Ordered (rows ++ [row]) := by
  refine ⟨?_, ?_⟩
  · rw [map_append, h.sequences, map_singleton, hsequence, length_append,
      length_singleton, range'_concat]
    simp [Nat.add_comm]
  · rw [dropLast_concat]
    exact hrejected

lemma Ordered.finish (h : Ordered rows) (hrunning : row.status = .running)
    (hsequence : row'.attemptSequence = row.attemptSequence) :
    Ordered (rows.map fun r => if r = row then row' else r) := by
  refine ⟨?_, fun r hr => ?_⟩
  · rw [length_map, ← h.sequences, map_map]
    refine map_congr_left fun r _ => ?_
    by_cases hrow : r = row
    · simp [hrow, hsequence]
    · simp [hrow]
  · rw [← map_dropLast] at hr
    obtain ⟨r', hr', rfl⟩ := mem_map.mp hr
    have hrejected := h.rejected r' hr'
    rw [if_neg]
    · exact hrejected
    · rintro rfl
      rw [hrunning] at hrejected
      cases hrejected

lemma Ordered.length_open_le_one (h : Ordered rows) :
    (rows.filter fun r => r.status = .running ∨ r.status = .succeeded).length ≤ 1 := by
  rcases eq_nil_or_concat' rows with rfl | ⟨init, last, rfl⟩
  · simp
  · have hinit : init.filter (fun r => r.status = .running ∨ r.status = .succeeded) = [] := by
      refine filter_eq_nil_iff.mpr fun r hr => ?_
      rw [h.rejected r (by rwa [dropLast_concat])]
      decide
    rw [filter_append, hinit, nil_append]
    exact length_filter_le _ _

/-! ## The law -/

def terminalKinds : List String :=
  [JournalEventKind.receiptReceived.storageName,
    JournalEventKind.codingSubmissionOutcomeUnknown.storageName]

def CodingDb.terminalFacts (s : CodingDb) (before : Nat) (invocationId : InvocationId) :
    List (String × String) :=
  ((s.journal.rows.drop before).filter fun e =>
    decide (e.correlationId = some invocationId ∧ e.kind ∈ terminalKinds)).map
      fun e => (e.kind, e.payloadJson)

def CodingTaskSubmissionRow.FinishedBy (r : CodingTaskSubmissionRow) (o : SubmissionOutcome) :
    Prop :=
  r.status = o.status ∧ r.resultJson = o.resultJson ∧ r.errorCode = o.errorCode

/-- The attempt runs and has no terminal event, or it is finished and has the one of its
outcome. -/
def OneTerminal (r : CodingTaskSubmissionRow) (facts : List (String × String)) : Prop :=
  (r.status = .running ∧ facts = []) ∨
    ∃ o : SubmissionOutcome, r.FinishedBy o ∧
      facts = [(o.kind.storageName, (o.payload r.attemptId r.invocationId).toText)]

structure SubmissionLaw (before : Nat) (s : CodingDb) : Prop where
  ordered : ∀ m, Ordered (s.attempts m)
  terminal : ∀ r ∈ s.submissions, OneTerminal r (s.terminalFacts before r.invocationId)
  stranger : ∀ id, (∀ r ∈ s.submissions, r.invocationId ≠ id) → s.terminalFacts before id = []
  grown : before ≤ s.journal.rows.length

lemma terminalFacts_append (hgrown : before ≤ s.journal.rows.length)
    (h : s'.journal.rows = s.journal.rows ++ es) (id : InvocationId) :
    s'.terminalFacts before id = s.terminalFacts before id ++
      (es.filter fun e => decide (e.correlationId = some id ∧ e.kind ∈ terminalKinds)).map
        fun e => (e.kind, e.payloadJson) := by
  rw [CodingDb.terminalFacts, h, drop_append_of_le_length hgrown, filter_append,
    map_append]
  rfl

lemma terminalFacts_of_kinds (hgrown : before ≤ s.journal.rows.length)
    (h : s'.journal.rows = s.journal.rows ++ es) (hkinds : ∀ e ∈ es, e.kind ∉ terminalKinds)
    (id : InvocationId) : s'.terminalFacts before id = s.terminalFacts before id := by
  have hnone : es.filter
      (fun e => decide (e.correlationId = some id ∧ e.kind ∈ terminalKinds)) = [] := by
    refine filter_eq_nil_iff.mpr fun e he => ?_
    simpa using fun _ => hkinds e he
  rw [terminalFacts_append hgrown h, hnone, map_nil, append_nil]

lemma attempts_append (h : s'.submissions.rows = s.submissions.rows ++ [row]) (m : String) :
    s'.attempts m = s.attempts m ++ if row.sourceMessageId = m then [row] else [] := by
  rw [CodingDb.attempts, h, filter_append, filter_singleton]
  congr 1
  by_cases hm : row.sourceMessageId = m <;> simp [hm]

lemma SubmissionLaw.claim {sequence : Nat} (hs : SubmissionLaw before s)
    (hnext : nextAttemptSequence ((s.attempts q.sourceMessageId).argmax (·.attemptSequence)) = .ok sequence)
    (hrows : s'.submissions.rows = s.submissions.rows ++ [newAttempt q sequence now])
    (hjournal : s'.journal.rows = s.journal.rows ++ [e, f])
    (he : e.kind = JournalEventKind.invocationProposed.storageName)
    (hf : f.kind = JournalEventKind.invocationApproved.storageName) : SubmissionLaw before s' := by
  have hfacts : ∀ id, s'.terminalFacts before id = s.terminalFacts before id := by
    refine terminalFacts_of_kinds hs.grown hjournal fun g hg => ?_
    rcases mem_pair.mp hg with rfl | rfl
    · rw [he]
      decide
    · rw [hf]
      decide
  -- The table's key keeps the invocation id new.
  have hfresh : ∀ r ∈ s.submissions, r.invocationId ≠ q.proposedInvocationId := by
    intro r hr heq
    have hpair := s'.submissions.keeps.2
    rw [hrows, pairwise_append] at hpair
    refine hpair.2.2 r hr _ (mem_singleton_self _) ⟨fun r => some r.invocationId⟩ ?_ ?_
    · simp [codingTaskSubmissions]
    · exact ⟨Option.some_ne_none _, congrArg some heq⟩
  refine ⟨fun m => ?_, fun r hr => ?_, fun id hid => ?_, ?_⟩
  · rw [attempts_append hrows]
    by_cases hm : (newAttempt q sequence now).sourceMessageId = m
    · rw [if_pos hm]
      subst hm
      obtain ⟨hsequence, hrejected⟩ := (hs.ordered q.sourceMessageId).sequence_eq hnext
      exact (hs.ordered _).concat hsequence hrejected
    · rw [if_neg hm, append_nil]
      exact hs.ordered m
  · rw [hfacts]
    rw [mem_rows, hrows, mem_append, mem_singleton] at hr
    rcases hr with hr | rfl
    · exact hs.terminal r hr
    · exact .inl ⟨rfl, hs.stranger _ hfresh⟩
  · rw [hfacts]
    refine hs.stranger id fun r hr => hid r ?_
    rw [mem_rows, hrows]
    exact mem_append_left _ hr
  · rw [hjournal, length_append]
    exact Nat.le_add_right_of_le hs.grown

lemma attempts_map
    (h : s'.submissions.rows = s.submissions.rows.map fun r => if r = row then row' else r)
    (hsource : row'.sourceMessageId = row.sourceMessageId) (m : String) :
    s'.attempts m = (s.attempts m).map fun r => if r = row then row' else r := by
  rw [CodingDb.attempts, h, filter_map]
  congr 1
  refine filter_congr fun r _ => ?_
  by_cases hr : r = row
  · simp [hr, hsource]
  · simp [hr]

lemma terminalFacts_finish
    (hgrown : before ≤ s.journal.rows.length) (h : s'.journal.rows = s.journal.rows ++ [e])
    (hkind : e.kind = o.kind.storageName) (hown : e.correlationId = some own)
    (hpayload : e.payloadJson = (o.payload attemptId own).toText) (id : InvocationId) :
    s'.terminalFacts before id = s.terminalFacts before id ++
      if own = id then [(o.kind.storageName, (o.payload attemptId own).toText)] else [] := by
  have hterminal : e.kind ∈ terminalKinds := by
    rw [hkind]
    cases o <;> simp [terminalKinds, SubmissionOutcome.kind]
  rw [terminalFacts_append hgrown h, filter_singleton]
  congr 1
  by_cases hid : own = id
  · simp [hid, hown, hterminal, ← hkind, hpayload]
  · simp [hid, hown]

lemma SubmissionLaw.finish (hs : SubmissionLaw before s) (hrow : row ∈ s.submissions)
    (hrunning : row.status = .running)
    (hrows : s'.submissions.rows = s.submissions.rows.map fun r => if r = row then finishAttempt o now row else r)
    (hjournal : s'.journal.rows = s.journal.rows ++ [e]) (hkind : e.kind = o.kind.storageName)
    (hown : e.correlationId = some row.invocationId)
    (hpayload : e.payloadJson = (o.payload row.attemptId row.invocationId).toText) :
    SubmissionLaw before s' := by
  have hfacts := terminalFacts_finish hs.grown hjournal hkind hown hpayload
  refine ⟨fun m => ?_, fun r hr => ?_, fun id hid => ?_, ?_⟩
  · rw [attempts_map hrows rfl]
    exact (hs.ordered m).finish hrunning rfl
  · rw [mem_rows, hrows] at hr
    obtain ⟨r', hr', rfl⟩ := mem_map.mp hr
    by_cases heq : r' = row
    · subst heq
      have hnone : s.terminalFacts before r'.invocationId = [] := by
        rcases hs.terminal r' hrow with ⟨-, hnone⟩ | ⟨o', ⟨hstatus, -⟩, -⟩
        · exact hnone
        · rw [hrunning] at hstatus
          cases o' <;> cases hstatus
      rw [if_pos rfl, hfacts]
      refine .inr ⟨o, ⟨rfl, rfl, rfl⟩, ?_⟩
      rw [show (finishAttempt o now r').invocationId = r'.invocationId from rfl, hnone, if_pos rfl]
      rfl
    · have hother : row.invocationId ≠ r'.invocationId := by
        intro hsame
        refine heq (eq_of_clash (u := ⟨fun r => some r.invocationId⟩) ?_ hr' hrow ?_)
        · simp [codingTaskSubmissions]
        · exact ⟨Option.some_ne_none _, congrArg some hsame.symm⟩
      rw [if_neg heq, hfacts, if_neg hother, append_nil]
      exact hs.terminal r' hr'
  · have hstored : ∀ r ∈ s.submissions, r.invocationId ≠ id := by
      intro r hr
      have hmem : (if r = row then finishAttempt o now row else r) ∈ s'.submissions := by
        rw [mem_rows, hrows]
        exact mem_map_of_mem hr
      have hne := hid _ hmem
      by_cases heq : r = row
      · subst heq
        rwa [if_pos rfl] at hne
      · rwa [if_neg heq] at hne
    rw [hfacts, hs.stranger id hstored, if_neg (hstored row hrow)]
    rfl
  · rw [hjournal, length_append]
    exact Nat.le_add_right_of_le hs.grown

lemma byCallKey_of_mem (hrow : row ∈ s.submissions)
    (hkey : row.submissionCallKey = key) : s.byCallKey key = some row := by
  cases hfind : s.byCallKey key with
  | none => exact absurd (find?_eq_none.mp hfind row hrow) (by simpa using hkey)
  | some found =>
    have hmem : found ∈ s.submissions := mem_of_find?_eq_some hfind
    have hfound : found.submissionCallKey = key := by simpa using find?_some hfind
    rw [eq_of_clash (u := ⟨fun r => some r.submissionCallKey⟩) (by simp [codingTaskSubmissions])
      hmem hrow ⟨Option.some_ne_none _, congrArg some (hfound.trans hkey.symm)⟩]

section Attempts

variable [Platform]

/-! ## What one call does -/

lemma claimCodingTaskSubmission_cases
    (h : claimCodingTaskSubmission q now proposed approved s = .ok (claim, s')) :
    s' = s ∨ ∃ sequence,
      nextAttemptSequence ((s.attempts q.sourceMessageId).argmax (·.attemptSequence)) =
        .ok sequence ∧ s'.submissions.rows = s.submissions.rows ++ [newAttempt q sequence now] ∧
      ∃ e f : JournalRow, s'.journal.rows = s.journal.rows ++ [e, f] ∧
        e.kind = JournalEventKind.invocationProposed.storageName ∧
        f.kind = JournalEventKind.invocationApproved.storageName ∧
        e.correlationId = some q.proposedInvocationId ∧
        f.correlationId = some q.proposedInvocationId := by
  obtain ⟨_, -, h⟩ := bind_eq_ok.mp h
  split at h
  · obtain ⟨_, -, h⟩ := bind_eq_ok.mp h
    exact .inl (Prod.mk.inj (return_eq_ok.mp h)).2.symm
  · obtain ⟨sequence, hsequence, h⟩ := bind_eq_ok.mp h
    split at h
    · exact absurd h throw_ne_ok
    · next submissions hinsert =>
      obtain ⟨db, hdb, h⟩ := bind_eq_ok.mp h
      obtain ⟨db', hdb', ⟨⟩⟩ := bind_eq_ok.mp h
      obtain ⟨journal, rfl, hrows, -⟩ := Db.append_eq_ok hdb
      obtain ⟨journal', rfl, hrows', -⟩ := Db.append_eq_ok hdb'
      rw [hrows, append_assoc, singleton_append] at hrows'
      exact .inr ⟨sequence, hsequence, insert_eq_some.mp hinsert, _, _, hrows',
        newRow_kind .., newRow_kind .., newRow_correlationId .., newRow_correlationId ..⟩

lemma finishCodingTaskSubmission_cases {q : FinishRequest}
    (h : finishCodingTaskSubmission q now stamp s = .ok s') :
    s' = s ∨ ∃ row ∈ s.submissions, row.status = .running ∧
      s'.submissions.rows = s.submissions.rows.map
        (fun r => if r = row then finishAttempt q.outcome now row else r) ∧
      ∃ e : JournalRow, s'.journal.rows = s.journal.rows ++ [e] ∧
        e.kind = q.outcome.kind.storageName ∧ e.correlationId = some row.invocationId ∧
        e.payloadJson = (q.outcome.payload row.attemptId row.invocationId).toText := by
  unfold finishCodingTaskSubmission at h
  split at h
  · cases h
  · next row hfind =>
    have hmem : row ∈ s.submissions := mem_of_find?_eq_some hfind
    obtain ⟨hattempt, hinvocation⟩ : row.attemptId = q.attemptId ∧
        row.invocationId = q.invocationId := by
      simpa [FinishRequest.names] using find?_some hfind
    split_ifs at h with hsame hdata hrunning hcount
    · exact .inl (Except.ok.inj h).symm
    · obtain ⟨db, -, h⟩ := bind_eq_ok.mp h
      split at h <;> exact absurd h throw_ne_ok
    · obtain ⟨db, hdb, h⟩ := bind_eq_ok.mp h
      split at h
      · exact absurd h throw_ne_ok
      · next submissions hupdate =>
        cases h
        obtain ⟨journal, rfl, hrows, -⟩ := Db.append_eq_ok hdb
        have hstatus : row.status = .running := not_not.mp hrunning
        refine .inr ⟨row, hmem, hstatus, ?_, _, hrows, newRow_kind .., ?_, ?_⟩
        · rw [update_eq_some.mp hupdate]
          refine map_congr_left fun r hr => ?_
          -- The attempt id is a key, so the guard holds of this row alone.
          by_cases hrow : r = row
          · subst hrow
            rw [if_pos rfl, if_pos (by simp [FinishRequest.open, FinishRequest.names, *])]
          · rw [if_neg hrow, if_neg]
            intro hopen
            obtain ⟨⟨hkey, -⟩, -⟩ := by
              simpa [FinishRequest.open, FinishRequest.names] using hopen
            refine hrow (eq_of_clash (u := ⟨fun r => some r.attemptId⟩) ?_ hr hmem ?_)
            · exact mem_cons_self
            · exact ⟨Option.some_ne_none _, congrArg some (hkey.trans hattempt.symm)⟩
        · rw [newRow_correlationId, hinvocation]
        · rw [newRow_payloadJson, hattempt, hinvocation]

/-! ## Whole runs -/

inductive SubmissionAct
  | claim (q : ClaimRequest) (now : Timestamp) (proposed approved : Stamp)
  | finish (q : FinishRequest) (now : Timestamp) (stamp : Stamp)

def submissionStep (s : CodingDb) : SubmissionAct → CodingDb
  | .claim q now proposed approved =>
    commit s ((claimCodingTaskSubmission q now proposed approved s).map Prod.snd)
  | .finish q now stamp => commit s (finishCodingTaskSubmission q now stamp s)

lemma SubmissionLaw.step (hs : SubmissionLaw before s) (a : SubmissionAct) :
    SubmissionLaw before (submissionStep s a) := by
  cases a with
  | claim q now proposed approved =>
    simp only [submissionStep]
    cases h : claimCodingTaskSubmission q now proposed approved s with
    | error e => exact hs
    | ok p =>
      rcases claimCodingTaskSubmission_cases h with hsame |
        ⟨sequence, hnext, hrows, e, f, hjournal, he, hf, -⟩
      · exact (show p.2 = s from hsame) ▸ hs
      · exact hs.claim hnext hrows hjournal he hf
  | finish q now stamp =>
    simp only [submissionStep]
    cases h : finishCodingTaskSubmission q now stamp s with
    | error e => exact hs
    | ok s' =>
      rcases finishCodingTaskSubmission_cases h with rfl |
        ⟨row, hrow, hrunning, hrows, e, hjournal, hkind, hown, hpayload⟩
      · exact hs
      · exact hs.finish hrow hrunning hrows hjournal hkind hown hpayload

lemma mem_submissionStep {r : CodingTaskSubmissionRow} (hr : r ∈ s.submissions)
    (hfinished : r.status ≠ .running) (a : SubmissionAct) :
    r ∈ (submissionStep s a).submissions := by
  cases a with
  | claim q now proposed approved =>
    simp only [submissionStep]
    cases h : claimCodingTaskSubmission q now proposed approved s with
    | error e => exact hr
    | ok p =>
      rcases claimCodingTaskSubmission_cases h with hsame | ⟨sequence, -, hrows, -⟩
      · exact (show p.2 = s from hsame) ▸ hr
      · exact mem_rows.mpr (hrows ▸ mem_append_left _ hr)
  | finish q now stamp =>
    simp only [submissionStep]
    cases h : finishCodingTaskSubmission q now stamp s with
    | error e => exact hr
    | ok s' =>
      rcases finishCodingTaskSubmission_cases h with rfl | ⟨row, -, hrunning, hrows, -⟩
      · exact hr
      · rw [commit_ok, mem_rows, hrows]
        refine mem_map.mpr ⟨r, hr, if_neg ?_⟩
        rintro rfl
        exact hfinished hrunning

/-! ## A call key used again -/

structure AnswersExisting (q : ClaimRequest) (row : CodingTaskSubmissionRow) (s : CodingDb)
    (answer : Except String (CodingTaskSubmissionClaim × CodingDb)) : Prop where
  nothing : ∀ claim s', answer = .ok (claim, s') → s' = s
  conflict : row.sourceMessageId ≠ q.sourceMessageId ∨ row.requestDigest ≠ q.requestDigest →
    answer = .error "CODING_SUBMISSION_REPLAY_IDENTITY_CONFLICT"
  running : row.sourceMessageId = q.sourceMessageId → row.requestDigest = q.requestDigest →
    row.status = .running → answer = .ok (.inProgress row.attemptId row.invocationId, s)
  succeeded : row.sourceMessageId = q.sourceMessageId → row.requestDigest = q.requestDigest →
    ∀ result : Json, row.FinishedBy (.complete result) →
      result.wf Platform.readFloat = true → result.nesting ≤ 127 →
      answer = .ok (.succeeded row.invocationId result, s)
  rejected : row.sourceMessageId = q.sourceMessageId → row.requestDigest = q.requestDigest →
    ∀ code, row.FinishedBy (.reject code) → answer = .ok (.definitivelyRejected code, s)
  unknown : row.sourceMessageId = q.sourceMessageId → row.requestDigest = q.requestDigest →
    row.status = .outcomeUnknown → answer = .error "CODING_SUBMISSION_OUTCOME_UNKNOWN"

lemma claimCodingTaskSubmission_of_used (hcheck : checkClaim q = .ok ())
    (hrow : row ∈ s.submissions) (hkey : row.submissionCallKey = q.submissionCallKey)
    (now : Timestamp) (proposed approved : Stamp) :
    claimCodingTaskSubmission q now proposed approved s =
      (replayClaim q row).map fun claim => (claim, s) := by
  rw [claimCodingTaskSubmission, hcheck, byCallKey_of_mem hrow hkey]
  change (replayClaim q row >>= fun claim => pure (claim, s)) = _
  cases replayClaim q row with
  | error e => rfl
  | ok claim => rfl

lemma answersExisting (s : CodingDb) :
    AnswersExisting q row s ((replayClaim q row).map fun claim => (claim, s)) where
  nothing claim s' h := by
    cases hreplay : replayClaim q row with
    | error e =>
      rw [hreplay] at h
      cases h
    | ok c =>
      rw [hreplay] at h
      exact (Prod.mk.inj (Except.ok.inj h)).2.symm
  conflict h := by
    rw [replayClaim, if_pos h]
    rfl
  running hsource hdigest hstatus := by
    rw [replayClaim, if_neg (by simp [hsource, hdigest]), hstatus]
    rfl
  succeeded hsource hdigest result hfinished hwf hnesting := by
    have hread := fromStr_toText hwf hnesting
    rw [replayClaim, if_neg (by simp [hsource, hdigest]), hfinished.1, hfinished.2.1]
    simp only [SubmissionOutcome.status, SubmissionOutcome.resultJson, hread]
    rfl
  rejected hsource hdigest code hfinished := by
    rw [replayClaim, if_neg (by simp [hsource, hdigest]), hfinished.1, hfinished.2.2]
    rfl
  unknown hsource hdigest hstatus := by
    rw [replayClaim, if_neg (by simp [hsource, hdigest]), hstatus]
    rfl

/-- In every run from an empty submissions table: a message's attempts are numbered from one,
only the last is not rejected, at most one runs or has succeeded, each finished one has the
one terminal event of its outcome and stays as it is, and a used call key creates nothing. -/
theorem coding_submission_attempts {s₀ : CodingDb} (hnew : s₀.submissions.rows = [])
    (as : List SubmissionAct) :
    let s := run submissionStep s₀ as
    (∀ m, (s.attempts m).map (·.attemptSequence) = range' 1 (s.attempts m).length ∧
      (∀ r ∈ (s.attempts m).dropLast, r.status = .definitivelyRejected) ∧
      ((s.attempts m).filter fun r => r.status = .running ∨ r.status = .succeeded).length ≤ 1) ∧
    (∀ r ∈ s.submissions,
      OneTerminal r (s.terminalFacts s₀.journal.rows.length r.invocationId)) ∧
    (∀ r ∈ s.submissions, r.status ≠ .running →
      ∀ bs, r ∈ (run submissionStep s bs).submissions) ∧
    ∀ (q : ClaimRequest) (row : CodingTaskSubmissionRow) (now : Timestamp)
      (proposed approved : Stamp), checkClaim q = .ok () → row ∈ s.submissions →
      row.submissionCallKey = q.submissionCallKey →
      AnswersExisting q row s (claimCodingTaskSubmission q now proposed approved s) := by
  intro s
  have hstart : SubmissionLaw s₀.journal.rows.length s₀ := by
    refine ⟨fun m => ?_, fun r hr => ?_, fun id _ => ?_, le_rfl⟩
    · rw [CodingDb.attempts, hnew]
      exact ⟨rfl, by simp⟩
    · rw [mem_rows, hnew] at hr
      cases hr
    · rw [CodingDb.terminalFacts, drop_length]
      rfl
  have hlaw : SubmissionLaw s₀.journal.rows.length s :=
    run_invariant (fun _ a h => h.step a) as hstart
  refine ⟨fun m => ⟨(hlaw.ordered m).sequences, (hlaw.ordered m).rejected,
    (hlaw.ordered m).length_open_le_one⟩, hlaw.terminal, fun r hr hfinished bs => ?_,
    fun q row now proposed approved hcheck hrow hkey => ?_⟩
  · exact run_invariant (I := fun s : CodingDb => r ∈ s.submissions)
      (fun _ a h => mem_submissionStep h hfinished a) bs hr
  · rw [claimCodingTaskSubmission_of_used hcheck hrow hkey]
    exact answersExisting s

end Attempts

/-! ## One attempt -/

def sampleClaim (sourceMessageId : String) : ClaimRequest where
  sourceMessageId
  submissionCallKey := "call"
  requestDigest := "sha256:" ++ String.ofList (replicate 64 'a')
  proposedAttemptId := "attempt"
  proposedInvocationId := "invocation"
  runId := "run"
  sessionId := "session"
  decisionId := "decision"

def sampleUnknown : List SubmissionAct :=
  [.claim (sampleClaim "message") 0 ⟨"event_1", 0⟩ ⟨"event_2", 0⟩,
    .finish ⟨"attempt", "invocation", .unknown⟩ 1 ⟨"event_3", 1⟩]

/-- A used call key is answered with an error when the attempt's outcome is unknown, and when
the message is another one. -/
theorem claim_of_used_key_refused :
    letI := samplePlatform
    let s := run submissionStep {} sampleUnknown
    (s.submissions.rows.map fun r => (r.submissionCallKey, r.status)) =
        [("call", .outcomeUnknown)] ∧
      (claimCodingTaskSubmission (sampleClaim "message") 2 ⟨"event_4", 2⟩ ⟨"event_5", 2⟩
        s).toOption.isNone = true ∧
      (claimCodingTaskSubmission (sampleClaim "other") 2 ⟨"event_4", 2⟩ ⟨"event_5", 2⟩
        s).toOption.isNone = true := by
  decide +kernel

theorem coding_submission_attempts_sampleUnknown :
    letI := samplePlatform
    let s := run submissionStep {} sampleUnknown
    ({} : CodingDb).submissions.rows = [] ∧ s.submissions.rows.length = 1 ∧
      ∀ r ∈ s.submissions, OneTerminal r (s.terminalFacts 0 r.invocationId) :=
  letI := samplePlatform
  ⟨rfl, by decide +kernel, (@coding_submission_attempts samplePlatform {} rfl sampleUnknown).2.1⟩

end AgentCore.Journal
