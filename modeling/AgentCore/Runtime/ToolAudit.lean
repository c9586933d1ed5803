import AgentCore.Runtime.ToolAuthority

/-! The audit of a tool call: a call that answers the model has recorded that it was issued,
and then either its rejection alone or its proposal, its approval and one receipt, with
whatever it contacted between the approval and the receipt. -/

namespace AgentCore.Runtime

open Foundation Foundation.Traced List
open Registry Journal Adapters Gateway
open Domain hiding OperationSpec RegistrySnapshot

/-! ## The two sequences -/

variable {s s' : ToolStore} {id answer : String} {kind : JournalEventKind} {runId : RunId}
  {sessionId : SessionId} {correlationId : Option String} {payload : Json} {row : JournalRow}
  {t : List ToolAct}

def IsRow (kind : JournalEventKind) (correlationId : Option String) (act : ToolAct) : Prop :=
  ∃ row, act = .wrote row ∧ row.kind = kind.storageName ∧ row.correlationId = correlationId

def ForeignRow (id : InvocationId) (row : JournalRow) : Prop :=
  row.correlationId ≠ some id ∧ row.kind ≠ JournalEventKind.toolCallIssued.storageName ∧
    row.kind ≠ JournalEventKind.toolCallRejected.storageName

def Foreign (id : InvocationId) (act : ToolAct) : Prop := ∀ row, act = .wrote row → ForeignRow id row

def RejectedSequence (id : InvocationId) (rest : List ToolAct) : Prop :=
  (∃ a, rest = [a] ∧ IsRow .toolCallRejected none a) ∨
    ∃ p a, rest = [p, a] ∧ IsRow .invocationProposed (some id) p ∧
      IsRow .toolCallRejected (some id) a

/-- Proposal, approval and one receipt of the invocation; what lies between the approval and
the receipt has at most one contact, and no row of the invocation. -/
def AnsweredSequence (id : InvocationId) (rest : List ToolAct) : Prop :=
  ∃ p a between r, rest = p :: a :: (between ++ [r]) ∧ IsRow .invocationProposed (some id) p ∧
    IsRow .invocationApproved (some id) a ∧ IsRow .receiptReceived (some id) r ∧
    (∀ act ∈ between, Foreign id act) ∧ between.countP ToolAct.isContact ≤ 1

lemma not_rejected_and_answered (hr : RejectedSequence id rest) : ¬ AnsweredSequence id rest := by
  rintro ⟨p, a, between, r, rfl, -⟩
  rcases hr with ⟨_, h, -⟩ | ⟨_, _, h, -⟩
  · simp at h
  · simp at h

/-! ## The identities of attempts -/

def AttemptIds (s : ToolStore) : Prop :=
  ∀ r ∈ s.submissions.rows, ∃ uuid, r.invocationId = "attempt_" ++ uuid

lemma attempt_ne_invocation (uuid : String) (I : ToolInput) :
    "attempt_" ++ uuid ≠ invocationIdOf I := by
  intro h
  have hhead := congrArg (fun id : String => id.toList.head?) h
  simp [invocationIdOf] at hhead

lemma proposal_ne_invocation (uuid : String) (I : ToolInput) :
    "proposal_" ++ uuid ≠ invocationIdOf I := by
  intro h
  have hhead := congrArg (fun id : String => id.toList.head?) h
  simp [invocationIdOf] at hhead

/-! ## What the dispatch can do -/

def Extends (id : InvocationId) (s s' : ToolStore) : Prop :=
  ∃ added, s'.journal.rows = s.journal.rows ++ added ∧
    (AttemptIds s → AttemptIds s' ∧ ∀ row ∈ added, ForeignRow id row)

lemma Extends.refl (id : InvocationId) (s : ToolStore) : Extends id s s :=
  ⟨[], (append_nil _).symm, fun hs => ⟨hs, fun _ h => absurd h not_mem_nil⟩⟩

/-- A part of the dispatch: it keeps the identities of attempts, does only what is foreign to
the invocation, and makes at most `n` contacts. -/
structure Within {ε α : Type} (id : InvocationId) (n : Nat) (x : Tool ε α) : Prop where
  safe : Safe AttemptIds (Foreign id) x
  labels : Labels Grows x
  contacts : AtMost ToolAct.isContact n x

section Rules

variable {ε ε' α β : Type} {id : InvocationId} {m n : Nat} {x : Tool ε α} {f : α → Tool ε β}

lemma within_done (a : α) : Within id 0 (done a : Tool ε α) :=
  ⟨safe_done a, fun s => composes_grows.refl s, fun _ => Nat.le_refl 0⟩

lemma within_stop (e : ε) : Within id 0 (stop e : Tool ε α) :=
  ⟨safe_stop e, fun s => composes_grows.refl s, fun _ => Nat.le_refl 0⟩

lemma within_reads (query : ToolStore → Except ε α) : Within id 0 (reads query : Tool ε α) :=
  ⟨safe_reads query, fun s => composes_grows.refl s, fun _ => Nat.le_refl 0⟩

lemma within_ofExcept (r : Except ε α) : Within id 0 (ofExcept r : Tool ε α) := by
  cases r with
  | error e => exact within_stop e
  | ok a => exact within_done a

lemma within_does (h : act.row? = none) : Within id 1 (does act : Tool ε Unit) where
  safe := by
    apply safe_does
    rintro row rfl
    cases h
  labels s := by
    rw [Grows, does, filterMap_cons, h]
    exact (append_nil _).symm
  contacts := atMost_does act

lemma within_submitting : Within id 0 (does (.submitting request) : Tool ε Unit) where
  safe := (within_does rfl).safe
  labels := (@within_does ε id _ rfl).labels
  contacts := fun _ => Nat.le_refl 0

lemma within_commits {tx : ToolStore → Except ε (α × ToolStore)}
    (h : ∀ s a s', tx s = .ok (a, s') → Extends id s s') : Within id 0 (commits wroteRows tx) where
  safe := by
    refine safe_commits fun s a s' hs htx => ?_
    obtain ⟨added, hrows, hforeign⟩ := h s a s' htx
    obtain ⟨hs', hadded⟩ := hforeign hs
    refine ⟨hs', fun act hact => ?_⟩
    rw [wroteRows_of_append hrows] at hact
    obtain ⟨row, hrow, rfl⟩ := mem_map.mp hact
    rintro _ ⟨⟩
    exact hadded row hrow
  labels := by
    refine labels_commits composes_grows fun s a s' htx => ?_
    obtain ⟨added, hrows, -⟩ := h s a s' htx
    exact grows_of_append hrows
  contacts := by
    apply atMost_of_safe
    refine safe_commits fun s a s' _ htx => ⟨trivial, fun act hact => ?_⟩
    obtain ⟨row, -, rfl⟩ := mem_map.mp hact
    rfl

lemma Within.mono (h : Within id m x) (hmn : m ≤ n) : Within id n x :=
  ⟨h.safe, h.labels, h.contacts.mono hmn⟩

lemma Within.bind (hx : Within id m x) (hf : ∀ a, Within id n (f a)) :
    Within id (m + n) (x >>= f) where
  safe := hx.safe.bind fun _ a _ _ => (hf a).safe
  labels := hx.labels.bind composes_grows fun a => (hf a).labels
  contacts := hx.contacts.bind fun a => (hf a).contacts

lemma Within.quiet_bind (hx : Within id 0 x) (hf : ∀ a, Within id n (f a)) :
    Within id n (x >>= f) :=
  (hx.bind hf).mono (Nat.zero_add n).le

lemma Within.bind_quiet (hx : Within id n x) (hf : ∀ a, Within id 0 (f a)) :
    Within id n (x >>= f) := hx.bind hf

lemma Within.attempt (hx : Within id n x) : Within id n (attempt x : Tool ε' (Except ε α)) :=
  ⟨hx.safe.attempt, hx.labels.attempt, hx.contacts.attempt⟩

end Rules

/-! ## The coding path -/

lemma kind_ne (o : SubmissionOutcome) :
    o.kind.storageName ≠ JournalEventKind.toolCallIssued.storageName ∧
      o.kind.storageName ≠ JournalEventKind.toolCallRejected.storageName := by
  have hkind : o.kind = .receiptReceived ∨ o.kind = .codingSubmissionOutcomeUnknown := by
    cases o with
    | complete _ | reject _ => exact .inl rfl
    | unknown => exact .inr rfl
  rcases hkind with h | h
  · rw [h]
    exact ⟨by decide, by decide⟩
  · rw [h]
    exact ⟨by decide, by decide⟩

section Coding

variable [Platform] {env : CodingEnv} {J : CodingInput} {I : ToolInput}

lemma extends_claimTx (hid : q.proposedInvocationId = "attempt_" ++ uuid)
    (h : claimTx J q s = .ok (claim, s')) : Extends (invocationIdOf I) s s' := by
  unfold claimTx at h
  split at h
  · cases h
  · rename_i now proposed approved _
    cases hclaim : claimCodingTaskSubmission q now proposed approved s.coding with
    | error e =>
      rw [hclaim] at h
      cases h
    | ok out =>
      rw [hclaim] at h
      cases h
      rcases claimCodingTaskSubmission_cases hclaim with hsame |
        ⟨sequence, -, hrows, e, f, hjournal, he, hf, hce, hcf⟩
      · rw [hsame]
        exact .refl _ s
      · have hne : q.proposedInvocationId ≠ invocationIdOf I := by
          rw [hid]
          exact attempt_ne_invocation uuid I
        refine ⟨[e, f], hjournal, fun hs => ⟨fun r hr => ?_, fun row hrow => ?_⟩⟩
        · have hmem : r ∈ s.submissions.rows ++ [newAttempt q sequence now] := hrows ▸ hr
          rcases mem_append.mp hmem with hr | hr
          · exact hs r hr
          · exact ⟨uuid, by rw [mem_singleton.mp hr]; exact hid⟩
        · rcases mem_pair.mp hrow with rfl | rfl
          · rw [ForeignRow, hce, he]
            exact ⟨fun h => hne (Option.some.inj h), by decide, by decide⟩
          · rw [ForeignRow, hcf, hf]
            exact ⟨fun h => hne (Option.some.inj h), by decide, by decide⟩

lemma extends_finishTx (h : finishTx J q s = .ok (u, s')) : Extends (invocationIdOf I) s s' := by
  unfold finishTx at h
  split at h
  · cases h
  · rename_i now stamp _
    cases hfinish : finishCodingTaskSubmission q now stamp s.coding with
    | error e =>
      rw [hfinish] at h
      cases h
    | ok c =>
      rw [hfinish] at h
      cases h
      rcases finishCodingTaskSubmission_cases hfinish with rfl |
        ⟨row, hrow, -, hrows, e, hjournal, hkind, hown, -⟩
      · exact .refl _ s
      · refine ⟨[e], hjournal, fun hs => ?_⟩
        obtain ⟨uuid, huuid⟩ := hs row hrow
        refine ⟨fun r hr => ?_, fun row' hrow' => ?_⟩
        · have hmem : r ∈ s.submissions.rows.map
              (fun r => if r = row then finishAttempt q.outcome now row else r) := hrows ▸ hr
          obtain ⟨r', hr', rfl⟩ := mem_map.mp hmem
          by_cases heq : r' = row
          · rw [if_pos heq]
            exact ⟨uuid, huuid⟩
          · rw [if_neg heq]
            exact hs r' hr'
        · obtain rfl := mem_singleton.mp hrow'
          rw [ForeignRow, hown, hkind, huuid]
          exact ⟨fun h => attempt_ne_invocation uuid I (Option.some.inj h), kind_ne q.outcome⟩

lemma extends_createProposalTx {run : Run}
    (h : createProposalTx J run session request requestDigest accepted s = .ok (id, s')) :
    Extends (invocationIdOf I) s s' := by
  unfold createProposalTx at h
  split at h
  · cases h
  · cases h
    exact .refl _ s
  · cases hwrite : appendTx J.proposalStamp .capabilityChangeProposed run.id session.id
        (some ("proposal_" ++ J.proposalUuid))
        (proposalPayload J run request requestDigest ("proposal_" ++ J.proposalUuid) accepted) s with
    | error e =>
      rw [hwrite] at h
      cases h
    | ok out =>
      rw [hwrite] at h
      cases h
      obtain ⟨row, hw⟩ := appendTx_eq_ok hwrite
      refine ⟨[row], hw.rows, fun hs => ⟨?_, fun row' hrow' => ?_⟩⟩
      · rw [AttemptIds, hw.submissions]
        exact hs
      · obtain rfl := mem_singleton.mp hrow'
        rw [ForeignRow, hw.correlationId, hw.kind]
        exact ⟨fun h => proposal_ne_invocation _ I (Option.some.inj h), by decide, by decide⟩

lemma within_executeCoding (token : Option String) (exchange : Except String (List UInt8))
    (approved : ApprovedInvocation) :
    Within (invocationIdOf I) 1 (executeCoding token exchange approved) := by
  have hinner : Within (invocationIdOf I) 1 (executeInner token exchange approved) := by
    unfold executeInner
    split_ifs
    · exact (within_stop _).mono (Nat.zero_le 1)
    · split
      · exact (within_stop _).mono (Nat.zero_le 1)
      · exact (within_does rfl).bind_quiet fun _ => (within_ofExcept _).bind fun _ => within_ofExcept _
  refine hinner.attempt.bind_quiet fun result => ?_
  cases result with
  | ok outcome | error e => exact within_done _

lemma within_finish (attemptId : String) (invocationId : InvocationId) (o : SubmissionOutcome) :
    Within (invocationIdOf I) 0 (finish J attemptId invocationId o) :=
  within_commits fun _ _ _ => extends_finishTx

lemma within_markUnknown (attemptId : String) (invocationId : InvocationId) :
    Within (invocationIdOf I) 0 (markUnknown J attemptId invocationId) :=
  (within_finish ..).bind fun _ => within_stop _

lemma within_settle (request : DevelopmentRequest) (requestDigest attemptId : String)
    (invocationId : InvocationId) (outcome : CodingHarnessExecutionOutcome) :
    Within (invocationIdOf I) 0
      (settleSubmissionAttempt env J request requestDigest attemptId invocationId outcome) := by
  unfold settleSubmissionAttempt
  split
  · split
    · exact within_markUnknown ..
    · split
      · exact within_stop _
      · exact within_markUnknown ..
      · exact (within_finish ..).bind fun _ => within_done _
  · exact (within_finish ..).bind fun _ => within_stop _
  · exact within_markUnknown ..
  · exact within_stop _

lemma within_performClaim (run : Run) (session : Session) (snapshot : RegistrySnapshot)
    (request : DevelopmentRequest) (requestDigest : String) (proposed : ApprovedInvocation)
    (claim : CodingTaskSubmissionClaim) : Within (invocationIdOf I) 1
      (performClaim env J run session snapshot request requestDigest proposed claim) := by
  cases claim with
  | inProgress attemptId invocationId =>
    exact (within_ofExcept _).quiet_bind fun _ =>
      (within_executeCoding ..).bind_quiet fun _ => within_settle ..
  | succeeded invocationId result => exact (within_done _).mono (Nat.zero_le 1)
  | definitivelyRejected errorCode => exact (within_stop _).mono (Nat.zero_le 1)
  | claimed attemptId invocationId =>
    exact (within_executeCoding ..).bind_quiet fun _ => within_settle ..

lemma within_handleCodingTaskSubmit (request : DevelopmentRequest) (run : Run) (session : Session)
    (sourceMessageId callKey : String) : Within (invocationIdOf I) 1
      (handleCodingTaskSubmit env J request run session sourceMessageId callKey) := by
  refine (within_ofExcept _).quiet_bind fun _ => (within_ofExcept _).quiet_bind fun _ =>
    (within_ofExcept _).quiet_bind fun _ => (within_reads _).quiet_bind fun snapshot =>
    (within_ofExcept _).quiet_bind fun proposed => ?_
  refine (within_commits fun _ _ _ => extends_claimTx rfl).quiet_bind fun claim => ?_
  refine (within_performClaim ..).bind_quiet fun submitted => ?_
  exact (within_ofExcept _).bind fun _ => (within_ofExcept _).bind fun _ =>
    (within_commits fun _ _ _ => extends_createProposalTx).bind fun _ => within_done _

lemma within_submitCodingTask (approved : ApprovedInvocation) (run : Run) (session : Session) :
    Within (invocationIdOf I) 1 (submitCodingTask env J approved run session) := by
  unfold submitCodingTask
  split
  · exact (within_done _).mono (Nat.zero_le 1)
  · refine (within_reads _).quiet_bind fun sealed => ?_
    split
    · exact (within_done _).mono (Nat.zero_le 1)
    · split
      · exact (within_done _).mono (Nat.zero_le 1)
      · exact within_submitting.quiet_bind fun _ =>
          (within_handleCodingTaskSubmit ..).attempt.bind_quiet fun _ => within_done _

end Coding

/-! ## The other bindings -/

lemma Wrote.attemptIds (h : Wrote s kind runId sessionId correlationId payload row s')
    (hs : AttemptIds s) : AttemptIds s' := by
  rw [AttemptIds, h.submissions]
  exact hs

lemma Wrote.isRow (h : Wrote s kind runId sessionId correlationId payload row s') :
    IsRow kind correlationId (.wrote row) := ⟨row, rfl, h.kind, h.correlationId⟩

section Call

variable [Platform] {env : ToolEnv} {I : ToolInput} {q : ToolRequest} {run : Run} {session : Session}
  {snapshot : RegistrySnapshot} {spec : OperationSpec} {approved : ApprovedInvocation}

lemma within_executeBinding (timeout : Nat) (snapshotId : String) : Within (invocationIdOf I) 1
      (executeBinding env I spec approved session timeout snapshotId) := by
  have hexternal : Within (invocationIdOf I) 1
      (executeExternal env I spec approved timeout snapshotId) := by
    refine (within_reads _).quiet_bind fun loaded => ?_
    cases loaded with
    | none => exact (within_stop _).mono (Nat.zero_le 1)
    | some manifest =>
      exact (within_ofExcept _).quiet_bind fun _ => (within_does rfl).bind_quiet fun _ =>
        (within_ofExcept _).bind fun _ => within_ofExcept _
  unfold executeBinding
  split_ifs
  · exact ((within_reads _).bind fun _ => within_done _).mono (Nat.zero_le 1)
  · exact ((within_reads _).bind fun _ => within_done _).mono (Nat.zero_le 1)
  · exact (within_stop _).mono (Nat.zero_le 1)
  · split
    · exact (within_stop _).mono (Nat.zero_le 1)
    · exact hexternal.attempt.bind_quiet fun _ => within_ofExcept _

/-! ## The shape of a call -/

lemma receipted_of_within {α : Type} {x : Tool String α} {payload : α → Json}
    {text : α → String} (hx : Within (invocationIdOf I) 1 x) (hs : AttemptIds s)
    (h : (x >>= fun result => do
        appendOrFatal I.receipt .receiptReceived run session (some (invocationIdOf I))
          (payload result)
        pure (text result)) s = ⟨t, s', .ok answer⟩) :
    ∃ between r, t = between ++ [r] ∧ IsRow .receiptReceived (some (invocationIdOf I)) r ∧
      (∀ act ∈ between, Foreign (invocationIdOf I) act) ∧
      between.countP ToolAct.isContact ≤ 1 ∧ AttemptIds s' := by
  obtain ⟨between, s₁, result, t₂, hrun, hrest, rfl⟩ := bind_eq_ok h
  obtain ⟨t₃, s₂, u, t₄, hwrite, hdone, rfl⟩ := bind_eq_ok hrest
  obtain ⟨row, hw, rfl⟩ := appendOrFatal_eq_ok hwrite
  cases hdone
  have hsafe := hx.safe s hs
  have hcontacts := hx.contacts s
  rw [hrun] at hsafe hcontacts
  exact ⟨between, .wrote row, by rw [append_nil], hw.isRow, hsafe.2, hcontacts,
    hw.attemptIds hsafe.1⟩

lemma dispatch_eq_ok {snapshotId : String} (hs : AttemptIds s)
    (h : dispatch env I q spec approved run session (invocationIdOf I) snapshotId s = ⟨t, s', .ok answer⟩) :
    ∃ between r, t = between ++ [r] ∧ IsRow .receiptReceived (some (invocationIdOf I)) r ∧
      (∀ act ∈ between, Foreign (invocationIdOf I) act) ∧
      between.countP ToolAct.isContact ≤ 1 ∧ AttemptIds s' := by
  unfold dispatch at h
  split_ifs at h
  · exact receipted_of_within (within_submitCodingTask ..) hs h
  · exact receipted_of_within (within_executeBinding ..).attempt hs h

lemma recordRejection_eq_ok (hs : AttemptIds s)
    (h : recordRejection I run session id op rejection parameters s = ⟨t, s', .ok answer⟩) :
    (RejectedSequence (invocationIdOf I) t ∨ AnsweredSequence (invocationIdOf I) t) ∧
      AttemptIds s' := by
  obtain ⟨t₁, s₁, u, t₂, hwrite, hdone, rfl⟩ := bind_eq_ok h
  obtain ⟨row, hw, rfl⟩ := appendOrFatal_eq_ok hwrite
  cases hdone
  exact ⟨.inl (.inl ⟨.wrote row, rfl, hw.isRow⟩), hw.attemptIds hs⟩

lemma proposeAndDispatch_eq_ok {intent : InvocationIntent}
    (hid : intent.invocationId = invocationIdOf I) (hs : AttemptIds s)
    (h : proposeAndDispatch env I q run session snapshot spec intent s = ⟨t, s', .ok answer⟩) :
    (RejectedSequence (invocationIdOf I) t ∨ AnsweredSequence (invocationIdOf I) t) ∧
      AttemptIds s' := by
  unfold proposeAndDispatch at h
  rw [hid] at h
  obtain ⟨t₁, s₁, u, t₂, hwrite, hrest, rfl⟩ := bind_eq_ok h
  obtain ⟨p, hp, rfl⟩ := appendOrFatal_eq_ok hwrite
  have hs₁ := hp.attemptIds hs
  generalize approveInvocation _ run session (pinned snapshot) I.decisionId = decision at hrest
  cases decision with
  | error reason =>
    obtain ⟨t₃, s₂, u, t₄, hwrite, hdone, rfl⟩ := bind_eq_ok hrest
    obtain ⟨row, hw, rfl⟩ := appendOrFatal_eq_ok hwrite
    cases hdone
    exact ⟨.inl (.inr ⟨.wrote p, .wrote row, rfl, hp.isRow, hw.isRow⟩), hw.attemptIds hs₁⟩
  | ok approved =>
    obtain ⟨t₃, s₂, u, t₄, hwrite, hdispatch, rfl⟩ := bind_eq_ok hrest
    obtain ⟨a, ha, rfl⟩ := appendOrFatal_eq_ok hwrite
    obtain ⟨between, r, rfl, hr, hforeign, hcontacts, hs'⟩ :=
      dispatch_eq_ok (ha.attemptIds hs₁) hdispatch
    exact ⟨.inr ⟨.wrote p, .wrote a, between, r, rfl, hp.isRow, ha.isRow, hr, hforeign, hcontacts⟩,
      hs'⟩

lemma handleInlineToolCall_eq_ok (hs : AttemptIds s)
    (h : handleInlineToolCall env I q run session snapshot s = ⟨t, s', .ok answer⟩) :
    ∃ issued rest, t = issued :: rest ∧ IsRow .toolCallIssued none issued ∧
      (RejectedSequence (invocationIdOf I) rest ∨ AnsweredSequence (invocationIdOf I) rest) ∧
      AttemptIds s' := by
  obtain ⟨t₁, s₁, u, rest, hwrite, hrest, rfl⟩ := bind_eq_ok h
  obtain ⟨row, hw, rfl⟩ := appendOrFatal_eq_ok hwrite
  have hs₁ := hw.attemptIds hs
  refine ⟨.wrote row, rest, rfl, hw.isRow, ?_⟩
  generalize snapshot.lookup q.call.operation = found at hrest
  cases found with
  | none => exact recordRejection_eq_ok hs₁ hrest
  | some spec =>
    generalize hintent : validateToolCall q.call run.id q.turnIndex q.toolIndex snapshot
      (invocationIdOf I) = checked at hrest
    cases checked with
    | error rejection => exact recordRejection_eq_ok hs₁ hrest
    | ok intent =>
      obtain ⟨_, _, _, _, _, rfl⟩ := validateToolCall_eq_ok hintent
      dsimp only at hrest
      generalize validateModelArguments env.less spec q.call.arguments = arguments at hrest
      cases arguments with
      | error rejection => exact recordRejection_eq_ok hs₁ hrest
      | ok _ => exact proposeAndDispatch_eq_ok rfl hs₁ hrest

/-! ## The journal of a call -/

lemma labels_recordRejection (id op : String) (rejection : ToolRejection)
    (parameters : Option Json) :
    Labels Grows (recordRejection I run session id op rejection parameters) :=
  (labels_appendOrFatal _ _ _ _ _ _).bind composes_grows fun _ s => composes_grows.refl s

lemma labels_dispatch (correlationId snapshotId : String) :
    Labels Grows (dispatch env I q spec approved run session correlationId snapshotId) := by
  unfold dispatch
  split_ifs
  · exact (@within_submitCodingTask _ _ _ I _ _ _).labels.bind composes_grows fun _ =>
      (labels_appendOrFatal _ _ _ _ _ _).bind composes_grows fun _ s => composes_grows.refl s
  · exact (within_executeBinding ..).attempt.labels.bind composes_grows fun _ =>
      (labels_appendOrFatal _ _ _ _ _ _).bind composes_grows fun _ s => composes_grows.refl s

lemma labels_handleInlineToolCall :
    Labels Grows (handleInlineToolCall env I q run session snapshot) := by
  refine (labels_appendOrFatal _ _ _ _ _ _).bind composes_grows fun _ => ?_
  split
  · exact labels_recordRejection _ _ _ _
  · split
    · exact labels_recordRejection _ _ _ _
    · split
      · exact labels_recordRejection _ _ _ _
      · refine (labels_appendOrFatal _ _ _ _ _ _).bind composes_grows fun _ => ?_
        split
        · exact (labels_appendOrFatal _ _ _ _ _ _).bind composes_grows fun _ s => composes_grows.refl s
        · exact (labels_appendOrFatal _ _ _ _ _ _).bind composes_grows fun _ => labels_dispatch _ _

lemma labels_invokeTool : Labels Grows (invokeTool env I q) := by
  refine .bind composes_grows (fun s => composes_grows.refl s) fun g => ?_
  refine labels_handleInlineToolCall.attempt.bind composes_grows fun result => ?_
  cases result with
  | ok text | error category => exact fun s => composes_grows.refl s

lemma invokeTool_eq_ok (h : invokeTool env I q s = ⟨t, s', .ok (.toolResult text)⟩) :
    ∃ run session snapshot,
      handleInlineToolCall env I q run session snapshot s = ⟨t, s', .ok text⟩ := by
  obtain ⟨t₁, s₁, g, t₂, hload, hrest, rfl⟩ := bind_eq_ok h
  obtain ⟨t₃, s₂, result, t₄, hrun, hdone, rfl⟩ := bind_eq_ok hrest
  obtain ⟨rfl, rfl, -⟩ : [] = t₁ ∧ s = s₁ ∧ loadLegacyGovernance q.runId s = .ok g := by
    simpa [Traced.reads] using hload
  refine ⟨g.1, g.2.1, g.2.2, ?_⟩
  cases result with
  | error category => cases hdone
  | ok answer =>
    cases hdone
    rw [nil_append, append_nil]
    simp only [attempt, Ended.mk.injEq, Except.ok.injEq] at hrun
    obtain ⟨htrace, hstate, hresult⟩ := hrun
    rw [← htrace, ← hstate, ← hresult]

end Call

/-! ## The audit -/

/-- A call that answers the model has appended its issue and then exactly one of the two
sequences; the rows of its trace are what the journal has grown by, and attempts still have
identities of their own. -/
theorem tool_call_audited [Platform] (env : ToolEnv) (I : ToolInput) (q : ToolRequest)
    (s s' : ToolStore) (t : List ToolAct) (text : String) (hids : AttemptIds s)
    (h : invokeTool env I q s = ⟨t, s', .ok (.toolResult text)⟩) :
    s'.journal.rows = s.journal.rows ++ t.filterMap ToolAct.row? ∧ AttemptIds s' ∧
      ∃ issued rest, t = issued :: rest ∧ IsRow .toolCallIssued none issued ∧
        Xor (RejectedSequence (invocationIdOf I) rest)
          (AnsweredSequence (invocationIdOf I) rest) := by
  have hgrows := @labels_invokeTool _ env I q s
  rw [h] at hgrows
  obtain ⟨run, session, snapshot, hhandle⟩ := invokeTool_eq_ok h
  obtain ⟨issued, rest, rfl, hissued, hrest, hids'⟩ := handleInlineToolCall_eq_ok hids hhandle
  refine ⟨hgrows, hids', issued, rest, rfl, hissued, ?_⟩
  rcases hrest with hrejected | hanswered
  · exact .inl ⟨hrejected, not_rejected_and_answered hrejected⟩
  · exact .inr ⟨hanswered, fun hrejected => not_rejected_and_answered hrejected hanswered⟩

def ToolCallOutcome.isResult : ToolCallOutcome → Bool
  | toolResult _ => true
  | fatal _ => false

lemma exists_toolResult {result : Except String ToolCallOutcome}
    (h : result.toOption.any ToolCallOutcome.isResult = true) :
    ∃ text, result = .ok (.toolResult text) := by
  cases result with
  | error e => cases h
  | ok outcome =>
    cases outcome with
    | toolResult text => exact ⟨text, rfl⟩
    | fatal category => cases h

/-- The harness times out, and the call is receipted all the same. -/
theorem tool_call_audited_note : letI := zeroPlatform
    ∃ t s' text,
      invokeTool noteEnv noteInput (noteCall "buy milk") noteStore =
        ⟨t, s', .ok (.toolResult text)⟩ ∧
      ∃ issued rest, t = issued :: rest ∧ IsRow .toolCallIssued none issued ∧
        Xor (RejectedSequence (invocationIdOf noteInput) rest)
          (AnsweredSequence (invocationIdOf noteInput) rest) := by
  obtain ⟨text, htext⟩ := exists_toolResult (by decide +kernel :
    (@invokeTool zeroPlatform noteEnv noteInput (noteCall "buy milk")
      noteStore).result.toOption.any ToolCallOutcome.isResult = true)
  cases hrun : @invokeTool zeroPlatform noteEnv noteInput (noteCall "buy milk") noteStore with
  | mk t s' result =>
    rw [hrun] at htext
    obtain rfl : result = .ok (.toolResult text) := htext
    obtain ⟨-, -, haudit⟩ := @tool_call_audited zeroPlatform noteEnv noteInput (noteCall "buy milk")
      noteStore s' t text (fun _ h => absurd h not_mem_nil) hrun
    exact ⟨t, s', text, rfl, haudit⟩

end AgentCore.Runtime
