import AgentCore.Foundation.HashChain
import AgentCore.Foundation.Run
import AgentCore.Foundation.Text
import AgentCore.Journal.Events

/-! The two verifiers of the journal's hash chain, what every append routine keeps of it,
and what the last hash of a verified journal says about its rows. -/

namespace AgentCore.Journal

open Foundation Domain List

section

variable [Platform] {t : JournalTable} {stamp : Stamp}

variable {kind payloadJson : String} {runId : Option RunId} {sessionId : Option SessionId}
  {correlationId : Option String}

abbrev HashBody := Int × String × String

def chainScheme (body : JournalRow → Option HashBody) : ChainScheme JournalRow String HashBody where
  body
  prev := JournalRow.previousHash
  hash := JournalRow.hash
  digest p b := eventHash p b.1 b.2.1 b.2.2

/-- The payload text a verifier hashes: the stored text read and printed again. -/
def canonicalPayload (r : JournalRow) : Option String := (fromStr r.payloadJson).map Json.toText

def decodedBody (r : JournalRow) : Option HashBody :=
  let event := rowToEvent r
  some (event.sequence, event.kind.storageName, event.payload.toText)

def storedKindBody (r : JournalRow) : Option HashBody :=
  (canonicalPayload r).map fun payload => (r.sequence, r.kind, payload)

def verifyHashChain (t : JournalTable) : Bool := (chainScheme decodedBody).valid none t.rows

def verifyHashChainStoredKind (t : JournalTable) : Bool :=
  (chainScheme storedKindBody).valid none t.rows

/-! ## Appends keep the chain -/

def CanonicalText (payload : Json) : Prop :=
  ∃ v, fromStr payload.toText = some v ∧ v.toText = payload.toText

lemma canonicalText_of_wf (hw : payload.wf Platform.readFloat = true)
    (hn : payload.nesting ≤ 127) : CanonicalText payload :=
  ⟨payload, fromStr_toText hw hn, rfl⟩

structure WellChained (t : JournalTable) : Prop where
  sequences : t.rows.map JournalRow.sequence =
    (range t.rows.length).map fun i : Nat => (i : Int) + 1
  decoded : verifyHashChain t = true
  stored : verifyHashChainStoredKind t = true

lemma wellChained_empty : WellChained JournalTable.empty := ⟨rfl, rfl, rfl⟩

lemma WellChained.nextSequence (h : WellChained t) :
    t.nextSequence = (t.rows.length : Int) + 1 := by
  have hseq := h.sequences
  rcases eq_nil_or_concat t.rows with hnil | ⟨init, r, hr⟩
  · simp [JournalTable.nextSequence, JournalTable.last, hnil]
  · rw [concat_eq_append] at hr
    have hlast : t.last = some r := by simp [JournalTable.last, hr]
    rw [hr, length_append, length_singleton, range_succ] at hseq
    simp only [map_append, map_cons, map_nil] at hseq
    have hsingle := (append_inj' hseq rfl).2
    have hrseq : r.sequence = (init.length : Int) + 1 := by simpa using hsingle
    simp [JournalTable.nextSequence, hlast, hr, hrseq]

lemma lastHash_none (body : JournalRow → Option HashBody) (t : JournalTable) :
    (chainScheme body).lastHash none t.rows = t.last.map JournalRow.hash := by
  simp [ChainScheme.lastHash, JournalTable.last, chainScheme]

lemma valid_newRow (hv : (chainScheme body).valid none t.rows = true)
    (hbody : body (newRow t stamp kind runId sessionId correlationId payloadJson) = some (t.nextSequence, kind, payloadJson)) :
    (chainScheme body).valid none
      (t.rows ++ [newRow t stamp kind runId sessionId correlationId payloadJson]) = true := by
  refine (chainScheme body).valid_snoc.mpr ⟨hv, ?_, _, hbody, ?_⟩
  · rw [lastHash_none]
    rfl
  · rw [lastHash_none]
    rfl

lemma WellChained.append {kind : JournalEventKind} (h : WellChained t)
    (ha : Appends t t' kind.storageName payload.toText) (hp : CanonicalText payload) :
    WellChained t' := by
  obtain ⟨stamp, runId, sessionId, correlationId, hrows⟩ := ha
  obtain ⟨v, hread, hprint⟩ := hp
  refine ⟨?_, ?_, ?_⟩
  · rw [hrows, map_append, h.sequences, length_append, length_singleton,
      range_succ, map_append]
    simp [newRow, h.nextSequence]
  · rw [verifyHashChain, hrows]
    refine valid_newRow h.decoded ?_
    simp [decodedBody, rowToEvent, newRow, hread, hprint, parseKind_storageName]
  · rw [verifyHashChainStoredKind, hrows]
    refine valid_newRow h.stored ?_
    simp [storedKindBody, canonicalPayload, newRow, hread, hprint]

/-! ## The four writers -/

inductive AppendCall
  | appendEvent (stamp : Stamp) (kind : JournalEventKind) (runId : Option RunId)
      (sessionId : Option SessionId) (correlationId : Option String) (payload : Json)
  | appendEventTx (stamp : Stamp) (kind : JournalEventKind) (runId : Option RunId)
      (sessionId : Option SessionId) (correlationId : Option String) (payload : Json)
  | appendJournalTx (stamp : Stamp) (kind : JournalEventKind) (runId : RunId)
      (sessionId : SessionId) (correlationId : String) (payload : Json)
  | recordModelInvocationEvent (stamp : Stamp) (kind : JournalEventKind) (runId : RunId)
      (sessionId : SessionId) (invocationId : String) (payload : Json)

namespace AppendCall

def payload : AppendCall → Json
  | appendEvent _ _ _ _ _ payload => payload
  | appendEventTx _ _ _ _ _ payload => payload
  | appendJournalTx _ _ _ _ _ payload => payload
  | recordModelInvocationEvent _ _ _ _ _ payload => payload

def exec (t : JournalTable) : AppendCall → Except String JournalTable
  | appendEvent stamp kind runId sessionId correlationId payload =>
    (Journal.appendEvent stamp kind runId sessionId correlationId payload t).map Prod.snd
  | appendEventTx stamp kind runId sessionId correlationId payload =>
    (Journal.appendEventTx stamp kind runId sessionId correlationId payload t).map Prod.snd
  | appendJournalTx stamp kind runId sessionId correlationId payload =>
    Journal.appendJournalTx stamp kind.storageName runId sessionId correlationId payload t
  | recordModelInvocationEvent stamp kind runId sessionId invocationId payload =>
    (Journal.recordModelInvocationEvent stamp kind runId sessionId invocationId payload t).map
      Prod.snd

def apply (t : JournalTable) (c : AppendCall) : JournalTable := commit t (c.exec t)

end AppendCall

variable {c : AppendCall}

lemma appends_of_appendRow
    (h : appendRow t stamp kind runId sessionId correlationId payloadJson = .ok (r, t')) :
    Appends t t' kind payloadJson := by
  obtain ⟨-, rfl, hrows⟩ := appendRow_eq_ok.mp h
  exact ⟨stamp, runId, sessionId, correlationId, hrows⟩

lemma recordModelInvocationEvent_cases {kind : JournalEventKind} {runId : RunId}
    {sessionId : SessionId}
    (h : recordModelInvocationEvent stamp kind runId sessionId invocationId payload t = .ok (e, t')) :
    t' = t ∨ Appends t t' kind.storageName payload.toText := by
  obtain ⟨_, -, h⟩ := bind_eq_ok.mp h
  split at h
  · -- a replayed fact
    obtain ⟨_, -, h⟩ := bind_eq_ok.mp h
    split_ifs at h
    · exact absurd h throw_ne_ok
    · exact .inl (Prod.mk.inj (return_eq_ok.mp h)).2.symm
  · obtain ⟨_, -, h⟩ := bind_eq_ok.mp h
    obtain ⟨⟨r, u⟩, hrow, ⟨⟩⟩ := bind_eq_ok.mp h
    exact .inr (appends_of_appendRow hrow)

lemma AppendCall.exec_cases (h : c.exec t = .ok t') :
    t' = t ∨ ∃ kind : JournalEventKind, Appends t t' kind.storageName c.payload.toText := by
  cases c with
  | appendEvent stamp kind runId sessionId correlationId payload
  | appendEventTx stamp kind runId sessionId correlationId payload =>
    obtain ⟨e, h⟩ := map_snd_eq_ok h
    obtain ⟨⟨r, u⟩, hrow, ⟨⟩⟩ := bind_eq_ok.mp h
    exact .inr ⟨kind, appends_of_appendRow hrow⟩
  | appendJournalTx stamp kind runId sessionId correlationId payload =>
    obtain ⟨⟨r, u⟩, hrow, ⟨⟩⟩ := bind_eq_ok.mp h
    exact .inr ⟨kind, appends_of_appendRow hrow⟩
  | recordModelInvocationEvent stamp kind runId sessionId invocationId payload =>
    obtain ⟨e, h⟩ := map_snd_eq_ok h
    exact (recordModelInvocationEvent_cases h).imp_right (fun h => ⟨kind, h⟩)

lemma WellChained.applyCall (h : WellChained t) (hp : CanonicalText c.payload) :
    WellChained (c.apply t) := by
  unfold AppendCall.apply
  cases hexec : c.exec t with
  | error e => exact h
  | ok t' =>
    rcases c.exec_cases hexec with rfl | ⟨kind, happ⟩
    · exact h
    · exact h.append happ hp

structure AppendTx where
  calls : List AppendCall
  committed : Bool

def AppendTx.apply (t : JournalTable) (tx : AppendTx) : JournalTable :=
  if tx.committed then run AppendCall.apply t tx.calls else t

lemma WellChained.applyTx {tx : AppendTx} (h : WellChained t)
    (hp : ∀ c ∈ tx.calls, CanonicalText c.payload) : WellChained (tx.apply t) := by
  unfold AppendTx.apply
  split_ifs
  · have hcalls : Along AppendCall.apply (fun _ c => CanonicalText c.payload) t tx.calls :=
      along_of_forall hp
    exact hcalls.invariant (fun t c ht hc => ht.applyCall hc) h
  · exact h

/-- After any committed and rolled-back transactions of the four writers the sequences run
from one without gaps, every row links to the row before it and both verifiers accept. -/
theorem journal_chain_valid (txs : List AppendTx)
    (hp : ∀ tx ∈ txs, ∀ c ∈ tx.calls, CanonicalText c.payload) :
    let t := run AppendTx.apply JournalTable.empty txs
    t.rows.map JournalRow.sequence = (range t.rows.length).map (fun i : Nat => (i : Int) + 1) ∧
      (∀ r ∈ t.rows.head?, r.previousHash = none) ∧
      t.rows.IsChain (fun r s => s.previousHash = some r.hash) ∧
      verifyHashChain t = true ∧ verifyHashChainStoredKind t = true := by
  intro t
  have htxs : Along AppendTx.apply (fun _ tx => ∀ c ∈ tx.calls, CanonicalText c.payload)
      JournalTable.empty txs := along_of_forall hp
  have h : WellChained t := htxs.invariant (fun t tx ht hc => ht.applyTx hc) wellChained_empty
  obtain ⟨hhead, hlinks⟩ := (chainScheme storedKindBody).links_of_valid h.stored
  exact ⟨h.sequences, hhead, hlinks, h.decoded, h.stored⟩

def sampleTxs : List AppendTx :=
  [ ⟨[.appendEvent ⟨"event_1", 0⟩ .ingressAccepted none none (some "cli:1")
        (Json.mkObj [("source", .str "cli"), ("text", .str "6 * 7")])], true⟩,
    ⟨[.appendEventTx ⟨"event_2", 1⟩ .outboxQueued (some "run_1") none none (Json.mkObj [])], false⟩,
    ⟨[.appendJournalTx ⟨"event_3", 2⟩ .registrySnapshotActivated "run_1" "session_1" "decision_1"
        (Json.mkObj [("action", .str "enable")]),
      .recordModelInvocationEvent ⟨"event_4", 3⟩ .modelInvocationStarted "run_1" "session_1"
        "model:run_1:0" (Json.mkObj [("schema_version", .str "model.invocation.started.v0"),
          ("run_id", .str "run_1"), ("invocation_id", .str "model:run_1:0")])], true⟩ ]

lemma sampleTxs_canonical : ∀ tx ∈ sampleTxs, ∀ c ∈ tx.calls, CanonicalText c.payload := by
  simp only [sampleTxs, forall_mem_cons, not_mem_nil, false_imp_iff, implies_true,
    and_true, AppendCall.payload]
  refine ⟨?_, ?_, ?_, ?_⟩ <;> exact canonicalText_of_wf rfl (by decide)

end

/-- The theorem at the sample: three rows are committed. -/
theorem journal_chain_valid_sample :
    letI := referencePlatform
    (run AppendTx.apply JournalTable.empty sampleTxs).rows.length = 3 ∧
      verifyHashChain (run AppendTx.apply JournalTable.empty sampleTxs) = true :=
  letI := referencePlatform
  ⟨by decide +kernel, (journal_chain_valid sampleTxs sampleTxs_canonical).2.2.2.1⟩

/-! ## The last hash -/

section

variable [Platform]

lemma eventHash_inj (hsha : HexDigest Platform.sha256Hex)
    (hp : ∀ h ∈ p, h ≠ "" ∧ '|' ∉ h.toList) (hq : ∀ h ∈ q, h ≠ "" ∧ '|' ∉ h.toList)
    (hk : '|' ∉ k.toList) (hl : '|' ∉ l.toList) (h : eventHash p m k x = eventHash q n l y) :
    p = q ∧ m = n ∧ k = l ∧ x = y := by
  have htext := hsha.injective h
  have hpd : '|' ∉ (p.getD "").toList := by
    cases p with
    | none => simp
    | some a => exact (hp a rfl).2
  have hqd : '|' ∉ (q.getD "").toList := by
    cases q with
    | none => simp
    | some a => exact (hq a rfl).2
  simp only [String.append_assoc] at htext
  obtain ⟨hprev, htext⟩ := field_inj (c := '|') hpd hqd htext
  obtain ⟨hseq, htext⟩ := field_inj (c := '|') (notMem_toString_int (by decide) (by decide) m)
    (notMem_toString_int (by decide) (by decide) n) htext
  obtain ⟨hkind, hpayload⟩ := field_inj (c := '|') hk hl htext
  refine ⟨?_, toString_int_injective hseq, hkind, hpayload⟩
  -- an absent link prints as the empty text, which no hash is
  cases p with
  | none =>
    cases q with
    | none => rfl
    | some b => exact absurd hprev.symm (hq b rfl).1
  | some a =>
    cases q with
    | none => exact absurd hprev (hp a rfl).1
    | some b => exact congrArg some hprev

lemma storedKind_binding (hsha : HexDigest Platform.sha256Hex) :
    (chainScheme storedKindBody).Binding (fun h => h ≠ "" ∧ '|' ∉ h.toList)
      (fun b => '|' ∉ b.2.1.toList) where
  digest_good _ _ :=
    ⟨hsha.nonempty _, fun hbar => absurd (hsha.hex _ _ hbar) (by decide)⟩
  inj hp hq hb hc h := by
    obtain ⟨hpq, hseq, hkind, hpayload⟩ := eventHash_inj hsha hp hq hb hc h
    exact ⟨hpq, Prod.ext hseq (Prod.ext hkind hpayload)⟩

/-- Two verified journals whose last rows carry the same hash have as many rows and agree,
row by row, on sequence, kind text and the canonical text of the payload. -/
theorem last_hash_fixes_journal (hsha : HexDigest Platform.sha256Hex) (t u : JournalTable)
    (ht : verifyHashChainStoredKind t = true) (hu : verifyHashChainStoredKind u = true)
    (hkt : ∀ r ∈ t.rows, '|' ∉ r.kind.toList) (hku : ∀ r ∈ u.rows, '|' ∉ r.kind.toList)
    (hlast : t.last.map JournalRow.hash = u.last.map JournalRow.hash) :
    t.rows.length = u.rows.length ∧
      t.rows.map (fun r => (canonicalPayload r).map fun payload => (r.sequence, r.kind, payload)) =
        u.rows.map (fun r => (canonicalPayload r).map fun payload =>
          (r.sequence, r.kind, payload)) := by
  have hkind : ∀ {v : JournalTable}, (∀ r ∈ v.rows, '|' ∉ r.kind.toList) →
      ∀ r ∈ v.rows, ∀ b ∈ storedKindBody r, '|' ∉ b.2.1.toList := by
    intro v hv r hr b hb
    obtain ⟨payload, -, rfl⟩ := Option.map_eq_some_iff.mp hb
    exact hv r hr
  have hbodies := (storedKind_binding hsha).bodies_eq ht hu (hkind hkt) (hkind hku) hlast
  exact ⟨by simpa using congrArg length hbodies, hbodies⟩

lemma kind_storedKindBody (h : b ∈ storedKindBody r) : b.2.1 = r.kind := by
  obtain ⟨payload, -, rfl⟩ := Option.map_eq_some_iff.mp h
  rfl

/-- Who noted the last hash of a journal can check it later: a verified journal with a row of
this hash begins with what was there then. -/
theorem noted_hash_fixes_history (hsha : HexDigest Platform.sha256Hex) (t u : JournalTable)
    (ht : verifyHashChainStoredKind t = true) (hu : verifyHashChainStoredKind u = true)
    (hkt : ∀ r ∈ t.rows, '|' ∉ r.kind.toList) (hku : ∀ r ∈ u.rows, '|' ∉ r.kind.toList)
    {row : JournalRow} (hrow : row ∈ u.rows)
    (hnoted : t.last.map JournalRow.hash = some row.hash) :
    t.rows.map storedKindBody <+: u.rows.map storedKindBody :=
  (storedKind_binding hsha).begins_with ht hu
    (fun r hr _ hb => kind_storedKindBody hb ▸ hkt r hr)
    (fun r hr _ hb => kind_storedKindBody hb ▸ hku r hr) hnoted hrow

end

def oneRowJournal (payload payloadJson : String) : JournalTable where
  rows := [{
    sequence := 1
    eventId := "event_1"
    runId := none
    sessionId := none
    correlationId := none
    kind := "RunStarted"
    payloadJson
    previousHash := none
    hash := @eventHash referencePlatform none 1 "RunStarted" payload
    createdAt := 0 }]
  sorted := pairwise_singleton _ _
  unique := by simp

lemma oneRowJournal_verified (h : @fromStr referencePlatform payloadJson = some v) :
    @verifyHashChainStoredKind referencePlatform (oneRowJournal v.toText payloadJson) = true := by
  let _ := referencePlatform
  have hbody : ∀ r : JournalRow, r.payloadJson = payloadJson →
      storedKindBody r = some (r.sequence, r.kind, v.toText) := by
    intro r hr
    simp [storedKindBody, canonicalPayload, hr, h]
  exact (chainScheme storedKindBody).valid_cons.mpr ⟨rfl, ⟨_, hbody _ rfl, rfl⟩, rfl⟩

/-- The stored payload text itself is not fixed by the last hash: blanks the reader skips
are not hashed. -/
theorem stored_payload_text_not_fixed :
    ¬∀ P : Platform, HexDigest P.sha256Hex → ∀ t u : JournalTable,
      verifyHashChainStoredKind t = true → verifyHashChainStoredKind u = true →
      (∀ r ∈ t.rows, '|' ∉ r.kind.toList) → (∀ r ∈ u.rows, '|' ∉ r.kind.toList) →
      t.last.map JournalRow.hash = u.last.map JournalRow.hash →
      t.rows.map (fun r => (r.sequence, r.kind, r.payloadJson)) =
        u.rows.map (fun r => (r.sequence, r.kind, r.payloadJson)) := by
  intro h
  have hsame := h referencePlatform hexCode_hexDigest
    (oneRowJournal (Json.obj []).toText "{}") (oneRowJournal (Json.obj []).toText "{ }")
    (oneRowJournal_verified (by decide)) (oneRowJournal_verified (by decide))
    (by simp [oneRowJournal]) (by simp [oneRowJournal]) rfl
  simp [oneRowJournal] at hsame

/-- The theorem at those two journals. -/
theorem noted_hash_fixes_history_sample :
    letI := referencePlatform
    (oneRowJournal (Json.obj []).toText "{}").rows.map storedKindBody <+:
      (oneRowJournal (Json.obj []).toText "{ }").rows.map storedKindBody :=
  letI := referencePlatform
  noted_hash_fixes_history hexCode_hexDigest _ _ (oneRowJournal_verified (by decide))
    (oneRowJournal_verified (by decide)) (by simp [oneRowJournal]) (by simp [oneRowJournal])
    mem_cons_self rfl

theorem last_hash_fixes_journal_sample :
    (oneRowJournal (Json.obj []).toText "{}").rows.length =
      (oneRowJournal (Json.obj []).toText "{ }").rows.length :=
  letI := referencePlatform
  (last_hash_fixes_journal hexCode_hexDigest
    (oneRowJournal (Json.obj []).toText "{}") (oneRowJournal (Json.obj []).toText "{ }")
    (oneRowJournal_verified (by decide)) (oneRowJournal_verified (by decide))
    (by simp [oneRowJournal]) (by simp [oneRowJournal]) rfl).1

end AgentCore.Journal
