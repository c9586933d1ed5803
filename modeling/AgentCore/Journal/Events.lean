import AgentCore.Foundation.Tx
import AgentCore.Domain.EventKind
import AgentCore.Domain.Types

/-! The journal table and the routines that append to it. Every routine takes the next
sequence, links to the last hash and stores the digest of link, sequence, kind and
payload text. -/

namespace AgentCore.Journal

open Foundation Domain List

variable {stamp : Stamp} {runId : Option RunId} {sessionId : Option SessionId}
  {correlationId : Option String} {kind : JournalEventKind}

structure JournalRow where
  sequence : Int
  eventId : EventId
  runId : Option RunId
  sessionId : Option SessionId
  correlationId : Option String
  (kind payloadJson : String)
  previousHash : Option String
  hash : String
  createdAt : Timestamp
deriving DecidableEq

variable {r : JournalRow}

structure JournalTable where
  rows : List JournalRow
  sorted : rows.Pairwise (fun r s => r.sequence < s.sequence)
  unique : (rows.map JournalRow.eventId).Nodup

namespace JournalTable

def empty : JournalTable := ⟨[], List.Pairwise.nil, nodup_nil⟩

instance : Inhabited JournalTable := ⟨empty⟩

@[ext] lemma ext {t u : JournalTable} (h : t.rows = u.rows) : t = u := by
  cases t
  cases u
  simpa using h

/-- `SELECT .. ORDER BY sequence DESC LIMIT 1`. -/
def last (t : JournalTable) : Option JournalRow := t.rows.getLast?

def nextSequence (t : JournalTable) : Int :=
  match t.last with
  | some r => r.sequence + 1
  | none => 1

lemma lt_nextSequence {t : JournalTable} (h : r ∈ t.rows) : r.sequence < t.nextSequence := by
  rcases eq_nil_or_concat t.rows with hnil | ⟨init, l, hl⟩
  · simp [hnil] at h
  · rw [concat_eq_append] at hl
    have hseq : t.nextSequence = l.sequence + 1 := by simp [nextSequence, last, hl]
    have hsorted := t.sorted
    rw [hl, pairwise_append] at hsorted
    rw [hl] at h
    rcases mem_append.mp h with h | h
    · have := hsorted.2.2 r h l (by simp)
      omega
    · obtain rfl : r = l := by simpa using h
      omega

end JournalTable

section Append

variable [Platform] {t t' : JournalTable} {payload : Json}

def eventHash (previousHash : Option String) (sequence : Int) (kind payload : String) : String :=
  Platform.sha256Hex
    (previousHash.getD "" ++ "|" ++ toString sequence ++ "|" ++ kind ++ "|" ++ payload)

def newRow (t : JournalTable) (stamp : Stamp) (kind : String) (runId : Option RunId)
    (sessionId : Option SessionId) (correlationId : Option String) (payloadJson : String) :
    JournalRow where
  sequence := t.nextSequence
  eventId := stamp.eventId
  runId
  sessionId
  correlationId
  kind
  payloadJson
  previousHash := t.last.map JournalRow.hash
  hash := eventHash (t.last.map JournalRow.hash) t.nextSequence kind payloadJson
  createdAt := stamp.createdAt

section NewRow

variable (t : JournalTable) (stamp : Stamp) (kind : String) (runId : Option RunId)
  (sessionId : Option SessionId) (correlationId : Option String) (payloadJson : String)

@[simp] lemma newRow_eventId :
    (newRow t stamp kind runId sessionId correlationId payloadJson).eventId = stamp.eventId := rfl

@[simp] lemma newRow_runId :
    (newRow t stamp kind runId sessionId correlationId payloadJson).runId = runId := rfl

@[simp] lemma newRow_correlationId :
    (newRow t stamp kind runId sessionId correlationId payloadJson).correlationId =
      correlationId := rfl

@[simp] lemma newRow_kind :
    (newRow t stamp kind runId sessionId correlationId payloadJson).kind = kind := rfl

@[simp] lemma newRow_payloadJson :
    (newRow t stamp kind runId sessionId correlationId payloadJson).payloadJson =
      payloadJson := rfl

end NewRow

def appendRow (t : JournalTable) (stamp : Stamp) (kind : String) (runId : Option RunId)
    (sessionId : Option SessionId) (correlationId : Option String) (payloadJson : String) :
    Except String (JournalRow × JournalTable) :=
  let r := newRow t stamp kind runId sessionId correlationId payloadJson
  if h : r.eventId ∈ t.rows.map JournalRow.eventId then
    .error "UNIQUE constraint failed: journal_events.event_id"
  else
    .ok (r,
      { rows := t.rows ++ [r]
        sorted := pairwise_append.mpr ⟨t.sorted, pairwise_singleton _ _, by
          intro s hs x hx
          obtain rfl : x = r := by simpa using hx
          exact JournalTable.lt_nextSequence hs⟩
        unique := by
          rw [map_append, nodup_append]
          refine ⟨t.unique, by simp, ?_⟩
          rintro a ha b hb rfl
          have hr : a = r.eventId := by simpa using hb
          exact h (hr ▸ ha) })

lemma appendRow_eq_ok {kind : String} :
    appendRow t stamp kind runId sessionId correlationId payloadJson = .ok (r, t') ↔
      stamp.eventId ∉ t.rows.map JournalRow.eventId ∧
        r = newRow t stamp kind runId sessionId correlationId payloadJson ∧
        t'.rows = t.rows ++ [r] := by
  unfold appendRow
  by_cases hmem : stamp.eventId ∈ t.rows.map JournalRow.eventId
  · simp [newRow, hmem]
  · constructor
    · intro h
      rw [dif_neg (by simpa [newRow] using hmem)] at h
      cases h
      exact ⟨hmem, rfl, rfl⟩
    · rintro ⟨-, rfl, hrows⟩
      rw [dif_neg (by simpa [newRow] using hmem)]
      exact congrArg Except.ok (Prod.ext rfl (JournalTable.ext hrows.symm))

structure JournalEvent where
  sequence : Int
  eventId : EventId
  runId : Option RunId
  sessionId : Option SessionId
  correlationId : Option String
  kind : JournalEventKind
  payload : Json
  previousHash : Option String
  hash : String
  createdAt : Timestamp
deriving DecidableEq

/-- An unknown kind reads as the sentinel and an unreadable payload as an empty object. -/
def rowToEvent (r : JournalRow) : JournalEvent where
  sequence := r.sequence
  eventId := r.eventId
  runId := r.runId
  sessionId := r.sessionId
  correlationId := r.correlationId
  kind := parseKind r.kind
  payload := (fromStr r.payloadJson).getD (.obj [])
  previousHash := r.previousHash
  hash := r.hash
  createdAt := r.createdAt

lemma kind_rowToEvent (h : r.kind = kind.storageName) : (rowToEvent r).kind = kind := by
  rw [rowToEvent, h, parseKind_storageName]

def appendedEvent (r : JournalRow) (kind : JournalEventKind) (payload : Json) : JournalEvent :=
  { rowToEvent r with kind, payload }

def appendEventTx (stamp : Stamp) (kind : JournalEventKind) (runId : Option RunId)
    (sessionId : Option SessionId) (correlationId : Option String) (payload : Json)
    (t : JournalTable) : Except String (JournalEvent × JournalTable) := do
  let (r, t) ← appendRow t stamp kind.storageName runId sessionId correlationId payload.toText
  return (appendedEvent r kind payload, t)

def appendEvent (stamp : Stamp) (kind : JournalEventKind) (runId : Option RunId)
    (sessionId : Option SessionId) (correlationId : Option String) (payload : Json)
    (t : JournalTable) : Except String (JournalEvent × JournalTable) := do
  let (r, t) ← appendRow t stamp kind.storageName runId sessionId correlationId payload.toText
  return (appendedEvent r kind payload, t)

def appendJournalTx (stamp : Stamp) (kind : String) (runId : RunId) (sessionId : SessionId)
    (correlationId : String) (payload : Json) (t : JournalTable) : Except String JournalTable := do
  let (_, t) ← appendRow t stamp kind (some runId) (some sessionId) (some correlationId)
    payload.toText
  return t

/-! ## Model invocation facts -/

def STARTED : String := "model.invocation.started.v0"
def COMPLETED : String := "model.invocation.completed.v0"
def FAILED : String := "model.invocation.failed.v0"

def queryExisting (t : JournalTable) (invocationId : String) (kinds : List String) :
    Option JournalEvent :=
  (t.rows.find? fun r => decide (r.correlationId = some invocationId) && kinds.contains r.kind).map
    rowToEvent

def ensureSameIdentity (event : JournalEvent) (runId : RunId) (sessionId : SessionId) :
    Except String Unit :=
  if event.runId = some runId ∧ event.sessionId = some sessionId then .ok ()
  else .error "MODEL_INVOCATION_IDENTITY_CONFLICT"

def isModelInvocationKind (kind : JournalEventKind) : Bool :=
  kind = .modelInvocationStarted || kind = .modelInvocationCompleted ||
    kind = .modelInvocationFailed

def checkModelInvocation (kind : JournalEventKind) (runId : RunId) (invocationId : String)
    (payload : Json) : Except String Unit := do
  if !isModelInvocationKind kind then throw "MODEL_INVOCATION_EVENT_KIND_INVALID"
  if invocationId.isEmpty ∨ 256 < invocationId.utf8ByteSize then
    throw "MODEL_INVOCATION_ID_INVALID"
  if (payload.get "schema_version").bind Json.asStr ≠ some kind.storageName ∨
      (payload.get "invocation_id").bind Json.asStr ≠ some invocationId ∨
      (payload.get "run_id").bind Json.asStr ≠ some runId then
    throw "MODEL_INVOCATION_PAYLOAD_IDENTITY_MISMATCH"

def checkStarted (t : JournalTable) (kind : JournalEventKind) (runId : RunId)
    (sessionId : SessionId) (invocationId : String) : Except String Unit :=
  if kind ≠ .modelInvocationStarted then
    match queryExisting t invocationId [STARTED] with
    | none => .error "MODEL_INVOCATION_STARTED_MISSING"
    | some started => ensureSameIdentity started runId sessionId
  else if (queryExisting t invocationId [COMPLETED, FAILED]).isSome then
    .error "MODEL_INVOCATION_TERMINAL_WITHOUT_STARTED"
  else .ok ()

def repeatedKinds (kind : JournalEventKind) : List String :=
  if kind = .modelInvocationStarted then [STARTED] else [COMPLETED, FAILED]

def recordModelInvocationEvent (stamp : Stamp) (kind : JournalEventKind) (runId : RunId)
    (sessionId : SessionId) (invocationId : String) (payload : Json) (t : JournalTable) :
    Except String (JournalEvent × JournalTable) := do
  checkModelInvocation kind runId invocationId payload
  match queryExisting t invocationId (repeatedKinds kind) with
  | some existing =>
    ensureSameIdentity existing runId sessionId
    if existing.kind ≠ kind then throw "MODEL_INVOCATION_TERMINAL_CONFLICT"
    return (existing, t)
  | none =>
    checkStarted t kind runId sessionId invocationId
    let (r, t) ← appendRow t stamp kind.storageName (some runId) (some sessionId)
      (some invocationId) payload.toText
    return (appendedEvent r kind payload, t)

/-! ## What an append does -/

def Appends (t t' : JournalTable) (kind : String) (payloadJson : String) : Prop :=
  ∃ stamp runId sessionId correlationId,
    t'.rows = t.rows ++ [newRow t stamp kind runId sessionId correlationId payloadJson]

lemma appendEventTx_eq_ok
    (h : appendEventTx stamp kind runId sessionId correlationId payload t = .ok (e, t')) : t'.rows =
        t.rows ++ [newRow t stamp kind.storageName runId sessionId correlationId payload.toText] ∧
      stamp.eventId ∉ t.rows.map JournalRow.eventId := by
  obtain ⟨⟨r, u⟩, hrow, ⟨⟩⟩ := bind_eq_ok.mp h
  obtain ⟨hfresh, rfl, hrows⟩ := appendRow_eq_ok.mp hrow
  exact ⟨hrows, hfresh⟩

lemma appendEventTx_of_fresh (h : stamp.eventId ∉ t.rows.map JournalRow.eventId) :
    ∃ e t', appendEventTx stamp kind runId sessionId correlationId payload t = .ok (e, t') := by
  unfold appendEventTx appendRow
  rw [dif_neg (by simpa [newRow] using h)]
  exact ⟨_, _, rfl⟩

/-! ## Payloads of texts -/

structure Texts (fs : List (String × Json)) : Prop where
  keys : (fs.map Prod.fst).Nodup
  texts : ∀ f ∈ fs, ∃ s, f.2 = .str s

omit [Platform] in
lemma Texts.get (h : Texts fs) (key s : String)
    (hmem : (key, .str s) ∈ fs) : (Json.mkObj fs).get key = some (.str s) :=
  Json.get_mkObj_of_mem h.keys hmem

lemma payload_rowToEvent (hr : r.payloadJson = v.toText)
    (hw : v.wf Platform.readFloat = true) (hn : v.nesting ≤ 127) : (rowToEvent r).payload = v := by
  rw [rowToEvent, hr, fromStr_toText hw hn]
  rfl

lemma Texts.payload_rowToEvent (h : Texts fs)
    (hr : r.payloadJson = (Json.mkObj fs).toText) : (rowToEvent r).payload = Json.mkObj fs := by
  obtain ⟨hw, hn⟩ := Json.readable_mkObj_texts Platform.readFloat fs h.texts
  exact Journal.payload_rowToEvent hr hw (hn.trans (by decide))

end Append

end AgentCore.Journal
