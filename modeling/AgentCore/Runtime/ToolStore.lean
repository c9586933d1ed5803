import AgentCore.Adapters.ExternalHarness
import AgentCore.Foundation.Traced
import AgentCore.Gateway.ToolCall
import AgentCore.Journal.CodingSubmissions
import AgentCore.Journal.HarnessOps

/-! The store that a tool call works on, and what can be seen of the call: the journal rows it
commits and the harnesses it contacts, in their order. -/

namespace AgentCore.Runtime

open Foundation Registry Harness Journal Adapters List
open Domain hiding OperationSpec RegistrySnapshot

variable {stamp : Option Stamp} {kind : JournalEventKind} {correlationId : Option String}
  {payload : Json}

structure ToolStore extends RegistryDb where
  submissions : SqlTable codingTaskSubmissions := .empty

variable {s s' : ToolStore}

def ToolStore.coding (s : ToolStore) : CodingDb := ⟨s.toDb, s.submissions⟩

def ToolStore.withCoding (s : ToolStore) (c : CodingDb) : ToolStore :=
  { s with toDb := c.toDb, submissions := c.submissions }

inductive ToolAct
  | wrote (row : JournalRow)
  /-- A connection to the harness of an external operation. -/
  | contacted (request : HarnessRequest)
  /-- A submission handed to the coding path, before anything is claimed. -/
  | submitting (request : Json)
  /-- A connection to the coding harness for an attempt. -/
  | contactedCoding (attempt : InvocationId) (body : Json)

namespace ToolAct

def isContact : ToolAct → Bool
  | contacted _ => true
  | contactedCoding _ _ => true
  | wrote _ => false
  | submitting _ => false

def isEffect : ToolAct → Bool
  | contacted _ => true
  | contactedCoding _ _ => true
  | submitting _ => true
  | wrote _ => false

def row? : ToolAct → Option JournalRow
  | wrote row => some row
  | contacted _ => none
  | submitting _ => none
  | contactedCoding _ _ => none

end ToolAct

def wroteRows (s s' : ToolStore) : List ToolAct :=
  (s'.journal.rows.drop s.journal.rows.length).map .wrote

abbrev Tool (ε : Type) := Traced ε ToolAct ToolStore

/-- The journal of the second store is that of the first with the written rows of the trace. -/
def Grows (s : ToolStore) (trace : List ToolAct) (s' : ToolStore) : Prop :=
  s'.journal.rows = s.journal.rows ++ trace.filterMap ToolAct.row?

lemma composes_grows : Traced.Composes Grows where
  refl s := by rw [Grows, filterMap_nil, append_nil]
  trans h h' := by
    rw [Grows, h', h, filterMap_append, append_assoc]

lemma wroteRows_of_append
    (h : s'.journal.rows = s.journal.rows ++ added) : wroteRows s s' = added.map .wrote := by
  rw [wroteRows, h, drop_left]

lemma filterMap_row?_wrote (rows : List JournalRow) :
    (rows.map ToolAct.wrote).filterMap ToolAct.row? = rows := by
  rw [filterMap_map]
  exact filterMap_some

lemma grows_of_append (h : s'.journal.rows = s.journal.rows ++ added) :
    Grows s (wroteRows s s') s' := by
  rw [Grows, wroteRows_of_append h, filterMap_row?_wrote, h]

/-! ## A journal write -/

section

variable [Platform] {session : Session} {run : Run}

def appendTx (stamp : Option Stamp) (kind : JournalEventKind) (runId : RunId) (sessionId : SessionId)
    (correlationId : Option String) (payload : Json) (s : ToolStore) :
    Except String (Unit × ToolStore) :=
  match stamp with
  | none => .error "journal_unwritable"
  | some stamp =>
    match s.toDb.append stamp kind (some runId) (some sessionId) correlationId payload with
    | .error _ => .error "journal_unwritable"
    | .ok db => .ok ((), { s with toDb := db })

def appendOrFatal (stamp : Option Stamp) (kind : JournalEventKind) (run : Run) (session : Session)
    (correlationId : Option String) (payload : Json) : Tool String Unit :=
  .commits wroteRows (appendTx stamp kind run.id session.id correlationId payload)

structure Wrote (s : ToolStore) (kind : JournalEventKind) (runId : RunId) (sessionId : SessionId)
    (correlationId : Option String) (payload : Json) (row : JournalRow) (s' : ToolStore) : Prop where
  rows : s'.journal.rows = s.journal.rows ++ [row]
  kind : row.kind = kind.storageName
  runId : row.runId = some runId
  sessionId : row.sessionId = some sessionId
  correlationId : row.correlationId = correlationId
  payload : row.payloadJson = payload.toText
  submissions : s'.submissions = s.submissions
  tables : s'.runs = s.runs ∧ s'.sessions = s.sessions ∧ s'.registry = s.registry ∧
    s'.manifests = s.manifests

lemma appendTx_eq_ok
    (h : appendTx stamp kind runId sessionId correlationId payload s = .ok (u, s')) :
    ∃ row, Wrote s kind runId sessionId correlationId payload row s' := by
  unfold appendTx at h
  split at h
  · cases h
  · split at h
    · cases h
    · rename_i db happ
      obtain ⟨journal, rfl, hrows, -⟩ := Db.append_eq_ok happ
      cases h
      exact ⟨_, hrows, rfl, rfl, rfl, rfl, rfl, rfl, rfl, rfl, rfl, rfl⟩

lemma appendOrFatal_eq_ok
    (h : appendOrFatal stamp kind run session correlationId payload s = ⟨t, s', .ok u⟩) :
    ∃ row, Wrote s kind run.id session.id correlationId payload row s' ∧ t = [.wrote row] := by
  obtain ⟨htx, rfl⟩ := Traced.commits_eq_ok h
  obtain ⟨row, hw⟩ := appendTx_eq_ok htx
  exact ⟨row, hw, wroteRows_of_append hw.rows⟩

lemma labels_appendOrFatal (stamp : Option Stamp) (kind : JournalEventKind) (run : Run)
    (session : Session) (correlationId : Option String) (payload : Json) :
    Traced.Labels Grows (appendOrFatal stamp kind run session correlationId payload) := by
  apply Traced.labels_commits composes_grows
  intro s u s' htx
  obtain ⟨row, hw⟩ := appendTx_eq_ok htx
  exact grows_of_append hw.rows

end

end AgentCore.Runtime
