import Mathlib.Data.List.Infix
import AgentCore.Foundation.Paging
import AgentCore.Journal.Runs
import AgentCore.Journal.Verify

/-! Observation of the journal: a page of events after a cursor, filtered in the query and
redacted, and what a reader has received who follows the cursor while others commit. -/

namespace AgentCore.Journal

open Foundation Domain List

def OBSERVE_SCHEMA_VERSION : String := "event.observe.v0"

def MAX_OBSERVE_LIMIT : Int := 1000

/-! ## Redaction -/

section Redaction

-- Unicode lower case, which the source takes from its standard library
variable (toLowercase : String → String)

def containsText (needle text : String) : Bool := decide (needle.toList <:+: text.toList)

def isSensitiveKey (key : String) : Bool :=
  let lower := toLowercase key
  ["token", "secret", "apikey", "api_key", "password", "passwd"].any (containsText · lower) ||
    ["authorization", "bearer", "private_key"].any (· = lower)

/-- Token counters, by exact name up to ASCII case, when the value is a number or `null`. -/
def isSafeUsageCounter (key : String) (value : Json) : Bool :=
  ["input_tokens", "cached_input_tokens", "output_tokens", "reasoning_tokens", "total_tokens"].any
      (fun counter => counter.toList = key.toList.map Char.toLower) &&
    match value with
    | .num _ | .null => true
    | _ => false

mutual

def redactPayload : Json → Json
  | .obj fields => .obj (redactFields fields)
  | .arr items => .arr (redactItems items)
  | .null => .null
  | .bool b => .bool b
  | .num n => .num n
  | .str s => .str s

def redactItems : List Json → List Json
  | [] => []
  | v :: items => redactPayload v :: redactItems items

def redactFields : List (String × Json) → List (String × Json)
  | [] => []
  | (key, v) :: fields =>
    (key, if isSensitiveKey toLowercase key && !isSafeUsageCounter key v then .str "[REDACTED]"
      else redactPayload v) :: redactFields fields

end

def hides (key : String) (v : Json) : Bool :=
  isSensitiveKey toLowercase key && !isSafeUsageCounter key v

mutual

/-- Two values that differ only in what they keep back. -/
def SameShown : Json → Json → Prop
  | .obj fields, w => ∃ fields', w = .obj fields' ∧ SameFields fields fields'
  | .arr items, w => ∃ items', w = .arr items' ∧ SameItems items items'
  | .null, w => w = .null
  | .bool b, w => w = .bool b
  | .num n, w => w = .num n
  | .str s, w => w = .str s

def SameItems : List Json → List Json → Prop
  | [], items' => items' = []
  | v :: items, all => ∃ w items', all = w :: items' ∧ SameShown v w ∧ SameItems items items'

def SameFields : List (String × Json) → List (String × Json) → Prop
  | [], fields' => fields' = []
  | (key, v) :: fields, all => ∃ w fields', all = (key, w) :: fields' ∧
    (hides toLowercase key v = true ∧ hides toLowercase key w = true ∨ SameShown v w) ∧
    SameFields fields fields'

end

variable {toLowercase}

lemma redactFields_cons (key : String) (v : Json) (fields : List (String × Json)) :
    redactFields toLowercase ((key, v) :: fields) =
      (key, if hides toLowercase key v then .str "[REDACTED]" else redactPayload toLowercase v) ::
        redactFields toLowercase fields := rfl

lemma hides_congr (h : SameShown toLowercase v w) :
    hides toLowercase key v = hides toLowercase key w := by
  cases v with
  | obj | arr =>
    obtain ⟨_, rfl, -⟩ := h
    rfl
  | null | bool | num | str =>
    obtain rfl := h
    rfl

mutual

lemma redactPayload_congr : (v w : Json) → SameShown toLowercase v w →
    redactPayload toLowercase v = redactPayload toLowercase w
  | .obj fields, _, ⟨fields', rfl, h⟩ => by
    rw [redactPayload, redactPayload, redactFields_congr fields fields' h]
  | .arr items, _, ⟨items', rfl, h⟩ => by
    rw [redactPayload, redactPayload, redactItems_congr items items' h]
  | .null, _, rfl | .bool _, _, rfl | .num _, _, rfl | .str _, _, rfl => rfl

lemma redactItems_congr : (items items' : List Json) → SameItems toLowercase items items' →
    redactItems toLowercase items = redactItems toLowercase items'
  | [], _, rfl => rfl
  | v :: items, _, ⟨w, items', rfl, hv, hitems⟩ => by
    rw [redactItems, redactItems, redactPayload_congr v w hv, redactItems_congr items items' hitems]

lemma redactFields_congr : (fields fields' : List (String × Json)) →
    SameFields toLowercase fields fields' →
    redactFields toLowercase fields = redactFields toLowercase fields'
  | [], _, rfl => rfl
  | (key, v) :: fields, _, ⟨w, fields', rfl, hv, hfields⟩ => by
    rw [redactFields_cons, redactFields_cons, redactFields_congr fields fields' hfields]
    rcases hv with ⟨hv, hw⟩ | hv
    · rw [if_pos hv, if_pos hw]
    · rw [hides_congr hv, redactPayload_congr v w hv]

end

mutual

lemma sameShown_redactPayload : (v : Json) → SameShown toLowercase v (redactPayload toLowercase v)
  | .obj fields => ⟨_, rfl, sameFields_redactFields fields⟩
  | .arr items => ⟨_, rfl, sameItems_redactItems items⟩
  | .null | .bool _ | .num _ | .str _ => rfl

lemma sameItems_redactItems : (items : List Json) →
    SameItems toLowercase items (redactItems toLowercase items)
  | [] => rfl
  | v :: items => ⟨_, _, rfl, sameShown_redactPayload v, sameItems_redactItems items⟩

lemma sameFields_redactFields : (fields : List (String × Json)) →
    SameFields toLowercase fields (redactFields toLowercase fields)
  | [] => rfl
  | (key, v) :: fields => by
    rw [redactFields_cons]
    refine ⟨_, _, rfl, ?_, sameFields_redactFields fields⟩
    by_cases hv : hides toLowercase key v = true
    · refine .inl ⟨hv, ?_⟩
      have hmark : isSafeUsageCounter key (.str "[REDACTED]") = false := Bool.and_false _
      rw [if_pos hv, hides, (Bool.and_eq_true_iff.mp hv).1, hmark]
      rfl
    · exact .inr (by rw [if_neg hv]; exact sameShown_redactPayload v)

end

/-- What is shown does not depend on what is kept back; all else is shown as it is, under all
its keys and in lists of the same length; and what was shown once is shown again. -/
theorem redaction_hides (toLowercase : String → String) (v w : Json) :
    (SameShown toLowercase v w → redactPayload toLowercase v = redactPayload toLowercase w) ∧
      SameShown toLowercase v (redactPayload toLowercase v) ∧
      redactPayload toLowercase (redactPayload toLowercase v) = redactPayload toLowercase v :=
  ⟨redactPayload_congr v w, sameShown_redactPayload v,
    (redactPayload_congr v _ (sameShown_redactPayload v)).symm⟩

end Redaction

/-! ## Pages -/

structure ObserveFilter where
  eventKind : String
  runId : RunId
  sessionId : SessionId
  principalId : PrincipalId

structure EventObserveQuery extends ObserveFilter where
  afterSequence : Option Int
  limit : Int

structure ObservedEvent where
  schemaVersion : String
  eventId : EventId
  eventKind : String
  occurredAt : Timestamp
  agentId : Option AgentId
  principalId : Option PrincipalId
  sessionId : Option SessionId
  runId : Option RunId
  correlationId : Option String
  payload : Json

structure EventObserveResponse where
  schemaVersion : String
  events : List ObservedEvent
  nextCursor : Int
  hasMore : Bool

def joinedRun (db : Db) (r : JournalRow) : Option Run := r.runId.bind db.runs.find?

/-- The condition of the query. An event without a run row has no principal. -/
def ObserveFilter.admits (q : ObserveFilter) (db : Db) (r : JournalRow) : Bool :=
  decide ((q.eventKind = "" ∨ r.kind = q.eventKind) ∧ (q.runId = "" ∨ r.runId = some q.runId) ∧
    (q.sessionId = "" ∨ r.sessionId = some q.sessionId) ∧
    (q.principalId = "" ∨
      (joinedRun db r).map (fun run => run.principal.principalId) = some q.principalId))

section Calls

variable [Platform] (toLowercase : String → String)

def observedEvent (db : Db) (r : JournalRow) : ObservedEvent where
  schemaVersion := OBSERVE_SCHEMA_VERSION
  eventId := r.eventId
  eventKind := r.kind
  occurredAt := r.createdAt
  agentId := (joinedRun db r).map Run.agentId
  principalId := (joinedRun db r).map fun run => run.principal.principalId
  sessionId := r.sessionId
  runId := r.runId
  correlationId := r.correlationId
  payload := redactPayload toLowercase ((fromStr r.payloadJson).getD .null)

/-- A corrupt journal is not served. -/
def observeEvents (q : EventObserveQuery) (db : Db) : Except String EventObserveResponse := do
  require (1 ≤ q.limit ∧ q.limit ≤ MAX_OBSERVE_LIMIT) "invalid_limit"
  require (verifyHashChainStoredKind db.journal = true) "journal_corrupt"
  let page := readPage JournalRow.sequence (q.admits db) db.journal.rows
    (q.afterSequence.getD 0) q.limit.toNat
  return { schemaVersion := OBSERVE_SCHEMA_VERSION
           events := page.items.map (observedEvent toLowercase db)
           nextCursor := page.next
           hasMore := page.more }

/-! ## A reader beside writers -/

inductive StoreCommit
  | appendEvent (stamp : Stamp) (kind : JournalEventKind) (runId : Option RunId)
      (sessionId : Option SessionId) (correlationId : Option String) (payload : Json)
  | insertRun (run : Run)
  | updateRunStatus (runId : RunId) (status : RunStatus) (now : Timestamp)

def StoreCommit.exec (db : Db) : StoreCommit → Except String Db
  | .appendEvent stamp kind runId sessionId correlationId payload =>
    db.append stamp kind runId sessionId correlationId payload
  | .insertRun run => Journal.insertRun run db
  | .updateRunStatus runId status now => .ok (setRunStatus runId status now db)

/-- A reader with its cursor. It is done when its last page had no more and nothing was
committed since. -/
structure Reader where
  db : Db := {}
  cursor : Int := 0
  received : List ObservedEvent := []
  done : Bool := false

inductive ReaderStep
  | commit (c : StoreCommit)
  | page (limit : Int)

def readerStep (q : ObserveFilter) (s : Reader) : ReaderStep → Reader
  | .commit c => { s with db := Foundation.commit s.db (c.exec s.db), done := false }
  | .page limit =>
    match observeEvents toLowercase { q with afterSequence := some s.cursor, limit } s.db with
    | .error _ => { s with done := false }
    | .ok response =>
      { s with
        cursor := response.nextCursor
        received := s.received ++ response.events
        done := !response.hasMore }

def RunBeforeEvents (q : ObserveFilter) (s : Reader) : ReaderStep → Prop
  | .commit (.insertRun run) => q.principalId = "" ∨ run.principal.principalId ≠ q.principalId ∨
      ∀ r ∈ s.db.journal.rows, r.runId ≠ some run.id
  | _ => True

/-! ## What the reader has received -/

variable {toLowercase} {q : ObserveFilter} {s : Reader} {limit : Int}

structure CaughtUp (q : ObserveFilter) (s : Reader) : Prop where
  received : s.received.map ObservedEvent.eventId =
    (upTo JournalRow.sequence (q.admits s.db) s.db.journal.rows s.cursor).map JournalRow.eventId
  ahead : s.cursor < s.db.journal.nextSequence
  complete : s.done = true → s.received.map ObservedEvent.eventId =
    (s.db.journal.rows.filter (q.admits s.db)).map JournalRow.eventId

lemma observeEvents_eq_ok : observeEvents toLowercase query db = .ok response ↔
      (1 ≤ query.limit ∧ query.limit ≤ MAX_OBSERVE_LIMIT) ∧
      verifyHashChainStoredKind db.journal = true ∧
      let page := readPage JournalRow.sequence (query.admits db) db.journal.rows
        (query.afterSequence.getD 0) query.limit.toNat
      response = ⟨OBSERVE_SCHEMA_VERSION, page.items.map (observedEvent toLowercase db), page.next,
        page.more⟩ := by
  unfold observeEvents
  rw [check_bind_eq_ok, check_bind_eq_ok, require_eq_ok, require_eq_ok, return_eq_ok]
  exact and_congr_right fun _ => and_congr_right fun _ => eq_comm

lemma map_eventId_observedEvent (db : Db) (rows : List JournalRow) :
    (rows.map (observedEvent toLowercase db)).map ObservedEvent.eventId =
      rows.map JournalRow.eventId := by
  rw [map_map]
  rfl

lemma CaughtUp.page (h : CaughtUp q s) (limit : Int) :
    CaughtUp q (readerStep toLowercase q s (.page limit)) := by
  simp only [readerStep]
  split
  · exact ⟨h.received, h.ahead, fun hdone => nomatch hdone⟩
  · next response hok =>
    obtain ⟨-, -, rfl⟩ := observeEvents_eq_ok.mp hok
    have hsorted := s.db.journal.sorted
    refine ⟨?_, ?_, ?_⟩
    · simp only [map_append, map_eventId_observedEvent, h.received, Option.getD_some]
      rw [upTo_next hsorted, map_append]
    · -- the cursor stays or is the number of a row
      simp only [readPage_next, Option.getD_some]
      cases hlast : ((beyond JournalRow.sequence (q.admits s.db) s.db.journal.rows s.cursor).take
          limit.toNat).getLast? with
      | none => exact h.ahead
      | some r =>
        have hr := mem_of_mem_take (mem_of_getLast? hlast)
        exact JournalTable.lt_nextSequence (mem_beyond.mp hr).1
    · intro hdone
      have hlast : (readPage JournalRow.sequence (q.admits s.db) s.db.journal.rows s.cursor
          limit.toNat).more = false := by simpa using hdone
      simp only [map_append, map_eventId_observedEvent, h.received, Option.getD_some]
      rw [filter_eq_of_last hsorted hlast, map_append]

omit [Platform] in
lemma CaughtUp.commit (h : CaughtUp q s)
    (hpast : upTo JournalRow.sequence (q.admits db') db'.journal.rows s.cursor =
      upTo JournalRow.sequence (q.admits s.db) s.db.journal.rows s.cursor)
    (hnext : s.db.journal.nextSequence ≤ db'.journal.nextSequence) :
    CaughtUp q { s with db := db', done := false } where
  received := h.received.trans (by rw [hpast])
  ahead := h.ahead.trans_le hnext
  complete hdone := nomatch hdone

omit [Platform] in
lemma admits_congr (h : (joinedRun db' r).map (fun run => run.principal.principalId) =
      (joinedRun db r).map (fun run => run.principal.principalId)) :
    q.admits db' r = q.admits db r := by
  simp only [ObserveFilter.admits, h]

lemma CaughtUp.append (h : CaughtUp q s)
    (happ : s.db.append stamp kind runId sessionId correlationId payload = .ok db') :
    CaughtUp q { s with db := db', done := false } := by
  obtain ⟨journal, rfl, hrows, -⟩ := Db.append_eq_ok happ
  have hadmits : q.admits { s.db with journal := journal } = q.admits s.db :=
    funext fun r => admits_congr rfl
  refine h.commit ?_ ?_
  · have hnew : ¬ s.db.journal.nextSequence ≤ s.cursor := not_le.mpr h.ahead
    rw [hadmits, upTo, upTo, hrows, filter_append, filter_singleton]
    simp [newRow, hnew]
  · have hlast : journal.nextSequence = s.db.journal.nextSequence + 1 := by
      simp [JournalTable.nextSequence, JournalTable.last, hrows, newRow]
    exact hlast ▸ Int.le_of_lt (Int.lt_succ _)

omit [Platform] in
lemma CaughtUp.insertRun (h : CaughtUp q s) {run : Run}
    (hinsert : Journal.insertRun run s.db = .ok db')
    (hbefore : q.principalId = "" ∨ run.principal.principalId ≠ q.principalId ∨
      ∀ r ∈ s.db.journal.rows, r.runId ≠ some run.id) :
    CaughtUp q { s with db := db', done := false } := by
  obtain ⟨hnone, runs, hrun, rfl⟩ := insertRun_eq_ok hinsert
  have hadmits : ∀ r ∈ s.db.journal.rows,
      q.admits { s.db with runs } r = q.admits s.db r := by
    intro r hr
    by_cases hid : r.runId = some run.id
    · have hnew : joinedRun { s.db with runs } r = some run := by
        simp [joinedRun, hid, Table.find?_insert hrun]
      have hold : joinedRun s.db r = none := by simp [joinedRun, hid, hnone]
      rcases hbefore with hall | hother | hunnamed
      · simp [ObserveFilter.admits, hall]
      · simp [ObserveFilter.admits, hnew, hold, hother]
      · exact absurd hid (hunnamed r hr)
    · refine admits_congr (congrArg _ ?_)
      cases hname : r.runId with
      | none => simp [joinedRun, hname]
      | some id =>
        have hne : run.id ≠ id := fun heq => hid (by rw [hname, heq])
        simp [joinedRun, hname, Table.find?_insert hrun, hne]
  refine h.commit (filter_congr fun r hr => ?_) le_rfl
  rw [hadmits r hr]

omit [Platform] in
lemma CaughtUp.updateRunStatus (h : CaughtUp q s) (runId : RunId) (status : RunStatus)
    (now : Timestamp) :
    CaughtUp q { s with db := setRunStatus runId status now s.db, done := false } := by
  refine h.commit (filter_congr fun r _ => ?_) le_rfl
  rw [admits_congr]
  simp only [joinedRun, setRunStatus]
  cases r.runId with
  | none => rfl
  | some id =>
    simp only [Option.bind_some, Table.find?_update, Option.map_map]
    congr 1
    funext run
    simp only [Function.comp_apply]
    split <;> rfl

lemma readerStep_caughtUp (h : CaughtUp q s) (hx : RunBeforeEvents q s x) :
    CaughtUp q (readerStep toLowercase q s x) := by
  cases x with
  | page limit => exact h.page limit
  | commit c =>
    simp only [readerStep]
    cases hexec : c.exec s.db with
    | error e => exact ⟨h.received, h.ahead, fun hdone => nomatch hdone⟩
    | ok db' =>
      rw [commit_ok]
      cases c with
      | appendEvent stamp kind runId sessionId correlationId payload => exact h.append hexec
      | insertRun run => exact h.insertRun hexec hx
      | updateRunStatus runId status now =>
        cases hexec
        exact h.updateRunStatus runId status now

/-! ## Termination -/

lemma readerStep_page (hlimit : 1 ≤ limit ∧ limit ≤ MAX_OBSERVE_LIMIT)
    (hchain : verifyHashChainStoredKind s.db.journal = true) :
    let page := readPage JournalRow.sequence (q.admits s.db) s.db.journal.rows s.cursor limit.toNat
    readerStep toLowercase q s (.page limit) = { s with
        cursor := page.next
        received := s.received ++ page.items.map (observedEvent toLowercase s.db)
        done := !page.more } := by
  intro page
  have hok : observeEvents toLowercase { q with afterSequence := some s.cursor, limit := limit } s.db =
      .ok ⟨OBSERVE_SCHEMA_VERSION, page.items.map (observedEvent toLowercase s.db), page.next,
        page.more⟩ := observeEvents_eq_ok.mpr ⟨hlimit, hchain, rfl⟩
  rw [readerStep, hok]

lemma exists_done (hlimit : 1 ≤ limit ∧ limit ≤ MAX_OBSERVE_LIMIT)
    (hchain : verifyHashChainStoredKind s.db.journal = true) :
    ∃ n, (run (readerStep toLowercase q) s (replicate n (.page limit))).done = true := by
  generalize hleft : (beyond JournalRow.sequence (q.admits s.db) s.db.journal.rows s.cursor).length =
    left
  induction left using Nat.strongRecOn generalizing s with
  | ind left ih =>
    have hstep : readerStep toLowercase q s (.page limit) = _ := readerStep_page hlimit hchain
    by_cases hmore : (readPage JournalRow.sequence (q.admits s.db) s.db.journal.rows s.cursor
        limit.toNat).more = true
    · have hfewer := beyond_next_lt s.db.journal.sorted (by omega) hmore
      obtain ⟨n, hn⟩ := ih _ (hleft ▸ hfewer) (s := readerStep toLowercase q s (.page limit))
        (by rw [hstep]; exact hchain) (by rw [hstep])
      exact ⟨n + 1, by rw [replicate_succ, run_cons]; exact hn⟩
    · refine ⟨1, ?_⟩
      rw [replicate_one, run_cons, run_nil, hstep]
      simpa using hmore

/-! ## The whole reading -/

omit [Platform] in
lemma caughtUp_start (q : ObserveFilter) : CaughtUp q {} :=
  ⟨rfl, by decide, fun hdone => nomatch hdone⟩

/-- A reader that starts at cursor 0 and is done has received the admitted events of the
journal, each once and in order, when every run row came before the events that name it.
Once nothing more is committed, it gets done. -/
theorem observed_pages_complete (q : ObserveFilter) (steps : List ReaderStep)
    (hruns : Along (readerStep toLowercase q) (RunBeforeEvents q) {} steps) :
    let s := run (readerStep toLowercase q) {} steps
    (s.done = true → s.received.map ObservedEvent.eventId =
      (s.db.journal.rows.filter (q.admits s.db)).map JournalRow.eventId) ∧
    (verifyHashChainStoredKind s.db.journal = true → ∀ limit, 1 ≤ limit → limit ≤ MAX_OBSERVE_LIMIT →
      ∃ n, (run (readerStep toLowercase q) s (replicate n (.page limit))).done = true) := by
  intro s
  have hcaught : CaughtUp q s :=
    hruns.invariant (fun _ _ hs hx => readerStep_caughtUp hs hx) (caughtUp_start q)
  exact ⟨hcaught.complete, fun hchain limit hlow hhigh => exists_done ⟨hlow, hhigh⟩ hchain⟩

/-! ## Commits in any order -/

/-- What was received stands in the journal up to the cursor, in the same order. -/
def InJournal (s : Reader) : Prop :=
  (s.received.map ObservedEvent.eventId).Sublist
    ((upTo JournalRow.sequence (fun _ => true) s.db.journal.rows s.cursor).map JournalRow.eventId)

lemma InJournal.page (h : InJournal s) (limit : Int) :
    InJournal (readerStep toLowercase q s (.page limit)) := by
  simp only [readerStep]
  split
  · exact h
  · next response hok =>
    obtain ⟨-, -, rfl⟩ := observeEvents_eq_ok.mp hok
    simp only [InJournal, map_append, map_eventId_observedEvent, Option.getD_some]
    refine (h.append (.refl _)).trans ?_
    rw [← map_append]
    exact (append_items_sublist s.db.journal.sorted).map _

lemma InJournal.step (h : InJournal s) (x : ReaderStep) :
    InJournal (readerStep toLowercase q s x) := by
  cases x with
  | page limit => exact h.page limit
  | commit c =>
    simp only [readerStep]
    cases hexec : c.exec s.db with
    | error e => exact h
    | ok db' =>
      cases c with
      | appendEvent stamp kind runId sessionId correlationId payload =>
        obtain ⟨journal, rfl, hrows, -⟩ := Db.append_eq_ok hexec
        simp only [InJournal, commit_ok, hrows, upTo, filter_append, map_append]
        exact h.trans (sublist_append_left _ _)
      | insertRun run =>
        obtain ⟨-, runs, -, rfl⟩ := insertRun_eq_ok hexec
        exact h
      | updateRunStatus runId status now =>
        cases hexec
        exact h

/-- Whatever is committed between two pages, also runs after their events, the reader receives
no event twice and none out of order. -/
theorem observed_in_order (q : ObserveFilter) (steps : List ReaderStep) :
    let s := run (readerStep toLowercase q) {} steps
    (s.received.map ObservedEvent.eventId).Sublist (s.db.journal.rows.map JournalRow.eventId) ∧
      (s.received.map ObservedEvent.eventId).Nodup := by
  intro s
  have h : InJournal s := run_invariant (fun _ x hs => hs.step x) steps (.refl _)
  have hall := h.trans (filter_sublist.map _)
  exact ⟨hall, hall.nodup s.db.journal.unique⟩

end Calls

/-! ## An event before its run -/

section Sample

local instance observePlatform : Platform := zeroPlatform

def observedRun (id : RunId) : Run where
  id
  sessionId := "s"
  agentId := "main"
  triggerEventId := id
  principal :=
    { principalId := "p", subject := .localUser, source := .cli, grants := [], requesterId := none }
  parentRunId := none
  delegatedBy := none
  status := .running
  createdAt := 0
  updatedAt := 0
  registrySnapshotId := "snapshot"

def eventOf (eventId : EventId) (kind : JournalEventKind) (runId : RunId) : ReaderStep :=
  .commit (.appendEvent ⟨eventId, 0⟩ kind (some runId) (some "s") none (.obj []))

def principalFilter : ObserveFilter := ⟨"", "", "", "p"⟩

def budgetBeforeRun : List ReaderStep :=
  [eventOf "e1" .runBudgetResolved "r1",
    .commit (.insertRun (observedRun "r2")), eventOf "e2" .runStarted "r2",
    .page 100,
    .commit (.insertRun (observedRun "r1")),
    .page 100]

/-- The reader is done and has not received the budget event. -/
theorem observed_pages_complete_budget :
    let s := run (readerStep id principalFilter) {} budgetBeforeRun
    s.done = true ∧ s.received.map ObservedEvent.eventId = ["e2"] ∧
      (s.db.journal.rows.filter (principalFilter.admits s.db)).map JournalRow.eventId =
        ["e1", "e2"] := by
  decide

def runsBeforeEvents : List ReaderStep :=
  [.commit (.insertRun (observedRun "r1")), eventOf "e1" .runBudgetResolved "r1", .page 1,
    .commit (.insertRun (observedRun "r2")), eventOf "e2" .runStarted "r2", .page 1]

theorem observed_pages_complete_runs :
    let s := run (readerStep id principalFilter) {} runsBeforeEvents
    s.done = true ∧ s.received.map ObservedEvent.eventId =
      (s.db.journal.rows.filter (principalFilter.admits s.db)).map JournalRow.eventId :=
  ⟨by decide, (observed_pages_complete principalFilter runsBeforeEvents
    ⟨.inr (.inr (by decide)), trivial, trivial, .inr (.inr (by decide)), trivial, trivial,
      trivial⟩).1 (by decide)⟩

end Sample

end AgentCore.Journal
