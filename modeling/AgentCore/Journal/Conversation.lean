import AgentCore.Journal.Worker

/-! The conversation history of a session: the user texts and the delivered replies that the
journal pairs by run, and what of the journal the history depends on. -/

namespace AgentCore.Journal

open Foundation Domain List Option

/-! ## Maps of texts -/

variable {β : Type} {p : JournalEvent → Bool} {e : JournalEvent} {es : List JournalEvent}

/-- A hash map of texts as its entries; a lookup reads the latest one. -/
abbrev TextMap := List (String × String)

namespace TextMap

def insert (m : TextMap) (key value : String) : TextMap := (key, value) :: m

def orInsert (m : TextMap) (key value : String) : TextMap :=
  if (m.lookup key).isSome then m else m.insert key value

def collect (pairs : List (String × String)) : TextMap :=
  pairs.foldl (fun m pair => m.insert pair.1 pair.2) []

lemma collect_eq_reverse (pairs : List (String × String)) : collect pairs = pairs.reverse := by
  have key : ∀ m : TextMap,
      pairs.foldl (fun m pair => m.insert pair.1 pair.2) m = pairs.reverse ++ m := by
    induction pairs with
    | nil => exact fun _ => rfl
    | cons pair pairs ih =>
      intro m
      rw [foldl_cons, ih, reverse_cons, append_assoc]
      rfl
  rw [collect, key, append_nil]

lemma lookup_insert (m : TextMap) (key value k : String) :
    (m.insert key value).lookup k = if key = k then some value else m.lookup k := by
  by_cases hk : key = k
  · subst hk
    rw [if_pos rfl, insert, lookup_cons_self]
  · have hne : (k == key) = false := beq_false_of_ne (Ne.symm hk)
    rw [if_neg hk, insert, lookup_cons, hne]

lemma lookup_orInsert (m : TextMap) (key value k : String) : (m.orInsert key value).lookup k =
      (m.lookup k).or (if key = k then some value else none) := by
  unfold orInsert
  split
  next hsome =>
    obtain ⟨old, hold⟩ := isSome_iff_exists.mp hsome
    split
    next hk => subst hk; simp [hold]
    next => simp
  next hnone =>
    have hold : m.lookup key = none := not_isSome_iff_eq_none.mp hnone
    rw [lookup_insert]
    split
    next hk => subst hk; simp [hold]
    next => simp

lemma lookup_foldl_orInsert {ε : Type} (entry : ε → Option (String × String)) (es : List ε)
    (m : TextMap) (k : String) :
    (es.foldl (fun m e => (entry e).elim m fun p => m.orInsert p.1 p.2) m).lookup k =
      (m.lookup k).or
        (es.findSome? fun e => (entry e).bind fun p => if p.1 = k then some p.2 else none) := by
  induction es generalizing m with
  | nil => simp
  | cons e es ih =>
    rw [foldl_cons, ih, findSome?_cons]
    cases he : entry e with
    | none => simp
    | some p =>
      have hfirst := lookup_orInsert m p.1 p.2 k
      simp only [elim_some, hfirst, bind_some]
      split <;> simp

end TextMap

/-! ## The turns -/

section Turns

variable [Platform] (skip : Option String) (s : SessionId)

def ingressEntry (e : JournalEvent) : Option (String × String) := do
  if e.kind ≠ .ingressAccepted then none
  let eventId ← (e.payload.get "event_id").bind Json.asStr
  if some eventId = skip then none
  let text ← (e.payload.get "text").bind Json.asStr
  some (eventId, text)

def replyEntry (e : JournalEvent) : Option (String × String) := do
  if e.kind ≠ .assistantReplyDelivered ∨ e.sessionId ≠ some s then none
  let pSessionId ← (e.payload.get "session_id").bind Json.asStr
  if pSessionId ≠ s then none
  let evRunId ← e.runId
  let pRunId ← (e.payload.get "run_id").bind Json.asStr
  if pRunId ≠ evRunId then none
  let invId ← (e.payload.get "invocation_id").bind Json.asStr
  if invId = "" then none
  let corr ← e.correlationId
  if corr ≠ invId then none
  let text ← (e.payload.get "text").bind Json.asStr
  some (pRunId, text)

def ingressText (es : List JournalEvent) : TextMap := .collect (es.filterMap (ingressEntry skip))

def replyByRun (es : List JournalEvent) : TextMap :=
  es.foldl (fun m e => (replyEntry s e).elim m fun p => m.orInsert p.1 p.2) []

def runEvent (texts : TextMap) (e : JournalEvent) : Option (String × String) := do
  if e.kind ≠ .runStarted ∨ e.sessionId ≠ some s then none
  let corr ← e.correlationId
  let userText ← texts.lookup corr
  let runId ← (e.payload.get "run_id").bind Json.asStr
  some (userText, runId)

/-- The map from ingress to run that the source also fills is read by nothing. -/
def recentConversationTurns (limit : Nat) (db : Db) : List (String × String) :=
  if limit = 0 then []
  else
    let es := events db
    let runEvents := es.filterMap (runEvent s (ingressText skip es))
    let completeTurns := runEvents.filterMap fun run =>
      ((replyByRun s es).lookup run.2).map fun reply => (run.1, reply)
    completeTurns.drop (completeTurns.length - limit)

end Turns

/-! ## What a history is -/

section History

variable [Platform] (skip : Option String) (s : SessionId)

def startedRun (e : JournalEvent) : Option (String × String) := do
  if e.kind ≠ .runStarted ∨ e.sessionId ≠ some s then none
  let corr ← e.correlationId
  let runId ← (e.payload.get "run_id").bind Json.asStr
  some (corr, runId)

def userText (es : List JournalEvent) (corr : String) : Option String :=
  es.reverse.findSome? fun e =>
    (ingressEntry skip e).bind fun p => if p.1 = corr then some p.2 else none

def firstReply (es : List JournalEvent) (run : String) : Option String :=
  es.findSome? fun e => (replyEntry s e).bind fun p => if p.1 = run then some p.2 else none

/-- The complete turns of a session, one for each started run that has both texts, in the
order in which the runs started. -/
def conversation (es : List JournalEvent) : List (String × String) :=
  (es.filterMap (startedRun s)).filterMap fun run =>
    (userText skip es run.1).bind fun user =>
      (firstReply s es run.2).map fun reply => (user, reply)

variable {skip s}

section

omit [Platform]

lemma lookup_ingressText (es : List JournalEvent) (corr : String) :
    (ingressText skip es).lookup corr = userText skip es corr := by
  have key : ∀ es : List JournalEvent, (es.filterMap (ingressEntry skip)).lookup corr =
      es.findSome? fun e =>
        (ingressEntry skip e).bind fun p => if p.1 = corr then some p.2 else none := by
    intro es
    induction es with
    | nil => rfl
    | cons e es ih =>
      rw [filterMap_cons, findSome?_cons]
      cases hentry : ingressEntry skip e with
      | none => simpa using ih
      | some p =>
        have hcons := TextMap.lookup_insert (es.filterMap (ingressEntry skip)) p.1 p.2 corr
        rw [TextMap.insert, ih] at hcons
        rw [hcons, bind_some]
        split <;> rfl
  rw [ingressText, TextMap.collect_eq_reverse, ← filterMap_reverse, key, userText]

lemma lookup_replyByRun (es : List JournalEvent) (run : String) :
    (replyByRun s es).lookup run = firstReply s es run := by
  have h := TextMap.lookup_foldl_orInsert (replyEntry s) es [] run
  simpa [replyByRun, firstReply] using h

lemma runEvent_eq (es : List JournalEvent) (e : JournalEvent) : runEvent s (ingressText skip es) e =
      (startedRun s e).bind fun run => (userText skip es run.1).map (·, run.2) := by
  unfold runEvent startedRun
  by_cases hkind : e.kind ≠ .runStarted ∨ e.sessionId ≠ some s
  · simp [hkind]
  · cases hcorr : e.correlationId with
    | none => simp [hkind]
    | some corr =>
      cases hrun : (e.payload.get "run_id").bind Json.asStr <;>
        cases htext : userText skip es corr <;> simp [hkind, lookup_ingressText, htext]

end

lemma recentConversationTurns_eq (limit : Nat) (db : Db) :
    recentConversationTurns skip s limit db = (conversation skip s (events db)).rtake limit := by
  have hturns : ((events db).filterMap (runEvent s (ingressText skip (events db)))).filterMap
      (fun run => ((replyByRun s (events db)).lookup run.2).map fun reply => (run.1, reply)) =
      conversation skip s (events db) := by
    rw [conversation, filterMap_filterMap, filterMap_filterMap]
    apply filterMap_congr
    intro e _
    rw [runEvent_eq]
    cases startedRun s e with
    | none => rfl
    | some run =>
      cases huser : userText skip (events db) run.1 <;>
        simp [huser, lookup_replyByRun, map_eq_bind]
  unfold recentConversationTurns
  dsimp only
  rw [hturns]
  split
  next h => simp [h]
  next => rfl

end History

/-! ## Isolation of sessions -/

lemma findSome?_part (hcontent : ∀ e, f (content e) = f e)
    (hpart : ∀ e, p e = false → f e = none) (es : List JournalEvent) :
    ((es.filter p).map content).findSome? f = es.findSome? f := by
  induction es with
  | nil => rfl
  | cons e es ih =>
    cases hp : p e with
    | true => simp [hp, findSome?_cons, hcontent, ih]
    | false => simp [hp, hpart e hp, ih]

lemma filterMap_part (hcontent : ∀ e, f (content e) = f e)
    (hpart : ∀ e, p e = false → f e = none) (es : List JournalEvent) :
    ((es.filter p).map content).filterMap f = es.filterMap f := by
  induction es with
  | nil => rfl
  | cons e es ih =>
    cases hp : p e with
    | true => simp [hp, filterMap_cons, hcontent, ih]
    | false => simp [hp, hpart e hp, ih]

lemma ingressEntry_eq_some {p : String × String} (h : ingressEntry skip e = some p) :
    e.kind = .ingressAccepted ∧ ingressEventId e = some p.1 := by
  unfold ingressEntry at h
  by_cases hkind : e.kind = .ingressAccepted
  · simp only [hkind, ne_eq, not_true_eq_false, if_false] at h
    obtain ⟨eventId, hid, h⟩ := bind_eq_some_iff.mp h
    by_cases hskip : some eventId = skip
    · simp [hskip] at h
    · simp only [hskip, if_false] at h
      obtain ⟨text, -, ⟨⟩⟩ := bind_eq_some_iff.mp h
      exact ⟨hkind, hid⟩
  · simp [hkind] at h

lemma startedRun_eq_some {run : String × String} (h : startedRun s e = some run) :
    e.kind = .runStarted ∧ e.sessionId = some s ∧ e.correlationId = some run.1 := by
  unfold startedRun at h
  by_cases hkind : e.kind ≠ .runStarted ∨ e.sessionId ≠ some s
  · simp [hkind] at h
  · simp only [hkind, if_false] at h
    obtain ⟨corr, hcorr, h⟩ := bind_eq_some_iff.mp h
    obtain ⟨runId, -, ⟨⟩⟩ := bind_eq_some_iff.mp h
    have hboth : e.kind = .runStarted ∧ e.sessionId = some s := by simpa using hkind
    exact ⟨hboth.1, hboth.2, hcorr⟩

section Isolation

variable [Platform] {skip : Option String} {s : SessionId} {run : String × String}

def content (e : JournalEvent) : JournalEvent :=
  { e with
    sequence := 0
    eventId := ""
    previousHash := none
    hash := ""
    createdAt := 0 }

def startedFor (s : SessionId) (es : List JournalEvent) (corr : String) : Bool :=
  es.any fun e =>
    decide (e.kind = .runStarted ∧ e.sessionId = some s ∧ e.correlationId = some corr)

def sessionPart (s : SessionId) (es : List JournalEvent) : List JournalEvent :=
  (es.filter fun e => decide (e.sessionId = some s)).map content

def ingressPart (s : SessionId) (es : List JournalEvent) : List JournalEvent :=
  (es.filter fun e =>
    decide (e.kind = .ingressAccepted) && (ingressEventId e).any (startedFor s es)).map content

/-- Two journals say the same in a session: in its events, and in the ingress that the runs of
the session were started for. Everything between these may differ. -/
structure AgreeOn (s : SessionId) (db db' : Db) : Prop where
  session : sessionPart s (events db) = sessionPart s (events db')
  ingress : ingressPart s (events db) = ingressPart s (events db')

section

omit [Platform]

lemma firstReply_sessionPart (es : List JournalEvent) (run : String) :
    firstReply s (sessionPart s es) run = firstReply s es run := by
  apply findSome?_part
  · exact fun _ => rfl
  · intro e he
    have hsession : e.sessionId ≠ some s := by simpa using he
    simp [replyEntry, hsession]

lemma startedRuns_sessionPart (es : List JournalEvent) :
    (sessionPart s es).filterMap (startedRun s) = es.filterMap (startedRun s) := by
  apply filterMap_part
  · exact fun _ => rfl
  · intro e he
    have hsession : e.sessionId ≠ some s := by simpa using he
    simp [startedRun, hsession]

lemma userText_ingressPart {corr : String} (hstarted : startedFor s es corr = true) :
    userText skip (ingressPart s es) corr = userText skip es corr := by
  rw [userText, userText, ingressPart, ← map_reverse, ← filter_reverse]
  apply findSome?_part
  · exact fun _ => rfl
  · intro e he
    -- an entry under this id would be one of the ingresses that the session's runs name
    cases hentry : ingressEntry skip e with
    | none => rfl
    | some p =>
      have hid := ingressEntry_eq_some hentry
      rw [bind_some, if_neg]
      rintro rfl
      simp [hid, hstarted] at he

lemma startedFor_of_startedRun
    (hrun : run ∈ es.filterMap (startedRun s)) : startedFor s es run.1 = true := by
  obtain ⟨e, he, hstart⟩ := mem_filterMap.mp hrun
  refine any_eq_true.mpr ⟨e, he, ?_⟩
  exact decide_eq_true (startedRun_eq_some hstart)

lemma conversation_eq_parts (es : List JournalEvent) :
    conversation skip s es = ((sessionPart s es).filterMap (startedRun s)).filterMap fun run =>
        (userText skip (ingressPart s es) run.1).bind fun user =>
          (firstReply s (sessionPart s es) run.2).map fun reply => (user, reply) := by
  rw [startedRuns_sessionPart, conversation]
  apply filterMap_congr
  intro run hrun
  rw [userText_ingressPart (startedFor_of_startedRun hrun), firstReply_sessionPart]

end

/-- The history of a session depends on nothing that other sessions write, and it is the last
complete turns of the session. -/
theorem recentConversationTurns_isolated (limit : Nat) (db db' : Db) (hagree : AgreeOn s db db') :
    recentConversationTurns skip s limit db = recentConversationTurns skip s limit db' ∧
      recentConversationTurns skip s limit db =
        (conversation skip s (events db)).rtake limit := by
  refine ⟨?_, recentConversationTurns_eq limit db⟩
  rw [recentConversationTurns_eq, recentConversationTurns_eq, conversation_eq_parts,
    conversation_eq_parts (events db'), hagree.session, hagree.ingress]

end Isolation

/-! ## A session beside another one -/

def journalRow (sequence : Int) (eventId : String) (run session corr : Option String)
    (kind : JournalEventKind) (payload : Json) : JournalRow where
  sequence
  eventId
  runId := run
  sessionId := session
  correlationId := corr
  kind := kind.storageName
  payloadJson := payload.toText
  previousHash := none
  hash := ""
  createdAt := 0

def greetingRows (n : Int) : List JournalRow :=
  [journalRow (n + 1) "e1" none none (some "m") .ingressAccepted
      (.obj [("event_id", .str "m"), ("text", .str "hi")]),
    journalRow (n + 2) "e2" (some "r") (some "s") (some "m") .runStarted
      (.obj [("run_id", .str "r")]),
    journalRow (n + 3) "e3" (some "r") (some "s") (some "i") .assistantReplyDelivered
      (.obj [("session_id", .str "s"), ("run_id", .str "r"), ("invocation_id", .str "i"),
        ("text", .str "hello")])]

def quietDb : Db where
  journal := ⟨greetingRows 0, by decide, by decide⟩

def busyDb : Db where
  journal :=
    ⟨journalRow 1 "o1" none none (some "n") .ingressAccepted
        (.obj [("event_id", .str "n"), ("text", .str "secret")]) ::
      journalRow 2 "o2" (some "q") (some "other") (some "n") .runStarted
        (.obj [("run_id", .str "q")]) ::
      greetingRows 2, by decide, by decide⟩

theorem recentConversationTurns_isolated_greeting :
    letI := zeroPlatform
    AgreeOn "s" quietDb busyDb ∧
      recentConversationTurns none "s" 4 quietDb = [("hi", "hello")] ∧
      recentConversationTurns none "s" 4 busyDb = [("hi", "hello")] := by
  have hagree : @AgreeOn zeroPlatform "s" quietDb busyDb :=
    @AgreeOn.mk zeroPlatform _ _ _ (by decide +kernel) (by decide +kernel)
  have hquiet : @recentConversationTurns zeroPlatform none "s" 4 quietDb = [("hi", "hello")] := by
    decide +kernel
  have hisolated := @recentConversationTurns_isolated zeroPlatform none "s" 4 quietDb busyDb hagree
  exact ⟨hagree, hquiet, hisolated.1.symm.trans hquiet⟩

end AgentCore.Journal
