import Mathlib.Data.List.Dedup
import AgentCore.CodingHarness.Timeout
import AgentCore.Journal.Conversation
import AgentCore.Journal.Observe

/-! The recall of the user messages of a session. The limit is applied before the query, so a
match that is older than the last messages is not found. -/

namespace AgentCore.Runtime

open Foundation Domain Journal List
open CodingHarness (asU64)

/-! ## The last matches of a list -/

section LastMatches

variable {α : Type} [DecidableEq α]

def lastMatches (n : Nat) (p : α → Bool) (l : List α) : List α := (l.filter p).dedup.rtake n

/-- No match is twice among the last `n` entries, and these hold every match or only matches. -/
structure MatchesRecent (n : Nat) (p : α → Bool) (l : List α) : Prop where
  once : ∀ a ∈ l.rtake n, p a = true → (l.rtake n).count a = 1
  reached : (∀ a ∈ l, p a = true → a ∈ l.rtake n) ∨
    n ≤ l.length ∧ ∀ a ∈ l.rtake n, p a = true

variable {n : Nat} {p : α → Bool} {l recent : List α}

omit [DecidableEq α] in
lemma rtake_append_eq_iff (hle : recent.length ≤ n) :
    (older ++ recent).rtake n = recent ↔ older = [] ∨ recent.length = n := by
  constructor
  · intro h
    have hlength := congrArg length h
    simp only [rtake, length_drop, length_append] at hlength
    have : older.length = 0 ∨ recent.length = n := by omega
    exact this.imp_left length_eq_zero_iff.mp
  · rintro (rfl | rfl)
    · simp [rtake, Nat.sub_eq_zero_of_le hle]
    · simp [rtake]

lemma rtake_dedup_append_iff (hle : recent.length ≤ n) : (older ++ recent).dedup.rtake n = recent ↔
      recent.Nodup ∧ (older ⊆ recent ∨ recent.length = n) := by
  have key : recent.Nodup → ((older ++ recent).dedup.rtake n = recent ↔
      older ⊆ recent ∨ recent.length = n) := by
    intro hnodup
    -- the last entries stay where they are, and the older ones come before them
    obtain ⟨rest, hrest⟩ := suffix_union_right older recent
    have hdedup : (older ++ recent).dedup = rest ++ recent := by
      rw [dedup_append, hnodup.dedup, hrest]
    have hnil : rest = [] ↔ older ⊆ recent := by
      constructor
      · rintro rfl a ha
        rw [nil_append] at hrest
        exact hrest ▸ mem_union_left ha _
      · intro hsub
        rwa [List.Subset.union_eq_right hsub, append_left_eq_self] at hrest
    rw [hdedup, rtake_append_eq_iff hle, hnil]
  constructor
  · intro h
    have hnodup : recent.Nodup := h ▸ (nodup_dedup _).sublist (drop_sublist _ _)
    exact ⟨hnodup, (key hnodup).mp h⟩
  · exact fun h => (key h.1).mpr h.2

lemma filter_rtake_eq_lastMatches_iff :
    (l.rtake n).filter p = lastMatches n p l ↔ MatchesRecent n p l := by
  have hsplit : l.take (l.length - n) ++ l.rtake n = l := take_append_drop _ l
  have hwindow : (l.rtake n).length ≤ n := by
    rw [rtake, length_drop]
    omega
  have hmatches : l.filter p = (l.take (l.length - n)).filter p ++ (l.rtake n).filter p := by
    rw [← filter_append, hsplit]
  have honce : ((l.rtake n).filter p).Nodup ↔
      ∀ a ∈ l.rtake n, p a = true → (l.rtake n).count a = 1 := by
    rw [nodup_iff_count_eq_one]
    simp +contextual [count_filter]
  have hall : (l.take (l.length - n)).filter p ⊆ (l.rtake n).filter p ↔
      ∀ a ∈ l, p a = true → a ∈ l.rtake n := by
    have hmem : ∀ a, a ∈ l ↔ a ∈ l.take (l.length - n) ∨ a ∈ l.rtake n := fun a => by
      rw [← mem_append, hsplit]
    simp +contextual [subset_def, hmem, or_imp]
  have hfull : ((l.rtake n).filter p).length = n ↔ n ≤ l.length ∧ ∀ a ∈ l.rtake n, p a = true := by
    have hlength : (l.rtake n).length = n ↔ n ≤ l.length := by
      rw [rtake, length_drop]
      omega
    rw [← hlength, ← length_filter_eq_length_iff]
    have := length_filter_le p (l.rtake n)
    omega
  rw [lastMatches, hmatches, eq_comm, rtake_dedup_append_iff ((length_filter_le _ _).trans hwindow),
    honce, hall, hfull]
  exact ⟨fun h => ⟨h.1, h.2⟩, fun h => ⟨h.once, h.reached⟩⟩

end LastMatches

/-! ## The recall -/

def MAX_RECALL_LIMIT : Nat := 20
def MAX_RECALL_CHARS : Nat := 500

variable (toLowercase : String → String) (s : SessionId) (args : Json)

def readyMessage (texts : TextMap) (e : JournalEvent) : Option (String × String) := do
  if e.kind ≠ .sessionReady ∨ e.sessionId ≠ some s then none
  let eventId ← e.correlationId
  let text ← texts.lookup eventId
  some (eventId, text)

def recentUserMessagesInner [Platform] (limit : Nat) (db : Db) : List (String × String) :=
  let messages := (events db).filterMap (readyMessage s (ingressText none (events db)))
  messages.drop (messages.length - limit)

def recentUserMessagesForCapability [Platform] (limit : Nat) (db : Db) : List (String × String) :=
  if limit = 0 then [] else recentUserMessagesInner s limit db

def recallLimit : Nat :=
  (((args.get "limit").bind asU64).map fun n => max 1 (min n MAX_RECALL_LIMIT)).getD 5

def matchesQuery (message : String × String) : Bool :=
  match ((args.get "query").bind Json.asStr).map toLowercase with
  | some query => containsText query (toLowercase message.2)
  | none => true

def recallResult (message : String × String) : Json :=
  .obj [("event_id", .str message.1), ("role", .str "user"),
    ("text", .str (String.ofList (message.2.toList.take MAX_RECALL_CHARS)))]

def recallAnswer (messages : List (String × String)) : ReceiptStatus × Json × String :=
  let results := messages.map recallResult
  (.succeeded, .obj [("count", .num (.int results.length)), ("messages", .arr results)],
    if results.isEmpty then "no matching messages found"
    else " | ".intercalate (results.filterMap fun m => (m.get "text").bind Json.asStr))

def executeSessionRecall [Platform] (db : Db) : ReceiptStatus × Json × String :=
  recallAnswer ((recentUserMessagesForCapability s (recallLimit args) db).filter
    (matchesQuery toLowercase args))

/-! ## What a recall should find -/

/-- The user messages of a session, one for each time it was ready for one. -/
def userMessages (es : List JournalEvent) : List (String × String) :=
  (es.filter fun e => decide (e.kind = .sessionReady ∧ e.sessionId = some s)).filterMap fun e =>
    e.correlationId.bind fun id => (userText none es id).map (id, ·)

variable {s}

lemma recentUserMessages_eq [Platform] (db : Db) (hpos : 0 < limit) :
    recentUserMessagesForCapability s limit db = (userMessages s (events db)).rtake limit := by
  have hmessages : (events db).filterMap (readyMessage s (ingressText none (events db))) =
      userMessages s (events db) := by
    rw [userMessages, filterMap_filter]
    apply filterMap_congr
    intro e _
    by_cases h : e.kind = .sessionReady ∧ e.sessionId = some s
    · simp [readyMessage, h, lookup_ingressText, Option.map_eq_bind]
    · simp [readyMessage, h]
  rw [recentUserMessagesForCapability, if_neg hpos.ne', recentUserMessagesInner, hmessages]
  rfl

lemma recallLimit_pos : 0 < recallLimit args := by
  unfold recallLimit
  cases (args.get "limit").bind asU64 <;> simp

lemma recallAnswer_inj (es : List JournalEvent)
    (hl : l ⊆ userMessages s es) (hl' : l' ⊆ userMessages s es)
    (h : recallAnswer l = recallAnswer l') : l = l' := by
  have hresults : l.map recallResult = l'.map recallResult := by
    simp only [recallAnswer, Prod.mk.injEq, Json.obj.injEq, cons.injEq, Json.arr.injEq] at h
    exact h.2.1.2.1.2
  have hids : l.map Prod.fst = l'.map Prod.fst := by
    simpa [recallResult, Json.get, Json.asStr, Function.comp_def] using
      congrArg (map fun r => ((r.get "event_id").bind Json.asStr).getD "") hresults
  have hread : ∀ l ⊆ userMessages s es,
      (l.map Prod.fst).map (fun id => (id, (userText none es id).getD "")) = l := by
    intro l hl
    rw [map_map]
    refine (map_congr_left fun m hm => ?_).trans (map_id l)
    obtain ⟨e, -, he⟩ := mem_filterMap.mp (hl hm)
    obtain ⟨id, -, hid⟩ := Option.bind_eq_some_iff.mp he
    obtain ⟨text, htext, rfl⟩ := Option.map_eq_some_iff.mp hid
    simp [htext]
  rw [← hread l hl, hids, hread l' hl']

/-- A recall answers with the last matching messages of the session, each once, exactly when
the last messages hold no match twice and hold every match or nothing else. -/
theorem executeSessionRecall_eq_iff [Platform] (s : SessionId) (db : Db) :
    executeSessionRecall toLowercase s args db =
        recallAnswer (lastMatches (recallLimit args) (matchesQuery toLowercase args)
          (userMessages s (events db))) ↔
      MatchesRecent (recallLimit args) (matchesQuery toLowercase args)
        (userMessages s (events db)) := by
  rw [executeSessionRecall, recentUserMessages_eq db (recallLimit_pos args),
    ← filter_rtake_eq_lastMatches_iff]
  refine ⟨recallAnswer_inj (s := s) (events db) ?_ ?_, congrArg recallAnswer⟩
  · exact fun m hm => mem_of_mem_drop (mem_of_mem_filter hm)
  · exact fun m hm => mem_of_mem_filter (mem_dedup.mp (mem_of_mem_drop hm))

def recallDb : Db where
  journal :=
    ⟨[journalRow 1 "e1" none none (some "m") .ingressAccepted
        (.obj [("event_id", .str "m"), ("text", .str "old note")]),
      journalRow 2 "e2" none (some "s") (some "m") .sessionReady .null,
      journalRow 3 "e3" none none (some "n") .ingressAccepted
        (.obj [("event_id", .str "n"), ("text", .str "new note")]),
      journalRow 4 "e4" none (some "s") (some "n") .sessionReady .null,
      journalRow 5 "e5" none (some "s") (some "n") .sessionReady .null], by decide, by decide⟩

def recallArgs (limit : Nat) (query : String) : Json :=
  .obj [("limit", .num (.int limit)), ("query", .str query)]

theorem executeSessionRecall_window :
    letI := zeroPlatform
    executeSessionRecall id "s" (recallArgs 1 "old") recallDb = recallAnswer [] ∧
      lastMatches (recallLimit (recallArgs 1 "old")) (matchesQuery id (recallArgs 1 "old"))
        (userMessages "s" (events recallDb)) = [("m", "old note")] ∧
      executeSessionRecall id "s" (recallArgs 2 "note") recallDb =
        recallAnswer [("n", "new note"), ("n", "new note")] := by
  decide +kernel

end AgentCore.Runtime
