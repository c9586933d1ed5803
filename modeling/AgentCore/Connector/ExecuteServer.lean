import AgentCore.Connector.JsonlStore

/-! The execute server of the connector, one process with its store. A request runs without a pause
from the look at `inFlight` to the entry it makes there; the send ends later, and with it the
requests that waited for it are answered. -/

namespace AgentCore.Connector

open Foundation Function

structure ExecuteRequest where
  (idempotencyKey invocationId : String)

inductive ExecuteFact
  /-- A transport send succeeded. -/
  | sent (key : String) (now : Nat)
  | answered (key : String) (ok replayed : Bool)
deriving DecidableEq

structure InFlight where
  request : ExecuteRequest
  waiting : Nat

structure ServerState where
  store : StoreState StoredExecuteRecord := {}
  inFlight : String → Option InFlight := fun _ => none
  facts : List ExecuteFact := []

/-- What becomes of `store.set`; one that throws may have written a part of the line. -/
inductive SetResult
  | returns
  | throws (written : Option Part)
deriving DecidableEq

inductive ServerEvent
  | request (request : ExecuteRequest)
  /-- The send for a key rejects, or resolves to a receipt that is then stored. -/
  | rejected (key : String)
  | resolved (key : String) (messageId : Option String) (set : SetResult)
  | store (event : StoreEvent StoredExecuteRecord)

def sentRecord (request : ExecuteRequest) (messageId : Option String) (now : Nat) :
    StoredExecuteRecord :=
  ⟨request.idempotencyKey, request.invocationId, "feishu.send_message", .sent, messageId, now, now⟩

section Server

variable (maxAgeMs : Nat)

namespace ServerState

def settle (s : ServerState) (key : String) (flight : InFlight) (ok : Bool) : ServerState :=
  { s with
    inFlight := update s.inFlight key none
    facts := s.facts ++ .answered key ok false ::
      List.replicate flight.waiting (.answered key ok ok) }

def request (s : ServerState) (r : ExecuteRequest) : ServerState :=
  let key := r.idempotencyKey
  if key = "" ∨ r.invocationId = "" then
    { s with facts := s.facts ++ [.answered key false false] }
  else
    match s.inFlight key with
    | some flight => { s with
        inFlight := update s.inFlight key (some { flight with waiting := flight.waiting + 1 }) }
    | none =>
      if (get (executeStore maxAgeMs) s.store.now key s.store.file).any (·.status = .sent) then
        { s with facts := s.facts ++ [.answered key true true] }
      else { s with inFlight := update s.inFlight key (some ⟨r, 0⟩) }

def resolved (s : ServerState) (key : String) (flight : InFlight) (messageId : Option String)
    (set : SetResult) : ServerState :=
  let record := .set (sentRecord flight.request messageId s.store.now)
  let store := match set with
    | .returns => s.store.step (executeStore maxAgeMs) (.append record)
    | .throws none => s.store
    | .throws (some part) => s.store.step (executeStore maxAgeMs) (.crash record part)
  let sent := { s with store := store, facts := s.facts ++ [ExecuteFact.sent key s.store.now] }
  sent.settle key flight (decide (set = .returns))

def step (s : ServerState) : ServerEvent → ServerState
  | .request r => s.request maxAgeMs r
  | .rejected key =>
    match s.inFlight key with
    | none => s
    | some flight => s.settle key flight false
  | .resolved key messageId set =>
    match s.inFlight key with
    | none => s
    | some flight => s.resolved maxAgeMs key flight messageId set
  -- time passes, or the log is compacted
  | .store event =>
    match event with
    | .compact | .wait _ => { s with store := s.store.step (executeStore maxAgeMs) event }
    | _ => s

end ServerState

/-- Two sends of a key succeed only if the record of the first expired in between, and as long as
a record has not expired a request for its key is answered as replayed and sends nothing. -/
structure SendsOnce (s : ServerState) : Prop where
  apart : s.facts.Pairwise fun a b => ∀ key t t', a = .sent key t → b = .sent key t' →
    t + maxAgeMs < t'
  replayed : ∀ t r, .sent r.idempotencyKey t ∈ s.facts → s.store.now ≤ t + maxAgeMs →
    r.idempotencyKey ≠ "" → r.invocationId ≠ "" →
    s.step maxAgeMs (.request r) =
      { s with facts := s.facts ++ [.answered r.idempotencyKey true true] }

def Stores : ServerEvent → Prop
  | .resolved _ _ set => set = .returns
  | _ => True

variable {maxAgeMs} {s : ServerState} {key : String}

structure Sound (maxAgeMs : Nat) (s : ServerState) : Prop where
  held : Held (executeStore maxAgeMs) s.store
  tail : s.store.file.tail = none
  sent : ∀ key t, .sent key t ∈ s.facts → ∃ r, s.store.latest key = some r ∧ r.status = .sent ∧
    t ≤ r.updatedAt
  flying : ∀ key flight, s.inFlight key = some flight → key = flight.request.idempotencyKey ∧
    key ≠ "" ∧ flight.request.invocationId ≠ "" ∧
    ∀ t, .sent key t ∈ s.facts → t + maxAgeMs < s.store.now
  apart : s.facts.Pairwise fun a b => ∀ key t t', a = .sent key t → b = .sent key t' →
    t + maxAgeMs < t'

lemma Sound.found (h : Sound maxAgeMs s) (ht : .sent key t ∈ s.facts)
    (hlive : s.store.now ≤ t + maxAgeMs) :
    (get (executeStore maxAgeMs) s.store.now key s.store.file).any (·.status = .sent) = true := by
  obtain ⟨r, hlatest, hstatus, hle⟩ := h.sent key t ht
  rw [h.held.durable key r hlatest (decide_eq_true (by omega))]
  exact decide_eq_true hstatus

lemma Sound.sendsOnce (h : Sound maxAgeMs s) : SendsOnce maxAgeMs s := by
  refine ⟨h.apart, fun t r ht hlive hkey hinvocation => ?_⟩
  have hidle : s.inFlight r.idempotencyKey = none := by
    cases hflight : s.inFlight r.idempotencyKey with
    | none => rfl
    | some flight => exact absurd ((h.flying _ _ hflight).2.2.2 t ht) (by omega)
  simp only [ServerState.step, ServerState.request, hkey, hinvocation, hidle, or_self, if_false,
    h.found ht hlive, if_true]

lemma Sound.append (h : Sound maxAgeMs s)
    (hnew : ∀ key t, .sent key t ∉ new) : Sound maxAgeMs { s with facts := s.facts ++ new } := by
  have hmem : ∀ {key t}, .sent key t ∈ s.facts ++ new → .sent key t ∈ s.facts := fun ht =>
    (List.mem_append.mp ht).resolve_right (hnew _ _)
  refine ⟨h.held, h.tail, fun key t ht => h.sent key t (hmem ht), fun key flight hf => ?_,
    List.pairwise_append.mpr ⟨h.apart, ?_, ?_⟩⟩
  · obtain ⟨hkey, hne, hinvocation, hold⟩ := h.flying key flight hf
    exact ⟨hkey, hne, hinvocation, fun t ht => hold t (hmem ht)⟩
  · exact List.pairwise_of_forall_mem_list fun a ha _ _ key t _ heq => absurd (heq ▸ ha) (hnew key t)
  · exact fun a _ b hb key _ t _ heq => absurd (heq ▸ hb) (hnew key t)

lemma Sound.setFlight (h : Sound maxAgeMs s)
    (hx : ∀ flight, x = some flight → key = flight.request.idempotencyKey ∧ key ≠ "" ∧
      flight.request.invocationId ≠ "" ∧ ∀ t, .sent key t ∈ s.facts → t + maxAgeMs < s.store.now) :
    Sound maxAgeMs { s with inFlight := update s.inFlight key x } := by
  refine ⟨h.held, h.tail, h.sent, fun k flight hf => ?_, h.apart⟩
  by_cases hk : k = key
  · subst hk
    exact hx flight (by simpa using hf)
  · exact h.flying k flight (by simpa [hk] using hf)

lemma Sound.settle (h : Sound maxAgeMs s) (key : String) (flight : InFlight) (ok : Bool) :
    Sound maxAgeMs (s.settle key flight ok) :=
  (h.setFlight (x := none) nofun).append fun k t ht => by simp at ht

lemma Sound.request (h : Sound maxAgeMs s) (r : ExecuteRequest) :
    Sound maxAgeMs (s.request maxAgeMs r) := by
  simp only [ServerState.request]
  split
  · exact h.append (by simp)
  · next hinvalid =>
    rw [not_or] at hinvalid
    split
    · next flight hflight =>
      refine h.setFlight fun x hx => ?_
      cases hx
      exact h.flying _ flight hflight
    · split_ifs with hfound
      · exact h.append (by simp)
      · refine h.setFlight fun x hx => ?_
        cases hx
        refine ⟨rfl, hinvalid.1, hinvalid.2, fun t ht => ?_⟩
        by_contra hlive
        exact hfound (h.found ht (by omega))

lemma Sound.resolved (h : Sound maxAgeMs s)
    (hflight : s.inFlight key = some flight) (messageId : Option String) :
    Sound maxAgeMs (s.resolved maxAgeMs key flight messageId .returns) := by
  obtain ⟨rfl, hkey, hinvocation, hexpired⟩ := h.flying key flight hflight
  have hstate : (executeStore maxAgeMs).isState
      (sentRecord flight.request messageId s.store.now) = true := by
    simp [executeStore, sentRecord, hkey, hinvocation]
  -- the key is no longer in flight in the state that has the new fact
  have hsent : Sound maxAgeMs ⟨s.store.step (executeStore maxAgeMs)
      (.append (.set (sentRecord flight.request messageId s.store.now))),
      update s.inFlight flight.request.idempotencyKey none,
      s.facts ++ [.sent flight.request.idempotencyKey s.store.now]⟩ := by
    refine ⟨h.held.step (a := .append _) ⟨h.tail, by rintro _ ⟨⟩; exact hstate⟩, rfl, fun key t ht => ?_,
      fun key flight' hf => ?_, List.pairwise_append.mpr ⟨h.apart, List.pairwise_singleton .., ?_⟩⟩
    · by_cases hk : key = flight.request.idempotencyKey
      · subst hk
        refine ⟨_, update_self .., rfl, ?_⟩
        rcases List.mem_append.mp ht with hold | hnew
        · have := hexpired t hold
          exact Nat.le_of_lt (Nat.lt_of_le_of_lt (Nat.le_add_right t maxAgeMs) this)
        · cases List.mem_singleton.mp hnew
          exact Nat.le_refl _
      · have hold : .sent key t ∈ s.facts := by simpa [hk] using ht
        obtain ⟨r, hlatest, hr⟩ := h.sent key t hold
        exact ⟨r, (update_of_ne hk ..).trans hlatest, hr⟩
    · by_cases hk : key = flight.request.idempotencyKey
      · simp [hk] at hf
      · obtain ⟨hkey', hne, hinvocation', hold⟩ := h.flying key flight' (by simpa [hk] using hf)
        exact ⟨hkey', hne, hinvocation', fun t ht => hold t (by simpa [hk] using ht)⟩
    · rintro a ha b hb key t t' rfl rfl
      cases List.mem_singleton.mp hb
      exact hexpired t ha
  exact hsent.append fun k t ht => by simp at ht

lemma Sound.step (h : Sound maxAgeMs s) (ha : Stores a) : Sound maxAgeMs (s.step maxAgeMs a) := by
  cases a with
  | request r => exact h.request r
  | rejected key =>
    simp only [ServerState.step]
    split
    · exact h
    · exact h.settle ..
  | resolved key messageId set =>
    obtain rfl : set = .returns := ha
    simp only [ServerState.step]
    split
    · exact h
    · next flight hflight => exact h.resolved hflight messageId
  | store event =>
    cases event with
    | append record => exact h
    | crash record part => exact h
    | compact => exact ⟨h.held.step (a := .compact) trivial, rfl, h.sent, h.flying, h.apart⟩
    | wait ms =>
      refine ⟨h.held.step (a := .wait ms) trivial, h.tail, h.sent, fun key flight hf => ?_, h.apart⟩
      obtain ⟨hkey, hne, hinvocation, hold⟩ := h.flying key flight hf
      exact ⟨hkey, hne, hinvocation, fun t ht => Nat.lt_add_right ms (hold t ht)⟩

/-- The process starts on any log that ends with a line. While no `store.set` throws, each key is
sent once for the life of its record. -/
theorem sends_once {file : Jsonl StoredExecuteRecord} (hfile : file.tail = none)
    {events : List ServerEvent} (h : ∀ a ∈ events, Stores a) :
    SendsOnce maxAgeMs (run (ServerState.step maxAgeMs) { store := { file := file } } events) := by
  have hstart : Sound maxAgeMs { store := { file := file } } :=
    ⟨⟨nofun, fun _ _ => rfl⟩, hfile, nofun, nofun, .nil⟩
  exact ((along_of_forall h).invariant (fun _ _ hs ha => hs.step ha) hstart).sendsOnce

end Server

def sampleSend (set : SetResult) : List ServerEvent :=
  [.request ⟨"key", "invocation"⟩, .resolved "key" none set]

theorem sends_once_sample : (∀ a ∈ sampleSend .returns, Stores a) ∧
    SendsOnce 1000 (run (ServerState.step 1000) {} (sampleSend .returns)) := by
  have h : ∀ a ∈ sampleSend .returns, Stores a := by simp [sampleSend, Stores]
  exact ⟨h, sends_once rfl h⟩

/-- The send succeeds and its record is not written: the next request sends again. -/
theorem sends_twice : ¬SendsOnce 1000 (run (ServerState.step 1000) {}
    (sampleSend (.throws none) ++ sampleSend .returns)) := by
  intro h
  have hapart : (0 : Nat) + 1000 < 0 :=
    (List.pairwise_cons.mp h.apart).1 (.sent "key" 0) (by decide +kernel) "key" 0 0 rfl rfl
  omega

end AgentCore.Connector
