import AgentCore.Foundation.Run

/-! The connector's JSONL stores. The file is an append log, read whole by every call and
rewritten under a temporary name when it has grown. A line is taken as the record that it parses
to: the text of a record is one line, and a line that continues a torn one is no JSON. -/

namespace AgentCore.Connector

open Foundation Function List

inductive StoreRecord (σ : Type)
  | set (state : σ)
  | delete (key : String)

structure StoreKind (σ : Type) where
  key : σ → String
  isState : σ → Bool
  /-- The state has not expired at a time. -/
  live : Nat → σ → Bool
  live_anti : ∀ {now now' : Nat} {r : σ}, now ≤ now' → live now' r = true → live now r = true

def StoreKind.recordKey {σ : Type} (K : StoreKind σ) : StoreRecord σ → String
  | .set r => K.key r
  | .delete key => key

inductive ExecuteStatus
  | sent
  | failed
deriving DecidableEq

/-- Times are milliseconds. -/
structure StoredExecuteRecord where
  (idempotencyKey invocationId operation : String)
  status : ExecuteStatus
  messageId : Option String
  (createdAt updatedAt : Nat)

def executeStore (maxAgeMs : Nat) : StoreKind StoredExecuteRecord where
  key := StoredExecuteRecord.idempotencyKey
  isState r := r.idempotencyKey ≠ "" && r.invocationId ≠ "" && r.operation ≠ ""
  live now r := decide (now ≤ r.updatedAt + maxAgeMs)
  live_anti h hlive := by
    have := of_decide_eq_true hlive
    exact decide_eq_true (by omega)

inductive ReactionStatus
  | processing
  | failed

structure StoredReactionState where
  (messageId reactionId emojiType : String)
  status : ReactionStatus
  updatedAt : Nat

def reactionStore : StoreKind StoredReactionState where
  key := StoredReactionState.messageId
  isState r := r.messageId ≠ "" && r.reactionId ≠ "" && r.emojiType ≠ ""
  live _ _ := true
  live_anti _ h := h

section Store

variable {σ : Type} (K : StoreKind σ)

structure Jsonl (σ : Type) where
  lines : List (Option (StoreRecord σ)) := []
  /-- A last line without its end. -/
  tail : Option (Option (StoreRecord σ)) := none

def appendRecord (record : StoreRecord σ) (file : Jsonl σ) : Jsonl σ :=
  ⟨file.lines ++ [if file.tail.isNone then some record else none], none⟩

/-- The map of a load, as the list of its values. A value that is set again moves to the end,
which only changes the order of the lines of a compaction. -/
def loadOne (now : Nat) (states : List σ) : Option (StoreRecord σ) → List σ
  | some (.set r) =>
    if K.isState r && K.live now r then
      states.filter (fun x => decide (K.key x ≠ K.key r)) ++ [r]
    else states
  | some (.delete key) =>
    if key = "" then states else states.filter fun x => decide (K.key x ≠ key)
  | none => states

def loadJsonl (now : Nat) (file : Jsonl σ) : List σ :=
  run (loadOne K now) [] (file.lines ++ file.tail.toList)

def get (now : Nat) (key : String) (file : Jsonl σ) : Option σ :=
  (loadJsonl K now file).find? fun x => decide (K.key x = key)

def compactJsonl (now : Nat) (file : Jsonl σ) : Jsonl σ :=
  ⟨(loadJsonl K now file).map fun r => some (.set r), none⟩

/-! ## Calls and crashes -/

inductive Part
  | torn
  | unended
  | line
deriving DecidableEq

structure StoreState (σ : Type) where
  file : Jsonl σ := {}
  now : Nat := 0
  /-- The last state set for a key by a call that returned, unless a later one may have
  replaced it. -/
  latest : String → Option σ := fun _ => none

inductive StoreEvent (σ : Type)
  | append (record : StoreRecord σ)
  | crash (record : StoreRecord σ) (part : Part)
  | compact
  | wait (ms : Nat)

def StoreState.step (s : StoreState σ) : StoreEvent σ → StoreState σ
  | .append record => { s with
      file := appendRecord record s.file
      latest := update s.latest (K.recordKey record)
        (match record with | .set r => some r | .delete _ => none) }
  | .crash _ .torn => { s with file := { s.file with tail := some none } }
  | .crash record .unended => { s with
      file := { s.file with tail := some (if s.file.tail.isNone then some record else none) }
      latest := update s.latest (K.recordKey record) none }
  | .crash record .line => { s with
      file := appendRecord record s.file
      latest := update s.latest (K.recordKey record) none }
  | .compact => { s with file := compactJsonl K s.now s.file }
  | .wait ms => { s with now := s.now + ms }

/-- Every state that was set, has not expired and was not replaced is found. -/
def Durable (s : StoreState σ) : Prop :=
  ∀ key r, s.latest key = some r → K.live s.now r = true → get K s.now key s.file = some r

/-- A call appends to a file that ends with a line, and what it sets passes the check of the
load. -/
def AppendsLine (s : StoreState σ) : StoreEvent σ → Prop
  | .append record => s.file.tail = none ∧ ∀ r, record = .set r → K.isState r = true
  | _ => True

/-! ## The map of a load -/

variable {K} {now : Nat} {states : List σ} {r : σ}

lemma mem_loadOne (e : Option (StoreRecord σ))
    (h : ∀ record, e = some record → K.recordKey record ≠ K.key r) :
    r ∈ loadOne K now states e ↔ r ∈ states := by
  match e, h with
  | none, _ => rfl
  | some (.set x), h =>
    have hne : K.key r ≠ K.key x := (h _ rfl).symm
    have hrx : r ≠ x := fun heq => hne (heq ▸ rfl)
    rw [loadOne]
    split <;> simp [hne, hrx]
  | some (.delete key), h =>
    have hne : K.key r ≠ key := (h _ rfl).symm
    rw [loadOne]
    split <;> simp [hne]

lemma mem_loadOne_set (hstate : K.isState r = true) (hlive : K.live now r = true) :
    r ∈ loadOne K now states (some (.set r)) := by
  simp [loadOne, hstate, hlive]

def OnePerKey (K : StoreKind σ) (states : List σ) : Prop :=
  ∀ x ∈ states, ∀ y ∈ states, K.key x = K.key y → x = y

lemma OnePerKey.loadOne (h : OnePerKey K states) (e : Option (StoreRecord σ)) :
    OnePerKey K (loadOne K now states e) := by
  unfold OnePerKey Connector.loadOne at *
  split
  · split
    · grind
    · exact h
  · split
    · exact h
    · grind
  · exact h

lemma onePerKey_loadJsonl (now : Nat) (file : Jsonl σ) : OnePerKey K (loadJsonl K now file) :=
  run_invariant (I := OnePerKey K) (fun _ e h => h.loadOne e) _ (fun _ hx => nomatch hx)

lemma get_of_mem (h : r ∈ loadJsonl K now file) : get K now (K.key r) file = some r := by
  cases hfind : get K now (K.key r) file with
  | none => exact absurd (find?_eq_none.mp hfind r h) (by simp)
  | some x =>
    have hkey : K.key x = K.key r := by simpa using find?_some hfind
    rw [onePerKey_loadJsonl now file x (mem_of_find?_eq_some hfind) r h hkey]

lemma mem_reload {m : List σ} (hstate : K.isState r = true) (hlive : K.live now r = true)
    (hunique : ∀ x ∈ m, K.key x = K.key r → x = r) (h : r ∈ states ∨ r ∈ m) :
    r ∈ run (loadOne K now) states (m.map fun x => some (.set x)) := by
  induction m generalizing states with
  | nil => exact h.resolve_right not_mem_nil
  | cons x m ih =>
    refine ih (fun y hy => hunique y (mem_cons_of_mem _ hy)) ?_
    by_cases hx : K.key x = K.key r
    · rw [hunique x mem_cons_self hx]
      exact .inl (mem_loadOne_set hstate hlive)
    · have hne : r ≠ x := fun heq => hx (heq ▸ rfl)
      rw [mem_loadOne _ (by rintro _ ⟨⟩; exact hx)]
      exact h.imp_right fun hr => (mem_cons.mp hr).resolve_left hne

/-! ## What the file holds -/

/-- The latest states are in complete lines, and stay in every later load until they expire. A
line without its end is of no call that returned. -/
structure Held (K : StoreKind σ) (s : StoreState σ) : Prop where
  latest : ∀ key r, s.latest key = some r → K.key r = key ∧ K.isState r = true ∧
    ∀ now, s.now ≤ now → K.live now r = true → r ∈ run (loadOne K now) [] s.file.lines
  tail : ∀ record, s.file.tail = some (some record) → s.latest (K.recordKey record) = none

variable {s : StoreState σ} {key : String} {latest : String → Option σ}

lemma Held.mem (h : Held K s) (hr : s.latest key = some r) (hnow : s.now ≤ now)
    (hlive : K.live now r = true) : r ∈ loadJsonl K now s.file := by
  obtain ⟨rfl, -, hlines⟩ := h.latest key r hr
  rw [loadJsonl, run_append]
  cases htail : s.file.tail with
  | none => exact hlines now hnow hlive
  | some e =>
    refine (mem_loadOne e fun record he heq => ?_).mpr (hlines now hnow hlive)
    have hnone := h.tail record (he ▸ htail)
    cases (heq ▸ hnone).symm.trans hr

lemma Held.durable (h : Held K s) : Durable K s := by
  intro key r hr hlive
  obtain ⟨rfl, -⟩ := h.latest key r hr
  exact get_of_mem (h.mem hr (Nat.le_refl _) hlive)

lemma Held.append (h : Held K s) (hlatest : ∀ key r, latest key = some r →
      e = some (.set r) ∧ K.key r = key ∧ K.isState r = true ∨
      s.latest key = some r ∧ ∀ record, e = some record → K.recordKey record ≠ key) :
    Held K { s with file := ⟨s.file.lines ++ [e], none⟩, latest } where
  latest key r hr := by
    rcases hlatest key r hr with ⟨rfl, hkey, hstate⟩ | ⟨hold, hother⟩
    · refine ⟨hkey, hstate, fun now _ hlive => ?_⟩
      rw [run_snoc]
      exact mem_loadOne_set hstate hlive
    · obtain ⟨rfl, hstate, hlines⟩ := h.latest key r hold
      refine ⟨rfl, hstate, fun now hnow hlive => ?_⟩
      rw [run_snoc, mem_loadOne e hother]
      exact hlines now hnow hlive
  tail := nofun

lemma update_none_eq_some
    (h : update latest k none key = some r) : k ≠ key ∧ latest key = some r := by
  by_cases hk : key = k
  · subst hk
    simp at h
  · exact ⟨Ne.symm hk, by simpa [hk] using h⟩

lemma Held.step (h : Held K s) {a : StoreEvent σ} (ha : AppendsLine K s a) :
    Held K (s.step K a) := by
  cases a with
  | append record =>
    obtain ⟨htail, hstate⟩ := ha
    have hfile : appendRecord record s.file = ⟨s.file.lines ++ [some record], none⟩ := by
      simp [appendRecord, htail]
    simp only [StoreState.step, hfile]
    refine h.append fun key r hr => ?_
    by_cases hkey : key = K.recordKey record
    · subst hkey
      cases record with
      | set x =>
        obtain rfl : x = r := by simpa using hr
        exact .inl ⟨rfl, rfl, hstate x rfl⟩
      | delete key => simp at hr
    · exact .inr ⟨by simpa [hkey] using hr, by rintro _ ⟨⟩; exact Ne.symm hkey⟩
  | crash record part =>
    cases part with
    | torn => exact ⟨h.latest, nofun⟩
    | unended =>
      refine ⟨fun key r hr => h.latest key r (update_none_eq_some hr).2, fun record' hr' => ?_⟩
      simp only [StoreState.step] at hr' ⊢
      split at hr'
      · cases hr'
        exact update_self ..
      · cases hr'
    | line =>
      refine h.append fun key r hr => .inr ⟨(update_none_eq_some hr).2, fun record' he => ?_⟩
      split at he <;> cases he
      exact (update_none_eq_some hr).1
  | compact =>
    refine ⟨fun key r hr => ?_, nofun⟩
    obtain ⟨rfl, hstate, -⟩ := h.latest key r hr
    refine ⟨rfl, hstate, fun now hnow hlive => mem_reload hstate hlive ?_ (.inr ?_)⟩
    · intro x hx hkey
      exact onePerKey_loadJsonl _ _ x hx r (h.mem hr (Nat.le_refl _) (K.live_anti hnow hlive)) hkey
    · exact h.mem hr (Nat.le_refl _) (K.live_anti hnow hlive)
  | wait ms =>
    refine ⟨fun key r hr => ?_, h.tail⟩
    obtain ⟨hkey, hstate, hlines⟩ := h.latest key r hr
    exact ⟨hkey, hstate, fun now hnow => hlines now (Nat.le_trans (Nat.le_add_right _ ms) hnow)⟩

/-- In a run whose calls append to whole lines, every state that was set is found until it
expires or is replaced. -/
theorem jsonl_durable {events : List (StoreEvent σ)}
    (h : Along (StoreState.step K) (AppendsLine K) {} events) :
    Durable K (run (StoreState.step K) {} events) :=
  (h.invariant (I := Held K) (fun _ _ hs ha => hs.step ha) ⟨nofun, nofun⟩).durable

end Store

def sampleReaction : StoredReactionState := ⟨"message", "reaction", "emoji", .processing, 0⟩

theorem jsonl_durable_reaction :
    let events := [.append (.set sampleReaction), .compact, .wait 1]
    Along (StoreState.step reactionStore) (AppendsLine reactionStore) {} events ∧
      Durable reactionStore (run (StoreState.step reactionStore) {} events) := by
  have h : Along (.step reactionStore) (AppendsLine reactionStore) {}
      [.append (.set sampleReaction), .compact, .wait 1] :=
    ⟨⟨rfl, by rintro _ ⟨⟩; decide⟩, trivial, trivial, trivial⟩
  exact ⟨h, jsonl_durable h⟩

/-- A crash leaves part of a line, and the next call writes behind it. -/
theorem jsonl_glued : ¬Durable reactionStore (run (StoreState.step reactionStore) {}
    [.crash (.set sampleReaction) .torn, .append (.set sampleReaction)]) :=
  fun h => nomatch h "message" sampleReaction rfl rfl

end AgentCore.Connector
