import AgentCore.Foundation.Run

/-! The content-addressed store, seen from the bytes of one digest: with an injective digest no
other bytes share their directory. The calls of any threads and processes are interleaved operation
by operation; a process that ends takes its calls with it, and what was written stays. -/

namespace AgentCore.Capabilities

open Foundation Function Option

abbrev Bytes := List UInt8

def maxObjectSize : Nat := 1 * 1024 * 1024

def maxTotalSize : Nat := 10 * 1024 * 1024

inductive StoreStage
  | look
  | mkdir
  | create
  | write
  | count
deriving DecidableEq

/-- A call of `store`, through a handle with its own `total_bytes`. -/
structure StoreCall where
  handle : Nat
  stage : StoreStage

structure StoreState where
  /-- The directory of the digest, and the object in it. -/
  dir : Option (Option Bytes) := none
  total : Nat → Nat := fun _ => 0
  calls : Nat → Option StoreCall := fun _ => none
  /-- A call returned `Ok`. -/
  stored : Bool := false
  /-- A call returned an error for bytes that were stored. -/
  refused : Bool := false

inductive LoadError
  | notFound
  | tooLarge
  | digestMismatch

inductive StoreEvent
  | begin (i handle : Nat)
  /-- The next operation of a call; a write that fails has written some bytes. -/
  | proceed (i : Nat) (succeeds : Bool) (written : Nat)
  /-- The process of a call ends. -/
  | die (i written : Nat)
  /-- A call for other bytes counts them. -/
  | other (handle length : Nat)

variable (data : Bytes)

namespace StoreState

def load (s : StoreState) : Except LoadError Bytes :=
  match s.dir.join with
  | none => .error .notFound
  | some bytes =>
    if maxObjectSize < bytes.length then .error .tooLarge
    else if bytes ≠ data then .error .digestMismatch
    else .ok bytes

def goOn (s : StoreState) (i : Nat) (c : StoreCall) (stage : StoreStage) : StoreState :=
  { s with calls := update s.calls i (some { c with stage }) }

def finish (s : StoreState) (i : Nat) (ok : Bool) : StoreState :=
  { s with
    calls := update s.calls i none
    stored := s.stored || ok
    refused := s.refused || !ok && s.stored }

def count (s : StoreState) (handle length : Nat) : StoreState :=
  { s with total := update s.total handle (s.total handle + length) }

def proceed (s : StoreState) (i : Nat) (c : StoreCall) (written : Nat) :
    StoreStage → Bool → StoreState
  | .look, _ => s.goOn i c (if s.dir.isSome then .count else .mkdir)
  | .mkdir, true => { s with dir := some s.dir.join }.goOn i c .create
  | .create, true => { s with dir := some (some []) }.goOn i c .write
  | .write, true => { s with dir := some (some data) }.goOn i c .count
  | .write, false => { s with dir := some (some (data.take written)) }.finish i false
  | .count, _ => (s.count c.handle data.length).finish i
      (decide (s.total c.handle + data.length ≤ maxTotalSize))
  | _, false => s.finish i false

def step (s : StoreState) : StoreEvent → StoreState
  | .begin i handle =>
    if (s.calls i).isSome then s
    else { s with calls := update s.calls i (some ⟨handle, .look⟩) }
  | .proceed i succeeds written =>
    match s.calls i with
    | none => s
    | some c => s.proceed data i c written c.stage succeeds
  | .die i written =>
    match s.calls i with
    | none => s
    | some c => { s with
        dir := if c.stage = .write then some (some (data.take written)) else s.dir
        calls := update s.calls i none }
  | .other handle length => s.count handle length

end StoreState

def RoundTrips (s : StoreState) : Prop :=
  (s.stored = true → s.load data = .ok data) ∧ s.refused = false

def StoreCall.Writes (c : StoreCall) : Prop := c.stage ≠ .look ∧ c.stage ≠ .count

/-- No call looks while another one writes, no write is cut short, and the bytes are within the
limit of one object, and of the handle if they are stored already. -/
def Careful (s : StoreState) : StoreEvent → Prop
  | .begin .. | .other .. => True
  | .proceed i succeeds _ => ∀ c, s.calls i = some c →
    (c.stage = .look → ∀ j c', s.calls j = some c' → ¬c'.Writes) ∧
    (c.stage = .create ∨ c.stage = .write → succeeds = true) ∧
    (c.stage = .count → data.length ≤ maxObjectSize ∧
      (s.stored = true → s.total c.handle + data.length ≤ maxTotalSize))
  | .die i _ => ∀ c, s.calls i = some c → c.stage ≠ .create ∧ c.stage ≠ .write

inductive Lane (s : StoreState) : Prop
  | absent (dir : s.dir = none) (new : s.stored = false)
      (calls : ∀ j c, s.calls j = some c → c.stage = .look)
  | written {i : Nat} {c : StoreCall} (call : s.calls i = some c) (writes : c.Writes)
      (dir : c.stage = .mkdir → s.dir = none) (new : s.stored = false)
      (calls : ∀ j c, j ≠ i → s.calls j = some c → c.stage = .look)
  | full (dir : s.dir = some (some data)) (small : s.stored = true → data.length ≤ maxObjectSize)
      (calls : ∀ j c, s.calls j = some c → ¬c.Writes)

variable {data} {s : StoreState} {i : Nat} {c : StoreCall}

lemma Lane.load (h : Lane data s) (hstored : s.stored = true) : s.load data = .ok data := by
  cases h with
  | absent _ new _ | written _ _ _ new _ => cases new.symm.trans hstored
  | full dir small _ => simp [StoreState.load, dir, small hstored]

lemma forall_update {P : Nat → StoreCall → Prop} (hx : ∀ c, x = some c → P i c)
    (hothers : ∀ j c, j ≠ i → s.calls j = some c → P j c) (j : Nat) (c : StoreCall)
    (hj : update s.calls i x j = some c) : P j c := by
  by_cases hne : j = i
  · subst hne
    exact hx c (by simpa using hj)
  · exact hothers j c hne (by simpa [hne] using hj)

lemma Lane.of_writes (h : Lane data s) (hc : s.calls i = some c) (hw : c.Writes) :
    (c.stage = .mkdir → s.dir = none) ∧ s.stored = false ∧
      ∀ j c', j ≠ i → s.calls j = some c' → c'.stage = .look := by
  cases h with
  | absent dir new calls => exact absurd (calls i c hc) hw.1
  | @written i' c' call writes dir new calls =>
    by_cases hi : i = i'
    · subst hi
      cases call.symm.trans hc
      exact ⟨dir, new, calls⟩
    · exact absurd (calls i c hi hc) hw.1
  | full dir small calls => exact absurd hw (calls i c hc)

lemma Lane.idle (h : Lane data s) (hc : ∀ c, s.calls i = some c → ¬c.Writes)
    (hx : ∀ c, x = some c → c.stage = .look) :
    Lane data { s with calls := update s.calls i x } := by
  cases h with
  | absent dir new calls =>
    exact .absent dir new (forall_update hx fun j c _ => calls j c)
  | @written i' c' call writes dir new calls =>
    have hi : i' ≠ i := fun heq => hc c' (heq ▸ call) writes
    have hcalls := forall_update (i := i) (P := fun j c => j ≠ i' → c.stage = .look)
      (fun c h _ => hx c h) fun j c _ h hne => calls j c hne h
    exact .written ((update_of_ne hi ..).trans call) writes dir new
      fun j c hne hj => hcalls j c hj hne
  | full dir small calls =>
    exact .full dir small (forall_update (fun c h hw => hw.1 (hx c h)) fun j c _ => calls j c)

lemma Lane.goOn (hwrites : stage ≠ .look ∧ stage ≠ .count)
    (hdir : stage = .mkdir → s.dir = none) (hnew : s.stored = false)
    (hothers : ∀ j c, j ≠ i → s.calls j = some c → c.stage = .look) :
    Lane data (s.goOn i c stage) :=
  .written (update_self ..) hwrites hdir hnew fun j c hne hj =>
    hothers j c hne ((update_of_ne hne ..).symm.trans hj)

lemma Lane.proceed (h : Lane data s) (hc : s.calls i = some c) {succeeds : Bool} {written : Nat}
    (ha : Careful data s (.proceed i succeeds written)) :
    Lane data (s.proceed data i c written c.stage succeeds) ∧
      (s.proceed data i c written c.stage succeeds).refused = s.refused := by
  obtain ⟨hlook, hwrite, hcount⟩ := ha c hc
  have hwrites := fun hw => h.of_writes hc hw
  unfold StoreCall.Writes at hwrites
  cases hstage : c.stage with
  | look =>
    refine ⟨?_, rfl⟩
    cases h with
    | absent dir new calls =>
      simp only [StoreState.proceed, dir, isSome_none, Bool.false_eq_true, if_false]
      exact .goOn ⟨nofun, nofun⟩ (fun _ => dir) new fun j c _ => calls j c
    | written call writes => exact absurd writes (hlook hstage _ _ call)
    | full dir small calls =>
      simp only [StoreState.proceed, dir, isSome_some, if_true]
      refine .full dir small (forall_update (fun c' h hw => ?_) fun j c _ => calls j c)
      exact hw.2 (some.inj h ▸ rfl)
  | mkdir =>
    obtain ⟨hdir, hnew, hothers⟩ := hwrites (by simp [hstage])
    cases succeeds with
    | true => exact ⟨.goOn ⟨nofun, nofun⟩ nofun hnew hothers, rfl⟩
    | false =>
      refine ⟨.absent (hdir hstage) (by simp [StoreState.proceed, StoreState.finish, hnew])
        (forall_update nofun hothers), by simp [StoreState.proceed, StoreState.finish, hnew]⟩
  | create =>
    obtain ⟨-, hnew, hothers⟩ := hwrites (by simp [hstage])
    obtain rfl := hwrite (.inl hstage)
    exact ⟨.goOn ⟨nofun, nofun⟩ nofun hnew hothers, rfl⟩
  | write =>
    obtain ⟨-, hnew, hothers⟩ := hwrites (by simp [hstage])
    obtain rfl := hwrite (.inr hstage)
    refine ⟨.full rfl (fun hst => nomatch hnew.symm.trans hst)
      (forall_update (fun c' h hw => ?_) fun j c hne hj hw => hw.1 (hothers j c hne hj)), rfl⟩
    exact hw.2 (some.inj h ▸ rfl)
  | count =>
    obtain ⟨hsmall, htotal⟩ := hcount hstage
    cases h with
    | absent dir new calls => cases hstage.symm.trans (calls i c hc)
    | @written i' c' call writes dir new calls =>
      by_cases hi : i = i'
      · subst hi
        cases call.symm.trans hc
        exact absurd hstage writes.2
      · cases hstage.symm.trans (calls i c hi hc)
    | full dir small calls =>
      refine ⟨.full dir (fun _ => hsmall) (forall_update nofun fun j c _ => calls j c), ?_⟩
      simp only [StoreState.proceed, StoreState.finish, StoreState.count]
      cases hst : s.stored with
      | false => simp
      | true => simp [htotal hst]

lemma Lane.step (h : Lane data s) {a : StoreEvent} (ha : Careful data s a) :
    Lane data (s.step data a) ∧ (s.step data a).refused = s.refused := by
  cases a with
  | begin i handle =>
    simp only [StoreState.step]
    split
    · exact ⟨h, rfl⟩
    · next hfree =>
      refine ⟨h.idle (fun c hc => absurd (by simp [hc]) hfree) fun c hc => ?_, rfl⟩
      exact some.inj hc ▸ rfl
  | proceed i succeeds written =>
    simp only [StoreState.step]
    split
    · exact ⟨h, rfl⟩
    · next c hc => exact h.proceed hc ha
  | die i written =>
    simp only [StoreState.step]
    split
    · exact ⟨h, rfl⟩
    · next c hc =>
      obtain ⟨hcreate, hwrite⟩ := ha c hc
      rw [if_neg hwrite]
      refine ⟨?_, rfl⟩
      by_cases hmkdir : c.stage = .mkdir
      · obtain ⟨hdir, hnew, hothers⟩ := h.of_writes hc (by simp [StoreCall.Writes, hmkdir])
        exact .absent (hdir hmkdir) hnew (forall_update nofun hothers)
      · refine h.idle (fun c' hc' hw => ?_) nofun
        cases hc.symm.trans hc'
        cases hstage : c.stage <;> simp_all [StoreCall.Writes]
  | other handle length =>
    refine ⟨?_, rfl⟩
    cases h with
    | absent dir new calls => exact .absent dir new calls
    | written call writes dir new calls => exact .written call writes dir new calls
    | full dir small calls => exact .full dir small calls

/-- In a run of careful steps what was stored loads, and is not refused. -/
theorem content_round_trips {events : List StoreEvent}
    (h : Along (StoreState.step data) (Careful data) {} events) :
    RoundTrips data (run (StoreState.step data) {} events) := by
  have hrun := h.invariant (I := fun s => Lane data s ∧ s.refused = false)
    (fun s a hs ha => ⟨(hs.1.step ha).1, (hs.1.step ha).2.trans hs.2⟩)
    ⟨.absent rfl rfl nofun, rfl⟩
  exact ⟨hrun.1.load, hrun.2⟩

def sampleStore (i : Nat) : List StoreEvent :=
  .begin i 0 :: List.replicate 5 (.proceed i true 0)

theorem content_round_trips_once :
    Along (StoreState.step [1]) (Careful [1]) {} (sampleStore 0) ∧
      RoundTrips [1] (run (StoreState.step [1]) {} (sampleStore 0)) := by
  have h : Along (.step [1]) (Careful [1]) {} (sampleStore 0) := by
    simp [sampleStore, Along, Careful, StoreState.step, StoreState.proceed, StoreState.goOn,
      StoreCall.Writes, update_apply, maxObjectSize]
  exact ⟨h, content_round_trips h⟩

/-- A process that ends after it made the directory: the next call stores nothing and succeeds. -/
theorem content_lost : ¬RoundTrips [1] (run (StoreState.step [1]) {}
    ([.begin 0 0, .proceed 0 true 0, .proceed 0 true 0, .die 0 0] ++ sampleStore 1)) :=
  fun h => nomatch h.1 rfl

end AgentCore.Capabilities
