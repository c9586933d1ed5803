import Mathlib.Data.List.Basic

/-! Programs over a state that leave a trace of what they did and may stop early. The rules
below compose what is known of the parts: what comes before each act, how many acts of a
kind there are, and what the trace says of the change of the state. -/

namespace AgentCore.Foundation

open List

structure Ended (ε act σ α : Type) where
  trace : List act
  state : σ
  result : Except ε α

def Traced (ε act σ α : Type) : Type := σ → Ended ε act σ α

namespace Traced

variable {ε ε' act σ α β : Type} {x : Traced ε act σ α} {acts : σ → σ → List act} {s s' : σ}
  {f : α → Traced ε act σ β} {P : List act → act → Prop} {a : α} {t : List act}
  {tx : σ → Except ε (α × σ)}

def done (a : α) : Traced ε act σ α := fun s => ⟨[], s, .ok a⟩

def stop (e : ε) : Traced ε act σ α := fun s => ⟨[], s, .error e⟩

def andThen (x : Traced ε act σ α) (f : α → Traced ε act σ β) : Traced ε act σ β := fun s =>
  match (x s).result with
  | .error e => ⟨(x s).trace, (x s).state, .error e⟩
  | .ok a => ⟨(x s).trace ++ (f a (x s).state).trace, (f a (x s).state).state,
      (f a (x s).state).result⟩

instance : Monad (Traced ε act σ) where
  pure := done
  bind := andThen

def ofExcept : Except ε α → Traced ε act σ α
  | .ok a => done a
  | .error e => stop e

def reads (f : σ → Except ε α) : Traced ε act σ α := fun s => ⟨[], s, f s⟩

def does (a : act) : Traced ε act σ Unit := fun s => ⟨[a], s, .ok ()⟩

/-- A transaction: a failure leaves the state as it was, a commit is seen as the acts that
lead from the state before to the state after. -/
def commits (acts : σ → σ → List act) (tx : σ → Except ε (α × σ)) : Traced ε act σ α := fun s =>
  match tx s with
  | .error e => ⟨[], s, .error e⟩
  | .ok (a, s') => ⟨acts s s', s', .ok a⟩

def attempt (x : Traced ε act σ α) : Traced ε' act σ (Except ε α) := fun s =>
  ⟨(x s).trace, (x s).state, .ok (x s).result⟩

lemma bind_def (x : Traced ε act σ α) (f : α → Traced ε act σ β) : x >>= f = andThen x f := rfl

lemma bind_of_ok (f : α → Traced ε act σ β) (h : (x s).result = .ok a) :
    (x >>= f) s = ⟨(x s).trace ++ (f a (x s).state).trace, (f a (x s).state).state,
      (f a (x s).state).result⟩ := by
  rw [bind_def, andThen, h]

lemma bind_of_error (f : α → Traced ε act σ β)
    (h : (x s).result = .error e) : (x >>= f) s = ⟨(x s).trace, (x s).state, .error e⟩ := by
  rw [bind_def, andThen, h]

lemma bind_assoc {γ : Type} (x : Traced ε act σ α) (f : α → Traced ε act σ β)
    (g : β → Traced ε act σ γ) : x >>= f >>= g = x >>= fun a => f a >>= g := by
  funext s
  cases hx : (x s).result with
  | error e =>
    have hfirst : ((x >>= f) s).result = .error e := by rw [bind_of_error f hx]
    rw [bind_of_error g hfirst, bind_of_error f hx, bind_of_error _ hx]
  | ok a =>
    cases hf : (f a (x s).state).result with
    | error e =>
      have hfirst : ((x >>= f) s).result = .error e := by rw [bind_of_ok f hx, hf]
      rw [bind_of_error g hfirst, bind_of_ok f hx, bind_of_ok _ hx, bind_of_error g hf]
    | ok b =>
      have hfirst : ((x >>= f) s).result = .ok b := by rw [bind_of_ok f hx, hf]
      rw [bind_of_ok g hfirst, bind_of_ok f hx, bind_of_ok _ hx, bind_of_ok g hf, append_assoc]

lemma bind_eq_ok (h : (x >>= f) s = ⟨t, s', .ok b⟩) :
    ∃ t₁ s₁ a t₂, x s = ⟨t₁, s₁, .ok a⟩ ∧ f a s₁ = ⟨t₂, s', .ok b⟩ ∧ t = t₁ ++ t₂ := by
  cases hx : x s with
  | mk t₁ s₁ result =>
    cases result with
    | error e =>
      rw [bind_of_error f (by rw [hx])] at h
      cases h
    | ok a =>
      rw [bind_of_ok f (by rw [hx]), hx] at h
      cases hf : f a s₁ with
      | mk t₂ s₂ result =>
        rw [hf] at h
        cases h
        exact ⟨t₁, s₁, a, t₂, rfl, hf, rfl⟩

lemma commits_cases (acts : σ → σ → List act) (tx : σ → Except ε (α × σ)) (s : σ) :
    (∃ e, tx s = .error e ∧ commits acts tx s = ⟨[], s, .error e⟩) ∨
      ∃ a s', tx s = .ok (a, s') ∧ commits acts tx s = ⟨acts s s', s', .ok a⟩ := by
  cases htx : tx s with
  | error e => exact .inl ⟨e, rfl, by rw [commits, htx]⟩
  | ok out => exact .inr ⟨out.1, out.2, rfl, by rw [commits, htx]⟩

lemma commits_eq_ok (h : commits acts tx s = ⟨t, s', .ok a⟩) :
    tx s = .ok (a, s') ∧ t = acts s s' := by
  rcases commits_cases acts tx s with ⟨e, -, hrun⟩ | ⟨a', s'', htx, hrun⟩
  · rw [hrun] at h
    cases h
  · rw [hrun] at h
    cases h
    exact ⟨htx, rfl⟩

/-! ## What comes before an act -/

def Guarded (P : List act → act → Prop) (x : Traced ε act σ α) (s : σ) : Prop :=
  ∀ before a after, (x s).trace = before ++ a :: after → P before a

lemma Guarded.bind (hx : Guarded P x s)
    (hf : ∀ t s' a, x s = ⟨t, s', .ok a⟩ → Guarded (fun before => P (t ++ before)) (f a) s') :
    Guarded P (x >>= f) s := by
  intro before a after htrace
  cases hrun : x s with
  | mk t s' result =>
    cases result with
    | error e =>
      rw [bind_of_error f (by rw [hrun])] at htrace
      exact hx before a after htrace
    | ok v =>
      rw [bind_of_ok f (by rw [hrun]), hrun] at htrace
      -- The act falls into the first part or, with that part before it, into the second.
      rcases append_eq_append_iff.mp htrace with ⟨rest, hbefore, hrest⟩ | ⟨rest, hfirst, hrest⟩
      · rw [hbefore]
        exact hf t s' v hrun rest a after hrest
      · cases rest with
        | nil =>
          have hbefore : before = t ++ [] := by simpa using hfirst.symm
          rw [hbefore]
          exact hf t s' v hrun [] a after (by simpa using hrest.symm)
        | cons b rest =>
          obtain ⟨rfl, -⟩ := cons.inj hrest
          exact hx before a rest (by rw [hrun]; exact hfirst)

/-! ## Every act and every state -/

/-- From states that satisfy `I` the program ends in such a state, and each act it did
satisfies `Q`. -/
def Safe (I : σ → Prop) (Q : act → Prop) (x : Traced ε act σ α) : Prop :=
  ∀ s, I s → I (x s).state ∧ ∀ a ∈ (x s).trace, Q a

section Rules

variable {I : σ → Prop} {Q : act → Prop}

lemma safe_done (a : α) : Safe I Q (done a : Traced ε act σ α) :=
  fun _ hs => ⟨hs, fun _ ha => absurd ha not_mem_nil⟩

lemma safe_stop (e : ε) : Safe I Q (stop e : Traced ε act σ α) :=
  fun _ hs => ⟨hs, fun _ ha => absurd ha not_mem_nil⟩

lemma safe_reads (query : σ → Except ε α) : Safe I Q (reads query : Traced ε act σ α) :=
  fun _ hs => ⟨hs, fun _ ha => absurd ha not_mem_nil⟩

lemma safe_does {a : act} (h : Q a) : Safe I Q (does a : Traced ε act σ Unit) :=
  fun _ hs => ⟨hs, fun b hb => by rw [mem_singleton.mp hb]; exact h⟩

lemma Safe.bind (hx : Safe I Q x)
    (hf : ∀ s a, I s → (x s).result = .ok a → Safe I Q (f a)) : Safe I Q (x >>= f) := by
  intro s hs
  obtain ⟨hs', hacts⟩ := hx s hs
  cases hresult : (x s).result with
  | error e =>
    rw [bind_of_error f hresult]
    exact ⟨hs', hacts⟩
  | ok a =>
    rw [bind_of_ok f hresult]
    obtain ⟨hs'', hacts'⟩ := hf s a hs hresult (x s).state hs'
    refine ⟨hs'', fun b hb => ?_⟩
    rcases mem_append.mp hb with hb | hb
    · exact hacts b hb
    · exact hacts' b hb

lemma safe_ofExcept (r : Except ε α) : Safe I Q (ofExcept r : Traced ε act σ α) := by
  cases r with
  | error e => exact safe_stop e
  | ok a => exact safe_done a

lemma ofExcept_eq_ok {r : Except ε α} (h : ((ofExcept r : Traced ε act σ α) s).result = .ok a) :
    r = .ok a := by
  cases r with
  | error e => cases h
  | ok b => exact h

lemma Safe.mono (hx : Safe I Q x) (h : ∀ a, Q a → Q' a) : Safe I Q' x :=
  fun s hs => ⟨(hx s hs).1, fun a ha => h a ((hx s hs).2 a ha)⟩

lemma Safe.attempt (hx : Safe I Q x) : Safe I Q (attempt x : Traced ε' act σ (Except ε α)) := hx

lemma safe_commits (h : ∀ s a s', I s → tx s = .ok (a, s') → I s' ∧ ∀ b ∈ acts s s', Q b) :
    Safe I Q (commits acts tx) := by
  intro s hs
  rcases commits_cases acts tx s with ⟨e, -, hrun⟩ | ⟨a, s', htx, hrun⟩
  · rw [hrun]
    exact ⟨hs, fun _ hb => absurd hb not_mem_nil⟩
  · rw [hrun]
    exact h s a s' hs htx

end Rules

/-! ## How often -/

def AtMost (kind : act → Bool) (n : Nat) (x : Traced ε act σ α) : Prop :=
  ∀ s, (x s).trace.countP kind ≤ n

section Counting

variable {kind : act → Bool} {n : Nat}

lemma atMost_of_safe (h : Safe (fun _ => True) (fun a => kind a = false) x) : AtMost kind 0 x := by
  intro s
  rw [Nat.le_zero, countP_eq_zero]
  intro a ha
  rw [(h s trivial).2 a ha]
  exact Bool.false_ne_true

lemma AtMost.mono (h : AtMost kind m x) (hmn : m ≤ n) : AtMost kind n x :=
  fun s => Nat.le_trans (h s) hmn

lemma atMost_does (a : act) : AtMost kind 1 (does a : Traced ε act σ Unit) :=
  fun _ => countP_le_length

lemma AtMost.bind (hx : AtMost kind m x) (hf : ∀ a, AtMost kind n (f a)) :
    AtMost kind (m + n) (x >>= f) := by
  intro s
  cases hresult : (x s).result with
  | error e =>
    rw [bind_of_error f hresult]
    exact Nat.le_trans (hx s) (Nat.le_add_right m n)
  | ok a =>
    rw [bind_of_ok f hresult, countP_append]
    exact Nat.add_le_add (hx s) (hf a _)

lemma AtMost.attempt (hx : AtMost kind n x) :
    AtMost kind n (attempt x : Traced ε' act σ (Except ε α)) := hx

end Counting

/-! ## What the trace says of the state -/

/-- A relation between states that the trace between them labels, such as a log that
grows by what the trace shows. -/
structure Composes (R : σ → List act → σ → Prop) : Prop where
  refl : ∀ s, R s [] s
  trans : ∀ {s t s' t' s''}, R s t s' → R s' t' s'' → R s (t ++ t') s''

def Labels (R : σ → List act → σ → Prop) (x : Traced ε act σ α) : Prop :=
  ∀ s, R s (x s).trace (x s).state

section Labelling

variable {R : σ → List act → σ → Prop}

lemma Labels.bind (hR : Composes R) (hx : Labels R x) (hf : ∀ a, Labels R (f a)) :
    Labels R (x >>= f) := by
  intro s
  cases hresult : (x s).result with
  | error e =>
    rw [bind_of_error f hresult]
    exact hx s
  | ok a =>
    rw [bind_of_ok f hresult]
    exact hR.trans (hx s) (hf a _)

lemma Labels.attempt (hx : Labels R x) : Labels R (attempt x : Traced ε' act σ (Except ε α)) := hx

lemma labels_commits (hR : Composes R)
    (h : ∀ s a s', tx s = .ok (a, s') → R s (acts s s') s') : Labels R (commits acts tx) := by
  intro s
  rcases commits_cases acts tx s with ⟨e, -, hrun⟩ | ⟨a, s', htx, hrun⟩
  · rw [hrun]
    exact hR.refl s
  · rw [hrun]
    exact h s a s' htx

end Labelling

/-! ## Return in spite of acts that may be the last -/

/-- From `P` the program returns in a state that satisfies `R`, and each act on the way
satisfies `C`: what is left if the program is cut off after it. -/
def Triple (P : σ → Prop) (x : Traced ε act σ α) (R : α → σ → Prop) (C : act → Prop) : Prop :=
  ∀ s, P s → ∃ a, (x s).result = .ok a ∧ R a (x s).state ∧ ∀ b ∈ (x s).trace, C b

section Triples

variable {P : σ → Prop} {R : α → σ → Prop} {C : act → Prop}

lemma triple_done (h : ∀ s, P s → R a s) : Triple P (done a : Traced ε act σ α) R C :=
  fun s hs => ⟨a, rfl, h s hs, fun _ hb => absurd hb not_mem_nil⟩

lemma triple_reads (h : ∀ s, P s → ∃ a, query s = .ok a ∧ R a s) :
    Triple P (reads query : Traced ε act σ α) R C := by
  intro s hs
  obtain ⟨a, hquery, hR⟩ := h s hs
  exact ⟨a, hquery, hR, fun _ hb => absurd hb not_mem_nil⟩

lemma triple_commits (h : ∀ s, P s → ∃ a s', tx s = .ok (a, s') ∧ R a s' ∧ ∀ b ∈ acts s s', C b) :
    Triple P (commits acts tx) R C := by
  intro s hs
  obtain ⟨a, s', htx, hR, hC⟩ := h s hs
  rcases commits_cases acts tx s with ⟨e, herror, -⟩ | ⟨a', s'', hok, hrun⟩
  · rw [htx] at herror
    cases herror
  · rw [htx] at hok
    cases hok
    rw [hrun]
    exact ⟨a, rfl, hR, hC⟩

lemma Triple.bind (hx : Triple P x R C) (hf : ∀ a, Triple (R a) (f a) S C) :
    Triple P (x >>= f) S C := by
  intro s hs
  obtain ⟨a, hresult, hR, hacts⟩ := hx s hs
  obtain ⟨b, hresult', hS, hacts'⟩ := hf a _ hR
  rw [bind_of_ok f hresult]
  refine ⟨b, hresult', hS, fun c hc => ?_⟩
  rcases mem_append.mp hc with hc | hc
  · exact hacts c hc
  · exact hacts' c hc

lemma Triple.conseq (hx : Triple P x R C) (hP : ∀ s, P' s → P s) (hR : ∀ a s, R a s → R' a s)
    (hC : ∀ b, C b → C' b) : Triple P' x R' C' := by
  intro s hs
  obtain ⟨a, hresult, hRa, hacts⟩ := hx s (hP s hs)
  exact ⟨a, hresult, hR a _ hRa, fun b hb => hC b (hacts b hb)⟩

lemma Triple.at (hx : Triple P x R C) (hs : P s) : Triple (· = s) x R C :=
  fun _ heq => heq ▸ hx s hs

end Triples

end Traced

end AgentCore.Foundation
