import Mathlib.Data.List.Forall2

/-! Transactions as functions that answer with an error or with a result. An error
rolls back: the caller keeps the state it had. -/

namespace AgentCore.Foundation

open List

variable {ε α β σ : Type} {x : Except ε α} {f : α → Except ε β} {b : β} {a : α} {e : ε} {s : σ}
  {statements : List (σ → Except ε σ)}

lemma bind_eq_ok : (x >>= f) = .ok b ↔ ∃ a, x = .ok a ∧ f a = .ok b := by
  cases x with
  | error e | ok a => simp [bind, Except.bind]

lemma check_bind_eq_ok {x : Except ε Unit} {f : Unit → Except ε β} :
    (x >>= f) = .ok b ↔ x = .ok () ∧ f () = .ok b := by
  cases x with
  | error e | ok a => simp [bind, Except.bind]

lemma return_eq_ok {b : α} : (return a : Except ε α) = .ok b ↔ a = b := by
  simp [pure, Except.pure]

lemma throw_ne_ok {b : α} : (throw e : Except ε α) ≠ .ok b := by
  simp [throw, throwThe, MonadExceptOf.throw]

lemma map_snd_eq_ok {x : Except ε (α × β)} (h : x.map Prod.snd = .ok b) : ∃ a, x = .ok (a, b) := by
  cases x with
  | error e => cases h
  | ok p => exact ⟨p.1, by rw [← Except.ok.inj h]⟩

lemma mapError_eq_ok {ε' : Type} {f : ε → ε'} : x.mapError f = .ok a ↔ x = .ok a := by
  cases x <;> simp [Except.mapError]

def require (c : Prop) [Decidable c] (message : String) : Except String Unit :=
  if c then .ok () else .error message

@[simp] lemma require_eq_ok [Decidable c] : require c message = .ok u ↔ c := by
  unfold require
  split <;> simp_all

def okOr {ε α : Type} (x : Option α) (e : ε) : Except ε α :=
  match x with
  | some a => .ok a
  | none => .error e

@[simp] lemma okOr_eq_ok {x : Option α} : okOr x e = .ok a ↔ x = some a := by
  cases x <;> simp [okOr]

def commit {ε σ : Type} (s : σ) : Except ε σ → σ
  | .ok s' => s'
  | .error _ => s

@[simp] lemma commit_ok (s s' : σ) : commit (ε := ε) s (.ok s') = s' := rfl

@[simp] lemma commit_error (s : σ) (e : ε) : commit s (.error e) = s := rfl

lemma commit_cases {P : σ → Prop} {result : Except ε σ} (hs : P s)
    (h : ∀ s', result = .ok s' → P s') : P (commit s result) := by
  cases hresult : result with
  | error e => exact hs
  | ok s' => exact h s' hresult

lemma mapM_eq_ok : l.mapM f = .ok l' ↔ List.Forall₂ (fun a b => f a = .ok b) l l' := by
  induction l generalizing l' with
  | nil => simp [pure, Except.pure, forall₂_nil_left_iff, eq_comm]
  | cons a l ih =>
    simp only [mapM_cons, bind_eq_ok, forall₂_cons_left_iff, return_eq_ok, ih]
    constructor
    · rintro ⟨b, hb, bs, hbs, rfl⟩
      exact ⟨b, bs, hb, hbs, rfl⟩
    · rintro ⟨b, bs, hb, hbs, rfl⟩
      exact ⟨b, hb, bs, hbs, rfl⟩

/-! ## Statements -/

def inOrder {ε σ : Type} (statements : List (σ → Except ε σ)) (s : σ) : Except ε σ :=
  statements.foldlM (fun s statement => statement s) s

lemma inOrder_cons (statement : σ → Except ε σ) (rest : List (σ → Except ε σ)) (s : σ) :
    inOrder (statement :: rest) s = (statement s >>= inOrder rest) := by
  simp only [inOrder, foldlM_cons]
  rfl

lemma inOrder_append (first rest : List (σ → Except ε σ)) (s : σ) :
    inOrder (first ++ rest) s = (inOrder first s >>= inOrder rest) := by
  simp only [inOrder, foldlM_append]
  rfl

/-- Statements outside a transaction: each one that succeeds stays, and an error ends the
sequence where it stands. -/
def autocommit {ε σ : Type} : List (σ → Except ε σ) → σ → Except ε Unit × σ
  | [], s => (.ok (), s)
  | statement :: rest, s =>
    match statement s with
    | .ok s' => autocommit rest s'
    | .error e => (.error e, s)

lemma autocommit_invariant {I : σ → Prop}
    (hkeep : ∀ statement ∈ statements, ∀ s s', statement s = .ok s' → I s → I s') (hs : I s) :
    I (autocommit statements s).2 := by
  induction statements generalizing s with
  | nil => exact hs
  | cons statement rest ih =>
    simp only [autocommit]
    split
    · next s' hs' =>
      exact ih (fun t ht => hkeep t (mem_cons_of_mem _ ht))
        (hkeep statement mem_cons_self s s' hs' hs)
    · exact hs

lemma autocommit_of_inOrder (h : inOrder statements s = .ok s') :
    autocommit statements s = (.ok (), s') := by
  induction statements generalizing s with
  | nil =>
    cases h
    rfl
  | cons statement rest ih =>
    rw [inOrder_cons] at h
    obtain ⟨s₁, hs₁, hrest⟩ := bind_eq_ok.mp h
    simp only [autocommit, hs₁]
    exact ih hrest

end AgentCore.Foundation
