import AgentCore.Foundation.Tx

/-!
# Computations that take time

A computation takes some time and then answers or fails. In a sequence the times add up, and nothing
after a failure takes any.
-/

namespace AgentCore.Foundation

structure Timed (ε α : Type) where
  elapsed : Nat
  result : Except ε α

namespace Timed

variable {ε α β : Type} {x : Timed ε α}

def now (x : Except ε α) : Timed ε α := ⟨0, x⟩

def andThen (x : Timed ε α) (f : α → Timed ε β) : Timed ε β :=
  match x.result with
  | .ok a => ⟨x.elapsed + (f a).elapsed, (f a).result⟩
  | .error e => ⟨x.elapsed, .error e⟩

instance : Monad (Timed ε) where
  pure a := now (.ok a)
  bind := andThen

@[simp] lemma elapsed_now (x : Except ε α) : (now x).elapsed = 0 := rfl

@[simp] lemma result_now (x : Except ε α) : (now x).result = x := rfl

lemma bind_of_ok (h : x.result = .ok a) (f : α → Timed ε β) :
    x >>= f = ⟨x.elapsed + (f a).elapsed, (f a).result⟩ := by
  change andThen x f = _
  unfold andThen
  rw [h]

lemma bind_of_error (h : x.result = .error e) (f : α → Timed ε β) :
    x >>= f = ⟨x.elapsed, .error e⟩ := by
  change andThen x f = _
  unfold andThen
  rw [h]

lemma result_bind (x : Timed ε α) (f : α → Timed ε β) :
    (x >>= f).result = x.result >>= fun a => (f a).result := by
  cases h : x.result with
  | ok a => rw [bind_of_ok h]; rfl
  | error e => rw [bind_of_error h]; rfl

lemma elapsed_bind_now (x : Timed ε α) (f : α → Except ε β) :
    (x >>= fun a => now (f a)).elapsed = x.elapsed := by
  cases h : x.result with
  | ok a => rw [bind_of_ok h, elapsed_now, Nat.add_zero]
  | error e => rw [bind_of_error h]

def mapError {ε' : Type} (x : Timed ε α) (f : ε → ε') : Timed ε' α :=
  ⟨x.elapsed, x.result.mapError f⟩

lemma elapsed_bind_le {f : α → Timed ε β} (hx : x.elapsed ≤ m)
    (hf : ∀ a, x.result = .ok a → (f a).elapsed ≤ n) : (x >>= f).elapsed ≤ m + n := by
  cases h : x.result with
  | ok a =>
    rw [bind_of_ok h]
    exact Nat.add_le_add hx (hf a h)
  | error e =>
    rw [bind_of_error h]
    exact Nat.le_trans hx (Nat.le_add_right m n)

end Timed

end AgentCore.Foundation
