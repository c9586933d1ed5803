import AgentCore.Foundation.Run

/-! Threads over a shared state. Each action of a thread is atomic, actions of different
threads interleave in any order, a crash halts every thread and leaves the shared state. -/

namespace AgentCore.Foundation

open List

structure Pool (σ τ : Type*) where
  shared : σ
  threads : List τ := []

/-- What a pool runs: the threads that may be started, the next action of a thread on an
input from outside, what a crash leaves of a thread, and the actions of everything else. -/
structure Machine (σ τ ι κ ω : Type*) where
  start : κ → τ
  act : ι → τ → σ → τ × σ
  halt : τ → τ
  other : ω → σ → σ

namespace Pool

inductive Act (ι κ ω : Type*)
  | spawn (k : κ)
  | advance (i : Nat) (x : ι)
  | crash
  | other (o : ω)

variable {σ τ ι κ ω : Type*} {M : Machine σ τ ι κ ω} {p : Pool σ τ} {i : Nat}

def step (M : Machine σ τ ι κ ω) (p : Pool σ τ) : Act ι κ ω → Pool σ τ
  | .spawn k => { p with threads := p.threads ++ [M.start k] }
  | .advance i x =>
    match p.threads[i]? with
    | none => p
    | some t => ⟨(M.act x t p.shared).2, p.threads.set i (M.act x t p.shared).1⟩
  | .crash => { p with threads := p.threads.map M.halt }
  | .other o => { p with shared := M.other o p.shared }

lemma step_advance (h : p.threads[i]? = some t) (x : ι) : step M p (.advance i x) =
      ⟨(M.act x t p.shared).2, p.threads.set i (M.act x t p.shared).1⟩ := by
  simp only [step, h]

lemma step_advance_none (h : p.threads[i]? = none) (x : ι) : step M p (.advance i x) = p := by
  simp only [step, h]

lemma mem_threads_step (h : u ∈ (step M p a).threads) :
    u ∈ p.threads ∨ (∃ k, u = M.start k) ∨ (∃ t, u = M.halt t) ∨
      ∃ i x t, a = .advance i x ∧ p.threads[i]? = some t ∧ u = (M.act x t p.shared).1 := by
  cases a with
  | spawn k =>
    rcases mem_append.mp h with hold | hnew
    · exact .inl hold
    · exact .inr (.inl ⟨k, mem_singleton.mp hnew⟩)
  | advance i x =>
    cases hthread : p.threads[i]? with
    | none =>
      rw [step_advance_none hthread] at h
      exact .inl h
    | some t =>
      rw [step_advance hthread] at h
      rcases mem_or_eq_of_mem_set h with hold | hnew
      · exact .inl hold
      · exact .inr (.inr (.inr ⟨i, x, t, rfl, hthread, hnew⟩))
  | crash =>
    obtain ⟨t, -, rfl⟩ := mem_map.mp h
    exact .inr (.inr (.inl ⟨t, rfl⟩))
  | other o => exact .inl h

structure Holds (G : σ → Prop) (L : τ → σ → Prop) (K : τ → τ → Prop) (p : Pool σ τ) : Prop where
  shared : G p.shared
  each : ∀ t ∈ p.threads, L t p.shared
  pairs : ∀ (i j : Nat) t u, i ≠ j → p.threads[i]? = some t → p.threads[j]? = some u → K t u

variable {M : Machine σ τ ι κ ω} {G : σ → Prop} {L : τ → σ → Prop} {K : τ → τ → Prop} {p : Pool σ τ}

lemma holds_init (h : G s) : Holds G L K ⟨s, []⟩ :=
  ⟨h, fun _ ht => absurd ht not_mem_nil, fun i _ t _ _ ht => by simp at ht⟩

lemma Holds.set (h : Holds G L K p) (hG : G s) (hL : L t' s)
    (hrest : ∀ (j : Nat) u, j ≠ i → p.threads[j]? = some u → L u s ∧ K t' u ∧ K u t') :
    Holds G L K ⟨s, p.threads.set i t'⟩ := by
  refine ⟨hG, fun u hu => ?_, fun j k u v hne hu hv => ?_⟩
  · obtain ⟨j, hj⟩ := mem_iff_getElem?.mp hu
    rw [getElem?_set] at hj
    split at hj
    · split at hj
      · cases hj
        exact hL
      · cases hj
    · next hji => exact (hrest j u (fun h => hji h.symm) hj).1
  · rw [getElem?_set] at hu hv
    split at hu
    · next hij =>
      split at hu
      · cases hu
        rw [if_neg (hij ▸ hne)] at hv
        exact (hrest k v (fun h => hne (hij ▸ h.symm)) hv).2.1
      · cases hu
    · next hij =>
      split at hv
      · next hik =>
        split at hv
        · cases hv
          exact (hrest j u (fun h => hij h.symm) hu).2.2
        · cases hv
      · exact h.pairs j k u v hne hu hv

lemma Holds.spawn (h : Holds G L K p) (hL : L t p.shared) (hK : ∀ u ∈ p.threads, K t u ∧ K u t) :
    Holds G L K { p with threads := p.threads ++ [t] } := by
  have hget : ∀ {i : Nat} {u : τ}, (p.threads ++ [t])[i]? = some u →
      p.threads[i]? = some u ∨ (i = p.threads.length ∧ u = t) := by
    intro i u hu
    rcases Nat.lt_or_ge i p.threads.length with hi | hi
    · exact .inl (by rwa [getElem?_append_left hi] at hu)
    · rw [getElem?_append_right hi, getElem?_singleton] at hu
      split at hu
      · exact .inr ⟨by omega, (Option.some.inj hu).symm⟩
      · cases hu
  refine ⟨h.shared, fun u hu => ?_, fun i j u v hne hu hv => ?_⟩
  · rcases mem_append.mp hu with hu | hu
    · exact h.each u hu
    · obtain rfl := mem_singleton.mp hu
      exact hL
  · rcases hget hu with hold | ⟨hi, heq⟩
    · rcases hget hv with hold' | ⟨-, heq'⟩
      · exact h.pairs i j u v hne hold hold'
      · exact heq' ▸ (hK u (mem_of_getElem? hold)).2
    · rcases hget hv with hold' | ⟨hj, -⟩
      · exact heq ▸ (hK v (mem_of_getElem? hold')).1
      · exact absurd (hi.trans hj.symm) hne

lemma Holds.crash (h : Holds G L K p)
    (hL : ∀ t, L t p.shared → L (halt t) p.shared) (hK : ∀ t u, K t u → K (halt t) (halt u)) :
    Holds G L K { p with threads := p.threads.map halt } := by
  refine ⟨h.shared, fun u hu => ?_, fun i j u v hne hu hv => ?_⟩
  · obtain ⟨t, ht, rfl⟩ := mem_map.mp hu
    exact hL t (h.each t ht)
  · simp only [getElem?_map] at hu hv
    obtain ⟨t, ht, rfl⟩ := Option.map_eq_some_iff.mp hu
    obtain ⟨t', ht', rfl⟩ := Option.map_eq_some_iff.mp hv
    exact hK t t' (h.pairs i j t t' hne ht ht')

lemma Holds.other (h : Holds G L K p) (hG : G s)
    (hL : ∀ t ∈ p.threads, L t s) : Holds G L K { p with shared := s } :=
  ⟨hG, hL, h.pairs⟩

end Pool

end AgentCore.Foundation
