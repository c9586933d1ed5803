import Mathlib.Data.List.Induction

/-! Runs of a deterministic step function over a list of labels. A label that is not
enabled leaves the state alone, so every list of labels is a run, and what holds for all
lists holds for all interleavings. -/

namespace AgentCore.Foundation

variable {σ α : Type*} (step : σ → α → σ)

def run (s : σ) (as : List α) : σ := as.foldl step s

@[simp] lemma run_nil (s : σ) : run step s [] = s := rfl

@[simp] lemma run_cons (s : σ) (a : α) (as : List α) :
    run step s (a :: as) = run step (step s a) as := rfl

lemma run_append (s : σ) (as bs : List α) :
    run step s (as ++ bs) = run step (run step s as) bs := List.foldl_append ..

lemma run_snoc (s : σ) (as : List α) (a : α) :
    run step s (as ++ [a]) = step (run step s as) a := by rw [run_append]; rfl

/-- Every label of the run is taken in a state that meets the condition. -/
def Along (C : σ → α → Prop) : σ → List α → Prop
  | _, [] => True
  | s, a :: as => C s a ∧ Along C (step s a) as

instance Along.decidable (C : σ → α → Prop) [∀ s a, Decidable (C s a)] :
    ∀ s as, Decidable (Along step C s as)
  | _, [] => isTrue trivial
  | s, a :: as =>
    have := Along.decidable C (step s a) as
    inferInstanceAs (Decidable (_ ∧ _))

variable {step} {C : σ → α → Prop} {as : List α} {s : σ} {I : σ → Prop}

lemma along_append :
    Along step C s (as ++ bs) ↔ Along step C s as ∧ Along step C (run step s as) bs := by
  induction as generalizing s with
  | nil => simp [Along]
  | cons a as ih => simp only [List.cons_append, Along, ih, run_cons, and_assoc]

lemma along_of_forall {C : α → Prop} (h : ∀ a ∈ as, C a) : Along step (fun _ a => C a) s as := by
  induction as generalizing s with
  | nil => trivial
  | cons a as ih =>
    exact ⟨h a List.mem_cons_self, ih (fun b hb => h b (List.mem_cons_of_mem _ hb))⟩

lemma along_and (hC : Along step C s as)
    (hD : Along step D s as) : Along step (fun s a => C s a ∧ D s a) s as := by
  induction as generalizing s with
  | nil => trivial
  | cons a as ih => exact ⟨⟨hC.1, hD.1⟩, ih hC.2 hD.2⟩

lemma along_of_prefix
    (h : ∀ bs a cs, as = bs ++ a :: cs → Along step C s bs → C (run step s bs) a) :
    Along step C s as := by
  induction as using List.reverseRecOn with
  | nil => trivial
  | append_singleton as a ih =>
    have has : Along step C s as :=
      ih fun bs b cs heq => h bs b (cs ++ [a]) (by rw [heq]; simp)
    exact along_append.mpr ⟨has, h as a [] rfl has, trivial⟩

lemma Along.invariant (hstep : ∀ s a, I s → C s a → I (step s a))
    (h : Along step C s as) (hs : I s) : I (run step s as) := by
  induction as generalizing s with
  | nil => exact hs
  | cons a as ih => exact ih h.2 (hstep s a hs h.1)

/-- Where exactly the conditioned steps keep a property, it holds in every state of a run
exactly when the whole run is conditioned. -/
lemma forall_prefix_iff_along (hstep : ∀ s a, I s → (I (step s a) ↔ C s a)) (hs : I s) :
    (∀ bs cs, as = bs ++ cs → I (run step s bs)) ↔ Along step C s as := by
  induction as generalizing s with
  | nil => simp [Along, hs]
  | cons a as ih =>
    constructor
    · intro h
      have ha : I (step s a) := h [a] as rfl
      refine ⟨(hstep s a hs).mp ha, (ih ha).mp fun bs cs heq => ?_⟩
      exact h (a :: bs) cs (by rw [heq]; rfl)
    · rintro ⟨hC, hrest⟩ bs cs heq
      cases bs with
      | nil => exact hs
      | cons b bs =>
        obtain ⟨rfl, rfl⟩ := List.cons.inj heq
        exact (ih ((hstep s a hs).mpr hC)).mpr hrest bs cs rfl

lemma run_invariant (hstep : ∀ s a, I s → I (step s a))
    (as : List α) (hs : I s) : I (run step s as) := by
  induction as generalizing s with
  | nil => exact hs
  | cons a as ih => exact ih (hstep s a hs)

def Path {α : Type*} (a : α) : List (α × α) → α → Prop
  | [], b => a = b
  | move :: moves, b => move.1 = a ∧ Path move.2 moves b

lemma Path.snoc {α : Type*} {a b : α} {moves : List (α × α)} (h : Path a moves b) (c : α) :
    Path a (moves ++ [(b, c)]) c := by
  induction moves generalizing a with
  | nil => exact ⟨h.symm, rfl⟩
  | cons move moves ih => exact ⟨h.1, ih h.2⟩

end AgentCore.Foundation
