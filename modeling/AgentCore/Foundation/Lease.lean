import AgentCore.Foundation.Run

/-! Leased work, seen one item at a time: an item is offered, taken by one holder and used
by it, or dropped on the way. A system in which every step moves every item along these
moves uses each item at most once and never offers it again. -/

namespace AgentCore.Foundation.Lease

inductive Stage
  | absent
  | ready
  | held
  | spent
deriving DecidableEq

structure Cell where
  stage : Stage
  calls : Nat

inductive Move : Cell → Cell → Prop
  | stay (c : Cell) : Move c c
  | offer (n : Nat) : Move ⟨.absent, n⟩ ⟨.ready, n⟩
  | take (n : Nat) : Move ⟨.ready, n⟩ ⟨.held, n⟩
  | use (n : Nat) : Move ⟨.held, n⟩ ⟨.spent, n + 1⟩
  | drop (n : Nat) : Move ⟨.held, n⟩ ⟨.spent, n⟩
  | retire (n : Nat) : Move ⟨.ready, n⟩ ⟨.spent, n⟩

/-- Only a spent item has been used, and then once. -/
def Cell.Sound (c : Cell) : Prop := c.calls ≤ if c.stage = .spent then 1 else 0

def Cell.Past (c : Cell) : Prop := c.stage = .held ∨ c.stage = .spent

lemma Cell.Sound.calls_le_one {c : Cell} (h : c.Sound) : c.calls ≤ 1 := by
  unfold Cell.Sound at h
  split_ifs at h <;> omega

variable {c : Cell}

lemma Move.sound (h : Move c c') (hc : c.Sound) : c'.Sound := by
  cases h <;> simp_all [Cell.Sound]

lemma Move.past (h : Move c c') (hc : c.Past) : c'.Past := by
  cases h <;> simp_all [Cell.Past]

section System

variable {σ α ι : Type*} {step : σ → α → σ} {I : σ → Prop} {cell : σ → ι → Cell}

/-- Along a run whose invariant makes every step a move, each item is used at most once. -/
lemma calls_le_one (hI : ∀ s a, I s → I (step s a))
    (hmove : ∀ s a i, I s → Move (cell s i) (cell (step s a) i)) {s : σ} (hs : I s)
    (hcell : ∀ i, (cell s i).Sound) (as : List α) (i : ι) : (cell (run step s as) i).calls ≤ 1 := by
  have h : I (run step s as) ∧ (cell (run step s as) i).Sound :=
    run_invariant (I := fun s => I s ∧ (cell s i).Sound)
      (fun s a h => ⟨hI s a h.1, (hmove s a i h.1).sound h.2⟩) as ⟨hs, hcell i⟩
  exact h.2.calls_le_one

lemma past_run (hI : ∀ s a, I s → I (step s a))
    (hmove : ∀ s a i, I s → Move (cell s i) (cell (step s a) i)) (hs : I s)
    (hpast : (cell s i).Past) (as : List α) : (cell (run step s as) i).Past := by
  have h : I (run step s as) ∧ (cell (run step s as) i).Past :=
    run_invariant (I := fun s => I s ∧ (cell s i).Past)
      (fun s a h => ⟨hI s a h.1, (hmove s a i h.1).past h.2⟩) as ⟨hs, hpast⟩
  exact h.2

end System

end AgentCore.Foundation.Lease
