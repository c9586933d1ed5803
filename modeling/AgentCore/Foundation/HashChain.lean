import Mathlib.Data.List.Induction

/-! Hash chains over rows of any type. A row carries the hash of the row before it and
its own hash, the digest of both that hash and the row's body. The last hash fixes every
body: a chain cannot be altered, cut or extended without changing it. -/

namespace AgentCore.Foundation

open List

/-- How rows are chained. `body` is what the digest covers; a row without one is corrupt. -/
structure ChainScheme (ρ η β : Type*) where
  body : ρ → Option β
  prev : ρ → Option η
  hash : ρ → η
  digest : Option η → β → η

namespace ChainScheme

variable {ρ η β : Type*} (S : ChainScheme ρ η β)

def lastHash (p : Option η) (rs : List ρ) : Option η := (rs.getLast?.map S.hash).or p

@[simp] lemma lastHash_nil (p : Option η) : S.lastHash p [] = p := rfl

@[simp] lemma lastHash_snoc (p : Option η) (rs : List ρ) (r : ρ) :
    S.lastHash p (rs ++ [r]) = some (S.hash r) := by simp [lastHash]

lemma lastHash_cons (p : Option η) (r : ρ) (rs : List ρ) :
    S.lastHash p (r :: rs) = S.lastHash (some (S.hash r)) rs := by
  rcases eq_nil_or_concat rs with rfl | ⟨rs, x, rfl⟩
  · rfl
  · simp [lastHash, getLast?_cons]

variable [DecidableEq η] {rs : List ρ} {p : Option η}

/-- The verifier: one pass with the hash of the row before as its accumulator. -/
def valid : Option η → List ρ → Bool
  | _, [] => true
  | p, r :: rs =>
    match S.body r with
    | none => false
    | some b =>
      if S.prev r ≠ p ∨ S.hash r ≠ S.digest p b then false else valid (some (S.hash r)) rs

lemma valid_cons : S.valid p (r :: rs) = true ↔
      S.prev r = p ∧ (∃ b, S.body r = some b ∧ S.hash r = S.digest p b) ∧
        S.valid (some (S.hash r)) rs = true := by
  rw [valid]
  cases S.body r with
  | none => simp
  | some b => simp [and_assoc]

lemma valid_append : S.valid p (rs ++ ts) = true ↔
      S.valid p rs = true ∧ S.valid (S.lastHash p rs) ts = true := by
  induction rs generalizing p with
  | nil => simp [valid]
  | cons r rs ih =>
    rw [cons_append, valid_cons, valid_cons, ih, lastHash_cons]
    tauto

lemma valid_snoc : S.valid p (rs ++ [r]) = true ↔ S.valid p rs = true ∧ S.prev r = S.lastHash p rs ∧
        ∃ b, S.body r = some b ∧ S.hash r = S.digest (S.lastHash p rs) b := by
  rw [valid_append, valid_cons, valid]
  simp

lemma links_of_valid (h : S.valid none rs = true) :
    (∀ r ∈ rs.head?, S.prev r = none) ∧ rs.IsChain (fun r s => S.prev s = some (S.hash r)) := by
  have key : ∀ p rs, S.valid p rs = true →
      (∀ r ∈ rs.head?, S.prev r = p) ∧ rs.IsChain (fun r s => S.prev s = some (S.hash r)) := by
    intro p rs h
    induction rs generalizing p with
    | nil => simp
    | cons r rs ih =>
      obtain ⟨hprev, -, hrs⟩ := S.valid_cons.mp h
      obtain ⟨hhead, hchain⟩ := ih _ hrs
      refine ⟨by simpa using hprev, ?_⟩
      cases rs with
      | nil => simp
      | cons s rs => exact isChain_cons_cons.mpr ⟨hhead s rfl, hchain⟩
  exact key none rs h

/-- A digest that tells apart what it is given: well-formed hashes `good` and bodies `ok`. -/
structure Binding (good : η → Prop) (ok : β → Prop) : Prop where
  digest_good : ∀ p b, good (S.digest p b)
  inj : ∀ {p q b c}, (∀ h ∈ p, good h) → (∀ h ∈ q, good h) → ok b → ok c →
    S.digest p b = S.digest q c → p = q ∧ b = c

variable {S} {good : η → Prop} {ok : β → Prop}

lemma lastHash_good (hb : S.Binding good ok) (hv : S.valid none rs = true) :
    ∀ h ∈ S.lastHash none rs, good h := by
  intro h hh
  rcases eq_nil_or_concat rs with rfl | ⟨rs, r, rfl⟩
  · cases hh
  · rw [concat_eq_append] at hv hh
    obtain ⟨-, -, b, -, hhash⟩ := S.valid_snoc.mp hv
    rw [lastHash_snoc] at hh
    obtain rfl : S.hash r = h := by simpa using hh
    rw [hhash]
    exact hb.digest_good _ _

/-- The last hash determines the chain: two valid chains that end in the same hash have the
same bodies, row by row. -/
lemma Binding.bodies_eq (hb : S.Binding good ok)
    (hr : S.valid none rs = true) (ht : S.valid none ts = true)
    (hok : ∀ r ∈ rs, ∀ b ∈ S.body r, ok b) (hok' : ∀ t ∈ ts, ∀ b ∈ S.body t, ok b)
    (hlast : rs.getLast?.map S.hash = ts.getLast?.map S.hash) : rs.map S.body = ts.map S.body := by
  -- backward along both chains: equal last hashes give equal last bodies and equal
  -- hashes before them
  induction rs using reverseRecOn generalizing ts with
  | nil =>
    rcases eq_nil_or_concat ts with rfl | ⟨ts, t, rfl⟩
    · rfl
    · simp at hlast
  | append_singleton rs r ih =>
    rcases eq_nil_or_concat ts with rfl | ⟨ts, t, rfl⟩
    · simp at hlast
    · rw [concat_eq_append] at ht hok' hlast ⊢
      obtain ⟨hr, -, b, hbr, hhr⟩ := S.valid_snoc.mp hr
      obtain ⟨ht, -, c, hct, hht⟩ := S.valid_snoc.mp ht
      have hhash : S.hash r = S.hash t := by simpa using hlast
      have hdigest : S.digest (S.lastHash none rs) b = S.digest (S.lastHash none ts) c := by
        rw [← hhr, ← hht, hhash]
      obtain ⟨hprev, rfl⟩ := hb.inj (lastHash_good hb hr) (lastHash_good hb ht)
        (hok r (by simp) b hbr) (hok' t (by simp) c hct) hdigest
      have hinit : rs.map S.body = ts.map S.body := by
        refine ih hr ht (fun x hx => hok x (by simp [hx])) (fun x hx => hok' x (by simp [hx])) ?_
        simpa [lastHash] using hprev
      rw [map_append, map_append, hinit]
      simp [hbr, hct]

/-- A valid chain that has the last hash of another one begins with its bodies. -/
lemma Binding.begins_with (hb : S.Binding good ok)
    (hr : S.valid none rs = true) (ht : S.valid none ts = true)
    (hok : ∀ r ∈ rs, ∀ b ∈ S.body r, ok b) (hok' : ∀ t ∈ ts, ∀ b ∈ S.body t, ok b)
    (hlast : rs.getLast?.map S.hash = some (S.hash t)) (hmem : t ∈ ts) :
    rs.map S.body <+: ts.map S.body := by
  obtain ⟨before, after, rfl⟩ := append_of_mem hmem
  rw [append_cons] at ht hok' ⊢
  have hbodies := hb.bodies_eq hr (S.valid_append.mp ht).1 hok
    (fun x hx => hok' x (mem_append_left after hx)) (by simpa using hlast)
  rw [hbodies]
  exact (prefix_append _ after).map S.body

end ChainScheme

end AgentCore.Foundation
