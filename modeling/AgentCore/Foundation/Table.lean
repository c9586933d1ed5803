import Mathlib.Data.List.Nodup

/-! Relational tables with a unique key. The rows stand in insertion order and the
uniqueness constraint travels with the table, so an insert that would break it cannot
be expressed: it is refused (`insert`) or ignored (`insertOrIgnore`). -/

namespace AgentCore.Foundation

open List

/-- The distinct values of a list, each at its first place: `GROUP BY` over rows in order. -/
def distinct {κ : Type} [DecidableEq κ] (seen : List κ) : List κ → List κ
  | [] => []
  | k :: ks => if k ∈ seen then distinct seen ks else k :: distinct (k :: seen) ks

variable {κ : Type}

lemma distinct_sublist [DecidableEq κ] (seen ks : List κ) : (distinct seen ks).Sublist ks := by
  induction ks generalizing seen with
  | nil => exact List.Sublist.refl _
  | cons k ks ih =>
    rw [distinct]
    split_ifs
    · exact (ih seen).cons k
    · exact (ih (k :: seen)).cons_cons k

lemma mem_distinct [DecidableEq κ] {k : κ} (h : k ∈ ks) (hs : k ∉ seen) : k ∈ distinct seen ks := by
  induction ks generalizing seen with
  | nil => cases h
  | cons k' ks ih =>
    rw [distinct]
    by_cases hk : k = k'
    · subst hk
      rw [if_neg hs]
      exact mem_cons_self
    · have hmem : k ∈ ks := (mem_cons.mp h).resolve_left hk
      split_ifs
      · exact ih hmem hs
      · exact mem_cons_of_mem _ (ih hmem (by simp [hk, hs]))

structure Table {ρ κ : Type} (key : ρ → κ) where
  rows : List ρ
  nodup : (rows.map key).Nodup

namespace Table

variable {ρ κ : Type} {key : ρ → κ} {t t' : Table key} {r : ρ}

def empty : Table key := ⟨[], nodup_nil⟩

instance : Inhabited (Table key) := ⟨empty⟩

instance : Membership ρ (Table key) := ⟨fun t r => r ∈ t.rows⟩

lemma mem_rows : r ∈ t ↔ r ∈ t.rows := Iff.rfl

instance (t : Table key) (P : ρ → Prop) [DecidablePred P] : Decidable (∀ r ∈ t, P r) :=
  inferInstanceAs (Decidable (∀ r ∈ t.rows, P r))

lemma eq_of_mem (h : r ∈ t) (h' : r' ∈ t) (hk : key r = key r') : r = r' :=
  inj_on_of_nodup_map t.nodup h h' hk

lemma eq_of_rows (h : t.rows = t'.rows) : t = t' := by
  cases t
  cases h
  rfl

section Lookup

variable [DecidableEq κ] {p : ρ → Bool}

def find? (t : Table key) (k : κ) : Option ρ := t.rows.find? (fun r => key r = k)

@[simp] lemma find?_empty (k : κ) : (empty : Table key).find? k = none := rfl

lemma find?_eq_some : t.find? k = some r ↔ r ∈ t ∧ key r = k := by
  constructor
  · intro h
    exact ⟨mem_of_find?_eq_some h, by simpa using find?_some h⟩
  · rintro ⟨hr, rfl⟩
    cases hfind : t.find? (key r) with
    | none => exact absurd (find?_eq_none.mp hfind r hr) (by simp)
    | some s =>
      have hs : s ∈ t := mem_of_find?_eq_some hfind
      rw [eq_of_mem hs hr (by simpa using find?_some hfind)]

lemma find?_eq_none : t.find? k = none ↔ ∀ r ∈ t, key r ≠ k := by
  simp [find?, mem_rows]

lemma find?_key (h : t.find? k = some r) : key r = k := (find?_eq_some.mp h).2

lemma find?_of_mem (h : r ∈ t) : t.find? (key r) = some r :=
  find?_eq_some.mpr ⟨h, rfl⟩

omit [DecidableEq κ] in
lemma length_filter_le_one (h : ∀ r ∈ t, p r = true → key r = k) : (t.rows.filter p).length ≤ 1 := by
  have hnodup : ((t.rows.filter p).map key).Nodup :=
    t.nodup.sublist (filter_sublist.map key)
  have hkey : ∀ r ∈ t.rows.filter p, key r = k := by
    intro r hr
    obtain ⟨hmem, hp⟩ := mem_filter.mp hr
    exact h r hmem hp
  match hrows : t.rows.filter p with
  | [] => simp
  | [r] => simp
  | r :: r' :: rest =>
    rw [hrows] at hnodup hkey
    have hne := (nodup_cons.mp hnodup).1
    have heq : key r = key r' := (hkey r (by simp)).trans (hkey r' (by simp)).symm
    simp [heq] at hne

def insert (t : Table key) (r : ρ) : Option (Table key) :=
  if h : ∀ r' ∈ t.rows, key r' ≠ key r then
    some ⟨t.rows ++ [r], by
      rw [map_append, nodup_append]
      refine ⟨t.nodup, by simp, ?_⟩
      intro a ha b hb
      obtain ⟨r', hr', rfl⟩ := mem_map.mp ha
      rw [show b = key r by simpa using hb]
      exact h r' hr'⟩
  else none

lemma insert_eq_some : t.insert r = some t' ↔ t.find? (key r) = none ∧ t'.rows = t.rows ++ [r] := by
  unfold insert
  rw [find?_eq_none]
  split
  · next h =>
    constructor
    · intro h'
      rw [← Option.some.inj h']
      exact ⟨h, rfl⟩
    · rintro ⟨-, h'⟩
      cases t'
      simp_all
  · next h =>
    constructor
    · intro h'
      cases h'
    · rintro ⟨h', -⟩
      exact absurd h' h

lemma insert_of_absent (h : t.find? (key r) = none) :
    ∃ t', t.insert r = some t' ∧ t'.rows = t.rows ++ [r] := by
  have h' : ∀ r' ∈ t.rows, key r' ≠ key r := find?_eq_none.mp h
  exact ⟨_, by rw [insert, dif_pos h'], rfl⟩

lemma find?_insert (h : t.insert r = some t') (k : κ) :
    t'.find? k = if key r = k then some r else t.find? k := by
  obtain ⟨hnone, hrows⟩ := insert_eq_some.mp h
  unfold find? at hnone ⊢
  rw [hrows, find?_append]
  split
  · next hk =>
    subst hk
    rw [hnone]
    simp
  · next hk => simp [hk]

def insertOrIgnore (t : Table key) (r : ρ) : Table key × Nat :=
  match t.insert r with
  | some t' => (t', 1)
  | none => (t, 0)

lemma insertOrIgnore_changed (h : t.find? (key r) = none) :
    (t.insertOrIgnore r).2 = 1 ∧ (t.insertOrIgnore r).1.rows = t.rows ++ [r] := by
  obtain ⟨t', ht', hrows⟩ := insert_of_absent h
  simp [insertOrIgnore, ht', hrows]

lemma insertOrIgnore_ignored (h : t.find? (key r) ≠ none) : t.insertOrIgnore r = (t, 0) := by
  unfold insertOrIgnore
  rcases ht : t.insert r with _ | t'
  · rfl
  · exact absurd (insert_eq_some.mp ht).1 h

lemma mem_of_mem_insertOrIgnore (h : s ∈ (t.insertOrIgnore r).1) : s ∈ t ∨ s = r := by
  by_cases hnone : t.find? (key r) = none
  · rw [mem_rows, (insertOrIgnore_changed hnone).2, mem_append, mem_singleton] at h
    exact h
  · rw [insertOrIgnore_ignored hnone] at h
    exact .inl h

lemma find?_insertOrIgnore (t : Table key) (r : ρ) (k : κ) : (t.insertOrIgnore r).1.find? k =
      if key r = k ∧ t.find? k = none then some r else t.find? k := by
  unfold insertOrIgnore
  rcases ht : t.insert r with _ | t'
  · simp only
    split
    · next h =>
      obtain ⟨rfl, hnone⟩ := h
      obtain ⟨t', ht', -⟩ := insert_of_absent hnone
      rw [ht] at ht'
      cases ht'
    · rfl
  · simp only
    rw [find?_insert ht]
    have hnone := (insert_eq_some.mp ht).1
    by_cases hk : key r = k
    · subst hk
      simp [hnone]
    · simp [hk]

end Lookup

def selectFirst (t : Table key) (p : ρ → Bool) (before : ρ → ρ → Bool) : Option ρ :=
  (t.rows.filter p).foldl
    (fun best r =>
      match best with
      | none => some r
      | some b => if before r b then some r else some b)
    none

lemma selectFirst_eq_some (h : t.selectFirst p before = some r) : r ∈ t ∧ p r = true := by
  have key : ∀ (rs : List ρ) (best : Option ρ), rs.foldl (fun best r =>
        match best with
        | none => some r
        | some b => if before r b then some r else some b) best = some r →
      best = some r ∨ r ∈ rs := by
    intro rs
    induction rs with
    | nil => exact fun best h => .inl h
    | cons x rs ih =>
      intro best h
      rcases ih _ h with hx | hr
      · cases best with
        | none => exact .inr (by simp_all)
        | some b =>
          by_cases hb : before x b = true
          · exact .inr (by simp_all)
          · exact .inl (by simp_all)
      · exact .inr (mem_cons_of_mem _ hr)
  rcases key _ none h with hnone | hr
  · cases hnone
  · exact mem_filter.mp hr

def update (t : Table key) (p : ρ → Bool) (f : ρ → ρ) (hf : ∀ r, key (f r) = key r) :
    Table key where
  rows := t.rows.map (fun r => if p r then f r else r)
  nodup := by
    have : (t.rows.map (fun r => if p r then f r else r)).map key = t.rows.map key := by
      rw [map_map]
      apply map_congr_left
      intro r _
      simp only [Function.comp_apply]
      split
      · exact hf r
      · rfl
    rw [this]
    exact t.nodup

def count (t : Table key) (p : ρ → Bool) : Nat := t.rows.countP p

lemma mem_update : r ∈ t.update p f hf ↔ ∃ r' ∈ t, (if p r' then f r' else r') = r := by
  simp [update, mem_rows]

lemma count_eq_zero : t.count p = 0 ↔ ∀ r ∈ t, p r = false := by
  simp [count, countP_eq_zero, mem_rows]

lemma find?_update [DecidableEq κ] (t : Table key) (p : ρ → Bool) (f : ρ → ρ)
    (hf : ∀ r, key (f r) = key r) (k : κ) :
    (t.update p f hf).find? k = (t.find? k).map (fun r => if p r then f r else r) := by
  have hkey : ∀ r, key (if p r then f r else r) = key r := by
    intro r
    split
    · exact hf r
    · rfl
  rcases h : t.find? k with _ | r
  · rw [Option.map_none, find?_eq_none]
    intro r hr
    obtain ⟨r', hr', rfl⟩ := mem_update.mp hr
    rw [hkey]
    exact find?_eq_none.mp h r' hr'
  · obtain ⟨hr, rfl⟩ := find?_eq_some.mp h
    rw [Option.map_some, find?_eq_some]
    exact ⟨mem_update.mpr ⟨r, hr, rfl⟩, hkey r⟩

end Table

end AgentCore.Foundation
