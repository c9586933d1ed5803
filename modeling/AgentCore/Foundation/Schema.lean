import Mathlib.Data.List.Pairwise
import Mathlib.Data.List.Basic

/-! Relational tables with row checks and any number of uniqueness constraints. A table
carries the proof that its rows keep its schema, so a write that would break it is refused. -/

namespace AgentCore.Foundation

open List

/-- A `UNIQUE` constraint. A row without a key, a `NULL` column, conflicts with no row. -/
structure Unique (ρ : Type) : Type 1 where
  {κ : Type}
  [dec : DecidableEq κ]
  key : ρ → Option κ

namespace Unique

variable {ρ : Type} {u : Unique ρ} {r s : ρ}

def Clash (u : Unique ρ) (r s : ρ) : Prop := u.key r ≠ none ∧ u.key r = u.key s

instance (u : Unique ρ) (r s : ρ) : Decidable (u.Clash r s) :=
  letI := u.dec
  inferInstanceAs (Decidable (_ ∧ _))

lemma Clash.symm (h : u.Clash r s) : u.Clash s r :=
  ⟨h.2 ▸ h.1, h.2.symm⟩

end Unique

structure Schema (ρ : Type) : Type 1 where
  uniques : List (Unique ρ)
  check : ρ → Bool := fun _ => true

namespace Schema

variable {ρ : Type} {f : ρ → ρ} {c : Schema ρ} {rows : List ρ}

def Apart (c : Schema ρ) (r s : ρ) : Prop := ∀ u ∈ c.uniques, ¬ u.Clash r s

instance (c : Schema ρ) (r s : ρ) : Decidable (c.Apart r s) :=
  inferInstanceAs (Decidable (∀ u ∈ c.uniques, ¬ u.Clash r s))

instance (c : Schema ρ) : Std.Symm c.Apart :=
  ⟨fun _ _ h u hu hclash => h u hu hclash.symm⟩

def Keeps (c : Schema ρ) (rows : List ρ) : Prop :=
  (∀ r ∈ rows, c.check r = true) ∧ rows.Pairwise c.Apart

instance (c : Schema ρ) (rows : List ρ) : Decidable (c.Keeps rows) :=
  inferInstanceAs (Decidable (_ ∧ _))

lemma Keeps.of_append (h : c.Keeps (rows ++ more)) : c.Keeps rows :=
  ⟨fun r hr => h.1 r (mem_append_left _ hr), (pairwise_append.mp h.2).1⟩

lemma Keeps.append (h : c.Keeps rows) (hmore : c.Keeps more)
    (hapart : ∀ r ∈ rows, ∀ s ∈ more, c.Apart r s) : c.Keeps (rows ++ more) :=
  ⟨fun r hr => (mem_append.mp hr).elim (h.1 r) (hmore.1 r),
    pairwise_append.mpr ⟨h.2, hmore.2, hapart⟩⟩

lemma Keeps.map (h : c.Keeps rows) (hcheck : ∀ r, c.check r = true → c.check (f r) = true)
    (hkey : ∀ u ∈ c.uniques, ∀ r, u.key (f r) = u.key r ∨ u.key (f r) = none) :
    c.Keeps (rows.map f) := by
  refine ⟨fun r hr => ?_, pairwise_map.mpr (h.2.imp ?_)⟩
  · obtain ⟨s, hs, rfl⟩ := mem_map.mp hr
    exact hcheck s (h.1 s hs)
  · rintro r s hapart u hu ⟨hsome, heq⟩
    have hr := (hkey u hu r).resolve_right hsome
    have hs := (hkey u hu s).resolve_right (heq ▸ hsome)
    exact hapart u hu ⟨hr ▸ hsome, hr ▸ hs ▸ heq⟩

end Schema

structure SqlTable {ρ : Type} (c : Schema ρ) where
  rows : List ρ
  keeps : c.Keeps rows

namespace SqlTable

variable {ρ : Type} {c : Schema ρ} {t t' : SqlTable c} {r : ρ} {p : ρ → Bool}

def empty : SqlTable c := ⟨[], by simp [Schema.Keeps]⟩

instance : Inhabited (SqlTable c) := ⟨empty⟩

instance : Membership ρ (SqlTable c) := ⟨fun t r => r ∈ t.rows⟩

lemma mem_rows : r ∈ t ↔ r ∈ t.rows := Iff.rfl

instance (t : SqlTable c) (P : ρ → Prop) [DecidablePred P] : Decidable (∀ r ∈ t, P r) :=
  inferInstanceAs (Decidable (∀ r ∈ t.rows, P r))

instance (t : SqlTable c) (P : ρ → Prop) [DecidablePred P] : Decidable (∃ r ∈ t, P r) :=
  inferInstanceAs (Decidable (∃ r ∈ t.rows, P r))

@[ext] lemma ext (h : t.rows = u.rows) : t = u := by
  cases t
  cases u
  simpa using h

def ofRows? (rows : List ρ) : Option (SqlTable c) :=
  if h : c.Keeps rows then some ⟨rows, h⟩ else none

lemma ofRows?_eq_some {rows : List ρ} : ofRows? rows = some t ↔ t.rows = rows := by
  unfold ofRows?
  constructor
  · intro h
    split at h
    · rw [← Option.some.inj h]
    · cases h
  · rintro rfl
    rw [dif_pos t.keeps]

def insert (t : SqlTable c) (r : ρ) : Option (SqlTable c) := ofRows? (t.rows ++ [r])

lemma insert_eq_some : t.insert r = some t' ↔ t'.rows = t.rows ++ [r] := ofRows?_eq_some

lemma insert_of_keeps (h : c.Keeps (t.rows ++ [r])) :
    ∃ t', t.insert r = some t' := ⟨⟨_, h⟩, insert_eq_some.mpr rfl⟩

lemma insert_of_apart (hcheck : c.check r = true)
    (h : ∀ s ∈ t, c.Apart s r) : ∃ t', t.insert r = some t' := by
  refine insert_of_keeps (t.keeps.append ⟨?_, pairwise_singleton _ _⟩ ?_)
  · intro s hs
    rw [mem_singleton.mp hs]
    exact hcheck
  · intro s hs r' hr'
    rw [mem_singleton.mp hr']
    exact h s hs

lemma insert_iff : (∃ t', t.insert r = some t') ↔ c.check r = true ∧ ∀ s ∈ t, c.Apart s r := by
  constructor
  · rintro ⟨t', h⟩
    have hkeeps : c.Keeps (t.rows ++ [r]) := insert_eq_some.mp h ▸ t'.keeps
    have hlast : r ∈ t.rows ++ [r] := mem_append_right _ (mem_singleton_self r)
    refine ⟨hkeeps.1 r hlast, fun s hs => ?_⟩
    exact (pairwise_append.mp hkeeps.2).2.2 s hs r (mem_singleton_self r)
  · exact fun ⟨hcheck, hapart⟩ => insert_of_apart hcheck hapart

lemma forall_mem_insert {P : ρ → Prop} (h : t.insert row = some t')
    (ht : ∀ r ∈ t.rows, P r) (hrow : P row) : ∀ r ∈ t'.rows, P r := by
  rw [insert_eq_some.mp h]
  intro r hr
  rcases mem_append.mp hr with hr | hr
  · exact ht r hr
  · rw [mem_singleton.mp hr]
    exact hrow

def insertAll (t : SqlTable c) : List ρ → Option (SqlTable c)
  | [] => some t
  | r :: rows => (t.insert r).bind fun t' => t'.insertAll rows

lemma insertAll_eq_some {rows : List ρ} :
    t.insertAll rows = some t' ↔ t'.rows = t.rows ++ rows := by
  induction rows generalizing t with
  | nil =>
    rw [insertAll, Option.some.injEq, append_nil]
    exact ⟨fun h => h ▸ rfl, fun h => ext h.symm⟩
  | cons r rows ih =>
    rw [insertAll, Option.bind_eq_some_iff]
    constructor
    · rintro ⟨t₁, hinsert, hrest⟩
      rw [ih.mp hrest, insert_eq_some.mp hinsert, append_assoc]
      rfl
    · intro h
      have hkeeps : c.Keeps ((t.rows ++ [r]) ++ rows) := by
        rw [append_assoc]
        exact h ▸ t'.keeps
      obtain ⟨t₁, hinsert⟩ := insert_of_keeps hkeeps.of_append
      refine ⟨t₁, hinsert, ih.mpr ?_⟩
      rw [h, insert_eq_some.mp hinsert, append_assoc]
      rfl

lemma insertAll_of_keeps {rows : List ρ} (h : c.Keeps (t.rows ++ rows)) :
    ∃ t', t.insertAll rows = some t' := ⟨⟨_, h⟩, insertAll_eq_some.mpr rfl⟩

def update (t : SqlTable c) (p : ρ → Bool) (f : ρ → ρ) : Option (SqlTable c) :=
  ofRows? (t.rows.map fun r => if p r then f r else r)

lemma update_eq_some :
    t.update p f = some t' ↔ t'.rows = t.rows.map fun r => if p r then f r else r :=
  ofRows?_eq_some

def count (t : SqlTable c) (p : ρ → Bool) : Nat := t.rows.countP p

def updateOne (t : SqlTable c) (p : ρ → Bool) (f : ρ → ρ) (broken missing : String) :
    Except String (SqlTable c) :=
  match t.update p f with
  | none => .error broken
  | some t' => if t.count p = 1 then .ok t' else .error missing

lemma updateOne_eq_ok : t.updateOne p f broken missing = .ok t' ↔
      t'.rows = (t.rows.map fun r => if p r then f r else r) ∧ t.count p = 1 := by
  unfold updateOne
  constructor
  · intro h
    split at h
    · cases h
    · rename_i t₁ hupdate
      split at h
      · rename_i hcount
        cases h
        exact ⟨update_eq_some.mp hupdate, hcount⟩
      · cases h
  · rintro ⟨hrows, hcount⟩
    rw [update_eq_some.mpr hrows]
    simp [hcount]

lemma count_eq_one (hu : u ∈ c.uniques)
    (hr : r ∈ t) (hp : p r = true) (h : ∀ s ∈ t, p s = true → u.Clash s r) : t.count p = 1 := by
  obtain ⟨before, after, hrows⟩ := append_of_mem (mem_rows.mp hr)
  have hapart := t.keeps.2
  simp only [hrows, pairwise_append, pairwise_cons, mem_cons] at hapart
  obtain ⟨-, ⟨hafter, -⟩, hbefore⟩ := hapart
  have hmem : ∀ s, s ∈ before ∨ s ∈ after → s ∈ t := by
    intro s hs
    rw [mem_rows, hrows]
    rcases hs with hs | hs
    · exact mem_append_left _ hs
    · exact mem_append_right _ (mem_cons_of_mem _ hs)
  have hnone : before.countP p = 0 := countP_eq_zero.mpr fun s hs hps =>
    hbefore s hs r (.inl rfl) u hu (h s (hmem s (.inl hs)) hps)
  have hnone' : after.countP p = 0 := countP_eq_zero.mpr fun s hs hps =>
    hafter s hs u hu (h s (hmem s (.inr hs)) hps).symm
  rw [count, hrows, countP_append, countP_cons, hnone, hnone', hp]
  rfl

lemma eq_of_clash (hu : u ∈ c.uniques) (hr : r ∈ t) (hs : s ∈ t) (h : u.Clash r s) : r = s := by
  by_contra hne
  exact t.keeps.2.forall hr hs hne u hu h

lemma find?_of_clash (hu : u ∈ c.uniques)
    (hr : r ∈ t) (hp : p r = true) (h : ∀ s, p s = true → u.Clash s r) :
    t.rows.find? p = some r := by
  cases hfind : t.rows.find? p with
  | none => exact absurd hp (find?_eq_none.mp hfind r hr)
  | some s =>
    rw [eq_of_clash hu (mem_of_find?_eq_some hfind) hr (h s (find?_some hfind))]

end SqlTable

end AgentCore.Foundation
