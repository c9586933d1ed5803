import AgentCore.Foundation.Table

/-! Tables over time. One relation says what may become of a row and one predicate what a
row that appears may be; updates and inserts are judged by them, and so is a whole run. -/

namespace AgentCore.Foundation.Table

variable {ρ κ : Type} {key : ρ → κ}

structure Evolves (R : ρ → ρ → Prop) (New : ρ → Prop) (t t' : Table key) : Prop where
  kept : ∀ r ∈ t, ∃ r' ∈ t', key r' = key r ∧ R r r'
  from_old : ∀ r' ∈ t', (∃ r ∈ t, key r' = key r ∧ R r r') ∨ New r'

variable {R : ρ → ρ → Prop} {New : ρ → Prop} {t t' : Table key}

lemma Evolves.refl (hR : ∀ r, R r r) (t : Table key) : Evolves R New t t :=
  ⟨fun r hr => ⟨r, hr, rfl, hR r⟩, fun r hr => .inl ⟨r, hr, rfl, hR r⟩⟩

lemma Evolves.trans (hR : ∀ {a b c}, R a b → R b c → R a c) (hNew : ∀ {a b}, New a → R a b → New b)
    (h : Evolves R New t t') (h' : Evolves R New t' t'') : Evolves R New t t'' where
  kept r hr := by
    obtain ⟨r', hr', hkey', hrel'⟩ := h.kept r hr
    obtain ⟨r'', hr'', hkey'', hrel''⟩ := h'.kept r' hr'
    exact ⟨r'', hr'', hkey''.trans hkey', hR hrel' hrel''⟩
  from_old r'' hr'' := by
    rcases h'.from_old r'' hr'' with ⟨r', hr', hkey', hrel'⟩ | hnew
    · rcases h.from_old r' hr' with ⟨r, hr, hkey, hrel⟩ | hnew
      · exact .inl ⟨r, hr, hkey'.trans hkey, hR hrel hrel'⟩
      · exact .inr (hNew hnew hrel')
    · exact .inr hnew

lemma Evolves.update (hR : ∀ r, R r r) (t : Table key)
    (hf : ∀ r, key (f r) = key r) (h : ∀ r ∈ t, p r = true → R r (f r)) :
    Evolves R New t (t.update p f hf) := by
  have hrow : ∀ r ∈ t, key (if p r then f r else r) = key r ∧ R r (if p r then f r else r) := by
    intro r hr
    split
    · next hp => exact ⟨hf r, h r hr hp⟩
    · exact ⟨rfl, hR r⟩
  refine ⟨fun r hr => ⟨_, mem_update.mpr ⟨r, hr, rfl⟩, hrow r hr⟩, fun r' hr' => ?_⟩
  obtain ⟨r, hr, rfl⟩ := mem_update.mp hr'
  exact .inl ⟨r, hr, hrow r hr⟩

lemma Evolves.insertOrIgnore [DecidableEq κ] (hR : ∀ r, R r r) (t : Table key)
    (h : New r) : Evolves R New t (t.insertOrIgnore r).1 where
  kept s hs := by
    refine ⟨s, ?_, rfl, hR s⟩
    by_cases hnone : t.find? (key r) = none
    · rw [mem_rows, (insertOrIgnore_changed hnone).2]
      exact List.mem_append_left _ hs
    · rw [insertOrIgnore_ignored hnone]
      exact hs
  from_old s hs := by
    rcases mem_of_mem_insertOrIgnore hs with hs | rfl
    · exact .inl ⟨s, hs, rfl, hR s⟩
    · exact .inr h

lemma Evolves.find? [DecidableEq κ] (h : Evolves R New t t')
    (hr : t.find? k = some r) : ∃ r', t'.find? k = some r' ∧ R r r' := by
  obtain ⟨hmem, rfl⟩ := find?_eq_some.mp hr
  obtain ⟨r', hr', hkey, hrel⟩ := h.kept r hmem
  exact ⟨r', find?_eq_some.mpr ⟨hr', hkey⟩, hrel⟩

lemma Evolves.all {P : ρ → Prop} (h : Evolves R New t t')
    (hkeep : ∀ {r r'}, R r r' → P r → P r') (hnew : ∀ {r}, New r → P r)
    (hP : ∀ r ∈ t, P r) : ∀ r ∈ t', P r := by
  intro r' hr'
  rcases h.from_old r' hr' with ⟨r, hr, -, hrel⟩ | hfresh
  · exact hkeep hrel (hP r hr)
  · exact hnew hfresh

end AgentCore.Foundation.Table
