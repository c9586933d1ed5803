import AgentCore.Foundation.JsonText
import AgentCore.Journal.ComponentSettles

/-! Snapshots of components are addressed by their content: what is stored stays as it is, and
an identifier that was met before stands for the same components. -/

namespace AgentCore.Domain

open Foundation List

variable {components : List RegisteredComponent} {c : RegisteredComponent}

lemma TargetKind.text_injective : Function.Injective TargetKind.text := by
  intro a b h
  cases a <;> cases b <;> first | rfl | exact absurd h (by decide)

lemma ComponentStatus.text_injective : Function.Injective ComponentStatus.text := by
  intro a b h
  cases a <;> cases b <;> first | rfl | exact absurd h (by decide)

section

variable [Platform]

def componentFields (components : List RegisteredComponent) : List (String × Json) :=
  components.map fun c => (c.componentId, c.toJson)

omit [Platform] in
lemma nodup_componentFields (h : (components.map RegisteredComponent.componentId).Nodup) :
    ((componentFields components).map Prod.fst).Nodup := by
  rw [componentFields, map_map]
  exact h

lemma computeComponentSnapshotId_congr (hl : (l.map RegisteredComponent.componentId).Nodup)
    (hl' : (l'.map RegisteredComponent.componentId).Nodup) (h : ∀ c, c ∈ l ↔ c ∈ l') :
    computeComponentSnapshotId l = computeComponentSnapshotId l' := by
  refine congrArg (stableId "component_snap") (Json.mkObj_congr (nodup_componentFields hl)
    (nodup_componentFields hl') fun f => ?_)
  constructor
  · intro hf
    obtain ⟨c, hc, rfl⟩ := mem_map.mp hf
    exact mem_map.mpr ⟨c, (h c).mp hc, rfl⟩
  · intro hf
    obtain ⟨c, hc, rfl⟩ := mem_map.mp hf
    exact mem_map.mpr ⟨c, (h c).mpr hc, rfl⟩

end

end AgentCore.Domain

namespace AgentCore.Journal

open Foundation Registry
open Domain hiding OperationSpec RegistrySnapshot

namespace ComponentTables

variable [Platform] {components : List RegisteredComponent} {t t' : ComponentTables}
  {snapshot : ComponentRegistrySnapshot}

lemma loadSnapshot_eq_ok : t.loadSnapshot snapshotId = .ok snapshot ↔
      ∃ header, (t.snapshots.rows.find? fun r => r.snapshotId = snapshotId) = some header ∧
        computeComponentSnapshotId (t.entriesOf snapshotId) = snapshotId ∧
        snapshot = ⟨snapshotId, header.createdAt, t.entriesOf snapshotId⟩ := by
  unfold loadSnapshot
  cases t.snapshots.rows.find? fun r => r.snapshotId = snapshotId with
  | none => simp
  | some header =>
    constructor
    · intro h
      obtain ⟨hdigest, h⟩ := check_bind_eq_ok.mp h
      exact ⟨header, rfl, require_eq_ok.mp hdigest, (return_eq_ok.mp h).symm⟩
    · rintro ⟨header', heq, hdigest, rfl⟩
      cases heq
      exact check_bind_eq_ok.mpr ⟨require_eq_ok.mpr hdigest, rfl⟩

lemma mem_ids_of_load (h : t.loadSnapshot snapshotId = .ok snapshot) : snapshotId ∈ t.ids := by
  obtain ⟨header, hfind, -, -⟩ := loadSnapshot_eq_ok.mp h
  exact List.mem_map.mpr ⟨header, List.mem_of_find?_eq_some hfind, by simpa using List.find?_some hfind⟩

lemma nodup_load (h : t.loadSnapshot snapshotId = .ok snapshot) :
    (snapshot.components.map RegisteredComponent.componentId).Nodup := by
  obtain ⟨header, -, -, rfl⟩ := loadSnapshot_eq_ok.mp h
  exact nodup_entriesOf t snapshotId

def KeepsSnapshots (t t' : ComponentTables) : Prop :=
  ∀ id snapshot, t.loadSnapshot id = .ok snapshot → t'.loadSnapshot id = .ok snapshot

lemma KeepsSnapshots.refl (t : ComponentTables) : KeepsSnapshots t t := fun _ _ h => h

lemma KeepsSnapshots.trans (h : KeepsSnapshots t t')
    (h' : KeepsSnapshots t' t'') : KeepsSnapshots t t'' := fun id snapshot hload =>
  h' id snapshot (h id snapshot hload)

lemma setState_keepsSnapshots (h : t.setState s = .ok t') :
    KeepsSnapshots t t' ∧ t'.state = some s := by
  unfold setState at h
  split at h
  · cases h
    exact ⟨fun _ _ hload => hload, rfl⟩
  · cases h

omit [Platform] in
lemma insertSnapshot_rows (h : t.insertSnapshot header components = .ok t') :
    t'.snapshots.rows = t.snapshots.rows ++ [header] ∧
      t'.entries.rows = t.entries.rows ++ components.map (ComponentEntryRow.mk header.snapshotId) ∧
      t'.state = t.state ∧ header.snapshotId ∉ t.ids := by
  unfold insertSnapshot at h
  split at h
  · cases h
  · rename_i snapshots hs
    split at h
    · cases h
    · rename_i entries he
      cases h
      refine ⟨SqlTable.insert_eq_some.mp hs, SqlTable.insertAll_eq_some.mp he, rfl, fun hmem => ?_⟩
      obtain ⟨r, hr, hid⟩ := List.mem_map.mp hmem
      have hkeeps := snapshots.keeps.2
      rw [SqlTable.insert_eq_some.mp hs, List.pairwise_append] at hkeeps
      have hapart := hkeeps.2.2 r hr header List.mem_cons_self
      exact hapart _ List.mem_cons_self ⟨Option.some_ne_none _, congrArg some hid⟩

omit [Platform] in
lemma entriesOf_eq_nil {id : String} (hid : id ∉ t.ids) :
    (t.entries.rows.filter fun r => r.snapshotId = id) = [] := by
  refine List.filter_eq_nil_iff.mpr fun r hr hsame => hid ?_
  have hrid : r.snapshotId = id := by simpa using hsame
  exact hrid ▸ t.entries_fk r hr

lemma insertSnapshot_keepsSnapshots (h : t.insertSnapshot header components = .ok t') :
    KeepsSnapshots t t' := by
  intro id snapshot hload
  obtain ⟨hsnapshots, hentries, -, hnew⟩ := insertSnapshot_rows h
  have hne : header.snapshotId ≠ id := fun heq => hnew (heq ▸ mem_ids_of_load hload)
  obtain ⟨found, hfind, hdigest, rfl⟩ := loadSnapshot_eq_ok.mp hload
  have hsame : t'.entriesOf id = t.entriesOf id := by
    have hadded : (components.map (ComponentEntryRow.mk header.snapshotId)).filter
        (fun r => r.snapshotId = id) = [] := by
      refine List.filter_eq_nil_iff.mpr fun r hr hid => ?_
      obtain ⟨c, -, rfl⟩ := List.mem_map.mp hr
      exact hne (by simpa using hid)
    rw [entriesOf, hentries, List.filter_append, hadded, List.append_nil, ← entriesOf]
  refine loadSnapshot_eq_ok.mpr ⟨found, ?_, hsame ▸ hdigest, by rw [hsame]⟩
  rw [hsnapshots, List.find?_append, hfind]
  rfl

omit [Platform] in
lemma insertSnapshot_entriesOf (h : t.insertSnapshot header components = .ok t') :
    t'.entriesOf header.snapshotId = sortBy RegisteredComponent.componentId components := by
  obtain ⟨-, hentries, -, hnew⟩ := insertSnapshot_rows h
  have hadded : (components.map (ComponentEntryRow.mk header.snapshotId)).filter
      (fun r => r.snapshotId = header.snapshotId) =
      components.map (ComponentEntryRow.mk header.snapshotId) := by
    refine List.filter_eq_self.mpr fun r hr => ?_
    obtain ⟨c, -, rfl⟩ := List.mem_map.mp hr
    exact decide_eq_true rfl
  rw [entriesOf, hentries, List.filter_append, entriesOf_eq_nil hnew, hadded, List.nil_append,
    List.map_map]
  congr 1
  exact List.map_id _

lemma persistSnapshot_loads (hids : (components.map RegisteredComponent.componentId).Nodup)
    (h : t.persistSnapshot components now = .ok (target, t')) :
    KeepsSnapshots t t' ∧ target = computeComponentSnapshotId components ∧
      ∃ snapshot, t'.loadSnapshot target = .ok snapshot := by
  unfold persistSnapshot at h
  dsimp only at h
  split at h
  · obtain ⟨snapshot, hload, ⟨⟩⟩ := bind_eq_ok.mp h
    exact ⟨.refl t, rfl, snapshot, hload⟩
  · obtain ⟨t₁, hinsert, h⟩ := bind_eq_ok.mp h
    obtain ⟨rfl, rfl⟩ := Prod.mk.inj (return_eq_ok.mp h)
    refine ⟨insertSnapshot_keepsSnapshots hinsert, rfl, ?_⟩
    obtain ⟨hsnapshots, -, -, hnew⟩ := insertSnapshot_rows hinsert
    have hentries := insertSnapshot_entriesOf hinsert
    rw [sortBy_sortBy] at hentries
    have hfind : ∃ header, (t₁.snapshots.rows.find? fun r =>
        r.snapshotId = computeComponentSnapshotId components) = some header := by
      refine Option.isSome_iff_exists.mp (List.find?_isSome.mpr ?_)
      refine ⟨⟨computeComponentSnapshotId components, now⟩, ?_, by simp⟩
      rw [hsnapshots]
      exact List.mem_append_right _ List.mem_cons_self
    obtain ⟨header, hfind⟩ := hfind
    refine ⟨_, loadSnapshot_eq_ok.mpr ⟨header, hfind, ?_, rfl⟩⟩
    rw [hentries]
    refine computeComponentSnapshotId_congr ?_ hids fun c => mem_sortBy
    exact (((perm_sortBy RegisteredComponent.componentId components).map _).nodup_iff).mpr hids

end ComponentTables

end AgentCore.Journal
